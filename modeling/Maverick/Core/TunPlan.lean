import Maverick.Core.Egress
import Maverick.Core.Error
import Maverick.Lib.Bytes
import Maverick.Lib.Check

/-!
# Plans for a TUN device

`maverick_core::tun`: two gates and the planner behind them.  A plan lists the actions
that set a device up and those that take it down again.  How an address is displayed is a
parameter.

* `buildTunRuntimePlanWithPolicy_eq_ok` — what a plan has passed, and what it consists of.
* `default_route_gated` — which plans with a default route need the three flags of the policy;
  `hostBits_pass_gate` — one with host bits does not.
* `TunItem` — what an action sets up, and what a rollback action takes down.
* `tun_rollback_restores` — rollback after any part of a plan.
-/

namespace Maverick

open Lib Lib.Check

/-! ## Route plans -/

structure TunRoute where
  network : IpAddr
  prefixLen : UInt8
  deriving DecidableEq

namespace TunRoute

def validate (route : TunRoute) (field : String) : Except Error Unit :=
  let maxPrefix := match route.network with
    | .v4 _ => 32
    | .v6 _ => 128
  failIf (maxPrefix < route.prefixLen.toNat)
    (.config s!"{field}.prefix_len must be no greater than {maxPrefix}")

def displayCidr (display : IpAddr → String) (route : TunRoute) : String :=
  display route.network ++ "/" ++ toString route.prefixLen.toNat

def isDefaultRoute (route : TunRoute) : Bool :=
  route.network.isUnspecified && route.prefixLen == 0

end TunRoute

structure TunRoutePlan where
  enabled : Bool
  deviceName : String
  includeRoutes : List TunRoute
  excludeRoutes : List TunRoute
  dnsServers : List IpAddr

/-- `u8::is_ascii_alphanumeric`, `-` or `_` -/
def isDeviceNameByte (b : UInt8) : Bool :=
  (48 ≤ b && b ≤ 57) || (65 ≤ b && b ≤ 90) || (97 ≤ b && b ≤ 122) || b == 45 || b == 95

def validateDeviceName (value : String) : Except Error Unit := do
  failIf (utf8 value = [] ∨ 32 < (utf8 value).length)
    (.config "tun device_name must be 1 to 32 characters")
  failIf ((utf8 value).all isDeviceNameByte = false)
    (.config "tun device_name must contain only ASCII letters, digits, '-' or '_'")

def TunRoutePlan.validate (plan : TunRoutePlan) : Except Error Unit := do
  validateDeviceName plan.deviceName
  each (·.validate "include_routes") plan.includeRoutes
  each (·.validate "exclude_routes") plan.excludeRoutes
  failIf (plan.enabled ∧ plan.includeRoutes = [])
    (.config "tun include_routes must not be empty when enabled")

/-! ## The gates -/

inductive TunApplyBlocker where
  | tunDisabled
  | dryRunRequired
  | operatorApprovalRequired
  | approvedHostRequired
  | unsupportedPlatform
  | privilegesRequired
  | proxyVpnConflictCheckRequired
  | rollbackPlanRequired
  deriving DecidableEq

/-- The name that the message of an error shows. -/
def TunApplyBlocker.debug : TunApplyBlocker → String
  | .tunDisabled => "TunDisabled"
  | .dryRunRequired => "DryRunRequired"
  | .operatorApprovalRequired => "OperatorApprovalRequired"
  | .approvedHostRequired => "ApprovedHostRequired"
  | .unsupportedPlatform => "UnsupportedPlatform"
  | .privilegesRequired => "PrivilegesRequired"
  | .proxyVpnConflictCheckRequired => "ProxyVpnConflictCheckRequired"
  | .rollbackPlanRequired => "RollbackPlanRequired"

structure TunApplySafetyContext where
  dryRunCompleted : Bool := false
  operatorApproved : Bool := false
  approvedHost : Bool := false
  platformSupported : Bool := false
  privilegesConfirmed : Bool := false
  proxyVpnConflictChecked : Bool := false
  rollbackPlanWritable : Bool := false

inductive TunProductionPolicyBlocker where
  | routeExclusionPolicyMissing
  | defaultRoutePolicyMissing
  | globalDnsPolicyMissing
  | controlPlaneBypassMissing
  | leakSentryMissing
  deriving DecidableEq

def TunProductionPolicyBlocker.debug : TunProductionPolicyBlocker → String
  | .routeExclusionPolicyMissing => "RouteExclusionPolicyMissing"
  | .defaultRoutePolicyMissing => "DefaultRoutePolicyMissing"
  | .globalDnsPolicyMissing => "GlobalDnsPolicyMissing"
  | .controlPlaneBypassMissing => "ControlPlaneBypassMissing"
  | .leakSentryMissing => "LeakSentryMissing"

structure TunProductionPolicy where
  routeExclusionsReady : Bool := false
  defaultRouteReady : Bool := false
  globalDnsReady : Bool := false
  controlPlaneBypassReady : Bool := false
  leakSentryReady : Bool := false

/-- The decision of a gate; both have this form. -/
structure TunGateDecision (β : Type) where
  allowed : Bool
  blockers : List β

def TunGateDecision.isAllowed {β : Type} (decision : TunGateDecision β) : Bool :=
  decision.allowed && decision.blockers.isEmpty

/-- The decision that follows from what blocks. -/
def TunGateDecision.ofBlockers {β : Type} (blockers : List β) : TunGateDecision β :=
  ⟨blockers.isEmpty, blockers⟩

/-- A check of a gate: the blocker is pushed if the condition holds. -/
def blockIf {β : Type} (c : Bool) (blocker : β) : List β := if c then [blocker] else []

def evaluateTunApplySafety (plan : TunRoutePlan) (context : TunApplySafetyContext) :
    Except Error (TunGateDecision TunApplyBlocker) := do
  plan.validate
  if plan.enabled = false then return ⟨false, [.tunDisabled]⟩
  return .ofBlockers (List.flatten
    [blockIf (!context.dryRunCompleted) .dryRunRequired,
      blockIf (!context.operatorApproved) .operatorApprovalRequired,
      blockIf (!context.approvedHost) .approvedHostRequired,
      blockIf (!context.platformSupported) .unsupportedPlatform,
      blockIf (!context.privilegesConfirmed) .privilegesRequired,
      blockIf (!context.proxyVpnConflictChecked) .proxyVpnConflictCheckRequired,
      blockIf (!context.rollbackPlanWritable) .rollbackPlanRequired])

def evaluateTunProductionPolicy (plan : TunRoutePlan) (policy : TunProductionPolicy) :
    Except Error (TunGateDecision TunProductionPolicyBlocker) := do
  plan.validate
  let defaultRouteRequested := plan.includeRoutes.any TunRoute.isDefaultRoute
  let routeExclusionsRequested := !plan.excludeRoutes.isEmpty
  let dnsRequested := !plan.dnsServers.isEmpty
  return .ofBlockers (List.flatten
    [blockIf (routeExclusionsRequested && !policy.routeExclusionsReady)
        .routeExclusionPolicyMissing,
      blockIf (defaultRouteRequested && !policy.defaultRouteReady) .defaultRoutePolicyMissing,
      blockIf (dnsRequested && !policy.globalDnsReady) .globalDnsPolicyMissing,
      blockIf (defaultRouteRequested && !policy.controlPlaneBypassReady) .controlPlaneBypassMissing,
      blockIf ((defaultRouteRequested || dnsRequested) && !policy.leakSentryReady)
        .leakSentryMissing])

/-! ## The planner -/

inductive TunRuntimeAction where
  | recordRollbackPlan (rollbackActionCount : Nat)
  | createTunDevice (deviceName : String)
  | bringDeviceUp (deviceName : String)
  | preserveRoute (cidr : String)
  | addRoute (cidr deviceName : String)
  | setDnsServers (servers : List String)
  deriving DecidableEq

inductive TunRuntimeRollbackAction where
  | restoreDnsServers
  | restoreRoute (cidr : String)
  | deleteRoute (cidr deviceName : String)
  | deleteTunDevice (deviceName : String)
  deriving DecidableEq

structure TunRuntimePlan where
  deviceName : String
  applyActions : List TunRuntimeAction
  rollbackActions : List TunRuntimeRollbackAction

/-- A gate that does not let a plan pass, with the name it has in the message. -/
def requireAllowed {β : Type} (gate : String) (debug : β → String) (decision : TunGateDecision β) :
    Except Error Unit :=
  failIf (decision.isAllowed = false) (.config ("tun runtime helper blocked by " ++ gate ++
    ": [" ++ ", ".intercalate (decision.blockers.map debug) ++ "]"))

section Planner

variable (display : IpAddr → String)

/-- The rollback actions of `build_tun_runtime_plan_with_policy`. -/
def TunRoutePlan.rollbackActions (plan : TunRoutePlan) : List TunRuntimeRollbackAction :=
  List.flatten
    [if plan.dnsServers = [] then [] else [.restoreDnsServers],
      plan.excludeRoutes.reverse.map fun route => .restoreRoute (route.displayCidr display),
      plan.includeRoutes.reverse.map fun route =>
        .deleteRoute (route.displayCidr display) plan.deviceName,
      [.deleteTunDevice plan.deviceName]]

/-- Its apply actions. -/
def TunRoutePlan.applyActions (plan : TunRoutePlan) : List TunRuntimeAction :=
  List.flatten
    [[.recordRollbackPlan (plan.rollbackActions display).length, .createTunDevice plan.deviceName,
        .bringDeviceUp plan.deviceName],
      plan.excludeRoutes.map fun route => .preserveRoute (route.displayCidr display),
      plan.includeRoutes.map fun route => .addRoute (route.displayCidr display) plan.deviceName,
      if plan.dnsServers = [] then [] else [.setDnsServers (plan.dnsServers.map display)]]

def buildTunRuntimePlanWithPolicy (plan : TunRoutePlan) (context : TunApplySafetyContext)
    (policy : TunProductionPolicy) : Except Error TunRuntimePlan := do
  let decision ← evaluateTunApplySafety plan context
  requireAllowed "safety gate" TunApplyBlocker.debug decision
  let policyDecision ← evaluateTunProductionPolicy plan policy
  requireAllowed "production policy gate" TunProductionPolicyBlocker.debug policyDecision
  return ⟨plan.deviceName, plan.applyActions display, plan.rollbackActions display⟩

end Planner

variable {β : Type}

theorem requireAllowed_ofBlockers {gate : String} {debug : β → String} {blockers : List β} :
    requireAllowed gate debug (.ofBlockers blockers) = .ok () ↔ blockers = [] := by
  simp [requireAllowed, TunGateDecision.isAllowed, TunGateDecision.ofBlockers]

theorem blockIf_eq_nil {c : Bool} {blocker : β} : blockIf c blocker = [] ↔ c = false := by
  cases c <;> simp [blockIf]

section Gates

variable {display : IpAddr → String} {plan : TunRoutePlan} {context : TunApplySafetyContext}
  {policy : TunProductionPolicy} {result : TunRuntimePlan}

/-- The routes of the plan that are default routes have what they need in the policy, and so
have its exclusions and its servers. -/
def TunRoutePlan.PermittedBy (plan : TunRoutePlan) (policy : TunProductionPolicy) : Prop :=
  (plan.excludeRoutes ≠ [] → policy.routeExclusionsReady = true) ∧
    (plan.dnsServers ≠ [] → policy.globalDnsReady = true ∧ policy.leakSentryReady = true) ∧
    (plan.includeRoutes.any TunRoute.isDefaultRoute = true → policy.defaultRouteReady = true ∧
      policy.controlPlaneBypassReady = true ∧ policy.leakSentryReady = true)

theorem evaluateTunApplySafety_allowed {gate : String} {debug : TunApplyBlocker → String} :
    (∃ decision, evaluateTunApplySafety plan context = .ok decision ∧
      requireAllowed gate debug decision = .ok ()) ↔
    plan.validate = .ok () ∧ plan.enabled = true ∧
      context = ⟨true, true, true, true, true, true, true⟩ := by
  simp only [evaluateTunApplySafety, seq_eq_ok]
  cases plan.enabled with
  | false => simp [requireAllowed, TunGateDecision.isAllowed, pure, Except.pure]
  | true =>
    simp only [Bool.true_eq_false, if_false, pure, Except.pure, Except.ok.injEq, and_assoc,
      exists_and_left, exists_eq_left', requireAllowed_ofBlockers, List.flatten_eq_nil_iff,
      List.forall_mem_cons, blockIf_eq_nil, Bool.not_eq_false', true_and]
    obtain ⟨_, _, _, _, _, _, _⟩ := context
    simp

theorem evaluateTunProductionPolicy_allowed {gate : String}
    {debug : TunProductionPolicyBlocker → String} :
    (∃ decision, evaluateTunProductionPolicy plan policy = .ok decision ∧
      requireAllowed gate debug decision = .ok ()) ↔
    plan.validate = .ok () ∧ plan.PermittedBy policy := by
  simp only [evaluateTunProductionPolicy, seq_eq_ok, pure, Except.pure, Except.ok.injEq, and_assoc,
    exists_and_left, exists_eq_left', requireAllowed_ofBlockers, List.flatten_eq_nil_iff,
    List.forall_mem_cons, blockIf_eq_nil, TunRoutePlan.PermittedBy]
  refine and_congr_right fun _ => ?_
  cases plan.includeRoutes.any TunRoute.isDefaultRoute <;> cases plan.excludeRoutes <;>
    cases plan.dnsServers <;> simp <;> tauto

/-- What a plan has passed, and what it consists of. -/
theorem buildTunRuntimePlanWithPolicy_eq_ok :
    buildTunRuntimePlanWithPolicy display plan context policy = .ok result ↔
      plan.validate = .ok () ∧ plan.enabled = true ∧
      context = ⟨true, true, true, true, true, true, true⟩ ∧ plan.PermittedBy policy ∧
      result = ⟨plan.deviceName, plan.applyActions display, plan.rollbackActions display⟩ := by
  rw [buildTunRuntimePlanWithPolicy, bind_eq_ok]
  constructor
  · rintro ⟨decision, hsafety, h⟩
    rw [seq_eq_ok, bind_eq_ok] at h
    obtain ⟨hallowed, policyDecision, hpolicy, h⟩ := h
    rw [seq_eq_ok] at h
    obtain ⟨hvalid, henabled, hcontext⟩ :=
      evaluateTunApplySafety_allowed.mp ⟨decision, hsafety, hallowed⟩
    have hpermitted := (evaluateTunProductionPolicy_allowed.mp ⟨policyDecision, hpolicy, h.1⟩).2
    exact ⟨hvalid, henabled, hcontext, hpermitted, (Except.ok.inj h.2).symm⟩
  · rintro ⟨hvalid, henabled, hcontext, hpermitted, rfl⟩
    obtain ⟨decision, hsafety, hallowed⟩ :=
      evaluateTunApplySafety_allowed.mpr ⟨hvalid, henabled, hcontext⟩
    obtain ⟨policyDecision, hpolicy, hpoliced⟩ :=
      evaluateTunProductionPolicy_allowed.mpr ⟨hvalid, hpermitted⟩
    refine ⟨decision, hsafety, seq_eq_ok.mpr ⟨hallowed, bind_eq_ok.mpr ⟨_, hpolicy, ?_⟩⟩⟩
    exact seq_eq_ok.mpr ⟨hpoliced, rfl⟩

/-- **When a route to everything is gated**: if the plan can be carried out at all, one of its
routes to everything is written with the unspecified network. -/
theorem default_route_gated (display : IpAddr → String) (plan : TunRoutePlan) :
    (∀ context policy result,
      buildTunRuntimePlanWithPolicy display plan context policy = .ok result →
      (∃ route ∈ plan.includeRoutes, route.prefixLen = 0) →
        policy.defaultRouteReady = true ∧ policy.controlPlaneBypassReady = true ∧
          policy.leakSentryReady = true) ↔
    (plan.enabled = true → plan.validate = .ok () →
      (∃ route ∈ plan.includeRoutes, route.prefixLen = 0) →
        ∃ route ∈ plan.includeRoutes,
          route.prefixLen = 0 ∧ route.network.isUnspecified = true) := by
  have hdefault : plan.includeRoutes.any TunRoute.isDefaultRoute = true ↔
      ∃ route ∈ plan.includeRoutes, route.prefixLen = 0 ∧ route.network.isUnspecified = true := by
    simp [TunRoute.isDefaultRoute, and_comm]
  rw [← hdefault]
  constructor
  · intro hgated henabled hvalid hroute
    by_contra hnone
    -- everything is ready but the default route
    have hpermitted : plan.PermittedBy ⟨true, false, true, false, true⟩ :=
      ⟨fun _ => rfl, fun _ => ⟨rfl, rfl⟩, fun hany => absurd hany hnone⟩
    have hflags := hgated _ _ _
      (buildTunRuntimePlanWithPolicy_eq_ok.mpr ⟨hvalid, henabled, rfl, hpermitted, rfl⟩) hroute
    cases hflags.1
  · intro hany context policy result h hroute
    obtain ⟨hvalid, henabled, -, hpermitted, -⟩ := buildTunRuntimePlanWithPolicy_eq_ok.mp h
    exact hpermitted.2.2 (hany henabled hvalid hroute)

end Gates

/-! Plans for everything, with and without host bits. -/

namespace WholeRoute

def context : TunApplySafetyContext := ⟨true, true, true, true, true, true, true⟩

def hostBits : TunRoute := ⟨.v4 ⟨10, 0, 0, 0⟩, 0⟩

def plan (others : List TunRoute) : TunRoutePlan :=
  ⟨true, "maverick0", hostBits :: others, [], []⟩

/-- The same with a network that keeps its route and a server for names. -/
def resolving : TunRoutePlan :=
  { plan [⟨.v4 ⟨172, 16, 0, 0⟩, 12⟩] with
    excludeRoutes := [⟨.v4 ⟨192, 168, 0, 0⟩, 16⟩]
    dnsServers := [.v4 ⟨192, 0, 2, 53⟩] }

def display : IpAddr → String
  | .v4 ip => ".".intercalate ([ip.first, ip.second, ip.third, ip.fourth].map toString)
  | .v6 _ => "::"

end WholeRoute

/-- A plan with both spellings is carried out only with the flags. -/
theorem default_route_gated_both :
    ∀ policy result, buildTunRuntimePlanWithPolicy WholeRoute.display
        (WholeRoute.plan [⟨.v4 ⟨0, 0, 0, 0⟩, 0⟩]) WholeRoute.context policy = .ok result →
      policy.defaultRouteReady = true ∧ policy.controlPlaneBypassReady = true ∧
        policy.leakSentryReady = true := by
  have hgated := (default_route_gated WholeRoute.display
    (WholeRoute.plan [⟨.v4 ⟨0, 0, 0, 0⟩, 0⟩])).mpr fun _ _ _ => by decide
  exact fun policy result h => hgated _ policy result h ⟨_, List.mem_cons_self, rfl⟩

/-- **Host bits pass the gate**: `10.0.0.0/0` is planned without any flag of the policy. -/
theorem hostBits_pass_gate :
    ∃ result, buildTunRuntimePlanWithPolicy WholeRoute.display (WholeRoute.plan [])
        WholeRoute.context {} = .ok result ∧
      (∃ route ∈ (WholeRoute.plan []).includeRoutes, route.prefixLen = 0) ∧
      ({} : TunProductionPolicy).defaultRouteReady = false :=
  ⟨_, rfl, ⟨_, List.mem_singleton_self _, rfl⟩, rfl⟩

/-! ## Rollback -/

/-- What a plan can set up. -/
inductive TunItem where
  | device (name : String)
  | route (cidr deviceName : String)
  | preserved (cidr : String)
  | dnsOverride
  deriving DecidableEq

/-- What an action sets up, if anything. -/
def TunRuntimeAction.item : TunRuntimeAction → Option TunItem
  | .recordRollbackPlan _ | .bringDeviceUp _ => none
  | .createTunDevice deviceName => some (.device deviceName)
  | .preserveRoute cidr => some (.preserved cidr)
  | .addRoute cidr deviceName => some (.route cidr deviceName)
  | .setDnsServers _ => some .dnsOverride

/-- What a rollback action takes down. -/
def TunRuntimeRollbackAction.item : TunRuntimeRollbackAction → TunItem
  | .restoreDnsServers => .dnsOverride
  | .restoreRoute cidr => .preserved cidr
  | .deleteRoute cidr deviceName => .route cidr deviceName
  | .deleteTunDevice deviceName => .device deviceName

/-- What is set up on a host: devices, device routes, preserved routes and the override. -/
abbrev TunState := Finset TunItem

def TunState.execute (s : TunState) (action : TunRuntimeAction) : TunState :=
  match action.item with
  | none => s
  | some item => insert item s

def TunState.undo (s : TunState) (action : TunRuntimeRollbackAction) : TunState :=
  s.erase action.item

variable {s : TunState} {x : TunItem}

theorem TunState.mem_foldl_execute {actions : List TunRuntimeAction} :
    x ∈ actions.foldl TunState.execute s ↔ x ∈ s ∨ ∃ action ∈ actions, action.item = some x := by
  induction actions generalizing s with
  | nil => simp
  | cons action actions ih =>
    rw [List.foldl_cons, ih, TunState.execute]
    cases hitem : action.item with
    | none => simp [hitem]
    | some item => simp [hitem, or_assoc, or_left_comm, eq_comm]

theorem TunState.mem_foldl_undo {actions : List TunRuntimeRollbackAction} :
    x ∈ actions.foldl TunState.undo s ↔ x ∈ s ∧ ∀ action ∈ actions, action.item ≠ x := by
  induction actions generalizing s with
  | nil => simp
  | cons action actions ih =>
    rw [List.foldl_cons, ih, TunState.undo, Finset.mem_erase, List.forall_mem_cons]
    tauto

/-- The rollback actions take down exactly what the apply actions set up. -/
theorem TunRoutePlan.item_iff (display : IpAddr → String) (plan : TunRoutePlan) (x : TunItem) :
    (∃ action ∈ plan.applyActions display, action.item = some x) ↔
      ∃ action ∈ plan.rollbackActions display, action.item = x := by
  have hswap {a b c d : Prop} : a ∨ b ∨ c ∨ d ↔ d ∨ b ∨ c ∨ a := by tauto
  by_cases hdns : plan.dnsServers = []
  · simpa [applyActions, rollbackActions, hdns, or_and_right, exists_or, TunRuntimeAction.item,
      TunRuntimeRollbackAction.item] using or_rotate
  · simpa [applyActions, rollbackActions, hdns, or_and_right, exists_or, TunRuntimeAction.item,
      TunRuntimeRollbackAction.item] using hswap

/-- No route is added before the device is up and the other routes are preserved. -/
theorem TunRoutePlan.pairwise_applyActions (display : IpAddr → String) (plan : TunRoutePlan) :
    (plan.applyActions display).Pairwise fun earlier later => ∀ cidr deviceName,
      earlier = .addRoute cidr deviceName →
        (∀ cidr, later ≠ .preserveRoute cidr) ∧ ∀ name, later ≠ .bringDeviceUp name := by
  have hany {l : List TunRoute} : l.Pairwise fun _ _ => True := List.pairwise_of_forall (by simp)
  by_cases hdns : plan.dnsServers = [] <;>
    simp [applyActions, hdns, List.pairwise_append, List.pairwise_map, hany]

/-- **Rollback undoes any part of a plan.** -/
theorem tun_rollback_restores (display : IpAddr → String) (plan : TunRoutePlan)
    (context : TunApplySafetyContext) (policy : TunProductionPolicy) (result : TunRuntimePlan)
    (h : buildTunRuntimePlanWithPolicy display plan context policy = .ok result) :
    (∀ s : TunState, (∀ action ∈ result.applyActions, ∀ item ∈ action.item, item ∉ s) →
      ∀ executed, executed <+: result.applyActions →
        result.rollbackActions.foldl .undo (executed.foldl .execute s) = s) ∧
    result.applyActions.head? = some (.recordRollbackPlan result.rollbackActions.length) ∧
    result.applyActions.Pairwise fun earlier later => ∀ cidr deviceName,
      earlier = .addRoute cidr deviceName →
        (∀ cidr, later ≠ .preserveRoute cidr) ∧ ∀ name, later ≠ .bringDeviceUp name := by
  obtain ⟨-, -, -, -, rfl⟩ := buildTunRuntimePlanWithPolicy_eq_ok.mp h
  dsimp only
  refine ⟨fun s hfree executed hexecuted => ?_, rfl, plan.pairwise_applyActions display⟩
  ext x
  rw [TunState.mem_foldl_undo, TunState.mem_foldl_execute]
  constructor
  · rintro ⟨hs | ⟨action, haction, hitem⟩, hkept⟩
    · exact hs
    obtain ⟨undone, hundone, heq⟩ :=
      (plan.item_iff display x).mp ⟨action, hexecuted.subset haction, hitem⟩
    exact absurd heq (hkept undone hundone)
  · refine fun hs => ⟨.inl hs, fun undone hundone heq => ?_⟩
    obtain ⟨action, haction, hitem⟩ := (plan.item_iff display x).mpr ⟨undone, hundone, heq⟩
    exact hfree action haction x hitem hs

/-- A plan that is cut off between its two routes. -/
theorem tun_rollback_restores_resolving :
    ∃ result, buildTunRuntimePlanWithPolicy WholeRoute.display WholeRoute.resolving
        WholeRoute.context ⟨true, false, true, false, true⟩ = .ok result ∧
      (result.applyActions.take 5).getLast? = some (.addRoute "10.0.0.0/0" "maverick0") ∧
      result.rollbackActions.foldl .undo ((result.applyActions.take 5).foldl .execute
        ({.device "tun0"} : TunState)) = {.device "tun0"} := by
  have hpermitted : WholeRoute.resolving.PermittedBy ⟨true, false, true, false, true⟩ :=
    ⟨fun _ => rfl, fun _ => ⟨rfl, rfl⟩, by decide⟩
  have hbuild : buildTunRuntimePlanWithPolicy WholeRoute.display WholeRoute.resolving
      WholeRoute.context ⟨true, false, true, false, true⟩ = .ok _ :=
    buildTunRuntimePlanWithPolicy_eq_ok.mpr ⟨by decide, rfl, rfl, hpermitted, rfl⟩
  refine ⟨_, hbuild, by decide +kernel, ?_⟩
  refine (tun_rollback_restores _ _ _ _ _ hbuild).1 _ ?_ _ (List.take_prefix _ _)
  decide +kernel

end Maverick
