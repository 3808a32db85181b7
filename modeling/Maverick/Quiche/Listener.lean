import Maverick.Core.Egress
import Maverick.Lib.Bytes
import Maverick.Lib.System
import Maverick.Lib.Table
import Maverick.Lib.Total

/-!
# The HTTP/3 listener

`serve` gives every datagram to the connection that its destination ID names, opens a
connection for an Initial packet that names none, and tidies the table of routes when the
task of a connection is joined.

* `datagram`, `join` — the two branches of the loop that touch the table.
* `Kept` — a route is in the table, and no task that is still to be joined can remove it.
* `leads_effect` — a kept route stays kept as long as its connection runs.
* `tasks_le`, `runningFrom_le` — the two limits, with fresh source IDs.
* `routes_kept` — the routes of a running connection, where no connection is opened under an
  ID of one whose task is still to be joined.
-/

namespace Maverick
namespace Quiche

open Lib

/-! ## The state -/

def MAX_UDP : Nat := 1350
def PACKET_QUEUE : Nat := 64

/-- What `serve` reads of a packet's header. -/
structure PacketHeader where
  dcid : Bytes
  /-- the type is `Initial` -/
  initial : Bool
  versionSupported : Bool
  deriving DecidableEq

structure Route where
  peer : SocketAddr
  /-- the connection whose queue the sender leads to -/
  packets : Nat
  primary : Bool
  deriving DecidableEq

/-- The task of a connection. -/
inductive ConnectionTask where
  | running
  /-- It has dropped its end of the packet queue and can be joined.  A task that has
  panicked or was cancelled does not return its IDs. -/
  | ended (panicked : Bool)
  | joined
  deriving DecidableEq

structure Connection where
  peer : SocketAddr
  destination : Bytes
  source : Bytes
  packets : List Bytes
  task : ConnectionTask
  deriving DecidableEq

structure ServeOptions where
  maxConnections : Nat
  maxConnectionsPerSource : Nat

inductive ListenerPhase where
  | serving
  /-- the loop is left, and the tasks are joined -/
  | stopping
  | returned (result : Except String Unit)
  deriving DecidableEq

def ListenerPhase.isReturned : ListenerPhase → Bool
  | .returned _ => true
  | _ => false

/-- The table of routes, and every connection there has been. -/
structure Listener where
  routes : Table Bytes Route
  connections : List Connection
  phase : ListenerPhase

namespace Listener

def start : Listener := ⟨∅, [], .serving⟩

/-- `tasks.len()` -/
def tasks (s : Listener) : Nat := s.connections.countP fun c => c.task ≠ .joined

/-- The connections of an address whose tasks are running. -/
def runningFrom (s : Listener) (ip : IpAddr) : Nat :=
  s.connections.countP fun c => c.task = .running ∧ c.peer.ip = ip

/-- `route.packets.is_closed()` -/
def isClosed (s : Listener) (i : Nat) : Bool := (s.connections[i]?.map (·.task)) ≠ some .running

def setConnection (s : Listener) (i : Nat) (c : Connection) : Listener :=
  { s with connections := s.connections.set i c }

@[simp] theorem setConnection_routes (s : Listener) (i : Nat) (c : Connection) :
    (s.setConnection i c).routes = s.routes := rfl

/-! ## The loop -/

/-- `try_send`: a queue that is full or gone drops the packet. -/
def trySend (s : Listener) (i : Nat) (packet : Bytes) : Listener :=
  match s.connections[i]? with
  | none => s
  | some c =>
    if c.task = .running ∧ c.packets.length < PACKET_QUEUE then
      s.setConnection i { c with packets := c.packets ++ [packet] }
    else s

/-- What the environment answers while a connection is set up: the semaphore, the random
numbers, and quiche. -/
structure Setup where
  admitted : Bool
  id : Option Bytes
  accepted : Bool
  received : Bool
  deriving DecidableEq

/-- Both routes and the task of a new connection. -/
def accept (s : Listener) (peer : SocketAddr) (destination source : Bytes) : Listener :=
  { s with
    routes := (s.routes.insert destination ⟨peer, s.connections.length, false⟩).insert source
      ⟨peer, s.connections.length, true⟩
    connections := s.connections ++ [⟨peer, destination, source, [], .running⟩] }

/-- `serve` returns, and its table and its handles are gone. -/
def leave (s : Listener) (result : Except String Unit) : Listener :=
  { s with routes := ∅, phase := .returned result }

/-- A packet that opens a connection nowhere. -/
def refuses (options : ServeOptions) (s : Listener) (peer : SocketAddr)
    (header : PacketHeader) : Bool :=
  !header.initial || !header.versionSupported || options.maxConnections ≤ s.tasks ||
    options.maxConnectionsPerSource ≤
      s.routes.countP fun route => route.primary ∧ route.peer.ip = peer.ip

def datagram (options : ServeOptions) (s : Listener) (packet : Bytes) (peer : SocketAddr)
    (header : Option PacketHeader) (setup : Setup) : Listener :=
  if MAX_UDP < packet.length then s
  else
    match header with
    | none => s
    | some header =>
      match s.routes.lookup header.dcid with
      | some route => if route.peer = peer then s.trySend route.packets packet else s
      | none =>
        if s.refuses options peer header then s
        else if setup.admitted = false then s
        else
          match setup.id with
          | none => s.leave (.error "generate QUIC connection ID")
          | some source =>
            if (s.routes.lookup source).isSome then s
            else if setup.accepted = false then s
            else if setup.received = false then s
            else s.accept peer header.dcid source

/-- A task is joined: its own routes go, and every route to a queue that is gone. -/
def join (s : Listener) (i : Nat) (c : Connection) (panicked : Bool) : Listener :=
  let s := s.setConnection i { c with task := .joined }
  let routes := if panicked then s.routes else (s.routes.erase c.destination).erase c.source
  { s with
    routes := routes.retain fun _ route => if s.isClosed route.packets then none else some route }

inductive Action where
  /-- `stop`, or the receiver of the connections is gone -/
  | stop
  | join (i : Nat)
  | datagram (packet : Bytes) (peer : SocketAddr) (header : Option PacketHeader) (setup : Setup)
  | recvFailed (text : String)
  /-- all tasks are joined after the loop -/
  | finish
  | taskEnds (i : Nat) (panicked : Bool)
  | taskReceives (i : Nat)
  deriving DecidableEq

def next (options : ServeOptions) (s : Listener) : Action → Option Listener
  | .stop => if s.phase = .serving then some { s with phase := .stopping } else none
  | .join i =>
    match s.connections[i]? with
    | none => none
    | some c =>
      match c.task, s.phase with
      | .ended panicked, .serving => some (s.join i c panicked)
      | .ended _, .stopping => some (s.setConnection i { c with task := .joined })
      | _, _ => none
  | .datagram packet peer header setup =>
    if s.phase = .serving then some (s.datagram options packet peer header setup) else none
  | .recvFailed text => if s.phase = .serving then some (s.leave (.error text)) else none
  | .finish => if s.phase = .stopping ∧ s.tasks = 0 then some (s.leave (.ok ())) else none
  | .taskEnds i panicked =>
    match s.connections[i]? with
    | none => none
    | some c =>
      if c.task = .running then
        some (s.setConnection i { c with task := .ended panicked, packets := [] })
      else none
  | .taskReceives i =>
    match s.connections[i]? with
    | none => none
    | some c =>
      match c.packets with
      | [] => none
      | _ :: rest => some (s.setConnection i { c with packets := rest })

def system (options : ServeOptions) : System Listener Action where
  start := start
  next := next options

/-! ## What a step can do -/

variable {options : ServeOptions} {s s' : Listener} {action : Action}

/-- What becomes of a connection that is there. -/
structure Ages (c c' : Connection) : Prop where
  peer : c'.peer = c.peer
  destination : c'.destination = c.destination
  source : c'.source = c.source
  running : c'.task = .running → c.task = .running
  joined : c'.task ≠ .joined → c.task ≠ .joined

/-- The branches, with the conditions under which they are taken. -/
inductive Effect (options : ServeOptions) (s : Listener) : Action → Listener → Prop where
  | quiet {action : Action} : Effect options s action s
  | stopping {action : Action} : s.phase = .serving →
      Effect options s action { s with phase := .stopping }
  | left {action : Action} (result : Except String Unit) :
      Effect options s action (s.leave result)
  | aged {action : Action} {i : Nat} {c c' : Connection} : s.connections[i]? = some c →
      Ages c c' → Effect options s action (s.setConnection i c')
  | joined {action : Action} {i : Nat} {c : Connection} {panicked : Bool} :
      s.connections[i]? = some c → c.task = .ended panicked →
      Effect options s action (s.join i c panicked)
  | accepted {packet : Bytes} {peer : SocketAddr} {header : PacketHeader} {setup : Setup}
      {source : Bytes} : s.phase = .serving → s.routes.lookup header.dcid = none →
      s.refuses options peer header = false → setup.id = some source →
      s.routes.lookup source = none →
      Effect options s (.datagram packet peer (some header) setup)
        (s.accept peer header.dcid source)

theorem effect_trySend (i : Nat) (packet : Bytes) :
    Effect options s action (s.trySend i packet) := by
  unfold trySend
  split
  · exact .quiet
  rename_i c hc
  split
  · exact .aged hc ⟨rfl, rfl, rfl, id, id⟩
  · exact .quiet

theorem effect_datagram (packet : Bytes) (peer : SocketAddr) (header : Option PacketHeader)
    (setup : Setup) (hphase : s.phase = .serving) :
    Effect options s (.datagram packet peer header setup)
      (s.datagram options packet peer header setup) := by
  unfold datagram
  split
  · exact .quiet
  · split
    · exact .quiet
    · split
      · split
        · exact effect_trySend _ _
        · exact .quiet
      · rename_i hroute
        split
        · exact .quiet
        · rename_i hrefuses
          split
          · exact .quiet
          split
          · exact .left _
          rename_i source hid
          split
          · exact .quiet
          rename_i hsource
          split
          · exact .quiet
          split
          · exact .quiet
          · exact .accepted hphase hroute (Bool.not_eq_true _ ▸ hrefuses) hid
              (Option.not_isSome_iff_eq_none.mp hsource)

/-- **Every step is one of these.** -/
theorem next_effect (h : s.next options action = some s') : Effect options s action s' := by
  cases action with
  | stop =>
    obtain ⟨hphase, h⟩ := Option.ite_none_right_eq_some.mp h
    cases h
    exact .stopping hphase
  | join i =>
    simp only [next] at h
    split at h
    · cases h
    rename_i c hc
    split at h
    · cases h
      exact .joined hc ‹_›
    · rename_i htask _
      cases h
      refine .aged hc ⟨rfl, rfl, rfl, nofun, ?_⟩
      rw [htask]
      nofun
    · cases h
  | datagram packet peer header setup =>
    obtain ⟨hphase, h⟩ := Option.ite_none_right_eq_some.mp h
    cases h
    exact effect_datagram packet peer header setup hphase
  | recvFailed text | finish =>
    obtain ⟨-, h⟩ := Option.ite_none_right_eq_some.mp h
    cases h
    exact .left _
  | taskEnds i panicked =>
    simp only [next] at h
    split at h
    · cases h
    rename_i c hc
    obtain ⟨htask, h⟩ := Option.ite_none_right_eq_some.mp h
    cases h
    refine .aged hc ⟨rfl, rfl, rfl, nofun, fun _ => ?_⟩
    rw [htask]
    nofun
  | taskReceives i =>
    simp only [next] at h
    split at h
    · cases h
    rename_i c hc
    split at h
    · cases h
    · cases h
      exact .aged hc ⟨rfl, rfl, rfl, id, id⟩

variable {i : Nat} {c : Connection} {peer : SocketAddr}

theorem getElem?_setConnection {j : Nat} {c' d : Connection} (hi : s.connections[i]? = some c)
    (h : (s.setConnection i c').connections[j]? = some d) :
    (j = i ∧ d = c') ∨ (j ≠ i ∧ s.connections[j]? = some d) := by
  rw [setConnection, List.getElem?_set] at h
  obtain ⟨hlt, -⟩ := List.getElem?_eq_some_iff.mp hi
  by_cases hij : i = j
  · subst hij
    rw [if_pos rfl, if_pos hlt] at h
    exact .inl ⟨rfl, (Option.some.inj h).symm⟩
  · rw [if_neg hij] at h
    exact .inr ⟨Ne.symm hij, h⟩

theorem getElem?_accept {destination source : Bytes}
    (h : (s.accept peer destination source).connections[i]? = some c) :
    (i = s.connections.length ∧ c = ⟨peer, destination, source, [], .running⟩) ∨
      s.connections[i]? = some c := by
  rcases Nat.lt_trichotomy i s.connections.length with hlt | rfl | hgt
  · rw [accept, List.getElem?_append_left hlt] at h
    exact .inr h
  · rw [accept, List.getElem?_concat_length] at h
    exact .inl ⟨rfl, (Option.some.inj h).symm⟩
  · rw [accept, List.getElem?_eq_none (by simp; omega)] at h
    cases h

/-! ## Counting connections -/

/-- A number of connections that does not grow with their age grows only where one is
opened. -/
theorem countP_effect {p : Connection → Bool}
    (hp : ∀ c c', Ages c c' → p c' = true → p c = true) (heffect : Effect options s action s') :
    s'.connections.countP p ≤ s.connections.countP p ∨
      ∃ peer header source, s.phase = .serving ∧ s.refuses options peer header = false ∧
        s' = s.accept peer header.dcid source := by
  have hset : ∀ {i : Nat} {c c' : Connection}, s.connections[i]? = some c → Ages c c' →
      (s.connections.set i c').countP p ≤ s.connections.countP p := by
    intro i c c' hc hage
    have hcount := countP_set_add (p := p) (b := c') hc
    have hle : (if p c' = true then 1 else 0) ≤ if p c = true then 1 else 0 := by
      split
      · rw [if_pos (hp c c' hage ‹_›)]
      · exact Nat.zero_le _
    omega
  cases heffect with
  | aged hc hage => exact .inl (hset hc hage)
  | joined hc htask =>
    refine .inl (hset hc ⟨rfl, rfl, rfl, nofun, ?_⟩)
    rw [htask]
    nofun
  | @accepted _ peer header _ source hphase _ hrefuses _ _ =>
    exact .inr ⟨peer, header, source, hphase, hrefuses, rfl⟩
  | _ => exact .inl (Nat.le_refl _)

theorem lt_of_refuses {header : PacketHeader} (h : s.refuses options peer header = false) :
    s.tasks < options.maxConnections ∧
      s.routes.countP (fun route => route.primary ∧ route.peer.ip = peer.ip) <
        options.maxConnectionsPerSource := by
  simp only [refuses, Bool.or_eq_false_iff, decide_eq_false_iff_not, Nat.not_le] at h
  exact ⟨h.1.2, h.2⟩

/-- **The tasks that are still to be joined** are no more than the limit. -/
theorem tasks_le (h : (system options).Reach s) : s.tasks ≤ options.maxConnections := by
  refine h.invariant (I := fun s => s.tasks ≤ options.maxConnections) (Nat.zero_le _) ?_
  intro s action s' hle _ hnext
  have hage : ∀ c c', Ages c c' → decide (c'.task ≠ .joined) = true →
      decide (c.task ≠ .joined) = true := by
    intro c c' hage hjoined
    exact decide_eq_true (hage.joined (of_decide_eq_true hjoined))
  rcases countP_effect hage (next_effect hnext) with
    hcount | ⟨peer, header, source, -, hrefuses, rfl⟩
  · exact Nat.le_trans hcount hle
  have hlt := (lt_of_refuses hrefuses).1
  unfold tasks at hlt ⊢
  simp only [accept, List.countP_append]
  simpa using hlt

/-! ## Routes that stay -/

/-- A route is in the table, and no other task that is still to be joined can remove it. -/
def Kept (s : Listener) (i : Nat) (key : Bytes) (route : Route) : Prop :=
  s.routes.lookup key = some route ∧
    ∀ j c, j ≠ i → s.connections[j]? = some c → c.task ≠ .joined →
      c.destination ≠ key ∧ c.source ≠ key

/-- The running connections keep the routes under one of their IDs. -/
def Leads (id : Connection → Bytes) (primary : Bool) (s : Listener) : Prop :=
  s.phase.isReturned = false → ∀ i c, s.connections[i]? = some c → c.task = .running →
    s.Kept i (id c) ⟨c.peer, i, primary⟩

section
variable {i j : Nat} {c c' : Connection} {key : Bytes} {route : Route}

theorem Kept.aged (h : s.Kept i key route) (hc : s.connections[j]? = some c) (hage : Ages c c') :
    (s.setConnection j c').Kept i key route := by
  refine ⟨h.1, fun k d hk hd htask => ?_⟩
  rcases getElem?_setConnection hc hd with ⟨rfl, rfl⟩ | ⟨-, hd⟩
  · rw [hage.destination, hage.source]
    exact h.2 k c hk hc (hage.joined htask)
  · exact h.2 k d hk hd htask

theorem Kept.joined (h : s.Kept i key route) (hroute : route.packets = i)
    (hrunning : s.isClosed i = false) (hc : s.connections[j]? = some c) {panicked : Bool}
    (htask : c.task = .ended panicked) : (s.join j c panicked).Kept i key route := by
  have hne : i ≠ j := by
    rintro rfl
    simp [isClosed, hc, htask] at hrunning
  have hage : Ages c { c with task := .joined } := by
    refine ⟨rfl, rfl, rfl, nofun, ?_⟩
    rw [htask]
    nofun
  have hunjoined : c.task ≠ .joined := by
    rw [htask]
    nofun
  obtain ⟨hdestination, hsource⟩ := h.2 j c (Ne.symm hne) hc hunjoined
  refine ⟨?_, (h.aged hc hage).2⟩
  have hopen : (s.setConnection j { c with task := .joined }).isClosed i = false := by
    rw [← hrunning, isClosed, isClosed, setConnection, List.getElem?_set_ne (Ne.symm hne)]
  have hlookup : (if panicked then s.routes
      else (s.routes.erase c.destination).erase c.source).lookup key = some route := by
    split
    · exact h.1
    · rw [AList.lookup_erase_ne (Ne.symm hsource), AList.lookup_erase_ne (Ne.symm hdestination)]
      exact h.1
  simp only [join, Table.lookup_retain, setConnection_routes]
  rw [hlookup, Option.bind_some, hroute, hopen]
  rfl

theorem Kept.accepted (h : s.Kept i key route) {peer : SocketAddr} {destination source : Bytes}
    (hdestination : s.routes.lookup destination = none) (hsource : s.routes.lookup source = none) :
    (s.accept peer destination source).Kept i key route := by
  have hne : ∀ other, s.routes.lookup other = none → other ≠ key := by
    rintro other hnone rfl
    cases h.1.symm.trans hnone
  refine ⟨?_, fun k d hk hd htask => ?_⟩
  · simp only [accept]
    rw [AList.lookup_insert_ne (Ne.symm (hne _ hsource)),
      AList.lookup_insert_ne (Ne.symm (hne _ hdestination))]
    exact h.1
  rcases getElem?_accept hd with ⟨-, rfl⟩ | hd
  · exact ⟨hne _ hdestination, hne _ hsource⟩
  · exact h.2 k d hk hd htask

end

/-- **A kept route stays** as long as its connection runs; what is left to show is that a
new connection has one. -/
theorem leads_effect {id : Connection → Bytes} {primary : Bool}
    (hid : ∀ c c', Ages c c' → id c' = id c) (hleads : s.Leads id primary)
    (heffect : Effect options s action s')
    (hnew : ∀ packet peer header setup source,
      action = .datagram packet peer (some header) setup → setup.id = some source →
      s' = s.accept peer header.dcid source →
      s'.Kept s.connections.length (id ⟨peer, header.dcid, source, [], .running⟩)
        ⟨peer, s.connections.length, primary⟩) : s'.Leads id primary := by
  cases heffect with
  | quiet => exact hleads
  | stopping hserving =>
    intro _ i c hc htask
    exact hleads (by rw [hserving]; rfl) i c hc htask
  | left result => nofun
  | aged hd hage =>
    intro hphase i c hc htask
    rcases getElem?_setConnection hd hc with ⟨rfl, rfl⟩ | ⟨-, hc⟩
    · have hkept := hleads hphase i _ hd (hage.running htask)
      rw [hid _ _ hage, hage.peer]
      exact hkept.aged hd hage
    · exact (hleads hphase i c hc htask).aged hd hage
  | @joined _ j d panicked hd hended =>
    intro hphase i c hc htask
    rcases getElem?_setConnection hd hc with ⟨-, rfl⟩ | ⟨-, hc⟩
    · cases htask
    · refine (hleads hphase i c hc htask).joined rfl ?_ hd hended
      simp [isClosed, hc, htask]
  | @accepted packet peer header setup source _ hdestination _ hsetup hsource =>
    intro hphase i c hc htask
    rcases getElem?_accept hc with ⟨rfl, rfl⟩ | hc
    · exact hnew packet peer header setup source rfl hsetup rfl
    · exact (hleads hphase i c hc htask).accepted hdestination hsource

/-! ## Whole runs -/

/-- A source ID is drawn that is no ID of any connection so far, nor the destination ID of
the packet at hand. -/
def Fresh (s : Listener) : Action → Prop
  | .datagram _ _ (some header) setup => ∀ source ∈ setup.id,
      source ≠ header.dcid ∧ ∀ c ∈ s.connections, c.destination ≠ source ∧ c.source ≠ source
  | _ => True

/-- The step opens a connection. -/
def opens (options : ServeOptions) (s : Listener) (action : Action) : Bool :=
  (s.next options action).any fun s' => s.connections.length < s'.connections.length

/-- No connection is opened under an ID of one whose task is still to be joined. -/
def Unshared (options : ServeOptions) (s : Listener) : Action → Prop
  | .datagram packet peer (some header) setup =>
    s.opens options (.datagram packet peer (some header) setup) = true →
      ∀ c ∈ s.connections, c.task ≠ .joined →
        c.destination ≠ header.dcid ∧ c.source ≠ header.dcid
  | _ => True

def Orderly (options : ServeOptions) (s : Listener) (action : Action) : Prop :=
  s.Fresh action ∧ s.Unshared options action

instance (s : Listener) (action : Action) : Decidable (s.Fresh action) :=
  match action with
  | .datagram _ _ (some header) setup => inferInstanceAs (Decidable (∀ source ∈ setup.id,
      source ≠ header.dcid ∧ ∀ c ∈ s.connections, c.destination ≠ source ∧ c.source ≠ source))
  | .datagram _ _ none _ | .stop | .join _ | .recvFailed _ | .finish | .taskEnds _ _
  | .taskReceives _ => .isTrue trivial

instance (options : ServeOptions) (s : Listener) (action : Action) :
    Decidable (s.Unshared options action) :=
  match action with
  | .datagram packet peer (some header) setup => inferInstanceAs (Decidable
      (s.opens options (.datagram packet peer (some header) setup) = true →
        ∀ c ∈ s.connections, c.task ≠ .joined →
          c.destination ≠ header.dcid ∧ c.source ≠ header.dcid))
  | .datagram _ _ none _ | .stop | .join _ | .recvFailed _ | .finish | .taskEnds _ _
  | .taskReceives _ => .isTrue trivial

instance (options : ServeOptions) (s : Listener) (action : Action) :
    Decidable (s.Orderly options action) := inferInstanceAs (Decidable (_ ∧ _))

/-- **The primary route** of a running connection is in the table, with fresh source IDs. -/
theorem leads_source (h : (system options).ReachBy Fresh s) : s.Leads Connection.source true := by
  refine h.invariant (I := Leads Connection.source true) ?_ ?_
  · intro _ i c hc
    cases hc
  intro s action s' hleads hfresh hnext
  refine leads_effect (fun _ _ hage => hage.source) hleads (next_effect hnext) ?_
  rintro packet peer header setup source rfl hid rfl
  obtain ⟨-, hother⟩ := hfresh source hid
  refine ⟨AList.lookup_insert _, fun j c hj hc _ => ?_⟩
  rcases getElem?_accept hc with ⟨rfl, -⟩ | hc
  · exact absurd rfl hj
  · exact hother c (List.mem_of_getElem? hc)

/-- **The route under the client's ID**, where it is no ID of a task to be joined. -/
theorem leads_destination (h : (system options).ReachBy (Orderly options) s) :
    s.Leads Connection.destination false := by
  refine h.invariant (I := Leads Connection.destination false) ?_ ?_
  · intro _ i c hc
    cases hc
  intro s action s' hleads hgood hnext
  refine leads_effect (fun _ _ hage => hage.destination) hleads (next_effect hnext) ?_
  rintro packet peer header setup source rfl hid rfl
  have hne := (hgood.1 source hid).1
  have hopens : s.opens options (.datagram packet peer (some header) setup) = true := by
    have hgrows : s.connections.length <
        (s.accept peer header.dcid source).connections.length := by
      simp [accept]
    have hstep : s.next options (.datagram packet peer (some header) setup) =
        some (s.accept peer header.dcid source) := hnext
    rw [opens, hstep]
    exact decide_eq_true hgrows
  refine ⟨?_, fun j c hj hc htask => ?_⟩
  · simp only [accept]
    rw [AList.lookup_insert_ne (Ne.symm hne)]
    exact AList.lookup_insert _
  rcases getElem?_accept hc with ⟨rfl, -⟩ | hc
  · exact absurd rfl hj
  · exact hgood.2 hopens c (List.mem_of_getElem? hc) htask

/-- The running connections of an address are no more than its primary routes. -/
theorem runningFrom_le_routes (hleads : s.Leads Connection.source true)
    (hphase : s.phase.isReturned = false) (ip : IpAddr) :
    s.runningFrom ip ≤ s.routes.countP fun route => route.primary ∧ route.peer.ip = ip := by
  obtain ⟨p, hp⟩ : ∃ p : Connection → Bool,
      p = fun c => decide (c.task = .running ∧ c.peer.ip = ip) := ⟨_, rfl⟩
  have hrunning : ∀ c, p c = true ↔ c.task = .running ∧ c.peer.ip = ip := by
    intro c
    rw [hp, decide_eq_true_eq]
  have hkept : ∀ i c, s.connections[i]? = some c → p c = true →
      s.routes.lookup c.source = some ⟨c.peer, i, true⟩ := fun i c hc hpc =>
    (hleads hphase i c hc ((hrunning c).mp hpc).1).1
  have hnodup : ((s.connections.filter p).map Connection.source).Nodup := by
    rw [List.Nodup, List.pairwise_map, List.pairwise_filter, List.pairwise_iff_getElem]
    intro i j hi hj hij hpi hpj hsame
    have hfirst := hkept i _ (List.getElem?_eq_getElem hi) hpi
    have hsecond := hkept j _ (List.getElem?_eq_getElem hj) hpj
    rw [hsame, hsecond] at hfirst
    exact Nat.ne_of_gt hij (congrArg Route.packets (Option.some.inj hfirst))
  have hle := Table.length_le_countP (p := fun route : Route =>
    decide (route.primary ∧ route.peer.ip = ip)) (t := s.routes) hnodup ?_
  · rw [runningFrom, List.countP_eq_length_filter, ← hp]
    rwa [List.length_map] at hle
  intro key hkey
  obtain ⟨c, hc, rfl⟩ := List.mem_map.mp hkey
  obtain ⟨hmem, hpc⟩ := List.mem_filter.mp hc
  obtain ⟨i, hi⟩ := List.getElem?_of_mem hmem
  exact ⟨_, hkept i c hi hpc, decide_eq_true ⟨rfl, ((hrunning c).mp hpc).2⟩⟩

/-- **The running connections of one address** are no more than the limit. -/
theorem runningFrom_le (h : (system options).ReachBy Fresh s) (ip : IpAddr) :
    s.runningFrom ip ≤ options.maxConnectionsPerSource := by
  induction h with
  | start => exact Nat.zero_le _
  | @step s s' action hreach _ hnext ih =>
    have hage : ∀ c c' : Connection, Ages c c' →
        decide (c'.task = .running ∧ c'.peer.ip = ip) = true →
        decide (c.task = .running ∧ c.peer.ip = ip) = true := by
      intro c c' hage hrunning
      obtain ⟨htask, hip⟩ := of_decide_eq_true hrunning
      exact decide_eq_true ⟨hage.running htask, hage.peer ▸ hip⟩
    rcases countP_effect hage (next_effect hnext) with
      hcount | ⟨peer, header, source, hphase, hrefuses, rfl⟩
    · exact Nat.le_trans hcount ih
    have hnew : (s.accept peer header.dcid source).runningFrom ip =
        s.runningFrom ip + if peer.ip = ip then 1 else 0 := by
      simp [runningFrom, accept, List.countP_append, List.countP_singleton]
    rw [hnew]
    by_cases hip : peer.ip = ip
    · subst hip
      have hroutes := runningFrom_le_routes (leads_source hreach) (by rw [hphase]; rfl) peer.ip
      have hlimit := (lt_of_refuses hrefuses).2
      rw [if_pos rfl]
      exact Nat.lt_of_le_of_lt hroutes hlimit
    · rwa [if_neg hip]

/-- The table and the two limits. -/
structure Orders (options : ServeOptions) (s : Listener) : Prop where
  /-- Both IDs of a running connection lead to its queue. -/
  routes : s.phase.isReturned = false → ∀ i c, s.connections[i]? = some c → c.task = .running →
    s.routes.lookup c.destination = some ⟨c.peer, i, false⟩ ∧
      s.routes.lookup c.source = some ⟨c.peer, i, true⟩
  tasks : s.tasks ≤ options.maxConnections
  running : ∀ ip, s.runningFrom ip ≤ options.maxConnectionsPerSource

/-- **The routes of a running connection** are in the table, and the limits hold, in every
run in which no connection is opened under an ID of a task that is still to be joined. -/
theorem routes_kept (options : ServeOptions) {s : Listener}
    (h : (system options).ReachBy (Orderly options) s) : s.Orders options := by
  have hfresh : (system options).ReachBy Fresh s := h.mono fun _ _ hgood => hgood.1
  refine ⟨fun hphase i c hc htask => ⟨?_, ?_⟩, tasks_le (h.mono fun _ _ _ => trivial), ?_⟩
  · exact (leads_destination h hphase i c hc htask).1
  · exact (leads_source hfresh hphase i c hc htask).1
  · exact runningFrom_le hfresh

/-! Two connections end at the same time.  The first join sweeps the routes of both; a peer
then opens a connection under the ID of the other one, and the second join removes its
route. -/

namespace Reuse

def limits : ServeOptions := ⟨4, 4⟩

def client (port : UInt16) : SocketAddr := ⟨.v4 ⟨192, 0, 2, 7⟩, port⟩

/-- An Initial packet, with the source ID that is drawn for it. -/
def initial (port : UInt16) (destination source : Bytes) : Action :=
  .datagram [0] (client port) (some ⟨destination, true, true⟩) ⟨true, some source, true, true⟩

def swept : List Action :=
  [initial 1 [1] [11], initial 2 [2] [12], .taskEnds 1 false, .taskEnds 0 false, .join 1,
    initial 1 [1] [13], .join 0]

/-- The ID is used again after the join. -/
def again : List Action :=
  [initial 1 [1] [11], initial 2 [2] [12], .taskEnds 0 false, .join 0, initial 1 [1] [13]]

end Reuse

/-- A running connection without a route under the ID of its client. -/
theorem reused_id_loses_route : ∃ (s : Listener) (i : Nat) (c : Connection),
    (system Reuse.limits).ReachBy Fresh s ∧ s.phase = .serving ∧ s.connections[i]? = some c ∧
    c.task = .running ∧ s.routes.lookup c.destination = none := by
  obtain ⟨s, hreach, hphase, c, hc, htask, hlookup⟩ := (system Reuse.limits).exists_reachBy Fresh
    (fun s => s.phase = .serving ∧ ∃ c ∈ s.connections[2]?, c.task = .running ∧
      s.routes.lookup c.destination = none) Reuse.swept (by decide +kernel)
  exact ⟨s, 2, c, hreach, hphase, hc, htask, hlookup⟩

theorem routes_kept_again : ∃ (s : Listener) (c : Connection),
    (system Reuse.limits).ReachBy (Orderly Reuse.limits) s ∧ s.connections[2]? = some c ∧
    c.task = .running ∧ c.destination = [1] ∧ s.Orders Reuse.limits := by
  obtain ⟨s, hreach, c, hc, htask, hdestination⟩ := (system Reuse.limits).exists_reachBy
    (Orderly Reuse.limits)
    (fun s => ∃ c ∈ s.connections[2]?, c.task = .running ∧ c.destination = [1]) Reuse.again
    (by decide +kernel)
  exact ⟨s, c, hreach, hc, htask, hdestination, routes_kept Reuse.limits hreach⟩

end Listener
end Quiche
end Maverick
