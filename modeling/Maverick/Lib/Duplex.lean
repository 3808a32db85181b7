import Maverick.Lib.Bytes

/-!
# The two directions of a relay

A relay between a byte stream and a sequence of items (frames, messages) has two
halves.  The *inlet* takes items and writes what they carry; a write may take less than
it is given.  The *outlet* reads chunks and sends an item for each of them, and a last
one at the end of the stream, with fillers in front of each.

* `carried` — what a sequence of items carries, up to the one that ends it.
* `Inlet.Faithful` — what was written and what is left of one item are what the items
  carry; `Inlet.take_faithful`, `Inlet.wrote_faithful`, `Inlet.shut_faithful` keep it.
* `Outlet.Faithful` — what was sent and what is queued are the chunks, in order;
  `Outlet.filled_faithful`, `Outlet.sendNext_faithful` keep it.
-/

namespace Maverick
namespace Lib

variable {α : Type}

/-! ## The inlet -/

/-- What an item does to the stream that is written. -/
inductive Verdict where
  | carry (payload : Bytes)
  | stop
  | skip
  deriving DecidableEq

/-- What the items carry before the first one that stops. -/
def carried (verdict : α → Verdict) : List α → Bytes
  | [] => []
  | a :: as =>
    match verdict a with
    | .carry payload => payload ++ carried verdict as
    | .stop => []
    | .skip => carried verdict as

inductive InletPhase (α : Type) where
  | reading
  | writing (rest : Bytes)
  /-- by this item -/
  | stopped (last : α)
  deriving DecidableEq

structure Inlet (α : Type) where
  phase : InletPhase α
  received : List α
  written : Bytes
  shutDown : Bool
  deriving DecidableEq

namespace Inlet

def start : Inlet α := ⟨.reading, [], [], false⟩

/-- What is left to write of the item at hand. -/
def rest (s : Inlet α) : Bytes :=
  match s.phase with
  | .writing rest => rest
  | _ => []

def isStopped (s : Inlet α) : Bool :=
  match s.phase with
  | .stopped _ => true
  | _ => false

variable {s : Inlet α} {n : Nat}

theorem isStopped_iff : s.isStopped = true ↔ ∃ a, s.phase = .stopped a := by
  unfold isStopped
  cases s.phase <;> simp

/-- The next item. -/
def take (verdict : α → Verdict) (s : Inlet α) (a : α) : Inlet α :=
  { s with
    received := s.received ++ [a]
    phase :=
      match verdict a with
      | .carry payload => if payload = [] then .reading else .writing payload
      | .stop => .stopped a
      | .skip => .reading }

/-- The item that stops an inlet is the one it was given. -/
theorem phase_take_eq_stopped {verdict : α → Verdict} {a b : α} :
    (s.take verdict a).phase = .stopped b ↔ verdict a = .stop ∧ b = a := by
  unfold take
  cases hverdict : verdict a with
  | carry payload =>
    by_cases hempty : payload = []
    · simp [hempty]
    · simp [hempty]
  | stop => simp [eq_comm]
  | skip => simp

/-- The writer has taken `n` bytes of what is left. -/
def wrote (s : Inlet α) (n : Nat) : Option (Inlet α) :=
  match s.phase with
  | .writing rest =>
    if 0 < n ∧ n ≤ rest.length then
      some { s with
        written := s.written ++ rest.take n
        phase := if rest.drop n = [] then .reading else .writing (rest.drop n) }
    else none
  | _ => none

def shut (s : Inlet α) : Inlet α := { s with shutDown := true }

/-- What was written and what is left are what the items carry. -/
structure Faithful (verdict : α → Verdict) (s : Inlet α) : Prop where
  carried : ∀ more, carried verdict (s.received ++ more) =
    s.written ++ s.rest ++ if s.isStopped then [] else Lib.carried verdict more
  shutDown : s.shutDown = true → s.isStopped = true
  last : ∀ a, s.phase = .stopped a → a ∈ s.received ∧ verdict a = .stop

variable {verdict : α → Verdict} {s s' : Inlet α} {a : α}

theorem start_faithful : (start : Inlet α).Faithful verdict where
  carried _ := rfl
  shutDown := nofun
  last := nofun

theorem take_faithful (h : s.Faithful verdict) (hphase : s.phase = .reading) :
    (s.take verdict a).Faithful verdict := by
  have hrest : s.rest = [] := by rw [rest, hphase]
  have hopen : s.isStopped = false := by rw [isStopped, hphase]
  have hcarried := h.carried
  simp only [hrest, hopen, List.append_nil, Bool.false_eq_true, if_false] at hcarried
  have hshut : s.shutDown = false := by
    rw [← Bool.not_eq_true]
    intro hdown
    rw [h.shutDown hdown] at hopen
    cases hopen
  refine ⟨fun more => ?_, fun hdown => ?_, fun b hb => ?_⟩
  · show Lib.carried verdict (s.received ++ [a] ++ more) = _
    rw [List.append_assoc, hcarried, List.singleton_append, Lib.carried]
    cases hverdict : verdict a with
    | carry payload =>
      by_cases hempty : payload = []
      · simp [take, rest, isStopped, hverdict, hempty]
      · simp [take, rest, isStopped, hverdict, hempty]
    | stop => simp [take, rest, isStopped, hverdict]
    | skip => simp [take, rest, isStopped, hverdict]
  · rw [show s.shutDown = true from hdown] at hshut
    cases hshut
  · obtain ⟨hstop, rfl⟩ := phase_take_eq_stopped.mp hb
    exact ⟨List.mem_append_right _ (List.mem_singleton_self _), hstop⟩

theorem wrote_faithful (h : s.Faithful verdict) (hwrote : s.wrote n = some s') :
    s'.Faithful verdict := by
  unfold wrote at hwrote
  split at hwrote
  · rename_i left hphase
    obtain ⟨-, hwrote⟩ := Option.ite_none_right_eq_some.mp hwrote
    cases hwrote
    have hrest : s.rest = left := by rw [rest, hphase]
    have hopen : s.isStopped = false := by rw [isStopped, hphase]
    have hcarried := h.carried
    simp only [hrest, hopen, Bool.false_eq_true, if_false] at hcarried
    refine ⟨fun more => ?_, fun hdown => ?_, fun b hb => ?_⟩
    · rw [hcarried]
      by_cases hempty : left.drop n = []
      · have htake : left.take n = left := by
          rw [← List.take_append_drop n left, hempty, List.append_nil, List.take_take,
            Nat.min_self]
        simp [rest, isStopped, hempty, htake]
      · simp only [rest, isStopped, hempty, if_false, Bool.false_eq_true]
        rw [List.append_assoc s.written (left.take n), List.take_append_drop]
    · have hstopped := h.shutDown hdown
      cases hopen.symm.trans hstopped
    · dsimp only at hb
      split at hb <;> cases hb
  · cases hwrote

/-- What is written to has not stopped. -/
theorem isStopped_of_wrote (hwrote : s.wrote n = some s') : s.isStopped = false := by
  unfold wrote at hwrote
  split at hwrote
  · rename_i hphase
    rw [isStopped, hphase]
  · cases hwrote

theorem isStopped_wrote (hwrote : s.wrote n = some s') : s'.isStopped = false := by
  unfold wrote at hwrote
  split at hwrote
  · obtain ⟨-, hwrote⟩ := Option.ite_none_right_eq_some.mp hwrote
    cases hwrote
    unfold isStopped
    dsimp only
    split
    · rename_i hphase
      split at hphase <;> cases hphase
    · rfl
  · cases hwrote

theorem shut_faithful (h : s.Faithful verdict) (hstopped : s.isStopped = true) :
    s.shut.Faithful verdict :=
  { h with shutDown := fun _ => hstopped }

/-- **What was written is a prefix** of what the items carry. -/
theorem Faithful.written_isPrefix (h : s.Faithful verdict) :
    s.written <+: Lib.carried verdict s.received := by
  have hcarried := h.carried []
  rw [List.append_nil, List.append_assoc] at hcarried
  rw [hcarried]
  exact List.prefix_append _ _

theorem Faithful.written_of_stopped (h : s.Faithful verdict) (hstopped : s.isStopped = true) :
    s.written = Lib.carried verdict s.received := by
  have hcarried := h.carried []
  have hrest : s.rest = [] := by
    unfold isStopped at hstopped
    unfold rest
    split at hstopped
    · rename_i hphase
      rw [hphase]
    · cases hstopped
  rw [List.append_nil, hstopped, hrest, if_pos rfl, List.append_nil, List.append_nil] at hcarried
  exact hcarried.symm

end Inlet

/-! ## The outlet -/

inductive OutletPhase (α : Type) where
  | reading
  | sending (queue : List (α × Bool))
  | done
  deriving DecidableEq

/-- Items are sent with a mark that tells whether the stream ends with them. -/
structure Outlet (α : Type) where
  phase : OutletPhase α
  read : Bytes
  /-- the end of the stream was read -/
  ended : Bool
  sent : List (α × Bool)
  deriving DecidableEq

/-- Items without the fillers. -/
def visible (isFiller : α → Bool) (items : List (α × Bool)) : List (α × Bool) :=
  items.filter fun p => !isFiller p.1

theorem visible_append (isFiller : α → Bool) (l l' : List (α × Bool)) :
    visible isFiller (l ++ l') = visible isFiller l ++ visible isFiller l' :=
  List.filter_append ..

/-- An item with fillers in front of it; only the item itself may be marked. -/
def Dressed (isFiller : α → Bool) (a : α) (mark : Bool) (queue : List (α × Bool)) : Prop :=
  ∃ fillers : List α, (∀ b ∈ fillers, isFiller b = true) ∧
    queue = fillers.map (·, false) ++ [(a, mark)]

theorem visible_dressed {isFiller : α → Bool} {a : α} {mark : Bool} {queue : List (α × Bool)}
    (h : Dressed isFiller a mark queue) (ha : isFiller a = false) :
    visible isFiller queue = [(a, mark)] := by
  obtain ⟨fillers, hfillers, rfl⟩ := h
  have hnone : visible isFiller (fillers.map (·, false)) = [] := by
    refine List.filter_eq_nil_iff.mpr fun p hp => ?_
    obtain ⟨b, hb, rfl⟩ := List.mem_map.mp hp
    simp [hfillers b hb]
  rw [visible_append, hnone]
  simp [visible, ha]

namespace Outlet

def start : Outlet α := ⟨.reading, [], false, []⟩

def queue (s : Outlet α) : List (α × Bool) :=
  match s.phase with
  | .sending queue => queue
  | _ => []

/-- A chunk was read, nothing at the end, and the items for it are queued. -/
def filled (s : Outlet α) (chunk : Bytes) (queue : List (α × Bool)) : Outlet α :=
  { s with
    read := s.read ++ chunk
    ended := decide (chunk = [])
    phase := .sending queue }

/-- The next item is sent. -/
def sendNext (s : Outlet α) : Option (Outlet α) :=
  match s.phase with
  | .sending (p :: queue) =>
    some { s with
      sent := s.sent ++ [p]
      phase := if queue = [] then (if s.ended then .done else .reading) else .sending queue }
  | _ => none

section
variable (isFiller : α → Bool) (itemOf : Bytes → α)

/-- The items of some chunks, and the last one. -/
def itemsOf (chunks : List Bytes) (ended : Bool) : List (α × Bool) :=
  chunks.map (fun chunk => (itemOf chunk, false)) ++ if ended then [(itemOf [], true)] else []

/-- What was sent and what is queued are the chunks that were read. -/
structure Faithful (s : Outlet α) : Prop where
  items : ∃ chunks : List Bytes, (∀ chunk ∈ chunks, chunk ≠ []) ∧ chunks.flatten = s.read ∧
    visible isFiller (s.sent ++ s.queue) = itemsOf itemOf chunks s.ended
  marks : ∀ p ∈ s.sent ++ s.queue, p.2 = true → p = (itemOf [], true)
  reading : s.phase = .reading → s.ended = false
  done : s.phase = .done → s.ended = true

end

variable {isFiller : α → Bool} {itemOf : Bytes → α} {s s' : Outlet α}

theorem start_faithful : (start : Outlet α).Faithful isFiller itemOf where
  items := ⟨[], by simp, rfl, rfl⟩
  marks := by simp [start, queue]
  reading _ := rfl
  done := nofun

theorem filled_faithful (hitem : ∀ chunk, isFiller (itemOf chunk) = false)
    (h : s.Faithful isFiller itemOf) (hphase : s.phase = .reading) {chunk : Bytes}
    {queue : List (α × Bool)} (hqueue : Dressed isFiller (itemOf chunk) (chunk = []) queue) :
    (s.filled chunk queue).Faithful isFiller itemOf := by
  have hended := h.reading hphase
  have hnone : s.queue = [] := by rw [Outlet.queue, hphase]
  obtain ⟨chunks, hchunks, hread, hitems⟩ := h.items
  rw [hnone, List.append_nil, hended] at hitems
  refine ⟨?_, ?_, nofun, nofun⟩
  · have hvisible : visible isFiller ((s.filled chunk queue).sent ++ (s.filled chunk queue).queue) =
        itemsOf itemOf chunks false ++ [(itemOf chunk, decide (chunk = []))] := by
      show visible isFiller (s.sent ++ queue) = _
      rw [visible_append, hitems, visible_dressed hqueue (hitem chunk)]
    by_cases hend : chunk = []
    · subst hend
      refine ⟨chunks, hchunks, ?_, ?_⟩
      · simp [filled, hread]
      · rw [hvisible]
        simp [itemsOf, filled]
    · refine ⟨chunks ++ [chunk], ?_, ?_, ?_⟩
      · intro c hc
        rcases List.mem_append.mp hc with hold | hnew
        · exact hchunks c hold
        · rwa [List.mem_singleton.mp hnew]
      · simp [filled, hread]
      · rw [hvisible]
        simp [itemsOf, filled, hend]
  · intro p hp hmark
    rcases List.mem_append.mp hp with hold | hnew
    · exact h.marks p (List.mem_append_left _ hold) hmark
    obtain ⟨fillers, -, rfl⟩ := hqueue
    rcases List.mem_append.mp hnew with hfiller | hlast
    · obtain ⟨b, -, rfl⟩ := List.mem_map.mp hfiller
      cases hmark
    rw [List.mem_singleton.mp hlast] at hmark ⊢
    have hend : chunk = [] := of_decide_eq_true hmark
    subst hend
    rfl

theorem sendNext_faithful (h : s.Faithful isFiller itemOf) (hsend : s.sendNext = some s') :
    s'.Faithful isFiller itemOf := by
  unfold sendNext at hsend
  split at hsend
  · rename_i p queue hphase
    cases hsend
    have hqueue : s.queue = p :: queue := by rw [Outlet.queue, hphase]
    have hleft : Outlet.queue { s with
        sent := s.sent ++ [p]
        phase := if queue = [] then (if s.ended then .done else .reading) else .sending queue } =
        queue := by
      by_cases hempty : queue = []
      · cases hended : s.ended <;> simp [Outlet.queue, hempty]
      · simp [Outlet.queue, hempty]
    have hall : s.sent ++ [p] ++ queue = s.sent ++ s.queue := by
      rw [hqueue, List.append_assoc, List.singleton_append]
    refine ⟨?_, ?_, ?_, ?_⟩
    · rw [hleft]
      show ∃ chunks : List Bytes, _ ∧ _ ∧ visible isFiller (s.sent ++ [p] ++ queue) = _
      rw [hall]
      exact h.items
    · rw [hleft]
      show ∀ q ∈ s.sent ++ [p] ++ queue, _
      rw [hall]
      exact h.marks
    · dsimp only
      split
      · split
        · nofun
        · rename_i hended
          exact fun _ => Bool.not_eq_true _ ▸ hended
      · nofun
    · dsimp only
      split
      · split
        · rename_i hended
          exact fun _ => hended
        · nofun
      · nofun
  · cases hsend

theorem ended_sendNext (hsend : s.sendNext = some s') : s'.ended = s.ended := by
  unfold sendNext at hsend
  split at hsend <;> cases hsend
  rfl

/-- What was sent is the items of the first chunks; with the last item, of all of them. -/
def SentChunks (s : Outlet α) (isFiller : α → Bool) (itemOf : Bytes → α) : Prop :=
  ∃ chunks last, (∀ chunk ∈ chunks, chunk ≠ []) ∧
    visible isFiller s.sent = itemsOf itemOf chunks last ∧ chunks.flatten <+: s.read ∧
    (last = true → chunks.flatten = s.read ∧ s.ended = true)

theorem Faithful.sent (h : s.Faithful isFiller itemOf) : s.SentChunks isFiller itemOf := by
  obtain ⟨chunks, hchunks, hread, hitems⟩ := h.items
  rw [visible_append] at hitems
  -- a prefix of the chunks' items, without the last one
  have hprefix : ∀ more, visible isFiller s.sent ++ more =
      chunks.map (fun chunk => (itemOf chunk, false)) → s.SentChunks isFiller itemOf := by
    intro more hmore
    obtain ⟨front, back, rfl, hfront, -⟩ := List.map_eq_append_iff.mp hmore.symm
    refine ⟨front, false, fun c hc => hchunks c (List.mem_append_left _ hc), ?_, ?_, nofun⟩
    · rw [itemsOf, if_neg Bool.false_ne_true, List.append_nil, hfront]
    · rw [← hread, List.flatten_append]
      exact List.prefix_append _ _
  rcases Bool.eq_false_or_eq_true s.ended with hended | hended
  · rcases List.eq_nil_or_concat (visible isFiller s.queue) with hnil | ⟨front, p, hconcat⟩
    · rw [hnil, List.append_nil, hended] at hitems
      exact ⟨chunks, true, hchunks, hitems, hread ▸ List.prefix_refl _, fun _ => ⟨hread, hended⟩⟩
    rw [hconcat, List.concat_eq_append, hended, itemsOf, if_pos rfl, ← List.append_assoc]
      at hitems
    exact hprefix front (List.append_inj' hitems rfl).1
  · rw [hended, itemsOf, if_neg Bool.false_ne_true, List.append_nil] at hitems
    exact hprefix _ hitems

/-- An outlet that is done has sent all that was read. -/
theorem Faithful.sent_of_done (h : s.Faithful isFiller itemOf) (hdone : s.phase = .done) :
    ∃ chunks : List Bytes, (∀ chunk ∈ chunks, chunk ≠ []) ∧ chunks.flatten = s.read ∧
      visible isFiller s.sent = itemsOf itemOf chunks true ∧ s.ended = true := by
  obtain ⟨chunks, hchunks, hread, hitems⟩ := h.items
  have hended := h.done hdone
  have hempty : s.queue = [] := by rw [Outlet.queue, hdone]
  rw [hempty, List.append_nil, hended] at hitems
  exact ⟨chunks, hchunks, hread, hitems, hended⟩

end Outlet
end Lib
end Maverick
