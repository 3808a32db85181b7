import Maverick.Lib.System

/-!
# Asynchronous methods

A method of an object runs over the object's state and calls operations of its
environment.  While it waits for an answer the state is in the object, so a
caller that drops the method there finds the object in that state.

* `Async` — the methods, as a monad with the object's state.
* `Async.wp` — what holds at every wait and at the end, whatever the environment
  answers.
* `sessions` — an object whose methods are called one after the other, each
  answered by the environment or dropped at a wait.
* `sessions_invariant` — what every method keeps, at its waits and at its end,
  holds in every state of every session.
* `Followed` — every event of a kind in a log is followed by what it calls for.
-/

namespace Maverick
namespace Lib

/-- What the environment sees: a call of an operation and its answer. -/
inductive Event (Op : Type) (Ans : Op → Type) where
  | called (op : Op)
  | answered (op : Op) (r : Ans op)

/-- A method that has ended, or that waits for the answer of an operation. -/
inductive Resume (σ Op : Type) (Ans : Op → Type) (α : Type) where
  | done (s : σ) (a : α)
  | call (s : σ) (op : Op) (k : Ans op → Resume σ Op Ans α)

namespace Resume

variable {σ Op : Type} {Ans : Op → Type} {α β : Type}

def bind : Resume σ Op Ans α → (α → σ → Resume σ Op Ans β) → Resume σ Op Ans β
  | done s a, f => f a s
  | call s op k, f => call s op fun r => (k r).bind f

/-- `I` holds at every wait, with the call in the log, and `Q` at the end. -/
def wp (I : σ → List (Event Op Ans) → Prop) (Q : α → σ → List (Event Op Ans) → Prop) :
    Resume σ Op Ans α → List (Event Op Ans) → Prop
  | done s a, log => Q a s log
  | call s op k, log =>
    I s (log ++ [.called op]) ∧ ∀ r, (k r).wp I Q (log ++ [.called op, .answered op r])

variable {I : σ → List (Event Op Ans) → Prop} {m : Resume σ Op Ans α} {log : List (Event Op Ans)}

theorem wp_bind {Q : β → σ → List (Event Op Ans) → Prop} {f : α → σ → Resume σ Op Ans β} :
    (m.bind f).wp I Q log ↔ m.wp I (fun a s log => (f a s).wp I Q log) log := by
  induction m generalizing log with
  | done s a => rfl
  | call s op k ih =>
    simp only [bind, wp]
    exact and_congr_right fun _ => forall_congr' fun r => ih r

theorem wp_mono {Q R : α → σ → List (Event Op Ans) → Prop} (h : m.wp I Q log)
    (hQ : ∀ a s log, Q a s log → R a s log) : m.wp I R log := by
  induction m generalizing log with
  | done s a => exact hQ a s log h
  | call s op k ih => exact ⟨h.1, fun r => ih r (h.2 r)⟩

/-- A method that may not wait has ended. -/
theorem eq_done_of_wp {s : σ} {a : α}
    (h : m.wp (fun _ _ => False) (fun a' s' _ => a' = a ∧ s' = s) []) : m = done s a := by
  cases m with
  | done s' a' =>
    obtain ⟨rfl, rfl⟩ := h
    rfl
  | call s' op k => exact h.1.elim

end Resume

/-- A method over the state `σ` with the operations `Op`. -/
def Async (σ Op : Type) (Ans : Op → Type) (α : Type) : Type := σ → Resume σ Op Ans α

namespace Async

variable {σ Op : Type} {Ans : Op → Type} {α β : Type}

instance : Monad (Async σ Op Ans) where
  pure a := fun s => .done s a
  bind m f := fun s => (m s).bind f

/-- The state of the object. -/
def get : Async σ Op Ans σ := fun s => .done s s

/-- An assignment to fields of the object. -/
def modify (f : σ → σ) : Async σ Op Ans Unit := fun s => .done (f s) ()

/-- A call of an operation. -/
def perform (op : Op) : Async σ Op Ans (Ans op) := fun s => .call s op fun r => .done s r

/-- The method `m`, called in a state and after a log, meets `I` at every wait
and `Q` at its end. -/
def wp (I : σ → List (Event Op Ans) → Prop) (m : Async σ Op Ans α)
    (Q : α → σ → List (Event Op Ans) → Prop) (s : σ) (log : List (Event Op Ans)) : Prop :=
  (m s).wp I Q log

section
variable {I : σ → List (Event Op Ans) → Prop} {s : σ} {log : List (Event Op Ans)}

variable {Q : α → σ → List (Event Op Ans) → Prop} {m : Async σ Op Ans α}

@[simp] theorem wp_pure {a : α} : wp I (pure a) Q s log ↔ Q a s log := Iff.rfl

@[simp] theorem wp_bind {f : α → Async σ Op Ans β} {Q : β → σ → List (Event Op Ans) → Prop} :
    wp I (m >>= f) Q s log ↔ wp I m (fun a s log => wp I (f a) Q s log) s log :=
  Resume.wp_bind

@[simp] theorem wp_get {Q : σ → σ → List (Event Op Ans) → Prop} :
    wp I get Q s log ↔ Q s s log := Iff.rfl

@[simp] theorem wp_modify {f : σ → σ} {Q : Unit → σ → List (Event Op Ans) → Prop} :
    wp I (modify f) Q s log ↔ Q () (f s) log := Iff.rfl

@[simp] theorem wp_perform {op : Op} {Q : Ans op → σ → List (Event Op Ans) → Prop} :
    wp I (perform op) Q s log ↔
      I s (log ++ [.called op]) ∧ ∀ r, Q r s (log ++ [.called op, .answered op r]) := Iff.rfl

/-- A method's specification may be weakened where it is called. -/
theorem wp_mono {R : α → σ → List (Event Op Ans) → Prop} (h : wp I m Q s log)
    (hQ : ∀ a s log, Q a s log → R a s log) : wp I m R s log :=
  Resume.wp_mono h hQ

end

end Async

/-! ## Sessions -/

/-- The object: idle, with the result of its last call, or in a call that
waits. -/
inductive Phase (σ Op : Type) (Ans : Op → Type) (α : Type) where
  | idle (s : σ) (result : Option α)
  | waiting (s : σ) (op : Op) (k : Ans op → Resume σ Op Ans α)

/-- The state that can be seen in a phase. -/
def Phase.state {σ Op : Type} {Ans : Op → Type} {α : Type} : Phase σ Op Ans α → σ
  | idle s _ => s
  | waiting s _ _ => s

structure Session (σ Op : Type) (Ans : Op → Type) (α : Type) where
  phase : Phase σ Op Ans α
  log : List (Event Op Ans)

inductive SessionAction (Op : Type) (Ans : Op → Type) (Method : Type) where
  | invoke (method : Method)
  | answer (op : Op) (r : Ans op)
  /-- the caller drops the call at a wait -/
  | cancel

section
variable {σ Op : Type} {Ans : Op → Type} {α Method : Type}

/-- A method that has run up to its next wait, or to its end. -/
def Session.settle (log : List (Event Op Ans)) : Resume σ Op Ans α → Session σ Op Ans α
  | .done s a => ⟨.idle s (some a), log⟩
  | .call s op k => ⟨.waiting s op k, log ++ [.called op]⟩

/-- One step; `awaits` tells the operations that are waited for from those that
return at once. -/
def Session.next [DecidableEq Op] (method : Method → Async σ Op Ans α) (awaits : Op → Bool)
    (x : Session σ Op Ans α) : SessionAction Op Ans Method → Option (Session σ Op Ans α)
  | .invoke m =>
    match x.phase with
    | .idle s _ => some (settle x.log (method m s))
    | .waiting _ _ _ => none
  | .answer op r =>
    match x.phase with
    | .idle _ _ => none
    | .waiting _ op' k =>
      if h : op = op' then some (settle (x.log ++ [.answered op r]) (k (h ▸ r))) else none
  | .cancel =>
    match x.phase with
    | .idle _ _ => none
    | .waiting s op _ => if awaits op then some ⟨.idle s none, x.log⟩ else none

/-- The sessions of an object. -/
def sessions [DecidableEq Op] (start : σ) (method : Method → Async σ Op Ans α)
    (awaits : Op → Bool) : System (Session σ Op Ans α) (SessionAction Op Ans Method) where
  start := ⟨.idle start none, []⟩
  next := Session.next method awaits

/-- `I` holds now, and goes on to hold however the call that waits is answered. -/
def Session.Safe (I : σ → List (Event Op Ans) → Prop) (x : Session σ Op Ans α) : Prop :=
  I x.phase.state x.log ∧
    match x.phase with
    | .idle _ _ => True
    | .waiting _ op k => ∀ r, (k r).wp I (fun _ => I) (x.log ++ [.answered op r])

variable {I : σ → List (Event Op Ans) → Prop} {x : Session σ Op Ans α}

theorem Session.safe_settle {m : Resume σ Op Ans α} {log : List (Event Op Ans)}
    (h : m.wp I (fun _ => I) log) : (settle log m).Safe I := by
  cases m with
  | done s a => exact ⟨h, trivial⟩
  | call s op k =>
    refine ⟨h.1, ?_⟩
    intro r
    show (k r).wp I (fun _ => I) (log ++ [.called op] ++ [.answered op r])
    rw [List.append_assoc]
    exact h.2 r

variable [DecidableEq Op] {method : Method → Async σ Op Ans α} {awaits : Op → Bool}

theorem Session.safe_next (hI : ∀ m s log, I s log → (method m).wp I (fun _ => I) s log)
    {y : Session σ Op Ans α} {a : SessionAction Op Ans Method} (hx : x.Safe I)
    (hnext : x.next method awaits a = some y) : y.Safe I := by
  obtain ⟨phase, log⟩ := x
  obtain ⟨hnow, hrest⟩ := hx
  cases a with
  | invoke m =>
    cases phase <;> cases hnext
    exact safe_settle (hI m _ log hnow)
  | answer op r =>
    cases phase with
    | idle s result => cases hnext
    | waiting s op' k =>
      obtain ⟨rfl, hnext⟩ := Option.dite_none_right_eq_some.mp hnext
      cases hnext
      exact safe_settle (hrest r)
  | cancel =>
    cases phase with
    | idle s result => cases hnext
    | waiting s op k =>
      obtain ⟨-, hnext⟩ := Option.ite_none_right_eq_some.mp hnext
      cases hnext
      exact ⟨hnow, trivial⟩

/-- **The invariant rule for sessions.** -/
theorem sessions_invariant {start : σ} (hstart : I start [])
    (hI : ∀ m s log, I s log → (method m).wp I (fun _ => I) s log)
    (h : (sessions start method awaits).Reach x) : I x.phase.state x.log := by
  have hsafe : x.Safe I := by
    refine h.invariant (I := Session.Safe I) ?_ fun _ _ _ hx _ => Session.safe_next hI hx
    exact ⟨hstart, trivial⟩
  exact hsafe.1

end

/-! ## Logs -/

section
variable {ε : Type} {p : ε → Prop} {E : ε → List ε → Prop} {log tail : List ε}

/-- For each event of the kind `p`, the log after it satisfies `E`. -/
def Followed (p : ε → Prop) (E : ε → List ε → Prop) (log : List ε) : Prop :=
  ∀ x post, (x :: post) <:+ log → p x → E x post

theorem cons_suffix_append {x : ε} {post : List ε} (h : (x :: post) <:+ log ++ tail) :
    (x :: post) <:+ tail ∨ ∃ post', post = post' ++ tail ∧ (x :: post') <:+ log := by
  obtain ⟨pre, hpre⟩ := h
  rcases List.append_eq_append_iff.mp hpre with ⟨mid, hlog, hpost⟩ | ⟨mid, -, htail⟩
  · cases mid with
    | nil => exact .inl (hpost ▸ List.suffix_rfl)
    | cons y mid =>
      rw [List.cons_append, List.cons.injEq] at hpost
      obtain ⟨rfl, hpost⟩ := hpost
      exact .inr ⟨mid, hpost, pre, hlog.symm⟩
  · exact .inl ⟨mid, htail.symm⟩

/-- A log grows by events of other kinds. -/
theorem followed_append (htail : ∀ x ∈ tail, ¬ p x)
    (h : ∀ x post, (x :: post) <:+ log → p x → E x (post ++ tail)) :
    Followed p E (log ++ tail) := by
  intro x post hsuffix hx
  rcases cons_suffix_append hsuffix with hnew | ⟨post', rfl, hlog⟩
  · exact absurd hx (htail x (hnew.subset List.mem_cons_self))
  · exact h x post' hlog hx

end

end Lib
end Maverick
