import Mathlib.Data.List.Basic
import Mathlib.Data.Option.Basic

/-!
# Views of a list

A list of tasks is read through a view: what a task at a place shows, if there is one
and it shows anything.

* `viewAt_append`, `viewAt_append_none` — one more element at the end.
* `rel_forward`, `rel_backward`, `rel_none_iff` — what a relation of the elements at a place
  says of them; `rel_modify` — a change of one element.
-/

namespace Maverick
namespace Lib

variable {α β : Type} {f : α → Option β} {l : List α}

/-- What the element at a place shows. -/
def viewAt (f : α → Option β) (l : List α) (i : Nat) : Option β := l[i]?.bind f

variable {i k : Nat} {a : α}

theorem viewAt_of_ge (h : l.length ≤ i) : viewAt f l i = none := by
  simp [viewAt, List.getElem?_eq_none h]

theorem viewAt_append (l : List α) (a : α) (i : Nat) :
    viewAt f (l ++ [a]) i = if i = l.length then f a else viewAt f l i := by
  unfold viewAt
  rcases Nat.lt_trichotomy i l.length with hlt | heq | hgt
  · rw [List.getElem?_append_left hlt, if_neg (Nat.ne_of_lt hlt)]
  · simp [heq]
  have hend : (l ++ [a]).length ≤ i := by
    simp only [List.length_append, List.length_singleton]
    omega
  rw [if_neg (Nat.ne_of_gt hgt), List.getElem?_eq_none hend,
    List.getElem?_eq_none (Nat.le_of_lt hgt)]

/-- An element that shows nothing. -/
theorem viewAt_append_none (l : List α) (h : f a = none) : viewAt f (l ++ [a]) = viewAt f l := by
  funext i
  rw [viewAt_append, h]
  split
  · rename_i hi
    exact (viewAt_of_ge (Nat.le_of_eq hi.symm)).symm
  · rfl

/-! ## Related places -/

section Rel

variable {R : α → α → Prop} {o o' o'' : Option α} {b : α}

theorem rel_refl (hR : ∀ a, R a a) (o : Option α) : Option.Rel R o o := by
  cases o with
  | none => exact .none
  | some a => exact .some (hR a)

theorem rel_trans (hR : ∀ {a b c}, R a b → R b c → R a c) (h : Option.Rel R o o')
    (h' : Option.Rel R o' o'') : Option.Rel R o o'' := by
  cases h with
  | none => exact h'
  | some h =>
    cases h' with
    | some h' => exact .some (hR h h')

theorem rel_forward (h : Option.Rel R o o') (ha : o = some a) : ∃ b, o' = some b ∧ R a b := by
  subst ha
  cases h with
  | some h => exact ⟨_, rfl, h⟩

theorem rel_backward (h : Option.Rel R o o') (hb : o' = some b) : ∃ a, o = some a ∧ R a b := by
  subst hb
  cases h with
  | some h => exact ⟨_, rfl, h⟩

theorem rel_none_iff (h : Option.Rel R o o') : o' = none ↔ o = none := by
  cases h <;> simp

theorem rel_mono {S : α → α → Prop} (hRS : ∀ {a b}, R a b → S a b) (h : Option.Rel R o o') :
    Option.Rel S o o' := by
  cases h with
  | none => exact .none
  | some h => exact .some (hRS h)

theorem rel_map_eq {g : α → β} (hg : ∀ a b, R a b → g b = g a) (h : Option.Rel R o o') :
    o'.map g = o.map g := by
  cases h with
  | none => rfl
  | some h => exact congrArg some (hg _ _ h)

/-- What the elements show is related too. -/
theorem rel_bind {S : β → β → Prop} (hf : ∀ {a b}, R a b → Option.Rel S (f a) (f b))
    (h : Option.Rel R o o') : Option.Rel S (o.bind f) (o'.bind f) := by
  cases h with
  | none => exact .none
  | some h => exact hf h

theorem rel_modify (hR : ∀ a, R a a) {g : α → α} (hg : ∀ a, l[k]? = some a → R a (g a)) (i : Nat) :
    Option.Rel R l[i]? (l.modify k g)[i]? := by
  rw [List.getElem?_modify]
  cases hget : l[i]? with
  | none => exact .none
  | some a =>
    by_cases hi : k = i
    · subst hi
      simpa using hg a hget
    · simpa [hi] using hR a

end Rel

end Lib
end Maverick
