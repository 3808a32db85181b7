import Mathlib.Data.List.Basic
import Mathlib.Algebra.BigOperators.Group.List.Basic
import Mathlib.Tactic

/-!
# Totals over lists

The sum of a quantity over a list, as a resource account: what a list holds in all,
and how the total follows an update of one element.

* `total_set` — an update of one element changes the total by the difference of its
  old and its new share.
* `total_le` — a list of bounded length with bounded shares.
* `total_le_countP` — the same, where only the elements with a property have a share.
* `countP_set_add` — the same for the number of elements with a property.
-/

namespace Maverick
namespace Lib

variable {α : Type} (f : α → Nat)

/-- The sum of `f` over a list. -/
def total (l : List α) : Nat := (l.map f).sum

@[simp] theorem total_nil : total f [] = 0 := rfl

@[simp] theorem total_cons (a : α) (l : List α) : total f (a :: l) = f a + total f l := by
  simp [total]

@[simp] theorem total_append (l l' : List α) : total f (l ++ l') = total f l + total f l' := by
  simp [total]

variable {a : α} {l : List α} {p : α → Bool} {i : Nat}

/-- What one element holds is part of the total. -/
theorem le_total (h : a ∈ l) : f a ≤ total f l := List.le_sum_of_mem (List.mem_map_of_mem h)

theorem total_le {n b : Nat} (hlength : l.length ≤ n) (hshare : ∀ a ∈ l, f a ≤ b) :
    total f l ≤ n * b := by
  have hlist := (l.map f).sum_le_card_nsmul b (List.forall_mem_map.mpr hshare)
  rw [List.length_map, smul_eq_mul] at hlist
  exact hlist.trans (Nat.mul_le_mul_right b hlength)

theorem total_le_countP {b : Nat} (hshare : ∀ a ∈ l, f a ≤ if p a then b else 0) :
    total f l ≤ l.countP p * b := by
  induction l with
  | nil => exact Nat.zero_le _
  | cons a l ih =>
    obtain ⟨hfirst, hrest⟩ := List.forall_mem_cons.mp hshare
    have hl := ih hrest
    rw [total_cons, List.countP_cons, Nat.add_mul, Nat.add_comm]
    refine Nat.add_le_add hl (hfirst.trans_eq ?_)
    split <;> simp

theorem total_le_total {f g : α → Nat} (h : ∀ a ∈ l, f a ≤ g a) : total f l ≤ total g l :=
  List.sum_le_sum h

theorem total_add (g : α → Nat) (l : List α) :
    total (fun a => f a + g a) l = total f l + total g l := List.sum_map_add

theorem total_mul (c : Nat) (l : List α) : total (fun a => f a * c) l = total f l * c :=
  List.sum_map_mul_right l f c

theorem total_map {β : Type} (g : β → α) (l : List β) :
    total f (l.map g) = total (fun b => f (g b)) l := by
  simp [total, Function.comp_def]

theorem total_set (h : l[i]? = some a) (b : α) : total f (l.set i b) + f a = total f l + f b := by
  induction l generalizing i with
  | nil => simp at h
  | cons c l ih =>
    cases i with
    | zero =>
      simp only [List.getElem?_cons_zero, Option.some.injEq] at h
      subst h
      simp only [List.set_cons_zero, total_cons]
      omega
    | succ i =>
      simp only [List.getElem?_cons_succ] at h
      simp only [List.set_cons_succ, total_cons]
      have := ih h
      omega

/-- What an update of one element keeps, all elements keep. -/
theorem forall_mem_modify {P : α → Prop} {g : α → α} (h : ∀ a ∈ l, P a)
    (hg : ∀ a, l[i]? = some a → P a → P (g a)) : ∀ a ∈ l.modify i g, P a := by
  intro b hb
  obtain ⟨j, hj⟩ := List.mem_iff_getElem?.mp hb
  rw [List.getElem?_modify] at hj
  obtain ⟨a, ha, rfl⟩ := Option.map_eq_some_iff.mp hj
  have hP := h a (List.mem_of_getElem? ha)
  split
  · rename_i hij
    exact hg a (hij ▸ ha) hP
  · exact hP

/-- One more element. -/
theorem forall_mem_snoc {P : α → Prop} (h : ∀ x ∈ l, P x) (ha : P a) : ∀ x ∈ l ++ [a], P x :=
  List.forall_mem_append.mpr ⟨h, List.forall_mem_singleton.mpr ha⟩

theorem forall_mem_set {P : α → Prop} {b : α} (h : ∀ x ∈ l, P x) (hb : P b) :
    ∀ x ∈ l.set i b, P x := fun x hx =>
  (List.mem_or_eq_of_mem_set hx).elim (h x) fun heq => heq ▸ hb

theorem forall_mem_tail {P : α → Prop} {rest : List α} (h : ∀ x ∈ l, P x) (hl : l = a :: rest) :
    ∀ x ∈ rest, P x :=
  (List.forall_mem_cons.mp (hl ▸ h)).2

/-! ## Counts -/

omit f in
/-- Replacing one element of a list moves a count by that element alone. -/
theorem countP_set_add {b : α} (h : l[i]? = some a) :
    (l.set i b).countP p + (if p a then 1 else 0) = l.countP p + (if p b then 1 else 0) := by
  obtain ⟨hlt, hget⟩ := List.getElem?_eq_some_iff.mp h
  rw [List.countP_set hlt, hget]
  have hpos : (if p a then 1 else 0) ≤ l.countP p := by
    split
    · next hp => exact List.countP_pos_iff.mpr ⟨a, List.mem_of_getElem? h, hp⟩
    · exact Nat.zero_le _
  omega

omit f in
/-- A count by the value of a function: what is counted has a value in the set. -/
theorem sum_countP_fiber {κ : Type} [DecidableEq κ] {S : Finset κ} {g : α → κ}
    (h : ∀ a ∈ l, p a = true → g a ∈ S) :
    ∑ k ∈ S, l.countP (fun a => p a && g a == k) = l.countP p := by
  induction l with
  | nil => simp
  | cons a l ih =>
    obtain ⟨hfirst, hrest⟩ := List.forall_mem_cons.mp h
    simp only [List.countP_cons, Finset.sum_add_distrib, ih hrest]
    congr 1
    cases hp : p a with
    | false => simp
    | true => simp [hfirst hp]

theorem getD_map_le {o : Option α} {b : Nat} (h : ∀ a ∈ o, f a ≤ b) : (o.map f).getD 0 ≤ b := by
  cases o with
  | none => exact Nat.zero_le b
  | some a => exact h a rfl

end Lib
end Maverick
