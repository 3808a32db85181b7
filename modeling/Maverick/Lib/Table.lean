import Mathlib.Data.List.AList
import Mathlib.Tactic

/-!
# Finite tables

Hash maps are modelled by Mathlib's association lists with distinct keys
(`AList`), read through `lookup`.  This file adds what the library does not
have: the number of entries (`size`), keys that can be entered one after the
other without a clash (`Fresh`), updating every value and dropping some of them
(`retain`, as in `HashMap::retain`), and the value under a key with a default
for a missing one.

Every operation comes with the `lookup` equation that later proofs use; no
proof outside this file looks at the underlying list.
-/

namespace Maverick
namespace Lib

/-- A finite map from `κ` to `α`. -/
abbrev Table (κ α : Type) := AList fun _ : κ => α

namespace Table

variable {κ α : Type} [DecidableEq κ]

/-- The number of keys of a table. -/
def size (t : Table κ α) : Nat := t.entries.length

omit [DecidableEq κ] in
theorem size_eq_length_keys (t : Table κ α) : size t = t.keys.length := by
  simp [size, AList.keys, List.keys]

/-- The keys of a table as a finite set; its cardinality is the size. -/
def keySet (t : Table κ α) : Finset κ := t.keys.toFinset

variable {t : Table κ α} {k k' : κ} {β : Type} {a b : α} {keys : List κ} {P : α → Prop}

@[simp] theorem mem_keySet : k ∈ keySet t ↔ (t.lookup k).isSome := by
  rw [keySet, List.mem_toFinset, ← AList.mem_keys, AList.lookup_isSome]

theorem card_keySet (t : Table κ α) : (keySet t).card = size t := by
  rw [keySet, List.toFinset_card_of_nodup t.keys_nodup, size_eq_length_keys]

/-- Two tables with the same keys have the same size. -/
theorem size_congr {u : Table κ β} (h : ∀ k, (t.lookup k).isSome = (u.lookup k).isSome) :
    size t = size u := by
  rw [← card_keySet, ← card_keySet]
  congr 1
  ext k
  rw [mem_keySet, mem_keySet, h k]

/-- Inserting under a new key adds one entry. -/
theorem size_insert_of_not_mem (h : t.lookup k = none) (a : α) :
    size (t.insert k a) = size t + 1 := by
  have hk : k ∉ t := AList.lookup_eq_none.mp h
  rw [size, AList.entries_insert_of_notMem hk]
  rfl

/-- Inserting under a present key keeps the number of entries. -/
theorem size_insert_of_mem (h : t.lookup k = some b) (a : α) : size (t.insert k a) = size t := by
  refine size_congr fun k' => ?_
  by_cases hk : k' = k
  · subst hk; simp [h]
  · rw [AList.lookup_insert_ne hk]

/-- Erasing a present key removes one entry. -/
theorem size_erase (h : t.lookup k = some a) : size (t.erase k) + 1 = size t := by
  have hk : k ∈ t.keys := by
    rw [← AList.mem_keys, ← AList.lookup_isSome, h]
    rfl
  rw [size_eq_length_keys, AList.keys_erase, List.length_erase_add_one hk, size_eq_length_keys]

/-- A value of a table after an insertion is the new one or was there before. -/
theorem lookup_insert_eq_some (h : (t.insert k a).lookup k' = some b) :
    (k' = k ∧ b = a) ∨ (k' ≠ k ∧ t.lookup k' = some b) := by
  by_cases hk : k' = k
  · subst hk
    rw [AList.lookup_insert] at h
    exact .inl ⟨rfl, (Option.some.inj h).symm⟩
  · rw [AList.lookup_insert_ne hk] at h
    exact .inr ⟨hk, h⟩

/-- A value that is left after an erasure was there before, under another key. -/
theorem lookup_erase_eq_some (h : (t.erase k).lookup k' = some b) : k' ≠ k ∧ t.lookup k' = some b := by
  by_cases hk : k' = k
  · subst hk
    rw [AList.lookup_erase] at h
    cases h
  · rw [AList.lookup_erase_ne hk] at h
    exact ⟨hk, h⟩

theorem lookup_insert_eq_none : (t.insert k a).lookup k' = none ↔ k' ≠ k ∧ t.lookup k' = none := by
  by_cases hk : k' = k
  · subst hk
    simp
  · rw [AList.lookup_insert_ne hk]
    simp [hk]

/-! ## Entering keys one after the other -/

/-- Distinct keys, none of which is in the table. -/
def Fresh (t : Table κ α) (keys : List κ) : Prop := keys.Nodup ∧ ∀ k ∈ keys, t.lookup k = none

theorem fresh_nil (t : Table κ α) : Fresh t [] := ⟨List.nodup_nil, List.forall_mem_nil _⟩

theorem fresh_empty : Fresh (∅ : Table κ α) keys ↔ keys.Nodup :=
  and_iff_left fun _ _ => AList.lookup_empty _

/-- A key is entered, and the others are to be entered after it. -/
theorem fresh_cons (a : α) :
    Fresh t (k :: keys) ↔ t.lookup k = none ∧ Fresh (t.insert k a) keys := by
  simp only [Fresh, List.nodup_cons, List.forall_mem_cons, lookup_insert_eq_none]
  constructor
  · rintro ⟨⟨hk, hnodup⟩, hnone, hkeys⟩
    exact ⟨hnone, hnodup, fun k' hk' => ⟨fun heq => hk (heq ▸ hk'), hkeys k' hk'⟩⟩
  · rintro ⟨hnone, hnodup, hkeys⟩
    exact ⟨⟨fun hk => (hkeys k hk).1 rfl, hnodup⟩, hnone, fun k' hk' => (hkeys k' hk').2⟩

/-- What is entered stays, whatever is entered after it. -/
theorem isSome_lookup_foldl_insert (key : β → κ) (value : β → α) (l : List β)
    (h : (t.lookup k).isSome ∨ k ∈ l.map key) :
    ((l.foldl (fun t b => t.insert (key b) (value b)) t).lookup k).isSome := by
  induction l generalizing t with
  | nil => simpa using h
  | cons b l ih =>
    refine ih ?_
    rw [List.map_cons, List.mem_cons] at h
    by_cases hk : k = key b
    · subst hk
      exact .inl (by rw [AList.lookup_insert]; rfl)
    · rw [AList.lookup_insert_ne hk]
      exact h.imp_right fun h => h.resolve_left hk

/-! ## What all values have in common -/

/-- Every value of the table has the property. -/
def Every (t : Table κ α) (P : α → Prop) : Prop := ∀ k a, t.lookup k = some a → P a

theorem every_empty (P : α → Prop) : Every (∅ : Table κ α) P := by
  intro k a h
  simp at h

theorem Every.insert (h : Every t P) (k : κ) (ha : P a) : Every (t.insert k a) P := by
  intro k' b hb
  rcases lookup_insert_eq_some hb with ⟨-, rfl⟩ | ⟨-, hb⟩
  · exact ha
  · exact h k' b hb

theorem Every.erase (h : Every t P) (k : κ) : Every (t.erase k) P := by
  intro k' b hb
  exact h k' b (lookup_erase_eq_some hb).2

theorem Every.of_mem_entries (h : Every t P) {e : Σ _ : κ, α} (he : e ∈ t.entries) : P e.2 :=
  h e.1 e.2 (AList.mem_lookup_iff.mpr he)

/-! ## How many values have a property -/

def countP (p : α → Bool) (t : Table κ α) : Nat := t.entries.countP fun e => p e.2

/-- Distinct keys of values with the property are no more than these values. -/
theorem length_le_countP {p : α → Bool} (hnodup : keys.Nodup)
    (h : ∀ k ∈ keys, ∃ a, t.lookup k = some a ∧ p a = true) : keys.length ≤ countP p t := by
  have hsub : keys ⊆ (t.entries.filter fun e => p e.2).map Sigma.fst := by
    intro k hk
    obtain ⟨a, ha, hp⟩ := h k hk
    refine List.mem_map.mpr ⟨⟨k, a⟩, List.mem_filter.mpr ⟨?_, hp⟩, rfl⟩
    exact AList.mem_lookup_iff.mp ha
  have hle := (List.subperm_of_subset hnodup hsub).length_le
  rwa [List.length_map, ← List.countP_eq_length_filter] at hle

/-! ## Sums over the values -/

/-- The sum of a quantity of the values. -/
def sum (f : α → Nat) (t : Table κ α) : Nat := (t.entries.map fun e => f e.2).sum

/-- The sum by keys. -/
theorem sum_eq_sum_keySet (f : α → Nat) (t : Table κ α) :
    sum f t = ∑ k ∈ keySet t, ((t.lookup k).map f).getD 0 := by
  have hvalue : ∀ e ∈ t.entries, f e.2 = ((t.lookup e.1).map f).getD 0 := by
    intro e he
    rw [Option.mem_def.mp (AList.mem_lookup_iff.mpr he)]
    rfl
  have hkeys : t.entries.map (fun e => ((t.lookup e.1).map f).getD 0) =
      t.keys.map fun k => ((t.lookup k).map f).getD 0 := by
    rw [AList.keys, List.keys, List.map_map]
    rfl
  rw [sum, List.map_congr_left hvalue, hkeys, keySet, List.sum_toFinset _ t.keys_nodup]

/-! ## Updating and dropping entries -/

section Retain

variable {β : Type} (f : κ → α → Option β)

/-- One entry under `retain`: updated, or dropped. -/
def retainEntry (e : Σ _ : κ, α) : Option (Σ _ : κ, β) := (f e.1 e.2).map fun b => ⟨e.1, b⟩

omit [DecidableEq κ] in
theorem keys_filterMap_sublist (l : List (Σ _ : κ, α)) :
    (l.filterMap (retainEntry f)).keys.Sublist l.keys := by
  induction l with
  | nil => exact List.Sublist.refl _
  | cons e l ih =>
    cases he : f e.1 e.2 with
    | none =>
      rw [List.filterMap_cons_none (by simp [retainEntry, he])]
      exact ih.cons e.1
    | some b =>
      rw [List.filterMap_cons_some (b := ⟨e.1, b⟩) (by simp [retainEntry, he])]
      exact ih.cons_cons e.1

/-- Apply `f` to every value and keep the entries where it returns one. -/
def retain (t : Table κ α) : Table κ β where
  entries := t.entries.filterMap (retainEntry f)
  nodupKeys := List.Nodup.sublist (keys_filterMap_sublist f t.entries) t.nodupKeys

theorem dlookup_filterMap_retainEntry (k : κ) : ∀ l : List (Σ _ : κ, α), l.NodupKeys →
    (l.filterMap (retainEntry f)).dlookup k = (l.dlookup k).bind (f k) := by
  intro l
  induction l with
  | nil => intro _; rfl
  | cons e l ih =>
    intro hnd
    obtain ⟨k', a⟩ := e
    obtain ⟨hk', hl⟩ := List.nodupKeys_cons.mp hnd
    by_cases hk : k = k'
    · subst hk
      rw [List.dlookup_cons_eq]
      cases ha : f k a with
      | none =>
        -- the entry is dropped, and no later one has its key
        have hnone : l.dlookup k = none := List.dlookup_eq_none.mpr hk'
        rw [List.filterMap_cons_none (by simp [retainEntry, ha]), ih hl, hnone]
        simp [ha]
      | some b =>
        rw [List.filterMap_cons_some (b := ⟨k, b⟩) (by simp [retainEntry, ha]),
          List.dlookup_cons_eq]
        simp [ha]
    · rw [List.dlookup_cons_ne l ⟨k', a⟩ hk]
      cases ha : f k' a with
      | none => rw [List.filterMap_cons_none (by simp [retainEntry, ha]), ih hl]
      | some b =>
        rw [List.filterMap_cons_some (b := ⟨k', b⟩) (by simp [retainEntry, ha]),
          List.dlookup_cons_ne _ (⟨k', b⟩ : Σ _ : κ, β) hk, ih hl]

/-- **What `retain` leaves under a key** is what `f` makes of the value there. -/
@[simp] theorem lookup_retain (t : Table κ α) (k : κ) :
    (retain f t).lookup k = (t.lookup k).bind (f k) :=
  dlookup_filterMap_retainEntry f k t.entries t.nodupKeys

omit [DecidableEq κ] in
/-- `retain` adds no entry. -/
theorem size_retain_le (t : Table κ α) : size (retain f t) ≤ size t :=
  List.length_filterMap_le _ _

end Retain

end Table
end Lib
end Maverick
