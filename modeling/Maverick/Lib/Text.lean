import Mathlib.Data.String.Basic
import Maverick.Lib.Bytes

/-!
# Searching and cutting text

The operations of a string library on lists of characters, and the search for a pattern
on lists in general.

* `position`, `FirstSplit` — where a pattern first occurs; `firstSplit_of_position` and
  `position_eq_of_firstSplit` relate the search to the decomposition of the list,
  `FirstSplit.append` says that more elements behind do not change it.
* `splitOnce`, `rsplitOnce` — the parts around an occurrence (`eq_of_rsplitOnce`).
* `splitWhitespace`, `firstLine` — the pieces are sublists of the text, so none takes more
  bytes than the text does (`length_utf8_ofList_le`).
-/

namespace Maverick
namespace Lib

/-! ## The first occurrence of a pattern -/

section Search

variable {α : Type*}

/-- The list is cut at the first occurrence of the pattern. -/
structure FirstSplit (pattern xs before after : List α) : Prop where
  eq : xs = before ++ (pattern ++ after)
  first : ∀ b a, xs = b ++ (pattern ++ a) → before.length ≤ b.length

variable {pattern xs before after : List α}

theorem FirstSplit.unique {before' after' : List α} (h : FirstSplit pattern xs before after)
    (h' : FirstSplit pattern xs before' after') : before = before' ∧ after = after' := by
  have hlen : before.length = before'.length :=
    le_antisymm (h.first _ _ h'.eq) (h'.first _ _ h.eq)
  obtain ⟨hbefore, hrest⟩ := List.append_inj (h.eq.symm.trans h'.eq) hlen
  exact ⟨hbefore, List.append_cancel_left hrest⟩

/-- **More behind does not move the first occurrence.** -/
theorem FirstSplit.append (h : FirstSplit pattern xs before after)
    (ys : List α) : FirstSplit pattern (xs ++ ys) before (after ++ ys) := by
  have heq : xs ++ ys = before ++ (pattern ++ (after ++ ys)) := by
    rw [h.eq]
    simp only [List.append_assoc]
  refine ⟨heq, fun b a hother => ?_⟩
  -- an occurrence further to the front would lie within `xs`
  by_contra hlt
  rw [not_le] at hlt
  have hinside : b.length + pattern.length ≤ xs.length := by
    have hxs := congrArg List.length h.eq
    simp only [List.length_append] at hxs
    omega
  have hfront : b ++ pattern <+: xs := by
    refine List.prefix_of_prefix_length_le ⟨a, ?_⟩ (List.prefix_append xs ys) ?_
    · rw [hother, List.append_assoc]
    · rwa [List.length_append]
  obtain ⟨rest, hrest⟩ := hfront
  have hcut : xs = b ++ (pattern ++ rest) := by rw [← hrest, List.append_assoc]
  exact absurd (h.first _ _ hcut) (by omega)

variable [DecidableEq α]

/-- The first position at which the pattern is found. -/
def position (pattern : List α) : List α → Option Nat
  | [] => none
  | x :: xs => if pattern <+: x :: xs then some 0 else (position pattern xs).map (· + 1)

/-- The cut is where the search finds the pattern. -/
theorem position_eq_of_firstSplit (hpattern : pattern ≠ [])
    (h : FirstSplit pattern xs before after) : position pattern xs = some before.length := by
  induction xs generalizing before with
  | nil =>
    have hnil := h.eq
    simp [hpattern] at hnil
  | cons x xs ih =>
    rw [position]
    split
    · next hfound =>
        obtain ⟨rest, hrest⟩ := hfound
        have hzero := h.first [] rest hrest.symm
        simp only [List.length_nil, Nat.le_zero_eq] at hzero
        rw [hzero]
    · next hmissing =>
        match before, h with
        | [], h => exact absurd ⟨after, h.eq.symm⟩ hmissing
        | y :: before, h =>
          have htail : FirstSplit pattern xs before after := by
            refine ⟨(List.cons.inj h.eq).2, fun b a hsplit => ?_⟩
            have hfirst := h.first (x :: b) a (by rw [hsplit]; rfl)
            simpa using hfirst
          rw [ih htail]
          rfl

/-- **The search finds the first occurrence.** -/
theorem firstSplit_of_position {i : Nat} (h : position pattern xs = some i) :
    FirstSplit pattern xs (xs.take i) (xs.drop (i + pattern.length)) ∧
      (xs.take i).length = i := by
  induction xs generalizing i with
  | nil => cases h
  | cons x xs ih =>
    rw [position] at h
    split at h
    · next hfound =>
        cases h
        obtain ⟨rest, hrest⟩ := hfound
        refine ⟨⟨?_, fun _ _ _ => Nat.zero_le _⟩, rfl⟩
        rw [← hrest]
        simp
    · next hmissing =>
        obtain ⟨j, hj, rfl⟩ := Option.map_eq_some_iff.mp h
        obtain ⟨hsplit, hlen⟩ := ih hj
        have hdrop : (x :: xs).drop (j + 1 + pattern.length) = xs.drop (j + pattern.length) := by
          rw [Nat.add_right_comm]
          rfl
        refine ⟨⟨?_, fun b a hother => ?_⟩, by simpa using hlen⟩
        · rw [hdrop, List.take_succ_cons, List.cons_append, ← hsplit.eq]
        cases b with
        | nil => exact absurd ⟨a, hother.symm⟩ hmissing
        | cons y b =>
          have hfirst := hsplit.first b a (List.cons.inj hother).2
          simpa using hfirst

/-- An occurrence is found, or one before it. -/
theorem position_isSome (hpattern : pattern ≠ []) (before after : List α) :
    (position pattern (before ++ (pattern ++ after))).isSome = true := by
  induction before with
  | nil =>
    cases hrest : pattern ++ after with
    | nil => simp [hpattern] at hrest
    | cons x xs =>
      have hfound : pattern <+: x :: xs := ⟨after, hrest⟩
      rw [List.nil_append, position, if_pos hfound]
      rfl
  | cons x before ih =>
    rw [List.cons_append, position]
    split
    · rfl
    · rwa [Option.isSome_map]

/-- The parts before and behind the first occurrence of the pattern. -/
def splitOnce (pattern xs : List α) : Option (List α × List α) :=
  (position pattern xs).map fun i => (xs.take i, xs.drop (i + pattern.length))

/-- The parts before and behind the last occurrence of an element. -/
def rsplitOnce (x : α) (xs : List α) : Option (List α × List α) :=
  (splitOnce [x] xs.reverse).map fun (behind, before) => (before.reverse, behind.reverse)

variable {a b : List α}

/-- The cut is at the last occurrence. -/
theorem eq_of_rsplitOnce {x : α} (h : rsplitOnce x xs = some (a, b)) : xs = a ++ x :: b ∧ x ∉ b := by
  obtain ⟨⟨behind, before⟩, hsplit, hab⟩ := Option.map_eq_some_iff.mp h
  obtain ⟨i, hi, heq⟩ := Option.map_eq_some_iff.mp hsplit
  cases hab
  have hfirst := (firstSplit_of_position hi).1
  rw [(Prod.mk.inj heq).1, (Prod.mk.inj heq).2] at hfirst
  constructor
  · rw [← List.reverse_inj, hfirst.eq]
    simp
  · intro hmem
    -- an occurrence behind it would come first from the other end
    obtain ⟨u, v, huv⟩ := List.append_of_mem (List.mem_reverse.mp hmem)
    have hle := hfirst.first u (v ++ ([x] ++ before)) (by rw [hfirst.eq, huv]; simp)
    rw [huv, List.length_append, List.length_cons] at hle
    omega

end Search

/-! ## Words and lines -/

/-- The characters with the `White_Space` property. -/
def isWhitespace (c : Char) : Bool :=
  let n := c.toNat
  (0x09 ≤ n && n ≤ 0x0D) || n == 0x20 || n == 0x85 || n == 0xA0 || n == 0x1680
    || (0x2000 ≤ n && n ≤ 0x200A) || n == 0x2028 || n == 0x2029 || n == 0x202F || n == 0x205F
    || n == 0x3000

/-- The words of a text. -/
def splitWhitespace (text : List Char) : List (List Char) :=
  (text.splitOnP isWhitespace).filter (· ≠ [])

/-- The first line of a text, without its line feed and a carriage return before that. -/
def firstLine (text : List Char) : Option (List Char) :=
  if text = [] then none
  else
    let line := text.takeWhile (· ≠ '\n')
    some (if line.length < text.length ∧ line.getLast? = some '\r' then line.dropLast else line)

/-- An unsigned decimal number below a limit, with an optional plus sign. -/
def parseUnsigned (limit : Nat) (text : List Char) : Option Nat :=
  let digits : List Char := match text with
    | '+' :: rest => rest
    | cs => cs
  let number := digits.foldl (fun n c => n * 10 + (c.toNat - '0'.toNat)) 0
  if digits ≠ [] ∧ digits.all Char.isDigit = true ∧ number < limit then some number else none

variable {text word : List Char} {b : UInt8}

theorem sublist_of_mem_splitOnP {p : Char → Bool} (h : word ∈ text.splitOnP p) : word.Sublist text := by
  induction text generalizing word with
  | nil =>
    rw [List.splitOnP_nil, List.mem_singleton] at h
    rw [h]
  | cons c text ih =>
    rw [List.splitOnP_cons_eq_if_modifyHead] at h
    split at h
    · rcases List.mem_cons.mp h with rfl | h
      · exact List.nil_sublist _
      · exact (ih h).cons c
    cases hwords : text.splitOnP p with
    | nil =>
      rw [hwords] at h
      cases h
    | cons first rest =>
      rw [hwords, List.modifyHead_cons] at h
      rcases List.mem_cons.mp h with rfl | h
      · exact (ih (by rw [hwords]; exact List.mem_cons_self)).cons_cons c
      · exact (ih (by rw [hwords]; exact List.mem_cons_of_mem _ h)).cons c

theorem sublist_of_mem_splitWhitespace (h : word ∈ splitWhitespace text) : word.Sublist text :=
  sublist_of_mem_splitOnP (List.mem_filter.mp h).1

theorem sublist_of_firstLine {line : List Char} (h : firstLine text = some line) :
    line.Sublist text := by
  unfold firstLine at h
  split at h
  · cases h
  cases h
  have htake : (text.takeWhile (· ≠ '\n')).Sublist text := List.takeWhile_sublist _
  split
  · exact (List.dropLast_sublist _).trans htake
  · exact htake

theorem length_utf8_ofList (cs : List Char) :
    (utf8 (String.ofList cs)).length = String.utf8Len cs := by
  rw [← String.utf8ByteSize_ofList]
  rfl

/-- **A piece of a text takes no more bytes than the text.** -/
theorem length_utf8_ofList_le {cs : List Char} {text : String} (h : cs.Sublist text.toList) :
    (utf8 (String.ofList cs)).length ≤ (utf8 text).length := by
  have htext : utf8 text = utf8 (String.ofList text.toList) := by rw [String.ofList_toList]
  rw [htext, length_utf8_ofList, length_utf8_ofList]
  exact String.utf8Len_le_of_sublist h

/-! ## ASCII -/

/-- The text with these bytes, if they are ASCII. -/
def asciiText (bs : Bytes) : String := String.ofList (bs.map fun b => Char.ofNat b.toNat)

theorem toNat_asciiChar (h : b < 128) : (Char.ofNat b.toNat).toNat = b.toNat := by
  have hvalid : b.toNat.isValidChar := .inl ((UInt8.lt_iff_toNat_lt.mp h).trans (by decide))
  rw [Char.ofNat, dif_pos hvalid]
  rfl

theorem utf8EncodeChar_ascii (h : b < 128) : String.utf8EncodeChar (Char.ofNat b.toNat) = [b] := by
  have hval : (Char.ofNat b.toNat).val.toNat = b.toNat := toNat_asciiChar h
  have hlt : b.toNat ≤ 127 := Nat.le_of_lt_succ (UInt8.lt_iff_toNat_lt.mp h)
  unfold String.utf8EncodeChar
  dsimp only
  rw [hval, if_pos hlt, UInt8.ofNat_toNat]

theorem utf8_asciiText {bs : Bytes} (h : ∀ b ∈ bs, b < 128) : utf8 (asciiText bs) = bs := by
  induction bs with
  | nil => rfl
  | cons b bs ih =>
    have hcons : utf8 (asciiText (b :: bs)) =
        String.utf8EncodeChar (Char.ofNat b.toNat) ++ utf8 (asciiText bs) := by
      simp [asciiText, utf8, String.toByteArray_ofList, List.utf8Encode_singleton]
    rw [hcons, utf8EncodeChar_ascii (h b List.mem_cons_self),
      ih fun c hc => h c (List.mem_cons_of_mem _ hc), List.singleton_append]

end Lib
end Maverick
