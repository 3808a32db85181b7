import Maverick.Lib.Text

/-!
# Form encoding

`application/x-www-form-urlencoded`, as the URL standard has it, on bytes: a component is
written with letters, digits, four other characters, `+` for a blank and `%XX` for the rest;
components are joined by `=` into pairs and these by `&` into a query.

* `parse_serialize` — a query that was written is read as the pairs it was written from.
* `scan` — a reader that wants every `%` to stand before two digits; `decode_of_scan` and
  `scan_encode` relate it to the decoder, which takes any component, and to the encoder.
* `isFormByte_serialize` — the bytes that occur in a query.
-/

namespace Maverick
namespace Lib
namespace FormUrlencoded

/-! ## Components -/

def isUnreserved (b : UInt8) : Bool :=
  (48 ≤ b && b ≤ 57) || (65 ≤ b && b ≤ 90) || (97 ≤ b && b ≤ 122) || (utf8 "*-._").contains b

/-- A hexadecimal digit, in upper case. -/
def hexDigit (n : Nat) : UInt8 := UInt8.ofNat (if n < 10 then 48 + n else 55 + n)

/-- The value of a hexadecimal digit, in any case. -/
def hexValue (b : UInt8) : Option Nat :=
  if 48 ≤ b ∧ b ≤ 57 then some (b.toNat - 48)
  else if 97 ≤ b ∧ b ≤ 102 then some (b.toNat - 87)
  else if 65 ≤ b ∧ b ≤ 70 then some (b.toNat - 55)
  else none

def encodeByte (b : UInt8) : Bytes :=
  if isUnreserved b then [b]
  else if b = 32 then [43]
  else [37, hexDigit (b.toNat / 16), hexDigit (b.toNat % 16)]

/-- The byte serializer. -/
def encode (bs : Bytes) : Bytes := bs.flatMap encodeByte

/-- A plus sign stands for a blank. -/
def plusToSpace (b : UInt8) : UInt8 := if b = 43 then 32 else b

/-- Percent-decoding, with blanks for plus signs: a percent sign that is not in front of two
digits stands for itself. -/
def decode : Bytes → Bytes
  | [] => []
  | b :: rest =>
    let after := decode rest
    if b = 37 then
      match rest with
      | high :: low :: tail =>
        match hexValue high, hexValue low with
        | some h, some l => UInt8.ofNat (16 * h + l) :: decode tail
        | _, _ => 37 :: after
      | _ => 37 :: after
    else plusToSpace b :: after

/-- The same for components in which every percent sign is in front of two digits. -/
def scan : Bytes → Option Bytes
  | [] => some []
  | b :: rest =>
    if b = 37 then
      match rest with
      | high :: low :: tail =>
        match hexValue high, hexValue low with
        | some h, some l => (scan tail).map (UInt8.ofNat (16 * h + l) :: ·)
        | _, _ => none
      | _ => none
    else (scan rest).map (plusToSpace b :: ·)

variable {b : UInt8} {n : Nat} {bs : Bytes} {pair : Bytes × Bytes} {pairs : List (Bytes × Bytes)}

theorem decode_cons_of_ne (h : b ≠ 37) (rest : Bytes) :
    decode (b :: rest) = plusToSpace b :: decode rest := by
  rw [decode.eq_def]
  exact if_neg h

theorem scan_cons_of_ne (h : b ≠ 37) (rest : Bytes) :
    scan (b :: rest) = (scan rest).map (plusToSpace b :: ·) := by
  rw [scan.eq_def]
  exact if_neg h

/-- The decoder reads what the strict reader reads. -/
theorem decode_of_scan {component decoded : Bytes} (h : scan component = some decoded) :
    decode component = decoded := by
  induction component using scan.induct generalizing decoded with
  | case1 =>
    cases h
    rfl
  | case2 high low tail h' l' hhigh hlow ih =>
    simp only [scan, if_true, hhigh, hlow, Option.map_eq_some_iff] at h
    obtain ⟨rest, hrest, rfl⟩ := h
    simp only [decode, if_true, hhigh, hlow, ih hrest]
  | case3 high low tail hbad =>
    simp only [scan, if_true] at h
    cases h
  | case4 rest hshort =>
    simp only [scan, if_true] at h
    cases h
  | case5 b rest hb ih =>
    rw [scan_cons_of_ne hb, Option.map_eq_some_iff] at h
    obtain ⟨after, hafter, rfl⟩ := h
    rw [decode_cons_of_ne hb, ih hafter]

theorem hexValue_hexDigit (h : n < 16) : hexValue (hexDigit n) = some n := by
  revert n
  decide

theorem isUnreserved_ne (h : isUnreserved b = true) : b ≠ 37 ∧ b ≠ 43 := by
  constructor
  · rintro rfl
    exact absurd h (by decide)
  · rintro rfl
    exact absurd h (by decide)

theorem scan_encodeByte (b : UInt8) (rest : Bytes) :
    scan (encodeByte b ++ rest) = (scan rest).map (b :: ·) := by
  rw [encodeByte]
  split
  · next hb =>
    obtain ⟨hpercent, hplus⟩ := isUnreserved_ne hb
    rw [List.singleton_append, scan_cons_of_ne hpercent, plusToSpace, if_neg hplus]
  · split
    · next hb =>
      subst hb
      rw [List.singleton_append, scan_cons_of_ne (by decide)]
      rfl
    · have hlt : b.toNat < 256 := b.toNat_lt
      have hback : UInt8.ofNat (16 * (b.toNat / 16) + b.toNat % 16) = b := by
        rw [Nat.div_add_mod]
        exact UInt8.ofNat_toNat
      simp only [List.cons_append, List.nil_append, scan, if_true,
        hexValue_hexDigit (show b.toNat / 16 < 16 by omega),
        hexValue_hexDigit (show b.toNat % 16 < 16 by omega), hback]

/-- **What is written is read back**, also by the strict reader. -/
theorem scan_encode (bs : Bytes) : scan (encode bs) = some bs := by
  induction bs with
  | nil => rfl
  | cons b bs ih =>
    rw [encode, List.flatMap_cons, scan_encodeByte]
    exact congrArg _ ih

theorem decode_encode (bs : Bytes) : decode (encode bs) = bs := decode_of_scan (scan_encode bs)

/-! ## Queries -/

/-- The parts of a pair around the first `=`; without one, all of it and nothing. -/
def splitPair (pair : Bytes) : Bytes × Bytes :=
  (pair.takeWhile (· ≠ 61), (pair.dropWhile (· ≠ 61)).drop 1)

/-- The parser: pieces between `&` that are not empty, each decoded around its first `=`. -/
def parse (query : Bytes) : List (Bytes × Bytes) :=
  ((query.splitOn 38).filter (· ≠ [])).map fun pair =>
    (decode (splitPair pair).1, decode (splitPair pair).2)

def encodePair (pair : Bytes × Bytes) : Bytes := encode pair.1 ++ 61 :: encode pair.2

/-- The serializer. -/
def serialize (pairs : List (Bytes × Bytes)) : Bytes := [38].intercalate (pairs.map encodePair)

/-- The bytes of an encoded component. -/
def isComponentByte (b : UInt8) : Bool := isUnreserved b || b == 43 || b == 37

theorem isComponentByte_hexDigit (h : n < 16) : isComponentByte (hexDigit n) = true := by
  revert n
  decide

theorem isComponentByte_encode (h : b ∈ encode bs) : isComponentByte b = true := by
  obtain ⟨c, -, hb⟩ := List.mem_flatMap.mp h
  have hlt : c.toNat < 256 := c.toNat_lt
  rw [encodeByte] at hb
  split at hb
  · next hc =>
    rw [List.mem_singleton.mp hb, isComponentByte, hc]
    rfl
  · split at hb
    · rw [List.mem_singleton.mp hb]
      decide
    · simp only [List.mem_cons, List.not_mem_nil, or_false] at hb
      rcases hb with rfl | rfl | rfl
      · decide
      · exact isComponentByte_hexDigit (by omega)
      · exact isComponentByte_hexDigit (by omega)

theorem not_mem_encode (h : isComponentByte b = false) : b ∉ encode bs := by
  intro hmem
  rw [isComponentByte_encode hmem] at h
  cases h

theorem splitPair_encodePair (pair : Bytes × Bytes) :
    splitPair (encodePair pair) = (encode pair.1, encode pair.2) := by
  have hkey : ∀ b ∈ encode pair.1, decide (b ≠ 61) = true := by
    intro b hb
    rw [decide_eq_true_eq]
    rintro rfl
    exact not_mem_encode (by decide) hb
  rw [splitPair, encodePair, List.takeWhile_append_of_pos hkey, List.dropWhile_append_of_pos hkey]
  simp

theorem not_mem_encodePair (h : isComponentByte b = false) (hb : b ≠ 61) : b ∉ encodePair pair := by
  simp [encodePair, not_mem_encode h, hb]

/-- The pieces of a query that was written. -/
theorem splitOn_serialize (h : pairs ≠ []) :
    (serialize pairs).splitOn 38 = pairs.map encodePair := by
  refine List.splitOn_intercalate 38 ?_ (by simpa using h)
  intro piece hpiece
  obtain ⟨pair, -, rfl⟩ := List.mem_map.mp hpiece
  exact not_mem_encodePair (by decide) (by decide)

/-- **A query that was written is read as it was written.** -/
theorem parse_serialize (h : pairs ≠ []) : parse (serialize pairs) = pairs := by
  have hfull : ∀ piece ∈ pairs.map encodePair, decide (piece ≠ []) = true := by
    intro piece hpiece
    obtain ⟨pair, -, rfl⟩ := List.mem_map.mp hpiece
    simp [encodePair]
  rw [parse, splitOn_serialize h, List.filter_eq_self.mpr hfull, List.map_map]
  refine (List.map_congr_left fun pair _ => ?_).trans (List.map_id _)
  simp only [Function.comp_apply, splitPair_encodePair, decode_encode]
  rfl

/-- The bytes of a query. -/
def isFormByte (b : UInt8) : Bool := isComponentByte b || b == 61 || b == 38

theorem isFormByte_encodePair (h : b ∈ encodePair pair) : isFormByte b = true := by
  rcases List.mem_append.mp h with hkey | hrest
  · simp [isFormByte, isComponentByte_encode hkey]
  · rcases List.mem_cons.mp hrest with rfl | hvalue
    · decide
    · simp [isFormByte, isComponentByte_encode hvalue]

theorem isFormByte_serialize : ∀ b ∈ serialize pairs, isFormByte b = true := by
  intro b hb
  induction pairs with
  | nil => cases hb
  | cons pair pairs ih =>
    cases pairs with
    | nil =>
      rw [serialize, List.map_singleton, List.intercalate_singleton] at hb
      exact isFormByte_encodePair hb
    | cons next pairs =>
      rw [serialize, List.map_cons, List.map_cons, List.intercalate_cons_cons] at hb
      simp only [List.mem_append, List.mem_singleton] at hb
      rcases hb with (hb | rfl) | hb
      · exact isFormByte_encodePair hb
      · decide
      · exact ih hb

end FormUrlencoded
end Lib
end Maverick
