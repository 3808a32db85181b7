import Mathlib.Data.List.Basic
import Mathlib.Data.Nat.Basic
import Mathlib.Tactic

/-!
# Byte strings: big-endian words and length-prefixed fields

A small theory of wire formats built by concatenation.

* `toBe`, `ofBe` — the big-endian word of a given width and its value.
  They are inverse on words of the right width (`ofBe_toBe`,
  `toBe_ofBe`), so writing a word loses nothing that fits in it.
* `toBe_append_inj`, `prefixed_append_inj` — a layout is read back field by
  field: a word of known width, or a field preceded by its own length, can be
  peeled off the front of two equal byte strings.
* `utf8`, `fromUtf8` — the bytes of a string and the validating conversion
  back, inverse to each other (`fromUtf8_utf8`, `utf8_of_fromUtf8`).
-/

namespace Maverick
namespace Lib

/-- A byte string. -/
abbrev Bytes := List UInt8

/-- What holds of every number below 256 holds of every byte. -/
@[elab_as_elim] theorem forall_byte {motive : UInt8 → Prop}
    (number : ∀ n : Fin 256, motive (UInt8.ofNat n)) (b : UInt8) : motive b := by
  have hb := number ⟨b.toNat, b.toNat_lt⟩
  rwa [UInt8.ofNat_toNat] at hb

/-- A byte array of a fixed length, such as `[u8; 32]`. -/
abbrev Block (n : Nat) := { bs : Bytes // bs.length = n }

/-- One byte, repeated. -/
def Block.fill (n : Nat) (byte : UInt8) : Block n := ⟨List.replicate n byte, List.length_replicate⟩

/-! ## Big-endian words -/

/-- The `n`-byte big-endian word of `v`; the part of `v` that does not fit is
dropped, as a narrowing cast does. -/
def toBe : Nat → Nat → Bytes
  | 0, _ => []
  | n + 1, v => UInt8.ofNat (v / 256 ^ n) :: toBe n v

/-- The number a big-endian word stands for. -/
def ofBe : Bytes → Nat
  | [] => 0
  | b :: bs => b.toNat * 256 ^ bs.length + ofBe bs

@[simp] theorem length_toBe (n v : Nat) : (toBe n v).length = n := by
  induction n with
  | zero => rfl
  | succ n ih => simp [toBe, ih]

theorem ofBe_lt (bs : Bytes) : ofBe bs < 256 ^ bs.length := by
  induction bs with
  | nil => simp [ofBe]
  | cons b bs ih =>
    have hb : b.toNat < 256 := b.toNat_lt
    have hmul : (b.toNat + 1) * 256 ^ bs.length ≤ 256 * 256 ^ bs.length :=
      Nat.mul_le_mul_right _ hb
    simp only [ofBe, List.length_cons, pow_succ']
    linarith [hmul, ih]

/-- Reading a word back gives the value modulo the word size. -/
theorem ofBe_toBe (n v : Nat) : ofBe (toBe n v) = v % 256 ^ n := by
  induction n with
  | zero => simp [toBe, ofBe, Nat.mod_one]
  | succ n ih =>
    have hb : (UInt8.ofNat (v / 256 ^ n)).toNat = v / 256 ^ n % 256 := by simp
    rw [toBe, ofBe, ih, length_toBe, hb, pow_succ, Nat.mod_mul]
    ring

variable {n v w : Nat} {r s : Bytes}

theorem ofBe_toBe_of_lt (h : v < 256 ^ n) : ofBe (toBe n v) = v := by
  rw [ofBe_toBe, Nat.mod_eq_of_lt h]

/-- The high-order part of a value does not reach the low-order bytes. -/
theorem toBe_add_mul (n a v : Nat) : toBe n (a * 256 ^ n + v) = toBe n v := by
  induction n generalizing a with
  | zero => rfl
  | succ n ih =>
    have hpow : a * 256 ^ (n + 1) = a * 256 * 256 ^ n := by rw [pow_succ]; ring
    have hdiv : (a * 256 ^ (n + 1) + v) / 256 ^ n = a * 256 + v / 256 ^ n := by
      rw [hpow, Nat.add_comm, Nat.add_mul_div_right _ _ (by positivity), Nat.add_comm]
    have hbyte : UInt8.ofNat (a * 256 + v / 256 ^ n) = UInt8.ofNat (v / 256 ^ n) := by
      apply UInt8.toNat_inj.mp
      simp
    rw [toBe, toBe, hdiv, hbyte, hpow, ih (a * 256)]

/-- Writing back what was read gives the same bytes. -/
theorem toBe_ofBe (bs : Bytes) : toBe bs.length (ofBe bs) = bs := by
  induction bs with
  | nil => rfl
  | cons b bs ih =>
    have hdiv : (b.toNat * 256 ^ bs.length + ofBe bs) / 256 ^ bs.length = b.toNat := by
      rw [Nat.add_comm, Nat.add_mul_div_right _ _ (by positivity),
        Nat.div_eq_of_lt (ofBe_lt bs), Nat.zero_add]
    rw [List.length_cons, toBe, ofBe, hdiv, toBe_add_mul, ih, UInt8.ofNat_toNat]

theorem toBe_inj (hv : v < 256 ^ n) (hw : w < 256 ^ n) (h : toBe n v = toBe n w) : v = w := by
  rw [← ofBe_toBe_of_lt hv, h, ofBe_toBe_of_lt hw]

/-! ## Peeling fields off a layout -/

/-- A word of known width is determined by the bytes it starts. -/
theorem toBe_append_inj (hv : v < 256 ^ n) (hw : w < 256 ^ n) (h : toBe n v ++ r = toBe n w ++ s) :
    v = w ∧ r = s := by
  obtain ⟨hword, hrest⟩ := List.append_inj h (by simp)
  exact ⟨toBe_inj hv hw hword, hrest⟩

/-- A field preceded by its own length, in `n` bytes. -/
def prefixed (n : Nat) (bs : Bytes) : Bytes := toBe n bs.length ++ bs

@[simp] theorem length_prefixed (n : Nat) (bs : Bytes) : (prefixed n bs).length = n + bs.length := by
  simp [prefixed]

/-- A length-prefixed field is determined by the bytes it starts, as long as
both lengths fit in the prefix. -/
theorem prefixed_append_inj {a b : Bytes} (ha : a.length < 256 ^ n) (hb : b.length < 256 ^ n)
    (h : prefixed n a ++ r = prefixed n b ++ s) : a = b ∧ r = s := by
  simp only [prefixed, List.append_assoc] at h
  obtain ⟨hlen, hrest⟩ := toBe_append_inj ha hb h
  exact List.append_inj hrest hlen

/-! ## Strings -/

/-- The UTF-8 bytes of a string. -/
def utf8 (s : String) : Bytes := s.toByteArray.data.toList

/-- The string with the given UTF-8 bytes, if they are valid UTF-8. -/
def fromUtf8 (bs : Bytes) : Option String := String.fromUTF8? ⟨bs.toArray⟩

@[simp] theorem fromUtf8_utf8 (s : String) : fromUtf8 (utf8 s) = some s := by
  simp [fromUtf8, utf8, String.fromUTF8?, s.isValidUTF8, String.fromUTF8]

theorem utf8_of_fromUtf8 {bs : Bytes} {s : String} (h : fromUtf8 bs = some s) : utf8 s = bs := by
  unfold fromUtf8 String.fromUTF8? at h
  split at h
  · cases h; simp [utf8, String.fromUTF8]
  · cases h

theorem utf8_inj {s t : String} (h : utf8 s = utf8 t) : s = t := by
  have hs := fromUtf8_utf8 s
  rw [h, fromUtf8_utf8] at hs
  exact (Option.some.inj hs).symm

end Lib
end Maverick
