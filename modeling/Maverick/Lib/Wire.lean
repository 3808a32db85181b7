import Maverick.Lib.Bytes

/-!
# Writing and reading wire fields

Writers append the bytes of one field; a reader consumes a prefix of its input
or stops with an error.

* `Peels` — a writer whose fields can be told apart at the front of a longer
  byte string, so that a layout is injective as soon as its fields are.
* `Reader.take_eq_ok`, `Reader.word_eq_ok` — a reader succeeds exactly on the
  bytes of its field followed by the rest, and `Reader.bind_eq_ok` carries this
  through a sequence: what is accepted is what would have been written.
-/

namespace Maverick
namespace Lib

/-! ## Writers -/

def putU8 (v : UInt8) : Bytes := [v]
def putU16 (v : UInt16) : Bytes := toBe 2 v.toNat
def putU32 (v : UInt32) : Bytes := toBe 4 v.toNat
def putU64 (v : UInt64) : Bytes := toBe 8 v.toNat
def putI64 (v : Int64) : Bytes := putU64 v.toUInt64

@[simp] theorem length_putU8 (v : UInt8) : (putU8 v).length = 1 := rfl
@[simp] theorem length_putU16 (v : UInt16) : (putU16 v).length = 2 := by simp [putU16]
@[simp] theorem length_putU32 (v : UInt32) : (putU32 v).length = 4 := by simp [putU32]
@[simp] theorem length_putU64 (v : UInt64) : (putU64 v).length = 8 := by simp [putU64]
@[simp] theorem length_putI64 (v : Int64) : (putI64 v).length = 8 := by simp [putI64]

variable {bs : Bytes}

/-- A field of less than `2 ^ 16` bytes starts with its length as a word. -/
theorem prefixed_eq_putU16 (h : bs.length < 2 ^ 16) :
    ∃ len : UInt16, len.toNat = bs.length ∧ prefixed 2 bs = putU16 len ++ bs := by
  refine ⟨UInt16.ofNat bs.length, UInt16.toNat_ofNat_of_lt' h, ?_⟩
  rw [prefixed, putU16, UInt16.toNat_ofNat_of_lt' h]

/-- A field of less than `2 ^ 8` bytes starts with its length as a byte. -/
theorem prefixed_eq_putU8 (h : bs.length < 2 ^ 8) :
    ∃ len : UInt8, len.toNat = bs.length ∧ prefixed 1 bs = putU8 len ++ bs := by
  refine ⟨UInt8.ofNat bs.length, UInt8.toNat_ofNat_of_lt' h, ?_⟩
  simp [prefixed, putU8, toBe]

section Peels

variable {α : Type*}

/-- Fields written by `put` from values in `P` can be peeled off the front of
equal byte strings. -/
def PeelsOn (P : α → Prop) (put : α → Bytes) : Prop :=
  ∀ {a b : α} {r s : Bytes}, P a → P b → put a ++ r = put b ++ s → a = b ∧ r = s

/-- `PeelsOn` for every value. -/
def Peels (put : α → Bytes) : Prop :=
  ∀ {a b : α} {r s : Bytes}, put a ++ r = put b ++ s → a = b ∧ r = s

variable {n : Nat}

/-- An injective writer of constant width peels. -/
theorem peels_of_width {put : α → Bytes} (hlen : ∀ a, (put a).length = n)
    (hinj : Function.Injective put) : Peels put := by
  intro a b r s h
  obtain ⟨hfield, hrest⟩ := List.append_inj h (by rw [hlen, hlen])
  exact ⟨hinj hfield, hrest⟩

theorem peels_putU8 : Peels putU8 :=
  peels_of_width length_putU8 fun _ _ h => List.head_eq_of_cons_eq h

theorem peels_putU16 : Peels putU16 :=
  peels_of_width length_putU16 fun a b h =>
    UInt16.toNat_inj.mp (toBe_inj a.toNat_lt b.toNat_lt h)

theorem peels_putU32 : Peels putU32 :=
  peels_of_width length_putU32 fun a b h =>
    UInt32.toNat_inj.mp (toBe_inj a.toNat_lt b.toNat_lt h)

theorem peels_putU64 : Peels putU64 :=
  peels_of_width length_putU64 fun a b h =>
    UInt64.toNat_inj.mp (toBe_inj a.toNat_lt b.toNat_lt h)

theorem peels_putI64 : Peels putI64 := by
  intro a b r s h
  obtain ⟨hab, hrest⟩ := peels_putU64 h
  refine ⟨?_, hrest⟩
  rw [← a.toInt64_toUInt64, hab, b.toInt64_toUInt64]

theorem peels_block : Peels (fun b : Block n => b.val) :=
  peels_of_width (fun b => b.property) Subtype.val_injective

theorem peels_prefixed (n : Nat) : PeelsOn (fun bs => bs.length < 256 ^ n) (prefixed n) :=
  fun ha hb h => prefixed_append_inj ha hb h

theorem peels_prefixed_utf8 (n : Nat) :
    PeelsOn (fun t => (utf8 t).length < 256 ^ n) (fun t => prefixed n (utf8 t)) := by
  intro a b r s ha hb h
  obtain ⟨hab, hrest⟩ := prefixed_append_inj ha hb h
  exact ⟨utf8_inj hab, hrest⟩

end Peels

/-! ## Codecs -/

section Canonical

variable {α ε : Type}

/-- A codec whose accepted inputs are the encodings of the values within some limits, each
value having one of them. -/
structure Canonical (Limits : α → Prop) (encode : α → Except ε Bytes)
    (decode : Bytes → Except ε α) : Prop where
  /-- Within the limits, a value comes back out of its encoding. -/
  roundTrip : ∀ a, Limits a → ∃ b, encode a = .ok b ∧ decode b = .ok a
  /-- What is accepted is the encoding of its result. -/
  encoded : ∀ b a, decode b = .ok a → Limits a ∧ encode a = .ok b
  /-- No input is accepted that begins with another accepted input. -/
  prefixFree : ∀ b x a a', decode b = .ok a → decode (b ++ x) = .ok a' → x = []

/-- **Canonicity from one equivalence**, for a writer that can be peeled off. -/
theorem canonical_of_bytes {Limits : α → Prop} {encode : α → Except ε Bytes}
    {decode : Bytes → Except ε α} {bytes : α → Bytes}
    (hdecode : ∀ b a, decode b = .ok a ↔ Limits a ∧ b = bytes a)
    (hencode : ∀ a, Limits a → encode a = .ok (bytes a)) (hpeels : PeelsOn Limits bytes) :
    Canonical Limits encode decode where
  roundTrip a ha := ⟨bytes a, hencode a ha, (hdecode _ _).mpr ⟨ha, rfl⟩⟩
  encoded b a h := by
    obtain ⟨ha, rfl⟩ := (hdecode b a).mp h
    exact ⟨ha, hencode a ha⟩
  prefixFree b x a a' h h' := by
    obtain ⟨ha, rfl⟩ := (hdecode b a).mp h
    obtain ⟨ha', hsame⟩ := (hdecode _ a').mp h'
    rw [← List.append_nil (bytes a')] at hsame
    exact (hpeels ha ha' hsame).2

end Canonical

/-! ## Readers -/

/-- A reader of a byte string: it consumes a prefix of the input, or stops. -/
abbrev Reader (ε α : Type) := StateT Bytes (Except ε) α

namespace Reader

variable {ε α β : Type}

variable {p : Reader ε α} {buf : Bytes} {b : β} {a : α} {e short : ε} {u : Unit} {n : Nat}

/-- **Sequencing**: a sequence succeeds exactly when its parts do, one after
the other. -/
theorem bind_eq_ok {f : α → Reader ε β} {rest : Bytes} :
    (p >>= f).run buf = .ok (b, rest) ↔
      ∃ a mid, p.run buf = .ok (a, mid) ∧ (f a).run mid = .ok (b, rest) := by
  rw [StateT.run_bind]
  cases h : p.run buf with
  | error e => simp [bind, Except.bind]
  | ok r =>
    obtain ⟨a, mid⟩ := r
    simp [bind, Except.bind]

theorem pure_eq_ok {b : α} {rest : Bytes} :
    (pure a : Reader ε α).run buf = .ok (b, rest) ↔ a = b ∧ buf = rest := by
  rw [StateT.run_pure]
  simp [pure, Except.pure]

/-- Continue only if the bound check holds of the remaining input. -/
def ensure (ok : Nat → Bool) (e : ε) : Reader ε Unit := fun buf =>
  if ok buf.length then .ok ((), buf) else .error e

/-- Stop if a condition on values already read holds. -/
def reject (c : Prop) [Decidable c] (e : ε) : Reader ε Unit := fun buf =>
  if c then .error e else .ok ((), buf)

/-- Take the next `n` bytes; `short` is what happens when there are fewer. -/
def take (short : ε) (n : Nat) : Reader ε (Block n) := fun buf =>
  if h : n ≤ buf.length then .ok (⟨buf.take n, List.length_take_of_le h⟩, buf.drop n)
  else .error short

/-- The next `n` bytes as a big-endian number. -/
def word (short : ε) (n : Nat) : Reader ε Nat := do
  let bs ← take short n
  return ofBe bs.val

/-- Use a fallible conversion of a value already read. -/
def lift (r : Except ε α) : Reader ε α := fun buf => r.map (·, buf)

/-- All that is left. -/
def rest : Reader ε Bytes := fun buf => .ok (buf, [])

theorem ensure_eq_ok {ok : Nat → Bool} {rest : Bytes} :
    (ensure ok e).run buf = .ok (u, rest) ↔ ok buf.length = true ∧ buf = rest := by
  show (if ok buf.length then .ok ((), buf) else .error e) = Except.ok (u, rest) ↔ _
  split
  · rename_i h; simp [h]
  · rename_i h; simp [h]

theorem reject_eq_ok {c : Prop} [Decidable c] {rest : Bytes} :
    (reject c e).run buf = .ok (u, rest) ↔ ¬ c ∧ buf = rest := by
  show (if c then .error e else .ok ((), buf)) = Except.ok (u, rest) ↔ _
  split
  · rename_i h; simp [h]
  · rename_i h; simp [h]

theorem take_eq_ok {b : Block n} {rest : Bytes} :
    (take short n).run buf = .ok (b, rest) ↔ buf = b.val ++ rest := by
  have hrun : (take short n).run buf = if h : n ≤ buf.length then
      .ok (⟨buf.take n, List.length_take_of_le h⟩, buf.drop n) else .error short := rfl
  rw [hrun]
  constructor
  · intro h
    split at h
    · cases h; exact (List.take_append_drop n buf).symm
    · cases h
  rintro rfl
  have hle : n ≤ (b.val ++ rest).length := by simp [b.property]
  have htake : (b.val ++ rest).take n = b.val := List.take_left' b.property
  have hdrop : (b.val ++ rest).drop n = rest := List.drop_left' b.property
  rw [dif_pos hle]
  simp only [htake, hdrop]

/-- A big-endian number of the width of the field is exactly its word. -/
theorem word_eq_ok {v : Nat} {rest : Bytes} :
    (word short n).run buf = .ok (v, rest) ↔ v < 256 ^ n ∧ buf = toBe n v ++ rest := by
  unfold word
  rw [bind_eq_ok]
  constructor
  · rintro ⟨b, mid, hb, hv⟩
    rw [pure_eq_ok] at hv
    obtain ⟨rfl, rfl⟩ := hv
    have hlt := ofBe_lt b.val
    have hback := toBe_ofBe b.val
    rw [b.property] at hlt hback
    exact ⟨hlt, by rw [hback]; exact take_eq_ok.mp hb⟩
  · rintro ⟨hv, rfl⟩
    exact ⟨⟨toBe n v, length_toBe n v⟩, rest, take_eq_ok.mpr rfl,
      pure_eq_ok.mpr ⟨ofBe_toBe_of_lt hv, rfl⟩⟩

theorem lift_eq_ok {r : Except ε α} {rest : Bytes} :
    (lift r).run buf = .ok (a, rest) ↔ r = .ok a ∧ buf = rest := by
  unfold lift StateT.run
  cases r <;> simp [Except.map]

theorem rest_eq_ok {bs left : Bytes} :
    (rest : Reader ε Bytes).run buf = .ok (bs, left) ↔ buf = bs ∧ left = [] := by
  show Except.ok (buf, []) = Except.ok (bs, left) ↔ _
  simp [eq_comm]

/-- What a reader finds at the front, whatever is behind it. -/
theorem map_fst_eq_ok {input : Bytes} :
    (p.run input).map Prod.fst = .ok a ↔ ∃ rest, p.run input = .ok (a, rest) := by
  cases h : p.run input with
  | error e => simp [Except.map]
  | ok r =>
    obtain ⟨b, rest⟩ := r
    simp [Except.map]

/-! ### Readers of machine words -/

section Words

variable (short : ε)

def getU8 : Reader ε UInt8 := UInt8.ofNat <$> word short 1
def getU16 : Reader ε UInt16 := UInt16.ofNat <$> word short 2
def getU32 : Reader ε UInt32 := UInt32.ofNat <$> word short 4
def getU64 : Reader ε UInt64 := UInt64.ofNat <$> word short 8
def getI64 : Reader ε Int64 := UInt64.toInt64 <$> getU64 short

end Words

theorem map_eq_ok {f : α → β} {rest : Bytes} :
    (f <$> p).run buf = .ok (b, rest) ↔ ∃ a, p.run buf = .ok (a, rest) ∧ f a = b := by
  rw [StateT.run_map]
  cases h : p.run buf with
  | error e => simp [Functor.map, Except.map]
  | ok r =>
    obtain ⟨a, mid⟩ := r
    simp only [Functor.map, Except.map, Except.ok.injEq, Prod.mk.injEq]
    constructor
    · rintro ⟨rfl, rfl⟩; exact ⟨a, ⟨rfl, rfl⟩, rfl⟩
    · rintro ⟨a', ⟨rfl, rfl⟩, rfl⟩; exact ⟨rfl, rfl⟩

/-- Reading a word into a machine integer of the same width. -/
theorem map_word_eq_ok {ofNat : Nat → α} {toNat : α → Nat} (hto : ∀ a, ofNat (toNat a) = a)
    (hof : ∀ v < 256 ^ n, toNat (ofNat v) = v) (hlt : ∀ a, toNat a < 256 ^ n) {rest : Bytes} :
    (ofNat <$> word short n).run buf = .ok (a, rest) ↔ buf = toBe n (toNat a) ++ rest := by
  rw [map_eq_ok]
  constructor
  · rintro ⟨v, hv, rfl⟩
    obtain ⟨hlt', rfl⟩ := word_eq_ok.mp hv
    rw [hof v hlt']
  · rintro rfl
    exact ⟨toNat a, word_eq_ok.mpr ⟨hlt a, rfl⟩, hto a⟩

theorem getU8_eq_ok {v : UInt8} {rest : Bytes} :
    (getU8 short).run buf = .ok (v, rest) ↔ buf = putU8 v ++ rest := by
  have hput : putU8 v = toBe 1 v.toNat := by simp [putU8, toBe]
  rw [hput]
  exact map_word_eq_ok (fun _ => UInt8.ofNat_toNat)
    (fun _ h => UInt8.toNat_ofNat_of_lt' h) UInt8.toNat_lt

theorem getU16_eq_ok {v : UInt16} {rest : Bytes} :
    (getU16 short).run buf = .ok (v, rest) ↔ buf = putU16 v ++ rest :=
  map_word_eq_ok (fun _ => UInt16.ofNat_toNat)
    (fun _ h => UInt16.toNat_ofNat_of_lt' h) UInt16.toNat_lt

theorem getU32_eq_ok {v : UInt32} {rest : Bytes} :
    (getU32 short).run buf = .ok (v, rest) ↔ buf = putU32 v ++ rest :=
  map_word_eq_ok (fun _ => UInt32.ofNat_toNat)
    (fun _ h => UInt32.toNat_ofNat_of_lt' h) UInt32.toNat_lt

theorem getU64_eq_ok {v : UInt64} {rest : Bytes} :
    (getU64 short).run buf = .ok (v, rest) ↔ buf = putU64 v ++ rest :=
  map_word_eq_ok (fun _ => UInt64.ofNat_toNat)
    (fun _ h => UInt64.toNat_ofNat_of_lt' h) UInt64.toNat_lt

theorem getI64_eq_ok {v : Int64} {rest : Bytes} :
    (getI64 short).run buf = .ok (v, rest) ↔ buf = putI64 v ++ rest := by
  unfold getI64
  rw [map_eq_ok]
  constructor
  · rintro ⟨u, hu, rfl⟩
    rw [putI64, UInt64.toUInt64_toInt64]
    exact getU64_eq_ok.mp hu
  · intro h
    exact ⟨v.toUInt64, getU64_eq_ok.mpr h, v.toInt64_toUInt64⟩

end Reader
end Lib
end Maverick
