import Maverick.Lib.Bytes

/-!
# Incremental decoders

A decoder looks at the bytes received so far and either asks for more, takes
one item off the front, or fails.  A `Decoder` is one whose answer does not
change when more bytes arrive: an item taken off the front of a buffer is the
same item with more bytes behind it, and an error stays the same error.

* `Decoder.drain` — take items off a buffer until it asks for more or fails.
* `Decoder.feedAll_eq_drain` — feeding a byte string in chunks, draining after
  each, gives what draining the whole string gives, for every way to cut it.
* `Decoder.next` — take items off until one is not to be skipped; `next_spec` says
  where that leaves the items of the buffer.
* `Decoder.Taken` — the items taken off a stream by `next` so far; kept by each call.
* `Decoder.drain_encoded` — draining the concatenated encodings of some items
  gives these items and leaves nothing; `Decoder.drain_eq_nil_iff` — and nothing else
  does.  `Decoder.next_encoded` — what `next` takes off such a stream.
-/

namespace Maverick
namespace Lib

/-- An incremental decoder with stable answers. -/
structure Decoder (ε α : Type) where
  /-- Ask for more (`none`), or take one item off the front. -/
  decode : Bytes → Except ε (Option (α × Bytes))
  /-- Nothing is decoded from nothing. -/
  decode_nil : decode [] = .ok none
  /-- An item uses up some bytes. -/
  shrinks : ∀ {b : Bytes} {a : α} {r : Bytes}, decode b = .ok (some (a, r)) → r.length < b.length
  /-- More bytes do not change an item. -/
  more_item : ∀ {b : Bytes} {a : α} {r : Bytes} (x : Bytes), decode b = .ok (some (a, r)) →
    decode (b ++ x) = .ok (some (a, r ++ x))
  /-- More bytes do not change an error. -/
  more_error : ∀ {b : Bytes} {e : ε} (x : Bytes), decode b = .error e → decode (b ++ x) = .error e

namespace Decoder

variable {ε α : Type} (D : Decoder ε α)

/-- Take items off a buffer until it asks for more, leaving what remains, or
until it fails. -/
def drain (buf : Bytes) : List α × Except ε Bytes :=
  match h : D.decode buf with
  | .error e => ([], .error e)
  | .ok none => ([], .ok buf)
  | .ok (some (a, rest)) => (a :: (drain rest).1, (drain rest).2)
termination_by buf.length
decreasing_by all_goals exact D.shrinks (by assumption)

/-- Take items off a buffer up to the first that is not skipped; nothing if the
buffer asks for more before. -/
def next (skip : α → Bool) (buf : Bytes) : Except ε (Option α × Bytes) :=
  match h : D.decode buf with
  | .error e => .error e
  | .ok none => .ok (none, buf)
  | .ok (some (a, rest)) => if skip a then next skip rest else .ok (some a, rest)
termination_by buf.length
decreasing_by exact D.shrinks (by assumption)

/-- Append a chunk to what was left and drain again; a failed stream stays
failed. -/
def feed (st : List α × Except ε Bytes) (chunk : Bytes) : List α × Except ε Bytes :=
  match st.2 with
  | .error e => (st.1, .error e)
  | .ok buf => (st.1 ++ (D.drain (buf ++ chunk)).1, (D.drain (buf ++ chunk)).2)

/-- Feed chunks one by one to an empty buffer. -/
def feedAll (chunks : List Bytes) : List α × Except ε Bytes :=
  chunks.foldl D.feed ([], .ok [])

variable {D}

variable {b r buf rest : Bytes} {e : ε} {a : α} {skip : α → Bool}

theorem drain_error (h : D.decode b = .error e) : D.drain b = ([], .error e) := by
  rw [drain]
  split <;> simp_all

theorem drain_none (h : D.decode b = .ok none) : D.drain b = ([], .ok b) := by
  rw [drain]
  split <;> simp_all

theorem drain_some (h : D.decode b = .ok (some (a, r))) :
    D.drain b = (a :: (D.drain r).1, (D.drain r).2) := by
  rw [drain]
  split <;> simp_all

theorem next_error (h : D.decode b = .error e) : D.next skip b = .error e := by
  rw [next]
  split <;> simp_all

theorem next_none (h : D.decode b = .ok none) : D.next skip b = .ok (none, b) := by
  rw [next]
  split <;> simp_all

theorem next_some (h : D.decode b = .ok (some (a, r))) :
    D.next skip b = if skip a then D.next skip r else .ok (some a, r) := by
  rw [next]
  split <;> simp_all

/-- **The next item.**  Behind some skipped items there is an error, or nothing
yet, or the item. -/
theorem next_spec (skip : α → Bool) (buf : Bytes) :
    ∃ skipped : List α, (∀ a ∈ skipped, skip a = true) ∧
      match D.next skip buf with
      | .error e => D.drain buf = (skipped, .error e)
      | .ok (none, rest) => D.drain buf = (skipped, .ok rest) ∧ D.drain rest = ([], .ok rest)
      | .ok (some a, rest) =>
        skip a = false ∧ D.drain buf = (skipped ++ a :: (D.drain rest).1, (D.drain rest).2) := by
  induction buf using next.induct D skip with
  | case1 buf e h =>
    rw [next_error h]
    exact ⟨[], by simp, drain_error h⟩
  | case2 buf h =>
    rw [next_none h]
    exact ⟨[], by simp, drain_none h, drain_none h⟩
  | case3 buf a rest h hskip ih =>
    obtain ⟨skipped, hall, hnext⟩ := ih
    refine ⟨a :: skipped, List.forall_mem_cons.mpr ⟨hskip, hall⟩, ?_⟩
    rw [next_some h, drain_some h, if_pos hskip]
    revert hnext
    split
    · intro hdrain
      rw [hdrain]
    · rintro ⟨hdrain, hrest⟩
      exact ⟨by rw [hdrain], hrest⟩
    · rintro ⟨hkeep, hdrain⟩
      exact ⟨hkeep, by rw [hdrain, List.cons_append]⟩
  | case4 buf a rest h hskip =>
    rw [next_some h, if_neg hskip]
    exact ⟨[], by simp, Bool.eq_false_of_not_eq_true hskip, drain_some h⟩

/-- **Draining in two portions.** -/
theorem drain_append (b x : Bytes) : D.drain (b ++ x) = D.feed (D.drain b) x := by
  induction b using drain.induct D with
  | case1 b e h =>
    rw [drain_error h, drain_error (D.more_error x h)]
    rfl
  | case2 b h =>
    rw [drain_none h]
    simp [feed]
  | case3 b a r h ih =>
    rw [drain_some h, drain_some (D.more_item x h), ih]
    unfold feed
    cases (D.drain r).2 <;> rfl

theorem feed_prepend (l l' : List α) (e : Except ε Bytes) (x : Bytes) :
    (D.feed (l ++ l', e) x).1 = l ++ (D.feed (l', e) x).1 := by
  unfold feed
  cases e with
  | error _ => rfl
  | ok _ => exact List.append_assoc ..

/-- What was drained stays. -/
theorem drain_isPrefix (b x : Bytes) : (D.drain b).1 <+: (D.drain (b ++ x)).1 := by
  rw [drain_append, feed]
  split
  · exact List.prefix_rfl
  · exact List.prefix_append _ _

/-- The next item is the next of the stream, whatever follows the buffer. -/
theorem drain_of_next_some (h : D.next skip buf = .ok (some a, rest)) (x : Bytes) :
    ∃ skipped : List α, (∀ b ∈ skipped, skip b = true) ∧ skip a = false ∧
      (D.drain (buf ++ x)).1 = skipped ++ a :: (D.drain (rest ++ x)).1 := by
  obtain ⟨skipped, hall, hspec⟩ := next_spec (D := D) skip buf
  rw [h] at hspec
  obtain ⟨hkeep, hdrain⟩ := hspec
  refine ⟨skipped, hall, hkeep, ?_⟩
  rw [drain_append, hdrain, feed_prepend, drain_append rest x, ← List.singleton_append,
    feed_prepend, List.singleton_append]

/-- What asks for more leaves only skipped items behind. -/
theorem drain_of_next_none (h : D.next skip buf = .ok (none, rest)) (x : Bytes) :
    ∃ skipped : List α, (∀ b ∈ skipped, skip b = true) ∧
      (D.drain (buf ++ x)).1 = skipped ++ (D.drain (rest ++ x)).1 := by
  obtain ⟨skipped, hall, hspec⟩ := next_spec (D := D) skip buf
  rw [h] at hspec
  obtain ⟨hdrain, hrest⟩ := hspec
  refine ⟨skipped, hall, ?_⟩
  rw [drain_append, hdrain, drain_append rest x, hrest, ← List.append_nil skipped, feed_prepend,
    List.append_nil]

/-! ### What has been taken off a stream -/

/-- These items, and then those of the buffer, are the items of the stream that are not
skipped, whatever follows. -/
def Taken (D : Decoder ε α) (skip : α → Bool) (stream buf : Bytes) (taken : List α) : Prop :=
  ∀ x, (D.drain (stream ++ x)).1.filter (fun a => !skip a) =
    taken ++ (D.drain (buf ++ x)).1.filter fun a => !skip a

theorem Taken.start (skip : α → Bool) (buf : Bytes) : D.Taken skip buf buf [] := fun _ => rfl

theorem filter_skipped {skipped : List α} (h : ∀ a ∈ skipped, skip a = true) (l : List α) :
    (skipped ++ l).filter (fun a => !skip a) = l.filter fun a => !skip a := by
  rw [List.filter_append, List.filter_eq_nil_iff.mpr fun a ha => by simp [h a ha],
    List.nil_append]

section
variable {skip : α → Bool} {stream buf rest : Bytes} {taken : List α}

theorem Taken.item {a : α} (h : D.Taken skip stream buf taken)
    (hnext : D.next skip buf = .ok (some a, rest)) : D.Taken skip stream rest (taken ++ [a]) := by
  intro x
  obtain ⟨skipped, hall, hkeep, hdrain⟩ := drain_of_next_some hnext x
  rw [h x, hdrain, filter_skipped hall, List.filter_cons_of_pos (by simp [hkeep]),
    List.append_assoc, List.singleton_append]

theorem Taken.chunk (h : D.Taken skip stream buf taken)
    (hnext : D.next skip buf = .ok (none, rest)) (chunk : Bytes) :
    D.Taken skip (stream ++ chunk) (rest ++ chunk) taken := by
  intro x
  obtain ⟨skipped, hall, hdrain⟩ := drain_of_next_none hnext (chunk ++ x)
  rw [List.append_assoc, h, hdrain, filter_skipped hall, List.append_assoc]

/-- What has been taken is at the front of the stream. -/
theorem Taken.isPrefix (h : D.Taken skip stream buf taken) :
    taken <+: (D.drain stream).1.filter fun a => !skip a := by
  have hall := h []
  rw [List.append_nil, List.append_nil] at hall
  rw [hall]
  exact List.prefix_append _ _

end

/-- **Chunking independence.** -/
theorem feedAll_eq_drain (chunks : List Bytes) : D.feedAll chunks = D.drain chunks.flatten := by
  induction chunks using List.reverseRecOn with
  | nil =>
    rw [List.flatten_nil, drain_none D.decode_nil]
    rfl
  | append_singleton chunks c ih =>
    rw [List.flatten_append, List.flatten_singleton, drain_append, ← ih]
    simp [feedAll]

/-! ### Streams of encoded items -/

section
variable {encode : α → Bytes} {items : List α}

/-- **Round trip** of a stream of items. -/
theorem drain_encoded (h : ∀ a ∈ items, ∀ x, D.decode (encode a ++ x) = .ok (some (a, x))) :
    D.drain (items.flatMap encode) = (items, .ok []) := by
  induction items with
  | nil => exact drain_none D.decode_nil
  | cons a as ih =>
    rw [List.flatMap_cons, drain_some (h a (by simp) _), ih fun b hb => h b (by simp [hb])]

/-- What `next` does to a buffer that, with what follows it, holds encoded items. -/
theorem next_encoded {skip : α → Bool} {buf x rest : Bytes} {o : Option α}
    (h : ∀ a ∈ items, ∀ x, D.decode (encode a ++ x) = .ok (some (a, x)))
    (hbuf : buf ++ x = items.flatMap encode) (hnext : D.next skip buf = .ok (o, rest)) :
    ∃ skipped left, (∀ a ∈ skipped, skip a = true) ∧ items = skipped ++ (o.toList ++ left) ∧
      rest ++ x = left.flatMap encode := by
  induction items generalizing buf with
  | nil =>
    obtain ⟨rfl, rfl⟩ := List.append_eq_nil_iff.mp hbuf
    rw [next_none D.decode_nil] at hnext
    cases hnext
    exact ⟨[], [], by simp, rfl, rfl⟩
  | cons a items ih =>
    have hwhole := h a List.mem_cons_self (items.flatMap encode)
    rw [← List.flatMap_cons, ← hbuf] at hwhole
    rcases hdecode : D.decode buf with e | ⟨_ | ⟨b, r⟩⟩
    · rw [next_error hdecode] at hnext
      cases hnext
    · rw [next_none hdecode] at hnext
      cases hnext
      exact ⟨[], a :: items, by simp, rfl, hbuf⟩
    · rw [D.more_item x hdecode] at hwhole
      obtain ⟨rfl, hleft⟩ := Prod.mk.inj (Option.some.inj (Except.ok.inj hwhole))
      rw [next_some hdecode] at hnext
      cases hskip : skip b with
      | false =>
        rw [hskip] at hnext
        cases hnext
        exact ⟨[], items, by simp, rfl, hleft⟩
      | true =>
        rw [hskip] at hnext
        obtain ⟨skipped, left, hall, rfl, hrest⟩ :=
          ih (fun c hc => h c (List.mem_cons_of_mem _ hc)) hleft hnext
        exact ⟨b :: skipped, left, List.forall_mem_cons.mpr ⟨hskip, hall⟩, rfl, hrest⟩

end

/-- **What is drained to the end is a sequence of encodings**, for a decoder that takes an
item exactly off its encoding. -/
theorem drain_eq_nil_iff {encode : α → Bytes} {Fits : α → Prop}
    (hdecode : ∀ b a r, D.decode b = .ok (some (a, r)) ↔ Fits a ∧ b = encode a ++ r)
    {items : List α} :
    D.drain b = (items, .ok []) ↔ (∀ a ∈ items, Fits a) ∧ b = items.flatMap encode := by
  constructor
  · intro h
    induction b using drain.induct D generalizing items with
    | case1 b e hb =>
      rw [drain_error hb] at h
      cases h
    | case2 b hb =>
      rw [drain_none hb] at h
      cases h
      exact ⟨List.forall_mem_nil _, rfl⟩
    | case3 b a r hb ih =>
      rw [drain_some hb] at h
      obtain ⟨rfl, hrest⟩ := Prod.mk.inj h
      obtain ⟨hfits, rfl⟩ := (hdecode b a r).mp hb
      obtain ⟨hall, heq⟩ := ih (Prod.ext rfl hrest)
      exact ⟨List.forall_mem_cons.mpr ⟨hfits, hall⟩, congrArg (encode a ++ ·) heq⟩
  · rintro ⟨hall, rfl⟩
    exact drain_encoded fun a ha x => (hdecode _ a x).mpr ⟨hall a ha, rfl⟩

/-- What is drained was decoded. -/
theorem decode_of_mem_drain (h : a ∈ (D.drain b).1) : ∃ x r, D.decode x = .ok (some (a, r)) := by
  induction b using drain.induct D with
  | case1 b e hdecode =>
    rw [drain_error hdecode] at h
    cases h
  | case2 b hdecode =>
    rw [drain_none hdecode] at h
    cases h
  | case3 b item r hdecode ih =>
    rw [drain_some hdecode] at h
    rcases List.mem_cons.mp h with rfl | hrest
    · exact ⟨b, r, hdecode⟩
    · exact ih hrest

end Decoder
end Lib
end Maverick
