import Maverick.Lib.System
import Maverick.Lib.Total

/-!
# The latency histogram

`CumulativeLatencyMetric`: counters that tasks share without a lock.  A call of `record` is a
sequence of atomic additions, and the additions of several calls interleave.  Durations are
in nanoseconds.

* `Accounted` — a counter and what the calls in progress have still to add make up the sum
  over all calls.
* `latency_exact` — whenever no call is in progress the histogram is exact.
-/

namespace Maverick
namespace Server

open Lib

def TARGET_OPEN_LATENCY_BUCKETS_MS : List Nat := [10, 25, 50, 100, 250, 500, 1000, 2500, 5000, 10000]

/-- The counters of a metric. -/
inductive LatencyCounter where
  | count
  | sumMs
  | bucket (index : Nat)
  deriving DecidableEq

/-- The values of the counters. -/
abbrev CumulativeLatencyMetric := LatencyCounter → Nat

namespace CumulativeLatencyMetric

/-- `AtomicU64::fetch_add` -/
def fetchAdd (m : CumulativeLatencyMetric) (counter : LatencyCounter) (n : Nat) :
    CumulativeLatencyMetric :=
  fun c => if c = counter then (m c + n) % 2 ^ 64 else m c

/-- The loop over the buckets. -/
def bucketAdds (elapsed : Nat) : Nat → List Nat → List (LatencyCounter × Nat)
  | _, [] => []
  | index, bound :: bounds =>
    (if elapsed ≤ bound * 1000000 then [(.bucket index, 1)] else []) ++
      bucketAdds elapsed (index + 1) bounds

/-- `CumulativeLatencyMetric::record`: the counters it adds to, in order. -/
def record (elapsed : Nat) : List (LatencyCounter × Nat) :=
  (.count, 1) :: (.sumMs, min (elapsed / 1000000) (2 ^ 64 - 1)) ::
    (bucketAdds elapsed 0 TARGET_OPEN_LATENCY_BUCKETS_MS ++
      [(.bucket TARGET_OPEN_LATENCY_BUCKETS_MS.length, 1)])

/-- A metric in use: the additions that each call has still to make, and the durations that
the calls are about. -/
structure Run where
  metric : CumulativeLatencyMetric
  calls : List (List (LatencyCounter × Nat))
  recorded : List Nat

inductive Action where
  | record (elapsed : Nat)
  | add (call : Nat)

def system : System Run Action where
  start := ⟨fun _ => 0, [], []⟩
  next s
    | .record elapsed =>
      some { s with calls := s.calls ++ [record elapsed], recorded := s.recorded ++ [elapsed] }
    | .add i =>
      match s.calls[i]? with
      | some ((counter, n) :: adds) =>
        some { s with metric := s.metric.fetchAdd counter n, calls := s.calls.set i adds }
      | _ => none

/-- What the additions add to a counter. -/
def added (c : LatencyCounter) (adds : List (LatencyCounter × Nat)) : Nat :=
  total (fun add => if add.1 = c then add.2 else 0) adds

/-- Nothing is lost between the calls and the counters. -/
structure Accounted (s : Run) : Prop where
  fits : ∀ c, s.metric c < 2 ^ 64
  balanced : ∀ c, (s.metric c + total (added c) s.calls) % 2 ^ 64 =
    total (fun elapsed => added c (record elapsed)) s.recorded % 2 ^ 64

section
variable (c : LatencyCounter)

@[simp] theorem added_nil : added c [] = 0 := rfl

@[simp] theorem added_cons (add : LatencyCounter × Nat) (adds : List (LatencyCounter × Nat)) :
    added c (add :: adds) = (if add.1 = c then add.2 else 0) + added c adds := total_cons ..

@[simp] theorem added_append (adds adds' : List (LatencyCounter × Nat)) :
    added c (adds ++ adds') = added c adds + added c adds' := total_append ..

@[simp] theorem added_ite (p : Prop) [Decidable p] (adds : List (LatencyCounter × Nat)) :
    added c (if p then adds else []) = if p then added c adds else 0 := apply_ite ..

end

variable {s s' : Run} {a : Action} {elapsed : Nat}

theorem Accounted.next (h : Accounted s) (hnext : system.next s a = some s') : Accounted s' := by
  cases a with
  | record elapsed =>
    cases hnext
    refine ⟨h.fits, fun c => ?_⟩
    have hc := h.balanced c
    simp only [total_append, total_cons, total_nil]
    omega
  | add i =>
    simp only [system] at hnext
    split at hnext <;> cases hnext
    rename_i counter n adds hget
    refine ⟨fun c => ?_, fun c => ?_⟩
    · have hc := h.fits c
      dsimp only [fetchAdd]
      split <;> omega
    · have hc := h.balanced c
      have hset := total_set (added c) hget adds
      rw [added_cons] at hset
      dsimp only [fetchAdd] at hset ⊢
      by_cases heq : c = counter
      · rw [if_pos heq.symm] at hset
        rw [if_pos heq]
        omega
      · rw [if_neg (Ne.symm heq)] at hset
        rw [if_neg heq]
        omega

theorem accounted_of_reach (h : system.Reach s) : Accounted s := by
  refine h.invariant (I := Accounted) ⟨fun _ => ?_, fun _ => rfl⟩ fun _ _ _ hs _ hnext =>
    hs.next hnext
  exact Nat.two_pow_pos 64

theorem total_indicator (p : Nat → Bool) (l : List Nat) :
    total (fun a => if p a then 1 else 0) l = l.countP p := by
  induction l with
  | nil => rfl
  | cons a l ih => rw [total_cons, List.countP_cons, ih, Nat.add_comm]

/-- A counter, by what each call adds to it. -/
theorem Accounted.metric_eq {c : LatencyCounter} {f : Nat → Nat} (h : Accounted s)
    (hidle : ∀ adds ∈ s.calls, adds = []) (hf : ∀ elapsed, added c (record elapsed) = f elapsed) :
    s.metric c = total f s.recorded % 2 ^ 64 := by
  have hpending : total (added c) s.calls ≤ s.calls.length * 0 :=
    total_le _ (Nat.le_refl _) fun adds hadds => by rw [hidle adds hadds, added_nil]
  have hfits := h.fits c
  have hbalanced := h.balanced c
  rw [funext hf] at hbalanced
  omega

/-- **Between the calls the histogram is exact**, however they were interleaved: the count and
the last bucket are the number of calls, the sum is that of the milliseconds, and a bucket
counts the calls within its bound, all as `u64`. -/
theorem latency_exact (h : system.Reach s) (hidle : ∀ adds ∈ s.calls, adds = []) :
    s.metric .count = s.recorded.length % 2 ^ 64 ∧ s.metric (.bucket 10) = s.metric .count ∧
    s.metric .sumMs =
      total (fun elapsed => min (elapsed / 1000000) (2 ^ 64 - 1)) s.recorded % 2 ^ 64 ∧
    ∀ i bound, TARGET_OPEN_LATENCY_BUCKETS_MS[i]? = some bound →
      s.metric (.bucket i) = s.recorded.countP (· ≤ bound * 1000000) % 2 ^ 64 := by
  have hs := accounted_of_reach h
  have hone : total (fun _ => 1) s.recorded = s.recorded.length := by simp [total]
  have hcount := hs.metric_eq (c := .count) (f := fun _ => 1) hidle fun elapsed => by
    simp [record, bucketAdds, TARGET_OPEN_LATENCY_BUCKETS_MS]
  have hlast := hs.metric_eq (c := .bucket 10) (f := fun _ => 1) hidle fun elapsed => by
    simp [record, bucketAdds, TARGET_OPEN_LATENCY_BUCKETS_MS]
  refine ⟨hone ▸ hcount, hlast.trans hcount.symm, hs.metric_eq hidle fun elapsed => ?_,
    fun i bound hbound => ?_⟩
  · simp [record, bucketAdds, TARGET_OPEN_LATENCY_BUCKETS_MS]
  · rw [← total_indicator]
    refine hs.metric_eq hidle fun elapsed => ?_
    have hi : i < 10 := (List.getElem?_eq_some_iff.mp hbound).1
    interval_cases i <;> cases hbound <;>
      simp [record, bucketAdds, TARGET_OPEN_LATENCY_BUCKETS_MS]

/-- Two calls whose additions alternate. -/
theorem latency_exact_interleaved : ∃ s : Run, system.Reach s ∧ s.recorded = [25000000, 30000000] ∧
    s.metric (.bucket 1) = 1 ∧ s.metric (.bucket 2) = 2 ∧ s.metric .count = 2 := by
  obtain ⟨s, hreach, hrecorded, hidle⟩ := system.exists_reach
    (fun s => s.recorded = [25000000, 30000000] ∧ ∀ adds ∈ s.calls, adds = [])
    ([.record 25000000, .record 30000000] ++ (List.replicate 11 [.add 0, .add 1]).flatten ++
      [.add 0]) (by decide +kernel)
  obtain ⟨hcount, -, -, hbucket⟩ := latency_exact hreach hidle
  rw [hrecorded] at hcount hbucket
  exact ⟨s, hreach, hrecorded, hbucket 1 25 rfl, hbucket 2 50 rfl, hcount⟩

end CumulativeLatencyMetric
end Server
end Maverick
