import Maverick.Core.Frame
import Maverick.Lib.System
import Maverick.Lib.Total

/-!
# The DNS listener of the client

`serve_dns_with_pool`: a loop that takes datagrams from a local socket, with one task for each
query.  A task holds a permit of the flow limit, which all listeners of the client share,
sends its query through a tunnel of its own, and sends the answer back to the peer.

* `DnsTask.step_spec` — what a step of a task keeps.
* `DnsRelay.Sound` — the permits, the tasks and the replies in every run.
* `dns_permits_kept`, `dns_replies_matched` — what follows for the flow limit and the peers.
-/

namespace Maverick
namespace Client

open Lib

def DNS_FLOW_ID : UInt64 := 1
def MAX_DNS_PACKET_SIZE : Nat := 65535

/-! ## A query -/

/-- Where the task of a query waits. -/
inductive DnsTaskPhase where
  | opening
  | sending
  | reading
  /-- in `finish_response`, with the answer or after an `Error` frame -/
  | finishing (response : Option Bytes)
  | replying (response : Bytes)
  | ended (panicked : Bool)
  | joined
  deriving DecidableEq

structure DnsTask where
  peer : SocketAddr
  query : Bytes
  /-- the frame that was sent -/
  request : Option Frame
  /-- the frame that was read -/
  answer : Option Frame
  phase : DnsTaskPhase
  deriving DecidableEq

/-- What a task waits for. -/
inductive DnsTaskStep where
  | opened (ok : Bool)
  | sent (ok : Bool)
  /-- `read_next_frame`: an error, the end of the stream or a frame -/
  | read (frame : Except Unit (Option Frame))
  | finished (ok : Bool)
  | replied (ok : Bool)
  | panicked

namespace DnsTask

variable {t t' : DnsTask} {a : DnsTaskStep} {out : Option Bytes}

/-- The task runs, and holds its permit. -/
def live (t : DnsTask) : Bool :=
  match t.phase with
  | .ended _ | .joined => false
  | _ => true

def enter (t : DnsTask) (phase : DnsTaskPhase) : DnsTask := { t with phase := phase }

/-- The frame of a query. -/
def queryFrame (t : DnsTask) : Frame := ⟨.dnsQuery, 0, DNS_FLOW_ID, t.query⟩

/-- `resolve_with_tunnel`, and the reply of its task: the datagram that is sent, if any. -/
def step (t : DnsTask) (a : DnsTaskStep) : Option (DnsTask × Option Bytes) :=
  match t.phase, a with
  | .opening, .opened ok => some (t.enter (if ok then .sending else .ended false), none)
  | .sending, .sent true => some (enter { t with request := some t.queryFrame } .reading, none)
  | .sending, .sent false => some (t.enter (.ended false), none)
  | .reading, .read (.ok (some frame)) =>
    if frame.frameType = .dnsResponse ∧ frame.flowId = DNS_FLOW_ID then
      some (enter { t with answer := some frame } (.finishing (some frame.payload)), none)
    else if frame.frameType = .error then some (t.enter (.finishing none), none)
    else some (t.enter (.ended false), none)
  | .reading, .read _ => some (t.enter (.ended false), none)
  | .finishing (some response), .finished true => some (t.enter (.replying response), none)
  | .finishing _, .finished _ => some (t.enter (.ended false), none)
  | .replying response, .replied ok =>
    some (t.enter (.ended false), if ok then some response else none)
  | _, .panicked => if t.live then some (t.enter (.ended true), none) else none
  | _, _ => none

/-- The payload answers the query: it was read as a `DnsResponse` of the flow, after the query
was sent. -/
def Answers (t : DnsTask) (payload : Bytes) : Prop :=
  t.request = some t.queryFrame ∧ ∃ frame, t.answer = some frame ∧
    frame.frameType = .dnsResponse ∧ frame.flowId = DNS_FLOW_ID ∧ frame.payload = payload

/-- What is known of a query by the place where its task waits. -/
def Matched (t : DnsTask) : Prop :=
  match t.phase with
  | .reading => t.request = some t.queryFrame
  | .finishing (some payload) | .replying payload => t.Answers payload
  | _ => True

theorem step_spec (hm : t.Matched) (h : t.step a = some (t', out)) :
    t.live = true ∧ t'.peer = t.peer ∧ t'.Matched ∧
      ∀ payload ∈ out, t'.live = false ∧ t'.Answers payload := by
  unfold DnsTask.step at h
  unfold Matched at hm
  split at h <;> (try split at h) <;> (try split at h) <;> cases h
  all_goals simp_all [live, enter, Matched]
  -- what is left: the query is sent, the answer is read, passed on and sent
  · rfl
  · rename_i hresponse
    exact ⟨rfl, _, rfl, hresponse.1, hresponse.2, rfl⟩
  · exact hm
  · exact hm

end DnsTask

/-! ## The listener -/

inductive DnsRelayPhase where
  | running
  /-- after the shutdown, with all tasks aborted -/
  | draining
  | returned (ok : Bool)
  deriving DecidableEq

/-- A datagram that the task of a query has sent back. -/
structure DnsReply where
  task : Nat
  peer : SocketAddr
  payload : Bytes
  deriving DecidableEq

/-- The listener.  A task keeps its place in the list when it is joined. -/
structure DnsRelay where
  permits : Nat
  /-- permits that other listeners hold -/
  others : Nat
  tasks : List DnsTask
  sent : List DnsReply
  phase : DnsRelayPhase

inductive DnsRelayAction where
  | shutdown
  | received (peer : SocketAddr) (query : Bytes)
  | recvFailed
  | task (i : Nat) (a : DnsTaskStep)
  /-- a task that was aborted is dropped at its next await -/
  | cancelled (i : Nat)
  | join (i : Nat)
  | finish
  | othersAcquire
  | othersRelease

namespace DnsRelay

/-- A task goes on; at its end it gives its permit back. -/
def setTask (s : DnsRelay) (i : Nat) (t : DnsTask) : DnsRelay :=
  { s with tasks := s.tasks.set i t, permits := s.permits + if t.live then 0 else 1 }

/-- `serve_dns_with_pool` -/
def next (s : DnsRelay) : DnsRelayAction → Option DnsRelay
  | .shutdown => if s.phase = .running then some { s with phase := .draining } else none
  | .received peer query =>
    if s.phase = .running ∧ query.length ≤ MAX_DNS_PACKET_SIZE then
      if peer.ip.isLoopback = false ∨ s.permits = 0 then some s
      else some { s with
        permits := s.permits - 1
        tasks := s.tasks ++ [⟨peer, query, none, none, .opening⟩] }
    else none
  | .recvFailed => if s.phase = .running then some s else none
  | .task i a => do
    let t ← s.tasks[i]?
    let r ← t.step a
    let s' := s.setTask i r.1
    return { s' with sent := s.sent ++ r.2.toList.map (⟨i, t.peer, ·⟩) }
  | .cancelled i => do
    let t ← s.tasks[i]?
    if t.live ∧ s.phase ≠ .running then some (s.setTask i (t.enter (.ended false))) else none
  | .join i => do
    let t ← s.tasks[i]?
    match s.phase, t.phase with
    | .returned _, _ => none
    | _, .ended true => some { s with phase := .returned false }
    | _, .ended false => some { s with tasks := s.tasks.set i (t.enter .joined) }
    | _, _ => none
  | .finish =>
    if s.phase = .draining ∧ ∀ t ∈ s.tasks, t.phase = .joined then
      some { s with phase := .returned true }
    else none
  | .othersAcquire =>
    if s.permits = 0 then none
    else some { s with permits := s.permits - 1, others := s.others + 1 }
  | .othersRelease =>
    if s.others = 0 then none
    else some { s with permits := s.permits + 1, others := s.others - 1 }

/-- The listener of a client with so many permits. -/
def system (limit : Nat) : System DnsRelay DnsRelayAction where
  start := ⟨limit, 0, [], [], .running⟩
  next := next

variable {limit i : Nat} {s s' : DnsRelay} {t t' : DnsTask} {tasks : List DnsTask}

/-- A reply is the answer to the query of its task, sent to the peer of that query. -/
def Replied (tasks : List DnsTask) (r : DnsReply) : Prop :=
  ∃ t, tasks[r.task]? = some t ∧ t.live = false ∧ t.peer = r.peer ∧ t.Answers r.payload

structure Sound (limit : Nat) (s : DnsRelay) : Prop where
  permits : s.permits + s.others + s.tasks.countP DnsTask.live = limit
  tasks : ∀ t ∈ s.tasks, t.peer.ip.isLoopback = true ∧ t.Matched
  sent : ∀ r ∈ s.sent, Replied s.tasks r
  once : (s.sent.map DnsReply.task).Nodup
  drained : s.phase = .returned true → ∀ t ∈ s.tasks, t.phase = .joined

/-- The replies of the other tasks stay, and those of a task whose query stays answered. -/
theorem Replied.set {r : DnsReply} (h : Replied tasks r) (hget : tasks[i]? = some t)
    (hkeep : t.live = false → t'.live = false ∧ t'.peer = t.peer ∧
      ∀ payload, t.Answers payload → t'.Answers payload) : Replied (tasks.set i t') r := by
  obtain ⟨u, hu, hlive, hpeer, hanswers⟩ := h
  by_cases hi : r.task = i
  · subst hi
    cases hu.symm.trans hget
    obtain ⟨hlive', hpeer', hanswers'⟩ := hkeep hlive
    have hlt := (List.getElem?_eq_some_iff.mp hget).1
    exact ⟨t', List.getElem?_set_self hlt, hlive', hpeer'.trans hpeer, hanswers' _ hanswers⟩
  · exact ⟨u, by rwa [List.getElem?_set_ne (Ne.symm hi)], hlive, hpeer, hanswers⟩

/-- A task that runs goes on. -/
theorem Sound.setTask (h : Sound limit s) (hget : s.tasks[i]? = some t) (hlive : t.live = true)
    (hpeer : t'.peer = t.peer) (hmatched : t'.Matched) : Sound limit (s.setTask i t') where
  permits := by
    have hcount := countP_set_add (p := DnsTask.live) (b := t') hget
    have hpermits := h.permits
    simp only [DnsRelay.setTask, hlive, if_true] at hcount ⊢
    cases hended : t'.live <;> simp only [hended] at hcount ⊢ <;> simp at hcount ⊢ <;> omega
  tasks := forall_mem_set h.tasks
    ⟨by rw [hpeer]; exact (h.tasks t (List.mem_of_getElem? hget)).1, hmatched⟩
  sent r hr := (h.sent r hr).set hget fun hnot => absurd hlive (by simp [hnot])
  once := h.once
  drained hphase := by
    have hjoined := h.drained hphase t (List.mem_of_getElem? hget)
    simp [DnsTask.live, hjoined] at hlive

theorem Sound.next {a : DnsRelayAction} (h : Sound limit s) (hnext : s.next a = some s') :
    Sound limit s' := by
  have hpermits := h.permits
  cases a with
  | shutdown =>
    obtain ⟨-, ⟨⟩⟩ := Option.ite_none_right_eq_some.mp hnext
    exact { h with drained := nofun }
  | received peer query =>
    obtain ⟨⟨hrunning, -⟩, hnext⟩ := Option.ite_none_right_eq_some.mp hnext
    split at hnext <;> cases hnext
    · exact h
    · next hadmitted =>
      simp only [not_or, Bool.not_eq_false] at hadmitted
      refine ⟨?_, forall_mem_snoc h.tasks ⟨hadmitted.1, trivial⟩, fun r hr => ?_, h.once, ?_⟩
      · simp only [List.countP_append, List.countP_singleton, DnsTask.live, if_true]
        omega
      · obtain ⟨t, ht, hreplied⟩ := h.sent r hr
        have hlt := (List.getElem?_eq_some_iff.mp ht).1
        exact ⟨t, by rwa [List.getElem?_append_left hlt], hreplied⟩
      · rw [hrunning]
        nofun
  | recvFailed =>
    obtain ⟨-, ⟨⟩⟩ := Option.ite_none_right_eq_some.mp hnext
    exact h
  | task i a =>
    simp only [DnsRelay.next, Option.bind_eq_bind, Option.bind_eq_some_iff, Option.pure_def] at hnext
    obtain ⟨t, hget, ⟨t', out⟩, hstep, ⟨⟩⟩ := hnext
    obtain ⟨hlive, hpeer, hmatched, hout⟩ :=
      DnsTask.step_spec (h.tasks t (List.mem_of_getElem? hget)).2 hstep
    have hset := h.setTask hget hlive hpeer hmatched
    cases out with
    | none =>
      simp only [Option.toList_none, List.map_nil, List.append_nil]
      exact { hset with }
    | some payload =>
      obtain ⟨hended, hanswers⟩ := hout payload rfl
      have hlt := (List.getElem?_eq_some_iff.mp hget).1
      refine { hset with sent := forall_mem_snoc hset.sent ?_, once := ?_ }
      · exact ⟨t', List.getElem?_set_self hlt, hended, hpeer, hanswers⟩
      · -- a task that has sent its reply has ended
        rw [Option.toList_some, List.map_singleton, List.map_append, List.nodup_append_comm]
        refine List.nodup_cons.mpr ⟨fun hmem => ?_, h.once⟩
        obtain ⟨r, hr, rfl⟩ := List.mem_map.mp hmem
        obtain ⟨u, hu, hnot, -⟩ := h.sent r hr
        cases hu.symm.trans hget
        cases hlive.symm.trans hnot
  | cancelled i =>
    obtain ⟨t, hget, hnext⟩ := Option.bind_eq_some_iff.mp hnext
    obtain ⟨⟨hlive, -⟩, ⟨⟩⟩ := Option.ite_none_right_eq_some.mp hnext
    exact h.setTask hget hlive rfl trivial
  | join i =>
    obtain ⟨t, hget, hnext⟩ := Option.bind_eq_some_iff.mp hnext
    split at hnext <;> cases hnext
    · exact { h with drained := nofun }
    · next hphase hrunning =>
      have hcount := countP_set_add (p := DnsTask.live) (b := t.enter .joined) hget
      have hmem := h.tasks t (List.mem_of_getElem? hget)
      simp only [DnsTask.live, DnsTask.enter, hphase] at hcount
      refine ⟨?_, forall_mem_set h.tasks ⟨hmem.1, trivial⟩, fun r hr => (h.sent r hr).set hget
        fun _ => ⟨rfl, rfl, fun _ hanswers => hanswers⟩, h.once, fun hreturned => ?_⟩
      · simp_all [DnsTask.enter]
      · exact absurd hreturned (hrunning _)
  | finish =>
    obtain ⟨⟨-, hjoined⟩, ⟨⟩⟩ := Option.ite_none_right_eq_some.mp hnext
    exact { h with drained := fun _ => hjoined }
  | othersAcquire | othersRelease =>
    obtain ⟨hsome, ⟨⟩⟩ := Option.ite_none_left_eq_some.mp hnext
    exact { h with permits := by dsimp only; omega }

theorem sound_of_reach (h : (system limit).Reach s) : Sound limit s := by
  refine h.invariant (I := Sound limit) ?_ fun _ _ _ hs _ hnext => hs.next hnext
  constructor <;> simp [system]

/-- **The listener keeps the flow limit.**  Its queries and the flows of the other listeners
are never more than the permits, no permit is lost, and a listener that has returned after
a shutdown holds none. -/
theorem dns_permits_kept (h : (system limit).Reach s) :
    s.permits + s.others + s.tasks.countP DnsTask.live = limit ∧
      (s.phase = .returned true → s.tasks.countP DnsTask.live = 0) := by
  have hs := sound_of_reach h
  refine ⟨hs.permits, fun hphase => List.countP_eq_zero.mpr fun t ht => ?_⟩
  simp [DnsTask.live, hs.drained hphase t ht]

/-- **Replies go where the queries came from**: a datagram is sent to a loopback peer only,
as the answer to a query of that peer, and no query is answered twice. -/
theorem dns_replies_matched (h : (system limit).Reach s) :
    (s.sent.map DnsReply.task).Nodup ∧ ∀ r ∈ s.sent, r.peer.ip.isLoopback = true ∧
      ∃ t, s.tasks[r.task]? = some t ∧ t.peer = r.peer ∧ t.Answers r.payload := by
  have hs := sound_of_reach h
  refine ⟨hs.once, fun r hr => ?_⟩
  obtain ⟨t, hget, -, hpeer, hanswers⟩ := hs.sent r hr
  have hloopback := (hs.tasks t (List.mem_of_getElem? hget)).1
  exact ⟨hpeer ▸ hloopback, t, hget, hpeer, hanswers⟩

namespace Sample

def peer (port : UInt16) : SocketAddr := ⟨.v4 ⟨127, 0, 0, 1⟩, port⟩

/-- The query of a task is answered. -/
def answer (i : Nat) (response : Bytes) : List DnsRelayAction :=
  [.task i (.opened true), .task i (.sent true),
    .task i (.read (.ok (some ⟨.dnsResponse, 0, 1, response⟩))), .task i (.finished true),
    .task i (.replied true)]

/-- Two queries, the later one answered first; and the listener is shut down. -/
def answered : List DnsRelayAction :=
  [.received (peer 5300) [7], .received (peer 5301) [9]] ++ answer 1 [10] ++ answer 0 [8] ++
    [.shutdown, .join 0, .join 1, .finish]

end Sample

theorem dns_permits_kept_shutdown : ∃ s : DnsRelay, (system 2).Reach s ∧
    s.phase = .returned true ∧ s.permits + s.others + s.tasks.countP DnsTask.live = 2 ∧
    s.tasks.countP DnsTask.live = 0 := by
  obtain ⟨s, hreach, hphase⟩ :=
    (system 2).exists_reach (fun s => s.phase = .returned true) Sample.answered (by decide +kernel)
  obtain ⟨hpermits, hlive⟩ := dns_permits_kept hreach
  exact ⟨s, hreach, hphase, hpermits, hlive hphase⟩

theorem dns_replies_matched_once : ∃ s : DnsRelay, (system 2).Reach s ∧
    s.sent = [⟨1, Sample.peer 5301, [10]⟩, ⟨0, Sample.peer 5300, [8]⟩] ∧
    (s.sent.map DnsReply.task).Nodup ∧ ∀ r ∈ s.sent, r.peer.ip.isLoopback = true ∧
      ∃ t, s.tasks[r.task]? = some t ∧ t.peer = r.peer ∧ t.Answers r.payload := by
  obtain ⟨s, hreach, hsent⟩ := (system 2).exists_reach
    (fun s => s.sent = [⟨1, Sample.peer 5301, [10]⟩, ⟨0, Sample.peer 5300, [8]⟩])
    Sample.answered (by decide +kernel)
  exact ⟨s, hreach, hsent, dns_replies_matched hreach⟩

end DnsRelay
end Client
end Maverick
