import Maverick.Tun.Replies
import Maverick.Tun.Uploads

/-!
# Who owns what

Sockets, tasks and answers of the packet runtime belong to one flow, association or query
each.  `flows_apart` and `responses_attributed` state what the invariants of the other
modules give together, in every run.
-/

namespace Maverick
namespace Tun
namespace Runtime

open Lib

variable {config : PacketRuntimeConfig} {s : Runtime}

/-- **No flow shares its socket or its task**, with another flow, a UDP target or an
association.  Its task was started under its key, and the actor still holds the sending end of
the command channel; the task itself may have ended. -/
theorem flows_apart (h : (system config).Reach s) {key : TcpFlowKey} {entry : TcpEntry}
    (hkey : s.tcp.lookup key = some entry) :
    (s.engine.sockets.kind entry.handle = some .tcp ∧
      ∃ w, s.tcpWorker entry.worker = some w ∧ w.key = key ∧ w.senderAlive = true) ∧
    (∀ key' entry', s.tcp.lookup key' = some entry' → key' ≠ key →
      entry'.handle ≠ entry.handle ∧ entry'.worker ≠ entry.worker) ∧
    (∀ target entry', s.udpTargets.lookup target = some entry' → entry'.handle ≠ entry.handle) ∧
    ∀ key' entry', s.udpAssociations.lookup key' = some entry' → entry'.worker ≠ entry.worker := by
  obtain ⟨hplaced, hattached⟩ := attached_of_reach h
  have htcp := hplaced.tcp.valid hkey
  have hworker := hattached.tcp hkey
  refine ⟨⟨htcp, hworker⟩, fun key' entry' hkey' hne => ⟨?_, ?_⟩, fun target entry' htarget heq => ?_,
    fun key' entry' hkey' heq => ?_⟩
  · exact fun heq => hne (hplaced.tcp.inj hkey' hkey heq)
  · exact fun heq => hne (hattached.key_unique hkey' hkey heq)
  · have hudp := hplaced.udp.valid htarget
    rw [heq, htcp] at hudp
    cases hudp
  · obtain ⟨w, hw, -⟩ := hworker
    have hnone := (hattached.udp hkey').1
    rw [heq, hw] at hnone
    cases hnone

/-- Two flows of one application to one target. -/
theorem flows_apart_two : ∃ (s : Runtime) (entry entry' : TcpEntry), (system .default).Reach s ∧
    s.tcp.lookup (ReusedKey.key 40000) = some entry ∧
    s.tcp.lookup (ReusedKey.key 40001) = some entry' ∧
    entry'.handle ≠ entry.handle ∧ entry'.worker ≠ entry.worker := by
  obtain ⟨s, hreach, hsome, hsome'⟩ := (system .default).exists_reach
    (fun s => (s.tcp.lookup (ReusedKey.key 40000)).isSome ∧
      (s.tcp.lookup (ReusedKey.key 40001)).isSome)
    (ReusedKey.syn 40000 0 ++ turn [ReusedKey.key 40000] ++ ReusedKey.syn 40001 1)
    (by decide +kernel)
  obtain ⟨entry, hentry⟩ := Option.isSome_iff_exists.mp hsome
  obtain ⟨entry', hentry'⟩ := Option.isSome_iff_exists.mp hsome'
  exact ⟨s, entry, entry', hreach, hentry, hentry',
    (flows_apart hreach hentry).2.1 _ _ hentry' (by decide)⟩

/-- **No answer waits where no task could have sent it**: remote data of a flow came from a task
with the key of the flow (maybe that of an earlier flow), the answer of an association from a
task with its key, with the addresses of the association; and to the application and from the
target of a DNS answer a query was started. -/
theorem responses_attributed (h : (system config).Reach s) :
    (∀ key entry pending, s.tcp.lookup key = some entry → entry.pendingRemote = some pending →
      ∃ id, pending.accepted = some id ∧ s.roleAt id = some (.tcp key)) ∧
    (∀ key entry pending, s.udpAssociations.lookup key = some entry →
      entry.pendingResponse = some pending → pending.app = key.app ∧ pending.target = key.target ∧
        ∃ id, pending.accepted = some id ∧ s.roleAt id = some (.udp key)) ∧
    ∀ pending ∈ s.pendingDnsResponses,
      ∃ id query, s.roleAt id = some (.dns pending.app pending.target query) := by
  have hsigned := signed_of_reach h
  exact ⟨hsigned.data, hsigned.response, fun pending hpending => (hsigned.dns pending hpending).2⟩

theorem responses_attributed_exchange : ∃ (s : Runtime) (entry : UdpAssociationEntry)
    (pending : PendingUdpResponse), (system .default).Reach s ∧
    s.udpAssociations.lookup (PortZero.key 40000) = some entry ∧
    entry.pendingResponse = some pending ∧ pending.app = (PortZero.key 40000).app := by
  obtain ⟨s, hreach, hentry⟩ := (system .default).exists_reach
    (fun s => s.udpAssociations.lookup (PortZero.key 40000) =
      some ⟨0, some (PortZero.reply 40000)⟩) (PortZero.exchange 40000) (by decide +kernel)
  exact ⟨s, _, _, hreach, hentry, rfl, ((responses_attributed hreach).2.1 _ _ _ hentry rfl).1⟩

end Runtime
end Tun
end Maverick
