import Duplex.Proofs.Session.Valid
import Duplex.Session.Socket

-- What leaves a session. Every change hands over at most one first part of the packets that wait,
-- and besides only what no packet was accepted for.

namespace Duplex

-- The frame that answers a probe ping. It is the same in every revision.
def Frame.probeAnswer : Frame :=
  .text "3probe"

theorem Frame.encode_probeAnswer (r : Revision) :
    Frame.encode .probeAnswer r = .ok Frame.probeAnswer := by
  cases r <;> rfl

-- What is handed over for no packet, told by the kinds of the transport before and after: a released
-- poll is told that there is nothing, a websocket that is probed and does not take over yet that it
-- works, and a websocket that does not take over that it is over.
inductive Delivery.Idle : TransportKind → TransportKind → Delivery → Prop
  | noop {after : TransportKind} (poll : PollId) : Idle .polling after (.answer poll [.noop])
  | probeAnswer (tid : TransportId) : Idle .polling .polling (.frame tid .probeAnswer)
  | hangUp {before after : TransportKind} (tid : TransportId) : Idle before after (.hangUp tid)

namespace Websocket

theorem idle_close (t : Websocket) (before after : TransportKind) :
    ∀ d ∈ t.close.delivered, Delivery.Idle before after d := by
  intro d mem
  simp only [close] at mem
  split at mem
  · simp at mem
  · split at mem
    · simp only [List.mem_singleton] at mem
      exact mem ▸ .hangUp t.id
    · simp at mem

end Websocket

theorem Polling.delivered_close_of_parked_none {t : Polling} (h : t.parked = none) :
    t.close.delivered = [] := by
  simp only [close]
  split
  · rfl
  · simp [send, h]

theorem Session.Pending.idle_answer (p : Session.Pending) :
    ∀ d ∈ p.answer.delivered, Delivery.Idle .polling .polling d := by
  intro d mem
  simp only [answer, Websocket.send] at mem
  split at mem
  · simp only [Websocket.write, Frame.encode_probeAnswer] at mem
    split at mem
    · simp at mem
    · simp only [List.map_cons, List.map_nil, List.mem_singleton] at mem
      exact mem ▸ .probeAnswer _
  · simp at mem

namespace Transport

theorem idle_release (t : Transport) (after : TransportKind) :
    ∀ d ∈ t.release.delivered, Delivery.Idle t.kind after d := by
  intro d mem
  cases t with
  | websocket t => simp [release] at mem
  | polling t =>
    simp only [release_polling, send, Dispatch.map, Polling.send] at mem
    split at mem
    · simp at mem
    · split at mem
      · simp only [List.mem_singleton] at mem
        exact mem ▸ .noop _
      · simp at mem

-- A transport with no poll left says nothing when it is closed.
theorem delivered_close_release {t : Transport} (polling : t.kind = .polling) :
    t.release.transport.close.delivered = [] := by
  cases t with
  | websocket t => simp [kind] at polling
  | polling t => exact Polling.delivered_close_of_parked_none (t.parked_send [.noop])

end Transport

namespace Session

-- One change of a live session, seen from outside: `idle` was handed over for no packet, and
-- `moved` for the packets that were taken.
structure Outbound (s : Session) (ps : List Packet) (s' : Session) (idle moved : List Delivery)
    (taken : List Packet) : Prop where
  idles : ∀ d ∈ idle, d.Idle s.transport.kind s'.transport.kind
  takes : s'.transport.channel.Takes taken moved
  buffer : s.buffer ++ ps = taken ++ s'.buffer
  dispatched : s'.dispatched = s.dispatched ++ (idle ++ moved)

theorem Outbound.quiet {s s' : Session} {idle : List Delivery}
    (idles : ∀ d ∈ idle, d.Idle s.transport.kind s'.transport.kind) (buffer : s'.buffer = s.buffer)
    (dispatched : s'.dispatched = s.dispatched ++ idle) : Outbound s [] s' idle [] [] :=
  ⟨idles, .nothing, by simp [buffer], by simpa using dispatched⟩

-- A flush, after something was handed over for no packet.
theorem exists_outbound_flush {s s₁ : Session} {ps : List Packet} (idle : List Delivery)
    (idles : ∀ d ∈ idle, d.Idle s.transport.kind s₁.transport.kind)
    (buffer : s₁.buffer = s.buffer ++ ps)
    (dispatched : s₁.dispatched = s.dispatched ++ idle) :
    ∃ idle moved taken, Outbound s ps s₁.flush idle moved taken := by
  have ⟨taken, moved, takes, split, eq⟩ := s₁.flush_takes
  refine ⟨idle, moved, taken, by simpa using idles, by simpa using takes, by rw [← buffer, split], ?_⟩
  rw [eq, dispatched, List.append_assoc]

-- What is said of a session changes nothing of what leaves it.
theorem Outbound.signals {s s' : Session} {ps : List Packet} {idle moved : List Delivery}
    {taken : List Packet} (o : Outbound s ps s' idle moved taken) (signals : List Signal) :
    Outbound s ps { s' with signals } idle moved taken :=
  ⟨o.idles, o.takes, o.buffer, o.dispatched⟩

-- The handshake is the first packet that a session is given.
theorem Origin.outbound (o : Origin) :
    ∃ idle moved taken, Outbound o.created [o.handshake.packet] o.session idle moved taken :=
  exists_outbound_flush [] (by simp) (by simp [created]) (by simp [created])

theorem Change.outbound {s s' : Session} {ps : List Packet} {ws : List (TransportId × Revision)}
    (h : Change s ps ws s') (v : s.Valid) (live : s'.isLive) :
    ∃ idle moved taken, Outbound s ps s' idle moved taken := by
  cases h with
  | note | client | writer =>
    exact ⟨[], [], [], .quiet (by simp) rfl (List.append_nil _).symm⟩
  | accept | register => exact exists_outbound_flush [] (by simp) (by simp) (by simp)
  | release => exact ⟨_, [], [], .quiet (s.transport.idle_release _) rfl rfl⟩
  | refuse t => exact ⟨_, [], [], .quiet (t.idle_close _ _) rfl rfl⟩
  | join => exact ⟨[], [], [], .quiet (by simp) (by simp) (by simp)⟩
  | @probe p pending =>
    have ⟨polling, _⟩ := v.pending p pending
    have idles : ∀ d ∈ p.answer.delivered, d.Idle s.transport.kind s.transport.kind := by
      rw [polling]
      exact p.idle_answer
    exact ⟨_, [], [], .quiet idles rfl rfl⟩
  | @upgrade p pending _ =>
    have ⟨polling, _⟩ := v.pending p pending
    have said : (s.swap p.transport).dispatched = s.dispatched ++ s.transport.release.delivered := by
      simp [Transport.delivered_close_release polling]
    have kept : (s.swap p.transport).buffer = s.buffer ++ [] := by simp
    have ⟨idle, moved, taken, o⟩ := exists_outbound_flush _ (s.transport.idle_release _) kept said
    have ⟨_, eq⟩ := s.completeUpgrade_eq p.transport
    exact ⟨idle, moved, taken, eq ▸ o.signals _⟩
  | @abort p f pending =>
    have kept : s.stay.buffer = s.buffer ++ [] := by simp
    have ⟨idle, moved, taken, o⟩ :=
      exists_outbound_flush _ (p.transport.idle_close _ _) kept (s.dispatched_stay pending)
    have ⟨_, eq⟩ := abortUpgrade_of_pending s f pending
    exact ⟨idle, moved, taken, eq ▸ o.signals _⟩
  | close reason => simp at live

end Session

end Duplex
