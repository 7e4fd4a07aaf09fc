import Duplex.Proofs.Session.Change
import Duplex.Proofs.Session.Flush

-- How the fields of a session hang together. A session is upgrading as long as a websocket waits to
-- take over from polling, and a session that closed holds nothing any more.

namespace Duplex

-- The poll that waits at a transport.
def Transport.parked? : Transport → Option Polling.Parked
  | polling t => t.parked
  | websocket _ => none

namespace Transport

theorem parked?_release_eq_none {t : Transport} (h : t.parked? = none) :
    t.release.transport.parked? = none := by
  cases t with
  | polling t => simp [release_polling, send, Dispatch.map, parked?]
  | websocket t => rfl

theorem parked?_setPollClient_eq_none {t : Transport} {poll : PollId} {client : Peer}
    (h : t.parked? = none) : (t.setPollClient poll client).parked? = none := by
  cases t with
  | polling t => simpa [setPollClient, Polling.setClient, parked?] using h
  | websocket t => rfl

theorem parked?_setWriter_eq_none {t : Transport} {tid : TransportId} {writer : Peer}
    (h : t.parked? = none) : (t.setWriter tid writer).parked? = none := by
  cases t with
  | polling t => exact h
  | websocket t => rfl

-- A live poll makes a transport writable as long as it is not closed.
theorem writable_of_parked? {t : Transport} {q : Polling.Parked} (unclosed : t.isClosed = false)
    (waits : t.parked? = some q) (there : q.client.isThere) : t.writable := by
  cases t with
  | websocket t => simp [parked?] at waits
  | polling t =>
    have unclosed : t.closed = false := unclosed
    have waits : t.parked = some q := waits
    simp [writable, Polling.writable, Polling.hasLivePoll, unclosed, waits, there]

-- A transport that is closed for the first time answers the poll that waits.
theorem parked?_close_eq_none {t : Transport} (h : t.isClosed = false) :
    t.close.transport.parked? = none := by
  cases t with
  | polling t =>
    have h : t.closed = false := h
    simp [close, Dispatch.map, Polling.close, h, parked?]
  | websocket t => rfl

end Transport

namespace Session

structure Valid (s : Session) : Prop where
  upgrading_iff : s.state = .upgrading ↔ s.pending.isSome
  pending : ∀ p, s.pending = some p →
    s.transport.kind = .polling ∧ s.transport.isClosed = false ∧ p.transport.closed = false
  live : s.isLive → s.transport.isClosed = false ∧ s.listening
  closed : s.state = .closed →
    s.pending = none ∧ s.buffer = [] ∧ s.transport.isClosed ∧ s.transport.parked? = none ∧
      s.listening = false ∧ s.cancelled
  settled : s.state ≠ .opening ∧ s.state ≠ .closing

theorem channel_completeUpgrade (s : Session) (t : Websocket) :
    (s.completeUpgrade t).transport.channel = .websocket t.id t.revision := by
  have ⟨_, eq⟩ := s.completeUpgrade_eq t
  rw [eq, channel_flush, transport_swap]
  rfl

theorem isLive_eq_false_iff {s : Session} (h : s.state ≠ .closing) :
    s.isLive = false ↔ s.state = .closed := by
  cases hs : s.state <;> simp_all [isLive, ReadyState.isLive]

theorem isLive_of_established {s : Session} (h : s.state = .established) : s.isLive := by
  simp [isLive, h, ReadyState.isLive]

theorem isLive_of_upgrading {s : Session} (h : s.state = .upgrading) : s.isLive := by
  simp [isLive, h, ReadyState.isLive]

namespace Valid

variable {s : Session}

theorem upgrading_of_pending (v : s.Valid) {p : Pending} (h : s.pending = some p) :
    s.state = .upgrading :=
  v.upgrading_iff.mpr (by simp [h])

theorem isLive_of_pending (v : s.Valid) {p : Pending} (h : s.pending = some p) : s.isLive :=
  isLive_of_upgrading (v.upgrading_of_pending h)

-- A session that is over has nothing left.
theorem ended (v : s.Valid) (dead : s.isLive = false) :
    s.pending = none ∧ s.buffer = [] ∧ s.transport.isClosed ∧ s.transport.parked? = none ∧
      s.listening = false ∧ s.cancelled :=
  v.closed ((isLive_eq_false_iff v.settled.2).mp dead)

theorem isLive_of_listening (v : s.Valid) (listening : s.listening) : s.isLive := by
  cases live : s.isLive with
  | true => rfl
  | false =>
    have ⟨_, _, _, _, deaf, _⟩ := v.ended live
    simp [deaf] at listening

theorem isLive_of_parked (v : s.Valid) {q : Polling.Parked}
    (waits : s.transport.parked? = some q) : s.isLive := by
  cases live : s.isLive with
  | true => rfl
  | false =>
    have ⟨_, _, _, parked, _⟩ := v.ended live
    exact absurd (waits.symm.trans parked) nofun

-- What stays valid is told by a few fields as long as a session lives.
theorem of_live {s' : Session} (v : s.Valid) (live : s.isLive) (state : s'.state = s.state)
    (pending : s'.pending = s.pending) (kind : s'.transport.kind = s.transport.kind)
    (isClosed : s'.transport.isClosed = s.transport.isClosed)
    (listening : s'.listening = s.listening) : s'.Valid where
  upgrading_iff := by rw [state, pending]; exact v.upgrading_iff
  pending := by rw [pending, kind, isClosed]; exact v.pending
  live := by
    rw [isClosed, listening]
    exact fun _ => v.live live
  closed closed := by simp [isLive, ← state, closed, ReadyState.isLive] at live
  settled := by rw [state]; exact v.settled

-- A session that nobody may join holds no websocket that wants to.
theorem of_established {s' : Session} (state : s'.state = .established)
    (pending : s'.pending = none) (isClosed : s'.transport.isClosed = false)
    (listening : s'.listening) : s'.Valid where
  upgrading_iff := by simp [state, pending]
  pending := by simp [pending]
  live _ := ⟨isClosed, listening⟩
  closed := by simp [state]
  settled := by simp [state]

theorem signals (v : s.Valid) (signals : List Signal) : { s with signals }.Valid :=
  ⟨v.upgrading_iff, v.pending, v.live, v.closed, v.settled⟩

theorem flush (v : s.Valid) : s.flush.Valid := by
  cases hl : s.isLive with
  | true => exact v.of_live hl (by simp) (by simp) (by simp) (by simp) (by simp)
  | false =>
    have ⟨_, empty, _⟩ := v.ended hl
    rwa [flush_of_buffer_nil empty]

theorem releasePoll (v : s.Valid) : s.releasePoll.Valid where
  upgrading_iff := v.upgrading_iff
  pending := by simpa using v.pending
  live live := by simpa using v.live live
  closed closed := by
    have ⟨pending, buffer, isClosed, parked, ended⟩ := v.closed closed
    exact ⟨pending, buffer, by simpa using isClosed, Transport.parked?_release_eq_none parked, ended⟩
  settled := v.settled

theorem setPollClient (v : s.Valid) (poll : PollId) (client : Peer) :
    (s.setPollClient poll client).Valid where
  upgrading_iff := v.upgrading_iff
  pending := by simpa [Session.setPollClient] using v.pending
  live live := by simpa [Session.setPollClient] using v.live live
  closed closed := by
    have ⟨pending, buffer, isClosed, parked, ended⟩ := v.closed closed
    exact ⟨pending, buffer, by simpa [Session.setPollClient] using isClosed,
      Transport.parked?_setPollClient_eq_none parked, ended⟩
  settled := v.settled

theorem setWriter (v : s.Valid) (tid : TransportId) (writer : Peer) :
    (s.setWriter tid writer).Valid where
  upgrading_iff := by simpa [Session.setWriter] using v.upgrading_iff
  pending p h := by
    have ⟨q, hq, eq⟩ := Option.map_eq_some_iff.mp h
    have ⟨kind, isClosed, unclosed⟩ := v.pending q hq
    simp [Session.setWriter, ← eq, kind, isClosed, unclosed]
  live live := by simpa [Session.setWriter] using v.live live
  closed closed := by
    have ⟨pending, buffer, isClosed, parked, ended⟩ := v.closed closed
    exact ⟨by simp [Session.setWriter, pending], buffer, by simpa [Session.setWriter] using isClosed,
      Transport.parked?_setWriter_eq_none parked, ended⟩
  settled := v.settled

theorem checkUpgrade_eq_ok_iff :
    s.checkUpgrade = .ok () ↔
      s.config.mayUpgrade ∧ s.state = .established ∧ s.transport.kind = .polling := by
  simp only [checkUpgrade]
  cases s.config.mayUpgrade <;> cases s.state <;> simp

theorem register {t t' : Polling} (v : s.Valid) (live : s.isLive) (polling : s.transport = .polling t)
    (free : t.register? s.polls = some t') :
    { s with transport := .polling t', polls := s.polls + 1 }.Valid := by
  have ⟨_, eq⟩ := Polling.register?_eq_some free
  exact v.of_live live rfl rfl (by simp [polling, Transport.kind])
    (by simp [polling, Transport.isClosed, eq]) rfl

theorem join (v : s.Valid) (id : TransportId) (revision : Revision) (writer : Peer)
    (admitted : s.checkUpgrade = .ok ()) :
    ({ s with pending := some { transport := { id, revision, writer } } }.enter .upgrading).Valid := by
  have ⟨_, established, polling⟩ := checkUpgrade_eq_ok_iff.mp admitted
  have ⟨isClosed, listening⟩ := v.live (isLive_of_established established)
  refine ⟨by simp, fun p h => ?_, fun _ => by simp [isClosed, listening], by simp, by simp⟩
  rw [pending_enter] at h
  simp [← Option.some.inj h, polling, isClosed]

theorem answerProbe {p : Pending} (v : s.Valid) (pending : s.pending = some p) :
    (s.answerProbe p).Valid := by
  have upgrading := v.upgrading_of_pending pending
  have live := v.live (v.isLive_of_pending pending)
  have ⟨polling, isClosed, unclosed⟩ := v.pending p pending
  refine ⟨?_, fun q h => ?_, fun _ => live, fun closed => ?_, v.settled⟩
  · simp [Session.answerProbe, handOver, upgrading]
  · have eq := Option.some.inj h
    simp [← eq, Session.answerProbe, handOver, polling, isClosed, Pending.answer, unclosed]
  · have closed : s.state = .closed := closed
    simp [closed] at upgrading

theorem swap {p : Pending} (v : s.Valid) (pending : s.pending = some p) :
    (s.swap p.transport).Valid := by
  obtain ⟨_, listening⟩ := v.live (v.isLive_of_pending pending)
  obtain ⟨_, _, unclosed⟩ := v.pending p pending
  exact of_established (by simp) (by simp) (by simpa [Transport.isClosed] using unclosed)
    (by simpa using listening)

theorem completeUpgrade {p : Pending} (v : s.Valid) (pending : s.pending = some p) :
    (s.completeUpgrade p.transport).Valid := by
  obtain ⟨_, eq⟩ := s.completeUpgrade_eq p.transport
  exact eq ▸ (v.swap pending).flush.signals _

theorem stay {p : Pending} (v : s.Valid) (pending : s.pending = some p) : s.stay.Valid := by
  have ⟨isClosed, listening⟩ := v.live (v.isLive_of_pending pending)
  exact of_established (state_stay _ (v.upgrading_of_pending pending)) (by simp)
    (by simpa using isClosed) (by simpa using listening)

theorem abortUpgrade {p : Pending} (v : s.Valid) (f : Fault) (pending : s.pending = some p) :
    (s.abortUpgrade p.transport.id f).Valid := by
  have ⟨_, eq⟩ := abortUpgrade_of_pending s f pending
  exact eq ▸ (v.stay pending).flush.signals _

theorem close (v : s.Valid) (reason : CloseReason) (live : s.isLive) :
    (s.close reason).Valid := by
  have ⟨unclosed, _⟩ := v.live live
  have ended := isLive_close s reason
  have ⟨_, eq⟩ := close_of_live reason live
  rw [eq] at ended ⊢
  refine ⟨by simp, fun p h => ?_, fun live => ?_, fun _ => ?_, by simp⟩
  · exact absurd (h.symm.trans s.pending_shut) nofun
  · exact absurd (ended.symm.trans live) nofun
  · refine ⟨s.pending_shut, s.buffer_shut, ?_, ?_, rfl, rfl⟩
    · simp
    · simpa using Transport.parked?_close_eq_none unclosed

theorem change {s' : Session} {ps : List Packet} {ws : List (TransportId × Revision)}
    (v : s.Valid) (h : Change s ps ws s') : s'.Valid := by
  cases h with
  | note => exact ⟨v.upgrading_iff, v.pending, v.live, v.closed, v.settled⟩
  | accept live check => exact flush (v.of_live live rfl rfl rfl rfl rfl)
  | register live polling free => exact (v.register live polling free).flush
  | release => exact v.releasePoll
  | client poll client => exact v.setPollClient poll client
  | writer tid writer => exact v.setWriter tid writer
  | refuse t f refused => exact ⟨v.upgrading_iff, v.pending, v.live, v.closed, v.settled⟩
  | join id revision writer admitted => exact v.join id revision writer admitted
  | probe pending => exact v.answerProbe pending
  | upgrade pending probed => exact v.completeUpgrade pending
  | abort f pending => exact v.abortUpgrade f pending
  | close reason live => exact v.close reason live

theorem perform (v : s.Valid) (op : Op) : (s.perform op).Valid :=
  (perform_changes s op).induction v fun c v => v.change c

-- Only a session that lives can change into one that does.
theorem isLive_of_change {s' : Session} {ps : List Packet} {ws : List (TransportId × Revision)}
    (v : s.Valid) (h : Change s ps ws s') (after : s'.isLive) : s.isLive := by
  cases h with
  | note | release | client | writer | refuse => exact after
  | accept live _ | register live _ _ | close _ live => exact live
  | join _ _ _ admitted => exact isLive_of_established (checkUpgrade_eq_ok_iff.mp admitted).2.1
  | probe pending | upgrade pending _ | abort _ pending => exact v.isLive_of_pending pending

theorem isLive_of_changes {s' : Session} {ps : List Packet} {ws : List (TransportId × Revision)}
    (v : s.Valid) (h : Changes s ps ws s') (after : s'.isLive) : s.isLive := by
  induction h with
  | refl => exact after
  | step c _ ih => exact v.isLive_of_change c (ih (v.change c) after)

end Valid

namespace Change

variable {s s' : Session} {ps : List Packet} {ws : List (TransportId × Revision)}

-- Packets go where they went before, or to the websocket that waited to take over.
theorem channel (h : Change s ps ws s') :
    s'.transport.channel = s.transport.channel ∨
      ∃ p, s.pending = some p ∧ s'.pending = none ∧
        s'.transport.channel = .websocket p.transport.id p.transport.revision := by
  cases h with
  | note | probe | refuse => exact .inl rfl
  | accept | release | join => exact .inl (by simp)
  | @register t t' _ polling free =>
    have ⟨_, eq⟩ := Polling.register?_eq_some free
    exact .inl (by rw [channel_flush, polling, eq]; rfl)
  | client => exact .inl (by simp [Session.setPollClient])
  | writer => exact .inl (by simp [Session.setWriter])
  | @upgrade p pending _ =>
    have ⟨_, eq⟩ := s.completeUpgrade_eq p.transport
    exact .inr ⟨p, pending, by simp [eq], s.channel_completeUpgrade p.transport⟩
  | abort f pending =>
    have ⟨_, eq⟩ := abortUpgrade_of_pending s f pending
    exact .inl (by simp [eq])
  | close reason live =>
    have ⟨_, eq⟩ := close_of_live reason live
    exact .inl (by simp [eq])

-- A websocket that waits to take over was let in at some time.
theorem pending (h : Change s ps ws s') {p' : Pending} (pending' : s'.pending = some p') :
    (∃ p, s.pending = some p ∧ p'.transport.id = p.transport.id ∧
        p'.transport.revision = p.transport.revision) ∨
      (p'.transport.id, p'.transport.revision) ∈ ws := by
  cases h with
  | note | release | client | refuse => exact .inl ⟨p', pending', rfl, rfl⟩
  | accept | register => exact .inl ⟨p', by simpa using pending', rfl, rfl⟩
  | writer =>
    have ⟨p, pending, eq⟩ := Option.map_eq_some_iff.mp pending'
    exact .inl ⟨p, pending, by simp [← eq]⟩
  | join id revision writer =>
    rw [pending_enter] at pending'
    exact .inr (by simp [← Option.some.inj pending'])
  | @probe p pending =>
    exact .inl ⟨p, pending, by simp [← Option.some.inj pending', Pending.answer]⟩
  | @upgrade p =>
    have ⟨_, eq⟩ := s.completeUpgrade_eq p.transport
    simp [eq] at pending'
  | abort f pending =>
    have ⟨_, eq⟩ := abortUpgrade_of_pending s f pending
    simp [eq] at pending'
  | close reason live =>
    have ⟨_, eq⟩ := close_of_live reason live
    simp [eq] at pending'

-- A websocket that carries the session is never replaced by polling.
theorem websocket (h : Change s ps ws s') (carried : s.transport.kind = .websocket) :
    s'.transport.kind = .websocket := by
  rw [← Transport.kind_channel] at carried ⊢
  cases h.channel with
  | inl same => rw [same, carried]
  | inr taken =>
    have ⟨p, _, _, eq⟩ := taken
    rw [eq]
    rfl

-- No websocket can take over from another.
theorem channel_of_websocket {id : TransportId} {r : Revision} (h : Change s ps ws s')
    (v : s.Valid) (carried : s.transport.channel = .websocket id r) :
    s'.transport.channel = .websocket id r := by
  cases h.channel with
  | inl same => exact same.trans carried
  | inr taken =>
    have ⟨p, pending, _⟩ := taken
    have ⟨polling, _⟩ := v.pending p pending
    rw [← Transport.kind_channel, carried] at polling
    exact absurd polling nofun

end Change

theorem Changes.pending {s s' : Session} {ps : List Packet} {ws : List (TransportId × Revision)}
    (h : Changes s ps ws s') {p' : Pending} (pending' : s'.pending = some p') :
    (∃ p, s.pending = some p ∧ p'.transport.id = p.transport.id ∧
        p'.transport.revision = p.transport.revision) ∨
      (p'.transport.id, p'.transport.revision) ∈ ws := by
  induction h with
  | refl => exact .inl ⟨p', pending', rfl, rfl⟩
  | step c _ ih =>
    obtain ⟨q, waited, id, revision⟩ | later := ih pending'
    · rw [id, revision, List.mem_append]
      exact (c.pending waited).imp_right .inl
    · exact .inr (List.mem_append_right _ later)

namespace Origin

variable (o : Origin)

-- The session before its handshake leaves.
def filled : Session :=
  { o.created with buffer := [o.handshake.packet] }.enter .established

theorem valid_filled : o.filled.Valid := by
  refine Valid.of_established (by simp [filled]) (by simp [filled, created]) ?_
    (by simp [filled, created])
  simp only [filled, transport_enter, created, transport]
  split <;> rfl

theorem valid : o.session.Valid :=
  o.valid_filled.flush

@[simp]
theorem identity_session : o.session.identity = o.identity := by
  simp only [session, start, identity_flush, identity_enter]
  rfl

@[simp]
theorem channel_session : o.session.transport.channel = o.transport.channel := by
  simp [session, start, created]

@[simp]
theorem pending_session : o.session.pending = none := by
  simp [session, start, created]

theorem id_transport : o.transport.id = o.tid := by
  simp only [transport]
  split <;> rfl

end Origin

theorem valid_run (o : Origin) (ops : List Op) : (o.session.run ops).Valid :=
  (run_changes _ ops).induction o.valid fun c v => v.change c

-- Where the transports of a session come from: it opened on them, or they were let in.
structure Lineage (o : Origin) (ws : List (TransportId × Revision)) (s : Session) : Prop where
  transport : s.transport.channel = o.transport.channel ∨
    ∃ w ∈ ws, s.transport.channel = .websocket w.1 w.2
  pending : ∀ p, s.pending = some p → (p.transport.id, p.transport.revision) ∈ ws

theorem Lineage.change {o : Origin} {s s' : Session} {ps : List Packet}
    {ws ws' : List (TransportId × Revision)} (l : Lineage o ws s) (h : Change s ps ws' s') :
    Lineage o (ws ++ ws') s' where
  transport := by
    have old := l.transport
    cases h.channel with
    | inl same =>
      rw [same]
      exact old.imp_right fun ⟨w, mem, eq⟩ => ⟨w, List.mem_append_left _ mem, eq⟩
    | inr taken =>
      have ⟨p, pending, _, eq⟩ := taken
      exact .inr ⟨_, List.mem_append_left _ (l.pending p pending), eq⟩
  pending p' pending' := by
    cases h.pending pending' with
    | inl kept =>
      have ⟨p, pending, id, revision⟩ := kept
      rw [id, revision]
      exact List.mem_append_left _ (l.pending p pending)
    | inr joined => exact List.mem_append_right _ joined

theorem Lineage.changes {o : Origin} {s s' : Session} {ps : List Packet}
    {ws ws' : List (TransportId × Revision)} (l : Lineage o ws s) (h : Changes s ps ws' s') :
    Lineage o (ws ++ ws') s' := by
  induction h generalizing ws with
  | refl => simpa using l
  | step c _ ih => simpa using ih (l.change c)

theorem lineage_run (o : Origin) (ops : List Op) :
    Lineage o (o.session.joined ops) (o.session.run ops) := by
  have first : Lineage o [] o.session := ⟨.inl o.channel_session, by simp⟩
  simpa using first.changes (run_changes o.session ops)

-- A websocket that opened a session writes in its revision.
theorem Origin.revision_of_channel {o : Origin} {id : TransportId} {r : Revision}
    (h : o.transport.channel = .websocket id r) : r = o.revision := by
  simp only [Origin.transport] at h
  split at h
  · exact absurd h nofun
  · exact (Channel.websocket.inj h).2.symm

-- Polling is never replaced by polling, so a session that polls does so on its first transport.
theorem id_of_polling {o : Origin} {ops : List Op}
    (polling : (o.session.run ops).transport.kind = .polling) :
    (o.session.run ops).transport.id = o.tid := by
  rw [← Transport.kind_channel] at polling
  rw [← Transport.id_channel]
  cases (lineage_run o ops).transport with
  | inl first => rw [first, Transport.id_channel, o.id_transport]
  | inr joined =>
    have ⟨w, _, eq⟩ := joined
    simp [eq, Channel.kind] at polling

-- The fields of a session hang together at every moment of its life, whatever is done to it, as
-- long as no two of its transports have the same id.
theorem run_wellformed (o : Origin) (ops more : List Op)
    (fresh : ∀ op ∈ ops, ∀ w, op.joining? = some w → w.1 ≠ o.tid) :
    (o.session.run ops).Valid ∧
      (∀ p, (o.session.run ops).pending = some p →
        p.transport.id ≠ (o.session.run ops).transport.id) ∧
      ((o.session.run ops).transport.kind = .websocket →
        ((o.session.run ops).run more).transport.kind = .websocket) := by
  have v := valid_run o ops
  refine ⟨v, fun p pending => ?_, fun websocket => ?_⟩
  · have ⟨polling, _⟩ := v.pending p pending
    have ⟨op, mem, joining⟩ := exists_joining_of_mem_joined ((lineage_run o ops).pending p pending)
    rw [id_of_polling polling]
    exact fresh op mem _ joining
  · exact (run_changes _ more).induction websocket Change.websocket

-- A session whose websocket was probed, and may take over.
theorem run_wellformed_probed :
    let ops : List Op :=
      [.registerPoll, .send (.message (.text "m")), .beginUpgrade 1 .v4 .present,
        .probe 1 { kind := .ping, data := some (.text "probe") }]
    let s := Origin.plain.session.run ops
    (s.state = .upgrading ∧ s.pending.isSome) ∧
      s.Valid ∧ (∀ p, s.pending = some p → p.transport.id ≠ s.transport.id) ∧
      (s.transport.kind = .websocket → (s.run [.probe 1 .upgrade]).transport.kind = .websocket) :=
  ⟨by decide, run_wellformed _ _ _ (by decide)⟩

end Session

end Duplex
