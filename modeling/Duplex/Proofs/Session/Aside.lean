import Duplex.Proofs.Session.Blind
import Duplex.Proofs.Session.Telling

-- What others do to a session while a websocket asks to join it. As long as it does not close the
-- session, it is nothing to the websocket.

namespace Duplex

-- Polls are no websockets.
theorem Channel.websocket?_of_takes {id : TransportId} {taken : List Packet} {moved : List Delivery}
    (h : (Channel.polls id).Takes taken moved) : ∀ d ∈ moved, d.websocket? = none := by
  cases h with
  | nothing => exact nofun
  | answer poll packets =>
    intro d mem
    rw [List.mem_singleton.mp mem]
    rfl

theorem Transport.websocket?_release {t : Transport} (polling : t.kind = .polling) :
    ∀ d ∈ t.release.delivered, d.websocket? = none := by
  cases t with
  | websocket t => exact absurd polling nofun
  | polling t =>
    have ⟨_, takes, _⟩ := (Transport.polling t).send_takes [.noop]
    exact Channel.websocket?_of_takes takes

namespace Session

-- An operation of somebody else than this websocket.
def Op.ofOthers (tid : TransportId) : Op → Bool
  | beginUpgrade tid' _ _ | probe tid' _ | abortUpgrade tid' _ | transportClosed tid' _
  | setWriter tid' _ => tid' ≠ tid
  | _ => true

-- All that the writer of a websocket was given.
def commandsOn (s : Session) (tid : TransportId) : List Delivery :=
  s.dispatched.filter (·.websocket? = some tid)

section

variable {s s' : Session} {tid : TransportId} {ds : List Delivery}

theorem commandsOn_append (h : s'.dispatched = s.dispatched ++ ds) :
    s'.commandsOn tid = s.commandsOn tid ++ ds.filter (·.websocket? = some tid) := by
  rw [commandsOn, h, List.filter_append]
  rfl

theorem commandsOn_of_others (h : s'.dispatched = s.dispatched ++ ds)
    (others : ∀ d ∈ ds, d.websocket? ≠ some tid) : s'.commandsOn tid = s.commandsOn tid := by
  have none_ : ds.filter (·.websocket? = some tid) = [] :=
    List.filter_eq_nil_iff.mpr fun d mem => by simpa using others d mem
  rw [commandsOn_append h, none_, List.append_nil]

end

-- Nothing that is to do with a websocket that asks to join has changed.
structure Aside (tid : TransportId) (s s' : Session) : Prop where
  identity : s'.identity = s.identity
  channel : s'.transport.channel = s.transport.channel
  pending : s'.pending = s.pending
  commands : s'.commandsOn tid = s.commandsOn tid

namespace Aside

variable {tid : TransportId} {s s' : Session}

theorem refl (tid : TransportId) (s : Session) : Aside tid s s :=
  ⟨rfl, rfl, rfl, rfl⟩

theorem flush (h : Aside tid s s') (polling : s.transport.kind = .polling) : Aside tid s s'.flush := by
  have ⟨_, moved, takes, _, dispatched⟩ := s'.flush_takes
  have others : ∀ d ∈ moved, d.websocket? ≠ some tid := by
    rw [h.channel] at takes
    cases transport : s.transport with
    | websocket t => exact absurd (transport ▸ polling) nofun
    | polling t =>
      rw [transport] at takes
      intro d mem
      rw [Channel.websocket?_of_takes takes d mem]
      nofun
  exact ⟨s'.identity_flush.trans h.identity, s'.channel_flush.trans h.channel,
    s'.pending_flush.trans h.pending, (commandsOn_of_others dispatched others).trans h.commands⟩

theorem send (h : Aside tid s s') (polling : s.transport.kind = .polling) (p : Packet) :
    Aside tid s ((s'.send p).toOption.getD s') := by
  cases sent : s'.send p with
  | error f => exact h
  | ok s'' =>
    have ⟨_, _, eq⟩ := send_eq_ok sent
    have queued : Aside tid s { s' with buffer := s'.buffer ++ [p] } :=
      ⟨h.identity, h.channel, h.pending, h.commands⟩
    exact eq ▸ queued.flush polling

theorem registerPoll (polling : s.transport.kind = .polling) :
    Aside tid s (s.perform .registerPoll) := by
  simp only [perform, Session.registerPoll]
  split
  · exact refl tid s
  · split
    · exact refl tid s
    · next t transport =>
      split
      · exact refl tid s
      · next t' found =>
        obtain ⟨_, eq⟩ := Polling.register?_eq_some found
        have registered : Aside tid s { s with transport := .polling t', polls := s.polls + 1 } :=
          ⟨rfl, by rw [transport, eq]; rfl, rfl, rfl⟩
        exact registered.flush polling

theorem releasePoll (polling : s.transport.kind = .polling) : Aside tid s s.releasePoll := by
  have others : ∀ d ∈ s.transport.release.delivered, d.websocket? ≠ some tid := fun d mem => by
    rw [Transport.websocket?_release polling d mem]
    nofun
  exact ⟨rfl, by simp, rfl, commandsOn_of_others s.dispatched_releasePoll others⟩

theorem receive (polling : s.transport.kind = .polling) (p : Packet) (now : Nat)
    (live : (s.receive p now).isLive) : Aside tid s (s.receive p now) := by
  simp only [Session.receive] at live ⊢
  cases kind : p.kind with
  | ping =>
    have heard : Aside tid s ((s.meter .received).heartbeat now) := ⟨rfl, rfl, rfl, rfl⟩
    simp only [answerPing_eq]
    exact heard.send polling (.pong p.data)
  | message =>
    simp only [takeIn]
    split <;> exact ⟨rfl, rfl, rfl, rfl⟩
  | close => simp [kind] at live
  | pong | handshake | upgrade | noop => exact ⟨rfl, rfl, rfl, rfl⟩

theorem recordDecodeError (e : DecodeError) (live : (s.recordDecodeError e).isLive) :
    Aside tid s (s.recordDecodeError e) := by
  simp only [Session.recordDecodeError] at live ⊢
  split
  · next exhausted => simp [exhausted] at live
  · exact ⟨rfl, rfl, rfl, rfl⟩

-- A second websocket is turned away.
theorem beginUpgrade (upgrading : s.state = .upgrading) {t : Websocket} (other : t.id ≠ tid) :
    Aside tid s (s.beginUpgrade t).2 := by
  have refused : ∃ f, s.checkUpgrade = .error f := by
    simp only [checkUpgrade, upgrading]
    split
    · exact ⟨_, rfl⟩
    · exact ⟨_, rfl⟩
  obtain ⟨f, check⟩ := refused
  have others : ∀ d ∈ t.close.delivered, d.websocket? ≠ some tid := fun d mem => by
    rw [t.websocket?_close d mem]
    exact fun eq => other (Option.some.inj eq)
  have turned : Aside tid s (s.handOver t.close.delivered) :=
    ⟨rfl, rfl, rfl, commandsOn_of_others rfl others⟩
  simpa only [Session.beginUpgrade, check] using turned

end Aside

section

variable {tid : TransportId} {s : Session} {p : Pending}

theorem filter_pending {tid' : TransportId} (pending : s.pending = some p)
    (other : tid' ≠ p.transport.id) : s.pending.filter (·.transport.id = tid') = none := by
  simp [pending, Option.filter, other.symm]

theorem perform_aside (v : s.Valid) (pending : s.pending = some p) {op : Op}
    (others : op.ofOthers p.transport.id) (live : (s.perform op).isLive) :
    Aside p.transport.id s (s.perform op) := by
  have ⟨polling, _⟩ := v.pending p pending
  cases op with
  | send packet => exact (Aside.refl p.transport.id s).send polling packet
  | registerPoll => exact .registerPoll polling
  | expirePoll poll => exact .releasePoll polling
  | setPollClient poll client => exact ⟨rfl, by simp [perform, setPollClient], rfl, rfl⟩
  | receive packet now => exact .receive polling packet now live
  | heartbeat | countDecodeError | resetDecodeErrors | report | passOn => exact ⟨rfl, rfl, rfl, rfl⟩
  | recordDecodeError e => exact .recordDecodeError e live
  | beginUpgrade tid' revision writer =>
    exact .beginUpgrade (v.upgrading_of_pending pending) (by simpa [Op.ofOthers] using others)
  | probe tid' packet =>
    have unfound := filter_pending pending (of_decide_eq_true others)
    simp only [perform, probe, unfound]
    exact .refl _ s
  | abortUpgrade tid' f =>
    have unfound := filter_pending pending (of_decide_eq_true others)
    rw [perform, abortUpgrade_of_filter_none s f unfound]
    exact .refl _ s
  | transportClosed tid' reason =>
    have unfound := filter_pending pending (of_decide_eq_true others)
    simp only [perform, transportClosed] at live ⊢
    split
    · next active => simp [active] at live
    · rw [abortUpgrade_of_filter_none s _ unfound]
      exact .refl _ s
  | setWriter tid' writer =>
    have other : p.transport.id ≠ tid' := (of_decide_eq_true others).symm
    have kept : p.transport.setWriter tid' writer = p.transport := if_neg other
    exact ⟨rfl, by simp [perform, setWriter], by simp [perform, setWriter, pending, kept], rfl⟩
  | close reason => simp [perform] at live

-- Besides, it does not tell of the end of an upgrade.
theorem events_perform_aside (v : s.Valid) (pending : s.pending = some p) {op : Op}
    (tells : op ≠ .passOn) (others : op.ofOthers p.transport.id) (live : (s.perform op).isLive) :
    ∃ es, (s.perform op).events = s.events ++ es ∧ ∀ e ∈ es, e.kind ≠ .upgradeFailed := by
  have aside := perform_aside v pending others live
  have upgrading := v.upgrading_of_pending pending
  have upgrading' := (v.perform op).upgrading_of_pending (aside.pending.trans pending)
  cases perform_turn v op tells with
  | idle said plain stays lets =>
    refine ⟨_, said.events, fun e mem => ?_⟩
    obtain error | ⟨message, _⟩ := plain e mem
    · simp [error]
    · simp [message]
  | begins _ established => exact absurd (established.symm.trans upgrading) nofun
  | fails f _ established => exact absurd (established.symm.trans upgrading') nofun
  | upgrades _ established => exact absurd (established.symm.trans upgrading') nofun
  | closes _ _ _ _ closed => exact absurd (closed.symm.trans upgrading') nofun

end

end Session

end Duplex
