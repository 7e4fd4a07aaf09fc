import Duplex.Proofs.Session.Polled
import Duplex.Proofs.Session.Waiting

-- Packets do not wait for nothing: whatever makes a transport writable sends what waits, so that
-- packets are left only where no poll and no writer is there to take them.

namespace Duplex

namespace Transport

-- A live poll or a writer makes a transport writable, as long as it is not closed.

theorem writable_of_writer {t : Websocket} (unclosed : t.closed = false)
    (there : t.writer.isThere) : (websocket t).writable := by
  simp [writable, Websocket.writable, unclosed, there]

end Transport

namespace Session

variable {s s' : Session}

theorem Prompt.buffer_eq_nil (prompt : s.Prompt) (writable : s.transport.writable) :
    s.buffer = [] := by
  apply Decidable.byContradiction
  intro waits
  exact absurd ((prompt waits).symm.trans writable) nofun

namespace Sound

theorem perform (sound : s.Sound) (op : Op) : (s.perform op).Sound :=
  (perform_changes s op).induction sound fun c sound => sound.change c

theorem buffer_of_parked? (sound : s.Sound) {q : Polling.Parked}
    (waits : s.transport.parked? = some q) (there : q.client.isThere) : s.buffer = [] := by
  have ⟨unclosed, _⟩ := sound.valid.live (sound.valid.isLive_of_parked waits)
  exact sound.prompt.buffer_eq_nil (Transport.writable_of_parked? unclosed waits there)

theorem buffer_of_writer (sound : s.Sound) {t : Websocket} (active : s.transport = .websocket t)
    (there : t.writer.isThere) : s.buffer = [] := by
  cases live : s.isLive with
  | false => exact (sound.valid.ended live).2.1
  | true =>
    have ⟨unclosed, _⟩ := sound.valid.live live
    apply sound.prompt.buffer_eq_nil
    rw [active] at unclosed ⊢
    exact Transport.writable_of_writer unclosed there

end Sound

-- A poll that is let in takes all that waits, or it waits itself.
theorem answersTo_registerPoll (o : Origin) (ops : List Op) {poll : PollId}
    (h : (o.session.run ops).registerPoll = .ok (poll, s')) :
    s'.buffer = [] ∧
      ((o.session.run ops).buffer ≠ [] ∧ s'.transport.parked? = none ∧
          s'.answersTo poll = [(o.session.run ops).buffer] ∨
        (o.session.run ops).buffer = [] ∧ s'.transport.parked? = some { poll } ∧
          s'.answersTo poll = []) := by
  have ⟨first, _⟩ := registerPoll_eq_ok h
  have unanswered := (served_run o ops).fresh poll (Nat.le_of_eq first.symm)
  by_cases empty : (o.session.run ops).buffer = []
  case pos =>
    have ⟨rest, parked, answers⟩ := parked?_registerPoll h empty
    have same := congrFun (answersTo_of_answers answers) poll
    exact ⟨rest, .inr ⟨empty, parked, same.trans unanswered⟩⟩
  case neg =>
    have ⟨sent, parked, answers⟩ := answers_registerPoll (valid_run o ops) h empty
    refine ⟨sent, .inl ⟨empty, parked, ?_⟩⟩
    rw [answersTo_append answers, unanswered]
    simp

-- What comes of a probe that goes well.
theorem probe_eq_ok {tid : TransportId} {p : Packet} {outcome : Probe}
    (h : s.probe tid p = (.ok outcome, s')) :
    ∃ q, s.pending = some q ∧ q.transport.id = tid ∧
      (outcome = .probed ∧ q.answer.refused = none ∧ s' = (s.answerProbe q).releasePoll ∨
        outcome = .upgraded ∧ q.probed ∧ s' = s.completeUpgrade q.transport) := by
  simp only [probe] at h
  split at h
  · simp at h
  next q found =>
  obtain ⟨pending, id⟩ := Option.filter_eq_some_iff.mp found
  refine ⟨q, pending, of_decide_eq_true id, ?_⟩
  split at h
  · split at h
    · simp at h
    · next taken =>
      obtain ⟨eq, eq'⟩ : Probe.probed = outcome ∧ (s.answerProbe q).releasePoll = s' := by
        simpa using h
      exact .inl ⟨eq.symm, taken, eq'.symm⟩
  · split at h
    · next asked =>
      obtain ⟨eq, eq'⟩ : Probe.upgraded = outcome ∧ s.completeUpgrade q.transport = s' := by
        simpa using h
      exact .inr ⟨eq.symm, asked.2, eq'.symm⟩
    · simp at h

-- The websocket that took over carries the session.
theorem exists_websocket_of_upgraded {tid : TransportId} {p : Packet}
    (h : s.probe tid p = (.ok .upgraded, s')) : ∃ t, s'.transport = .websocket t ∧ t.id = tid := by
  obtain ⟨q, _, id, ⟨other, _⟩ | ⟨_, _, eq⟩⟩ := probe_eq_ok h
  · cases other
  · have channel := s.channel_completeUpgrade q.transport
    rw [← eq] at channel
    cases transport : s'.transport with
    | polling t => simp [transport, Transport.channel] at channel
    | websocket t =>
      obtain ⟨same, _⟩ : t.id = q.transport.id ∧ t.revision = q.transport.revision := by
        simpa [transport, Transport.channel] using channel
      exact ⟨t, rfl, same.trans id⟩

-- Whatever is done to a session, packets wait only as long as they cannot leave: neither while the
-- client of a poll is there nor while the writer of the websocket that carries the session is. So
-- none wait for a poll that was just let in, which takes them all, and none that could leave wait
-- when an upgrade has come to its end, one way or the other.
theorem run_wakes (o : Origin) (ops : List Op) :
    let s := o.session.run ops
    (s.buffer ≠ [] → s.transport.writable = false) ∧
      (∀ q, s.transport.parked? = some q → q.client.isThere → s.buffer = []) ∧
      (∀ t, s.transport = .websocket t → t.writer.isThere → s.buffer = []) ∧
      (∀ poll s', s.registerPoll = .ok (poll, s') →
        s'.buffer = [] ∧ (s.buffer ≠ [] → s'.answersTo poll = [s.buffer])) ∧
      (∀ tid p s', s.probe tid p = (.ok .upgraded, s') →
        ∃ t, s'.transport = .websocket t ∧ (t.writer.isThere → s'.buffer = [])) ∧
      ∀ tid f q, (s.abortUpgrade tid f).transport.parked? = some q → q.client.isThere →
        (s.abortUpgrade tid f).buffer = [] := by
  intro s
  have sound : s.Sound := sound_run o ops
  refine ⟨sound.prompt, fun q => sound.buffer_of_parked?, fun t => sound.buffer_of_writer,
    fun poll s' registered => ?_, fun tid p s' probed => ?_, fun tid f q => ?_⟩
  · obtain ⟨sent, ⟨_, _, answered⟩ | ⟨empty, _⟩⟩ := answersTo_registerPoll o ops registered
    · exact ⟨sent, fun _ => answered⟩
    · exact ⟨sent, absurd empty⟩
  · obtain ⟨t, active, _⟩ := exists_websocket_of_upgraded probed
    have eq : s.perform (.probe tid p) = s' := by simp [perform, probed]
    exact ⟨t, active, (eq ▸ sound.perform (.probe tid p)).buffer_of_writer active⟩
  · exact (sound.perform (.abortUpgrade tid f)).buffer_of_parked?

-- A message that no poll is there for waits, and the next poll takes it.
theorem run_wakes_polled :
    let s := Origin.plain.session.run [.registerPoll, .send (.message (.text "a"))]
    ∃ s', (s.buffer ≠ [] ∧ s.registerPoll = .ok (1, s')) ∧ s.transport.writable = false ∧
      s'.buffer = [] ∧ s'.answersTo 1 = [s.buffer] := by
  intro s
  have waits : s.buffer ≠ [] := by decide
  obtain ⟨closed, _, _, polled, _⟩ := run_wakes .plain [.registerPoll, .send (.message (.text "a"))]
  obtain ⟨sent, answered⟩ := polled 1 (s.perform .registerPoll) rfl
  exact ⟨_, ⟨waits, rfl⟩, closed waits, sent, answered waits⟩

end Session

end Duplex
