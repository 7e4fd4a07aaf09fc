import Duplex.Proofs.Session.Waking

-- Polls during an upgrade. The poll that waits is released when the probe ping is answered, so that
-- the client can pause polling. A poll that comes only then is not: it waits again, unless it finds
-- packets.

namespace Duplex.Session

-- Whether a client waits for the answer to its poll.
def suspends (s : Session) : Bool :=
  s.transport.parked?.any (·.client.isThere)

section

variable {s s' : Session}

theorem suspends_of_parked? (h : s'.transport.parked? = s.transport.parked?) :
    s'.suspends = s.suspends := by
  simp only [suspends, h]

theorem suspends_of_parked?_eq_none (h : s.transport.parked? = none) : s.suspends = false := by
  simp [suspends, h]

-- A client that went away does not come back.
theorem suspends_hears {poll : PollId} {client : Peer} (free : s.suspends = false)
    (parked : s'.transport.parked? = s.transport.parked?.map fun q =>
      if q.poll = poll then { q with client := q.client.become client } else q) :
    s'.suspends = false := by
  cases waited : s.transport.parked? with
  | none => exact suspends_of_parked?_eq_none (by simp [parked, waited])
  | some q =>
    have gone : q.client.isThere = false := by simpa [suspends, waited] using free
    by_cases told : q.poll = poll
    · simp [suspends, parked, waited, told, Peer.become, gone]
    · simp [suspends, parked, waited, told, gone]

end

-- Only a poll that is let in counts.

section

variable (s : Session)

theorem polls_close (reason : CloseReason) : (s.close reason).polls = s.polls := by
  cases live : s.isLive with
  | false => rw [close_of_not_live reason live]
  | true =>
    have ⟨_, eq⟩ := close_of_live reason live
    rw [eq]
    exact s.polls_shut

theorem polls_send (p : Packet) : ((s.send p).toOption.getD s).polls = s.polls := by
  cases sent : s.send p with
  | error f => rfl
  | ok s' =>
    have ⟨_, _, eq⟩ := send_eq_ok sent
    rw [eq]
    exact polls_flush _

theorem polls_receive (p : Packet) (now : Nat) : (s.receive p now).polls = s.polls := by
  simp only [receive]
  cases p.kind with
  | ping =>
    dsimp only
    rw [answerPing_eq, polls_send]
    rfl
  | message =>
    simp only [takeIn]
    split <;> rfl
  | close => exact polls_close _ _
  | pong | handshake | upgrade | noop => rfl

theorem polls_recordDecodeError (e : DecodeError) : (s.recordDecodeError e).polls = s.polls := by
  simp only [recordDecodeError]
  split
  · exact polls_close _ _
  · rfl

theorem polls_beginUpgrade (t : Websocket) : (s.beginUpgrade t).2.polls = s.polls := by
  simp only [beginUpgrade]
  split
  · rfl
  · exact polls_enter _ _

theorem polls_probe (tid : TransportId) (p : Packet) : (s.probe tid p).2.polls = s.polls := by
  simp only [probe]
  split
  · rfl
  next q _ =>
  split
  · split <;> rfl
  · split
    · obtain ⟨_, eq⟩ := s.completeUpgrade_eq q.transport
      rw [eq]
      exact (polls_flush _).trans (s.polls_swap _)
    · rfl

theorem polls_abortUpgrade (tid : TransportId) (f : Fault) :
    (s.abortUpgrade tid f).polls = s.polls := by
  simp only [abortUpgrade]
  split
  · rfl
  · exact (polls_flush _).trans s.polls_stay

theorem perform_polls {op : Op} (other : op ≠ .registerPoll) : (s.perform op).polls = s.polls := by
  cases op with
  | registerPoll => exact absurd rfl other
  | send p => exact s.polls_send p
  | receive p now => exact s.polls_receive p now
  | recordDecodeError e => exact s.polls_recordDecodeError e
  | beginUpgrade id revision writer => exact s.polls_beginUpgrade _
  | probe tid p => exact s.polls_probe tid p
  | abortUpgrade tid f => exact s.polls_abortUpgrade tid f
  | transportClosed tid reason =>
    simp only [perform, transportClosed]
    split
    · exact s.polls_close reason
    · exact s.polls_abortUpgrade tid _
  | close reason => exact s.polls_close reason
  | expirePoll | setPollClient | heartbeat | countDecodeError | resetDecodeErrors | report
  | setWriter | passOn => rfl

end

variable {s : Session}

-- Nothing but a poll that finds no packets makes a client wait.
theorem perform_suspends (v : s.Valid) (op : Op) (free : s.suspends = false)
    (met : op = .registerPoll → ∀ poll s', s.registerPoll = .ok (poll, s') → s.buffer ≠ []) :
    (s.perform op).suspends = false := by
  by_cases register : op = .registerPoll
  case pos =>
    rw [register]
    cases h : s.registerPoll with
    | error f =>
      rw [perform_registerPoll_of_error h]
      exact free
    | ok registered =>
      have ⟨_, parked, _⟩ := answers_registerPoll v h (met register _ _ h)
      rw [perform_registerPoll h]
      exact suspends_of_parked?_eq_none parked
  case neg =>
    have same := s.perform_polls register
    cases perform_serves v op with
    | rests parked => exact (suspends_of_parked? parked).trans free
    | hears poll client _ parked => exact suspends_hears free parked
    | registers _ _ polls | meets _ _ polls => omega
    | empties _ parked => exact suspends_of_parked?_eq_none parked

theorem run_suspends (v : s.Valid) {ops : List Op} (free : s.suspends = false)
    (met : ∀ before later, ops = before ++ .registerPoll :: later → ∀ poll s',
      (s.run before).registerPoll = .ok (poll, s') → (s.run before).buffer ≠ []) :
    (s.run ops).suspends = false := by
  induction ops generalizing s with
  | nil => exact free
  | cons op ops ih =>
    have now := perform_suspends v op free fun register => met [] ops (by rw [register]; rfl)
    refine ih (v.perform op) now fun before later split => ?_
    exact met (op :: before) later (by rw [split]; rfl)

-- A poll that finds no packets waits, and its client with it.
theorem suspends_registerPoll {s' : Session} {poll : PollId}
    (h : s.registerPoll = .ok (poll, s')) (empty : s.buffer = []) : s'.suspends := by
  have ⟨_, parked, _⟩ := parked?_registerPoll h empty
  simp [suspends, parked, Peer.isThere]

-- A probe ping that is answered releases the poll that waits. From then on, as long as the upgrade
-- lasts and longer, no client waits if and only if every poll that is let in finds packets, and
-- these are its answer.
theorem run_suspends_iff (o : Origin) (ops after : List Op) {tid : TransportId} {p : Packet}
    {probed : Session} (answered : (o.session.run ops).probe tid p = (.ok .probed, probed)) :
    probed.suspends = false ∧
      ((∀ before later, after = before ++ later → (probed.run before).suspends = false) ↔
        ∀ before later, after = before ++ .registerPoll :: later → ∀ poll s',
          (probed.run before).registerPoll = .ok (poll, s') → (probed.run before).buffer ≠ []) ∧
      ∀ poll s', (probed.run after).registerPoll = .ok (poll, s') →
        (probed.run after).buffer ≠ [] ∧ s'.suspends = false ∧
            s'.answersTo poll = [(probed.run after).buffer] ∨
          (probed.run after).buffer = [] ∧ s'.suspends ∧ s'.answersTo poll = [] := by
  have v : probed.Valid := by
    have performed := (valid_run o ops).perform (.probe tid p)
    simpa [perform, answered] using performed
  have free : probed.suspends = false := by
    obtain ⟨q, _, _, ⟨_, _, released⟩ | ⟨other, _⟩⟩ := probe_eq_ok answered
    · rw [released]
      exact suspends_of_parked?_eq_none (Transport.parked?_release _)
    · cases other
  refine ⟨free, ⟨fun none_ before later split poll s' registered empty => ?_,
    fun met before later split => ?_⟩, fun poll s' registered => ?_⟩
  · have next := none_ (before ++ [.registerPoll]) later (by simp [split])
    rw [run_append, run_cons, run_nil, perform_registerPoll registered,
      suspends_registerPoll registered empty] at next
    cases next
  · refine run_suspends v free fun before' later' split' => ?_
    exact met before' (later' ++ later) (by rw [split, split', List.append_assoc]; rfl)
  · have whole : probed.run after = o.session.run (ops ++ .probe tid p :: after) := by
      simp [run_append, perform, answered]
    rw [whole] at registered ⊢
    obtain ⟨_, ⟨some_, parked, given⟩ | ⟨empty, parked, silent⟩⟩ :=
      answersTo_registerPoll o _ registered
    · exact .inl ⟨some_, suspends_of_parked?_eq_none parked, given⟩
    · exact .inr ⟨empty, suspends_registerPoll registered empty, silent⟩

-- The poll that comes right after the answer to the probe ping is suspended, and it stays so when
-- the websocket gives up because its upgrade packet did not come in time.
theorem run_suspends_probed :
    let s := Origin.plain.session.run
      [.registerPoll, .beginUpgrade 1 .v4 .present,
        .probe 1 { kind := .ping, data := some (.text "probe") }, .registerPoll]
    s.pending.any (·.probed) ∧ s.framesOn 1 = [.text "3probe"] ∧ s.suspends ∧
      s.answersTo 1 = [] ∧ (s.joinTimedOut 1).suspends := by
  decide

-- A poll that finds a message is answered with it.
theorem run_suspends_iff_sent :
    let s := Origin.plain.session.run [.registerPoll, .beginUpgrade 1 .v4 .present]
    let ping : Packet := { kind := .ping, data := some (.text "probe") }
    ∃ probed s', (s.probe 1 ping = (.ok .probed, probed) ∧
        (probed.run [.send (.message (.text "a"))]).registerPoll = .ok (1, s')) ∧
      probed.suspends = false ∧ s'.suspends = false ∧
        s'.answersTo 1 = [[.message (.text "a")]] := by
  intro s ping
  have probed : s.probe 1 ping = (.ok .probed, _) := rfl
  obtain ⟨free, _, met⟩ := run_suspends_iff .plain [.registerPoll, .beginUpgrade 1 .v4 .present]
    [.send (.message (.text "a"))] probed
  obtain ⟨_, free', answered⟩ | ⟨empty, _⟩ := met 1 _ rfl
  · exact ⟨_, _, ⟨rfl, rfl⟩, free, free', answered⟩
  · exact absurd empty (by decide)

end Duplex.Session
