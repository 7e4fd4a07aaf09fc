import Duplex.Proofs.Session.Outbound

-- What becomes of polls. At most one waits at a time, and an operation that takes it from its place
-- answers it, unless its client went away. Nothing else answers a poll.

namespace Duplex

-- The poll that a delivery answers, and with what.
def Delivery.answer? : Delivery → Option (PollId × List Packet)
  | answer poll packets => some (poll, packets)
  | frame _ _ | hangUp _ => none

namespace Transport

-- The answer that packets make for the poll that waits, if its client takes it.
def answersWith (t : Transport) (packets : List Packet) : List (PollId × List Packet) :=
  match t.parked? with
  | some q => if q.client.take?.isSome then [(q.poll, packets)] else []
  | none => []

theorem answersWith_of_parked_none {t : Transport} (packets : List Packet) (h : t.parked? = none) :
    t.answersWith packets = [] := by
  simp [answersWith, h]

section

variable (t : Transport) (packets : List Packet)

theorem parked?_send : (t.send packets).transport.parked? = none := by
  cases t with
  | polling t => exact t.parked_send packets
  | websocket t => rfl

theorem answers_send :
    (t.send packets).delivered.filterMap Delivery.answer? = t.answersWith packets := by
  cases t with
  | websocket t =>
    simp only [send, Dispatch.map, Websocket.send, answersWith, parked?]
    split
    · rw [List.filterMap_map]
      exact List.filterMap_eq_nil_iff.mpr fun _ _ => rfl
    · rfl
  | polling t =>
    simp only [send, Dispatch.map, Polling.send, answersWith, parked?]
    cases t.parked with
    | none => rfl
    | some q =>
      dsimp only
      cases q.client.take? <;> rfl

theorem answers_release :
    t.release.delivered.filterMap Delivery.answer? = t.answersWith [.noop] := by
  cases t with
  | websocket t => rfl
  | polling t => exact answers_send (polling t) [.noop]

theorem parked?_release : t.release.transport.parked? = none := by
  cases t with
  | websocket t => rfl
  | polling t => exact t.parked_send [.noop]

-- A transport with no poll left answers none when it is closed.
theorem answers_close_release :
    t.release.transport.close.delivered.filterMap Delivery.answer? = [] := by
  cases t with
  | websocket t =>
    simp only [release, close, Dispatch.map, Websocket.close]
    split
    · rfl
    · split <;> rfl
  | polling t =>
    have silent : (t.send [.noop]).transport.close.delivered = [] :=
      Polling.delivered_close_of_parked_none (t.parked_send [.noop])
    simp [release, close, Dispatch.map, Polling.release, silent]

theorem answers_close (unclosed : t.isClosed = false) :
    t.close.delivered.filterMap Delivery.answer? = t.answersWith [.close] := by
  cases t with
  | websocket t =>
    simp only [close, Dispatch.map, Websocket.close, answersWith, parked?]
    split
    · rfl
    · split <;> rfl
  | polling t =>
    have unclosed : t.closed = false := unclosed
    simp only [close, Dispatch.map, Polling.close, unclosed, Bool.false_eq_true, ↓reduceIte]
    exact answers_send (polling { t with closed := true }) [.close]

end

theorem parked?_setPollClient (t : Transport) (poll : PollId) (client : Peer) :
    (t.setPollClient poll client).parked? = t.parked?.map fun q =>
      if q.poll = poll then { q with client := q.client.become client } else q := by
  cases t <;> rfl

theorem parked?_setWriter (t : Transport) (tid : TransportId) (writer : Peer) :
    (t.setWriter tid writer).parked? = t.parked? := by
  cases t <;> rfl

-- A poll that the transport could not answer is given back what it would have been answered with.
theorem refused_send_of_answersWith {t : Transport} {packets : List Packet}
    (h : t.answersWith packets ≠ []) : (t.send packets).refused = none := by
  cases t with
  | websocket t => simp [answersWith, parked?] at h
  | polling t =>
    simp only [answersWith, parked?] at h
    simp only [send, Dispatch.map, Polling.send]
    cases parked : t.parked with
    | none => simp [parked] at h
    | some q => cases taken : q.client.take? <;> simp_all

end Transport

theorem Websocket.answers_close (t : Websocket) :
    t.close.delivered.filterMap Delivery.answer? = [] := by
  simp only [close]
  split
  · rfl
  · split <;> rfl

namespace Session

-- The polls that were answered, in that order.
def answers (s : Session) : List (PollId × List Packet) :=
  s.dispatched.filterMap Delivery.answer?

-- What a poll was answered with.
def answersTo (s : Session) (poll : PollId) : List (List Packet) :=
  s.answers.filterMap fun a => if a.1 = poll then some a.2 else none

theorem answer?_eq_head? (s : Session) (poll : PollId) :
    s.answer? poll = (s.answersTo poll).head? := by
  have each : answerIn? poll = fun d =>
      d.answer?.bind fun a => if a.1 = poll then some a.2 else none := by
    funext d
    cases d <;> rfl
  rw [answersTo, answers, List.filterMap_filterMap, List.head?_filterMap, answer?, each]

-- A poll waits for its answer. Its client may have gone away meanwhile.
def Waits (s : Session) (poll : PollId) : Prop :=
  ∃ client, s.transport.parked? = some { poll, client }

-- How an operation answers a poll: with all packets that wait, if there are any, or, once the poll
-- has waited, with a packet that means nothing or with the end of the session.
inductive Answers (s : Session) (op : Op) (poll : PollId) : List Packet → Prop
  | batch (asks : s.Waits poll ∨ op = .registerPoll ∧ poll = s.polls)
    (some_ : s.buffer ++ s.accepted [op] ≠ []) (sent : (s.perform op).buffer = []) :
    Answers s op poll (s.buffer ++ s.accepted [op])
  | noop (waits : s.Waits poll) : Answers s op poll [.noop]
  | close (waits : s.Waits poll) (live : s.isLive) (closed : (s.perform op).isLive = false) :
    Answers s op poll [.close]

-- Whether an operation answers the poll that waits without having anything to say to it: a poll asks
-- for its own answer, or a websocket gets on with its upgrade.
def Op.releases (s : Session) : Op → Bool
  | expirePoll _ => true
  | probe tid p => (s.probe tid p).1.isOk
  | _ => false

-- What an operation does to polls.
inductive Serves (s : Session) (op : Op) (s' : Session) : Prop
  | rests (parked : s'.transport.parked? = s.transport.parked?) (polls : s'.polls = s.polls)
    (answers : s'.answers = s.answers)
  | hears (poll : PollId) (client : Peer) (said : op = .setPollClient poll client)
    (parked : s'.transport.parked? = s.transport.parked?.map fun q =>
      if q.poll = poll then { q with client := q.client.become client } else q)
    (polls : s'.polls = s.polls) (answers : s'.answers = s.answers)
  | registers (free : ∀ q, s.transport.parked? = some q → q.client.isThere = false)
    (parked : s'.transport.parked? = some { poll := s.polls }) (polls : s'.polls = s.polls + 1)
    (answers : s'.answers = s.answers)
  | meets {packets : List Packet}
    (free : ∀ q, s.transport.parked? = some q → q.client.isThere = false)
    (parked : s'.transport.parked? = none) (polls : s'.polls = s.polls + 1)
    (answers : s'.answers = s.answers ++ [(s.polls, packets)])
    (content : Answers s op s.polls packets)
  | empties (packets : List Packet) (parked : s'.transport.parked? = none)
    (polls : s'.polls = s.polls)
    (answers : s'.answers = s.answers ++ s.transport.answersWith packets)
    (content : ∀ a ∈ s.transport.answersWith packets, Answers s op a.1 a.2)
    (why : packets = s.buffer ++ s.accepted [op] ∨ packets = [.close] ∨
      packets = [.noop] ∧ op.releases s)

theorem waits_of_mem_answersWith {s : Session} {packets : List Packet}
    {a : PollId × List Packet} (mem : a ∈ s.transport.answersWith packets) :
    s.Waits a.1 ∧ a.2 = packets := by
  simp only [Transport.answersWith] at mem
  split at mem
  · next q parked =>
    split at mem
    · rw [List.mem_singleton.mp mem]
      exact ⟨⟨q.client, parked⟩, rfl⟩
    · simp at mem
  · simp at mem

section

variable (s : Session)

@[simp]
theorem answers_enter (state : ReadyState) : (s.enter state).answers = s.answers := by
  simp [answers]

theorem answers_handOver_close (t : Websocket) :
    (s.handOver t.close.delivered).answers = s.answers := by
  simp [answers, handOver, t.answers_close]

theorem answers_withTransport (d : Dispatch Transport) :
    (s.withTransport d).answers = s.answers ++ d.delivered.filterMap Delivery.answer? := by
  simp [answers, withTransport, handOver]

@[simp]
theorem answers_dropPending : s.dropPending.answers = s.answers := by
  simp only [dropPending]
  split
  · rfl
  · exact answers_handOver_close _ _

@[simp]
theorem answers_stay : s.stay.answers = s.answers := by
  simp only [stay]
  split <;> simp

theorem answers_answerProbe (p : Pending) : (s.answerProbe p).answers = s.answers := by
  have none_ : p.answer.delivered.filterMap Delivery.answer? = [] := by
    have t := Transport.answers_send (.websocket p.transport) [.probeAnswer]
    exact t
  simp [answers, answerProbe, handOver, none_]

@[simp]
theorem polls_enter (state : ReadyState) : (s.enter state).polls = s.polls := by
  simp only [enter]
  split <;> rfl

@[simp]
theorem polls_flush : s.flush.polls = s.polls := by
  have ⟨_, _, _, _, eq⟩ := s.flush_eq
  rw [eq]

@[simp]
theorem polls_dropPending : s.dropPending.polls = s.polls := by
  simp only [dropPending]
  split <;> rfl

@[simp]
theorem polls_stay : s.stay.polls = s.polls := by
  simp only [stay]
  split <;> simp

@[simp]
theorem polls_shut : s.shut.polls = s.polls := by
  simp [shut, withTransport, handOver]

@[simp]
theorem polls_swap (t : Websocket) : (s.swap t).polls = s.polls := by
  simp [swap, handOver, releasePoll, withTransport]

theorem answers_shut (unclosed : s.transport.isClosed = false) :
    s.shut.answers = s.answers ++ s.transport.answersWith [.close] := by
  simp only [shut, answers_enter, answers_withTransport, transport_dropPending, transport_enter,
    Transport.answers_close _ unclosed]
  exact congrArg (· ++ _) ((answers_dropPending _).trans (s.answers_enter .closing))

-- A flush answers the poll that waits with all that waits for it, or it leaves polls alone.
theorem flush_answers :
    (s.flush.transport.parked? = s.transport.parked? ∧ s.flush.answers = s.answers) ∨
      (s.buffer ≠ [] ∧ s.flush.transport.parked? = none ∧
        s.flush.answers = s.answers ++ s.transport.answersWith s.buffer ∧
        (s.transport.answersWith s.buffer ≠ [] → s.flush.buffer = [])) := by
  by_cases ne : s.buffer = []
  · exact .inl (by rw [flush_of_buffer_nil ne]; exact ⟨rfl, rfl⟩)
  · cases writable : s.transport.writable with
    | false => exact .inl (by rw [flush_of_not_writable writable]; exact ⟨rfl, rfl⟩)
    | true =>
      have ⟨_, eq⟩ := flush_of_writable ne writable
      refine .inr ⟨ne, ?_, ?_, fun answered => ?_⟩
      · rw [eq]
        exact s.transport.parked?_send s.buffer
      · rw [eq]
        simp [answers, s.transport.answers_send]
      · rw [eq]
        simp [Transport.refused_send_of_answersWith answered]

end

-- A poll that finds nothing waits.
theorem parked?_registerPoll {s s' : Session} {poll : PollId}
    (h : s.registerPoll = .ok (poll, s')) (empty : s.buffer = []) :
    s'.buffer = [] ∧ s'.transport.parked? = some { poll } ∧ s'.answers = s.answers := by
  have ⟨first, _, t, t', _, free, flushed⟩ := registerPoll_eq_ok h
  have ⟨_, parked⟩ := Polling.register?_eq_some free
  let registered : Session := { s with transport := .polling t', polls := s.polls + 1 }
  have eq : s' = registered := flushed.trans (flush_of_buffer_nil empty)
  rw [eq, first]
  exact ⟨empty, by simp [registered, Transport.parked?, parked], rfl⟩

-- A poll that finds packets takes all of them.
theorem answers_registerPoll {s s' : Session} {poll : PollId} (v : s.Valid)
    (h : s.registerPoll = .ok (poll, s')) (some_ : s.buffer ≠ []) :
    s'.buffer = [] ∧ s'.transport.parked? = none ∧
      s'.answers = s.answers ++ [(poll, s.buffer)] := by
  obtain ⟨first, live, t, t', polling, free, flushed⟩ := registerPoll_eq_ok h
  obtain ⟨_, parked⟩ := Polling.register?_eq_some free
  let registered : Session := { s with transport := .polling t', polls := s.polls + 1 }
  have waits : registered.transport.parked? = some { poll } := by
    simp [registered, Transport.parked?, parked, first]
  have unclosed : registered.transport.isClosed = false := by
    simpa [registered, polling, Transport.isClosed, parked] using (v.live live).1
  have given : registered.transport.answersWith s.buffer = [(poll, s.buffer)] := by
    simp [Transport.answersWith, waits, Peer.take?]
  have taken := Transport.refused_send_of_answersWith (given ▸ List.cons_ne_nil _ _)
  have writable := Transport.writable_of_parked? unclosed waits rfl
  obtain ⟨_, sent⟩ := registered.flush_of_writable some_ writable
  have eq := flushed.trans sent
  rw [eq]
  refine ⟨?_, Transport.parked?_send _ _, ?_⟩
  · simp [registered, taken]
  · simp [registered, answers, Transport.answers_send, given]

namespace Serves

variable {s s₁ : Session} {op : Op}

-- A flush of a session that differs from the one before the operation in nothing that matters to
-- polls but in what was accepted.
theorem flush (parked : s₁.transport.parked? = s.transport.parked?) (polls : s₁.polls = s.polls)
    (answers : s₁.answers = s.answers) (buffer : s₁.buffer = s.buffer ++ s.accepted [op])
    (done : (s.perform op).buffer = s₁.flush.buffer) : Serves s op s₁.flush := by
  have same : s₁.transport.answersWith = s.transport.answersWith := by
    funext packets
    simp only [Transport.answersWith, parked]
  cases s₁.flush_answers with
  | inl rest =>
    have ⟨parked', answers'⟩ := rest
    exact .rests (parked'.trans parked) (by simp [polls]) (answers'.trans answers)
  | inr taken =>
    have ⟨some_, parked', answers', sent⟩ := taken
    rw [buffer, same, answers] at answers'
    refine .empties _ parked' (by simp [polls]) answers' (fun a mem => ?_) (.inl rfl)
    have ⟨waits, eq⟩ := waits_of_mem_answersWith mem
    rw [eq]
    rw [buffer] at some_
    rw [buffer, same] at sent
    exact .batch (.inl waits) some_ (done.trans (sent (List.ne_nil_of_mem mem)))

theorem close {reason : CloseReason} (v : s.Valid) (state : s₁.state = s.state)
    (transport : s₁.transport = s.transport) (polls : s₁.polls = s.polls)
    (answers : s₁.answers = s.answers) (done : s.perform op = s₁.close reason) :
    Serves s op (s₁.close reason) := by
  have same : s₁.isLive = s.isLive := congrArg ReadyState.isLive state
  cases live : s.isLive with
  | false =>
    rw [close_of_not_live reason (same.trans live)]
    exact .rests (by rw [transport]) polls answers
  | true =>
    have ⟨unclosed, _⟩ := v.live live
    have ⟨_, eq⟩ := close_of_live reason (same.trans live)
    have ended : (s.perform op).isLive = false := by rw [done, isLive_close]
    refine .empties [.close] ?_ ?_ ?_ (fun a mem => ?_) (.inr (.inl rfl))
    · rw [eq]
      simpa [transport] using Transport.parked?_close_eq_none unclosed
    · simp [eq, polls]
    · rw [eq]
      exact (s₁.answers_shut (transport ▸ unclosed)).trans (by rw [answers, transport])
    · have ⟨waits, content⟩ := waits_of_mem_answersWith mem
      rw [content]
      exact .close waits live ended

-- An answer that means nothing.
theorem release (transport : s₁.transport = s.transport) (polls : s₁.polls = s.polls)
    (answers : s₁.answers = s.answers) (releases : op.releases s) :
    Serves s op s₁.releasePoll := by
  refine .empties [.noop] s₁.transport.parked?_release polls ?_ (fun a mem => ?_)
    (.inr (.inr ⟨rfl, releases⟩))
  · rw [releasePoll, answers_withTransport, transport, s.transport.answers_release, answers]
  · have ⟨waits, content⟩ := waits_of_mem_answersWith mem
    rw [content]
    exact .noop waits

theorem send {p : Packet} (transport : s₁.transport = s.transport) (polls : s₁.polls = s.polls)
    (answers : s₁.answers = s.answers) (buffer : s₁.buffer = s.buffer)
    (accepts : s₁.accepts p = s.accepts p) (sending : op.sending? = some p)
    (done : s.perform op = (s₁.send p).toOption.getD s₁) : Serves s op (s.perform op) := by
  cases sent : s₁.send p with
  | error f =>
    have eq : s.perform op = s₁ := by rw [done, sent]; rfl
    rw [eq]
    exact .rests (by rw [transport]) polls answers
  | ok s₂ =>
    have ⟨_, _, eq⟩ := send_eq_ok sent
    have accepted : s.accepts p := by
      rw [← accepts]
      simp [Session.accepts, sent, Except.isOk, Except.toBool]
    have entered : s.accepted [op] = [p] := by
      simp [Session.accepted, sending, Option.filter, accepted]
    have flushed : s.perform op = { s₁ with buffer := s₁.buffer ++ [p] }.flush := by
      rw [done, sent, ← eq]
      rfl
    rw [flushed]
    exact flush (by rw [transport]) polls answers (by rw [entered, buffer]) (by rw [flushed])

-- What is said of a session is nothing to polls.
theorem signals {s' : Session} (h : Serves s op s') (signals : List Signal) :
    Serves s op { s' with signals } := by
  cases h with
  | rests parked polls answers => exact .rests parked polls answers
  | hears poll client said parked polls answers => exact .hears poll client said parked polls answers
  | registers free parked polls answers => exact .registers free parked polls answers
  | meets free parked polls answers content => exact .meets free parked polls answers content
  | empties packets parked polls answers content why =>
    exact .empties packets parked polls answers content why

-- The poll that waits is released before the websocket takes over.
theorem completeUpgrade (t : Websocket) (releases : op.releases s) :
    Serves s op (s.completeUpgrade t) := by
  obtain ⟨signals, eq⟩ := s.completeUpgrade_eq t
  have swapped : (s.swap t).transport.parked? = none := by simp [Transport.parked?]
  have parked : (s.swap t).flush.transport.parked? = none := by
    cases (s.swap t).flush_answers with
    | inl rest => exact rest.1.trans swapped
    | inr taken => exact taken.2.1
  have flushed : (s.swap t).flush.answers = (s.swap t).answers := by
    cases (s.swap t).flush_answers with
    | inl rest => exact rest.2
    | inr taken =>
      rw [taken.2.2.1, Transport.answersWith_of_parked_none _ swapped, List.append_nil]
  have released : (s.swap t).answers = s.answers ++ s.transport.answersWith [.noop] := by
    have silent := s.transport.answers_close_release
    simp [Session.answers, s.transport.answers_release, silent]
  have served : Serves s op (s.swap t).flush :=
    .empties [.noop] parked ((polls_flush _).trans (s.polls_swap t)) (flushed.trans released)
      (fun a mem => by
        obtain ⟨waits, content⟩ := waits_of_mem_answersWith mem
        rw [content]
        exact .noop waits) (.inr (.inr ⟨rfl, releases⟩))
  exact eq ▸ served.signals signals

theorem abortUpgrade {tid : TransportId} {f : Fault} (sending : op.sending? = none)
    (done : s.perform op = s.abortUpgrade tid f) : Serves s op (s.abortUpgrade tid f) := by
  cases found : s.pending.filter (·.transport.id = tid) with
  | none =>
    rw [abortUpgrade_of_filter_none s f found]
    exact .rests rfl rfl rfl
  | some p =>
    have ⟨pending, id⟩ := Option.filter_eq_some_iff.mp found
    rw [← of_decide_eq_true id] at done ⊢
    have ⟨_, eq⟩ := abortUpgrade_of_pending s f pending
    have kept : s.stay.buffer = s.buffer ++ s.accepted [op] := by
      simp [Session.accepted, sending]
    have stayed : Serves s op s.stay.flush :=
      flush (by simp) (by simp) (by simp) kept (by rw [done, eq])
    exact eq ▸ stayed.signals _

theorem registerPoll (v : s.Valid) : Serves s .registerPoll (s.perform .registerPoll) := by
  cases h : s.registerPoll with
  | error f =>
    rw [perform_registerPoll_of_error h]
    exact .rests rfl rfl rfl
  | ok registered =>
    obtain ⟨first, _, t, t', polling, free, flushed⟩ := registerPoll_eq_ok h
    have done := perform_registerPoll h
    have counted : registered.2.polls = s.polls + 1 := by simp [flushed]
    obtain ⟨none_, _⟩ := Polling.register?_eq_some free
    have free : ∀ q, s.transport.parked? = some q → q.client.isThere = false := by
      intro q parked
      have parked : t.parked = some q := by simpa [polling, Transport.parked?] using parked
      simpa [Polling.hasLivePoll, parked] using none_
    have all : s.buffer = s.buffer ++ s.accepted [.registerPoll] := by
      simp [accepted, Op.sending?]
    by_cases empty : s.buffer = []
    case pos =>
      obtain ⟨_, parked, answers⟩ := parked?_registerPoll h empty
      rw [done]
      exact .registers free (first ▸ parked) counted answers
    case neg =>
      obtain ⟨sent, parked, answers⟩ := answers_registerPoll v h empty
      rw [done]
      apply Serves.meets free parked counted (first ▸ answers)
      rw [all]
      exact .batch (.inr ⟨rfl, rfl⟩) (all ▸ empty) (done ▸ sent)

theorem receive (v : s.Valid) (p : Packet) (now : Nat) :
    Serves s (.receive p now) (s.perform (.receive p now)) := by
  have rests {s' : Session} (h : s'.transport.parked? = s.transport.parked? ∧ s'.polls = s.polls ∧
      s'.answers = s.answers) : Serves s (.receive p now) s' := .rests h.1 h.2.1 h.2.2
  cases kind : p.kind with
  | ping =>
    let heard : Session := (s.meter .received).heartbeat now
    have done : s.perform (.receive p now) = (heard.send (.pong p.data)).toOption.getD heard := by
      simp only [perform, Session.receive, kind]
      exact answerPing_eq ..
    have accepts : heard.accepts (.pong p.data) = s.accepts (.pong p.data) := by
      simp only [accepts_eq]
      rfl
    have transport : heard.transport = s.transport := rfl
    exact .send transport rfl rfl rfl accepts (if_pos kind) done
  | close =>
    have done : s.perform (.receive p now) = (s.meter .received).close .transportClose := by
      simp only [perform, Session.receive, kind]
    rw [done]
    exact .close v rfl rfl rfl rfl done
  | message =>
    simp only [perform, Session.receive, kind, takeIn]
    split <;> exact rests ⟨rfl, rfl, rfl⟩
  | pong | handshake | upgrade | noop =>
    simp only [perform, Session.receive, kind]
    exact rests ⟨rfl, rfl, rfl⟩

theorem recordDecodeError (v : s.Valid) (e : DecodeError) :
    Serves s (.recordDecodeError e) (s.perform (.recordDecodeError e)) := by
  cases exhausted : decide (s.config.maxDecodeErrors < s.decodeErrors + 1) with
  | true =>
    have done : s.perform (.recordDecodeError e) = (s.countDecodeError e).close .parseError :=
      if_pos (of_decide_eq_true exhausted)
    rw [done]
    exact .close v rfl rfl rfl rfl done
  | false =>
    have done : s.perform (.recordDecodeError e) = s.countDecodeError e :=
      if_neg (of_decide_eq_false exhausted)
    rw [done]
    exact .rests rfl rfl rfl

theorem beginUpgrade (s : Session) (id : TransportId) (revision : Revision) (writer : Peer) :
    Serves s (.beginUpgrade id revision writer) (s.perform (.beginUpgrade id revision writer)) := by
  simp only [perform, Session.beginUpgrade]
  split
  · exact .rests rfl rfl (answers_handOver_close s _)
  · exact .rests (by simp) (polls_enter _ _) (answers_enter _ _)

theorem probe (s : Session) (tid : TransportId) (p : Packet) :
    Serves s (.probe tid p) (s.perform (.probe tid p)) := by
  have releases {outcome : Probe} (ok : (s.probe tid p).1 = .ok outcome) :
      (Op.probe tid p).releases s := by
    rw [Op.releases, ok]
    rfl
  simp only [Session.probe] at releases
  simp only [perform, Session.probe]
  split
  · exact .rests rfl rfl rfl
  next pending found =>
  rw [found] at releases
  dsimp only at releases
  split
  · next asked =>
    rw [if_pos asked] at releases
    split
    · exact .rests rfl rfl (s.answers_answerProbe pending)
    · next taken =>
      rw [taken] at releases
      exact .release rfl rfl (s.answers_answerProbe pending) (releases rfl)
  · next other =>
    rw [if_neg other] at releases
    split
    · next done =>
      rw [if_pos done] at releases
      exact .completeUpgrade pending.transport (releases rfl)
    · exact .rests rfl rfl rfl

theorem transportClosed (v : s.Valid) (tid : TransportId) (reason : CloseReason) :
    Serves s (.transportClosed tid reason) (s.perform (.transportClosed tid reason)) := by
  by_cases active : s.transport.id = tid
  · have done : s.perform (.transportClosed tid reason) = s.close reason := if_pos active
    rw [done]
    exact .close v rfl rfl rfl rfl done
  · have done : s.perform (.transportClosed tid reason) =
        s.abortUpgrade tid .upgradeTransportClosed := if_neg active
    rw [done]
    exact .abortUpgrade rfl done

end Serves

-- Every operation.
theorem perform_serves {s : Session} (v : s.Valid) (op : Op) : Serves s op (s.perform op) := by
  cases op with
  | send p => exact .send rfl rfl rfl rfl rfl rfl rfl
  | registerPoll => exact .registerPoll v
  | expirePoll poll => exact .release rfl rfl rfl rfl
  | setPollClient poll client =>
    exact .hears poll client rfl (s.transport.parked?_setPollClient poll client) rfl rfl
  | receive p now => exact .receive v p now
  | heartbeat | countDecodeError | resetDecodeErrors | report | passOn => exact .rests rfl rfl rfl
  | recordDecodeError e => exact .recordDecodeError v e
  | beginUpgrade id revision writer => exact .beginUpgrade s id revision writer
  | probe tid p => exact .probe s tid p
  | abortUpgrade tid f => exact .abortUpgrade rfl rfl
  | transportClosed tid reason => exact .transportClosed v tid reason
  | setWriter tid writer => exact .rests (s.transport.parked?_setWriter tid writer) rfl rfl
  | close reason => exact .close v rfl rfl rfl rfl rfl

end Session

end Duplex
