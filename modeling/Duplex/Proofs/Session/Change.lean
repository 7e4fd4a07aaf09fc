import Duplex.Proofs.Session.Run

-- What an operation can do to a session. Every operation is made of a few changes, so that what
-- every change preserves holds along every run.

namespace Duplex.Session

-- A change brings packets into the session, or websockets, or neither.
inductive Change : Session → List Packet → List (TransportId × Revision) → Session → Prop
  | note {s : Session} (lastHeartbeat : Nat) (inbox : List Payload) (decodeErrors : UInt32)
    (signals : List Signal) :
    Change s [] [] { s with lastHeartbeat, inbox, decodeErrors, signals }
  | accept {s : Session} {p : Packet} (live : s.isLive)
    (check : Transport.check s.transport.kind p s.revision = .ok ()) :
    Change s [p] [] { s with buffer := s.buffer ++ [p] }.flush
  | register {s : Session} {t t' : Polling} (live : s.isLive) (polling : s.transport = .polling t)
    (free : t.register? s.polls = some t') :
    Change s [] [] { s with transport := .polling t', polls := s.polls + 1 }.flush
  | release {s : Session} : Change s [] [] s.releasePoll
  | client {s : Session} (poll : PollId) (client : Peer) :
    Change s [] [] (s.setPollClient poll client)
  | writer {s : Session} (tid : TransportId) (writer : Peer) :
    Change s [] [] (s.setWriter tid writer)
  | refuse {s : Session} (t : Websocket) (f : Fault) (refused : s.checkUpgrade = .error f) :
    Change s [] [] (s.handOver t.close.delivered)
  | join {s : Session} (id : TransportId) (revision : Revision) (writer : Peer)
    (admitted : s.checkUpgrade = .ok ()) :
    Change s [] [(id, revision)]
      ({ s with pending := some { transport := { id, revision, writer } } }.enter .upgrading)
  | probe {s : Session} {p : Pending} (pending : s.pending = some p) :
    Change s [] [] (s.answerProbe p)
  | upgrade {s : Session} {p : Pending} (pending : s.pending = some p) (probed : p.probed) :
    Change s [] [] (s.completeUpgrade p.transport)
  | abort {s : Session} {p : Pending} (f : Fault) (pending : s.pending = some p) :
    Change s [] [] (s.abortUpgrade p.transport.id f)
  | close {s : Session} (reason : CloseReason) (live : s.isLive) :
    Change s [] [] (s.close reason)

inductive Changes : Session → List Packet → List (TransportId × Revision) → Session → Prop
  | refl {s : Session} : Changes s [] [] s
  | step {s₁ s₂ s₃ : Session} {ps ps' : List Packet} {ws ws' : List (TransportId × Revision)} :
    Change s₁ ps ws s₂ → Changes s₂ ps' ws' s₃ → Changes s₁ (ps ++ ps') (ws ++ ws') s₃

theorem Change.changes {s s' : Session} {ps : List Packet} {ws : List (TransportId × Revision)}
    (h : Change s ps ws s') : Changes s ps ws s' := by
  simpa using Changes.step h .refl

-- A session stays the one that it is.
theorem Change.identity {s s' : Session} {ps : List Packet} {ws : List (TransportId × Revision)}
    (h : Change s ps ws s') : s'.identity = s.identity := by
  cases h with
  | note | release | client | writer | refuse | probe => rfl
  | accept | register => exact identity_flush _
  | join => exact identity_enter _ _
  | @upgrade p =>
    have ⟨_, eq⟩ := s.completeUpgrade_eq p.transport
    have swapped : (s.swap p.transport).flush.identity = s.identity := by simp
    rw [eq]
    exact swapped
  | abort f pending =>
    have ⟨_, eq⟩ := abortUpgrade_of_pending s f pending
    have stayed : s.stay.flush.identity = s.identity := by simp
    rw [eq]
    exact stayed
  | close reason => exact identity_close s reason

theorem Changes.trans {s₁ s₂ s₃ : Session} {ps ps' : List Packet}
    {ws ws' : List (TransportId × Revision)} (h : Changes s₁ ps ws s₂)
    (h' : Changes s₂ ps' ws' s₃) : Changes s₁ (ps ++ ps') (ws ++ ws') s₃ := by
  induction h with
  | refl => exact h'
  | step c _ ih => simpa using Changes.step c (ih h')

theorem Changes.note {s s' : Session} {ps : List Packet} {ws : List (TransportId × Revision)}
    (h : Changes s ps ws s') (lastHeartbeat : Nat) (inbox : List Payload) (decodeErrors : UInt32)
    (signals : List Signal) :
    Changes s ps ws { s' with lastHeartbeat, inbox, decodeErrors, signals } := by
  simpa using h.trans (Change.note lastHeartbeat inbox decodeErrors signals).changes

-- What preserves a fact about a session at every change preserves it along all of them.
theorem Changes.induction {P : Session → Prop} {s s' : Session} {ps : List Packet}
    {ws : List (TransportId × Revision)} (h : Changes s ps ws s') (hs : P s)
    (step : ∀ {s s' ps ws}, Change s ps ws s' → P s → P s') : P s' := by
  induction h with
  | refl => exact hs
  | step c _ ih => exact ih (step c hs)

theorem Changes.identity {s s' : Session} {ps : List Packet} {ws : List (TransportId × Revision)}
    (h : Changes s ps ws s') : s'.identity = s.identity := by
  induction h with
  | refl => rfl
  | step c _ ih => exact ih.trans c.identity

theorem Changes.revision {s s' : Session} {ps : List Packet} {ws : List (TransportId × Revision)}
    (h : Changes s ps ws s') : s'.revision = s.revision :=
  congrArg (·.2.1) h.identity

section

variable {s : Session}

theorem send_eq_ok {s' : Session} {p : Packet} (h : s.send p = .ok s') :
    s.isLive ∧ Transport.check s.transport.kind p s.revision = .ok () ∧
      s' = { s with buffer := s.buffer ++ [p] }.flush := by
  simp only [send] at h
  cases hl : s.isLive with
  | false => simp [hl] at h
  | true =>
    cases hc : Transport.check s.transport.kind p s.revision with
    | error e => simp [hl, hc] at h
    | ok => exact ⟨rfl, rfl, by simpa [hl, hc] using h.symm⟩

theorem accepts_eq (s : Session) (p : Packet) :
    s.accepts p = (s.isLive && (Transport.check s.transport.kind p s.revision).isOk) := by
  simp only [accepts, send]
  cases s.isLive with
  | false => rfl
  | true => cases Transport.check s.transport.kind p s.revision <;> rfl

theorem send_of_accepts {p : Packet} (h : s.accepts p) : s.send p = .ok (s.perform (.send p)) := by
  cases hs : s.send p with
  | error f => simp [accepts, hs, Except.isOk, Except.toBool] at h
  | ok s' => simp [perform, hs, Except.toOption]

theorem send_changes (s : Session) (p : Packet) :
    Changes s ((some p).filter s.accepts).toList [] ((s.send p).toOption.getD s) := by
  cases hs : s.send p with
  | error f =>
    have refused : s.accepts p = false := by simp [accepts, hs, Except.isOk, Except.toBool]
    simpa [Option.filter, refused, Except.toOption] using Changes.refl
  | ok s' =>
    have ⟨live, check, eq⟩ := send_eq_ok hs
    have accepted : s.accepts p = true := by simp [accepts, hs, Except.isOk, Except.toBool]
    simpa [Option.filter, accepted, Except.toOption, eq] using (Change.accept live check).changes

theorem registerPoll_eq_ok {s' : Session} {poll : PollId}
    (h : s.registerPoll = .ok (poll, s')) :
    poll = s.polls ∧ s.isLive ∧ ∃ t t', s.transport = .polling t ∧
      t.register? s.polls = some t' ∧
        s' = { s with transport := .polling t', polls := s.polls + 1 }.flush := by
  simp only [registerPoll] at h
  cases live : s.isLive with
  | false => simp [live] at h
  | true =>
    cases transport : s.transport with
    | websocket t => simp [live, transport] at h
    | polling t =>
      cases free : t.register? s.polls with
      | none => simp [live, transport, free] at h
      | some t' =>
        obtain ⟨eq, eq'⟩ : s.polls = poll ∧
            { s with transport := .polling t', polls := s.polls + 1 }.flush = s' := by
          simpa [live, transport, free] using h
        exact ⟨eq.symm, rfl, t, t', rfl, free, eq'.symm⟩

theorem perform_registerPoll {s' : Session} {poll : PollId}
    (h : s.registerPoll = .ok (poll, s')) : s.perform .registerPoll = s' := by
  simp [perform, h, Except.toOption]

theorem perform_registerPoll_of_error {f : Fault} (h : s.registerPoll = .error f) :
    s.perform .registerPoll = s := by
  simp [perform, h, Except.toOption]

theorem registerPoll_changes (s : Session) : Changes s [] [] (s.perform .registerPoll) := by
  cases h : s.registerPoll with
  | error f =>
    rw [perform_registerPoll_of_error h]
    exact .refl
  | ok registered =>
    have ⟨_, live, t, t', polling, free, eq⟩ := registerPoll_eq_ok h
    rw [perform_registerPoll h, eq]
    exact (Change.register live polling free).changes

theorem close_changes (s : Session) (reason : CloseReason) : Changes s [] [] (s.close reason) := by
  cases hl : s.isLive with
  | false => simpa [close_of_not_live reason hl] using Changes.refl
  | true => exact (Change.close reason hl).changes

theorem abortUpgrade_changes (s : Session) (tid : TransportId) (f : Fault) :
    Changes s [] [] (s.abortUpgrade tid f) := by
  cases hp : s.pending.filter (·.transport.id = tid) with
  | none => simpa [abortUpgrade, hp] using Changes.refl
  | some p =>
    obtain ⟨pending, id⟩ := Option.filter_eq_some_iff.mp hp
    simpa [of_decide_eq_true id] using (Change.abort f pending).changes

theorem probe_changes (s : Session) (tid : TransportId) (p : Packet) :
    Changes s [] [] (s.probe tid p).2 := by
  simp only [probe]
  cases hp : s.pending.filter (·.transport.id = tid) with
  | none => exact .refl
  | some q =>
    have ⟨pending, _⟩ := Option.filter_eq_some_iff.mp hp
    dsimp only
    split
    · split
      · exact (Change.probe pending).changes
      · exact (Change.probe pending).changes.trans Change.release.changes
    · split
      · next h => exact (Change.upgrade pending h.2).changes
      · exact .refl

theorem answerPing_eq (s : Session) (data : Option Payload) :
    s.answerPing data = (s.send (.pong data)).toOption.getD s := by
  simp only [answerPing]
  cases s.send (.pong data) <;> rfl

theorem takeIn_changes (s : Session) (content : Payload) : Changes s [] [] (s.takeIn content) := by
  simp only [takeIn]
  split
  · exact Changes.refl.note ..
  · exact .refl

theorem receive_changes (s : Session) (p : Packet) (now : Nat) :
    Changes s ((Op.receive p now).sending?.filter s.accepts).toList [] (s.receive p now) := by
  have noted : Changes s [] [] (s.meter .received) := Changes.refl.note ..
  simp only [receive, Op.sending?]
  cases p.kind with
  | ping =>
    have heard : Changes s [] [] ((s.meter .received).heartbeat now) := noted.note ..
    have same : ((s.meter .received).heartbeat now).accepts = s.accepts := by
      funext p
      simp only [accepts_eq]
      rfl
    simpa [answerPing_eq, same] using heard.trans (send_changes _ (.pong p.data))
  | pong => exact noted.note ..
  | message => exact noted.trans (takeIn_changes _ _)
  | close => exact noted.trans (close_changes _ _)
  | handshake | upgrade | noop => exact noted

theorem recordDecodeError_changes (s : Session) (e : DecodeError) :
    Changes s [] [] (s.recordDecodeError e) := by
  have counted : Changes s [] [] (s.countDecodeError e) := Changes.refl.note ..
  simp only [recordDecodeError]
  split
  · exact counted.trans (close_changes _ _)
  · exact counted

theorem beginUpgrade_changes (s : Session) (id : TransportId) (revision : Revision)
    (writer : Peer) :
    Changes s [] ((some (id, revision)).filter s.admits).toList
      (s.beginUpgrade { id, revision, writer }).2 := by
  simp only [beginUpgrade]
  cases hc : s.checkUpgrade with
  | error f =>
    have refused : s.admits (id, revision) = false := by
      simp [admits, hc, Except.isOk, Except.toBool]
    simpa [Option.filter, refused] using (Change.refuse { id, revision, writer } f hc).changes
  | ok =>
    have admitted : s.admits (id, revision) = true := by
      simp [admits, hc, Except.isOk, Except.toBool]
    simpa [Option.filter, admitted] using (Change.join id revision writer hc).changes

theorem transportClosed_changes (s : Session) (tid : TransportId) (reason : CloseReason) :
    Changes s [] [] (s.transportClosed tid reason) := by
  simp only [transportClosed]
  split
  · exact close_changes s reason
  · exact abortUpgrade_changes s tid _

theorem perform_changes (s : Session) (op : Op) :
    Changes s (op.sending?.filter s.accepts).toList (op.joining?.filter s.admits).toList
      (s.perform op) := by
  cases op with
  | send p => exact send_changes s p
  | registerPoll => exact registerPoll_changes s
  | expirePoll poll => exact Change.release.changes
  | setPollClient poll client => exact (Change.client poll client).changes
  | receive p now => exact receive_changes s p now
  | heartbeat now => exact (Change.note ..).changes
  | recordDecodeError e => exact recordDecodeError_changes s e
  | countDecodeError e => exact (Change.note ..).changes
  | resetDecodeErrors => exact (Change.note ..).changes
  | report f => exact (Change.note ..).changes
  | beginUpgrade tid revision writer => exact beginUpgrade_changes s tid revision writer
  | probe tid p => exact probe_changes s tid p
  | abortUpgrade tid f => exact abortUpgrade_changes s tid f
  | transportClosed tid reason => exact transportClosed_changes s tid reason
  | setWriter tid writer => exact (Change.writer tid writer).changes
  | close reason => exact close_changes s reason
  | passOn => exact (Change.note ..).changes

theorem run_changes (s : Session) (ops : List Op) :
    Changes s (s.accepted ops) (s.joined ops) (s.run ops) := by
  induction ops generalizing s with
  | nil => exact .refl
  | cons op ops ih => exact (perform_changes s op).trans (ih (s.perform op))

end

end Duplex.Session
