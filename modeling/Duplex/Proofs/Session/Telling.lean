import Duplex.Proofs.Session.Valid

-- What a session tells of itself. Every operation tells of at most one turn in the life of a
-- session, and besides only of messages and errors.

namespace Duplex

def Signal.event? : Signal → Option Event
  | event e => some e
  | meter _ => none

-- An event that is not about the traffic but about the life of a session.
def Event.isTurn (e : Event) : Bool :=
  e.kind ≠ .message ∧ e.kind ≠ .error

namespace Session

-- The events that a session still has to tell.
def events (s : Session) : List Event :=
  s.signals.filterMap Signal.event?

section

variable (s : Session)

@[simp]
theorem events_announce (e : Event) : (s.announce e).events = s.events ++ [e] := by
  simp [announce, events, Signal.event?]

@[simp]
theorem events_meter (m : Meter) : (s.meter m).events = s.events := by
  simp [meter, events, Signal.event?]

@[simp]
theorem events_report (f : Fault) : (s.report f).events = s.events ++ [.error f] :=
  s.events_announce _

@[simp]
theorem events_withTransport (d : Dispatch Transport) : (s.withTransport d).events = s.events := rfl

@[simp]
theorem events_releasePoll : s.releasePoll.events = s.events := rfl

theorem events_enter {old new : ReadyState} (state : s.state = old) (changes : old ≠ new) :
    (s.enter new).events = s.events ++ [.stateChange old new] := by
  simp only [enter, state, changes, ↓reduceIte, events_announce]
  rfl

@[simp]
theorem events_flush : s.flush.events = s.events := by
  simp only [flush]
  split
  · rfl
  · split
    · simp only [events_meter, events_withTransport]
      rfl
    · rfl

@[simp]
theorem events_dropPending : s.dropPending.events = s.events := by
  simp only [dropPending]
  split <;> rfl

theorem events_shut (live : s.isLive) :
    s.shut.events =
      s.events ++ [.stateChange s.state .closing, .stateChange .closing .closed] := by
  have new : s.state ≠ .closing := fun closing => by simp [isLive, closing, ReadyState.isLive] at live
  let emptied : Session := { s.enter .closing with buffer := [] }.dropPending
  let ended : Session := emptied.withTransport emptied.transport.close
  have state : ended.state = .closing := (state_dropPending _).trans (s.state_enter .closing)
  calc s.shut.events
    _ = (ended.enter .closed).events := rfl
    _ = ended.events ++ [.stateChange .closing .closed] := events_enter _ state (by decide)
    _ = (s.enter .closing).events ++ [.stateChange .closing .closed] :=
      congrArg (· ++ _) (events_dropPending _)
    _ = s.events ++ [.stateChange s.state .closing, .stateChange .closing .closed] := by
      rw [s.events_enter rfl new, List.append_assoc]
      rfl

theorem events_close (reason : CloseReason) (live : s.isLive) :
    (s.close reason).events =
      s.events ++
        [.stateChange s.state .closing, .stateChange .closing .closed, .close reason] := by
  simp only [close, live, Bool.not_true, Bool.false_eq_true, ↓reduceIte, events_announce,
    events_meter]
  exact (congrArg (· ++ [Event.close reason]) (s.events_shut live)).trans (List.append_assoc ..)

theorem events_swap (t : Websocket) (upgrading : s.state = .upgrading) :
    (s.swap t).events = s.events ++ [.stateChange .upgrading .established] :=
  events_enter _ upgrading (by decide)

theorem events_completeUpgrade (t : Websocket) (upgrading : s.state = .upgrading) :
    (s.completeUpgrade t).events =
      s.events ++ [.stateChange .upgrading .established, .upgrade .websocket] := by
  simp [completeUpgrade, s.events_swap t upgrading]

theorem events_stay (upgrading : s.state = .upgrading) :
    s.stay.events = s.events ++ [.stateChange .upgrading .established] := by
  simp only [stay, upgrading, ↓reduceIte]
  rw [events_enter _ (s.state_dropPending.trans upgrading) (by decide), events_dropPending]

theorem events_abortUpgrade {p : Pending} (f : Fault) (pending : s.pending = some p)
    (upgrading : s.state = .upgrading) :
    (s.abortUpgrade p.transport.id f).events =
      s.events ++ [.stateChange .upgrading .established, .upgradeFailed f] := by
  simp [abortUpgrade, pending, Option.filter, s.events_stay upgrading]

end

namespace Op

-- Why an operation closes a session that lives, if it does.
def closing? (s : Session) : Op → Option CloseReason
  | close reason => some reason
  | receive p _ => if p.kind = .close then some .transportClose else none
  | recordDecodeError _ =>
    if s.config.maxDecodeErrors < s.decodeErrors + 1 then some .parseError else none
  | transportClosed tid reason => if s.transport.id = tid then some reason else none
  | _ => none

end Op

-- An operation that tells of nothing but traffic, and leaves a session in its state.
structure Says (s : Session) (es : List Event) (s' : Session) : Prop where
  events : s'.events = s.events ++ es
  state : s'.state = s.state

-- What an operation can tell.
inductive Turn (s : Session) (op : Op) (s' : Session) : Prop
  | idle {es : List Event} (said : Says s es s')
    (plain : ∀ e ∈ es, e.kind = .error ∨ e.kind = .message ∧ s.isLive)
    (stays : s.isLive → op.closing? s = none) (lets : op.joining?.filter s.admits = none)
  | begins {w : TransportId × Revision} (lets : op.joining?.filter s.admits = some w)
    (before : s.state = .established) (polling : s.transport.kind = .polling)
    (after : s'.state = .upgrading)
    (events : s'.events = s.events ++ [.stateChange .established .upgrading])
    (stays : op.closing? s = none)
  | fails (f : Fault) (before : s.state = .upgrading) (after : s'.state = .established)
    (events : s'.events = s.events ++ [.stateChange .upgrading .established, .upgradeFailed f])
    (stays : op.closing? s = none) (lets : op.joining?.filter s.admits = none)
  | upgrades (before : s.state = .upgrading) (after : s'.state = .established)
    (websocket : s'.transport.kind = .websocket)
    (events : s'.events = s.events ++ [.stateChange .upgrading .established, .upgrade .websocket])
    (stays : op.closing? s = none) (lets : op.joining?.filter s.admits = none)
  | closes {reason : CloseReason} (asks : op.closing? s = some reason) (live : s.isLive)
    (es : List Event) (plain : ∀ e ∈ es, e.kind = .error) (after : s'.state = .closed)
    (events : s'.events =
      s.events ++ es ++
        [.stateChange s.state .closing, .stateChange .closing .closed, .close reason])
    (lets : op.joining?.filter s.admits = none)

variable {s : Session}

namespace Says

theorem refl (s : Session) : Says s [] s :=
  ⟨(List.append_nil _).symm, rfl⟩

theorem silent {s' : Session} (signals : s'.signals = s.signals) (state : s'.state = s.state) :
    Says s [] s' :=
  ⟨by simp [Session.events, signals], state⟩

theorem flush {s' : Session} {es : List Event} (said : Says s es s') : Says s es s'.flush :=
  ⟨s'.events_flush.trans said.events, s'.state_flush.trans said.state⟩

theorem trans {s₁ s₂ s₃ : Session} {es es' : List Event} (h : Says s₁ es s₂) (h' : Says s₂ es' s₃) :
    Says s₁ (es ++ es') s₃ :=
  ⟨by rw [h'.events, h.events, List.append_assoc], h'.state.trans h.state⟩

theorem meter (s : Session) (m : Meter) : Says s [] (s.meter m) :=
  ⟨by simp, rfl⟩

theorem send (s : Session) (p : Packet) : Says s [] ((s.send p).toOption.getD s) := by
  cases sent : s.send p with
  | error f => exact refl s
  | ok s' =>
    have ⟨_, _, eq⟩ := send_eq_ok sent
    exact eq ▸ flush (silent rfl rfl)

theorem registerPoll (s : Session) : Says s [] (s.perform .registerPoll) := by
  simp only [perform, Session.registerPoll]
  split
  · exact refl s
  · split
    · exact refl s
    · split
      · exact refl s
      · exact flush (silent rfl rfl)

theorem takeIn (s : Session) (content : Payload) :
    Says s (if s.listening then [.message content] else []) (s.takeIn content) := by
  simp only [Session.takeIn]
  split
  · exact ⟨by rw [events_announce]; rfl, rfl⟩
  · exact refl s

theorem countDecodeError (s : Session) (e : DecodeError) :
    Says s [.error (.decode e)] (s.countDecodeError e) :=
  ⟨by
    simp only [Session.countDecodeError, events_report]
    exact congrArg (· ++ _) (s.events_meter _), rfl⟩

end Says

namespace Turn

variable {op : Op}

-- An operation that tells of nothing.
theorem silent {s' : Session} (said : Says s [] s') (stays : op.closing? s = none)
    (lets : op.joining?.filter s.admits = none) : Turn s op s' :=
  .idle said (by simp) (fun _ => stays) lets

theorem close {s' : Session} {es : List Event} {reason : CloseReason} (said : Says s es s')
    (plain : ∀ e ∈ es, e.kind = .error) (asks : op.closing? s = some reason)
    (lets : op.joining?.filter s.admits = none) : Turn s op (s'.close reason) := by
  have same : s'.isLive = s.isLive := congrArg ReadyState.isLive said.state
  cases live : s.isLive with
  | false =>
    rw [close_of_not_live reason (same.trans live)]
    exact .idle said (fun e mem => .inl (plain e mem)) (fun h => absurd (live ▸ h) nofun) lets
  | true =>
    have live' : s'.isLive := same.trans live
    refine .closes asks live es plain (state_close reason live') ?_ lets
    rw [events_close s' reason live', said.events, said.state]

theorem abortUpgrade (v : s.Valid) (tid : TransportId) (f : Fault) (stays : op.closing? s = none)
    (lets : op.joining?.filter s.admits = none) : Turn s op (s.abortUpgrade tid f) := by
  cases found : s.pending.filter (·.transport.id = tid) with
  | none =>
    rw [abortUpgrade_of_filter_none s f found]
    exact silent (Says.refl s) stays lets
  | some p =>
    have ⟨pending, id⟩ := Option.filter_eq_some_iff.mp found
    have upgrading := v.upgrading_of_pending pending
    rw [← of_decide_eq_true id]
    refine .fails f upgrading ?_ (events_abortUpgrade s f pending upgrading) stays lets
    have ⟨_, eq⟩ := abortUpgrade_of_pending s f pending
    rw [eq]
    exact (state_flush _).trans (state_stay _ upgrading)

theorem receive (v : s.Valid) (p : Packet) (now : Nat) :
    Turn s (.receive p now) (s.receive p now) := by
  have counted := Says.meter s .received
  simp only [Session.receive]
  cases kind : p.kind with
  | ping =>
    have heard : Says s [] ((s.meter .received).heartbeat now) := ⟨counted.events, rfl⟩
    rw [answerPing_eq]
    exact silent (heard.trans (Says.send _ _)) (by simp [Op.closing?, kind]) rfl
  | pong => exact silent ⟨counted.events, rfl⟩ (by simp [Op.closing?, kind]) rfl
  | message =>
    refine .idle (counted.trans (Says.takeIn _ p.content)) (fun e mem => .inr ?_)
      (fun _ => by simp [Op.closing?, kind]) rfl
    have listening : s.listening := Decidable.byContradiction fun deaf => by
      simp [meter, deaf] at mem
    have heard : e = .message p.content := by simpa [meter, listening] using mem
    exact ⟨heard ▸ rfl, v.isLive_of_listening listening⟩
  | close => exact close counted (by simp) (by simp [Op.closing?, kind]) rfl
  | handshake | upgrade | noop => exact silent counted (by simp [Op.closing?, kind]) rfl

theorem recordDecodeError (s : Session) (e : DecodeError) :
    Turn s (.recordDecodeError e) (s.recordDecodeError e) := by
  have counted := Says.countDecodeError s e
  have plain : ∀ e' ∈ [Event.error (.decode e)], e'.kind = .error := by simp [Event.kind]
  simp only [Session.recordDecodeError]
  split
  · next exhausted => exact close counted plain (if_pos exhausted) rfl
  · next left =>
    exact .idle counted (fun e mem => .inl (plain e mem)) (fun _ => if_neg left) rfl

theorem beginUpgrade (s : Session) (id : TransportId) (revision : Revision) (writer : Peer) :
    Turn s (.beginUpgrade id revision writer) (s.beginUpgrade { id, revision, writer }).2 := by
  simp only [Session.beginUpgrade]
  cases check : s.checkUpgrade with
  | error f =>
    have refused : s.admits (id, revision) = false := by
      simp [admits, check, Except.isOk, Except.toBool]
    exact silent (Says.silent rfl rfl) rfl (by simp [Op.joining?, Option.filter, refused])
  | ok =>
    have admitted : s.admits (id, revision) = true := by
      simp [admits, check, Except.isOk, Except.toBool]
    obtain ⟨_, established, polling⟩ := Valid.checkUpgrade_eq_ok_iff.mp check
    exact .begins (w := (id, revision)) (by simp [Op.joining?, Option.filter, admitted]) established
      polling (state_enter _ _) (events_enter _ established (by decide)) rfl

theorem probe (v : s.Valid) (tid : TransportId) (p : Packet) :
    Turn s (.probe tid p) (s.probe tid p).2 := by
  simp only [Session.probe]
  cases found : s.pending.filter (·.transport.id = tid) with
  | none => exact silent (Says.refl s) rfl rfl
  | some pending =>
    have waits := (Option.filter_eq_some_iff.mp found).1
    have answered : Says s [] (s.answerProbe pending) := Says.silent rfl rfl
    dsimp only
    split
    · split
      · exact silent answered rfl rfl
      · exact silent ⟨answered.events, rfl⟩ rfl rfl
    · split
      · have upgrading := v.upgrading_of_pending waits
        obtain ⟨_, eq⟩ := s.completeUpgrade_eq pending.transport
        refine .upgrades upgrading ?_ ?_ (events_completeUpgrade s _ upgrading) rfl rfl
        · rw [eq]
          exact (state_flush _).trans (s.state_swap _)
        · rw [← Transport.kind_channel, channel_completeUpgrade]
          rfl
      · exact silent (Says.refl s) rfl rfl

theorem transportClosed (v : s.Valid) (tid : TransportId) (reason : CloseReason) :
    Turn s (.transportClosed tid reason) (s.transportClosed tid reason) := by
  simp only [Session.transportClosed]
  split
  · next active => exact close (Says.refl s) (by simp) (if_pos active) rfl
  · next other => exact abortUpgrade v tid _ (if_neg other) rfl

end Turn

-- What is passed on was told before.
theorem perform_turn (v : s.Valid) (op : Op) (tells : op ≠ .passOn) : Turn s op (s.perform op) := by
  cases op with
  | send p => exact .silent (Says.send s p) rfl rfl
  | registerPoll => exact .silent (Says.registerPoll s) rfl rfl
  | expirePoll | setPollClient | heartbeat | resetDecodeErrors | setWriter =>
    exact .silent (Says.silent rfl rfl) rfl rfl
  | receive p now => exact .receive v p now
  | recordDecodeError e => exact .recordDecodeError s e
  | countDecodeError e =>
    exact .idle (Says.countDecodeError s e) (by simp [Event.kind]) (fun _ => rfl) rfl
  | report f => exact .idle ⟨s.events_report f, rfl⟩ (by simp [Event.kind]) (fun _ => rfl) rfl
  | beginUpgrade id revision writer => exact .beginUpgrade s id revision writer
  | probe tid p => exact .probe v tid p
  | abortUpgrade tid f => exact .abortUpgrade v tid f rfl rfl
  | transportClosed tid reason => exact .transportClosed v tid reason
  | close reason => exact .close (Says.refl s) (by simp) rfl rfl
  | passOn => exact absurd rfl tells

end Session

end Duplex
