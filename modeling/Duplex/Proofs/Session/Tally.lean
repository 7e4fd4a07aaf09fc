import Duplex.Proofs.Session.Telling

-- What a session counts of its own end: it counts it once, when it closes. Nothing else that it
-- counts is about how many sessions are open.

namespace Duplex

def Meter.isCount : Meter → Bool
  | opened _ | closed => true
  | upgraded | upgradeFailed | undecodable | sent _ | received => false

-- A signal that changes how many sessions are open.
def Signal.isCount : Signal → Bool
  | meter m => m.isCount
  | event _ => false

namespace Session

def tally (s : Session) : List Signal :=
  s.signals.filter Signal.isCount

section

variable (s : Session)

@[simp]
theorem tally_announce (e : Event) : (s.announce e).tally = s.tally := by
  simp [announce, tally, Signal.isCount]

theorem tally_meter (m : Meter) :
    (s.meter m).tally = s.tally ++ if m.isCount then [.meter m] else [] := by
  cases h : m.isCount <;> simp [meter, tally, Signal.isCount, h]

@[simp]
theorem tally_report (f : Fault) : (s.report f).tally = s.tally :=
  s.tally_announce _

theorem tally_countDecodeError (e : DecodeError) : (s.countDecodeError e).tally = s.tally :=
  (tally_report _ _).trans ((s.tally_meter .undecodable).trans (List.append_nil _))

@[simp]
theorem tally_withTransport (d : Dispatch Transport) : (s.withTransport d).tally = s.tally := rfl

@[simp]
theorem tally_enter (state : ReadyState) : (s.enter state).tally = s.tally := by
  simp only [enter]
  split
  · rfl
  · exact tally_announce _ _

@[simp]
theorem tally_flush : s.flush.tally = s.tally := by
  simp only [flush]
  split
  · rfl
  · split
    · rw [tally_meter]
      exact List.append_nil _
    · rfl

@[simp]
theorem tally_dropPending : s.dropPending.tally = s.tally := by
  simp only [dropPending]
  split <;> rfl

theorem tally_shut : s.shut.tally = s.tally := by
  simp only [shut, tally_enter, tally_withTransport, tally_dropPending]
  exact s.tally_enter .closing

theorem tally_close (reason : CloseReason) (live : s.isLive) :
    (s.close reason).tally = s.tally ++ [.meter .closed] := by
  simp only [close, live, Bool.not_true, Bool.false_eq_true, ↓reduceIte, tally_announce, tally_meter]
  exact congrArg (· ++ [Signal.meter .closed]) s.tally_shut

end

namespace Origin

variable (o : Origin)

theorem tally_session : o.session.tally = [] := by
  simp only [session, start, tally_flush, tally_enter]
  rfl

theorem isLive_session : o.session.isLive :=
  isLive_of_established ((state_flush _).trans (state_enter _ _))

end Origin

-- What a step counts: that the session closes, if it does.
inductive Counts (s s' : Session) : Prop
  | stays (tally : s'.tally = s.tally) (live : s'.isLive = s.isLive)
  | closes (live : s.isLive) (dead : s'.isLive = false)
    (tally : s'.tally = s.tally ++ [.meter .closed])

namespace Counts

variable {s s' : Session}

theorem refl (s : Session) : Counts s s :=
  .stays rfl rfl

theorem close (tally : s'.tally = s.tally) (live : s'.isLive = s.isLive) (reason : CloseReason) :
    Counts s (s'.close reason) := by
  cases lives : s'.isLive with
  | false =>
    rw [close_of_not_live reason lives]
    exact .stays tally live
  | true =>
    exact .closes (live.symm.trans lives) (isLive_close s' reason)
      ((s'.tally_close reason lives).trans (by rw [tally]))

theorem send (tally : s'.tally = s.tally) (live : s'.isLive = s.isLive) (p : Packet) :
    Counts s ((s'.send p).toOption.getD s') := by
  cases sent : s'.send p with
  | error f => exact .stays tally live
  | ok s'' =>
    obtain ⟨_, _, eq⟩ := send_eq_ok sent
    rw [eq]
    exact .stays ((tally_flush _).trans tally)
      ((congrArg ReadyState.isLive (state_flush _)).trans live)

theorem registerPoll (s : Session) : Counts s (s.perform .registerPoll) := by
  cases registered : s.registerPoll with
  | error f =>
    rw [perform_registerPoll_of_error registered]
    exact refl s
  | ok done =>
    obtain ⟨_, _, _, _, _, _, eq⟩ := registerPoll_eq_ok registered
    rw [perform_registerPoll registered, eq]
    exact .stays (tally_flush _) (congrArg ReadyState.isLive (state_flush _))

theorem receive (s : Session) (p : Packet) (now : Nat) : Counts s (s.receive p now) := by
  have counted : (s.meter .received).tally = s.tally :=
    (s.tally_meter .received).trans (List.append_nil _)
  simp only [Session.receive]
  cases p.kind with
  | ping =>
    rw [answerPing_eq]
    have heard : ((s.meter .received).heartbeat now).tally = s.tally := counted
    exact send heard rfl _
  | pong | handshake | upgrade | noop => exact .stays counted rfl
  | message =>
    simp only [takeIn]
    split
    · exact .stays ((tally_announce _ _).trans counted) rfl
    · exact .stays counted rfl
  | close => exact close counted rfl _

theorem recordDecodeError (s : Session) (e : DecodeError) : Counts s (s.recordDecodeError e) := by
  simp only [Session.recordDecodeError]
  split
  · exact close (s.tally_countDecodeError e) rfl _
  · exact .stays (s.tally_countDecodeError e) rfl

theorem beginUpgrade (s : Session) (t : Websocket) : Counts s (s.beginUpgrade t).2 := by
  simp only [Session.beginUpgrade]
  cases check : s.checkUpgrade with
  | error f => exact .stays rfl rfl
  | ok =>
    obtain ⟨_, established, _⟩ := Valid.checkUpgrade_eq_ok_iff.mp check
    refine .stays (tally_enter _ _) ?_
    rw [isLive_of_established established]
    exact isLive_of_upgrading (state_enter _ _)

theorem abortUpgrade (s : Session) (tid : TransportId) (f : Fault) :
    Counts s (s.abortUpgrade tid f) := by
  have tally : s.stay.tally = s.tally := by
    simp only [stay]
    split <;> simp
  have live : s.stay.isLive = s.isLive := by
    simp only [stay, isLive]
    split
    · next upgrading => rw [state_enter, upgrading]; rfl
    · rw [state_dropPending]
  simp only [Session.abortUpgrade]
  split
  · exact refl s
  · refine .stays ?_ ((congrArg ReadyState.isLive (state_flush _)).trans live)
    rw [tally_announce, tally_meter, tally_flush, tally]
    exact List.append_nil _

theorem completeUpgrade {p : Pending} (v : s.Valid) (pending : s.pending = some p) :
    Counts s (s.completeUpgrade p.transport) := by
  refine .stays ?_ ?_
  · rw [Session.completeUpgrade, tally_announce, tally_meter, tally_flush, swap, tally_enter]
    exact List.append_nil _
  · have state : (s.completeUpgrade p.transport).state = .established :=
      (state_flush _).trans (s.state_swap _)
    rw [v.isLive_of_pending pending]
    exact isLive_of_established state

theorem probe (v : s.Valid) (tid : TransportId) (p : Packet) : Counts s (s.probe tid p).2 := by
  simp only [Session.probe]
  cases found : s.pending.filter (·.transport.id = tid) with
  | none => exact refl s
  | some pending =>
    have waits := (Option.filter_eq_some_iff.mp found).1
    dsimp only
    split
    · split <;> exact .stays rfl rfl
    · split
      · exact completeUpgrade v waits
      · exact refl s

theorem transportClosed (s : Session) (tid : TransportId) (reason : CloseReason) :
    Counts s (s.transportClosed tid reason) := by
  simp only [Session.transportClosed]
  split
  · exact close rfl rfl reason
  · exact abortUpgrade s tid _

end Counts

-- What was counted before is kept, until it is passed on.
theorem perform_counts {s : Session} (v : s.Valid) (op : Op) (tells : op ≠ .passOn) :
    Counts s (s.perform op) := by
  cases op with
  | send p => exact .send rfl rfl p
  | registerPoll => exact .registerPoll s
  | expirePoll | setPollClient | heartbeat | resetDecodeErrors | setWriter => exact .stays rfl rfl
  | receive p now => exact .receive s p now
  | recordDecodeError e => exact .recordDecodeError s e
  | countDecodeError e => exact .stays (s.tally_countDecodeError e) rfl
  | report f => exact .stays (s.tally_report f) rfl
  | beginUpgrade id revision writer => exact .beginUpgrade s _
  | probe tid p => exact .probe v tid p
  | abortUpgrade tid f => exact .abortUpgrade s tid f
  | transportClosed tid reason => exact .transportClosed s tid reason
  | close reason => exact .close rfl rfl reason
  | passOn => exact absurd rfl tells

end Session

end Duplex
