import Duplex.Session.Polls
import Duplex.Session.Closing

-- The move from polling to a websocket. The websocket joins as pending, its probe ping is answered,
-- and its upgrade packet makes it the active transport. Until then polling goes on.

namespace Duplex

namespace Fault

def upgradeInProgress : Fault := .transportMismatch "upgrade already in progress"

def alreadyWebsocket : Fault := .transportMismatch "session already uses websocket"

def noPendingUpgrade : Fault := .transportMismatch "no pending upgrade for this transport"

def upgradeTransportClosed : Fault := .transportMismatch "upgrade transport closed"

def unexpectedInUpgrade (kind : Packet.Kind) : Fault :=
  .transportMismatch ("unexpected " ++ kind.name ++ " packet during upgrade")

end Fault

namespace Session

-- Whether an upgrade may begin now.
def checkUpgrade (s : Session) : Except Fault Unit :=
  if !s.config.mayUpgrade then .error (.unknownTransport TransportKind.websocket.name)
  else
    match s.state with
    | .established =>
      if s.transport.kind = .polling then .ok () else .error .alreadyWebsocket
    | .upgrading => .error .upgradeInProgress
    | .opening | .closing | .closed => .error .sessionClosed

-- A websocket that may not join is told to hang up.
def beginUpgrade (s : Session) (t : Websocket) : Except Fault Unit × Session :=
  match s.checkUpgrade with
  | .error f => (.error f, s.handOver t.close.delivered)
  | .ok () => (.ok (), { s with pending := some { transport := t } }.enter .upgrading)

-- How far an upgrade has come.
inductive Probe where
  | probed | upgraded
  deriving DecidableEq, Repr

-- The websocket takes the place of polling. A poll that still waits is released first.
def swap (s : Session) (t : Websocket) : Session :=
  let s := { s with pending := none }.releasePoll
  let s := s.handOver s.transport.close.delivered
  { s with transport := .websocket t }.enter .established

def completeUpgrade (s : Session) (t : Websocket) : Session :=
  ((s.swap t).flush.meter .upgraded).announce (.upgrade .websocket)

-- A websocket is told that its probe ping has come.
def Pending.answer (p : Pending) : Dispatch Websocket :=
  p.transport.send [.probeAnswer]

def answerProbe (s : Session) (p : Pending) : Session :=
  { s with pending := some { transport := p.answer.transport, probed := true } }.handOver
    p.answer.delivered

-- A packet that came on a websocket that wants to take over. After the probe the client pauses
-- polling, so a waiting poll is released.
def probe (s : Session) (tid : TransportId) (p : Packet) : Except Fault Probe × Session :=
  match s.pending.filter (·.transport.id = tid) with
  | none => (.error .noPendingUpgrade, s)
  | some pending =>
    if p.kind = .ping ∧ p.isProbe then
      match pending.answer.refused with
      | some _ => (.error .upgradeTransportClosed, s.answerProbe pending)
      | none => (.ok .probed, (s.answerProbe pending).releasePoll)
    else if p.kind = .upgrade ∧ pending.probed then
      (.ok .upgraded, s.completeUpgrade pending.transport)
    else (.error (.unexpectedInUpgrade p.kind), s)

-- The session goes on with polling.
def stay (s : Session) : Session :=
  if s.state = .upgrading then s.dropPending.enter .established else s.dropPending

-- The upgrade is given up.
def abortUpgrade (s : Session) (tid : TransportId) (f : Fault) : Session :=
  match s.pending.filter (·.transport.id = tid) with
  | none => s
  | some _ => (s.stay.flush.meter .upgradeFailed).announce (.upgradeFailed f)

-- A websocket ended: the active one takes the session with it.
def transportClosed (s : Session) (tid : TransportId) (reason : CloseReason) : Session :=
  if s.transport.id = tid then s.close reason
  else s.abortUpgrade tid .upgradeTransportClosed

-- The writer of a websocket went away, or will after some more deliveries.
def setWriter (s : Session) (tid : TransportId) (writer : Peer) : Session :=
  { s with
    transport := s.transport.setWriter tid writer
    pending := s.pending.map fun p => { p with transport := p.transport.setWriter tid writer } }

-- After a swap the session is established, and nothing waits to join it.

section

variable (s : Session) (t : Websocket)

@[simp]
theorem identity_swap : (s.swap t).identity = s.identity := by
  simp [swap]
  rfl

@[simp]
theorem state_swap : (s.swap t).state = .established := by
  simp [swap]

@[simp]
theorem transport_swap : (s.swap t).transport = .websocket t := by
  simp [swap]

@[simp]
theorem pending_swap : (s.swap t).pending = none := by
  simp [swap, handOver]

@[simp]
theorem buffer_swap : (s.swap t).buffer = s.buffer := by
  simp [swap, handOver]

@[simp]
theorem dispatched_swap :
    (s.swap t).dispatched =
      s.dispatched ++
        (s.transport.release.delivered ++ s.transport.release.transport.close.delivered) := by
  simp [swap, handOver]

@[simp]
theorem listening_swap : (s.swap t).listening = s.listening := by
  simp [swap, handOver]

end

section

variable (s : Session)

@[simp]
theorem identity_stay : s.stay.identity = s.identity := by
  by_cases h : s.state = .upgrading <;> simp [stay, h]

@[simp]
theorem transport_stay : s.stay.transport = s.transport := by
  simp only [stay]
  split <;> simp

@[simp]
theorem pending_stay : s.stay.pending = none := by
  simp only [stay]
  split <;> simp

@[simp]
theorem buffer_stay : s.stay.buffer = s.buffer := by
  simp only [stay]
  split <;> simp

theorem dispatched_stay {p : Pending} (h : s.pending = some p) :
    s.stay.dispatched = s.dispatched ++ p.transport.close.delivered := by
  simp only [stay]
  split <;> simp [dispatched_dropPending, h]

@[simp]
theorem listening_stay : s.stay.listening = s.listening := by
  simp only [stay]
  split <;> simp

theorem state_stay (h : s.state = .upgrading) : s.stay.state = .established := by
  simp [stay, h]

-- What else is said of an upgrade changes nothing but the signals.

theorem completeUpgrade_eq (t : Websocket) :
    ∃ signals, s.completeUpgrade t = { (s.swap t).flush with signals } :=
  ⟨_, rfl⟩

theorem abortUpgrade_of_filter_none {tid : TransportId} (f : Fault)
    (h : s.pending.filter (·.transport.id = tid) = none) : s.abortUpgrade tid f = s := by
  simp only [abortUpgrade, h]

theorem abortUpgrade_of_pending {p : Pending} (f : Fault) (h : s.pending = some p) :
    ∃ signals, s.abortUpgrade p.transport.id f = { s.stay.flush with signals } := by
  simp only [abortUpgrade, h, Option.filter, decide_true, ↓reduceIte]
  exact ⟨_, rfl⟩

end

end Session

end Duplex
