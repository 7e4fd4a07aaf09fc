import Duplex.Configuration
import Duplex.Event
import Duplex.Metrics
import Duplex.Transport.Active

-- A session: one logical connection with a client, whatever carries it. Every operation is one
-- indivisible step. It leaves what it hands over in `dispatched` and what others should learn of it
-- in `signals`, both in order.

namespace Duplex

-- What a session has to say.
inductive Signal where
  | event (e : Event)
  | meter (m : Meter)
  deriving DecidableEq, Repr

-- A websocket that asks to take over from polling. It is probed once its probe ping was answered.
structure Session.Pending where
  transport : Websocket
  probed : Bool := false
  deriving DecidableEq, Repr

structure Session where
  id : SessionId
  revision : Revision
  config : Configuration
  transport : Transport
  -- When the client last showed that it is alive.
  lastHeartbeat : Nat
  state : ReadyState := .opening
  pending : Option Session.Pending := none
  -- Packets that wait for a transport that can take them.
  buffer : List Packet := []
  -- All messages for the application, in the order of their arrival.
  inbox : List Payload := []
  -- Whether the inbox takes more.
  listening : Bool := true
  decodeErrors : UInt32 := 0
  -- Whoever works for the session has to stop.
  cancelled : Bool := false
  -- How many polls were ever registered.
  polls : Nat := 0
  dispatched : List Delivery := []
  signals : List Signal := []
  deriving DecidableEq, Repr

namespace Session

def isLive (s : Session) : Bool :=
  s.state.isLive

def isUpgrading (s : Session) : Bool :=
  s.pending.isSome

def announce (s : Session) (e : Event) : Session :=
  { s with signals := s.signals ++ [.event e] }

def meter (s : Session) (m : Meter) : Session :=
  { s with signals := s.signals ++ [.meter m] }

-- A session that already is in the state has nothing to announce.
def enter (s : Session) (state : ReadyState) : Session :=
  if s.state = state then s
  else { s with state }.announce (.stateChange s.state state)

def handOver (s : Session) (delivered : List Delivery) : Session :=
  { s with dispatched := s.dispatched ++ delivered }

-- The transport after it was told something, with what it handed over.
def withTransport (s : Session) (d : Dispatch Transport) : Session :=
  { s with transport := d.transport }.handOver d.delivered

-- Packets leave as soon as the transport can take them. What it gives back waits again, in front.
def flush (s : Session) : Session :=
  if s.buffer = [] ∨ !s.transport.writable then s
  else
    let sent := s.transport.send s.buffer
    match sent.refused with
    | none =>
      ({ s with buffer := [] }.withTransport sent).meter (.sent s.buffer.length)
    | some rest => { s with buffer := rest }.withTransport sent

-- The handshake goes out before everything else.
def start (s : Session) (handshake : Packet) (now : Nat) : Session :=
  ({ s with buffer := handshake :: s.buffer, lastHeartbeat := now }.enter .established).flush

-- A packet is accepted if the transport that is active now can carry it.
def send (s : Session) (p : Packet) : Except Fault Session :=
  if !s.isLive then .error .sessionClosed
  else
    match Transport.check s.transport.kind p s.revision with
    | .error e => .error (.encode e)
    | .ok () => .ok { s with buffer := s.buffer ++ [p] }.flush

-- Something went wrong that changes nothing.
def report (s : Session) (f : Fault) : Session :=
  s.announce (.error f)

@[simp]
theorem enter_self (s : Session) : s.enter s.state = s := by
  simp [enter]

@[simp]
theorem state_enter (s : Session) (state : ReadyState) : (s.enter state).state = state := by
  simp only [enter]
  split
  · assumption
  · rfl

-- What a session is told at its opening and keeps.
def identity (s : Session) : SessionId × Revision × Configuration :=
  (s.id, s.revision, s.config)

@[simp]
theorem identity_withTransport (s : Session) (d : Dispatch Transport) :
    (s.withTransport d).identity = s.identity := rfl

-- Entering a state touches nothing else.

section

variable (s : Session) (state : ReadyState)

@[simp]
theorem identity_enter : (s.enter state).identity = s.identity := by
  simp only [enter]
  split <;> rfl

@[simp]
theorem transport_enter : (s.enter state).transport = s.transport := by
  simp only [enter]
  split <;> rfl

@[simp]
theorem pending_enter : (s.enter state).pending = s.pending := by
  simp only [enter]
  split <;> rfl

@[simp]
theorem buffer_enter : (s.enter state).buffer = s.buffer := by
  simp only [enter]
  split <;> rfl

@[simp]
theorem dispatched_enter : (s.enter state).dispatched = s.dispatched := by
  simp only [enter]
  split <;> rfl

@[simp]
theorem listening_enter : (s.enter state).listening = s.listening := by
  simp only [enter]
  split <;> rfl

@[simp]
theorem cancelled_enter : (s.enter state).cancelled = s.cancelled := by
  simp only [enter]
  split <;> rfl

end

-- A flush only moves packets.

theorem flush_of_buffer_nil {s : Session} (h : s.buffer = []) : s.flush = s := by
  simp [flush, h]

theorem flush_of_not_writable {s : Session} (h : s.transport.writable = false) : s.flush = s := by
  simp [flush, h]

theorem flush_of_writable {s : Session} (ne : s.buffer ≠ []) (h : s.transport.writable) :
    ∃ signals, s.flush =
      { s with
        transport := (s.transport.send s.buffer).transport
        buffer := (s.transport.send s.buffer).refused.getD []
        dispatched := s.dispatched ++ (s.transport.send s.buffer).delivered
        signals } := by
  simp only [flush]
  simp only [ne, h, Bool.not_true, Bool.false_eq_true, or_self, ↓reduceIte]
  split
  · next hr => exact ⟨_, by simp only [hr]; rfl⟩
  · next rest hr => exact ⟨s.signals, by simp only [hr]; rfl⟩

-- What became of a session that was flushed.
theorem flush_eq (s : Session) :
    ∃ transport buffer dispatched signals,
      s.flush = { s with transport, buffer, dispatched, signals } := by
  by_cases ne : s.buffer = []
  · exact ⟨_, _, _, _, flush_of_buffer_nil ne⟩
  · cases h : s.transport.writable
    · exact ⟨_, _, _, _, flush_of_not_writable h⟩
    · have ⟨_, eq⟩ := flush_of_writable ne h
      exact ⟨_, _, _, _, eq⟩

section

variable (s : Session)

@[simp]
theorem identity_flush : s.flush.identity = s.identity := by
  have ⟨_, _, _, _, eq⟩ := s.flush_eq
  rw [eq]
  rfl

@[simp]
theorem state_flush : s.flush.state = s.state := by
  have ⟨_, _, _, _, eq⟩ := s.flush_eq
  rw [eq]

@[simp]
theorem pending_flush : s.flush.pending = s.pending := by
  have ⟨_, _, _, _, eq⟩ := s.flush_eq
  rw [eq]

@[simp]
theorem listening_flush : s.flush.listening = s.listening := by
  have ⟨_, _, _, _, eq⟩ := s.flush_eq
  rw [eq]

@[simp]
theorem cancelled_flush : s.flush.cancelled = s.cancelled := by
  have ⟨_, _, _, _, eq⟩ := s.flush_eq
  rw [eq]

end

end Session

end Duplex
