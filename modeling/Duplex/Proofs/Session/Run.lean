import Duplex.Handshake
import Duplex.Session.Upload
import Duplex.Session.Upgrade

-- Runs of a session: it opens on a first transport, and then its operations follow in any order.

namespace Duplex.Session

-- What a session opens with. A session that has no writer yet opens on polling.
structure Origin where
  sid : SessionId
  revision : Revision
  config : Configuration
  tid : TransportId
  writer? : Option Peer
  handshake : Handshake
  now : Nat

-- An operation, with all that its caller gives it. Any of them may come at any moment, and be
-- refused. A client or a writer has something to say of itself at any moment too, and whatever a
-- session has to say is passed on at some moment.
inductive Op where
  | send (p : Packet)
  | registerPoll
  | expirePoll (poll : PollId)
  | setPollClient (poll : PollId) (client : Peer)
  | receive (p : Packet) (now : Nat)
  | heartbeat (now : Nat)
  | recordDecodeError (e : DecodeError)
  | countDecodeError (e : DecodeError)
  | resetDecodeErrors
  | report (f : Fault)
  | beginUpgrade (tid : TransportId) (revision : Revision) (writer : Peer)
  | probe (tid : TransportId) (p : Packet)
  | abortUpgrade (tid : TransportId) (f : Fault)
  | transportClosed (tid : TransportId) (reason : CloseReason)
  | setWriter (tid : TransportId) (writer : Peer)
  | close (reason : CloseReason)
  | passOn

namespace Origin

def transport (o : Origin) : Transport :=
  match o.writer? with
  | none => .polling { id := o.tid }
  | some writer => .websocket { id := o.tid, revision := o.revision, writer }

-- The session before its handshake is queued.
def created (o : Origin) : Session where
  id := o.sid
  revision := o.revision
  config := o.config
  transport := o.transport
  lastHeartbeat := o.now

def session (o : Origin) : Session :=
  o.created.start o.handshake.packet o.now

def identity (o : Origin) : SessionId × Revision × Configuration :=
  (o.sid, o.revision, o.config)

-- Polling in revision 4, with nothing set.
def plain : Origin where
  sid := "a"
  revision := .v4
  config := {}
  tid := 0
  writer? := none
  handshake :=
    { sid := "a", upgrades := ["websocket"], pingInterval := 25000, pingTimeout := 20000
      maxPayload := some 1000000 }
  now := 0

end Origin

namespace Op

-- The packet that an operation wants to send.
def sending? : Op → Option Packet
  | send p => some p
  | receive p _ => if p.kind = .ping then some (.pong p.data) else none
  | _ => none

-- The websocket that an operation brings along.
def joining? : Op → Option (TransportId × Revision)
  | beginUpgrade tid revision _ => some (tid, revision)
  | _ => none

end Op

-- A session after an operation. One that is refused leaves it as it is.
def perform (s : Session) : Op → Session
  | .send p => (s.send p).toOption.getD s
  | .registerPoll => (s.registerPoll.toOption.map (·.2)).getD s
  | .expirePoll poll => (s.expirePoll poll).2
  | .setPollClient poll client => s.setPollClient poll client
  | .receive p now => s.receive p now
  | .heartbeat now => s.heartbeat now
  | .recordDecodeError e => s.recordDecodeError e
  | .countDecodeError e => s.countDecodeError e
  | .resetDecodeErrors => s.resetDecodeErrors
  | .report f => s.report f
  | .beginUpgrade id revision writer => (s.beginUpgrade { id, revision, writer }).2
  | .probe tid p => (s.probe tid p).2
  | .abortUpgrade tid f => s.abortUpgrade tid f
  | .transportClosed tid reason => s.transportClosed tid reason
  | .setWriter tid writer => s.setWriter tid writer
  | .close reason => s.close reason
  | .passOn => { s with signals := [] }

def run (s : Session) (ops : List Op) : Session :=
  ops.foldl perform s

-- Whether a packet would be accepted now.
def accepts (s : Session) (p : Packet) : Bool :=
  (s.send p).isOk

-- The packets that are accepted in a run, in their order.
def accepted (s : Session) : List Op → List Packet
  | [] => []
  | op :: ops => (op.sending?.filter s.accepts).toList ++ (s.perform op).accepted ops

-- Whether a websocket would be let in now.
def admits (s : Session) (_ : TransportId × Revision) : Bool :=
  s.checkUpgrade.isOk

-- The websockets that are let in in a run.
def joined (s : Session) : List Op → List (TransportId × Revision)
  | [] => []
  | op :: ops => (op.joining?.filter s.admits).toList ++ (s.perform op).joined ops

section

variable (s : Session)

@[simp]
theorem run_nil : s.run [] = s := rfl

@[simp]
theorem run_cons (op : Op) (ops : List Op) : s.run (op :: ops) = (s.perform op).run ops := rfl

theorem run_append (ops more : List Op) : s.run (ops ++ more) = (s.run ops).run more :=
  List.foldl_append

theorem joined_append (ops more : List Op) :
    s.joined (ops ++ more) = s.joined ops ++ (s.run ops).joined more := by
  induction ops generalizing s with
  | nil => rfl
  | cons op ops ih => simp [joined, ih]

end

-- Only a websocket that was brought along is let in.
theorem exists_joining_of_mem_joined {s : Session} {ops : List Op} {w : TransportId × Revision}
    (h : w ∈ s.joined ops) : ∃ op ∈ ops, op.joining? = some w := by
  induction ops generalizing s with
  | nil => simp [joined] at h
  | cons op ops ih =>
    simp only [joined, List.mem_append, Option.mem_toList] at h
    cases h with
    | inl h => exact ⟨op, List.mem_cons_self, (Option.filter_eq_some_iff.mp h).1⟩
    | inr h =>
      have ⟨op', mem, eq⟩ := ih h
      exact ⟨op', List.mem_cons_of_mem _ mem, eq⟩

end Duplex.Session
