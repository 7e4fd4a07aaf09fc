import Duplex.Fault
import Duplex.Handshake
import Duplex.Lifecycle
import Duplex.Revision

-- What an observer can learn of a session.

namespace Duplex

inductive Event where
  | connection (transport : TransportKind)
  | stateChange (old new : ReadyState)
  | message (payload : Payload)
  | upgrade (transport : TransportKind)
  | upgradeFailed (fault : Fault)
  | error (fault : Fault)
  | close (reason : CloseReason)
  deriving DecidableEq, Repr

inductive Event.Kind where
  | connection | stateChange | message | upgrade | upgradeFailed | error | close
  deriving DecidableEq, Repr, Inhabited

namespace Event.Kind

def all : List Kind :=
  [connection, stateChange, message, upgrade, upgradeFailed, error, close]

def name : Kind → String
  | connection => "connection"
  | stateChange => "state_change"
  | message => "message"
  | upgrade => "upgrade"
  | upgradeFailed => "upgrade_failed"
  | error => "error"
  | close => "close"

def ofName? (s : String) : Option Kind :=
  all.find? (·.name = s)

@[simp]
theorem ofName?_name (kind : Kind) : ofName? kind.name = some kind := by
  cases kind <;> rfl

end Event.Kind

def Event.kind : Event → Event.Kind
  | connection _ => .connection
  | stateChange _ _ => .stateChange
  | message _ => .message
  | upgrade _ => .upgrade
  | upgradeFailed _ => .upgradeFailed
  | error _ => .error
  | close _ => .close

-- An event with the session that it is about.
structure Notice where
  sid : SessionId
  event : Event
  deriving DecidableEq, Repr

end Duplex
