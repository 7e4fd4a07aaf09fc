-- The states of a session, and why it closes.

namespace Duplex

-- A session is created `opening`. Once its handshake is queued it goes to and fro between
-- `established` and `upgrading` until it closes, and `closed` is final.
inductive ReadyState where
  | opening | established | upgrading | closing | closed
  deriving DecidableEq, Repr, Inhabited

namespace ReadyState

def all : List ReadyState :=
  [opening, established, upgrading, closing, closed]

def name : ReadyState → String
  | opening => "opening"
  | established => "open"
  | upgrading => "upgrading"
  | closing => "closing"
  | closed => "closed"

def ofName? (s : String) : Option ReadyState :=
  all.find? (·.name = s)

@[simp]
theorem ofName?_name (state : ReadyState) : ofName? state.name = some state := by
  cases state <;> rfl

-- Whether the application may send.
def isLive : ReadyState → Bool
  | opening | established | upgrading => true
  | closing | closed => false

end ReadyState

inductive CloseReason where
  | forcedClose | transportClose | transportError | pingTimeout | parseError | serverShutdown
  deriving DecidableEq, Repr, Inhabited

namespace CloseReason

def all : List CloseReason :=
  [forcedClose, transportClose, transportError, pingTimeout, parseError, serverShutdown]

def name : CloseReason → String
  | forcedClose => "forced close"
  | transportClose => "transport close"
  | transportError => "transport error"
  | pingTimeout => "ping timeout"
  | parseError => "parse error"
  | serverShutdown => "server shutting down"

def ofName? (s : String) : Option CloseReason :=
  all.find? (·.name = s)

@[simp]
theorem ofName?_name (reason : CloseReason) : ofName? reason.name = some reason := by
  cases reason <;> rfl

end CloseReason

end Duplex
