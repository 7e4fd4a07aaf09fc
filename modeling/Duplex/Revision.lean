-- What a client and a server agree on: the revision of the protocol and the transport.

namespace Duplex

-- In revision 3 polling records carry their length and the client sends the heartbeat pings. In
-- revision 4 records are set apart by a character and the server sends the pings.
inductive Revision where
  | v3 | v4
  deriving DecidableEq, Repr, Inhabited

namespace Revision

def name : Revision → String
  | v3 => "3"
  | v4 => "4"

def ofName? (s : String) : Option Revision :=
  if s = "3" then some v3 else if s = "4" then some v4 else none

@[simp]
theorem ofName?_name (r : Revision) : ofName? r.name = some r := by
  cases r <;> rfl

def serverPings : Revision → Bool
  | v3 => false
  | v4 => true

end Revision

inductive TransportKind where
  | polling | websocket
  deriving DecidableEq, Repr, Inhabited

namespace TransportKind

def name : TransportKind → String
  | polling => "polling"
  | websocket => "websocket"

def ofName? (s : String) : Option TransportKind :=
  if s = "polling" then some polling else if s = "websocket" then some websocket else none

@[simp]
theorem ofName?_name (k : TransportKind) : ofName? k.name = some k := by
  cases k <;> rfl

end TransportKind

end Duplex
