import Duplex.Text.Utf8

-- Packets: what a client and a server exchange, whatever carries them.

namespace Duplex

inductive Payload where
  | text (s : String)
  | binary (bytes : Bytes)
  deriving DecidableEq, Repr, Inhabited

namespace Payload

-- The size in bytes. Text counts as UTF-8.
def size : Payload → Nat
  | text s => s.utf8ByteSize
  | binary bytes => bytes.length

def isEmpty (p : Payload) : Bool :=
  p.size == 0

def isBinary : Payload → Bool
  | text _ => false
  | binary _ => true

def asText? : Payload → Option String
  | text s => some s
  | binary _ => none

-- Empty text is the same as no data on the wire, empty bytes are not.
def normalized : Payload → Option Payload
  | text s => if s = "" then none else some (text s)
  | binary bytes => some (binary bytes)

end Payload

-- `handshake` opens a session and carries its parameters.
inductive Packet.Kind where
  | handshake | close | ping | pong | message | upgrade | noop
  deriving DecidableEq, Repr, Inhabited

namespace Packet.Kind

def all : List Kind :=
  [handshake, close, ping, pong, message, upgrade, noop]

def tag : Kind → Char
  | handshake => '0'
  | close => '1'
  | ping => '2'
  | pong => '3'
  | message => '4'
  | upgrade => '5'
  | noop => '6'

def code : Kind → UInt8
  | handshake => 0
  | close => 1
  | ping => 2
  | pong => 3
  | message => 4
  | upgrade => 5
  | noop => 6

def name : Kind → String
  | handshake => "open"
  | close => "close"
  | ping => "ping"
  | pong => "pong"
  | message => "message"
  | upgrade => "upgrade"
  | noop => "noop"

def ofTag? (c : Char) : Option Kind :=
  all.find? (·.tag = c)

def ofCode? (b : UInt8) : Option Kind :=
  all.find? (·.code = b)

def ofName? (s : String) : Option Kind :=
  all.find? (·.name = s)

@[simp]
theorem ofTag?_tag (k : Kind) : ofTag? k.tag = some k := by
  cases k <;> rfl

@[simp]
theorem ofCode?_code (k : Kind) : ofCode? k.code = some k := by
  cases k <;> rfl

theorem tag_of_ofTag? {c : Char} {k : Kind} (h : ofTag? c = some k) : k.tag = c := by
  simpa using List.find?_some h

theorem code_of_ofCode? {b : UInt8} {k : Kind} (h : ofCode? b = some k) : k.code = b := by
  simpa using List.find?_some h

end Packet.Kind

structure Packet where
  kind : Packet.Kind
  data : Option Payload := none
  deriving DecidableEq, Repr, Inhabited

namespace Packet

def withData (kind : Kind) (payload : Payload) : Packet :=
  { kind, data := payload.normalized }

def handshake (record : String) : Packet := withData .handshake (.text record)

def close : Packet := { kind := .close }

def ping : Packet := { kind := .ping }

def pong (data : Option Payload) : Packet :=
  { kind := .pong, data := data.bind Payload.normalized }

def message (payload : Payload) : Packet := withData .message payload

def upgrade : Packet := { kind := .upgrade }

def noop : Packet := { kind := .noop }

-- The packet as the other side reads it: empty text reads as no data.
def normalized (p : Packet) : Packet :=
  { p with data := p.data.bind Payload.normalized }

@[simp]
theorem normalized_kind (p : Packet) : p.normalized.kind = p.kind := rfl

def probeText : String := "probe"

def probeAnswer : Packet := .pong (some (.text probeText))

-- The ping that asks a new transport whether it works, and the pong that answers it.
def isProbe (p : Packet) : Bool :=
  (p.kind = .ping || p.kind = .pong) && p.data = some (.text probeText)

-- What a message packet delivers to the application: no data is empty text.
def content (p : Packet) : Payload :=
  p.data.getD (.text "")

def isMessage (p : Packet) : Bool :=
  p.kind = .message

end Packet

end Duplex
