import Duplex.Session.Closing

-- What comes in from the client.

namespace Duplex.Session

def heartbeat (s : Session) (now : Nat) : Session :=
  { s with lastHeartbeat := now }

-- A message reaches the application as long as the inbox is open.
def takeIn (s : Session) (content : Payload) : Session :=
  if s.listening then { s with inbox := s.inbox ++ [content] }.announce (.message content) else s

-- An answer that the transport cannot carry is not sent.
def answerPing (s : Session) (data : Option Payload) : Session :=
  match s.send (.pong data) with
  | .ok s => s
  | .error _ => s

-- A decoded packet that came on the active transport.
def receive (s : Session) (p : Packet) (now : Nat) : Session :=
  let s := s.meter .received
  match p.kind with
  | .ping => (s.heartbeat now).answerPing p.data
  | .pong => s.heartbeat now
  | .message => s.takeIn p.content
  | .close => s.close .transportClose
  | .handshake | .upgrade | .noop => s

def receiveAll (s : Session) (ps : List Packet) (now : Nat) : Session :=
  ps.foldl (fun s p => s.receive p now) s

-- The count of undecodable inputs is a word.
def countDecodeError (s : Session) (e : DecodeError) : Session :=
  { s.meter .undecodable with decodeErrors := s.decodeErrors + 1 }.report (.decode e)

-- A client may send a number of undecodable inputs in a row, one more closes the session.
def recordDecodeError (s : Session) (e : DecodeError) : Session :=
  let s := s.countDecodeError e
  if s.config.maxDecodeErrors < s.decodeErrors then s.close .parseError else s

def resetDecodeErrors (s : Session) : Session :=
  { s with decodeErrors := 0 }

end Duplex.Session
