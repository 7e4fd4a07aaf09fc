import Duplex.Http.Hook
import Duplex.Session.Basic

-- The echo application: it greets every client, sends back what the client sends, and sends back a
-- header of the request.

namespace Duplex.Echo

def greetingText : String := "hi"

-- The message that every client is greeted with.
def greeting : Payload := .text greetingText

def headerName : String := "x-engineio"

-- The header of the request comes back behind the greeting.
def hook : Http.Hook := fun i hs =>
  match i.request.headers.get? headerName with
  | some value => ((hs.append headerName greetingText).append headerName value, none)
  | none => (hs, none)

-- What is refused is lost.
def offer (s : Session) (content : Payload) : Session :=
  match s.send (.message content) with
  | .ok s => s
  | .error _ => s

-- How far the application has come with a session.
structure Progress where
  greeted : Bool := false
  taken : Nat := 0
  deriving DecidableEq, Repr

-- The messages that the application sends now: the greeting first, then what has come since it
-- last looked.
def due (p : Progress) (s : Session) : List Payload :=
  (if p.greeted then [] else [greeting]) ++ s.inbox.drop p.taken

def run (p : Progress) (s : Session) : Progress × Session :=
  ({ greeted := true, taken := s.inbox.length }, (due p s).foldl offer s)

end Duplex.Echo
