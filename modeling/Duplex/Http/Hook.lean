import Duplex.Http.Message
import Duplex.Http.Query

-- Hooks see every request to the engine before the engine does. They collect headers for the
-- response, and any of them can refuse the request.

namespace Duplex.Http

-- What a hook gets to see.
structure Inquiry where
  request : Request
  query : Query

-- From the headers collected so far: those with the hook's own, and a reason if it refuses.
abbrev Hook := Inquiry → Headers → Headers × Option String

namespace Hook

def append (name value : String) : Hook := fun _ hs =>
  (hs.append name value, none)

def insert (name value : String) : Hook := fun _ hs =>
  (hs.insert name value, none)

def deny (reason : String) : Hook := fun _ hs =>
  (hs, some reason)

def denyHeader (name reason : String) : Hook := fun i hs =>
  (hs, if i.request.headers.has name then some reason else none)

def denyTransport (transport reason : String) : Hook := fun i hs =>
  (hs, if i.query.transport = some transport then some reason else none)

def describeValue : Option String → String
  | some s => "Some(" ++ Text.quote s ++ ")"
  | none => "None"

-- Tells in a header what the request asked for.
def describe : Hook := fun i hs =>
  let words := [i.request.method, i.request.path, describeValue i.query.revision,
    describeValue i.query.transport, if i.query.session.isSome then "true" else "false"]
  (hs.append "x-request" (" ".intercalate words), none)

-- Hooks run in their order, the first refusal ends it. The headers of that hook still count.
def runFrom (inquiry : Inquiry) : Headers → List Hook → Headers × Except Fault Unit
  | hs, [] => (hs, .ok ())
  | hs, hook :: hooks =>
    match hook inquiry hs with
    | (hs, some reason) => (hs, .error (.forbidden reason))
    | (hs, none) => runFrom inquiry hs hooks

def runAll (hooks : List Hook) (inquiry : Inquiry) : Headers × Except Fault Unit :=
  runFrom inquiry [] hooks

end Hook

end Duplex.Http
