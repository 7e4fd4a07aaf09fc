import Duplex.Session.Inbound
import Duplex.Session.Polls

-- Bodies that a polling client posts. Whether a session takes one is decided before it is read, and
-- what is in it is handled after it was read to its end.

namespace Duplex

namespace Fault

def brokenBody (reason : String) : Fault :=
  .transport ("Failed to buffer the request body: " ++ reason)

end Fault

namespace Session

def admitUpload (s : Session) : Except Fault Unit :=
  if !s.isLive then .error .sessionClosed
  else if s.transport.kind ≠ .polling then .error .notPolling
  else .ok ()

-- The body grew too large. That does the session no harm.
def refuseBody (s : Session) : Fault × Session :=
  let fault := Fault.payloadTooLarge s.config.maxPayload.toNat
  (fault, s.report fault)

-- A batch counts as a whole: either all its packets are handled, or the session learns why none is.
def takeBatch (s : Session) (body : Bytes) (now : Nat) : Except Fault Unit × Session :=
  match Batch.decodeBytes body s.revision with
  | .ok packets => (.ok (), s.resetDecodeErrors.receiveAll packets now)
  | .error e => (.error (.decode e), s.recordDecodeError e)

-- The client broke off in the middle of the body.
def breakBody (s : Session) (reason : String) : Fault × Session :=
  let fault := Fault.brokenBody reason
  (fault, (s.report fault).close .transportError)

end Session

end Duplex
