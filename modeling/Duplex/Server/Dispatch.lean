import Duplex.Server.Basic

-- What becomes of a request: where it is routed to, what the hooks say, and what the engine makes
-- of it.

namespace Duplex

namespace Fault

-- A request that cannot be turned into a websocket asked for one.
def notUpgradable : Fault := .transportMismatch "the request is no websocket handshake"

end Fault

namespace Server

inductive Verdict where
  | answered (r : Http.Response)
  | waiting (work : Work)
  -- The connection becomes a websocket, of a new session or for a session that is there.
  | switching (revision : Revision) (sid : Option SessionId)

-- A poll waits for packets, even when there are some already.
def poll (v : Server) (s : Session) : Except Fault Verdict × Server :=
  match s.registerPoll with
  | .error f => (.error f, v)
  | .ok (poll, s) =>
    let deadline := v.now + v.config.pollTimeout.toNat
    (.ok (.waiting (.poll s.id poll deadline)), v.put s)

def openPolling (v : Server) (revision : Revision) : Except Fault Verdict × Server :=
  let (sid, engine) := v.engine.openPolling revision v.now
  let v := { v with engine }.adopt sid
  match v.session? sid with
  | some s => v.poll s
  | none => (.error (.unknownSession sid), v)

def upload (s : Session) : Except Fault Verdict :=
  match s.admitUpload with
  | .error f => .error f
  | .ok () => .ok (.waiting (.upload s.id []))

-- Whether a websocket may open a session or join one.
def switch (v : Server) (revision : Revision) (upgradable : Bool) :
    Option SessionId → Except Fault Verdict
  | none => if upgradable then .ok (.switching revision none) else .error .notUpgradable
  | some sid =>
    match v.engine.lookup sid with
    | .error f => .error f
    | .ok s =>
      match s.checkUpgrade with
      | .error f => .error f
      | .ok () => if upgradable then .ok (.switching revision (some sid)) else .error .notUpgradable

def dispatch (v : Server) (q : Http.Query) (method : String) (upgradable : Bool) :
    Except Fault Verdict × Server :=
  match q.askedTransport v.config, q.askedRevision with
  | .error f, _ => (.error f, v)
  | .ok _, .error f => (.error f, v)
  | .ok kind, .ok revision =>
    match kind, method, q.session with
    | .websocket, "GET", sid => (v.switch revision upgradable sid, v)
    | .polling, "GET", none => v.openPolling revision
    | .polling, "GET", some sid =>
      match v.engine.lookup sid with
      | .ok s => v.poll s
      | .error f => (.error f, v)
    | .polling, "POST", some sid =>
      match v.engine.lookup sid with
      | .ok s => (upload s, v)
      | .error f => (.error f, v)
    | _, _, _ => (.error .badMethod, v)

def health (v : Server) : Http.Response :=
  .json 200 (.object [("sessions", .ofNat v.engine.registry.length), ("status", .string "ok")])

def metricsPage (v : Server) : Http.Response :=
  .typed 200 "text/plain; charset=utf-8" ("\n".intercalate v.engine.metrics.lines)

-- A request to the engine. A query that cannot be read asks for nothing. The verdict comes with
-- the headers that hooks collected.
def askEngine (v : Server) (r : Http.Request) (upgradable : Bool) :
    Verdict × Http.Headers × Server :=
  let query := (Http.Query.ofChars? r.query).getD {}
  match Http.Hook.runAll v.hooks { request := r, query } with
  | (extra, .error f) => (.answered (.ofFault f), extra, v)
  | (extra, .ok ()) =>
    match v.dispatch query r.method upgradable with
    | (.ok verdict, v) => (verdict, extra, v)
    | (.error f, v) => (.answered (.ofFault f), extra, v)

def route (v : Server) (r : Http.Request) (upgradable : Bool) :
    Verdict × Http.Headers × Server :=
  match Http.Route.find? v.listener.path v.withMetrics r with
  | none => (.answered .notFound, [], v)
  | some found =>
    if !found.serves r.method then (.answered .methodNotAllowed, [], v)
    else
      match found with
      | .engine => v.askEngine r upgradable
      | .health => (.answered v.health, [], v)
      | .metrics => (.answered v.metricsPage, [], v)

-- The verdict on a request. An answer has all its headers, any other comes with those of hooks.
def handle (v : Server) (r : Http.Request) (upgradable : Bool) :
    Verdict × Http.Headers × Server :=
  if v.listener.cors && Http.Response.isPreflight r then (.answered .preflight, [], v)
  else
    match v.route r upgradable with
    | (.answered response, extra, v) =>
      (.answered ((v.dress extra response).forMethod r.method), [], v)
    | other => other

end Server

end Duplex
