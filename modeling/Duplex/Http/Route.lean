import Duplex.Http.Message
import Duplex.Settings.Basic

-- Which paths are served, and the headers for other origins.

namespace Duplex.Http

inductive Route where
  | engine | health | metrics
  deriving DecidableEq, Repr

namespace Route

def withoutTrailingSlashes (path : String) : String :=
  String.ofList (path.toList.reverse.dropWhile (· = '/')).reverse

-- The engine is also served at its path without the slashes at the end.
def table (path : String) (withMetrics : Bool) : List (String × Route) :=
  let bare := withoutTrailingSlashes path
  [(path, engine), ("/health", health)] ++
    (if bare ≠ "" ∧ bare ≠ path then [(bare, engine)] else []) ++
    (if withMetrics then [("/metrics", metrics)] else [])

-- The engine sees every method, the other routes can only be read.
def serves : Route → (method : String) → Bool
  | engine, _ => true
  | health, method | metrics, method => method = "GET" || method = "HEAD"

-- All routes at one path.
def sharing (path : String) (withMetrics : Bool) (shared : String) : List Route :=
  ((table path withMetrics).filter (·.1 = shared)).map Prod.snd

-- Where the engine shares its path, it gets what the other route there does not serve.
def find? (path : String) (withMetrics : Bool) (r : Request) : Option Route :=
  let here := sharing path withMetrics r.path
  (here.find? fun found => found ≠ engine && found.serves r.method).or
    (if engine ∈ here then some engine else here.head?)

end Route

namespace Response

def allowOrigin : String × String := ("access-control-allow-origin", "*")

-- The answer to a browser that asks before a request whether it may make it.
def preflight : Response :=
  { status := 200
    headers := [("access-control-allow-headers", "*"), ("access-control-allow-methods", "*"),
      allowOrigin] }

def isPreflight (r : Request) : Bool :=
  r.method = "OPTIONS"

-- Every origin may read the response.
def shared (r : Response) : Response :=
  { r with headers := r.headers.override [allowOrigin, ("access-control-expose-headers", "*")] }

-- A response to a request that only asked for the headers.
def forMethod (r : Response) (method : String) : Response :=
  if method = "HEAD" then { r with body := "" } else r

end Response

end Duplex.Http
