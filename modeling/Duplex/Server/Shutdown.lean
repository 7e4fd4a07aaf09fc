import Duplex.Server.Clock

-- The end of a server: its sessions are closed, then it waits for them to be gone and for other
-- work to be done.

namespace Duplex.Server

-- Closes every session that is registered and stops whoever listens. This is done once; the answer
-- is how many sessions were registered.
def beginShutdown (v : Server) : Nat × Server :=
  if v.stopping then (0, v)
  else
    (v.engine.registry.length,
      { v with engine := v.engine.closeAll .serverShutdown, stopping := true, listening := false })

-- How often a shutdown looks whether the registry is empty, in milliseconds.
def drainStep : Nat := 10

-- How long a shutdown waits at most if nothing else is said.
def drainTimeout : Nat := 10000

-- Waits for the registry to be empty: the time left when it was found so. A look comes before
-- everything else that is due at its instant.
def drain (v : Server) (left : Nat) : Option Nat × Server :=
  if v.engine.registry = [] then (some left, v)
  else if left < drainStep then (none, v.settle.elapse left)
  else drain (v.settle.elapse drainStep) (left - drainStep)
  termination_by left
  decreasing_by simp_all [drainStep]; omega

structure Drained where
  complete : Bool
  elapsed : Nat
  deriving DecidableEq, Repr

-- Begins a shutdown, then waits for the registry to be empty and for tasks that end by themselves
-- after the given times. Accepting connections is a task that ends at once when it is told to. A
-- task that ends at the very instant of a look is found to have ended only after it, and at the
-- last instant that is too late.
def shutDown (v : Server) (timeout : Nat) (tasks : List Nat) : Drained × Server :=
  let tasks := if v.listening then 0 :: tasks else tasks
  match v.beginShutdown.2.drain timeout with
  | (none, v) => ({ complete := false, elapsed := timeout }, v.settle)
  | (some left, v) =>
    let spent := timeout - left
    let finished := tasks.foldl max spent
    if tasks.all (· < spent) then ({ complete := true, elapsed := spent }, v.settle)
    else if finished < timeout then
      ({ complete := true, elapsed := finished }, v.settle.advance (finished - spent))
    else ({ complete := false, elapsed := timeout }, v.settle.advance left)

end Duplex.Server
