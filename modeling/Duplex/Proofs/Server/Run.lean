import Duplex.Proofs.Server.Preservation
import Duplex.Proofs.Session.Change

-- Runs of a server: clients, the application and time move it in any order. Sessions open and
-- websockets join them through requests only.

namespace Duplex.Server

-- The session that a websocket may join by a request, and the revision of the request.
def join? (v : Server) (r : Http.Request) : Option (SessionId × Revision) :=
  match (v.handle r true).1 with
  | .switching revision (some sid) => some (sid, revision)
  | .switching _ none | .answered _ | .waiting _ => none

namespace Holds

variable {P : Session → Prop} {v : Server}

theorem startExchange (h : v.Holds P) (x : Exchange) : (v.startExchange x).Holds P := h

section

variable (stable : Session.Stable P) (opens : ∀ o : Session.Origin, P o.session)

include stable opens

theorem openPolling (h : v.Holds P) (revision : Revision) : (v.openPolling revision).2.Holds P := by
  let e : Engine := { v.engine with transports := v.engine.transports + 1 }
  have counted : e.Holds P := Engine.Holds.of_eq h rfl rfl
  have opened := counted.openSession stable opens revision v.engine.transports none v.now
  have adopted := adopt (v := { v with engine := (v.engine.openPolling revision v.now).2 }) opened
    (v.engine.openPolling revision v.now).1
  simp only [Server.openPolling]
  split
  · next found => exact poll stable adopted (adopted.of_session? found)
  · exact adopted

theorem dispatch (h : v.Holds P) (q : Http.Query) (method : String) (upgradable : Bool) :
    (v.dispatch q method upgradable).2.Holds P := by
  simp only [Server.dispatch]
  split
  · exact h
  · exact h
  · split
    · exact h
    · exact openPolling stable opens h _
    · split
      · next found => exact poll stable h (h.of_session? (Engine.session?_of_lookup found))
      · exact h
    · split <;> exact h
    · exact h

theorem askEngine (h : v.Holds P) (r : Http.Request) (upgradable : Bool) :
    (v.askEngine r upgradable).2.2.Holds P := by
  simp only [Server.askEngine]
  split
  · exact h
  · have dispatched := dispatch stable opens h ((Http.Query.ofChars? r.query).getD {}) r.method
      upgradable
    split
    · next eq =>
      rw [eq] at dispatched
      exact dispatched
    · next eq =>
      rw [eq] at dispatched
      exact dispatched

theorem route (h : v.Holds P) (r : Http.Request) (upgradable : Bool) :
    (v.route r upgradable).2.2.Holds P := by
  simp only [Server.route]
  split
  · exact h
  · split
    · exact h
    · split
      · exact askEngine stable opens h r upgradable
      · exact h
      · exact h

theorem handle (h : v.Holds P) (r : Http.Request) (upgradable : Bool) :
    (v.handle r upgradable).2.2.Holds P := by
  have routed := route stable opens h r upgradable
  simp only [Server.handle]
  split
  · exact h
  · split
    · next eq =>
      rw [eq] at routed
      exact routed
    · exact routed

theorem request (h : v.Holds P) (r : Http.Request) (body : Option Bytes) :
    (v.request r body).2.Holds P := by
  simp only [Server.request]
  generalize (if body.isNone then v.sending ++ [v.requests + 1] else v.sending) = sending
  have counted : { v with requests := v.requests + 1, sending }.Holds P := h
  have handled := handle stable opens counted r false
  refine settle stable ?_
  split
  · next eq =>
    rw [eq] at handled
    exact handled
  · next eq =>
    rw [eq] at handled
    split
    · exact postBody stable (startExchange handled _) _ _
    · exact handled
  · next eq =>
    rw [eq] at handled
    exact handled

theorem openWebsocket (h : v.Holds P) (revision : Revision) : (v.openWebsocket revision).Holds P := by
  let e : Engine := { v.engine with transports := v.engine.transports + 1 }
  have counted : e.Holds P := Engine.Holds.of_eq h rfl rfl
  have opened := counted.openSession stable opens revision v.engine.transports (some .present) v.now
  exact adopt (v := { v with engine := _ }) opened _

end

-- A websocket is let in by a session that it asks for.
theorem joinWebsocket {Q : Session → Prop} (stable : Session.Stable Q) (h : v.Holds P)
    (imp : ∀ s, P s → Q s) {revision : Revision} {sid : SessionId}
    (joins : ∀ s tid, s.id = sid → P s → Q (s.perform (.beginUpgrade tid revision .present))) :
    (v.joinWebsocket revision sid).Holds Q := by
  let e : Engine := { v.engine with transports := v.engine.transports + 1 }
  have counted : e.Holds Q := Engine.Holds.of_eq (Engine.Holds.imp h imp) rfl rfl
  simp only [Server.joinWebsocket, Engine.newTransport]
  split
  · exact counted
  · next s found =>
    have found := Engine.session?_of_lookup found
    have joined := joins s v.engine.transports (Engine.id_of_session? found) (h.of_session? found)
    split
    · next eq =>
      simp only [Session.perform, eq] at joined
      exact Engine.Holds.put stable counted joined
    · next eq =>
      simp only [Session.perform, eq] at joined
      exact Engine.Holds.put stable counted joined

theorem openSocket {Q : Session → Prop} (stableP : Session.Stable P) (stable : Session.Stable Q)
    (opens : ∀ o : Session.Origin, P o.session) (h : v.Holds P) (imp : ∀ s, P s → Q s)
    {r : Http.Request}
    (joins : ∀ s tid revision, v.join? r = some (s.id, revision) → P s →
      Q (s.perform (.beginUpgrade tid revision .present))) :
    (v.openSocket r).2.Holds Q := by
  have handled := handle stableP opens h r true
  simp only [join?] at joins
  simp only [Server.openSocket]
  split
  · next eq =>
    rw [eq] at handled
    exact settle stable (Engine.Holds.imp handled imp)
  · next eq =>
    rw [eq] at handled
    dsimp only
    exact settle stable
      (openWebsocket stable (fun o => imp _ (opens o)) (Engine.Holds.imp handled imp) _)
  · next revision sid extra v' eq =>
    rw [eq] at handled joins
    dsimp only
    refine settle stable (joinWebsocket stable handled imp fun s tid id hs => ?_)
    exact joins s tid revision (by rw [id]) hs
  · next eq =>
    rw [eq] at handled
    have handled := Engine.Holds.imp handled imp
    split
    · exact settle stable (startExchange handled _)
    · exact settle stable (startExchange handled _)

end Holds

-- What moves a server: requests, bodies and websockets of clients, operations of the application on
-- a session, the passing of time, and the end. An operation may come between any two others, and
-- then the server need not come to rest.
inductive Move where
  | request (r : Http.Request) (body : Option Bytes)
  | sendChunk (id : RequestId) (data : Bytes)
  | endSending (id : RequestId)
  | breakSending (id : RequestId) (reason : String)
  | abandon (id : RequestId)
  | openSocket (r : Http.Request)
  | sendOnSocket (number : Nat) (m : Message)
  | loseSocket (number : Nat)
  | operate (sid : SessionId) (op : Session.Op) (lets : op.joining? = none)
  | settle
  | advance (milliseconds : Nat)
  | closeAll (reason : CloseReason)
  | listen
  | beginShutdown
  | shutDown (timeout : Nat) (tasks : List Nat)

def perform (v : Server) : Move → Server
  | .request r body => (v.request r body).2
  | .sendChunk id data => (v.sendChunk id data).2
  | .endSending id => (v.endSending id).2
  | .breakSending id reason => (v.breakSending id reason).2
  | .abandon id => (v.abandon id).2
  | .openSocket r => (v.openSocket r).2
  | .sendOnSocket number m => v.sendOnSocket number m
  | .loseSocket number => v.loseSocket number
  | .operate sid op _ => v.update sid (·.perform op)
  | .settle => v.settle
  | .advance milliseconds => v.advance milliseconds
  | .closeAll reason => v.closeAll reason
  | .listen => v.listen
  | .beginShutdown => v.beginShutdown.2
  | .shutDown timeout tasks => (v.shutDown timeout tasks).2

def run (v : Server) (moves : List Move) : Server :=
  moves.foldl perform v

-- The requests of a run that let a websocket join: the session, and the revision of the request.
def joins (v : Server) : List Move → List (SessionId × Revision)
  | [] => []
  | move :: moves =>
    (match move with
      | .openSocket r => (v.join? r).toList
      | _ => []) ++ (v.perform move).joins moves

namespace Holds

variable {P : Session → Prop} {v : Server}

-- A move that is no request for a websocket opens sessions, and else only operates on them.
theorem perform (stable : Session.Stable P) (opens : ∀ o : Session.Origin, P o.session)
    (h : v.Holds P) (move : Move) (quiet : ∀ r, move ≠ .openSocket r) :
    (v.perform move).Holds P := by
  cases move with
  | request r body => exact request stable opens h r body
  | sendChunk id data => exact sendChunk stable h id data
  | endSending id => exact endSending stable h id
  | breakSending id reason => exact breakSending stable h id reason
  | abandon id => exact abandon stable h id
  | openSocket r => exact absurd rfl (quiet r)
  | sendOnSocket number m => exact sendOnSocket stable h number m
  | loseSocket number => exact loseSocket stable h number
  | operate sid op lets => exact update stable h sid fun s hs => stable op lets hs
  | settle => exact settle stable h
  | advance milliseconds => exact advance stable h milliseconds
  | closeAll reason => exact closeAll stable h reason
  | listen => exact h
  | beginShutdown => exact beginShutdown stable h
  | shutDown timeout tasks => exact shutDown stable h timeout tasks

end Holds

-- A session that opened and went through operations. Every websocket that it let in had asked for
-- it by a request of its own revision.
def Grown (requests : List (SessionId × Revision)) (s : Session) : Prop :=
  ∃ o ops, s = Session.run (Session.Origin.session o) ops ∧
    ∀ w ∈ o.session.joined ops, (s.id, w.2) ∈ requests

namespace Grown

variable {requests more : List (SessionId × Revision)} {s : Session}

theorem mono (h : Grown requests s) (sub : ∀ r ∈ requests, r ∈ more) : Grown more s := by
  have ⟨o, ops, eq, joined⟩ := h
  exact ⟨o, ops, eq, fun w mem => sub _ (joined w mem)⟩

theorem session (o : Session.Origin) : Grown requests o.session :=
  ⟨o, [], rfl, by simp [Session.joined]⟩

theorem perform (h : Grown requests s) (op : Session.Op)
    (asked : ∀ w, op.joining? = some w → (s.id, w.2) ∈ requests) :
    Grown requests (s.perform op) := by
  have ⟨o, ops, eq, joined⟩ := h
  have id : (s.perform op).id = s.id := congrArg (·.1) (Session.perform_changes s op).identity
  refine ⟨o, ops ++ [op], by rw [Session.run_append, ← eq]; rfl, fun w mem => ?_⟩
  rw [id]
  rw [Session.joined_append, ← eq, List.mem_append] at mem
  cases mem with
  | inl before => exact joined w before
  | inr now =>
    simp only [Session.joined, List.append_nil, Option.mem_toList] at now
    exact asked w (Option.filter_eq_some_iff.mp now).1

theorem stable : Session.Stable (Grown requests) :=
  fun _ op lets h => h.perform op fun _ joining => absurd (lets ▸ joining) nofun

end Grown

-- Every session of a server grew in that way.
theorem grown_run {v : Server} {requests : List (SessionId × Revision)}
    (h : v.Holds (Grown requests)) (moves : List Move) :
    (v.run moves).Holds (Grown (requests ++ v.joins moves)) := by
  induction moves generalizing v requests with
  | nil => simpa [joins, run] using h
  | cons move moves ih =>
    simp only [joins, ← List.append_assoc]
    refine ih (v := v.perform move) ?_
    split
    · next r =>
      refine Holds.openSocket Grown.stable Grown.stable Grown.session h
        (fun s hs => hs.mono fun r mem => List.mem_append_left _ mem) fun s tid revision asks hs => ?_
      refine (hs.mono fun r mem => List.mem_append_left _ mem).perform _ fun w joining => ?_
      rw [← Option.some.inj joining]
      exact List.mem_append_right _ (Option.mem_toList.mpr asks)
    · next other =>
      rw [List.append_nil]
      exact h.perform Grown.stable Grown.session move other

end Duplex.Server
