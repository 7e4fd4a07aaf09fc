import Duplex.Proofs.Server.Run

-- A server that stops does not start again. Nothing but the beginning of a shutdown touches the mark
-- that it stops, and a shutdown begins once.

namespace Duplex.Server

variable (v : Server)

theorem stopping_foldl {α : Type} {f : Server → α → Server}
    (step : ∀ v x, (f v x).stopping = v.stopping) (xs : List α) :
    (xs.foldl f v).stopping = v.stopping := by
  induction xs generalizing v with
  | nil => rfl
  | cons x xs ih => exact (ih _).trans (step v x)

@[simp]
theorem stopping_put (s : Session) : (v.put s).stopping = v.stopping := rfl

@[simp]
theorem stopping_respond (x : Exchange) (r : Http.Response) :
    (v.respond x r).stopping = v.stopping := rfl

@[simp]
theorem stopping_adopt (sid : SessionId) : (v.adopt sid).stopping = v.stopping := by
  simp only [adopt]
  split <;> rfl

-- What goes on by itself.

theorem stopping_runSocket (k : Socket) : (v.runSocket k).stopping = v.stopping := by
  simp only [runSocket]
  split <;> rfl

theorem stopping_runConnection (c : Connection) : (v.runConnection c).stopping = v.stopping := by
  simp only [runConnection]
  split
  · rfl
  · rfl
  · split
    · rfl
    · split <;> rfl

theorem stopping_runExchange (x : Exchange) : (v.runExchange x).stopping = v.stopping := by
  simp only [runExchange]
  split
  · rfl
  · split
    · rfl
    · split
      · rfl
      · split <;> rfl

@[simp]
theorem stopping_settle : v.settle.stopping = v.stopping := by
  have observed (v : Server) : v.runObserver.stopping = v.stopping := by
    simp only [runObserver]
    split <;> rfl
  have sockets : v.runSockets.stopping = v.stopping := by
    simp only [runSockets]
    split
    · exact stopping_foldl _ stopping_runSocket _
    · rfl
  have watches (v : Server) : v.runWatches.stopping = v.stopping :=
    stopping_foldl { v with watches := _ } (f := runWatch) (fun _ _ => rfl) _
  have connections (v : Server) : v.runConnections.stopping = v.stopping :=
    stopping_foldl _ stopping_runConnection _
  rw [settle, observed, runExchanges, stopping_foldl _ stopping_runExchange, connections, watches,
    sockets]

@[simp]
theorem stopping_elapse (milliseconds : Nat) : (v.elapse milliseconds).stopping = v.stopping := by
  fun_induction elapse v milliseconds with
  | case1 v milliseconds step lt ih => rw [ih, stopping_settle]
  | case2 => rfl

@[simp]
theorem stopping_advance (milliseconds : Nat) : (v.advance milliseconds).stopping = v.stopping := by
  rw [advance, stopping_settle, stopping_elapse]

-- Requests and their bodies.

theorem stopping_poll (s : Session) : (v.poll s).2.stopping = v.stopping := by
  simp only [poll]
  split <;> rfl

theorem stopping_openPolling (revision : Revision) :
    (v.openPolling revision).2.stopping = v.stopping := by
  simp only [openPolling]
  split
  · rw [stopping_poll, stopping_adopt]
  · rw [stopping_adopt]

theorem stopping_dispatch (q : Http.Query) (method : String) (upgradable : Bool) :
    (v.dispatch q method upgradable).2.stopping = v.stopping := by
  simp only [dispatch]
  split
  · rfl
  · rfl
  · split
    · rfl
    · exact v.stopping_openPolling _
    · split
      · exact v.stopping_poll _
      · rfl
    · split <;> rfl
    · rfl

theorem stopping_handle (r : Http.Request) (upgradable : Bool) :
    (v.handle r upgradable).2.2.stopping = v.stopping := by
  have asked : (v.askEngine r upgradable).2.2.stopping = v.stopping := by
    have dispatched := v.stopping_dispatch ((Http.Query.ofChars? r.query).getD {}) r.method upgradable
    simp only [askEngine]
    split
    · rfl
    · split
      · next eq => rwa [eq] at dispatched
      · next eq => rwa [eq] at dispatched
  have routed : (v.route r upgradable).2.2.stopping = v.stopping := by
    simp only [route]
    split
    · rfl
    · split
      · rfl
      · split
        · exact asked
        · rfl
        · rfl
  simp only [handle]
  split
  · rfl
  · split
    · next eq => rwa [eq] at routed
    · exact routed

theorem stopping_extendBody (x : Exchange) (data : Bytes) :
    (v.extendBody x data).stopping = v.stopping := by
  simp only [extendBody]
  split
  · rfl
  · split
    · rfl
    · split <;> rfl

theorem stopping_endBody (x : Exchange) : (v.endBody x).stopping = v.stopping := by
  simp only [endBody]
  split
  · rfl
  · split
    · rfl
    · split <;> rfl

theorem stopping_breakBody (x : Exchange) (reason : String) :
    (v.breakBody x reason).stopping = v.stopping := by
  simp only [breakBody]
  split
  · rfl
  · split <;> rfl

theorem stopping_postBody (x : Exchange) (body : Bytes) :
    (v.postBody x body).stopping = v.stopping := by
  simp only [postBody]
  split
  · rw [stopping_endBody, stopping_extendBody]
  · rw [stopping_extendBody]

theorem stopping_request (r : Http.Request) (body : Option Bytes) :
    (v.request r body).2.stopping = v.stopping := by
  simp only [request, stopping_settle]
  generalize (if body.isNone then v.sending ++ [v.requests + 1] else v.sending) = sending
  have handled := { v with requests := v.requests + 1, sending }.stopping_handle r false
  split
  · next eq => rwa [eq] at handled
  · next eq =>
    rw [eq] at handled
    split
    · rw [stopping_postBody]
      exact handled
    · exact handled
  · next eq => rwa [eq] at handled

-- Websockets.

theorem stopping_openWebsocket (revision : Revision) :
    (v.openWebsocket revision).stopping = v.stopping :=
  stopping_adopt _ _

theorem stopping_joinWebsocket (revision : Revision) (sid : SessionId) :
    (v.joinWebsocket revision sid).stopping = v.stopping := by
  simp only [joinWebsocket]
  split
  · rfl
  · split <;> rfl

theorem stopping_openSocket (r : Http.Request) : (v.openSocket r).2.stopping = v.stopping := by
  have handled := v.stopping_handle r true
  simp only [openSocket]
  split
  · next eq =>
    rw [eq] at handled
    exact (stopping_settle _).trans handled
  · next eq =>
    rw [eq] at handled
    exact (stopping_settle _).trans ((stopping_openWebsocket _ _).trans handled)
  · next eq =>
    rw [eq] at handled
    exact (stopping_settle _).trans ((stopping_joinWebsocket _ _ _).trans handled)
  · next eq =>
    rw [eq] at handled
    split <;> exact (stopping_settle _).trans handled

theorem stopping_takeMessage (number : Nat) (m : Message) :
    (v.takeMessage number m).stopping = v.stopping := by
  simp only [takeMessage]
  split
  · rfl
  · split <;> rfl

-- Runs.

theorem stopping_drain (left : Nat) : (v.drain left).2.stopping = v.stopping := by
  fun_induction drain v left with
  | case1 => rfl
  | case2 => rw [stopping_elapse, stopping_settle]
  | case3 v left _ _ ih => rw [ih, stopping_elapse, stopping_settle]

theorem stopping_beginShutdown : v.beginShutdown.2.stopping := by
  simp only [beginShutdown]
  split
  · next stopping => exact stopping
  · rfl

theorem stopping_shutDown (timeout : Nat) (tasks : List Nat) :
    (v.shutDown timeout tasks).2.stopping := by
  have drained := (v.beginShutdown.2.stopping_drain timeout).trans v.stopping_beginShutdown
  simp only [shutDown]
  generalize (if v.listening then 0 :: tasks else tasks) = tasks
  split
  · next eq =>
    rw [eq] at drained
    exact (stopping_settle _).trans drained
  · next eq =>
    rw [eq] at drained
    split
    · exact (stopping_settle _).trans drained
    · split
      · exact (stopping_advance _ _).trans ((stopping_settle _).trans drained)
      · exact (stopping_advance _ _).trans ((stopping_settle _).trans drained)

variable {v}

theorem stopping_perform (stopping : v.stopping) (move : Move) : (v.perform move).stopping := by
  rw [← stopping]
  cases move with
  | request r body => exact v.stopping_request r body
  | sendChunk id data =>
    simp only [perform, sendChunk]
    split
    · exact (stopping_settle _).trans (v.stopping_extendBody _ _)
    · rfl
  | endSending id =>
    simp only [perform, endSending]
    split
    · exact (stopping_settle _).trans (stopping_endBody _ _)
    · rfl
  | breakSending id reason =>
    simp only [perform, breakSending]
    split
    · exact (stopping_settle _).trans (stopping_breakBody _ _ _)
    · rfl
  | abandon id =>
    simp only [perform, abandon]
    split
    · rfl
    · split
      · rfl
      · exact stopping_settle _
  | openSocket r => exact v.stopping_openSocket r
  | sendOnSocket number m =>
    exact (stopping_settle _).trans (v.stopping_takeMessage number m)
  | loseSocket number =>
    exact (stopping_settle _).trans (v.stopping_takeMessage number .failure)
  | operate sid op lets => rfl
  | settle => exact v.stopping_settle
  | advance milliseconds => exact v.stopping_advance milliseconds
  | closeAll reason => exact stopping_settle _
  | listen => rfl
  | beginShutdown => exact v.stopping_beginShutdown.trans stopping.symm
  | shutDown timeout tasks => exact (v.stopping_shutDown timeout tasks).trans stopping.symm

theorem stopping_run (stopping : v.stopping) (moves : List Move) : (v.run moves).stopping := by
  induction moves generalizing v with
  | nil => exact stopping
  | cons move moves ih => exact ih (stopping_perform stopping move)

theorem beginShutdown_of_stopping (stopping : v.stopping) : v.beginShutdown = (0, v) := by
  rw [beginShutdown, if_pos stopping]

end Duplex.Server
