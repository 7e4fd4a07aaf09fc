import Duplex.Proofs.Server.Sessions

-- What lasts through everything that a server does of its own.

namespace Duplex.Server

-- A fact about all sessions of a server.
def Holds (P : Session → Prop) (v : Server) : Prop :=
  v.engine.Holds P

namespace Holds

variable {P : Session → Prop} {v : Server}

theorem of_session? (h : v.Holds P) {sid : SessionId} {s : Session} (found : v.session? sid = some s) :
    P s :=
  h.each s (Engine.mem_of_session? found)

theorem put (h : v.Holds P) (stable : Session.Stable P) {s : Session} (hs : P s) : (v.put s).Holds P :=
  Engine.Holds.put stable h hs

theorem adopt (h : v.Holds P) (sid : SessionId) : (v.adopt sid).Holds P := by
  simp only [Server.adopt]
  split <;> exact h

-- What every step of a loop preserves, the loop preserves.
theorem foldl {α : Type} {f : Server → α → Server} (step : ∀ v x, v.Holds P → (f v x).Holds P)
    (xs : List α) (h : v.Holds P) : (xs.foldl f v).Holds P := by
  induction xs generalizing v with
  | nil => exact h
  | cons x xs ih => exact ih (step v x h)

section

variable (stable : Session.Stable P)

include stable

theorem runSocket (h : v.Holds P) (k : Socket) : (v.runSocket k).Holds P := by
  simp only [Server.runSocket]
  split
  · exact h
  · next found => exact put h stable (stable.echo (h.of_session? found) k.progress)

theorem runConnection (h : v.Holds P) (c : Connection) : (v.runConnection c).Holds P := by
  simp only [Server.runConnection]
  split
  · exact h
  · exact h
  · next found _ =>
    split
    · exact h
    · split
      · exact put h stable (stable.abortUpgrade (h.of_session? found) c.transport _)
      · exact h

theorem runExchange (h : v.Holds P) (x : Exchange) : (v.runExchange x).Holds P := by
  simp only [Server.runExchange]
  split
  · exact h
  · split
    · exact h
    · next s found =>
      split
      · exact h
      · split
        · exact put h stable (stable (.expirePoll _) rfl (h.of_session? found))
        · exact h

theorem runSockets (h : v.Holds P) : v.runSockets.Holds P := by
  simp only [Server.runSockets]
  split
  · exact foldl (fun v k h => runSocket stable h k) _ h
  · exact h

theorem runWatch (h : v.Holds P) (w : Watch) : (v.runWatch w).Holds P :=
  Engine.Holds.runWatch stable h w v.now

theorem runWatches (h : v.Holds P) : v.runWatches.Holds P :=
  foldl (fun _ w h => runWatch stable h w) _ h

theorem runConnections (h : v.Holds P) : v.runConnections.Holds P :=
  foldl (fun _ c h => runConnection stable h c) _ h

theorem runExchanges (h : v.Holds P) : v.runExchanges.Holds P :=
  foldl (fun _ x h => runExchange stable h x) _ h

theorem settle (h : v.Holds P) : v.settle.Holds P := by
  have h := runExchanges stable (runConnections stable (runWatches stable (runSockets stable h)))
  simp only [Server.settle, runObserver]
  split
  · exact h
  · exact h.of_eq rfl rfl

theorem elapse (h : v.Holds P) (milliseconds : Nat) : (v.elapse milliseconds).Holds P := by
  fun_induction Server.elapse v milliseconds with
  | case1 v milliseconds step _ ih => exact ih (settle stable h)
  | case2 v milliseconds => exact h

theorem advance (h : v.Holds P) (milliseconds : Nat) : (v.advance milliseconds).Holds P :=
  settle stable (elapse stable h milliseconds)

theorem poll (h : v.Holds P) {s : Session} (hs : P s) : (v.poll s).2.Holds P := by
  simp only [Server.poll]
  split
  · exact h
  · next registered => exact put h stable (stable.registerPoll registered hs)

theorem extendBody (h : v.Holds P) (x : Exchange) (data : Bytes) : (v.extendBody x data).Holds P := by
  simp only [Server.extendBody]
  split
  · exact h
  · split
    · exact h
    · next found =>
      split
      · exact put h stable (stable.refuseBody (h.of_session? found))
      · exact h

theorem endBody (h : v.Holds P) (x : Exchange) : (v.endBody x).Holds P := by
  simp only [Server.endBody]
  split
  · exact h
  · next body _ =>
    split
    · exact h
    · next found =>
      have taken := stable.takeBatch (h.of_session? found) body v.now
      split
      · next eq =>
        rw [eq] at taken
        exact put h stable taken
      · next eq =>
        rw [eq] at taken
        exact put h stable taken

theorem breakBody (h : v.Holds P) (x : Exchange) (reason : String) :
    (v.breakBody x reason).Holds P := by
  simp only [Server.breakBody]
  split
  · exact h
  · split
    · exact h
    · next found => exact put h stable (stable.breakBody (h.of_session? found) reason)

theorem postBody (h : v.Holds P) (x : Exchange) (body : Bytes) : (v.postBody x body).Holds P := by
  simp only [Server.postBody]
  split
  · exact endBody stable (extendBody stable h x body) _
  · exact extendBody stable h x body

theorem sendChunk (h : v.Holds P) (id : RequestId) (data : Bytes) :
    (v.sendChunk id data).2.Holds P := by
  simp only [Server.sendChunk]
  split
  · exact settle stable (extendBody stable h _ data)
  · exact h

theorem endSending (h : v.Holds P) (id : RequestId) : (v.endSending id).2.Holds P := by
  have done : (v.stopSending id).Holds P := h
  simp only [Server.endSending]
  split
  · exact settle stable (endBody stable done _)
  · exact done

theorem breakSending (h : v.Holds P) (id : RequestId) (reason : String) :
    (v.breakSending id reason).2.Holds P := by
  have done : (v.stopSending id).Holds P := h
  simp only [Server.breakSending]
  split
  · exact settle stable (breakBody stable done _ reason)
  · exact done

theorem update (h : v.Holds P) (sid : SessionId) {f : Session → Session} (hf : ∀ s, P s → P (f s)) :
    (v.update sid f).Holds P :=
  Engine.Holds.update stable h sid hf

theorem abandon (h : v.Holds P) (id : RequestId) : (v.abandon id).2.Holds P := by
  simp only [Server.abandon]
  split
  · exact h
  · split
    · exact h
    · next sid poll _ _ =>
      exact settle stable (update stable h sid fun s hs => stable (.setPollClient poll .gone) rfl hs)

theorem takeMessage (h : v.Holds P) (number : Nat) (m : Message) :
    (v.takeMessage number m).Holds P := by
  simp only [Server.takeMessage]
  split
  · exact h
  · split
    · exact h
    · next found =>
      exact put h stable (stable.hear (h.of_session? found) _ _ _ v.now)

theorem sendOnSocket (h : v.Holds P) (number : Nat) (m : Message) :
    (v.sendOnSocket number m).Holds P :=
  settle stable (takeMessage stable h number m)

theorem loseSocket (h : v.Holds P) (number : Nat) : (v.loseSocket number).Holds P :=
  settle stable (takeMessage stable h number .failure)

theorem closeAll (h : v.Holds P) (reason : CloseReason) : (v.closeAll reason).Holds P :=
  settle stable (Engine.Holds.closeAll stable h reason)

theorem beginShutdown (h : v.Holds P) : v.beginShutdown.2.Holds P := by
  simp only [Server.beginShutdown]
  split
  · exact h
  · exact Engine.Holds.closeAll stable h .serverShutdown

theorem drain (h : v.Holds P) (left : Nat) : (v.drain left).2.Holds P := by
  fun_induction Server.drain v left with
  | case1 => exact h
  | case2 v left => exact elapse stable (settle stable h) left
  | case3 v left _ _ ih => exact ih (elapse stable (settle stable h) drainStep)

theorem shutDown (h : v.Holds P) (timeout : Nat) (tasks : List Nat) :
    (v.shutDown timeout tasks).2.Holds P := by
  have drained := drain stable (beginShutdown stable h) timeout
  simp only [Server.shutDown]
  generalize (if v.listening then 0 :: tasks else tasks) = tasks
  split
  · next eq =>
    rw [eq] at drained
    exact settle stable drained
  · next eq =>
    rw [eq] at drained
    split
    · exact settle stable drained
    · split
      · exact advance stable (settle stable drained) _
      · exact advance stable (settle stable drained) _

end

end Holds

end Duplex.Server
