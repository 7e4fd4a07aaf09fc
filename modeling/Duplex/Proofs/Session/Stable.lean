import Duplex.Echo
import Duplex.Proofs.Session.Run
import Duplex.Session.Socket
import Duplex.Session.Watch

-- Facts about a session that last whatever is done to it. What clients send, what the application
-- does and what happens as time passes are all operations.

namespace Duplex.Session

-- What every operation preserves that lets no websocket in.
def Stable (P : Session → Prop) : Prop :=
  ∀ ⦃s : Session⦄ (op : Op), op.joining? = none → P s → P (s.perform op)

namespace Stable

variable {P : Session → Prop} {s : Session}

theorem send {s' : Session} {p : Packet} (stable : Stable P) (sent : s.send p = .ok s') (h : P s) :
    P s' := by
  simpa [perform, sent, Except.toOption] using stable (.send p) rfl h

theorem registerPoll {s' : Session} {poll : PollId} (stable : Stable P)
    (registered : s.registerPoll = .ok (poll, s')) (h : P s) : P s' := by
  simpa [perform, registered, Except.toOption] using stable .registerPoll rfl h

theorem abortUpgrade (stable : Stable P) (h : P s) (tid : TransportId) (f : Fault) :
    P (s.abortUpgrade tid f) :=
  stable (.abortUpgrade tid f) rfl h

theorem receiveAll (stable : Stable P) (h : P s) (ps : List Packet) (now : Nat) :
    P (s.receiveAll ps now) := by
  induction ps generalizing s with
  | nil => exact h
  | cons p ps ih => exact ih (stable (.receive p now) rfl h)

theorem takeBatch (stable : Stable P) (h : P s) (body : Bytes) (now : Nat) :
    P (s.takeBatch body now).2 := by
  simp only [Session.takeBatch]
  split
  · exact stable.receiveAll (stable .resetDecodeErrors rfl h) _ now
  · exact stable (.recordDecodeError _) rfl h

theorem breakBody (stable : Stable P) (h : P s) (reason : String) : P (s.breakBody reason).2 :=
  stable (.close .transportError) rfl (stable (.report (.brokenBody reason)) rfl h)

theorem refuseBody (stable : Stable P) (h : P s) : P s.refuseBody.2 :=
  stable (.report _) rfl h

theorem takeProbe (stable : Stable P) (h : P s) (tid : TransportId) (f : Frame) :
    P (s.takeProbe tid f).2 := by
  simp only [Session.takeProbe]
  split
  · exact stable.abortUpgrade h tid _
  · next p _ =>
    have probed : P (s.probe tid p).2 := stable (.probe tid p) rfl h
    split
    · next eq =>
      rw [eq] at probed
      exact stable.abortUpgrade probed tid _
    · next eq =>
      rw [eq] at probed
      exact probed
    · next eq =>
      rw [eq] at probed
      exact probed

theorem takeFrame (stable : Stable P) (h : P s) (f : Frame) (now : Nat) : P (s.takeFrame f now) := by
  simp only [Session.takeFrame]
  split
  · exact stable (.receive _ now) rfl (stable .resetDecodeErrors rfl h)
  · exact stable (.recordDecodeError _) rfl h

theorem hear (stable : Stable P) (h : P s) (tid : TransportId) (role : Role) (m : Message)
    (now : Nat) : P (s.hear tid role m now).2 := by
  simp only [Session.hear]
  split
  · exact h
  · exact h
  · exact stable.takeProbe h tid _
  · exact stable.abortUpgrade h tid _
  · exact stable.abortUpgrade h tid _
  · exact stable.takeFrame h _ now
  · exact stable (.transportClosed tid .transportClose) rfl h
  · exact stable (.transportClosed tid .transportError) rfl h

theorem ping (stable : Stable P) (h : P s) : P s.ping := by
  simp only [Session.ping]
  split
  · next sent => exact stable.send sent h
  · exact h

theorem giveUp (stable : Stable P) (h : P s) : P s.giveUp :=
  stable (.close .pingTimeout) rfl (stable (.report .heartbeatTimeout) rfl h)

theorem watch (stable : Stable P) (h : P s) (w : Watch) (now : Nat) : P (w.run s now).2 := by
  have pinged : P (w.ping s now).2 := by
    simp only [Watch.ping]
    split
    · exact stable.ping h
    · exact h
  simp only [Watch.run, Watch.check]
  split
  · exact h
  · split
    · exact pinged
    · split
      · exact stable.giveUp pinged
      · exact pinged

theorem offer (stable : Stable P) (h : P s) (content : Payload) : P (Echo.offer s content) := by
  simp only [Echo.offer]
  split
  · next sent => exact stable.send sent h
  · exact h

theorem echo (stable : Stable P) (h : P s) (progress : Echo.Progress) :
    P (Echo.run progress s).2 := by
  simp only [Echo.run]
  induction Echo.due progress s generalizing s with
  | nil => exact h
  | cons content due ih => exact ih (stable.offer h content)

end Stable

end Duplex.Session
