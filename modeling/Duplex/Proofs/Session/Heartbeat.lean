import Duplex.Proofs.Session.Ending
import Duplex.Proofs.Session.Joining
import Duplex.Proofs.Session.Marks
import Duplex.Session.Watch

-- When the client was last heard, and what the watch makes of it at one instant.

namespace Duplex

namespace Session

namespace Op

-- An operation that takes place at this instant.
def stamped (now : Nat) : Op → Op
  | receive p _ => receive p now
  | heartbeat _ => heartbeat now
  | op => op

-- Whether an operation shows that the client is alive.
def beats : Op → Bool
  | receive p _ => p.kind = .ping ∨ p.kind = .pong
  | heartbeat _ => true
  | _ => false

end Op

theorem Op.hears?_stamped (op : Op) (now : Nat) :
    (op.stamped now).hears? = if op.beats then some now else none := by
  cases op with
  | receive p => simp only [stamped, hears?, beats, decide_eq_true_eq]
  | _ => rfl

-- Nothing but a ping or a pong moves the instant at which the client was last heard.
theorem lastHeartbeat_perform (s : Session) (op : Op) (now : Nat) :
    (s.perform (op.stamped now)).lastHeartbeat = if op.beats then now else s.lastHeartbeat := by
  have noted := congrArg Prod.fst (s.marks_perform (op.stamped now))
  rw [Op.hears?_stamped] at noted
  refine noted.trans ?_
  cases op.beats <;> rfl

-- Nothing that matters to a watch has changed.
structure Calm (s s' : Session) : Prop where
  lastHeartbeat : s'.lastHeartbeat = s.lastHeartbeat
  state : s'.state = s.state
  events : s'.events = s.events
  config : s'.config = s.config

namespace Calm

variable {s s' : Session}

theorem isLive (c : Calm s s') : s'.isLive = s.isLive :=
  congrArg ReadyState.isLive c.state

theorem deadline (c : Calm s s') : s'.deadline = s.deadline := by
  rw [Session.deadline, Session.deadline, c.lastHeartbeat, c.config]

theorem isOverdue (c : Calm s s') (now : Nat) : s'.isOverdue now = s.isOverdue now := by
  rw [Session.isOverdue, Session.isOverdue, c.deadline]

theorem ping (s : Session) : Calm s s.ping := by
  have eq : s.ping = (s.send .ping).toOption.getD s := by
    simp only [Session.ping]
    cases s.send .ping <;> rfl
  have said := Says.send s .ping
  rw [← eq] at said
  refine ⟨eq ▸ congrArg Prod.fst (s.marks_send .ping), said.state, by simpa using said.events, ?_⟩
  have same := (send_changes s .ping).identity
  rw [← eq] at same
  exact congrArg (·.2.2) same

end Calm

theorem accepts_ping {s : Session} (live : s.isLive) : s.accepts .ping := by
  rw [accepts_eq, live]
  cases s.transport.kind <;> rfl

-- A session that is given up tells of the silence, and closes for it.

end Session

namespace Watch

open Session (Calm)

variable {w w' : Watch} {s s' : Session} {now : Nat}

theorem run_of_cancelled (cancelled : s.cancelled) : w.run s now = (none, s) := by
  simp [run, cancelled]

theorem run_of_working (working : s.cancelled = false) :
    w.run s now = (w.ping s now).1.check (w.ping s now).2 now := by
  simp [run, working]

theorem nextPing_ping (w : Watch) (s : Session) (now : Nat) :
    (w.ping s now).1.nextPing =
      if w.pingsAt s now then w.nextPing + interval s else w.nextPing := by
  simp only [ping]
  split <;> rfl

-- A watch that goes on has its next ping before it.
theorem nextPing_run (goes : w.run s now = (some w', s')) :
    s.cancelled = false ∧
      w'.nextPing = if w.pingsAt s now then w.nextPing + interval s else w.nextPing := by
  cases cancelled : s.cancelled with
  | true => simp [run_of_cancelled cancelled] at goes
  | false =>
    rw [run_of_working cancelled, check] at goes
    refine ⟨rfl, ?_⟩
    rw [← nextPing_ping]
    split at goes
    · exact congrArg nextPing (Option.some.inj (congrArg Prod.fst goes)).symm
    · split at goes
      · cases congrArg Prod.fst goes
      · rw [← Option.some.inj (congrArg Prod.fst goes)]

end Watch

end Duplex
