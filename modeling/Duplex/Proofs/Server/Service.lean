import Duplex.Proofs.Server.Balance
import Duplex.Proofs.Session.Heartbeat

-- An engine with the tasks that work for it: every session is supervised, and one day all of them
-- are shut down. The tasks take their steps in any order, between the steps of whoever uses a
-- session.

namespace Duplex

-- What the supervisor of a session does next. When its watch is over it may have to tell of the
-- silence and to close the session, and it takes the session out of the registry.
inductive Duty where
  | watching (w : Watch)
  | reporting
  | closing
  | leaving
  | finished
  deriving DecidableEq, Repr

-- What a supervisor goes on for: while it watches a ping may be due, it may look at the deadline, or
-- it may notice that it has to stop. After that it goes on by itself.
inductive Duty.Cue where
  | ping | look | notice | go
  deriving DecidableEq, Repr

-- The next duty, and what becomes of the session.
def Duty.follow (s : Session) (now : Nat) : Duty → Duty.Cue → Duty × Session
  | watching w, .ping =>
    let (w, s) := w.ping s now
    (watching w, s)
  | watching w, .look =>
    match (w.check s now).1 with
    | some w => (watching w, s)
    | none => (reporting, s)
  | watching w, .notice => if s.cancelled then (leaving, s) else (watching w, s)
  | reporting, .go => (closing, s.report .heartbeatTimeout)
  | closing, .go => (leaving, s.close .pingTimeout)
  | leaving, .go => (finished, s)
  | d, _ => (d, s)

namespace Engine

-- A step of the supervisor of a session.
def attend (e : Engine) (sid : SessionId) (d : Duty) (now : Nat) (cue : Duty.Cue) : Duty × Engine :=
  match e.session? sid with
  | none => (d, e)
  | some s =>
    let (next, s) := d.follow s now cue
    (next, if d = .leaving ∧ cue = .go then (e.put s).unregister sid else e.put s)

def attendAll (e : Engine) (sid : SessionId) (d : Duty) (now : Nat) (cues : List Duty.Cue) :
    Duty × Engine :=
  cues.foldl (fun x cue => x.2.attend sid x.1 now cue) (d, e)

end Engine

structure Supervisor where
  sid : SessionId
  duty : Duty
  deriving DecidableEq, Repr

-- How far a shutdown has come. It counts the sessions, closes one by one those that it finds
-- registered then, and is done.
inductive Shutdown where
  | ahead
  | counted (sessions : Nat)
  | closing (sessions : Nat) (left : List SessionId)
  | done (sessions : Nat)
  deriving DecidableEq, Repr

structure Service where
  engine : Engine
  -- In the order of their sessions.
  supervisors : List Supervisor := []
  shutdown : Shutdown := .ahead

namespace Service

-- A handshake opens a session, on a websocket if there is a writer for it. Anyone may operate on any
-- session at any time. The other steps are those of the supervisors, and of the shutdown.
inductive Act where
  | handshake (revision : Revision) (writer? : Option Peer) (now : Nat)
  | operate (sid : SessionId) (op : Session.Op)
  | attend (k : Nat) (now : Nat) (cue : Duty.Cue)
  | shutDown

-- Whether a step opens a session.
def Act.opens : Act → Bool
  | handshake .. => true
  | operate .. | attend .. | shutDown => false

-- What wakes a supervisor in a step.
def Act.cue? (k : Nat) : Act → Option Duty.Cue
  | attend k' _ cue => if k' = k then some cue else none
  | handshake .. | operate .. | shutDown => none

-- An engine that was just built.
def idle (config : Configuration) (idOf : Nat → SessionId) : Service where
  engine := { config, idOf }

section

variable (v : Service)

-- A new session gets a supervisor.
def supervise (sid : SessionId) (now : Nat) : Service :=
  match v.engine.session? sid with
  | none => v
  | some s =>
    { v with supervisors := v.supervisors ++ [{ sid, duty := .watching (.ofSession s now) }] }

def handshake (revision : Revision) (writer? : Option Peer) (now : Nat) : Service :=
  let (id, e) := v.engine.newTransport
  let (sid, engine) := e.openSession revision (e.origin revision id writer? now).transport now
  { v with engine }.supervise sid now

def attend (k : Nat) (now : Nat) (cue : Duty.Cue) : Service :=
  match v.supervisors[k]? with
  | none => v
  | some u =>
    let (duty, engine) := v.engine.attend u.sid u.duty now cue
    { v with engine, supervisors := v.supervisors.set k { u with duty } }

-- The next step of the shutdown.
def shutDown : Service :=
  match v.shutdown with
  | .ahead => { v with shutdown := .counted v.engine.registry.length }
  | .counted n => { v with shutdown := .closing n v.engine.registry }
  | .closing n (sid :: left) =>
    { v with
      engine := v.engine.update sid (·.close .serverShutdown)
      shutdown := .closing n left }
  | .closing n [] => { v with shutdown := .done n }
  | .done _ => v

def perform : Act → Service
  | .handshake revision writer? now => v.handshake revision writer? now
  | .operate sid op => { v with engine := v.engine.update sid (·.perform op) }
  | .attend k now cue => v.attend k now cue
  | .shutDown => v.shutDown

def run (acts : List Act) : Service :=
  acts.foldl perform v

end

@[simp]
theorem run_nil (v : Service) : v.run [] = v := rfl

@[simp]
theorem run_cons (v : Service) (a : Act) (acts : List Act) :
    v.run (a :: acts) = (v.perform a).run acts := rfl

theorem run_append (v : Service) (acts more : List Act) :
    v.run (acts ++ more) = (v.run acts).run more :=
  List.foldl_append

@[simp]
theorem engine_supervise (v : Service) (sid : SessionId) (now : Nat) :
    (v.supervise sid now).engine = v.engine := by
  simp only [supervise]
  split <;> rfl

end Service

-- What a session that closes still had to say it says first.

namespace Session

def having (told : List Signal) (s : Session) : Session :=
  { s with signals := told ++ s.signals }

section

variable (told : List Signal) (s : Session)

theorem having_announce (e : Event) : (s.having told).announce e = (s.announce e).having told := by
  simp [having, announce]

theorem having_meter (m : Meter) : (s.having told).meter m = (s.meter m).having told := by
  simp [having, meter]

theorem having_enter (state : ReadyState) :
    (s.having told).enter state = (s.enter state).having told := by
  have kept : (s.having told).state = s.state := rfl
  simp only [enter, kept]
  split
  · rfl
  · exact having_announce told { s with state } _

theorem having_dropPending : (s.having told).dropPending = s.dropPending.having told := by
  simp only [dropPending]
  cases pending : s.pending <;> simp [having, pending, handOver]

theorem having_shut : (s.having told).shut = s.shut.having told := by
  let emptied := { s.enter .closing with buffer := [] }
  let dropped := emptied.dropPending
  have closing : { (s.having told).enter .closing with buffer := [] }.dropPending =
      dropped.having told := by
    rw [having_enter]
    exact having_dropPending told emptied
  simp only [shut]
  rw [closing]
  exact having_enter told (dropped.withTransport dropped.transport.close) .closed

theorem having_close (reason : CloseReason) :
    (s.having told).close reason = (s.close reason).having told := by
  have live : (s.having told).isLive = s.isLive := rfl
  simp only [close, live]
  split
  · rfl
  · rw [having_shut, ← having_announce, ← having_meter]
    rfl

theorem having_giveUp : (s.having told).giveUp = s.giveUp.having told := by
  rw [giveUp, report, having_announce, having_close]
  rfl

theorem having_of_quiet (quiet : s.signals = []) :
    s.having told = { s with signals := told } := by
  rw [having, quiet, List.append_nil]

end

end Session

namespace Watch

theorem id_ping (w : Watch) (s : Session) (now : Nat) : (w.ping s now).2.id = s.id := by
  simp only [ping]
  split
  · exact (Session.stable_id s.id).ping rfl
  · rfl

-- A look at the deadline goes on or gives the session up, whatever there is still to say.
theorem check_cases (w : Watch) (s : Session) (now : Nat) :
    (∃ w', ∀ told, w.check (s.having told) now = (some w', s.having told)) ∨
      ∀ told, w.check (s.having told) now = (none, (s.having told).giveUp) := by
  by_cases asleep : now < w.wake
  · exact .inl ⟨w, fun told => by simp only [check, asleep, ↓reduceIte]⟩
  · have same (told : List Signal) : (s.having told).isOverdue now = s.isOverdue now := rfl
    cases overdue : s.isOverdue now with
    | true =>
      refine .inr fun told => ?_
      simp only [check, asleep, same, overdue, ↓reduceIte]
    | false =>
      refine .inl ⟨{ w with wake := s.deadline }, fun told => ?_⟩
      simp only [check, asleep, same, overdue, Bool.false_eq_true, ↓reduceIte]
      rfl

end Watch

-- Whoever is left alone does what a server does in one go.

namespace Engine

-- All that wakes a supervisor at one instant, and what it has to do after that.
def turn : List Duty.Cue :=
  [.notice, .ping, .look, .go, .go, .go]

section

variable {P : Session → Prop} {e : Engine} {d : Duty} {sid : SessionId} {s : Session} {now : Nat}

-- What is taken back last counts, and all that was said in between is passed on.
theorem put_put (e : Engine) {s s' : Session} (same : s'.id = s.id) :
    (e.put s).put s' = e.put (s'.having s.signals) := by
  have publishes (signals : List Signal) (e : Engine) (sessions : List Session) :
      { signals.foldl (fun e signal => e.publish s.id signal) e with sessions } =
        signals.foldl (fun e signal => e.publish s.id signal) { e with sessions } := by
    induction signals generalizing e with
    | nil => rfl
    | cons signal signals ih =>
      rw [List.foldl_cons, ih, List.foldl_cons]
      cases signal <;> rfl
  have twice : ((e.put s).sessions.map fun old =>
      if old.id = s.id then { s' with signals := [] } else old) =
        e.sessions.map fun old => if old.id = s.id then { s' with signals := [] } else old := by
    rw [sessions_put, List.map_map]
    refine List.map_congr_left fun old _ => ?_
    simp only [Function.comp]
    split
    · exact if_pos rfl
    · rfl
  have told : (s'.having s.signals).signals = s.signals ++ s'.signals := rfl
  rw [put_of_id _ same, twice, put_of_id e (s := s'.having s.signals) same, told, List.foldl_append,
    put, publishes]
  rfl

theorem Holds.put_any (h : e.Holds P) (s : Session) : (e.put s).Holds fun _ => True :=
  (h.imp fun _ _ => trivial).put (fun _ _ _ _ => trivial) trivial

theorem attend_of_found (found : e.session? sid = some s) (cue : Duty.Cue) :
    e.attend sid d now cue =
      ((d.follow s now cue).1,
        if d = .leaving ∧ cue = .go then (e.put (d.follow s now cue).2).unregister sid
        else e.put (d.follow s now cue).2) := by
  simp only [attend, found]

-- A supervisor that has nothing to do leaves everything as it is.
theorem attend_of_steady (h : e.Holds P) (found : e.session? sid = some s) (quiet : s.signals = [])
    {cue : Duty.Cue} (steady : d.follow s now cue = (d, s)) (stays : ¬(d = .leaving ∧ cue = .go)) :
    e.attend sid d now cue = (d, e) := by
  rw [attend_of_found found, steady, if_neg stays, h.put_self found quiet]

-- A supervisor that notices the end of its session takes it out of the registry.
theorem attendAll_turn_of_cancelled {w : Watch} (h : e.Holds P)
    (found : e.session? w.sid = some s) (quiet : s.signals = []) (cancelled : s.cancelled) :
    e.attendAll w.sid (.watching w) now turn = (.finished, e.unregister w.sid) := by
  have gone : (e.unregister w.sid).Holds P := h.of_eq rfl rfl
  have found' : (e.unregister w.sid).session? w.sid = some s := found
  have notice : e.attend w.sid (.watching w) now .notice = (.leaving, e) := by
    rw [attend_of_found found, if_neg (by simp)]
    simp only [Duty.follow, cancelled, ↓reduceIte, h.put_self found quiet]
  have waits (cue : Duty.Cue) (other : cue ≠ .go) : e.attend w.sid .leaving now cue = (.leaving, e) := by
    refine attend_of_steady h found quiet ?_ fun goes => other goes.2
    cases cue with
    | go => exact absurd rfl other
    | ping | look | notice => rfl
  have leaves : e.attend w.sid .leaving now .go = (.finished, e.unregister w.sid) := by
    rw [attend_of_found found, if_pos ⟨rfl, rfl⟩]
    simp only [Duty.follow, h.put_self found quiet]
  have rests : (e.unregister w.sid).attend w.sid .finished now .go =
      (.finished, e.unregister w.sid) :=
    attend_of_steady gone found' quiet rfl (by simp)
  simp only [attendAll, turn, List.foldl_cons, List.foldl_nil, notice, waits .ping (by simp),
    waits .look (by simp), leaves, rests]

-- One that gives its session up tells of the silence, closes it, and takes it out.
theorem attendAll_turn_of_reporting (h : e.Holds P) (found : e.session? sid = some s)
    (quiet : s.signals = []) :
    e.attendAll sid .reporting now [.go, .go, .go] =
      (.finished, (e.put s.giveUp).unregister sid) := by
  have id : s.id = sid := id_of_session? found
  let reported := s.report .heartbeatTimeout
  have same : { reported with signals := [] } = s := by
    rw [← quiet]
    rfl
  have kept : (e.put reported).session? sid = some { reported with signals := [] } :=
    session?_put found id
  have found' : (e.put reported).session? sid = some s := by rw [kept, same]
  have id' : (s.close .pingTimeout).id = sid := Session.stable_id sid (.close .pingTimeout) rfl id
  have closed : (e.put reported).put (s.close .pingTimeout) = e.put s.giveUp := by
    have has : s.having reported.signals = reported := by
      rw [s.having_of_quiet _ quiet]
      rfl
    rw [put_put e (id'.trans id.symm : _ = reported.id), ← s.having_close, has]
    rfl
  have left := session?_put found' id'
  rw [closed] at left
  have reports : e.attend sid .reporting now .go = (.closing, e.put reported) := by
    rw [attend_of_found found, if_neg (by simp)]
    rfl
  have closes : (e.put reported).attend sid .closing now .go = (.leaving, e.put s.giveUp) := by
    rw [attend_of_found found', if_neg (by simp)]
    simp only [Duty.follow, closed]
  have leaves : (e.put s.giveUp).attend sid .leaving now .go =
      (.finished, (e.put s.giveUp).unregister sid) := by
    rw [attend_of_found left, if_pos ⟨rfl, rfl⟩]
    simp only [Duty.follow, (h.put_any s.giveUp).put_self left rfl]
  simp only [attendAll, List.foldl_cons, List.foldl_nil, reports, closes, leaves]

-- One whose session goes on sends the ping that is due, and then looks at the deadline.
theorem attendAll_turn_of_working {w w' : Watch} {s' : Session} (h : e.Holds P)
    (found : e.session? w.sid = some s) (quiet : s.signals = []) (working : s.cancelled = false)
    (pinged : w.ping s now = (w', s'))
    (next : Duty.follow { s' with signals := [] } now (.watching w') .look =
      (d, { s' with signals := [] })) :
    e.attendAll w.sid (.watching w) now turn =
      (e.put s').attendAll w.sid d now [.go, .go, .go] := by
  have id' : s'.id = w.sid := by
    have same := w.id_ping s now
    rw [pinged] at same
    exact same.trans (id_of_session? found)
  have found' := session?_put found id'
  have unnoticed : e.attend w.sid (.watching w) now .notice = (.watching w, e) := by
    refine attend_of_steady h found quiet ?_ (by simp)
    simp only [Duty.follow, working, Bool.false_eq_true, ↓reduceIte]
  have pings : e.attend w.sid (.watching w) now .ping = (.watching w', e.put s') := by
    rw [attend_of_found found, if_neg (by simp)]
    simp only [Duty.follow, pinged]
  have looks : (e.put s').attend w.sid (.watching w') now .look = (d, e.put s') := by
    rw [attend_of_found found', if_neg (by simp), next, (h.put_any s').put_self found' rfl]
  simp only [attendAll, turn, List.foldl_cons, List.foldl_nil, unnoticed, pings, looks]

-- One that goes on through a whole instant does what its watch does.
theorem attendAll_turn {w : Watch} (h : e.Holds P) (found : e.session? w.sid = some s)
    (quiet : s.signals = []) :
    e.attendAll w.sid (.watching w) now turn =
      (((e.runWatch w now).1.map .watching).getD .finished, (e.runWatch w now).2) := by
  have id : s.id = w.sid := id_of_session? found
  cases cancelled : s.cancelled with
  | true =>
    have ran : e.runWatch w now = (none, e.unregister w.sid) := by
      simp only [runWatch, found, Watch.run_of_cancelled cancelled, h.put_self found quiet, id]
    rw [attendAll_turn_of_cancelled h found quiet cancelled, ran]
    rfl
  | false =>
    obtain ⟨w', s', pinged⟩ : ∃ w' s', w.ping s now = (w', s') := ⟨_, _, rfl⟩
    have runs : w.run s now = w'.check s' now := by rw [Watch.run_of_working cancelled, pinged]
    have id' : s'.id = w.sid := by
      have same := w.id_ping s now
      rw [pinged] at same
      exact same.trans id
    let heard : Session := { s' with signals := [] }
    have kept : heard.having s'.signals = s' := heard.having_of_quiet _ rfl
    have found' : (e.put s').session? w.sid = some heard := session?_put found id'
    obtain ⟨w₁, goes⟩ | ends := w'.check_cases heard now
    · have looks : w'.check heard now = (some w₁, heard) := goes []
      have checks : w'.check s' now = (some w₁, s') := kept ▸ goes s'.signals
      have next : Duty.follow heard now (.watching w') .look = (.watching w₁, heard) := by
        simp only [Duty.follow, looks]
      have waits : (e.put s').attend w.sid (.watching w₁) now .go = (.watching w₁, e.put s') :=
        attend_of_steady (h.put_any s') found' rfl rfl (by simp)
      have ran : e.runWatch w now = (some w₁, e.put s') := by
        simp only [runWatch, found, runs, checks]
      rw [attendAll_turn_of_working h found quiet cancelled pinged next, ran]
      simp only [attendAll, List.foldl_cons, List.foldl_nil, waits]
      rfl
    · have looks : w'.check heard now = (none, heard.giveUp) := ends []
      have checks : w'.check s' now = (none, s'.giveUp) := kept ▸ ends s'.signals
      have next : Duty.follow heard now (.watching w') .look = (.reporting, heard) := by
        simp only [Duty.follow, looks]
      have is : s'.giveUp.id = w.sid := (Session.stable_id w.sid).giveUp id'
      have ran : e.runWatch w now = (none, (e.put s'.giveUp).unregister w.sid) := by
        simp only [runWatch, found, runs, checks, is]
      have twice : (e.put s').put heard.giveUp = e.put s'.giveUp := by
        have same : heard.giveUp.id = s'.id := (Session.stable_id s'.id).giveUp (s := heard) rfl
        rw [put_put e same, ← heard.having_giveUp, kept]
      rw [attendAll_turn_of_working h found quiet cancelled pinged next,
        attendAll_turn_of_reporting (h.put_any s') found' rfl, ran, twice]
      rfl

end

end Engine

namespace Service

variable {v : Service} {server : Server}

theorem engine_handshake_polling (v : Service) (revision : Revision) (now : Nat) :
    (v.handshake revision none now).engine = (v.engine.openPolling revision now).2 :=
  engine_supervise _ _ _

theorem engine_handshake_websocket (same : v.engine = server.engine) (revision : Revision) :
    (v.handshake revision (some .present) server.now).engine =
      (server.openWebsocket revision).engine := by
  have adopted (v : Server) (sid : SessionId) : (v.adopt sid).engine = v.engine := by
    simp only [Server.adopt]
    split <;> rfl
  refine (engine_supervise _ _ _).trans (Eq.trans ?_ (adopted _ _).symm)
  rw [same]
  rfl

-- A shutdown counts, takes what is registered, closes it, and says that it is done.
theorem run_shutDown (same : v.engine = server.engine) (ahead : v.shutdown = .ahead)
    (running : server.stopping = false) :
    v.run (List.replicate (v.engine.registry.length + 3) .shutDown) =
      { v with
        engine := server.beginShutdown.2.engine
        shutdown := .done server.beginShutdown.1 } := by
  have closes (n : Nat) (left : List SessionId) (e : Engine) :
      { v with engine := e, shutdown := .closing n left }.run
          (List.replicate (left.length + 1) .shutDown) =
        { v with
          engine := left.foldl (fun e sid => e.update sid (·.close .serverShutdown)) e
          shutdown := .done n } := by
    induction left generalizing e with
    | nil => rfl
    | cons sid left ih => exact ih _
  have begins : server.beginShutdown =
      (server.engine.registry.length,
        { server with
          engine := server.engine.closeAll .serverShutdown
          stopping := true
          listening := false }) := by
    simp [Server.beginShutdown, running]
  have counted : v.shutDown.shutDown =
      { v with shutdown := .closing v.engine.registry.length v.engine.registry } := by
    simp [shutDown, ahead]
  rw [begins, ← same]
  change v.shutDown.shutDown.run (List.replicate (v.engine.registry.length + 1) .shutDown) = _
  rw [counted]
  exact closes _ _ _

theorem run_attend {k : Nat} {u : Supervisor} (own : v.supervisors[k]? = some u) (now : Nat)
    (cues : List Duty.Cue) :
    v.run (cues.map (.attend k now)) =
      { v with
        engine := (v.engine.attendAll u.sid u.duty now cues).2
        supervisors := v.supervisors.set k
          { u with duty := (v.engine.attendAll u.sid u.duty now cues).1 } } := by
  obtain ⟨lt, is⟩ := List.getElem?_eq_some_iff.mp own
  induction cues generalizing v u with
  | nil =>
    have same : v.supervisors.set k u = v.supervisors := by rw [← is, List.set_getElem_self]
    exact congrArg (fun supervisors => { v with supervisors }) same.symm
  | cons cue cues ih =>
    let next := v.engine.attend u.sid u.duty now cue
    have attended : v.attend k now cue =
        { v with engine := next.2, supervisors := v.supervisors.set k { u with duty := next.1 } } := by
      simp only [attend, own]
      rfl
    have own' : (v.attend k now cue).supervisors[k]? = some { u with duty := next.1 } := by
      rw [attended]
      exact List.getElem?_set_self lt
    have lt' : k < (v.attend k now cue).supervisors.length := (List.getElem?_eq_some_iff.mp own').1
    refine (ih own' lt' (List.getElem?_eq_some_iff.mp own').2).trans ?_
    rw [attended]
    simp only [List.set_set]
    rfl

-- A supervisor that goes on through a whole instant does what its watch does.
theorem run_turn {P : Session → Prop} {s : Session} {w : Watch} {k : Nat} (h : v.engine.Holds P)
    (own : v.supervisors[k]? = some { sid := w.sid, duty := .watching w })
    (found : v.engine.session? w.sid = some s) (quiet : s.signals = []) (now : Nat) :
    v.run (Engine.turn.map (.attend k now)) =
      { v with
        engine := (v.engine.runWatch w now).2
        supervisors := v.supervisors.set k
          { sid := w.sid
            duty := ((v.engine.runWatch w now).1.map .watching).getD .finished } } := by
  rw [run_attend own, Engine.attendAll_turn h found quiet]

end Service

end Duplex
