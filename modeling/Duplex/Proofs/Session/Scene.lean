import Duplex.Proofs.Session.Valid
import Duplex.Session.Socket
import Duplex.Session.Upload

-- A session among those who work for it: requests that post a body, and websockets that want to
-- join it or carry it. Each of them waits for its client, then calls the session, and between two
-- calls of one anything can be done by others.

namespace Duplex.Session

-- How far one who works for a session has come.
inductive Stage where
  -- The body of a request that was let in is still to come.
  | reading
  | joining (tid : TransportId)
  -- The probe of this websocket failed.
  | leaving (tid : TransportId) (f : Fault)
  | carrying (tid : TransportId)
  | finished
  deriving DecidableEq

-- What happens to one who works for a session.
inductive Cue where
  -- The body is there as a whole, or it grew too large, or its client broke off.
  | body (bytes : Bytes)
  | tooLarge
  | broken (reason : String)
  | message (m : Message)
  -- A websocket did not join in time.
  | timeout
  | sessionOver
  -- Nothing but that it goes on.
  | next (now : Nat)

-- Packets that were decoded together are handled one by one.
structure Task where
  stage : Stage
  left : List Packet := []
  deriving DecidableEq

namespace Op

-- What only those who work for a session do: they hand packets over, bring websockets along, and
-- close a session for the sake of its transport.
def isApart : Op → Bool
  | receive _ _ | beginUpgrade _ _ _ | probe _ _ | abortUpgrade _ _ | transportClosed _ _
  | close .transportClose | close .transportError => false
  | _ => true

-- The packet that an operation hands over.
def received? : Op → Option Packet
  | receive p _ => some p
  | _ => none

end Op

-- The calls that one who works for a session makes next, and how far it then has come. Most of what
-- can happen does not concern it.
def Stage.act (s : Session) : Stage → Cue → Option (List Op × Task)
  | reading, .body bytes =>
    match Batch.decodeBytes bytes s.revision with
    | .ok left => some ([.resetDecodeErrors], { stage := finished, left })
    | .error e => some ([.recordDecodeError e], { stage := finished })
  | reading, .tooLarge => some ([.report s.refuseBody.1], { stage := finished })
  | reading, .broken reason =>
    some ([.report (.brokenBody reason), .close .transportError], { stage := finished })
  | joining tid, .message (.frame f) =>
    match Frame.decode f s.revision with
    | .error e => some ([.abortUpgrade tid (.decode e)], { stage := finished })
    | .ok p =>
      match (s.probe tid p).1 with
      | .error fault => some ([.probe tid p], { stage := leaving tid fault })
      | .ok .probed => some ([.probe tid p], { stage := joining tid })
      | .ok .upgraded => some ([.probe tid p], { stage := carrying tid })
  | joining tid, .message .close | joining tid, .message .failure =>
    some ([.abortUpgrade tid .upgradeCut], { stage := finished })
  | joining tid, .timeout =>
    some ([.abortUpgrade tid (.upgradeTimeout s.config.upgradeTimeout.toNat)], { stage := finished })
  | joining _, .sessionOver => if s.cancelled then some ([], { stage := finished }) else none
  | leaving tid f, .next _ => some ([.abortUpgrade tid f], { stage := finished })
  | carrying tid, .message (.frame f) =>
    match Frame.decode f s.revision with
    | .ok p => some ([.resetDecodeErrors], { stage := carrying tid, left := [p] })
    | .error e => some ([.recordDecodeError e], { stage := carrying tid })
  | carrying tid, .message .close => some ([.transportClosed tid .transportClose], { stage := finished })
  | carrying tid, .message .failure =>
    some ([.transportClosed tid .transportError], { stage := finished })
  | carrying tid, .sessionOver =>
    if s.cancelled then some ([.transportClosed tid .transportClose], { stage := finished }) else none
  | _, _ => none

def Task.act (s : Session) (t : Task) (c : Cue) : Option (List Op × Task) :=
  match t.left, c with
  | [], c => t.stage.act s c
  | p :: left, .next now => some ([.receive p now], { t with left })
  | _ :: _, _ => none

structure Scene where
  session : Session
  tasks : List Task := []

-- What happens next to a session and to those who work for it.
inductive Act where
  -- A request with a body comes in.
  | post
  -- A websocket comes that wants to join.
  | connect (tid : TransportId) (revision : Revision) (writer : Peer)
  | cue (k : Nat) (c : Cue)
  | other (op : Op) (apart : op.isApart)

-- A websocket that opened a session carries it.
def Origin.scene (o : Origin) : Scene where
  session := o.session
  tasks := if o.writer?.isSome then [{ stage := .carrying o.tid }] else []

namespace Scene

-- What becomes of a task, if it is there and concerned.
def taskAct? (σ : Scene) (k : Nat) (c : Cue) : Option (List Op × Task) :=
  σ.tasks[k]?.bind (·.act σ.session c)

def calls (σ : Scene) : Act → List Op
  | .post => []
  | .connect tid revision writer => [.beginUpgrade tid revision writer]
  | .cue k c => ((σ.taskAct? k c).map (·.1)).getD []
  | .other op _ => [op]

-- Only those who are let in work for the session.
def tasksAfter (σ : Scene) : Act → List Task
  | .post => if σ.session.admitUpload.isOk then σ.tasks ++ [{ stage := .reading }] else σ.tasks
  | .connect tid _ _ =>
    if σ.session.checkUpgrade.isOk then σ.tasks ++ [{ stage := .joining tid }] else σ.tasks
  | .cue k c =>
    match σ.taskAct? k c with
    | some (_, t) => σ.tasks.set k t
    | none => σ.tasks
  | .other _ _ => σ.tasks

def perform (σ : Scene) (a : Act) : Scene where
  session := σ.session.run (σ.calls a)
  tasks := σ.tasksAfter a

def run (σ : Scene) (acts : List Act) : Scene :=
  acts.foldl perform σ

-- All calls of a run.
def ops (σ : Scene) : List Act → List Op
  | [] => []
  | a :: acts => σ.calls a ++ (σ.perform a).ops acts

section

variable (σ : Scene)

@[simp]
theorem run_nil : σ.run [] = σ := rfl

@[simp]
theorem run_cons (a : Act) (acts : List Act) : σ.run (a :: acts) = (σ.perform a).run acts := rfl

theorem run_append (acts more : List Act) : σ.run (acts ++ more) = (σ.run acts).run more :=
  List.foldl_append

-- A session among others is in no state that its own operations do not bring it to.
theorem session_run (acts : List Act) : (σ.run acts).session = σ.session.run (σ.ops acts) := by
  induction acts generalizing σ with
  | nil => rfl
  | cons a acts ih =>
    rw [run_cons, ih, ops, Session.run_append]
    rfl

end

theorem valid_run (o : Origin) (acts : List Act) : (o.scene.run acts).session.Valid := by
  rw [session_run]
  exact Session.valid_run o _

section

variable {σ : Scene} {k : Nat} {c : Cue}

theorem valid_perform (v : σ.session.Valid) (a : Act) : (σ.perform a).session.Valid :=
  (run_changes σ.session (σ.calls a)).induction v fun c v => v.change c

theorem taskAct?_of_getElem? {t : Task} (there : σ.tasks[k]? = some t) :
    σ.taskAct? k c = t.act σ.session c := by
  simp [taskAct?, there]

theorem exists_of_taskAct? {ops : List Op} {t' : Task} (h : σ.taskAct? k c = some (ops, t')) :
    ∃ t, σ.tasks[k]? = some t ∧ t.act σ.session c = some (ops, t') :=
  Option.bind_eq_some_iff.mp h

theorem perform_cue {ops : List Op} {t' : Task} (h : σ.taskAct? k c = some (ops, t')) :
    σ.perform (.cue k c) = { session := σ.session.run ops, tasks := σ.tasks.set k t' } := by
  simp [perform, calls, tasksAfter, h]

theorem perform_cue_of_none (h : σ.taskAct? k c = none) : σ.perform (.cue k c) = σ := by
  simp [perform, calls, tasksAfter, h]

-- A task that is there goes on alone.
theorem run_cue {t t' : Task} {ops : List Op} (there : σ.tasks[k]? = some t)
    (h : t.act σ.session c = some (ops, t')) (acts : List Act) :
    σ.run (.cue k c :: acts) =
      run { session := σ.session.run ops, tasks := σ.tasks.set k t' } acts := by
  rw [run_cons, perform_cue ((taskAct?_of_getElem? there).trans h)]

theorem getElem?_set {t : Task} (there : σ.tasks[k]? = some t) (t' : Task) :
    (σ.tasks.set k t')[k]? = some t' := by
  have ⟨lt, _⟩ := List.getElem?_eq_some_iff.mp there
  exact List.getElem?_set_self lt

theorem session_run_next {stage : Stage} {left : List Packet}
    (there : σ.tasks[k]? = some { stage, left }) (now : Nat) :
    (σ.run (List.replicate left.length (.cue k (.next now)))).session =
      σ.session.receiveAll left now := by
  induction left generalizing σ with
  | nil => rfl
  | cons p left ih =>
    rw [List.length_cons, List.replicate_succ, run_cue there rfl, ih (getElem?_set there _)]
    rfl

-- Left alone, one who works for a session does what it would do in one go.

theorem session_run_body (there : σ.tasks[k]? = some { stage := .reading }) (bytes : Bytes)
    (now : Nat) :
    ∃ n, (σ.run (.cue k (.body bytes) :: List.replicate n (.cue k (.next now)))).session =
      (σ.session.takeBatch bytes now).2 := by
  cases decoded : Batch.decodeBytes bytes σ.session.revision with
  | error e =>
    have acts : Task.act σ.session { stage := .reading } (.body bytes) =
        some ([.recordDecodeError e], { stage := .finished }) := by
      simp [Task.act, Stage.act, decoded]
    refine ⟨0, ?_⟩
    rw [run_cue there acts]
    simp only [takeBatch, decoded]
    rfl
  | ok left =>
    have acts : Task.act σ.session { stage := .reading } (.body bytes) =
        some ([.resetDecodeErrors], { stage := .finished, left }) := by
      simp [Task.act, Stage.act, decoded]
    refine ⟨left.length, ?_⟩
    rw [run_cue there acts, session_run_next (getElem?_set there _)]
    simp only [takeBatch, decoded]
    rfl

theorem session_perform_broken (there : σ.tasks[k]? = some { stage := .reading })
    (reason : String) :
    (σ.perform (.cue k (.broken reason))).session = (σ.session.breakBody reason).2 := by
  rw [perform_cue ((taskAct?_of_getElem? there).trans rfl)]
  rfl

theorem session_perform_tooLarge (there : σ.tasks[k]? = some { stage := .reading }) :
    (σ.perform (.cue k .tooLarge)).session = σ.session.refuseBody.2 := by
  rw [perform_cue ((taskAct?_of_getElem? there).trans rfl)]
  rfl

theorem session_perform_timeout {tid : TransportId}
    (there : σ.tasks[k]? = some { stage := .joining tid }) :
    (σ.perform (.cue k .timeout)).session = σ.session.joinTimedOut tid := by
  rw [perform_cue ((taskAct?_of_getElem? there).trans rfl)]
  rfl

-- Once it is over there is nothing left to do.
theorem perform_finished (there : σ.tasks[k]? = some { stage := .finished }) (c : Cue) :
    σ.perform (.cue k c) = σ :=
  perform_cue_of_none ((taskAct?_of_getElem? there).trans (by cases c <;> rfl))

theorem session_run_message_joining {tid : TransportId}
    (there : σ.tasks[k]? = some { stage := .joining tid }) (m : Message) (now : Nat) :
    (σ.run [.cue k (.message m), .cue k (.next now)]).session =
      (σ.session.hear tid .joining m now).2 := by
  have done (ops : List Op) (acts : Task.act σ.session { stage := .joining tid } (.message m) =
      some (ops, { stage := .finished })) :
      (σ.run [.cue k (.message m), .cue k (.next now)]).session = σ.session.run ops := by
    rw [run_cue there acts, run_cons, perform_finished (getElem?_set there _)]
    rfl
  cases m with
  | control =>
    have idle (c : Cue) (none_ : Task.act σ.session { stage := .joining tid } c = none) :
        σ.perform (.cue k c) = σ :=
      perform_cue_of_none ((taskAct?_of_getElem? there).trans none_)
    rw [run_cons, idle _ rfl, run_cons, idle _ rfl]
    rfl
  | close | failure => exact done _ rfl
  | frame f =>
    have hears : σ.session.hear tid .joining (.frame f) now = σ.session.takeProbe tid f := rfl
    rw [hears]
    cases decoded : Frame.decode f σ.session.revision with
    | error e =>
      rw [done [.abortUpgrade tid (.decode e)] (by simp [Task.act, Stage.act, decoded])]
      simp only [takeProbe, decoded]
      rfl
    | ok p =>
      have step (stage : Stage)
          (acts : Task.act σ.session { stage := .joining tid } (.message (.frame f)) =
            some ([.probe tid p], { stage })) :=
        run_cue there acts [.cue k (.next now)]
      cases probed : σ.session.probe tid p with
      | mk outcome s =>
        have performed : σ.session.run [.probe tid p] = s := congrArg Prod.snd probed
        simp only [takeProbe, decoded, probed]
        cases outcome with
        | error fault =>
          rw [step (.leaving tid fault) (by simp [Task.act, Stage.act, decoded, probed]),
            run_cue (getElem?_set there _) rfl, performed]
          rfl
        | ok outcome =>
          cases outcome with
          | probed =>
            rw [step (.joining tid) (by simp [Task.act, Stage.act, decoded, probed]), run_cons,
              perform_cue_of_none ((taskAct?_of_getElem? (getElem?_set there _)).trans rfl)]
            exact performed
          | upgraded =>
            rw [step (.carrying tid) (by simp [Task.act, Stage.act, decoded, probed]), run_cons,
              perform_cue_of_none ((taskAct?_of_getElem? (getElem?_set there _)).trans rfl)]
            exact performed

theorem session_run_message_carrying {tid : TransportId}
    (there : σ.tasks[k]? = some { stage := .carrying tid }) (m : Message) (now : Nat) :
    (σ.run [.cue k (.message m), .cue k (.next now)]).session =
      (σ.session.hear tid .carrying m now).2 := by
  have idle {σ : Scene} {c : Cue} (there : σ.tasks[k]? = some { stage := .carrying tid })
      (none_ : Stage.act σ.session (.carrying tid) c = none) : σ.perform (.cue k c) = σ :=
    perform_cue_of_none ((taskAct?_of_getElem? there).trans none_)
  cases m with
  | control =>
    rw [run_cons, idle there rfl, run_cons, idle there rfl]
    rfl
  | close | failure =>
    rw [run_cue there rfl, run_cons, perform_finished (getElem?_set there _)]
    rfl
  | frame f =>
    have hears : (σ.session.hear tid .carrying (.frame f) now).2 = σ.session.takeFrame f now := rfl
    rw [hears]
    cases decoded : Frame.decode f σ.session.revision with
    | error e =>
      have acts : Task.act σ.session { stage := .carrying tid } (.message (.frame f)) =
          some ([.recordDecodeError e], { stage := .carrying tid }) := by
        simp [Task.act, Stage.act, decoded]
      rw [run_cue there acts, run_cons, idle (getElem?_set there _) rfl]
      simp only [takeFrame, decoded]
      rfl
    | ok p =>
      have acts : Task.act σ.session { stage := .carrying tid } (.message (.frame f)) =
          some ([.resetDecodeErrors], { stage := .carrying tid, left := [p] }) := by
        simp [Task.act, Stage.act, decoded]
      rw [run_cue there acts, run_cue (getElem?_set there _) rfl]
      simp only [takeFrame, decoded]
      rfl

end

end Scene

-- What one who works for a session can do, in all cases.
inductive Does (s : Session) : Task → Cue → List Op → Task → Prop
  | receive {stage : Stage} (p : Packet) (left : List Packet) (now : Nat) :
    Does s { stage, left := p :: left } (.next now) [.receive p now] { stage, left }
  | read {bytes : Bytes} {left : List Packet}
    (decoded : Batch.decodeBytes bytes s.revision = .ok left) :
    Does s { stage := .reading } (.body bytes) [.resetDecodeErrors] { stage := .finished, left }
  | misread {bytes : Bytes} {e : DecodeError}
    (malformed : Batch.decodeBytes bytes s.revision = .error e) :
    Does s { stage := .reading } (.body bytes) [.recordDecodeError e] { stage := .finished }
  | refuse : Does s { stage := .reading } .tooLarge [.report s.refuseBody.1] { stage := .finished }
  | lose (reason : String) :
    Does s { stage := .reading } (.broken reason)
      [.report (.brokenBody reason), .close .transportError] { stage := .finished }
  | probe {tid : TransportId} {f : Frame} {p : Packet} {stage : Stage}
    (decoded : Frame.decode f s.revision = .ok p)
    (still : stage = .joining tid ∨ (∃ fault, stage = .leaving tid fault) ∨
      (s.probe tid p).1 = .ok .upgraded ∧ stage = .carrying tid) :
    Does s { stage := .joining tid } (.message (.frame f)) [.probe tid p] { stage }
  | quit {stage : Stage} {c : Cue} (tid : TransportId) (f : Fault)
    (before : stage = .joining tid ∨ stage = .leaving tid f) :
    Does s { stage } c [.abortUpgrade tid f] { stage := .finished }
  | desert {tid : TransportId} (cancelled : s.cancelled) :
    Does s { stage := .joining tid } .sessionOver [] { stage := .finished }
  | hear {tid : TransportId} {f : Frame} {p : Packet}
    (decoded : Frame.decode f s.revision = .ok p) :
    Does s { stage := .carrying tid } (.message (.frame f)) [.resetDecodeErrors]
      { stage := .carrying tid, left := [p] }
  | mishear {tid : TransportId} {f : Frame} {e : DecodeError}
    (malformed : Frame.decode f s.revision = .error e) :
    Does s { stage := .carrying tid } (.message (.frame f)) [.recordDecodeError e]
      { stage := .carrying tid }
  | hangUp {tid : TransportId} :
    Does s { stage := .carrying tid } (.message .close) [.transportClosed tid .transportClose]
      { stage := .finished }
  | fail {tid : TransportId} :
    Does s { stage := .carrying tid } (.message .failure) [.transportClosed tid .transportError]
      { stage := .finished }
  | retire {tid : TransportId} (cancelled : s.cancelled) :
    Does s { stage := .carrying tid } .sessionOver [.transportClosed tid .transportClose]
      { stage := .finished }

section

variable {s : Session} {t t' : Task} {c : Cue} {ops : List Op}

theorem Stage.does_of_act {stage : Stage} (h : stage.act s c = some (ops, t')) :
    Does s { stage } c ops t' := by
  cases stage with
  | reading =>
    cases c with
    | body bytes =>
      simp only [act] at h
      split at h
      · next decoded => cases h; exact .read decoded
      · next malformed => cases h; exact .misread malformed
    | tooLarge => cases h; exact .refuse
    | broken reason => cases h; exact .lose reason
    | message | timeout | sessionOver | next => cases h
  | joining tid =>
    cases c with
    | message m =>
      cases m with
      | frame f =>
        simp only [act] at h
        split at h
        · cases h; exact .quit tid _ (.inl rfl)
        · next p decoded =>
          split at h
          · cases h; exact .probe decoded (.inr (.inl ⟨_, rfl⟩))
          · cases h; exact .probe decoded (.inl rfl)
          · next upgraded => cases h; exact .probe decoded (.inr (.inr ⟨upgraded, rfl⟩))
      | close | failure => cases h; exact .quit tid _ (.inl rfl)
      | control => cases h
    | timeout => cases h; exact .quit tid _ (.inl rfl)
    | sessionOver =>
      simp only [act] at h
      split at h
      · next cancelled => cases h; exact .desert cancelled
      · cases h
    | body | tooLarge | broken | next => cases h
  | leaving tid f =>
    cases c with
    | next now => cases h; exact .quit tid f (.inr rfl)
    | body | tooLarge | broken | message | timeout | sessionOver => cases h
  | carrying tid =>
    cases c with
    | message m =>
      cases m with
      | frame f =>
        simp only [act] at h
        split at h
        · next decoded => cases h; exact .hear decoded
        · next malformed => cases h; exact .mishear malformed
      | close => cases h; exact .hangUp
      | failure => cases h; exact .fail
      | control => cases h
    | sessionOver =>
      simp only [act] at h
      split at h
      · next cancelled => cases h; exact .retire cancelled
      · cases h
    | body | tooLarge | broken | timeout | next => cases h
  | finished => cases h

theorem does_of_act (h : t.act s c = some (ops, t')) : Does s t c ops t' := by
  obtain ⟨stage, left⟩ := t
  cases left with
  | nil => exact Stage.does_of_act h
  | cons p left =>
    cases c with
    | next now => cases h; exact .receive p left now
    | body | tooLarge | broken | message | timeout | sessionOver => cases h

-- A task goes on, or ends, or the probe of its websocket comes to something.
theorem Does.stage (h : Does s t c ops t') :
    t'.stage = t.stage ∨ t'.stage = .finished ∨
      ∃ tid p, t.stage = .joining tid ∧ ops = [.probe tid p] ∧
        ((∃ f, t'.stage = .leaving tid f) ∨
          (s.probe tid p).1 = .ok .upgraded ∧ t'.stage = .carrying tid) := by
  cases h with
  | receive | hear | mishear => exact .inl rfl
  | read | misread | refuse | lose | quit | desert | hangUp | fail | retire => exact .inr (.inl rfl)
  | @probe tid f p stage _ still =>
    obtain rfl | ⟨fault, rfl⟩ | ⟨upgraded, rfl⟩ := still
    · exact .inl rfl
    · exact .inr (.inr ⟨tid, p, rfl, rfl, .inl ⟨fault, rfl⟩⟩)
    · exact .inr (.inr ⟨tid, p, rfl, rfl, .inr ⟨upgraded, rfl⟩⟩)

end

namespace Scene

def stage? (σ : Scene) (k : Nat) : Option Stage :=
  σ.tasks[k]?.map (·.stage)

-- How a task comes to be at a stage.
inductive Comes (σ : Scene) (k : Nat) : Act → Stage → Prop
  | post (admitted : σ.session.admitUpload.isOk) (last : k = σ.tasks.length) :
    Comes σ k .post .reading
  | connect {tid : TransportId} (revision : Revision) (writer : Peer)
    (admitted : σ.session.checkUpgrade.isOk) (last : k = σ.tasks.length) :
    Comes σ k (.connect tid revision writer) (.joining tid)
  | finish (c : Cue) : Comes σ k (.cue k c) .finished
  | leave (c : Cue) (tid : TransportId) (f : Fault) : Comes σ k (.cue k c) (.leaving tid f)
  | upgrade {c : Cue} {tid : TransportId} {p : Packet}
    (calls : σ.calls (.cue k c) = [.probe tid p])
    (upgraded : (σ.session.probe tid p).1 = .ok .upgraded) : Comes σ k (.cue k c) (.carrying tid)

section

variable {σ : Scene} {a : Act} {k : Nat} {stage : Stage}

-- A task that is there after another began to work was there before, or is the new one.
theorem getElem?_append_singleton {tasks : List Task} {new t : Task}
    (there : (tasks ++ [new])[k]? = some t) :
    tasks[k]? = some t ∨ k = tasks.length ∧ t = new := by
  by_cases before : k < tasks.length
  · exact .inl (by rwa [List.getElem?_append_left before] at there)
  · rw [List.getElem?_append_right (Nat.not_lt.mp before)] at there
    obtain ⟨first, same⟩ := List.getElem?_eq_some_iff.mp there
    have eq : k - tasks.length = 0 := by simpa using first
    exact .inr ⟨by omega, by simpa [eq] using same.symm⟩

theorem stage?_perform (after : (σ.perform a).stage? k = some stage) :
    σ.stage? k = some stage ∨ Comes σ k a stage := by
  have ⟨t, there, at_⟩ := Option.map_eq_some_iff.mp after
  have before (there : σ.tasks[k]? = some t) : σ.stage? k = some stage := by
    rw [stage?, there, ← at_]
    rfl
  subst at_
  cases a with
  | post =>
    simp only [perform, tasksAfter] at there
    split at there
    · next admitted =>
      obtain old | ⟨last, rfl⟩ := getElem?_append_singleton there
      · exact .inl (before old)
      · exact .inr (.post admitted last)
    · exact .inl (before there)
  | connect tid revision writer =>
    simp only [perform, tasksAfter] at there
    split at there
    · next admitted =>
      obtain old | ⟨last, rfl⟩ := getElem?_append_singleton there
      · exact .inl (before old)
      · exact .inr (.connect revision writer admitted last)
    · exact .inl (before there)
  | other op apart => exact .inl (before there)
  | cue k' c =>
    cases acted : σ.taskAct? k' c with
    | none =>
      rw [perform_cue_of_none acted] at after
      exact .inl after
    | some done =>
      obtain ⟨ops, t'⟩ := done
      obtain ⟨t₀, there₀, acts⟩ := exists_of_taskAct? acted
      rw [perform_cue acted] at there
      by_cases same : k' = k
      · subst same
        obtain rfl := Option.some.inj ((getElem?_set there₀ t').symm.trans there)
        have calls : σ.calls (.cue k' c) = ops := by simp [Scene.calls, acted]
        obtain kept | ended | ⟨tid, p, _, probes, ⟨f, left⟩ | ⟨upgraded, carries⟩⟩ :=
          (does_of_act acts).stage
        · exact .inl (by rw [stage?, there₀, kept]; rfl)
        · exact .inr (ended ▸ .finish c)
        · exact .inr (left ▸ .leave c tid f)
        · exact .inr (carries ▸ .upgrade (calls.trans probes) upgraded)
      · exact .inl (before (by rwa [List.getElem?_set_ne same] at there))

end

end Scene

end Duplex.Session
