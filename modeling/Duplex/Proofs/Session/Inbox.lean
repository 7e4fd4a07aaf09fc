import Duplex.Proofs.Session.Joining
import Duplex.Proofs.Session.Scene
import Duplex.Server.Application

-- What the application gets of what clients send: the messages of every body and of every frame that
-- can be decoded, one by one, until the session closes.

namespace Duplex

def Event.message? : Event → Option Payload
  | message content => some content
  | _ => none

-- What packets have to say to the application.
def Packet.messages (ps : List Packet) : List Payload :=
  (ps.filter isMessage).map content

theorem Packet.messages_append (ps ps' : List Packet) :
    messages (ps ++ ps') = messages ps ++ messages ps' := by
  simp [messages]

namespace Session

-- What the application was given, and what is still to be told of it.
def intake (s : Session) : List Payload × List Payload :=
  (s.inbox, s.events.filterMap Event.message?)

-- Nothing but a message that is received changes it.

section

variable (s : Session)

theorem intake_announce {e : Event} (other : e.message? = none) : (s.announce e).intake = s.intake := by
  simp only [intake, events_announce, List.filterMap_append, List.filterMap_cons, other,
    List.filterMap_nil, List.append_nil]
  rfl

@[simp]
theorem intake_meter (m : Meter) : (s.meter m).intake = s.intake := by
  simp only [intake, events_meter]
  rfl

@[simp]
theorem intake_report (f : Fault) : (s.report f).intake = s.intake :=
  s.intake_announce rfl

@[simp]
theorem intake_withTransport (d : Dispatch Transport) : (s.withTransport d).intake = s.intake := rfl

@[simp]
theorem intake_enter (state : ReadyState) : (s.enter state).intake = s.intake := by
  simp only [enter]
  split
  · rfl
  · exact intake_announce _ rfl

@[simp]
theorem intake_flush : s.flush.intake = s.intake := by
  have ⟨_, _, _, _, eq⟩ := s.flush_eq
  have same : s.flush.inbox = s.inbox := by rw [eq]
  simp only [intake, same, events_flush]

@[simp]
theorem intake_dropPending : s.dropPending.intake = s.intake := by
  simp only [dropPending]
  split <;> rfl

@[simp]
theorem intake_shut : s.shut.intake = s.intake := by
  simp only [shut, intake_enter, intake_withTransport, intake_dropPending]
  exact s.intake_enter .closing

@[simp]
theorem intake_close (reason : CloseReason) : (s.close reason).intake = s.intake := by
  simp only [close]
  split
  · rfl
  · exact (intake_announce _ rfl).trans ((intake_meter _ _).trans s.intake_shut)

@[simp]
theorem intake_swap (t : Websocket) : (s.swap t).intake = s.intake := by
  simp only [swap, intake_enter]
  rfl

@[simp]
theorem intake_completeUpgrade (t : Websocket) : (s.completeUpgrade t).intake = s.intake := by
  rw [completeUpgrade, intake_announce _ rfl]
  simp

@[simp]
theorem intake_stay : s.stay.intake = s.intake := by
  simp only [stay]
  split <;> simp

@[simp]
theorem intake_abortUpgrade (tid : TransportId) (f : Fault) :
    (s.abortUpgrade tid f).intake = s.intake := by
  simp only [abortUpgrade]
  split
  · rfl
  · rw [intake_announce _ rfl]
    simp

theorem intake_send (p : Packet) : ((s.send p).toOption.getD s).intake = s.intake := by
  cases sent : s.send p with
  | error f => rfl
  | ok s' =>
    have ⟨_, _, eq⟩ := send_eq_ok sent
    rw [eq]
    exact intake_flush _

theorem intake_registerPoll : (s.perform .registerPoll).intake = s.intake := by
  cases registered : s.registerPoll with
  | error f => rw [perform_registerPoll_of_error registered]
  | ok done =>
    have ⟨_, _, _, _, _, _, eq⟩ := registerPoll_eq_ok registered
    rw [perform_registerPoll registered, eq]
    exact intake_flush _

theorem intake_countDecodeError (e : DecodeError) : (s.countDecodeError e).intake = s.intake :=
  (intake_report _ _).trans (s.intake_meter _)

theorem intake_recordDecodeError (e : DecodeError) : (s.recordDecodeError e).intake = s.intake := by
  simp only [recordDecodeError]
  split
  · exact (intake_close _ _).trans (s.intake_countDecodeError e)
  · exact s.intake_countDecodeError e

theorem intake_beginUpgrade (t : Websocket) : (s.beginUpgrade t).2.intake = s.intake := by
  simp only [beginUpgrade]
  split
  · rfl
  · exact intake_enter _ _

theorem intake_probe (tid : TransportId) (p : Packet) : (s.probe tid p).2.intake = s.intake := by
  simp only [probe]
  split
  · rfl
  · split
    · split <;> rfl
    · split
      · exact s.intake_completeUpgrade _
      · rfl

theorem intake_transportClosed (tid : TransportId) (reason : CloseReason) :
    (s.transportClosed tid reason).intake = s.intake := by
  simp only [transportClosed]
  split
  · exact s.intake_close reason
  · exact s.intake_abortUpgrade tid _

end

-- What an operation gives to the application: the content of a message that comes in time.
def Op.gives (s : Session) (op : Op) : List Payload :=
  if s.isLive then Packet.messages op.received?.toList else []

-- What the operations of a run give.
def given (s : Session) : List Op → List Payload
  | [] => []
  | op :: ops => op.gives s ++ (s.perform op).given ops

section

variable {s : Session}

theorem Op.gives_of_not_received {op : Op} (none_ : op.received? = none) : op.gives s = [] := by
  simp [gives, none_, Packet.messages]

-- The inbox is open as long as the session lives.
theorem Valid.listening_eq (v : s.Valid) : s.listening = s.isLive := by
  cases live : s.isLive with
  | true => exact (v.live live).2
  | false =>
    obtain ⟨_, _, _, _, deaf, _⟩ := v.ended live
    exact deaf

theorem intake_receive (v : s.Valid) (p : Packet) (now : Nat) :
    (s.receive p now).intake =
      (s.inbox ++ Op.gives s (.receive p now),
        s.events.filterMap Event.message? ++ Op.gives s (.receive p now)) := by
  have counted : (s.meter .received).intake = s.intake := s.intake_meter _
  have other (kind : p.isMessage = false) : Op.gives s (.receive p now) = [] := by
    simp [Op.gives, Op.received?, Packet.messages, kind]
  have idle {s' : Session} (same : s'.intake = s.intake) (kind : p.isMessage = false) :
      s'.intake = (s.inbox ++ Op.gives s (.receive p now),
        s.events.filterMap Event.message? ++ Op.gives s (.receive p now)) := by
    rw [same, other kind, List.append_nil, List.append_nil]
    rfl
  simp only [receive]
  cases kind : p.kind with
  | ping =>
    rw [answerPing_eq]
    exact idle ((intake_send _ _).trans counted) (by simp [Packet.isMessage, kind])
  | close => exact idle ((intake_close _ _).trans counted) (by simp [Packet.isMessage, kind])
  | pong | handshake | upgrade | noop => exact idle counted (by simp [Packet.isMessage, kind])
  | message =>
    have listening : (s.meter .received).listening = s.isLive := v.listening_eq
    cases live : s.isLive with
    | false =>
      simp only [takeIn, listening, live, Op.gives, Bool.false_eq_true, ↓reduceIte, List.append_nil]
      exact counted
    | true =>
      have told : (s.meter .received).events = s.events := s.events_meter _
      have content : Op.gives s (.receive p now) = [p.content] := by
        simp [Op.gives, live, Op.received?, Packet.messages, Packet.isMessage, kind]
      simp only [takeIn, listening, live, ↓reduceIte, content, intake, events_announce,
        List.filterMap_append]
      exact congrArg (fun es => (s.inbox ++ [p.content], es.filterMap Event.message? ++ [p.content])) told

theorem intake_perform (v : s.Valid) {op : Op} (tells : op ≠ .passOn) :
    (s.perform op).intake =
      (s.inbox ++ op.gives s, s.events.filterMap Event.message? ++ op.gives s) := by
  have idle (same : (s.perform op).intake = s.intake) (none_ : op.received? = none) :
      (s.perform op).intake =
        (s.inbox ++ op.gives s, s.events.filterMap Event.message? ++ op.gives s) := by
    rw [same, Op.gives_of_not_received none_, List.append_nil, List.append_nil]
    rfl
  cases op with
  | receive p now => exact intake_receive v p now
  | send p => exact idle (s.intake_send p) rfl
  | registerPoll => exact idle s.intake_registerPoll rfl
  | recordDecodeError e => exact idle (s.intake_recordDecodeError e) rfl
  | countDecodeError e => exact idle (s.intake_countDecodeError e) rfl
  | report f => exact idle (s.intake_report f) rfl
  | beginUpgrade tid revision writer => exact idle (s.intake_beginUpgrade _) rfl
  | probe tid p => exact idle (s.intake_probe tid p) rfl
  | abortUpgrade tid f => exact idle (s.intake_abortUpgrade tid f) rfl
  | transportClosed tid reason => exact idle (s.intake_transportClosed tid reason) rfl
  | close reason => exact idle (s.intake_close reason) rfl
  | expirePoll | setPollClient | heartbeat | resetDecodeErrors | setWriter => exact idle rfl rfl
  | passOn => exact absurd rfl tells

theorem inbox_perform (v : s.Valid) (op : Op) : (s.perform op).inbox = s.inbox ++ op.gives s := by
  by_cases passes : op = .passOn
  · subst passes
    rw [Op.gives_of_not_received rfl, List.append_nil]
    rfl
  · exact congrArg Prod.fst (intake_perform v passes)

-- What was passed on, together with what is still to be told.
theorem told_perform (v : s.Valid) (op : Op) :
    (op.passes s ++ (s.perform op).events).filterMap Event.message? =
      s.events.filterMap Event.message? ++ op.gives s := by
  by_cases passes : op = .passOn
  · subst passes
    have quiet : (s.perform .passOn).events = [] := rfl
    rw [Op.gives_of_not_received rfl, quiet, List.append_nil, List.append_nil]
    rfl
  · rw [Op.passes_of_ne s passes]
    exact congrArg Prod.snd (intake_perform v passes)

theorem inbox_run (v : s.Valid) (ops : List Op) : (s.run ops).inbox = s.inbox ++ s.given ops := by
  induction ops generalizing s with
  | nil => simp [given]
  | cons op ops ih => rw [run_cons, ih (v.perform op), inbox_perform v, given, List.append_assoc]

theorem told_run (v : s.Valid) (ops : List Op) :
    (s.history ops).filterMap Event.message? = s.events.filterMap Event.message? ++ s.given ops := by
  induction ops generalizing s with
  | nil => simp [history, passed, given]
  | cons op ops ih =>
    have later := ih (v.perform op)
    simp only [history, List.filterMap_append] at later
    have now := told_perform v op
    rw [List.filterMap_append] at now
    simp only [history, passed, given, run_cons, List.filterMap_append, List.append_assoc]
    rw [later, ← List.append_assoc, now, List.append_assoc]

theorem given_append (s : Session) (ops more : List Op) :
    s.given (ops ++ more) = s.given ops ++ (s.run ops).given more := by
  induction ops generalizing s with
  | nil => rfl
  | cons op ops ih => simp [given, ih]

theorem given_of_not_received (s : Session) {ops : List Op}
    (none_ : ∀ op ∈ ops, op.received? = none) : s.given ops = [] := by
  induction ops generalizing s with
  | nil => rfl
  | cons op ops ih =>
    have ⟨first, rest⟩ := List.forall_mem_cons.mp none_
    rw [given, Op.gives_of_not_received first, ih _ rest]
    rfl

-- After the close nothing is given any more.
theorem given_of_dead (dead : s.Valid ∧ s.isLive = false) (ops : List Op) : s.given ops = [] := by
  induction ops generalizing s with
  | nil => rfl
  | cons op ops ih => simp [given, ih (perform_dead dead op), Op.gives, dead.2]

end

-- The packets that someone hands to a session, all of it in one list, and how they come about.

-- What is in a body or in a frame, if it can be decoded.
def Cue.packets (r : Revision) : Cue → List Packet
  | body bytes => (Batch.decodeBytes bytes r).toOption.getD []
  | message (.frame f) => (Frame.decode f r).toOption.toList
  | _ => []

-- Whether a task waits for this body or frame.
def Task.listens : Task → Cue → Bool
  | { stage := .reading, left := [] }, .body _ => true
  | { stage := .carrying _, left := [] }, .message (.frame _) => true
  | _, _ => false

-- The packets of one task.
def ofTask (k : Nat) (log : List (Nat × Packet)) : List Packet :=
  (log.filter (·.1 = k)).map (·.2)

theorem ofTask_append (k : Nat) (log log' : List (Nat × Packet)) :
    ofTask k (log ++ log') = ofTask k log ++ ofTask k log' := by
  simp [ofTask]

theorem ofTask_map_self (k : Nat) (ps : List Packet) : ofTask k (ps.map (k, ·)) = ps := by
  simp [ofTask, List.filter_map, Function.comp_def]

theorem ofTask_map_of_ne {k k' : Nat} (ne : k' ≠ k) (ps : List Packet) :
    ofTask k (ps.map (k', ·)) = [] := by
  simp [ofTask, List.filter_map, Function.comp_def, ne]

-- A task that waits for a body or a frame takes it.
theorem listens_of_act_none {s : Session} {t : Task} {c : Cue} (idle : t.act s c = none) :
    t.listens c = false := by
  obtain ⟨stage, left⟩ := t
  cases left with
  | cons p left => cases stage <;> rfl
  | nil =>
    cases stage with
    | reading =>
      cases c with
      | body bytes =>
        simp only [Task.act, Stage.act] at idle
        split at idle <;> cases idle
      | _ => rfl
    | carrying tid =>
      cases c with
      | message m =>
        cases m with
        | frame f =>
          simp only [Task.act, Stage.act] at idle
          split at idle <;> cases idle
        | _ => rfl
      | _ => rfl
    | _ => rfl

-- What a task hands over it had left, and what it takes in is left.
theorem Does.left {s : Session} {t t' : Task} {c : Cue} {ops : List Op} (h : Does s t c ops t') :
    ops.filterMap Op.received? ++ t'.left =
      t.left ++ if t.listens c then c.packets s.revision else [] := by
  cases h with
  | @receive stage p left now =>
    have busy : Task.listens { stage, left := p :: left } (.next now) = false := by
      cases stage <;> rfl
    simp [busy, Op.received?]
  | read decoded | hear decoded =>
    simp [Task.listens, Cue.packets, decoded, Except.toOption, Op.received?]
  | misread malformed | mishear malformed =>
    simp [Task.listens, Cue.packets, malformed, Except.toOption, Op.received?]
  | probe decoded still => simp [Task.listens, Op.received?]
  | quit tid f before =>
    obtain rfl | rfl := before <;> simp [Task.listens, Op.received?]
  | refuse | lose | desert | hangUp | fail | retire => simp [Task.listens, Op.received?]

namespace Scene

-- The packets that a session is handed, each with the task that it comes from.
def hands (σ : Scene) : Act → List (Nat × Packet)
  | .cue k c => ((σ.calls (.cue k c)).filterMap Op.received?).map (k, ·)
  | _ => []

-- The packets that come in a body or in a frame.
def brings (σ : Scene) : Act → List (Nat × Packet)
  | .cue k c =>
    if σ.tasks[k]?.any (·.listens c) then (c.packets σ.session.revision).map (k, ·) else []
  | _ => []

def heard (σ : Scene) : List Act → List (Nat × Packet)
  | [] => []
  | a :: acts => σ.hands a ++ (σ.perform a).heard acts

def brought (σ : Scene) : List Act → List (Nat × Packet)
  | [] => []
  | a :: acts => σ.brings a ++ (σ.perform a).brought acts

-- The packets of a task that were decoded and are not handed over yet.
def left (σ : Scene) (k : Nat) : List Packet :=
  (σ.tasks[k]?.map (·.left)).getD []

-- What happens until the session closes.
def alive (σ : Scene) : List Act → List Act
  | [] => []
  | a :: acts => if σ.session.isLive then a :: (σ.perform a).alive acts else []

section

variable {σ : Scene} {a : Act}

-- A packet is handed over in an act of its own.
theorem hands_cases (σ : Scene) (a : Act) :
    σ.hands a = [] ∧ (∀ op ∈ σ.calls a, op.received? = none) ∨
      ∃ k p now, a = .cue k (.next now) ∧ σ.hands a = [(k, p)] ∧ σ.calls a = [.receive p now] := by
  cases a with
  | post => exact .inl ⟨rfl, by simp [calls]⟩
  | connect tid revision writer => exact .inl ⟨rfl, by simp [calls, Op.received?]⟩
  | other op apart =>
    refine .inl ⟨rfl, fun op' mem => ?_⟩
    rw [List.mem_singleton.mp mem]
    cases op with
    | receive => exact absurd apart (by simp [Op.isApart])
    | _ => rfl
  | cue k c =>
    cases acted : σ.taskAct? k c with
    | none => exact .inl (by simp [hands, calls, acted])
    | some done =>
      obtain ⟨ops, t'⟩ := done
      obtain ⟨t, _, acts⟩ := exists_of_taskAct? acted
      have calls_eq : σ.calls (.cue k c) = ops := by simp [calls, acted]
      have hands_eq : σ.hands (.cue k c) = (ops.filterMap Op.received?).map (k, ·) := by
        simp only [hands, calls_eq]
      rw [hands_eq, calls_eq]
      cases does_of_act acts with
      | receive p left now => exact .inr ⟨k, p, now, rfl, rfl, rfl⟩
      | lose => exact .inl ⟨rfl, by simp [Op.received?]⟩
      | read | desert | misread | refuse | probe | quit | hear | mishear | hangUp | fail | retire =>
        exact .inl ⟨rfl, by simp [Op.received?]⟩

theorem given_calls (σ : Scene) (a : Act) :
    σ.session.given (σ.calls a) =
      if σ.session.isLive then Packet.messages ((σ.hands a).map (·.2)) else [] := by
  obtain ⟨quiet, none_⟩ | ⟨k, p, now, _, hands, calls⟩ := σ.hands_cases a
  · rw [given_of_not_received _ none_, quiet]
    split <;> rfl
  · rw [hands, calls]
    exact List.append_nil _

theorem given_ops (v : σ.session.Valid) (acts : List Act) :
    σ.session.given (σ.ops acts) = Packet.messages ((σ.heard (σ.alive acts)).map (·.2)) := by
  induction acts generalizing σ with
  | nil => rfl
  | cons a acts ih =>
    cases live : σ.session.isLive with
    | false =>
      rw [given_of_dead ⟨v, live⟩]
      simp [alive, live, heard, Packet.messages]
    | true =>
      have later := ih (valid_perform v a)
      have now := σ.given_calls a
      rw [live, if_pos rfl] at now
      simp only [alive, live, ↓reduceIte, heard, List.map_append, Packet.messages_append]
      rw [ops, given_append, now, ← later]
      rfl

-- One who begins to work has nothing left.
theorem left_append (tasks : List Task) (stage : Stage) (k : Nat) :
    ((tasks ++ [⟨stage, []⟩])[k]?.map Task.left).getD [] = (tasks[k]?.map Task.left).getD [] := by
  by_cases before : k < tasks.length
  · rw [List.getElem?_append_left before]
  · have after := Nat.not_lt.mp before
    rw [List.getElem?_append_right after, List.getElem?_eq_none after]
    cases k - tasks.length <;> rfl

theorem left_perform_of_quiet {k : Nat} (hands : σ.hands a = []) (brings : σ.brings a = [])
    (same : (σ.perform a).left k = σ.left k) :
    ofTask k (σ.hands a) ++ (σ.perform a).left k = σ.left k ++ ofTask k (σ.brings a) := by
  rw [hands, brings, same]
  exact (List.append_nil _).symm

-- Whatever a task hands over was decoded before, in this order.
theorem left_perform (σ : Scene) (a : Act) (k : Nat) :
    ofTask k (σ.hands a) ++ (σ.perform a).left k = σ.left k ++ ofTask k (σ.brings a) := by
  cases a with
  | post | connect =>
    refine left_perform_of_quiet rfl rfl ?_
    simp only [perform, tasksAfter, left]
    split
    · exact left_append _ _ k
    · rfl
  | other op apart => exact left_perform_of_quiet rfl rfl rfl
  | cue k' c =>
    cases acted : σ.taskAct? k' c with
    | none =>
      refine left_perform_of_quiet (by simp [hands, calls, acted]) ?_ (by rw [perform_cue_of_none acted])
      cases there : σ.tasks[k']? with
      | none => simp [brings, there]
      | some t =>
        have deaf := listens_of_act_none ((taskAct?_of_getElem? there).symm.trans acted)
        simp [brings, there, deaf]
    | some done =>
      obtain ⟨ops, t'⟩ := done
      obtain ⟨t, there, acts⟩ := exists_of_taskAct? acted
      have handed : σ.hands (.cue k' c) = (ops.filterMap Op.received?).map (k', ·) := by
        simp [hands, calls, acted]
      have brought : σ.brings (.cue k' c) =
          (if t.listens c then c.packets σ.session.revision else []).map (k', ·) := by
        simp only [brings, there, Option.any_some]
        split <;> rfl
      rw [handed, brought, perform_cue acted]
      by_cases same : k' = k
      · subst same
        rw [ofTask_map_self, ofTask_map_self, left, left, getElem?_set there, there]
        exact (does_of_act acts).left
      · rw [ofTask_map_of_ne same, ofTask_map_of_ne same, List.append_nil]
        simp only [left, List.getElem?_set_ne same]
        rfl

theorem left_run (σ : Scene) (acts : List Act) (k : Nat) :
    ofTask k (σ.heard acts) ++ (σ.run acts).left k = σ.left k ++ ofTask k (σ.brought acts) := by
  induction acts generalizing σ with
  | nil => simp [heard, brought, ofTask]
  | cons a acts ih =>
    have now := σ.left_perform a k
    have later := ih (σ.perform a)
    rw [heard, brought, run_cons, ofTask_append, ofTask_append, List.append_assoc, later,
      ← List.append_assoc, now, List.append_assoc]

-- A session that is over stays so.

theorem run_dead (dead : σ.session.Valid ∧ σ.session.isLive = false) (acts : List Act) :
    (σ.run acts).session.isLive = false ∧ (σ.run acts).session.inbox = σ.session.inbox := by
  have closed (ops : List Op) : (σ.session.run ops).isLive = false := by
    refine Decidable.byContradiction fun live => ?_
    have before := Valid.isLive_of_changes dead.1 (run_changes _ ops) (by simpa using live)
    exact absurd (before.symm.trans dead.2) nofun
  rw [session_run]
  refine ⟨closed _, ?_⟩
  rw [inbox_run dead.1, given_of_dead dead, List.append_nil]

theorem alive_of_live (v : σ.session.Valid) {acts : List Act} (live : (σ.run acts).session.isLive) :
    σ.alive acts = acts := by
  induction acts generalizing σ with
  | nil => rfl
  | cons a acts ih =>
    cases before : σ.session.isLive with
    | true => simp only [alive, before, ↓reduceIte, ih (valid_perform v a) live]
    | false => exact absurd ((run_dead ⟨v, before⟩ (a :: acts)).1.symm.trans live) nofun

theorem alive_isPrefix (σ : Scene) (acts : List Act) : σ.alive acts <+: acts := by
  induction acts generalizing σ with
  | nil => exact List.prefix_rfl
  | cons a acts ih =>
    simp only [alive]
    split
    · exact List.cons_prefix_cons.mpr ⟨rfl, ih _⟩
    · exact List.nil_prefix

theorem heard_alive_of_dead (dead : σ.session.isLive = false) (acts : List Act) :
    σ.heard (σ.alive acts) = [] := by
  cases acts <;> simp [alive, dead, heard]

-- A close packet ends the session at once.
theorem heard_alive_close (v : σ.session.Valid) {acts : List Act} {k : Nat} {p : Packet}
    {early late : List (Nat × Packet)} (handed : σ.heard (σ.alive acts) = early ++ (k, p) :: late)
    (close : p.kind = .close) : late = [] ∧ (σ.run acts).session.isLive = false := by
  induction acts generalizing σ early with
  | nil => simp [alive, heard] at handed
  | cons a acts ih =>
    cases live : σ.session.isLive with
    | false => simp [heard_alive_of_dead live] at handed
    | true =>
      simp only [alive, live, ↓reduceIte, heard] at handed
      obtain ⟨quiet, _⟩ | ⟨k', p', now, _, hands, calls⟩ := σ.hands_cases a
      · rw [quiet] at handed
        exact ih (valid_perform v a) handed
      · rw [hands] at handed
        cases early with
        | cons first early => exact ih (valid_perform v a) (List.tail_eq_of_cons_eq handed)
        | nil =>
          obtain ⟨rfl, rfl⟩ := Prod.mk.inj (List.head_eq_of_cons_eq handed)
          have closed : (σ.perform a).session.isLive = false := by
            simp only [perform, calls, Session.run_cons, Session.run_nil, Session.perform, receive,
              close, isLive_close]
          have rest := heard_alive_of_dead closed acts
          exact ⟨(List.tail_eq_of_cons_eq handed).symm.trans rest,
            (run_dead ⟨valid_perform v a, closed⟩ acts).1⟩

end

end Scene

end Session

namespace Server

-- The application finds its socket as it was set.
theorem find?_setSocket {v : Server} {k k' : Socket}
    (found : v.sockets.find? (·.sid = k.sid) = some k) (same : k'.sid = k.sid) :
    (v.setSocket k').sockets.find? (·.sid = k.sid) = some k' := by
  have kept (old : Socket) : (if old.sid = k'.sid then k' else old).sid = old.sid := by
    split
    · next eq => exact eq.symm
    · rfl
  simp only [setSocket, List.find?_map, Function.comp_def, kept, found]
  simp [same]

-- An application that has taken all messages of a session that closed gets nothing more.
theorem takeMessages_again {v : Server} {k k' : Socket} {s s' : Session}
    (found : v.sockets.find? (·.sid = k.sid) = some k)
    (found' : (v.takeMessages k s).2.2.sockets.find? (·.sid = k.sid) = some k')
    (same : s'.inbox = s.inbox) (deaf : s'.listening = false) :
    ((v.takeMessages k s).2.2.takeMessages k' s').1 = [] ∧
      ((v.takeMessages k s).2.2.takeMessages k' s').2.1 = true := by
  have taken : k' = { k with progress := { k.progress with taken := s.inbox.length } } :=
    Option.some.inj (found'.symm.trans (find?_setSocket found rfl))
  simp [takeMessages, taken, same, deaf]

end Server

namespace Session

theorem Origin.intake_session (o : Origin) : o.session.intake = ([], []) := by
  simp only [session, start, intake_flush, intake_enter]
  rfl

theorem Origin.left_scene (o : Origin) (k : Nat) : o.scene.left k = [] := by
  simp only [scene, Scene.left]
  split
  · cases k <;> rfl
  · rfl

-- However posted bodies, frames on websockets and all else come one after the other, the application
-- is given the contents of the messages that were handed over until the session closed, in that
-- order, and the same is told of it. Each task hands over what it decoded, packet by packet, and a
-- body that cannot be decoded brings nothing. A close packet is the last that counts. An application
-- that looks after the close gets what is left, and then learns that nothing can follow.
theorem run_delivers_in_order (o : Origin) (acts : List Act) :
    let σ := o.scene.run acts
    let heard := o.scene.heard (o.scene.alive acts)
    σ.session.inbox = Packet.messages (heard.map (·.2)) ∧
      (o.session.history (o.scene.ops acts)).filterMap Event.message? = σ.session.inbox ∧
      (∀ k, ofTask k (o.scene.heard acts) ++ σ.left k = ofTask k (o.scene.brought acts)) ∧
      o.scene.alive acts <+: acts ∧ (σ.session.isLive → o.scene.alive acts = acts) ∧
      (∀ early k p late, heard = early ++ (k, p) :: late → p.kind = .close →
        late = [] ∧ σ.session.isLive = false) ∧
      ∀ (v : Server) (k : Server.Socket), v.sockets.find? (·.sid = k.sid) = some k →
        let took := v.takeMessages k σ.session
        took.1 = σ.session.inbox.drop k.progress.taken ∧ took.2.1 = !σ.session.isLive ∧
          (σ.session.isLive = false → ∀ k' more, took.2.2.sockets.find? (·.sid = k.sid) = some k' →
            let again := took.2.2.takeMessages k' (σ.run more).session
            again.1 = [] ∧ again.2.1 = true) := by
  intro σ heard
  have v : o.scene.session.Valid := o.valid
  have v' : σ.session.Valid := Scene.valid_run o acts
  have given := Scene.given_ops v acts
  have inbox : σ.session.inbox = Packet.messages (heard.map (·.2)) := by
    have fresh : o.scene.session.inbox = [] := congrArg Prod.fst o.intake_session
    rw [Scene.session_run, inbox_run v, fresh, given, List.nil_append]
  have told : (o.session.history (o.scene.ops acts)).filterMap Event.message? = σ.session.inbox := by
    have fresh : o.session.events.filterMap Event.message? = [] := congrArg Prod.snd o.intake_session
    rw [inbox, told_run o.valid, fresh, List.nil_append]
    exact given
  have left (k : Nat) : ofTask k (o.scene.heard acts) ++ σ.left k = ofTask k (o.scene.brought acts) := by
    have run := o.scene.left_run acts k
    rwa [o.left_scene, List.nil_append] at run
  refine ⟨inbox, told, left, Scene.alive_isPrefix _ _, Scene.alive_of_live v,
    fun _ _ _ _ => Scene.heard_alive_close v, fun server k found => ?_⟩
  refine ⟨rfl, congrArg not v'.listening_eq, fun dead k' more found' => ?_⟩
  have dead' := Scene.run_dead ⟨v', dead⟩ more
  have v'' : (σ.run more).session.Valid := by
    rw [← Scene.run_append]
    exact Scene.valid_run o (acts ++ more)
  exact Server.takeMessages_again found found' dead'.2 (v''.listening_eq.trans dead'.1)

-- A body says a, close and b, and one that comes at the same time says c.
example :
    let acts : List Act :=
      [.post, .post, .cue 0 (.body [0x34, 0x61, 0x1e, 0x31, 0x1e, 0x34, 0x62]), .cue 0 (.next 0),
        .cue 1 (.body [0x34, 0x63]), .cue 1 (.next 0), .cue 0 (.next 0), .cue 0 (.next 0)]
    let σ := Origin.plain.scene.run acts
    σ.session.inbox = [.text "a", .text "c"] ∧ σ.left 0 = [] ∧ σ.session.isLive = false := by
  decide

end Session

end Duplex
