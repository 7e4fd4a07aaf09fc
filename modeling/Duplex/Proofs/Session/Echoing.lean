import Duplex.Echo
import Duplex.Proofs.Session.Encodable
import Duplex.Proofs.Session.Ending
import Duplex.Proofs.Session.Inbox

-- The echo application at work on one session, step by step, while everything else goes on. Whatever a
-- client says comes back, since what can be read on a transport can be sent on any that comes later.

namespace Duplex

namespace Batch

-- What was read could have been written.

theorem check_of_decode {body : String} {r : Revision} {packets : List Packet}
    (h : decode body r = .ok packets) : ∀ p ∈ packets, check p r = .ok () := by
  cases r with
  | v4 => exact check_of_encode (encode_of_decode_v4 h)
  | v3 =>
    obtain ⟨_, _, encoded⟩ := encode_of_decode_v3 h
    exact check_of_encode encoded

theorem check_of_decodeBytes {body : Bytes} {r : Revision} {packets : List Packet}
    (h : decodeBytes body r = .ok packets) : ∀ p ∈ packets, check p r = .ok () := by
  simp only [decodeBytes] at h
  split at h
  · exact check_of_decode h
  · cases h

-- The content of a message makes a message again.
theorem check_message_content {p : Packet} {r : Revision} (message : p.isMessage)
    (h : check p r = .ok ()) : check (.message p.content) r = .ok () := by
  obtain ⟨kind, data⟩ := p
  obtain rfl : kind = .message := of_decide_eq_true message
  match data with
  | none => rfl
  | some (.text s) =>
    refine check_withData_text fun v4 => ?_
    subst v4
    exact not_mem_text_of_check h
  | some (.binary bytes) => exact check_withData_binary (fun _ => rfl) bytes

end Batch

-- A frame can carry any message.
theorem Frame.check_message (content : Payload) (r : Revision) :
    Frame.check (.message content) r = .ok () :=
  Frame.check_eq_ok_iff.mpr fun _ _ => rfl

namespace Session

theorem mem_ofTask {k : Nat} {p : Packet} {log : List (Nat × Packet)} :
    p ∈ ofTask k log ↔ (k, p) ∈ log := by
  simp [ofTask]

namespace Scene

variable {σ : Scene}

-- A packet that was brought was in a body or in a frame.
theorem exists_of_mem_brought {acts : List Act} {k : Nat} {p : Packet}
    (mem : (k, p) ∈ σ.brought acts) :
    ∃ early a late, acts = early ++ a :: late ∧ (k, p) ∈ (σ.run early).brings a := by
  induction acts generalizing σ with
  | nil => cases mem
  | cons a acts ih =>
    obtain now | later := List.mem_append.mp mem
    · exact ⟨[], a, acts, rfl, now⟩
    · obtain ⟨early, a', late, eq, brings⟩ := ih later
      exact ⟨a :: early, a', late, by rw [eq]; rfl, brings⟩

-- While a session polls packets come in bodies only.
theorem check_of_mem_brings {a : Act} (m : Manned σ) (polling : σ.session.transport.kind = .polling)
    {k : Nat} {p : Packet} (mem : (k, p) ∈ σ.brings a) :
    Batch.check p σ.session.revision = .ok () := by
  cases a with
  | post | connect | other => cases mem
  | cue k' c =>
    simp only [brings] at mem
    split at mem
    case isFalse => cases mem
    next hears =>
    obtain ⟨p', inside, same⟩ := List.mem_map.mp mem
    obtain ⟨_, rfl⟩ := Prod.mk.inj same
    obtain ⟨t, there, listens⟩ : ∃ t, σ.tasks[k']? = some t ∧ t.listens c := by
      cases there : σ.tasks[k']? with
      | none => simp [there] at hears
      | some t => exact ⟨t, rfl, by simpa [there] using hears⟩
    obtain ⟨stage, left⟩ := t
    cases c with
    | body bytes =>
      cases decoded : Batch.decodeBytes bytes σ.session.revision with
      | error e => simp [Cue.packets, decoded, Except.toOption] at inside
      | ok packets =>
        exact Batch.check_of_decodeBytes decoded p'
          (by simpa [Cue.packets, decoded, Except.toOption] using inside)
    | message message =>
      cases stage with
      | carrying tid => exact absurd (by simp [stage?, there]) (m.polls polling k' tid)
      | reading | joining | leaving | finished => cases left <;> cases listens
    | tooLarge | broken | timeout | sessionOver | next => cases inside

-- A session that polls has always polled.
theorem polling_of_run (early more : List Act)
    (polling : (σ.run (early ++ more)).session.transport.kind = .polling) :
    (σ.run early).session.transport.kind = .polling := by
  cases before : (σ.run early).session.transport.kind with
  | polling => rfl
  | websocket =>
    rw [run_append, session_run] at polling
    have after := (run_changes (σ.run early).session ((σ.run early).ops more)).induction before
      Change.websocket
    rw [polling] at after
    cases after

end Scene

variable (o : Origin) (acts : List Act)

-- The application is given what the client said.
theorem Origin.inbox_scene :
    (o.scene.run acts).session.inbox =
      Packet.messages ((o.scene.heard (o.scene.alive acts)).map (·.2)) := by
  have v : o.scene.session.Valid := o.valid
  have fresh : o.scene.session.inbox = [] := congrArg Prod.fst o.intake_session
  rw [Scene.session_run, inbox_run v, fresh, Scene.given_ops v acts, List.nil_append]

theorem Origin.revision_scene : (o.scene.run acts).session.revision = o.revision := by
  rw [Scene.session_run]
  exact (revision_run o _).trans (congrArg (·.2.1) o.identity_session)

variable {o acts}

-- Whoever is handed a packet has read it.
theorem Origin.mem_brought_of_mem_heard {k : Nat} {p : Packet} (mem : (k, p) ∈ o.scene.heard acts) :
    (k, p) ∈ o.scene.brought acts := by
  have run := o.scene.left_run acts k
  rw [o.left_scene, List.nil_append] at run
  rw [← mem_ofTask, ← run]
  exact List.mem_append_left _ (mem_ofTask.mpr mem)

-- What a client says while the session polls can be said in a body.
theorem Origin.check_of_mem_inbox (polling : (o.scene.run acts).session.transport.kind = .polling)
    {content : Payload} (mem : content ∈ (o.scene.run acts).session.inbox) :
    Batch.check (.message content) o.revision = .ok () := by
  rw [o.inbox_scene acts, Packet.messages] at mem
  obtain ⟨p, told, rfl⟩ := List.mem_map.mp mem
  obtain ⟨handed, message⟩ := List.mem_filter.mp told
  obtain ⟨⟨k, _⟩, heard, rfl⟩ := List.mem_map.mp handed
  obtain ⟨early, a, late, alive, brings⟩ :=
    Scene.exists_of_mem_brought (Origin.mem_brought_of_mem_heard heard)
  obtain ⟨rest, all⟩ := o.scene.alive_isPrefix acts
  rw [← all, alive, List.append_assoc] at polling
  have checked := Scene.check_of_mem_brings (o.manned.run o.valid early)
    (Scene.polling_of_run _ _ polling) brings
  rw [o.revision_scene] at checked
  exact Batch.check_message_content message checked

theorem accepts_message {s : Session} {content : Payload} (live : s.isLive)
    (batched : s.transport.kind = .polling → Batch.check (.message content) s.revision = .ok ()) :
    s.accepts (.message content) := by
  have checked : Transport.check s.transport.kind (.message content) s.revision = .ok () := by
    cases kind : s.transport.kind with
    | polling => exact batched kind
    | websocket => exact Frame.check_message content s.revision
  rw [accepts_eq, live, checked]
  rfl

-- What a client has said can be sent to it as long as the session lives.
theorem Origin.accepts_of_mem_inbox (live : (o.scene.run acts).session.isLive) {content : Payload}
    (mem : content ∈ (o.scene.run acts).session.inbox) :
    (o.scene.run acts).session.accepts (.message content) :=
  accepts_message live fun polling => by
    rw [o.revision_scene]
    exact Origin.check_of_mem_inbox polling mem

end Session

namespace Echo

open Session

theorem offer_eq (s : Session) (content : Payload) :
    offer s content = s.perform (.send (.message content)) := by
  simp only [offer, perform]
  cases s.send (.message content) <;> rfl

-- How far the application has come: how many messages it has taken, and what it holds to send next.
-- At first that is the greeting.
structure Loop where
  taken : Nat := 0
  inHand : Option Payload := some greeting
  deriving DecidableEq

namespace Loop

-- It sends what it holds, or else takes the next message if one is there.
def turn (l : Loop) (inbox : List Payload) : Loop :=
  match l.inHand with
  | some _ => { l with inHand := none }
  | none =>
    match inbox[l.taken]? with
    | some content => { taken := l.taken + 1, inHand := some content }
    | none => l

-- What it will send of what has come up to now.
def due (l : Loop) (inbox : List Payload) : List Payload :=
  l.inHand.toList ++ inbox.drop l.taken

-- Between two rounds.
def ofProgress (p : Progress) : Loop where
  taken := p.taken
  inHand := if p.greeted then none else some greeting

end Loop

-- A session and those who work for it, with the application and all that it has sent so far.
structure Room where
  scene : Scene
  loop : Loop := {}
  offered : List Payload := []

inductive Step where
  | act (a : Act)
  | turn

namespace Room

def sending (content : Payload) : Act :=
  .other (.send (.message content)) rfl

def acts (ρ : Room) : Step → List Act
  | .act a => [a]
  | .turn => ρ.loop.inHand.toList.map sending

def perform (ρ : Room) (step : Step) : Room :=
  match step with
  | .act a => { ρ with scene := ρ.scene.perform a }
  | .turn =>
    { scene := ρ.scene.run (ρ.acts .turn)
      loop := ρ.loop.turn ρ.scene.session.inbox
      offered := ρ.offered ++ ρ.loop.inHand.toList }

def run (ρ : Room) (steps : List Step) : Room :=
  steps.foldl perform ρ

-- All that is done to the session in a run.
def history (ρ : Room) : List Step → List Act
  | [] => []
  | step :: steps => ρ.acts step ++ (ρ.perform step).history steps

-- The messages that clients have said so far.
def inbox (ρ : Room) : List Payload :=
  ρ.scene.session.inbox

section

variable {ρ : Room}

theorem scene_perform (ρ : Room) (step : Step) :
    (ρ.perform step).scene = ρ.scene.run (ρ.acts step) := by
  cases step <;> rfl

theorem scene_run (ρ : Room) (steps : List Step) :
    (ρ.run steps).scene = ρ.scene.run (ρ.history steps) := by
  induction steps generalizing ρ with
  | nil => rfl
  | cons step steps ih =>
    rw [history, Scene.run_append, ← scene_perform]
    exact ih (ρ.perform step)

theorem session_sending (σ : Scene) (content : Payload) :
    (σ.perform (sending content)).session = offer σ.session content :=
  (offer_eq _ _).symm

theorem inbox_offer (s : Session) (content : Payload) : (offer s content).inbox = s.inbox := by
  rw [offer_eq]
  exact congrArg Prod.fst (s.intake_send (.message content))

-- A turn of an application that holds something sends it.
theorem perform_turn_of_some {content : Payload} (held : ρ.loop.inHand = some content) :
    (ρ.perform .turn).scene.session = offer ρ.scene.session content ∧
      (ρ.perform .turn).inbox = ρ.inbox ∧
      (ρ.perform .turn).loop = { taken := ρ.loop.taken, inHand := none } ∧
      (ρ.perform .turn).offered = ρ.offered ++ [content] := by
  have session : (ρ.perform .turn).scene.session = offer ρ.scene.session content := by
    rw [scene_perform, acts, held]
    exact session_sending ρ.scene content
  refine ⟨session, ?_, ?_, ?_⟩
  · rw [inbox, session]
    exact inbox_offer ρ.scene.session content
  · simp [perform, Loop.turn, held]
  · simp [perform, held]

-- Otherwise it takes the next message, if there is one, and that changes nothing for anyone else.

theorem perform_turn_of_next {content : Payload} (empty : ρ.loop.inHand = none)
    (next : ρ.inbox[ρ.loop.taken]? = some content) :
    ρ.perform .turn =
      { ρ with loop := { taken := ρ.loop.taken + 1, inHand := some content } } := by
  have next' : ρ.scene.session.inbox[ρ.loop.taken]? = some content := next
  simp [perform, acts, Loop.turn, empty, next']

theorem perform_turn_of_last (empty : ρ.loop.inHand = none)
    (last : ρ.inbox[ρ.loop.taken]? = none) : ρ.perform .turn = ρ := by
  have last' : ρ.scene.session.inbox[ρ.loop.taken]? = none := last
  simp [perform, acts, Loop.turn, empty, last']

-- Some turns of the application send all that is due, and then it waits.
def Settles (ρ : Room) (due : List Payload) : Prop :=
  ∃ n, let done := ρ.run (List.replicate n .turn)
    done.loop = { taken := ρ.inbox.length, inHand := none } ∧
      done.scene.session = due.foldl offer ρ.scene.session ∧
      done.inbox = ρ.inbox ∧ done.offered = ρ.offered ++ due

-- One turn sends what it holds, two turns send the next message.

theorem Settles.of_some {content : Payload} {due : List Payload}
    (held : ρ.loop.inHand = some content) (later : (ρ.perform .turn).Settles due) :
    ρ.Settles (content :: due) := by
  obtain ⟨session, inbox, _, offered⟩ := perform_turn_of_some held
  obtain ⟨n, waits, sent, same, said⟩ := later
  rw [session] at sent
  rw [inbox] at waits same
  rw [offered, List.append_assoc] at said
  exact ⟨n + 1, waits, sent, same, said⟩

theorem Settles.of_next {content : Payload} {due : List Payload} (empty : ρ.loop.inHand = none)
    (next : ρ.inbox[ρ.loop.taken]? = some content) (later : (ρ.perform .turn).Settles due) :
    ρ.Settles due := by
  obtain ⟨n, done⟩ := later
  have first : ρ.run (List.replicate (n + 1) .turn) =
      (ρ.perform .turn).run (List.replicate n .turn) := rfl
  refine ⟨n + 1, ?_⟩
  rw [first]
  rw [perform_turn_of_next empty next] at done ⊢
  exact done

end

-- What the application has sent and what it holds are the greeting and what it has taken, in order.
structure Faithful (ρ : Room) : Prop where
  valid : ρ.scene.session.Valid
  taken : ρ.loop.taken ≤ ρ.inbox.length
  said : ρ.offered ++ ρ.loop.inHand.toList = greeting :: ρ.inbox.take ρ.loop.taken

namespace Faithful

variable {ρ : Room}

theorem act (f : ρ.Faithful) (a : Act) : (ρ.perform (.act a)).Faithful := by
  have grows : (ρ.perform (.act a)).inbox =
      ρ.inbox ++ ρ.scene.session.given (ρ.scene.calls a) :=
    inbox_run f.valid (ρ.scene.calls a)
  refine ⟨Scene.valid_perform f.valid a, ?_, ?_⟩
  · rw [grows, List.length_append]
    exact Nat.le_add_right_of_le f.taken
  · rw [grows]
    exact f.said.trans (congrArg (greeting :: ·) (List.take_append_of_le_length f.taken).symm)

theorem turn (f : ρ.Faithful) : (ρ.perform .turn).Faithful := by
  cases held : ρ.loop.inHand with
  | some content =>
    obtain ⟨session, inbox, loop, offered⟩ := perform_turn_of_some held
    have said := f.said
    rw [held] at said
    refine ⟨?_, ?_, ?_⟩
    · rw [session, offer_eq]
      exact f.valid.perform _
    · rw [loop, inbox]
      exact f.taken
    · rw [loop, inbox, offered, ← said]
      simp
  | none =>
    cases next : ρ.inbox[ρ.loop.taken]? with
    | none =>
      rw [perform_turn_of_last held next]
      exact f
    | some content =>
      obtain ⟨bound, _⟩ := List.getElem?_eq_some_iff.mp next
      have said := f.said
      rw [held, Option.toList_none, List.append_nil] at said
      rw [perform_turn_of_next held next]
      refine ⟨f.valid, bound, ?_⟩
      have more : ρ.inbox.take (ρ.loop.taken + 1) = ρ.inbox.take ρ.loop.taken ++ [content] := by
        rw [List.take_add_one, next, Option.toList_some]
      exact (congrArg (· ++ [content]) said).trans (congrArg (greeting :: ·) more.symm)

theorem perform (f : ρ.Faithful) (step : Step) : (ρ.perform step).Faithful := by
  cases step with
  | act a => exact f.act a
  | turn => exact f.turn

theorem run (f : ρ.Faithful) (steps : List Step) : (ρ.run steps).Faithful := by
  induction steps generalizing ρ with
  | nil => exact f
  | cons step steps ih => exact ih (f.perform step)

-- Left alone, the application sends all that has come.
theorem settles (f : ρ.Faithful) : ρ.Settles (ρ.loop.due ρ.inbox) := by
  induction due : ρ.loop.due ρ.inbox generalizing ρ with
  | nil =>
    obtain ⟨empty, all⟩ := List.append_eq_nil_iff.mp due
    have held : ρ.loop.inHand = none := by simpa using empty
    have taken : ρ.loop.taken = ρ.inbox.length :=
      Nat.le_antisymm f.taken (List.drop_eq_nil_iff.mp all)
    exact ⟨0, by rw [← taken, ← held]; rfl, rfl, rfl, (List.append_nil _).symm⟩
  | cons content rest ih =>
    -- Once it is held it is sent, and the rest follows.
    have sends {ρ : Room} (f : ρ.Faithful) (held : ρ.loop.inHand = some content)
        (later : ρ.inbox.drop ρ.loop.taken = rest) : ρ.Settles (content :: rest) := by
      obtain ⟨_, inbox, loop, _⟩ := perform_turn_of_some held
      exact .of_some held (ih f.turn (by rw [loop, inbox]; exact later))
    cases held : ρ.loop.inHand with
    | some content' =>
      simp only [Loop.due, held, Option.toList_some, List.singleton_append] at due
      obtain ⟨rfl, later⟩ := List.cons.inj due
      exact sends f held later
    | none =>
      simp only [Loop.due, held, Option.toList_none, List.nil_append] at due
      have next : ρ.inbox[ρ.loop.taken]? = some content := by
        rw [← List.head?_drop, due, List.head?_cons]
      have later : ρ.inbox.drop (ρ.loop.taken + 1) = rest := by
        rw [← List.tail_drop, due, List.tail_cons]
      have turned := perform_turn_of_next held next
      exact .of_next held next (sends f.turn (turned ▸ rfl) (turned ▸ later))

end Faithful

-- A session opens, and the application has still to greet its client.
def opened (o : Origin) : Room where
  scene := o.scene

theorem faithful_opened (o : Origin) : (opened o).Faithful where
  valid := o.valid
  taken := Nat.zero_le _
  said := rfl

end Room

theorem Loop.due_ofProgress (p : Progress) (s : Session) :
    (ofProgress p).due s.inbox = Echo.due p s := by
  simp only [due, ofProgress, Echo.due]
  cases p.greeted <;> rfl

theorem check_greeting (r : Revision) : Batch.check (.message greeting) r = .ok () := by
  cases r <;> decide

-- Whatever is done to a session while the echo application serves it: what the application has sent,
-- and then what it holds, is the greeting and then the messages of the client in the order in which
-- they were received, each of them once. Nothing that it holds is refused while the session lives, on
-- whatever transport the message came and on whatever it goes back. Left alone it sends all that has
-- come, and to the session that is the same as a whole round.
theorem run_echoes (o : Origin) (steps : List Step) :
    let acts := (Room.opened o).history steps
    let ρ := (Room.opened o).run steps
    ρ.scene = o.scene.run acts ∧
      ρ.inbox = Packet.messages ((o.scene.heard (o.scene.alive acts)).map (·.2)) ∧
      ρ.offered ++ ρ.loop.inHand.toList = greeting :: ρ.inbox.take ρ.loop.taken ∧
      (∀ content, ρ.loop.inHand = some content → ρ.scene.session.isLive →
        ρ.scene.session.accepts (.message content)) ∧
      ∃ n, let done := ρ.run (List.replicate n .turn)
        done.offered = greeting :: ρ.inbox ∧ done.inbox = ρ.inbox ∧
          ∀ p, ρ.loop = .ofProgress p →
            let round := run p ρ.scene.session
            done.loop = .ofProgress round.1 ∧ done.scene.session = round.2 := by
  intro acts ρ
  have scene : ρ.scene = o.scene.run acts := Room.scene_run _ steps
  have faithful : ρ.Faithful := (Room.faithful_opened o).run steps
  have said := faithful.said
  refine ⟨scene, ?_, said, fun content held live => ?_, ?_⟩
  · rw [Room.inbox, scene]
    exact o.inbox_scene acts
  · have mem : content ∈ greeting :: ρ.inbox.take ρ.loop.taken := by
      rw [← said, held]
      exact List.mem_append_right _ List.mem_cons_self
    obtain rfl | taken := List.mem_cons.mp mem
    · exact accepts_message live fun _ => check_greeting _
    · have received := List.mem_of_mem_take taken
      rw [Room.inbox, scene] at received
      rw [scene] at live ⊢
      exact Origin.accepts_of_mem_inbox live received
  · obtain ⟨n, waits, sent, same, offered⟩ := faithful.settles
    refine ⟨n, ?_, same, fun p between => ⟨waits, sent.trans ?_⟩⟩
    · rw [offered, Loop.due, ← List.append_assoc, said, List.cons_append, List.take_append_drop]
    · rw [between]
      exact congrArg (List.foldl offer _) (Loop.due_ofProgress p ρ.scene.session)

-- A websocket says the separator of batches, which no body could say in this revision.
example :
    let said : Message := .frame (.text "4\x1e")
    let ρ := (Room.opened { Origin.plain with writer? := some .present }).run
      [.act (.cue 0 (.message said)), .turn, .act (.cue 0 (.next 0)), .turn, .turn]
    ρ.offered = [greeting, .text "\x1e"] ∧ ρ.scene.session.isLive ∧
      Batch.check (.message (.text "\x1e")) .v4 = .error .separatorInText := by
  decide +kernel

end Echo

end Duplex
