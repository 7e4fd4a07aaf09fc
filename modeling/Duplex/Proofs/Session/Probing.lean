import Duplex.Proofs.Session.Hangup
import Duplex.Proofs.Session.Rivals

-- A session among the tasks that write for its websockets. A probe that fails changes nothing, and
-- a websocket takes over only after its probe was answered.

namespace Duplex

namespace Peer

-- A peer that takes no more is gone, or just going.
theorem of_take?_eq_none {p : Peer} (h : p.take? = none) : p = gone ∨ p = leaving 0 := by
  cases p with
  | present => cases h
  | gone => exact .inl rfl
  | leaving n =>
    cases n with
    | zero => exact .inr rfl
    | succ n => cases h

end Peer

namespace Session

-- What the answer to a probe ping comes to. The writer takes it, or has gone.

theorem Pending.answer_of_some {q : Pending} {writer : Peer} (open_ : q.transport.closed = false)
    (takes : q.transport.writer.take? = some writer) :
    q.answer = { transport := { q.transport with writer }
                 delivered := [.frame q.transport.id .probeAnswer] } := by
  have there : q.transport.writer.isThere := Peer.isThere_of_take? (by rw [takes]; rfl)
  simp [Pending.answer, Websocket.send, Websocket.writable, open_, there, Websocket.write,
    Frame.encode_probeAnswer, takes]

theorem Pending.answer_of_none {q : Pending} (open_ : q.transport.closed = false)
    (refuses : q.transport.writer.take? = none) :
    q.answer = { transport := { q.transport with writer := .gone }
                 refused := some [.probeAnswer] } := by
  obtain ⟨⟨id, revision, writer, closed⟩, probed⟩ := q
  obtain rfl : closed = false := open_
  obtain rfl | rfl := Peer.of_take?_eq_none refuses
  · rfl
  · simp [Pending.answer, Websocket.send, Websocket.writable, Peer.isThere, Websocket.write,
      Frame.encode_probeAnswer, Peer.take?]

section

variable {s : Session} {tid : TransportId} {p : Packet}

-- The probe of a websocket is answered: its writer is there, and is given the answer.
structure Answered (s : Session) (tid : TransportId) (p : Packet) : Prop where
  probed : (s.probe tid p).1 = .ok .probed
  there : ∃ q, s.pending = some q ∧ q.transport.id = tid ∧ q.transport.writer.isThere
  told : (s.probe tid p).2.commandsOn tid = s.commandsOn tid ++ [.frame tid .probeAnswer]

-- All that a probe can change when it fails: a probe ping that comes when the writer is gone leaves
-- the upgrade marked as probed.
theorem probe_eq_error (v : s.Valid) {f : Fault} (fails : (s.probe tid p).1 = .error f) :
    (s.probe tid p).2 = s ∨
      ∃ q, s.pending = some q ∧ q.transport.id = tid ∧ q.transport.writer.take? = none ∧
        (s.probe tid p).2 =
          { s with
            pending := some
              { transport := { q.transport with writer := .gone }, probed := true } } := by
  simp only [probe] at fails ⊢
  split
  · exact .inl rfl
  next q found =>
  obtain ⟨pending, named⟩ := Option.filter_eq_some_iff.mp found
  have open_ := (v.pending q pending).2.2
  rw [found] at fails
  dsimp only at fails
  split
  · next asked =>
    rw [if_pos asked] at fails
    cases takes : q.transport.writer.take? with
    | some writer =>
      rw [Pending.answer_of_some open_ takes] at fails
      cases fails
    | none =>
      refine .inr ⟨q, pending, of_decide_eq_true named, takes, ?_⟩
      rw [Pending.answer_of_none open_ takes]
      simp [answerProbe, Pending.answer_of_none open_ takes, handOver]
  · next other =>
    rw [if_neg other] at fails
    split
    · next done =>
      rw [if_pos done] at fails
      cases fails
    · exact .inl rfl

theorem answered_of_take? {q : Pending} (v : s.Valid) (pending : s.pending = some q)
    (takes : q.transport.writer.take?.isSome) (ping : p.kind = .ping) (isProbe : p.isProbe) :
    Answered s q.transport.id p := by
  have open_ := (v.pending q pending).2.2
  obtain ⟨writer, takes'⟩ := Option.isSome_iff_exists.mp takes
  have answer := Pending.answer_of_some open_ takes'
  have eq : s.probe q.transport.id p = (.ok .probed, (s.answerProbe q).releasePoll) := by
    simp [probe, pending, Option.filter, ping, isProbe, answer]
  refine ⟨by rw [eq], ⟨q, pending, rfl, Peer.isThere_of_take? takes⟩, ?_⟩
  have polling : (s.answerProbe q).transport.kind = .polling := (v.pending q pending).1
  have told : (s.answerProbe q).dispatched =
      s.dispatched ++ [.frame q.transport.id .probeAnswer] := by
    rw [answerProbe, answer]
    rfl
  rw [eq, (Aside.releasePoll polling).commands, commandsOn_append told]
  simp [Delivery.websocket?]

-- A websocket that goes on to wait is none that a call for its sake has changed.

theorem abortUpgrade_of_pending_after {q : Pending} {f : Fault}
    (after : (s.abortUpgrade tid f).pending = some q) : s.abortUpgrade tid f = s := by
  simp only [abortUpgrade] at after ⊢
  split at after
  · rfl
  · have gone : s.stay.flush.pending = none := by simp
    cases gone.symm.trans after

theorem transportClosed_of_pending_after {q : Pending} {reason : CloseReason}
    (after : (s.transportClosed tid reason).pending = some q) : s.transportClosed tid reason = s := by
  by_cases active : s.transport.id = tid
  · rw [transportClosed, if_pos active] at after ⊢
    cases live : s.isLive with
    | false => exact close_of_not_live reason live
    | true =>
      obtain ⟨_, eq⟩ := close_of_live reason live
      rw [eq] at after
      cases s.pending_shut.symm.trans after
  · rw [transportClosed, if_neg active] at after ⊢
    exact abortUpgrade_of_pending_after after

theorem probe_of_unprobed_after {q : Pending} (after : (s.probe tid p).2.pending = some q)
    (unprobed : q.probed = false) : (s.probe tid p).2 = s := by
  simp only [probe] at after ⊢
  split at after
  · rfl
  next q₀ _ =>
  split at after
  · have answered : (s.answerProbe q₀).pending = some q := by
      split at after <;> exact after
    rw [← Option.some.inj answered] at unprobed
    cases unprobed
  next other =>
  rw [if_neg other]
  split at after
  · obtain ⟨_, eq⟩ := s.completeUpgrade_eq q₀.transport
    simp [eq] at after
  · next late => rw [if_neg late]

end

-- A call of a session that neither brings a websocket along nor speaks for a writer.
def Op.isOwn : Op → Bool
  | beginUpgrade _ _ _ | setWriter _ _ => false
  | _ => true

-- The task that writes for a websocket takes its commands one by one and in order.
structure WriteLoop where
  taken : Nat := 0
  ended : Bool := false

-- A session, the tasks that write for its websockets, and the first name that no transport has yet.
structure Wired where
  session : Session
  next : TransportId
  writers : TransportId → WriteLoop := fun _ => {}

-- What happens next to a session and to those who write for it.
inductive Move where
  | call (op : Op) (own : op.isOwn)
  -- A new websocket comes that wants to join. Other names may have been given away in between.
  | connect (gap : Nat) (revision : Revision)
  -- A writer takes its next command. If it cannot write it, or was told that nothing follows, it
  -- ends.
  | write (tid : TransportId) (written : Bool)
  -- A writer ends while a call is going on, over a command that it has or over one of the `n` that
  -- it is given until then.
  | cut (tid : TransportId) (n : Nat)

def Origin.wired (o : Origin) : Wired where
  session := o.session
  next := o.tid + 1

namespace Wired

-- The commands that a writer was given and has not taken.
def waiting (w : Wired) (tid : TransportId) : List Delivery :=
  if (w.writers tid).ended then [] else (w.session.commandsOn tid).drop (w.writers tid).taken

def ends (tid : TransportId) (written : Bool) (c : Delivery) : Bool :=
  !written || c = .hangUp tid

-- What the session is called with, or learns of a writer.
def call? (w : Wired) : Move → Option Op
  | .call op _ => some op
  | .connect gap revision => some (.beginUpgrade (w.next + gap) revision .present)
  | .write tid written =>
    if (w.waiting tid).head?.any (ends tid written) then some (.setWriter tid .gone) else none
  | .cut tid n =>
    if (w.writers tid).ended ∨ w.waiting tid = [] ∧ n = 0 then none
    else some (.setWriter tid (.leaving n))

def writersAfter (w : Wired) (m : Move) (tid : TransportId) : WriteLoop :=
  let writer := w.writers tid
  match m with
  | .call _ _ | .connect _ _ => writer
  | .write tid' written =>
    match if tid' = tid then (w.waiting tid).head? else none with
    | none => writer
    | some c => { taken := writer.taken + 1, ended := ends tid written c }
  | .cut tid' _ => if tid' = tid ∧ (w.call? m).isSome then { writer with ended := true } else writer

def nextAfter (w : Wired) : Move → TransportId
  | .connect gap _ => w.next + gap + 1
  | _ => w.next

def perform (w : Wired) (m : Move) : Wired where
  session := w.session.run (w.call? m).toList
  next := w.nextAfter m
  writers := w.writersAfter m

def run (w : Wired) (moves : List Move) : Wired :=
  moves.foldl perform w

theorem run_append (w : Wired) (moves more : List Move) :
    w.run (moves ++ more) = (w.run moves).run more :=
  List.foldl_append

end Wired

-- What can be done to a session while names up to `next` are given away. A new websocket has a new
-- name, and a writer that goes was given something, or will be.
inductive Allowed (next : TransportId) (s : Session) : Option Op → TransportId → Prop
  | nothing : Allowed next s none next
  | own {op : Op} (own : op.isOwn) : Allowed next s (some op) next
  | joins (gap : Nat) (revision : Revision) :
    Allowed next s (some (.beginUpgrade (next + gap) revision .present)) (next + gap + 1)
  | goes {tid : TransportId} {writer : Peer}
    (first : s.commandsOn tid = [] → writer.take?.isSome) :
    Allowed next s (some (.setWriter tid writer)) next

theorem Wired.waiting_of_commandsOn {w : Wired} {tid : TransportId}
    (none_ : w.session.commandsOn tid = []) : w.waiting tid = [] := by
  simp [waiting, none_]

theorem Wired.allowed (w : Wired) (m : Move) :
    Allowed w.next w.session (w.call? m) (w.nextAfter m) := by
  cases m with
  | call op own => exact .own own
  | connect gap revision => exact .joins gap revision
  | write tid written =>
    simp only [call?]
    split
    · next last =>
      refine .goes fun none_ => ?_
      simp [waiting_of_commandsOn none_] at last
    · exact .nothing
  | cut tid n =>
    simp only [call?]
    split
    · exact .nothing
    · next goes =>
      refine .goes fun none_ => ?_
      cases n with
      | zero => exact absurd (.inr ⟨waiting_of_commandsOn none_, rfl⟩) goes
      | succ n => rfl

-- A websocket that waits and was not probed waited before, and was given nothing since.
theorem unprobed_perform {s : Session} (v : s.Valid) {op : Op} (own : op.isOwn) {q : Pending}
    (after : (s.perform op).pending = some q) (unprobed : q.probed = false) :
    s.pending = some q ∧
      (s.perform op).commandsOn q.transport.id = s.commandsOn q.transport.id := by
  have unchanged (same : s.perform op = s) : s.pending = some q ∧
      (s.perform op).commandsOn q.transport.id = s.commandsOn q.transport.id := by
    rw [same] at after ⊢
    exact ⟨after, rfl⟩
  by_cases others : op.ofOthers q.transport.id
  · cases remains_of_perform after with
    | letIn _ _ _ _ begins =>
      rw [begins] at own
      cases own
    | still before id =>
      rw [id] at others
      have aside := perform_aside v before others ((v.perform op).isLive_of_pending after)
      rw [aside.pending] at after
      exact ⟨after, id ▸ aside.commands⟩
  · cases op with
    | beginUpgrade | setWriter => cases own
    | probe => exact unchanged (probe_of_unprobed_after after unprobed)
    | abortUpgrade => exact unchanged (abortUpgrade_of_pending_after after)
    | transportClosed => exact unchanged (transportClosed_of_pending_after after)
    | _ => exact absurd rfl others

-- A new websocket was never heard of, and one that waits and was not probed was given nothing, so
-- its writer is there to take its first command.
structure Staffed (next : TransportId) (s : Session) : Prop where
  valid : s.Valid
  unknown : ∀ tid, next ≤ tid → Unknown tid s
  ready : ∀ q, s.pending = some q → q.probed = false →
    s.commandsOn q.transport.id = [] ∧ q.transport.writer.take?.isSome

namespace Staffed

variable {next next' : TransportId} {s : Session}

theorem lt_next (h : Staffed next s) {q : Pending} (pending : s.pending = some q) :
    q.transport.id < next := by
  refine Nat.lt_of_not_le fun new => ?_
  have unknown := (h.unknown _ new).serving
  rw [employed?_of_attached? (attached?_of_pending pending), if_pos rfl] at unknown
  cases unknown

-- Names that nobody has are not brought up by others.
theorem unknown_perform (h : Staffed next s) {op : Op} (le : next ≤ next')
    (others : ∀ tid, next' ≤ tid → op.brings? ≠ some tid) :
    ∀ tid, next' ≤ tid → Unknown tid (s.perform op) := fun tid new =>
  (h.unknown tid (Nat.le_trans le new)).treats (perform_treats h.valid (others tid new))

theorem own (h : Staffed next s) {op : Op} (own : op.isOwn) : Staffed next (s.perform op) where
  valid := h.valid.perform op
  unknown := h.unknown_perform (Nat.le_refl _) fun tid _ => by
    cases op with
    | beginUpgrade => cases own
    | _ => nofun
  ready q after unprobed := by
    obtain ⟨pending, same⟩ := unprobed_perform h.valid own after unprobed
    rw [same]
    exact h.ready q pending unprobed

-- A websocket that is let in is ready. If it is not let in, it is nothing to the one that waits.
theorem joins (h : Staffed next s) (gap : Nat) (revision : Revision) :
    Staffed (next + gap + 1) (s.perform (.beginUpgrade (next + gap) revision .present)) where
  valid := h.valid.perform _
  unknown := h.unknown_perform (Nat.le_succ_of_le (Nat.le_add_right _ _)) fun _ new same =>
    Nat.ne_of_lt new (Option.some.inj same)
  ready q after unprobed := by
    simp only [perform, beginUpgrade] at after ⊢
    cases check : s.checkUpgrade with
    | ok =>
      rw [check, pending_enter] at after
      obtain rfl := Option.some.inj after
      refine ⟨?_, rfl⟩
      rw [commandsOn, dispatched_enter]
      exact (h.unknown (next + gap) (Nat.le_add_right _ _)).commands
    | error f =>
      rw [check] at after
      have pending : s.pending = some q := after
      obtain ⟨none_, ready⟩ := h.ready q pending unprobed
      have older : q.transport.id ≠ next + gap :=
        Nat.ne_of_lt (Nat.lt_of_lt_of_le (h.lt_next pending) (Nat.le_add_right _ _))
      refine ⟨(commandsOn_of_others rfl fun d mem => ?_).trans none_, ready⟩
      rw [Websocket.websocket?_close _ d mem]
      exact fun same => older (Option.some.inj same).symm

theorem goes (h : Staffed next s) {tid : TransportId} {writer : Peer}
    (first : s.commandsOn tid = [] → writer.take?.isSome) :
    Staffed next (s.perform (.setWriter tid writer)) where
  valid := h.valid.perform _
  unknown := h.unknown_perform (Nat.le_refl _) fun _ _ => nofun
  ready q after unprobed := by
    obtain ⟨q₀, pending, rfl⟩ := Option.map_eq_some_iff.mp after
    obtain ⟨none_, ready⟩ := h.ready q₀ pending unprobed
    refine ⟨?_, ?_⟩
    · rw [Websocket.id_setWriter]
      exact none_
    · simp only [Websocket.setWriter]
      split
      · next same =>
        rw [same] at none_
        simpa [Peer.become, Peer.isThere_of_take? ready] using first none_
      · exact ready

theorem perform (h : Staffed next s) {op? : Option Op} (allowed : Allowed next s op? next') :
    Staffed next' (s.run op?.toList) := by
  cases allowed with
  | nothing => exact h
  | own own => exact h.own own
  | joins gap revision => exact h.joins gap revision
  | goes first => exact h.goes first

end Staffed

theorem Origin.staffed (o : Origin) : Staffed (o.tid + 1) o.session where
  valid := o.valid
  unknown tid new := by
    have opened : Treats tid True o.filled o.session := .flush o.valid_filled
    exact (unknown_filled (Nat.ne_of_lt new)).treats opened
  ready _ pending := absurd (o.pending_session.symm.trans pending) nofun

theorem Wired.staffed_run (o : Origin) (moves : List Move) :
    Staffed (o.wired.run moves).next (o.wired.run moves).session := by
  induction moves using List.reverseRecOn with
  | nil => exact o.staffed
  | append_singleton moves m ih =>
    rw [run_append]
    exact ih.perform ((o.wired.run moves).allowed m)

theorem Wired.move_of_call? {w : Wired} {m : Move} {tid : TransportId} {p : Packet}
    (calls : w.call? m = some (.probe tid p)) : m = .call (.probe tid p) rfl := by
  cases m with
  | call op own =>
    obtain rfl := Option.some.inj calls
    rfl
  | connect => cases calls
  | write | cut =>
    simp only [call?] at calls
    split at calls <;> cases calls

-- Whoever waits and was probed got an answer.
theorem Wired.exists_answered {o : Origin} {moves : List Move} {q : Pending}
    (pending : (o.wired.run moves).session.pending = some q) (probed : q.probed) :
    ∃ early p late, moves = early ++ .call (.probe q.transport.id p) rfl :: late ∧
      Answered (o.wired.run early).session q.transport.id p := by
  induction moves using List.reverseRecOn generalizing q with
  | nil => exact absurd (o.pending_session.symm.trans pending) nofun
  | append_singleton moves m ih =>
    have earlier {q₀ : Pending} (before : (o.wired.run moves).session.pending = some q₀)
        (probed : q₀.probed) (id : q.transport.id = q₀.transport.id) :
        ∃ early p late, moves ++ [m] = early ++ .call (.probe q.transport.id p) rfl :: late ∧
          Answered (o.wired.run early).session q.transport.id p := by
      obtain ⟨early, p, late, rfl, answered⟩ := ih before probed
      exact ⟨early, p, late ++ [m], by simp [id], id ▸ answered⟩
    rw [run_append] at pending
    have after : ((o.wired.run moves).session.run
      ((o.wired.run moves).call? m).toList).pending = some q := pending
    cases calls : (o.wired.run moves).call? m with
    | none =>
      rw [calls] at after
      exact earlier after probed rfl
    | some op =>
      rw [calls] at after
      cases remains_of_perform after with
      | letIn _ _ _ unprobed => exact absurd (probed.symm.trans unprobed) nofun
      | @still q₀ before id probes =>
        cases probed₀ : q₀.probed with
        | true => exact earlier before probed₀ id
        | false =>
          have asked := (probes probed).resolve_left (by simp [probed₀])
          have staffed := staffed_run o moves
          obtain ⟨_, takes⟩ := staffed.ready q₀ before probed₀
          cases op with
          | probe tid p =>
            obtain ⟨rfl, ping, isProbe⟩ := asked
            obtain rfl := move_of_call? calls
            have answered := answered_of_take? staffed.valid before takes ping isProbe
            exact ⟨moves, p, [], rfl, id ▸ answered⟩
          | _ => exact asked.elim

-- A session that finds a writer gone which it knew to be gone is the same.
theorem with_pending_gone {s : Session} {q : Pending} (pending : s.pending = some q)
    (probed : q.probed) (gone : q.transport.writer = .gone) :
    { s with pending := some { transport := { q.transport with writer := .gone }, probed := true } } =
      s := by
  rw [← gone, ← probed, ← pending]

theorem setWriter_of_going {s : Session} {q : Pending} (v : s.Valid) (pending : s.pending = some q)
    (probed : q.probed) (going : q.transport.writer = .leaving 0) :
    { s with pending := some { transport := { q.transport with writer := .gone }, probed := true } } =
      s.setWriter q.transport.id .gone := by
  have polling := (v.pending q pending).1
  have transport : s.transport.setWriter q.transport.id .gone = s.transport := by
    cases active : s.transport with
    | polling t => rfl
    | websocket t =>
      rw [active] at polling
      cases polling
  rw [setWriter, transport, pending, ← probed]
  simp [Websocket.setWriter, going, Peer.become, Peer.isThere]

-- Whatever is called and whenever writers end: a probe that fails leaves the session as it is,
-- apart from a writer that was just going and now has gone. So a websocket takes over only after
-- its probe was answered, with the answer given to a writer that was there. The session marks an
-- upgrade as probed before it finds that the writer has gone, but the writer of a websocket that
-- was not probed still waits for its first command.
theorem run_probe_intact (o : Origin) (moves : List Move) (tid : TransportId) (p : Packet) :
    let s := (o.wired.run moves).session
    (∀ f, (s.probe tid p).1 = .error f →
      (s.probe tid p).2 = s ∨
        (∃ q, s.pending = some q ∧ q.transport.id = tid ∧ q.transport.writer = .leaving 0) ∧
          (s.probe tid p).2 = s.setWriter tid .gone) ∧
      ((s.probe tid p).1 = .ok .upgraded →
        ∃ early p' late, moves = early ++ .call (.probe tid p') rfl :: late ∧
          Answered (o.wired.run early).session tid p') := by
  intro s
  have staffed : Staffed _ s := Wired.staffed_run o moves
  refine ⟨fun f fails => ?_, fun upgraded => ?_⟩
  · obtain same | ⟨q, pending, id, refuses, eq⟩ := probe_eq_error staffed.valid fails
    · exact .inl same
    have probed : q.probed := by
      cases probed : q.probed with
      | true => rfl
      | false =>
        obtain ⟨_, takes⟩ := staffed.ready q pending probed
        simp [refuses] at takes
    rw [eq]
    cases Peer.of_take?_eq_none refuses with
    | inl gone => exact .inl (with_pending_gone pending probed gone)
    | inr going =>
      exact .inr ⟨⟨q, pending, id, going⟩, id ▸ setWriter_of_going staffed.valid pending probed going⟩
  · obtain ⟨_, q, pending, rfl, probed⟩ := exists_probed_of_upgraded upgraded
    exact Wired.exists_answered pending probed

-- The writer cannot write the answer to the first probe ping and ends. The second one finds it gone
-- and changes nothing. The websocket may still take over, since the first one was answered.
theorem run_probe_intact_cut :
    let ping : Packet := { kind := .ping, data := some (.text "probe") }
    let moves : List Move := [.connect 0 .v4, .call (.probe 1 ping) rfl, .write 1 false]
    let s := (Origin.plain.wired.run moves).session
    ((s.probe 1 ping).1 = .error .upgradeTransportClosed ∧ (s.probe 1 ping).2 = s) ∧
      (s.probe 1 .upgrade).1 = .ok .upgraded ∧
      ∃ early p late, moves = early ++ .call (.probe 1 p) rfl :: late ∧
        Answered (Origin.plain.wired.run early).session 1 p := by
  intro ping moves s
  have fails : (s.probe 1 ping).1 = .error .upgradeTransportClosed := rfl
  have upgrades : (s.probe 1 .upgrade).1 = .ok .upgraded := rfl
  have gone : ∀ q, s.pending = some q → q.transport.writer = .gone := fun q pending => by
    rw [← Option.some.inj pending]
    rfl
  have same := ((run_probe_intact .plain moves 1 ping).1 _ fails).resolve_right fun going => by
    obtain ⟨⟨q, pending, _, leaving⟩, _⟩ := going
    cases (gone q pending).symm.trans leaving
  exact ⟨⟨fails, same⟩, upgrades, (run_probe_intact .plain moves 1 .upgrade).2 upgrades⟩

end Session

end Duplex
