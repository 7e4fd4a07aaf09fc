import Duplex.Proofs.Session.Aside
import Duplex.Proofs.Session.Calls
import Duplex.Proofs.Session.Lifetime
import Duplex.Proofs.Session.Stable

-- How a websocket joins a session: it is probed, once or more often, and then it may take over. What
-- others do meanwhile makes no difference, unless they close the session.

namespace Duplex

namespace Websocket

theorem transport_send_of_present (id : TransportId) (revision : Revision)
    (packets : List Packet) :
    (({ id, revision } : Websocket).send packets).transport = { id, revision } := by
  simp [send, writable, Peer.isThere, write_present]

end Websocket

namespace Session

-- What can come about while a websocket wants to join.
inductive Moment where
  | heard (m : Message)
  | done (op : Op)

namespace Moment

def ofOthers (tid : TransportId) : Moment → Bool
  | heard _ => true
  | done op => op.ofOthers tid

def call? (r : Revision) : Moment → Option Call
  | heard m => m.call? r
  | done _ => none

end Moment

-- How the wish of a websocket to join came out, and what was passed on meanwhile.
structure Joined where
  role : Role
  told : List Event := []
  session : Session

-- All moments until the websocket has joined, or will not.
def awaitJoin (s : Session) (tid : TransportId) (deadline : Nat) : List (Nat × Moment) → Joined
  | [] => { role := .finished, session := s.joinTimedOut tid }
  | (now, moment) :: moments =>
    if deadline ≤ now then { role := .finished, session := s.joinTimedOut tid }
    else
      match moment with
      | .done op =>
        let joined := (s.perform op).awaitJoin tid deadline moments
        { joined with told := op.passes s ++ joined.told }
      | .heard m =>
        match s.hear tid .joining m now with
        | (.joining, s) => s.awaitJoin tid deadline moments
        | (role, session) => { role, session }

-- A websocket whose writer is there wants to join, and has its time from now on.
def join (s : Session) (tid : TransportId) (revision : Revision) (now : Nat)
    (moments : List (Nat × Moment)) : Joined :=
  (s.perform (.beginUpgrade tid revision .present)).awaitJoin tid
    (now + s.config.upgradeTimeout.toNat) moments

-- What is asked for before the deadline.
def calls (r : Revision) (deadline : Nat) (moments : List (Nat × Moment)) : List Call :=
  (moments.takeWhile (·.1 < deadline)).filterMap (·.2.call? r)

-- What is told of upgrades that failed.
def failures (es : List Event) : List Event :=
  es.filter (·.kind = .upgradeFailed)

theorem failures_append_of_quiet (told : List Event) {es : List Event}
    (quiet : ∀ e ∈ es, e.kind ≠ .upgradeFailed) : failures (told ++ es) = failures told := by
  have none_ : failures es = [] := List.filter_eq_nil_iff.mpr fun e mem => by simpa using quiet e mem
  rw [failures, List.filter_append]
  exact (congrArg (_ ++ ·) none_).trans (List.append_nil _)

-- A websocket whose writer is there, after so many probe pings.
def Pending.after (tid : TransportId) (revision : Revision) (pings : Nat) : Pending where
  transport := { id := tid, revision }
  probed := 0 < pings

-- What a call of that websocket comes to.
def onCall (s : Session) (tid : TransportId) (revision : Revision) (pings : Nat) :
    Call → Role × Session
  | .probe => (.joining, (s.answerProbe (.after tid revision pings)).releasePoll)
  | .upgrade =>
    if 0 < pings then (.carrying, s.completeUpgrade { id := tid, revision })
    else (.finished, s.abortUpgrade tid (.unexpectedInUpgrade .upgrade))
  | .wrong f => (.finished, s.abortUpgrade tid f)

-- A websocket that wants to join a session since it was `before`, and has sent so many probe pings.
structure Joining (before s : Session) (tid : TransportId) (revision : Revision) (pings : Nat) :
    Prop where
  valid : s.Valid
  identity : s.identity = before.identity
  channel : s.transport.channel = before.transport.channel
  pending : s.pending = some (.after tid revision pings)
  commands : s.commandsOn tid =
    before.commandsOn tid ++ List.replicate pings (.frame tid .probeAnswer)

-- How it comes out, told by the session as it was just before. `start` was told when it began.
inductive Outcome (before : Session) (tid : TransportId) (revision : Revision) (asked : List Call)
    (start : List Event) : Joined → Prop
  | joins {waited : Session} {pings : Nat} {told es : List Event}
    (joining : Joining before waited tid revision pings) (accepted : Accepted asked pings)
    (events : told ++ waited.events = start ++ es) (quiet : ∀ e ∈ es, e.kind ≠ .upgradeFailed) :
    Outcome before tid revision asked start
      { role := .carrying, told, session := waited.completeUpgrade { id := tid, revision } }
  | fails {waited : Session} {pings : Nat} {told es : List Event} {f : Fault}
    (joining : Joining before waited tid revision pings)
    (rejected : Rejected before.config.upgradeTimeout.toNat asked pings f)
    (events : told ++ waited.events = start ++ es) (quiet : ∀ e ∈ es, e.kind ≠ .upgradeFailed) :
    Outcome before tid revision asked start
      { role := .finished, told, session := waited.abortUpgrade tid f }

section

variable {before s : Session} {tid : TransportId} {revision : Revision} {pings : Nat}

-- A writer that is there takes the answer.
theorem Pending.answer_after :
    (Pending.after tid revision pings).answer =
      { transport := { id := tid, revision }, delivered := [.frame tid .probeAnswer] } := by
  simp [after, answer, Websocket.send, Websocket.writable, Websocket.write, Peer.isThere,
    Peer.take?, Frame.encode_probeAnswer]

namespace Joining

theorem revision_eq (h : Joining before s tid revision pings) : s.revision = before.revision :=
  congrArg (·.2.1) h.identity

theorem config_eq (h : Joining before s tid revision pings) : s.config = before.config :=
  congrArg (·.2.2) h.identity

theorem polling (h : Joining before s tid revision pings) : s.transport.kind = .polling :=
  (h.valid.pending _ h.pending).1

-- What others do.
theorem perform (h : Joining before s tid revision pings) {op : Op} (others : op.ofOthers tid)
    (live : (s.perform op).isLive) : Joining before (s.perform op) tid revision pings := by
  have aside := perform_aside h.valid h.pending others live
  exact ⟨h.valid.perform op,
    aside.identity.trans h.identity, aside.channel.trans h.channel, aside.pending.trans h.pending,
    aside.commands.trans h.commands⟩

theorem answered (h : Joining before s tid revision pings) :
    Joining before (s.answerProbe (.after tid revision pings)).releasePoll tid revision
      (pings + 1) := by
  have told : (s.answerProbe (.after tid revision pings)).releasePoll.dispatched =
      s.dispatched ++ .frame tid .probeAnswer :: s.transport.release.delivered := by
    simp [answerProbe, handOver, Pending.answer_after]
  have others : s.transport.release.delivered.filter (·.websocket? = some tid) = [] :=
    List.filter_eq_nil_iff.mpr fun d mem => by simp [Transport.websocket?_release h.polling d mem]
  refine ⟨(h.valid.answerProbe h.pending).releasePoll, h.identity, ?_, congrArg some ?_, ?_⟩
  · simpa [answerProbe, handOver] using h.channel
  · simp only [Pending.answer_after]
    simp [Pending.after]
  · rw [commandsOn_append told, List.filter_cons_of_pos (by simp [Delivery.websocket?]), others,
      h.commands, List.append_assoc, ← List.replicate_succ']

theorem takeProbe_eq (h : Joining before s tid revision pings) {f : Frame} {p : Packet}
    (decoded : Frame.decode f s.revision = .ok p) :
    s.takeProbe tid f =
      if p.kind = .ping ∧ p.isProbe then
        (.joining, (s.answerProbe (.after tid revision pings)).releasePoll)
      else if p.kind = .upgrade ∧ 0 < pings then
        (.carrying, s.completeUpgrade { id := tid, revision })
      else (.finished, s.abortUpgrade tid (.unexpectedInUpgrade p.kind)) := by
  have id : (Pending.after tid revision pings).transport.id = tid := rfl
  have probed : (Pending.after tid revision pings).probed = decide (0 < pings) := rfl
  simp only [takeProbe, decoded, probe, h.pending, Option.filter, id, decide_true, ↓reduceIte,
    Pending.answer_after, probed, decide_eq_true_eq]
  by_cases probes : p.kind = .ping ∧ p.isProbe
  · simp only [probes, and_self, ↓reduceIte]
  · by_cases upgrades : p.kind = .upgrade ∧ 0 < pings
    · simp only [upgrades, and_self, ↓reduceIte]
      rfl
    · simp only [probes, upgrades, ↓reduceIte]

theorem hear_quiet (s : Session) (tid : TransportId) {r : Revision} {m : Message} (now : Nat)
    (call : m.call? r = none) : s.hear tid .joining m now = (.joining, s) := by
  cases m with
  | control => rfl
  | close | failure => cases call
  | frame f =>
    simp only [Message.call?] at call
    split at call
    · cases call
    · split at call
      · cases call
      · split at call <;> cases call

theorem hear_eq (h : Joining before s tid revision pings) {m : Message} (now : Nat) {c : Call}
    (call : m.call? before.revision = some c) :
    s.hear tid .joining m now = s.onCall tid revision pings c := by
  rw [← h.revision_eq] at call
  cases m with
  | control => exact absurd call nofun
  | close | failure =>
    rw [← Option.some.inj call]
    rfl
  | frame f =>
    have heard : s.hear tid .joining (.frame f) now = s.takeProbe tid f := rfl
    rw [heard]
    simp only [Message.call?] at call
    cases decoded : Frame.decode f s.revision with
    | error e =>
      simp only [decoded] at call
      simp only [← Option.some.inj call, takeProbe, decoded, onCall]
    | ok p =>
      have probes : p.kind = .ping ∧ p.isProbe ↔ p.kind = .ping ∧ p.data = some (.text "probe") :=
        and_congr_right fun ping => by
          rw [Packet.isProbe, ping]
          exact decide_eq_true_iff
      simp only [decoded] at call
      rw [h.takeProbe_eq decoded]
      simp only [probes]
      split at call
      · next probe => simp only [probe, and_self, ↓reduceIte, ← Option.some.inj call, onCall]
      · next other =>
        simp only [other, ↓reduceIte]
        split at call
        · next upgrade => simp only [upgrade, true_and, ← Option.some.inj call, onCall]
        · next wrong => simp only [wrong, false_and, ↓reduceIte, ← Option.some.inj call, onCall]

-- What others tell meanwhile.
theorem history_perform (h : Joining before s tid revision pings) {op : Op}
    (others : op.ofOthers tid) (live : (s.perform op).isLive) :
    ∃ es, op.passes s ++ (s.perform op).events = s.events ++ es ∧
      ∀ e ∈ es, e.kind ≠ .upgradeFailed := by
  by_cases passes : op = .passOn
  · subst passes
    exact ⟨[], rfl, nofun⟩
  · rw [Op.passes_of_ne s passes]
    exact events_perform_aside h.valid h.pending passes others live

theorem timedOut (h : Joining before s tid revision pings) :
    Outcome before tid revision (List.replicate pings .probe) s.events
      { role := .finished, session := s.joinTimedOut tid } := by
  rw [joinTimedOut, h.config_eq]
  exact .fails h (.silence pings) (List.append_nil _).symm nofun

end Joining

-- A session that is over stays so.

theorem perform_dead (h : s.Valid ∧ s.isLive = false) (op : Op) :
    (s.perform op).Valid ∧ (s.perform op).isLive = false := by
  have ⟨v, dead⟩ := h
  have changes := perform_changes s op
  refine ⟨v.perform op, Decidable.byContradiction fun live => ?_⟩
  have live := Valid.isLive_of_changes v changes (by simpa using live)
  simp [dead] at live

theorem stable_dead : Stable fun s => s.Valid ∧ s.isLive = false :=
  fun _ op _ h => perform_dead h op

theorem awaitJoin_dead (tid : TransportId) (deadline : Nat) (moments : List (Nat × Moment))
    (h : s.Valid ∧ s.isLive = false) : (s.awaitJoin tid deadline moments).session.isLive = false := by
  have timedOut := (stable_dead.abortUpgrade h tid (.upgradeTimeout s.config.upgradeTimeout.toNat)).2
  induction moments generalizing s with
  | nil => exact timedOut
  | cons head moments ih =>
    have ⟨now, moment⟩ := head
    simp only [Session.awaitJoin]
    split
    · exact timedOut
    · cases moment with
      | done op =>
        have h' := perform_dead h op
        exact ih h' (stable_dead.abortUpgrade h' tid _).2
      | heard m =>
        have h' := stable_dead.hear h tid .joining m now
        dsimp only
        split
        · next heard =>
          rw [heard] at h'
          exact ih h' (stable_dead.abortUpgrade h' tid _).2
        · next heard =>
          rw [heard] at h'
          exact h'.2

theorem calls_cons_of_le {r : Revision} {deadline now : Nat} {moment : Moment}
    {moments : List (Nat × Moment)} (late : deadline ≤ now) :
    calls r deadline ((now, moment) :: moments) = [] := by
  simp [calls, Nat.not_lt.mpr late]

theorem calls_cons_of_lt {r : Revision} {deadline now : Nat} {moment : Moment}
    {moments : List (Nat × Moment)} (early : now < deadline) :
    calls r deadline ((now, moment) :: moments) =
      (moment.call? r).toList ++ calls r deadline moments := by
  simp only [calls, List.takeWhile_cons, early, decide_true, ↓reduceIte, List.filterMap_cons]
  cases moment.call? r <;> rfl

-- One more probe ping.
theorem replicate_probe_append (pings : Nat) (asked : List Call) :
    List.replicate pings .probe ++ Call.probe :: asked =
      List.replicate (pings + 1) .probe ++ asked := by
  rw [List.replicate_succ', List.append_assoc]
  rfl

-- What was told before.
theorem Outcome.after {asked : List Call} {start start' passed es : List Event} {joined : Joined}
    (h : Outcome before tid revision asked start' joined) (told : passed ++ start' = start ++ es)
    (quiet : ∀ e ∈ es, e.kind ≠ .upgradeFailed) :
    Outcome before tid revision asked start { joined with told := passed ++ joined.told } := by
  have all {es' told' : List Event} {s : Session} (events : told' ++ s.events = start' ++ es') :
      passed ++ told' ++ s.events = start ++ (es ++ es') := by
    rw [List.append_assoc, events, ← List.append_assoc, told, List.append_assoc]
  have quiet' {es' : List Event} (later : ∀ e ∈ es', e.kind ≠ .upgradeFailed) :
      ∀ e ∈ es ++ es', e.kind ≠ .upgradeFailed := fun e mem =>
    (List.mem_append.mp mem).elim (quiet e) (later e)
  cases h with
  | joins joining accepted events later => exact .joins joining accepted (all events) (quiet' later)
  | fails joining rejected events later => exact .fails joining rejected (all events) (quiet' later)

theorem Joining.awaitJoin {moments : List (Nat × Moment)} {deadline : Nat}
    (h : Joining before s tid revision pings) (others : ∀ e ∈ moments, e.2.ofOthers tid)
    (live : (s.awaitJoin tid deadline moments).session.isLive) :
    Outcome before tid revision
      (List.replicate pings .probe ++ calls before.revision deadline moments) s.events
      (s.awaitJoin tid deadline moments) := by
  induction moments generalizing s pings with
  | nil => simpa [calls, Session.awaitJoin] using h.timedOut
  | cons head moments ih =>
    have ⟨now, moment⟩ := head
    have ⟨first, rest⟩ := List.forall_mem_cons.mp others
    by_cases late : deadline ≤ now
    · rw [calls_cons_of_le late, List.append_nil]
      simpa only [Session.awaitJoin, late, ↓reduceIte] using h.timedOut
    · simp only [Session.awaitJoin, late, ↓reduceIte] at live ⊢
      rw [calls_cons_of_lt (Nat.not_le.mp late)]
      cases moment with
      | done op =>
        have alive : (s.perform op).isLive := Decidable.byContradiction fun dead => by
          have ended := awaitJoin_dead tid deadline moments
            ⟨h.valid.perform op, by simpa using dead⟩
          exact absurd (ended.symm.trans live) nofun
        have outcome := ih (h.perform first alive) rest live
        have ⟨es, told, quiet⟩ := h.history_perform first alive
        exact outcome.after told quiet
      | heard m =>
        dsimp only [Moment.call?] at live ⊢
        cases call : m.call? before.revision with
        | none =>
          simp only [hear_quiet s tid now call] at live ⊢
          exact ih h rest live
        | some c =>
          simp only [h.hear_eq now call] at live ⊢
          cases c with
          | probe =>
            have outcome := ih h.answered rest live
            rw [← replicate_probe_append] at outcome
            exact outcome
          | upgrade =>
            by_cases probed : 0 < pings
            · simp only [onCall, probed, ↓reduceIte]
              exact .joins h ⟨probed, _, rfl⟩ (List.append_nil _).symm nofun
            · simp only [onCall, probed, ↓reduceIte]
              have none_ : pings = 0 := Nat.eq_zero_of_not_pos probed
              subst none_
              exact .fails h (.early _) (List.append_nil _).symm nofun
          | wrong f =>
            exact .fails h (.wrong pings f _) (List.append_nil _).symm nofun

theorem joining_perform (v : before.Valid) (admitted : before.checkUpgrade = .ok ())
    (tid : TransportId) (revision : Revision) :
    Joining before (before.perform (.beginUpgrade tid revision .present)) tid revision 0 ∧
      (before.perform (.beginUpgrade tid revision .present)).events =
        before.events ++ [.stateChange .established .upgrading] := by
  have ⟨_, established, _⟩ := Valid.checkUpgrade_eq_ok_iff.mp admitted
  have joined := v.join tid revision .present admitted
  simp only [Session.perform, beginUpgrade, admitted]
  refine ⟨⟨joined, ?_, ?_, ?_, ?_⟩, events_enter _ established (by decide)⟩
  · rw [identity_enter]
    rfl
  · rw [transport_enter]
  · rw [pending_enter]
    rfl
  · simp [commandsOn]

theorem join_outcome (v : before.Valid) (admitted : before.checkUpgrade = .ok ()) {now : Nat}
    {moments : List (Nat × Moment)} (others : ∀ e ∈ moments, e.2.ofOthers tid)
    (live : (before.join tid revision now moments).session.isLive) :
    Outcome before tid revision
      (calls before.revision (now + before.config.upgradeTimeout.toNat) moments) before.events
      (before.join tid revision now moments) := by
  have ⟨joining, told⟩ := joining_perform v admitted tid revision
  have quiet : ∀ e ∈ [Event.stateChange .established .upgrading], e.kind ≠ .upgradeFailed := by
    simp [Event.kind]
  have told : [] ++ _ = before.events ++ _ := told
  exact (joining.awaitJoin others live).after told quiet

namespace Joining

-- A websocket whose writer is there takes all that waits.
theorem transport_completeUpgrade (s : Session) (tid : TransportId) (revision : Revision) :
    (s.completeUpgrade { id := tid, revision }).transport = .websocket { id := tid, revision } := by
  have ⟨_, eq⟩ := s.completeUpgrade_eq { id := tid, revision }
  rw [eq]
  cases (s.swap { id := tid, revision }).transport_flush with
  | inl same => exact same.trans (s.transport_swap _)
  | inr sent =>
    apply sent.trans
    rw [transport_swap]
    exact congrArg Transport.websocket (Websocket.transport_send_of_present tid revision _)

theorem abortUpgrade (h : Joining before s tid revision pings) (f : Fault) :
    (s.abortUpgrade tid f).state = .established ∧
      (s.abortUpgrade tid f).transport.channel = before.transport.channel ∧
      (s.abortUpgrade tid f).pending = none ∧
      (s.abortUpgrade tid f).commandsOn tid =
        before.commandsOn tid ++ List.replicate pings (.frame tid .probeAnswer) ++
          [.hangUp tid] := by
  have upgrading := h.valid.upgrading_of_pending h.pending
  have ⟨signals, eq⟩ := abortUpgrade_of_pending s f h.pending
  have eq : s.abortUpgrade tid f = { s.stay.flush with signals } := eq
  have polling : s.stay.transport.kind = .polling := by simpa using h.polling
  have flushed := (Aside.refl tid s.stay).flush polling
  rw [eq]
  refine ⟨?_, ?_, ?_, ?_⟩
  · simp [s.state_stay upgrading]
  · simpa using h.channel
  · simp
  · have hangUp : s.stay.dispatched = s.dispatched ++ [.hangUp tid] := s.dispatched_stay h.pending
    apply flushed.commands.trans
    rw [commandsOn_append hangUp, h.commands, List.filter_cons_of_pos (by simp [Delivery.websocket?])]
    rfl

end Joining

namespace Outcome

variable {asked : List Call} {start : List Event} {joined : Joined}

theorem carrying_iff (h : Outcome before tid revision asked start joined) :
    joined.role = .carrying ↔ ∃ pings, Accepted asked pings := by
  cases h with
  | joins _ accepted => exact ⟨fun _ => ⟨_, accepted⟩, fun _ => rfl⟩
  | fails _ rejected => exact ⟨nofun, fun ⟨_, accepted⟩ => absurd accepted rejected.not_accepted⟩

theorem of_accepted (h : Outcome before tid revision asked start joined)
    (accepted : Accepted asked pings) :
    joined.session.transport = .websocket { id := tid, revision } ∧
      ∃ waited : Session, joined.session = waited.completeUpgrade { id := tid, revision } ∧
        waited.commandsOn tid =
          before.commandsOn tid ++ List.replicate pings (.frame tid .probeAnswer) := by
  cases h with
  | joins joining accepted' =>
    have same := accepted.unique accepted'
    subst same
    exact ⟨Joining.transport_completeUpgrade .., _, rfl, joining.commands⟩
  | fails _ rejected => exact absurd accepted rejected.not_accepted

theorem of_not_carrying (h : Outcome before tid revision asked start joined)
    (fails : joined.role ≠ .carrying) :
    ∃ pings f, Rejected before.config.upgradeTimeout.toNat asked pings f ∧
      joined.role = .finished ∧ joined.session.state = .established ∧
      joined.session.transport.channel = before.transport.channel ∧ joined.session.pending = none ∧
      joined.session.commandsOn tid =
        before.commandsOn tid ++ List.replicate pings (.frame tid .probeAnswer) ++ [.hangUp tid] ∧
      failures (joined.told ++ joined.session.events) = failures start ++ [.upgradeFailed f] := by
  cases h with
  | joins => exact absurd rfl fails
  | @fails waited pings told es f joining rejected events quiet =>
    have ⟨state, channel, pending, commands⟩ := joining.abortUpgrade f
    refine ⟨pings, f, rejected, rfl, state, channel, pending, commands, ?_⟩
    have upgrading := joining.valid.upgrading_of_pending joining.pending
    have ended := events_abortUpgrade waited f joining.pending upgrading
    have ended : (waited.abortUpgrade tid f).events = _ := ended
    calc failures (told ++ (waited.abortUpgrade tid f).events)
      _ = failures (start ++ es ++ [.stateChange .upgrading .established, .upgradeFailed f]) := by
        rw [ended, ← List.append_assoc, events]
      _ = failures (start ++ es) ++ [.upgradeFailed f] := by simp [failures, Event.kind]
      _ = failures start ++ [.upgradeFailed f] := by rw [failures_append_of_quiet start quiet]

end Outcome

end

-- A websocket whose writer is there wants to take over from polling, and nobody closes the session
-- meanwhile. It carries the session if and only if its client asks in time, control messages apart,
-- for one probe or more and then for the upgrade, and for each probe it gets one answer. Otherwise
-- polling goes on as before, the websocket is told to hang up, and one failure is told, for the
-- first thing that went wrong.
theorem join_carries_iff (o : Origin) (before : List Op) (tid : TransportId) (revision : Revision)
    (now : Nat) (moments : List (Nat × Moment))
    (admitted : (o.session.run before).checkUpgrade = .ok ())
    (others : ∀ e ∈ moments, e.2.ofOthers tid)
    (live : ((o.session.run before).join tid revision now moments).session.isLive) :
    let s := o.session.run before
    let limit := s.config.upgradeTimeout.toNat
    let asked := calls s.revision (now + limit) moments
    let joined := s.join tid revision now moments
    (joined.role = .carrying ↔ ∃ pings, Accepted asked pings) ∧
      (∀ pings, Accepted asked pings →
        joined.session.transport = .websocket { id := tid, revision } ∧
          ∃ waited : Session, joined.session = waited.completeUpgrade { id := tid, revision } ∧
            waited.commandsOn tid =
              s.commandsOn tid ++ List.replicate pings (.frame tid .probeAnswer)) ∧
      (joined.role ≠ .carrying →
        ∃ pings f, Rejected limit asked pings f ∧ joined.role = .finished ∧
          joined.session.state = .established ∧
          joined.session.transport.channel = s.transport.channel ∧ joined.session.pending = none ∧
          joined.session.commandsOn tid =
            s.commandsOn tid ++ List.replicate pings (.frame tid .probeAnswer) ++ [.hangUp tid] ∧
          failures (joined.told ++ joined.session.events) =
            failures s.events ++ [.upgradeFailed f]) := by
  have outcome := join_outcome (valid_run o before) admitted others live
  exact ⟨outcome.carrying_iff, fun _ accepted => outcome.of_accepted accepted,
    fun fails => outcome.of_not_carrying fails⟩

-- A probe ping comes twice, and messages are sent meanwhile. Then the websocket takes over.
theorem join_carries_iff_twice :
    let moments : List (Nat × Moment) :=
      [(1, .heard (.frame (.text "2probe"))), (2, .done (.send (.message (.text "a")))),
        (2, .heard .control), (3, .done .passOn), (4, .heard (.frame (.text "2probe"))),
        (9999, .heard (.frame (.text "5"))), (9999, .heard .close)]
    let s := Origin.plain.session.run [.registerPoll, .registerPoll]
    let joined := s.join 1 .v4 0 moments
    joined.role = .carrying ∧ ∃ pings, Accepted (calls .v4 10000 moments) pings :=
  have carries := join_carries_iff Origin.plain [.registerPoll, .registerPoll] 1 .v4 0 _ rfl
    (by decide) (by decide)
  ⟨by decide, carries.1.mp (by decide)⟩

end Session

end Duplex
