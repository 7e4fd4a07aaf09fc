import Duplex.Proofs.Session.Ending
import Duplex.Proofs.Session.Commands

-- Websockets that ask to take over from one polling session. They are let in one at a time, each goes
-- its own way to the end of its upgrade, and whoever is not in can do nothing to the others.

namespace Duplex.Session

namespace Op

-- The websocket for whose sake a call is made.
def caller? : Op → Option TransportId
  | beginUpgrade tid _ _ | probe tid _ | abortUpgrade tid _ | transportClosed tid _ => some tid
  | _ => none

-- The probe ping of a websocket.
def IsProbe (tid : TransportId) : Op → Prop
  | probe tid' p => tid' = tid ∧ p.kind = .ping ∧ p.isProbe
  | _ => False

end Op

-- A websocket that neither asks to take over nor is the active transport.
def Outside (s : Session) (tid : TransportId) : Prop :=
  s.transport.id ≠ tid ∧ ∀ p, s.pending = some p → p.transport.id ≠ tid

section

variable {s s' : Session} {tid : TransportId} {q : Pending}

-- An upgrade that was begun goes on or is given up. `Drops` is said of a step that does nothing else
-- to it.
def Drops (s s' : Session) : Prop :=
  ∀ q, s'.pending = some q → s.pending = some q

theorem Drops.of_eq (same : s'.pending = s.pending) : Drops s s' := fun _ => same.symm.trans

theorem drops_close (s : Session) (reason : CloseReason) : Drops s (s.close reason) := by
  intro q after
  cases live : s.isLive with
  | false => rwa [close_of_not_live reason live] at after
  | true =>
    obtain ⟨_, eq⟩ := close_of_live reason live
    rw [eq] at after
    cases s.pending_shut.symm.trans after

theorem drops_abortUpgrade (s : Session) (tid : TransportId) (f : Fault) :
    Drops s (s.abortUpgrade tid f) := by
  intro q after
  simp only [abortUpgrade] at after
  split at after
  · exact after
  · have gone : s.stay.flush.pending = none := by simp
    cases gone.symm.trans after

theorem drops_send (s : Session) (p : Packet) : Drops s ((s.send p).toOption.getD s) := by
  cases sent : s.send p with
  | error f => exact .of_eq rfl
  | ok s' =>
    obtain ⟨_, _, eq⟩ := send_eq_ok sent
    exact .of_eq (by simp [eq, Except.toOption])

theorem drops_registerPoll (s : Session) : Drops s (s.perform .registerPoll) := by
  cases registered : s.registerPoll with
  | error f =>
    rw [perform_registerPoll_of_error registered]
    exact .of_eq rfl
  | ok done =>
    obtain ⟨_, _, t, t', _, _, eq⟩ := registerPoll_eq_ok registered
    rw [perform_registerPoll registered, eq]
    exact .of_eq (pending_flush _)

theorem drops_receive (s : Session) (p : Packet) (now : Nat) :
    Drops s (s.receive p now) := by
  simp only [receive]
  cases p.kind with
  | ping =>
    simp only [answerPing_eq]
    exact drops_send ((s.meter .received).heartbeat now) (.pong p.data)
  | message =>
    simp only [takeIn]
    split <;> exact .of_eq rfl
  | close => exact drops_close (s.meter .received) .transportClose
  | pong | handshake | upgrade | noop => exact .of_eq rfl

theorem drops_recordDecodeError (s : Session) (e : DecodeError) :
    Drops s (s.recordDecodeError e) := by
  simp only [recordDecodeError]
  split
  · exact drops_close (s.countDecodeError e) .parseError
  · exact .of_eq rfl

theorem drops_transportClosed (s : Session) (tid : TransportId) (reason : CloseReason) :
    Drops s (s.transportClosed tid reason) := by
  simp only [transportClosed]
  split
  · exact drops_close s reason
  · exact drops_abortUpgrade s tid _

-- How a websocket comes to be pending after a step: it was before, or it has just been let in. Only its
-- probe ping makes it probed.
inductive Remains (s : Session) (op : Op) (q : Pending) : Prop
  | still {q₀ : Pending} (before : s.pending = some q₀) (id : q.transport.id = q₀.transport.id)
    (probes : q.probed → q₀.probed ∨ op.IsProbe q.transport.id)
  | letIn (r : Revision) (w : Peer) (admitted : s.checkUpgrade = .ok ()) (fresh : q.probed = false)
    (begins : op = .beginUpgrade q.transport.id r w)

theorem remains_beginUpgrade {r : Revision} {w : Peer}
    (after : (s.perform (.beginUpgrade tid r w)).pending = some q) :
    Remains s (.beginUpgrade tid r w) q := by
  simp only [perform, beginUpgrade] at after
  cases admitted : s.checkUpgrade with
  | error f =>
    rw [admitted] at after
    exact .still after rfl .inl
  | ok =>
    rw [admitted, pending_enter] at after
    obtain rfl := Option.some.inj after
    exact .letIn r w admitted rfl rfl

theorem remains_probe {p : Packet} (after : (s.probe tid p).2.pending = some q) :
    Remains s (.probe tid p) q := by
  simp only [probe] at after
  split at after
  · exact .still after rfl .inl
  next q₀ found =>
  obtain ⟨pending, named⟩ := Option.filter_eq_some_iff.mp found
  have id : q₀.transport.id = tid := of_decide_eq_true named
  split at after
  · next asked =>
    have answered : (s.answerProbe q₀).pending = some q := by
      split at after <;> exact after
    obtain rfl := Option.some.inj answered
    have same : q₀.answer.transport.id = q₀.transport.id := q₀.transport.id_send _
    exact .still pending same fun _ => .inr ⟨(same.trans id).symm, asked⟩
  · split at after
    · obtain ⟨_, eq⟩ := s.completeUpgrade_eq q₀.transport
      simp [eq] at after
    · exact .still after rfl .inl

theorem remains_of_perform {op : Op} (after : (s.perform op).pending = some q) :
    Remains s op q := by
  have stays (drops : Drops s (s.perform op)) : Remains s op q := .still (drops q after) rfl .inl
  cases op with
  | send p => exact stays (drops_send s p)
  | registerPoll => exact stays (drops_registerPoll s)
  | receive p now => exact stays (drops_receive s p now)
  | recordDecodeError e => exact stays (drops_recordDecodeError s e)
  | beginUpgrade tid r w => exact remains_beginUpgrade after
  | probe tid p => exact remains_probe after
  | setWriter tid w =>
    obtain ⟨q₀, pending, rfl⟩ := Option.map_eq_some_iff.mp after
    exact .still pending (by simp) .inl
  | transportClosed tid reason => exact stays (drops_transportClosed s tid reason)
  | abortUpgrade tid f => exact stays (drops_abortUpgrade s tid f)
  | close reason => exact stays (drops_close s reason)
  | expirePoll | setPollClient | heartbeat | countDecodeError | resetDecodeErrors | report | passOn =>
    exact stays (.of_eq rfl)

-- A websocket that takes over was probed, and sends its upgrade packet.
theorem exists_probed_of_upgraded {p : Packet} (h : (s.probe tid p).1 = .ok .upgraded) :
    p.kind = .upgrade ∧ ∃ q, s.pending = some q ∧ q.transport.id = tid ∧ q.probed := by
  simp only [probe] at h
  split at h
  · cases h
  next q found =>
  obtain ⟨pending, named⟩ := Option.filter_eq_some_iff.mp found
  split at h
  · split at h <;> cases h
  · split at h
    · next asked => exact ⟨asked.1, q, pending, of_decide_eq_true named, asked.2⟩
    · cases h

end

-- How a websocket came to ask to take over: it was let in, and has asked ever since. `since` are the
-- operations that came in the meantime.
inductive Asks (o : Origin) (tid : TransportId) : List Op → List Op → Prop
  | letIn {ops : List Op} (r : Revision) (w : Peer)
    (admitted : (o.session.run ops).checkUpgrade = .ok ()) :
    Asks o tid (ops ++ [.beginUpgrade tid r w]) []
  | goesOn {ops since : List Op} {op : Op} (before : Asks o tid ops since)
    (still : ∃ q, (o.session.run (ops ++ [op])).pending = some q ∧ q.transport.id = tid) :
    Asks o tid (ops ++ [op]) (since ++ [op])

-- A websocket that asks to take over and whose probe ping has come.
def Probed (o : Origin) (tid : TransportId) (ops : List Op) : Prop :=
  ∃ since, Asks o tid ops since ∧ ∃ op ∈ since, op.IsProbe tid

-- At some time a websocket took over: it was probed, and its upgrade packet came.
def TookOver (o : Origin) (tid : TransportId) (ops : List Op) : Prop :=
  ∃ early p late, ops = early ++ .probe tid p :: late ∧ Probed o tid early ∧ p.kind = .upgrade ∧
    ((o.session.run early).probe tid p).1 = .ok .upgraded

section

variable {o : Origin} {ops : List Op} {tid tid' : TransportId}

theorem TookOver.append (h : TookOver o tid ops) (more : List Op) : TookOver o tid (ops ++ more) := by
  obtain ⟨early, p, late, rfl, rest⟩ := h
  exact ⟨early, p, late ++ more, by simp, rest⟩

-- Whoever is pending has come to it by asking.
theorem asks_of_pending {q : Pending} (pending : (o.session.run ops).pending = some q) :
    ∃ since, Asks o q.transport.id ops since ∧
      (q.probed → ∃ op ∈ since, op.IsProbe q.transport.id) := by
  induction ops using List.reverseRecOn generalizing q with
  | nil => exact absurd (o.pending_session.symm.trans pending) nofun
  | append_singleton ops op ih =>
    have after : ((o.session.run ops).perform op).pending = some q := by
      rwa [run_append] at pending
    cases remains_of_perform after with
    | still before id probes =>
      obtain ⟨since, asks, probed⟩ := ih before
      rw [← id] at asks probed
      refine ⟨since ++ [op], asks.goesOn ⟨q, pending, rfl⟩, fun yes => ?_⟩
      obtain earlier | now := probes yes
      · obtain ⟨op', mem, ping⟩ := probed earlier
        exact ⟨op', List.mem_append_left _ mem, ping⟩
      · exact ⟨op, by simp, now⟩
    | letIn r w admitted fresh begins =>
      rw [begins]
      exact ⟨[], .letIn r w admitted, fun yes => absurd (fresh.symm.trans yes) nofun⟩

-- A websocket that carries the session opened it or took over.
theorem tookOver_of_channel {r : Revision}
    (active : (o.session.run ops).transport.channel = .websocket tid r) :
    (o.writer?.isSome ∧ tid = o.tid) ∨ TookOver o tid ops := by
  induction ops using List.reverseRecOn with
  | nil =>
    have opened : o.transport.channel = .websocket tid r := o.channel_session.symm.trans active
    simp only [Origin.transport] at opened
    split at opened
    · cases opened
    · next writer writes => exact .inl ⟨by simp [writes], (Channel.websocket.inj opened).1.symm⟩
  | append_singleton ops op ih =>
    have after : ((o.session.run ops).perform op).transport.channel = .websocket tid r := by
      rwa [run_append] at active
    obtain same | ⟨tid', p, r', rfl, upgraded, channel⟩ := (o.session.run ops).channel_perform op
    · exact (ih (same.symm.trans after)).imp_right (·.append [op])
    · obtain ⟨rfl, _⟩ := Channel.websocket.inj (channel.symm.trans after)
      obtain ⟨kind, q, pending, rfl, probed⟩ := exists_probed_of_upgraded upgraded
      obtain ⟨since, asks, ping⟩ := asks_of_pending pending
      exact .inr ⟨ops, p, [], rfl, ⟨since, asks, ping probed⟩, kind, upgraded⟩

-- A websocket that took over carries the session from then on, and it took over from polling.
theorem TookOver.active (h : TookOver o tid ops) :
    o.writer? = none ∧ ∃ r, (o.session.run ops).transport.channel = .websocket tid r := by
  obtain ⟨early, p, late, rfl, _, _, upgraded⟩ := h
  have v := valid_run o early
  obtain ⟨_, q, pending, id, _⟩ := exists_probed_of_upgraded upgraded
  have polling := (v.pending q pending).1
  refine ⟨?_, ?_⟩
  · cases opened : o.writer? with
    | none => rfl
    | some writer =>
      have first : o.session.transport.channel = .websocket o.tid o.revision := by
        rw [o.channel_session, Origin.transport, opened]
        rfl
      rw [← Transport.kind_channel, channel_run_of_websocket o.valid first early] at polling
      cases polling
  · obtain same | ⟨_, _, r, probes, _, channel⟩ :=
      (o.session.run early).channel_perform (.probe tid p)
    · obtain ⟨t, active, _⟩ := exists_websocket_of_upgraded (Prod.ext upgraded rfl)
      have carries : ((o.session.run early).perform (.probe tid p)).transport.kind = .websocket := by
        rw [perform, active]
        rfl
      rw [← Transport.kind_channel, same, Transport.kind_channel, polling] at carries
      cases carries
    · obtain ⟨rfl, rfl⟩ := Op.probe.inj probes
      refine ⟨r, ?_⟩
      rw [run_append, run_cons]
      exact channel_run_of_websocket (v.perform _) channel late

-- There is one that takes over at most.
theorem TookOver.unique (h : TookOver o tid ops) (h' : TookOver o tid' ops) : tid = tid' := by
  obtain ⟨_, r, active⟩ := h.active
  obtain ⟨_, r', active'⟩ := h'.active
  exact (Channel.websocket.inj (active.symm.trans active')).1

end

section

variable {s : Session} {tid : TransportId}

theorem Outside.filter_eq_none (h : s.Outside tid) :
    s.pending.filter (·.transport.id = tid) = none := by
  cases pending : s.pending with
  | none => rfl
  | some p => simpa [Option.filter] using h.2 p pending

-- Whatever is called for the sake of a websocket that is outside, it is let in at best. All that comes
-- of other calls is that it is told to hang up.
theorem Outside.perform_eq (h : s.Outside tid) {op : Op} (caller : op.caller? = some tid) :
    (s.checkUpgrade = .ok () ∧ ∃ r w, op = .beginUpgrade tid r w) ∨
      ∃ told, s.perform op = s.handOver told ∧ ∀ d ∈ told, d = .hangUp tid := by
  have nothing (same : s.perform op = s) :
      ∃ told, s.perform op = s.handOver told ∧ ∀ d ∈ told, d = .hangUp tid :=
    ⟨[], by simp [same, handOver], by simp⟩
  cases op with
  | beginUpgrade tid' r w =>
    obtain rfl := Option.some.inj caller
    cases check : s.checkUpgrade with
    | ok => exact .inl ⟨rfl, r, w, rfl⟩
    | error f =>
      let t : Websocket := { id := tid', revision := r, writer := w }
      refine .inr ⟨t.close.delivered, by simp only [perform, beginUpgrade, check, t], ?_⟩
      obtain hangUp | ⟨none_, _⟩ := t.close_hangUp rfl
      · simp [hangUp, t]
      · simp [none_]
  | probe tid' p =>
    obtain rfl := Option.some.inj caller
    exact .inr (nothing (by simp only [perform, probe, h.filter_eq_none]))
  | abortUpgrade tid' f =>
    obtain rfl := Option.some.inj caller
    exact .inr (nothing (abortUpgrade_of_filter_none s f h.filter_eq_none))
  | transportClosed tid' reason =>
    obtain rfl := Option.some.inj caller
    refine .inr (nothing ?_)
    simp only [perform, transportClosed, if_neg h.1]
    exact abortUpgrade_of_filter_none s _ h.filter_eq_none
  | send | registerPoll | expirePoll | setPollClient | receive | heartbeat | recordDecodeError |
    countDecodeError | resetDecodeErrors | report | setWriter | close | passOn => cases caller

theorem Outside.probe_eq (h : s.Outside tid) (p : Packet) :
    s.probe tid p = (.error .noPendingUpgrade, s) := by
  simp only [probe, h.filter_eq_none]

-- Nobody else lets a websocket in.
theorem Outside.perform (h : s.Outside tid) {op : Op} (other : op.brings? ≠ some tid) :
    (s.perform op).Outside tid := by
  refine ⟨?_, fun q after id => ?_⟩
  · rw [← Transport.id_channel]
    obtain same | ⟨tid', p, r, rfl, upgraded, channel⟩ := s.channel_perform op
    · rw [same, Transport.id_channel]
      exact h.1
    · rw [channel]
      obtain ⟨_, q, pending, id, _⟩ := exists_probed_of_upgraded upgraded
      exact id ▸ h.2 q pending
  · cases remains_of_perform after with
    | still before same => exact h.2 _ before (same.symm.trans id)
    | letIn r w _ _ begins => exact other (begins ▸ congrArg some id)

theorem Outside.run (h : s.Outside tid) {ops : List Op} (others : tid ∉ ops.filterMap Op.brings?) :
    (s.run ops).Outside tid := by
  induction ops generalizing s with
  | nil => exact h
  | cons op ops ih =>
    refine ih (h.perform fun brings => others ?_) fun mem => others ?_
    · exact List.mem_filterMap.mpr ⟨op, List.mem_cons_self, brings⟩
    · obtain ⟨op', mem', brings⟩ := List.mem_filterMap.mp mem
      exact List.mem_filterMap.mpr ⟨op', List.mem_cons_of_mem _ mem', brings⟩

-- A session works with one websocket at a time.
theorem Employs.unique (v : s.Valid) {tid' : TransportId} (h : s.Employs tid)
    (h' : s.Employs tid') : tid = tid' := by
  rw [employs_iff v, Option.isSome_iff_exists] at h h'
  obtain ⟨t, serves⟩ := h
  obtain ⟨t', serves'⟩ := h'
  obtain ⟨attached, id⟩ := Option.filter_eq_some_iff.mp serves
  obtain ⟨attached', id'⟩ := Option.filter_eq_some_iff.mp serves'
  obtain rfl := Option.some.inj (attached.symm.trans attached')
  exact (of_decide_eq_true id).symm.trans (of_decide_eq_true id')

-- It is not let in where there is another.
theorem Employs.checkUpgrade_ne_ok (v : s.Valid) (h : s.Employs tid) : s.checkUpgrade ≠ .ok () := by
  intro admitted
  obtain ⟨_, established, polling⟩ := Valid.checkUpgrade_eq_ok_iff.mp admitted
  obtain ⟨_, t, active, _⟩ | ⟨p, pending, _⟩ := h
  · rw [active] at polling
    cases polling
  · exact absurd (established.symm.trans (v.upgrading_of_pending pending)) nofun

end

-- Whatever is done to a session, by whomever and in whatever order: it works with one websocket at a
-- time and lets in no other meanwhile, whoever is pending was let in and has asked ever since, and one
-- websocket at most ever takes over, after its own probe ping and with its own upgrade packet. What is
-- called for the sake of a websocket that is neither pending nor active changes nothing for anyone
-- else and is told to nobody, unless that websocket is let in, and only it can bring that about.
theorem run_isolates (o : Origin) (ops : List Op) :
    let s := o.session.run ops
    (∀ tid tid', s.Employs tid → s.Employs tid' → tid = tid') ∧
      (∀ tid, s.Employs tid → s.checkUpgrade ≠ .ok ()) ∧
      (∀ q, s.pending = some q → (∃ since, Asks o q.transport.id ops since) ∧
        (q.probed → Probed o q.transport.id ops)) ∧
      (∀ tid r, s.transport.channel = .websocket tid r →
        (o.writer?.isSome ∧ tid = o.tid) ∨ TookOver o tid ops) ∧
      (∀ tid, TookOver o tid ops → o.writer? = none ∧
        (∃ r, s.transport.channel = .websocket tid r) ∧
        ∀ more tid', TookOver o tid' (ops ++ more) → tid' = tid) ∧
      ∀ tid, s.Outside tid →
        (∀ op, op.caller? = some tid →
          (s.checkUpgrade = .ok () ∧ ∃ r w, op = .beginUpgrade tid r w) ∨
            ∃ told, s.perform op = s.handOver told ∧ ∀ d ∈ told, d = .hangUp tid) ∧
        (∀ p, s.probe tid p = (.error .noPendingUpgrade, s)) ∧
        ∀ more, tid ∉ more.filterMap Op.brings? → (s.run more).Outside tid := by
  intro s
  have v : s.Valid := valid_run o ops
  refine ⟨fun tid tid' employs => employs.unique v, fun tid employs => employs.checkUpgrade_ne_ok v,
    fun q pending => ?_, fun tid r => tookOver_of_channel, fun tid took => ?_, fun tid outside => ?_⟩
  · obtain ⟨since, asks, probed⟩ := asks_of_pending pending
    exact ⟨⟨since, asks⟩, fun yes => ⟨since, asks, probed yes⟩⟩
  · obtain ⟨polled, active⟩ := took.active
    exact ⟨polled, active, fun more tid' took' => took'.unique (took.append more)⟩
  · exact ⟨fun op => outside.perform_eq, outside.probe_eq, fun more => outside.run⟩

-- Two websockets want to join. The second is told to hang up, and what it sends, and its end, are
-- nothing to the first, which takes over.
example :
    let ping : Packet := { kind := .ping, data := some (.text "probe") }
    let ops : List Op := [.registerPoll, .beginUpgrade 1 .v4 .present, .beginUpgrade 2 .v4 .present,
      .probe 1 ping, .probe 2 .upgrade, .probe 1 .upgrade, .transportClosed 2 .transportClose]
    let s := Origin.plain.session.run ops
    s.isLive ∧ s.transport = .websocket { id := 1, revision := .v4 } ∧
      s.commandsOn 2 = [.hangUp 2] := by decide

end Duplex.Session
