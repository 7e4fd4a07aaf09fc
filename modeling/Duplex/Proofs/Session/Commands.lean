import Duplex.Proofs.Session.Joining

-- What the writer of a websocket is given: frames as long as the session works with the websocket,
-- then once that nothing follows, and nothing after that.

namespace Duplex

def Transport.carrier? : Transport → Option Websocket
  | polling _ => none
  | websocket t => some t

namespace Websocket

variable (t : Websocket)

theorem send_frames (packets : List Packet) :
    ∃ fs : List Frame, (t.send packets).delivered = fs.map (.frame t.id) ∧
      (t.writer = .present → (t.send packets).transport.writer = .present) := by
  simp only [send]
  split
  · exact ⟨_, rfl, fun there => by rw [there, write_present]⟩
  · exact ⟨[], rfl, fun there => there⟩

-- A writer that is there is told of the end.
theorem close_hangUp (open_ : t.closed = false) :
    t.close.delivered = [.hangUp t.id] ∨ t.close.delivered = [] ∧ t.writer ≠ .present := by
  simp only [close, open_, Bool.false_eq_true, ↓reduceIte]
  split
  · exact .inl rfl
  · next none_ => exact .inr ⟨rfl, fun there => by simp [there, Peer.take?] at none_⟩

theorem setWriter_present {tid : TransportId} {writer : Peer}
    (stays : tid = t.id → writer = .present) (there : t.writer = .present) :
    (t.setWriter tid writer).writer = .present := by
  simp only [setWriter]
  split
  · next same =>
    rw [stays same.symm, there]
    rfl
  · exact there

end Websocket

theorem Transport.websocket?_close {t : Transport} (polling : t.kind = .polling) :
    ∀ d ∈ t.close.delivered, d.websocket? = none := by
  cases t with
  | websocket t => exact absurd polling nofun
  | polling t =>
    simp only [close, Dispatch.map, Polling.close]
    split
    · simp
    · obtain ⟨_, takes, _⟩ := (Transport.polling { t with closed := true }).send_takes [.close]
      exact Channel.websocket?_of_takes takes

namespace Session

-- The websocket that a session works with: the one that asks to join it, or the one that carries it
-- while it lives. There is never one of each.
def attached? (s : Session) : Option Websocket :=
  match s.pending with
  | some p => some p.transport
  | none => if s.isLive then s.transport.carrier? else none

-- A websocket of this name that the session works with.
def employed? (s : Session) (tid : TransportId) : Option Websocket :=
  s.attached?.filter (·.id = tid)

-- Whether a websocket carries the session while it lives, or asks to join it.
def Employs (s : Session) (tid : TransportId) : Prop :=
  (s.isLive ∧ ∃ t, s.transport = .websocket t ∧ t.id = tid) ∨
    ∃ p, s.pending = some p ∧ p.transport.id = tid

section

variable {s s' : Session} {tid : TransportId} {t : Websocket}

theorem attached?_of_pending {p : Pending} (pending : s.pending = some p) :
    s.attached? = some p.transport := by
  simp only [attached?, pending]

theorem attached?_of_live (pending : s.pending = none) (live : s.isLive) :
    s.attached? = s.transport.carrier? := by
  simp only [attached?, pending, live, ↓reduceIte]

theorem attached?_of_dead (v : s.Valid) (dead : s.isLive = false) : s.attached? = none := by
  simp only [attached?, (v.ended dead).1, dead, Bool.false_eq_true, ↓reduceIte]

theorem attached?_congr (pending : s'.pending = s.pending) (state : s'.state = s.state)
    (carrier : s'.transport.carrier? = s.transport.carrier?) : s'.attached? = s.attached? := by
  have live : s'.isLive = s.isLive := congrArg ReadyState.isLive state
  rw [attached?, attached?, pending, live, carrier]

theorem carrier?_of_polling {t : Transport} (polling : t.kind = .polling) : t.carrier? = none := by
  cases t with
  | polling t => rfl
  | websocket t => cases polling

theorem employed?_of_attached? (attached : s.attached? = some t) :
    s.employed? tid = if t.id = tid then some t else none := by
  simp [employed?, attached, Option.filter]

theorem closed_of_attached? (v : s.Valid) (attached : s.attached? = some t) : t.closed = false := by
  cases pending : s.pending with
  | some p =>
    rw [attached?_of_pending pending] at attached
    exact Option.some.inj attached ▸ (v.pending p pending).2.2
  | none =>
    cases live : s.isLive with
    | false => simp [attached?_of_dead v live] at attached
    | true =>
      rw [attached?_of_live pending live] at attached
      have unclosed := (v.live live).1
      cases transport : s.transport with
      | polling t => simp [transport, Transport.carrier?] at attached
      | websocket t' =>
        rw [transport] at attached unclosed
        exact Option.some.inj attached ▸ unclosed

theorem employs_iff (v : s.Valid) : s.Employs tid ↔ (s.employed? tid).isSome := by
  cases pending : s.pending with
  | some p =>
    have polling := (v.pending p pending).1
    rw [employed?_of_attached? (attached?_of_pending pending)]
    constructor
    · rintro (⟨_, t, carried, _⟩ | ⟨p', pending', same⟩)
      · rw [carried] at polling
        cases polling
      · obtain rfl := Option.some.inj (pending.symm.trans pending')
        simp [same]
    · intro serves
      by_cases same : p.transport.id = tid
      · exact .inr ⟨p, pending, same⟩
      · simp [same] at serves
  | none =>
    cases live : s.isLive with
    | false => simp [Employs, employed?, attached?_of_dead v live, live, pending]
    | true =>
      cases transport : s.transport with
      | polling t =>
        have none_ : s.attached? = none := by
          rw [attached?_of_live pending live, transport]
          rfl
        simp [Employs, employed?, none_, transport, pending]
      | websocket t =>
        have attached : s.attached? = some t := by
          rw [attached?_of_live pending live, transport]
          rfl
        rw [employed?_of_attached? attached]
        simp [Employs, transport, pending, live]

end

-- What a step means to a websocket. `stays` says that its writer does not go away meanwhile.
inductive Treats (tid : TransportId) (stays : Prop) (s s' : Session) : Prop
  | passes (before : s.employed? tid = none) (after : s'.employed? tid = none)
    (same : s'.commandsOn tid = s.commandsOn tid)
  | goes {t t' : Websocket} (fs : List Frame) (before : s.employed? tid = some t)
    (after : s'.employed? tid = some t')
    (told : s'.commandsOn tid = s.commandsOn tid ++ fs.map (.frame tid))
    (there : stays → t.writer = .present → t'.writer = .present)
  | ends {t : Websocket} (fs : List Frame) (before : s.employed? tid = some t)
    (after : s'.employed? tid = none)
    (told : s'.commandsOn tid = s.commandsOn tid ++ fs.map (.frame tid) ++ [.hangUp tid] ∨
      s'.commandsOn tid = s.commandsOn tid ++ fs.map (.frame tid) ∧
        ¬(stays ∧ t.writer = .present))

namespace Treats

variable {tid : TransportId} {stays : Prop} {s s' s₁ s₂ s₃ : Session} {t : Websocket}

-- Nothing that is to do with a websocket.
theorem same (attached : s'.attached? = s.attached?)
    (commands : s'.commandsOn tid = s.commandsOn tid) : Treats tid stays s s' := by
  have serving : s'.employed? tid = s.employed? tid := by rw [employed?, employed?, attached]
  cases before : s.employed? tid with
  | none => exact .passes before (serving.trans before) commands
  | some t =>
    exact .goes [] before (serving.trans before) (by simpa using commands) fun _ there => there

theorem refl (tid : TransportId) (stays : Prop) (s : Session) : Treats tid stays s s :=
  same rfl rfl

theorem trans (h : Treats tid stays s₁ s₂) (h' : Treats tid stays s₂ s₃) :
    Treats tid stays s₁ s₃ := by
  cases h with
  | passes before after same =>
    cases h' with
    | passes _ after' same' => exact .passes before after' (same'.trans same)
    | goes _ before' | ends _ before' => exact absurd (after.symm.trans before') nofun
  | goes fs before after told there =>
    cases h' with
    | passes before' => exact absurd (before'.symm.trans after) nofun
    | goes fs' before' after' told' there' =>
      obtain rfl := Option.some.inj (after.symm.trans before')
      refine .goes (fs ++ fs') before after' ?_ fun stays here => there' stays (there stays here)
      rw [told', told, List.map_append, List.append_assoc]
    | ends fs' before' after' told' =>
      obtain rfl := Option.some.inj (after.symm.trans before')
      refine .ends (fs ++ fs') before after' ?_
      rw [told, List.append_assoc _ (fs.map _), ← List.map_append] at told'
      exact told'.imp_right fun cut => ⟨cut.1, fun here => cut.2 ⟨here.1, there here.1 here.2⟩⟩
  | ends fs before after told =>
    cases h' with
    | passes _ after' same' => exact .ends fs before after' (same' ▸ told)
    | goes _ before' | ends _ before' => exact absurd (after.symm.trans before') nofun

-- A websocket that the session works with gets frames.
theorem frames {t' : Websocket} {fs : List Frame} (before : s.attached? = some t)
    (after : s'.attached? = some t') (id : t'.id = t.id)
    (dispatched : s'.dispatched = s.dispatched ++ fs.map (.frame t.id))
    (there : stays → t.id = tid → t.writer = .present → t'.writer = .present) :
    Treats tid stays s s' := by
  by_cases same : t.id = tid
  · refine .goes fs (by rw [employed?_of_attached? before, if_pos same])
      (by rw [employed?_of_attached? after, id, if_pos same]) ?_ fun stays => there stays same
    rw [commandsOn_append dispatched, same]
    congr 1
    exact List.filter_eq_self.mpr fun d mem => by
      obtain ⟨f, _, rfl⟩ := List.mem_map.mp mem
      simp [Delivery.websocket?]
  · refine .passes (by rw [employed?_of_attached? before, if_neg same])
      (by rw [employed?_of_attached? after, id, if_neg same]) (commandsOn_of_others dispatched ?_)
    intro d mem
    obtain ⟨f, _, rfl⟩ := List.mem_map.mp mem
    exact fun eq => same (Option.some.inj eq)

-- The session works with it no longer, and tells it so.
theorem hangsUp {others : List Delivery} (v : s.Valid) (before : s.attached? = some t)
    (after : s'.attached? = none)
    (dispatched : s'.dispatched = s.dispatched ++ (t.close.delivered ++ others))
    (polls : ∀ d ∈ others, d.websocket? = none) : Treats tid stays s s' := by
  have after' : s'.employed? tid = none := by rw [employed?, after, Option.filter_none]
  have none_ : others.filter (·.websocket? = some tid) = [] :=
    List.filter_eq_nil_iff.mpr fun d mem => by simp [polls d mem]
  have told : s'.commandsOn tid =
      s.commandsOn tid ++ (t.close.delivered ++ others).filter (·.websocket? = some tid) :=
    commandsOn_append dispatched
  rw [List.filter_append, none_, List.append_nil] at told
  by_cases same : t.id = tid
  · refine .ends [] (by rw [employed?_of_attached? before, if_pos same]) after' ?_
    obtain hangUp | ⟨nothing, absent⟩ := t.close_hangUp (closed_of_attached? v before)
    · rw [hangUp, same] at told
      exact .inl (by simpa [Delivery.websocket?] using told)
    · rw [nothing] at told
      exact .inr ⟨by simpa using told, fun here => absent here.2⟩
  · refine .passes (by rw [employed?_of_attached? before, if_neg same]) after' ?_
    have others : t.close.delivered.filter (·.websocket? = some tid) = [] :=
      List.filter_eq_nil_iff.mpr fun d mem => by simp [t.websocket?_close d mem, same]
    rw [told, others, List.append_nil]

end Treats

theorem dispatched_shut (s : Session) :
    s.shut.dispatched =
      s.dispatched ++ ((s.pending.map (·.transport.close.delivered)).getD [] ++
        s.transport.close.delivered) := by
  simp [shut, withTransport, handOver, dispatched_dropPending]

namespace Treats

variable {tid : TransportId} {stays : Prop} {s s' : Session}

-- What is said of a session is nothing to a websocket.
theorem note (lastHeartbeat : Nat) (inbox : List Payload) (decodeErrors : UInt32)
    (signals : List Signal) :
    Treats tid stays s { s with lastHeartbeat, inbox, decodeErrors, signals } :=
  same (attached?_congr rfl rfl rfl) rfl

theorem of_note {lastHeartbeat : Nat} {inbox : List Payload} {decodeErrors : UInt32}
    {signals : List Signal} (h : Treats tid stays s s') :
    Treats tid stays s { s' with lastHeartbeat, inbox, decodeErrors, signals } :=
  h.trans (note ..)

theorem flush (v : s.Valid) : Treats tid stays s s.flush := by
  have polls (polling : s.transport.kind = .polling) : Treats tid stays s s.flush := by
    have after : s.flush.transport.kind = .polling := s.kind_flush.trans polling
    refine same (attached?_congr s.pending_flush s.state_flush ?_)
      ((Aside.refl tid s).flush polling).commands
    rw [carrier?_of_polling polling, carrier?_of_polling after]
  cases live : s.isLive with
  | false =>
    rw [flush_of_buffer_nil (v.ended live).2.1]
    exact refl tid stays s
  | true =>
    cases transport : s.transport with
    | polling t => exact polls (by rw [transport]; rfl)
    | websocket t =>
      have pending : s.pending = none := Option.eq_none_iff_forall_ne_some.mpr fun p pending => by
        have polling := (v.pending p pending).1
        rw [transport] at polling
        cases polling
      by_cases ne : s.buffer = []
      · rw [flush_of_buffer_nil ne]
        exact refl tid stays s
      · cases writable : s.transport.writable with
        | false =>
          rw [flush_of_not_writable writable]
          exact refl tid stays s
        | true =>
          obtain ⟨_, eq⟩ := flush_of_writable ne writable
          obtain ⟨fs, delivered, there⟩ := t.send_frames s.buffer
          have sent : s.transport.send s.buffer = (t.send s.buffer).map .websocket := by
            rw [transport]
            rfl
          have before : s.attached? = some t := by
            rw [attached?_of_live pending live, transport]
            rfl
          have after : s.flush.attached? = some (t.send s.buffer).transport := by
            rw [attached?_of_live (s.pending_flush.trans pending) (by simpa [isLive] using live), eq,
              sent]
            rfl
          have told : s.flush.dispatched = s.dispatched ++ fs.map (.frame t.id) := by
            rw [eq, sent, ← delivered]
            rfl
          exact frames before after (t.id_send _) told fun _ _ => there

theorem releasePoll (s : Session) : Treats tid stays s s.releasePoll := by
  cases transport : s.transport with
  | polling t =>
    have polling : s.transport.kind = .polling := by rw [transport]; rfl
    refine same (attached?_congr rfl rfl ?_) (Aside.releasePoll polling).commands
    rw [carrier?_of_polling polling, carrier?_of_polling]
    simpa using polling
  | websocket t =>
    have idle : s.releasePoll = s := by
      rw [Session.releasePoll, transport]
      simp [Transport.release, withTransport, handOver, ← transport]
    rw [idle]
    exact refl tid stays s

theorem close (v : s.Valid) (reason : CloseReason) : Treats tid stays s (s.close reason) := by
  cases live : s.isLive with
  | false =>
    rw [close_of_not_live reason live]
    exact refl tid stays s
  | true =>
    have after : (s.close reason).attached? = none :=
      attached?_of_dead (v.close reason live) (isLive_close s reason)
    have dispatched : (s.close reason).dispatched = s.shut.dispatched := by
      obtain ⟨_, eq⟩ := close_of_live reason live
      rw [eq]
    rw [dispatched_shut] at dispatched
    cases pending : s.pending with
    | some p =>
      have polling := (v.pending p pending).1
      rw [pending] at dispatched
      exact hangsUp v (attached?_of_pending pending) after dispatched
        (Transport.websocket?_close polling)
    | none =>
      have attached := attached?_of_live pending live
      rw [pending, Option.map_none, Option.getD_none, List.nil_append] at dispatched
      cases transport : s.transport with
      | polling t =>
        have polling : s.transport.kind = .polling := by rw [transport]; rfl
        refine same (after.trans ?_) (commandsOn_of_others dispatched fun d mem => ?_)
        · rw [attached, carrier?_of_polling polling]
        · rw [Transport.websocket?_close polling d mem]
          nofun
      | websocket t =>
        rw [transport] at attached dispatched
        have told : (s.close reason).dispatched = s.dispatched ++ (t.close.delivered ++ []) := by
          rw [dispatched, List.append_nil]
          rfl
        exact hangsUp v attached after told (by simp)

theorem answerProbe {p : Pending} (pending : s.pending = some p) :
    Treats tid stays s (s.answerProbe p) := by
  obtain ⟨fs, delivered, there⟩ := p.transport.send_frames [.probeAnswer]
  have told : (s.answerProbe p).dispatched = s.dispatched ++ fs.map (.frame p.transport.id) := by
    rw [← delivered]
    rfl
  exact frames (attached?_of_pending pending) (attached?_of_pending rfl) (p.transport.id_send _) told
    fun _ _ => there

theorem completeUpgrade {p : Pending} (v : s.Valid) (pending : s.pending = some p) :
    Treats tid stays s (s.completeUpgrade p.transport) := by
  have polling := (v.pending p pending).1
  have swapped : Treats tid stays s (s.swap p.transport) := by
    refine same ?_ (commandsOn_of_others (s.dispatched_swap _) fun d mem => ?_)
    · rw [attached?_of_pending pending, attached?_of_live (s.pending_swap _)
        (isLive_of_established (s.state_swap _)), s.transport_swap]
      rfl
    · have released : s.transport.release.transport.kind = .polling := by simpa using polling
      obtain first | last := List.mem_append.mp mem
      · rw [Transport.websocket?_release polling d first]
        nofun
      · rw [Transport.websocket?_close released d last]
        nofun
  obtain ⟨_, eq⟩ := s.completeUpgrade_eq p.transport
  rw [eq]
  exact (swapped.trans (flush (v.swap pending))).of_note

theorem abortUpgrade (v : s.Valid) (tid' : TransportId) (f : Fault) :
    Treats tid stays s (s.abortUpgrade tid' f) := by
  cases found : s.pending.filter (·.transport.id = tid') with
  | none =>
    rw [abortUpgrade_of_filter_none s f found]
    exact refl tid stays s
  | some p =>
    obtain ⟨pending, id⟩ := Option.filter_eq_some_iff.mp found
    have polling := (v.pending p pending).1
    have after : s.stay.attached? = none := by
      rw [attached?_of_live s.pending_stay
        (isLive_of_established (s.state_stay (v.upgrading_of_pending pending))), s.transport_stay,
        carrier?_of_polling polling]
    have stayed : Treats tid stays s s.stay :=
      hangsUp v (attached?_of_pending pending) after
        ((s.dispatched_stay pending).trans (by rw [List.append_nil])) (by simp)
    obtain ⟨_, eq⟩ := abortUpgrade_of_pending s f pending
    rw [← of_decide_eq_true id, eq]
    exact (stayed.trans (flush (v.stay pending))).of_note

theorem setWriter (s : Session) (tid' : TransportId) (writer : Peer)
    (stays_ : stays → tid' = tid → writer = .present) :
    Treats tid stays s (s.setWriter tid' writer) := by
  have attached : (s.setWriter tid' writer).attached? =
      s.attached?.map (·.setWriter tid' writer) := by
    have live : (s.setWriter tid' writer).isLive = s.isLive := rfl
    have carrier : (s.setWriter tid' writer).transport.carrier? =
        s.transport.carrier?.map (·.setWriter tid' writer) := by
      simp only [Session.setWriter]
      cases s.transport <;> rfl
    rw [attached?, attached?, live, carrier, Session.setWriter]
    cases s.pending with
    | some p => rfl
    | none => cases s.isLive <;> rfl
  cases before : s.attached? with
  | none =>
    rw [before] at attached
    exact same (attached.trans before.symm) rfl
  | some t =>
    rw [before] at attached
    have told : (s.setWriter tid' writer).dispatched =
        s.dispatched ++ ([] : List Frame).map (.frame t.id) :=
      (List.append_nil _).symm
    refine frames before attached (t.id_setWriter tid' writer) told fun here same => ?_
    exact t.setWriter_present fun eq => stays_ here (eq.trans same)

theorem send (v : s.Valid) (p : Packet) : Treats tid stays s ((s.send p).toOption.getD s) := by
  cases sent : s.send p with
  | error f => exact refl tid stays s
  | ok s' =>
    obtain ⟨live, _, eq⟩ := send_eq_ok sent
    have queued : { s with buffer := s.buffer ++ [p] }.Valid := v.of_live live rfl rfl rfl rfl rfl
    have waits : Treats tid stays s { s with buffer := s.buffer ++ [p] } :=
      same (attached?_congr rfl rfl rfl) rfl
    exact eq ▸ waits.trans (flush queued)

theorem registerPoll (v : s.Valid) : Treats tid stays s (s.perform .registerPoll) := by
  cases registered : s.registerPoll with
  | error f =>
    rw [perform_registerPoll_of_error registered]
    exact refl tid stays s
  | ok done =>
    obtain ⟨_, live, t, t', transport, free, eq⟩ := registerPoll_eq_ok registered
    have carrier : (Transport.polling t').carrier? = s.transport.carrier? := by
      rw [transport]
      rfl
    have waits : Treats tid stays s { s with transport := .polling t', polls := s.polls + 1 } :=
      same (attached?_congr rfl rfl carrier) rfl
    rw [perform_registerPoll registered, eq]
    exact waits.trans (flush (v.register live transport free))

theorem receive (v : s.Valid) (p : Packet) (now : Nat) :
    Treats tid stays s (s.receive p now) := by
  have counted : Treats tid stays s (s.meter .received) := note ..
  simp only [Session.receive]
  cases p.kind with
  | ping =>
    rw [answerPing_eq]
    have heard : Treats tid stays s ((s.meter .received).heartbeat now) := note ..
    have valid : ((s.meter .received).heartbeat now).Valid :=
      ⟨v.upgrading_iff, v.pending, v.live, v.closed, v.settled⟩
    exact heard.trans (send valid _)
  | pong => exact note ..
  | message =>
    simp only [takeIn]
    split <;> exact note ..
  | close => exact counted.trans (close (v.signals _) _)
  | handshake | upgrade | noop => exact counted

theorem recordDecodeError (v : s.Valid) (e : DecodeError) :
    Treats tid stays s (s.recordDecodeError e) := by
  have counted : Treats tid stays s (s.countDecodeError e) := note ..
  have valid : (s.countDecodeError e).Valid :=
    ⟨v.upgrading_iff, v.pending, v.live, v.closed, v.settled⟩
  simp only [Session.recordDecodeError]
  split
  · exact counted.trans (close valid _)
  · exact counted

-- Another websocket asks to join.
theorem beginUpgrade (v : s.Valid) {t : Websocket} (other : t.id ≠ tid) :
    Treats tid stays s (s.beginUpgrade t).2 := by
  simp only [Session.beginUpgrade]
  cases check : s.checkUpgrade with
  | error f =>
    refine same (attached?_congr rfl rfl rfl) (commandsOn_of_others rfl fun d mem => ?_)
    rw [t.websocket?_close d mem]
    exact fun eq => other (Option.some.inj eq)
  | ok =>
    obtain ⟨_, established, polling⟩ := Valid.checkUpgrade_eq_ok_iff.mp check
    have pending : s.pending = none := Option.eq_none_iff_forall_ne_some.mpr fun p pending =>
      absurd (established.symm.trans (v.upgrading_of_pending pending)) (by simp)
    have before : s.attached? = none := by
      rw [attached?_of_live pending (isLive_of_established established), carrier?_of_polling polling]
    refine .passes (by rw [employed?, before, Option.filter_none]) ?_ ?_
    · rw [employed?_of_attached? (attached?_of_pending (pending_enter _ _)), if_neg other]
    · rw [commandsOn, dispatched_enter]
      rfl

theorem probe (v : s.Valid) (tid' : TransportId) (p : Packet) :
    Treats tid stays s (s.probe tid' p).2 := by
  simp only [Session.probe]
  cases found : s.pending.filter (·.transport.id = tid') with
  | none => exact refl tid stays s
  | some pending =>
    obtain ⟨waits, _⟩ := Option.filter_eq_some_iff.mp found
    have answered : Treats tid stays s (s.answerProbe pending) := answerProbe waits
    dsimp only
    split
    · split
      · exact answered
      · exact answered.trans (releasePoll _)
    · split
      · exact completeUpgrade v waits
      · exact refl tid stays s

theorem transportClosed (v : s.Valid) (tid' : TransportId) (reason : CloseReason) :
    Treats tid stays s (s.transportClosed tid' reason) := by
  simp only [Session.transportClosed]
  split
  · exact close v reason
  · exact abortUpgrade v tid' _

end Treats

namespace Op

-- The websocket that an operation brings along.
def brings? (op : Op) : Option TransportId :=
  op.joining?.map (·.1)

-- Whether the writer of a websocket is there as far as an operation says.
def keepsWriter (tid : TransportId) : Op → Bool
  | beginUpgrade tid' _ writer | setWriter tid' writer => tid' ≠ tid || writer = .present
  | _ => true

end Op

-- Whatever is done to a session, a websocket that was brought along earlier gets what it should.
theorem perform_treats {s : Session} {tid : TransportId} (v : s.Valid) {op : Op}
    (other : op.brings? ≠ some tid) : Treats tid (op.keepsWriter tid) s (s.perform op) := by
  cases op with
  | send p => exact .send v p
  | registerPoll => exact .registerPoll v
  | expirePoll poll => exact .releasePoll s
  | setPollClient poll client =>
    refine .same (attached?_congr rfl rfl ?_) rfl
    simp only [perform, setPollClient]
    cases s.transport <;> rfl
  | receive p now => exact .receive v p now
  | heartbeat | countDecodeError | resetDecodeErrors | report | passOn => exact .note ..
  | recordDecodeError e => exact .recordDecodeError v e
  | beginUpgrade id revision writer => exact .beginUpgrade v fun same => other (congrArg some same)
  | probe tid' p => exact .probe v tid' p
  | abortUpgrade tid' f => exact .abortUpgrade v tid' f
  | transportClosed tid' reason => exact .transportClosed v tid' reason
  | setWriter tid' writer =>
    exact .setWriter s tid' writer fun keeps same => by simpa [Op.keepsWriter, same] using keeps
  | close reason => exact .close v reason

theorem channel_close (s : Session) (reason : CloseReason) :
    (s.close reason).transport.channel = s.transport.channel := by
  cases live : s.isLive with
  | false => rw [close_of_not_live reason live]
  | true =>
    obtain ⟨_, eq⟩ := close_of_live reason live
    simp [eq]

theorem channel_abortUpgrade (s : Session) (tid : TransportId) (f : Fault) :
    (s.abortUpgrade tid f).transport.channel = s.transport.channel := by
  simp only [abortUpgrade]
  split
  · rfl
  · exact (channel_flush _).trans (by simp)

theorem channel_send (s : Session) (p : Packet) :
    ((s.send p).toOption.getD s).transport.channel = s.transport.channel := by
  cases sent : s.send p with
  | error f => rfl
  | ok s' =>
    obtain ⟨_, _, eq⟩ := send_eq_ok sent
    simp [eq, Except.toOption]

-- Only a probe that comes to its end lets a websocket take over.
theorem channel_perform (s : Session) (op : Op) :
    (s.perform op).transport.channel = s.transport.channel ∨
      ∃ tid p r, op = .probe tid p ∧ (s.probe tid p).1 = .ok .upgraded ∧
        (s.perform op).transport.channel = .websocket tid r := by
  cases op with
  | send p => exact .inl (s.channel_send p)
  | registerPoll =>
    left
    cases registered : s.registerPoll with
    | error f => rw [perform_registerPoll_of_error registered]
    | ok done =>
      obtain ⟨_, _, t, t', transport, free, eq⟩ := registerPoll_eq_ok registered
      obtain ⟨_, same⟩ := Polling.register?_eq_some free
      rw [perform_registerPoll registered, eq, channel_flush, transport, same]
      rfl
  | expirePoll => exact .inl (Transport.channel_release _)
  | setPollClient => exact .inl (Transport.channel_setPollClient ..)
  | setWriter => exact .inl (Transport.channel_setWriter ..)
  | receive p now =>
    left
    simp only [perform, receive]
    cases p.kind with
    | ping =>
      rw [answerPing_eq]
      exact channel_send _ _
    | message =>
      simp only [takeIn]
      split <;> rfl
    | close => exact channel_close _ _
    | pong | handshake | upgrade | noop => rfl
  | recordDecodeError e =>
    left
    simp only [perform, recordDecodeError]
    split
    · exact channel_close _ _
    · rfl
  | beginUpgrade tid revision writer =>
    left
    simp only [perform, beginUpgrade]
    split
    · rfl
    · rw [transport_enter]
  | probe tid p =>
    cases found : s.pending.filter (·.transport.id = tid) with
    | none => exact .inl (by simp only [perform, probe, found])
    | some q =>
      have id : q.transport.id = tid := of_decide_eq_true (Option.filter_eq_some_iff.mp found).2
      simp only [perform, probe, found]
      split
      · left
        split
        · rfl
        · exact Transport.channel_release _
      · next other =>
        split
        · next done =>
          refine .inr ⟨tid, p, _, rfl, ?_, id ▸ s.channel_completeUpgrade q.transport⟩
          simp only [found]
          rw [if_neg other, if_pos done]
        · exact .inl rfl
  | abortUpgrade tid f => exact .inl (s.channel_abortUpgrade tid f)
  | transportClosed tid reason =>
    left
    simp only [perform, transportClosed]
    split
    · exact channel_close _ _
    · exact channel_abortUpgrade _ _ _
  | close reason => exact .inl (s.channel_close reason)
  | heartbeat | countDecodeError | resetDecodeErrors | report | passOn => exact .inl rfl

-- Whether an operation is a step of a probe.
def Op.probes : Op → Bool
  | probe _ _ => true
  | _ => false

theorem channel_run {s : Session} {ops : List Op} (others : ∀ op ∈ ops, op.probes = false) :
    (s.run ops).transport.channel = s.transport.channel := by
  induction ops generalizing s with
  | nil => rfl
  | cons op ops ih =>
    obtain ⟨other, rest⟩ := List.forall_mem_cons.mp others
    refine (ih rest).trans ((s.channel_perform op).resolve_right ?_)
    rintro ⟨_, _, _, rfl, _⟩
    cases other

end Session

end Duplex
