import Duplex.Proofs.Session.Waiting

-- What does not look at whether a websocket asks to join a session. Only what is done for the
-- websocket does.

namespace Duplex

-- The websocket that something is handed over to.
def Delivery.websocket? : Delivery → Option TransportId
  | frame tid _ | hangUp tid => some tid
  | answer _ _ => none

namespace ReadyState

-- The state of a session that nobody asks to join.
def calm : ReadyState → ReadyState
  | upgrading => established
  | state => state

@[simp]
theorem calm_calm (state : ReadyState) : state.calm.calm = state.calm := by
  cases state <;> rfl

@[simp]
theorem isLive_calm (state : ReadyState) : state.calm.isLive = state.isLive := by
  cases state <;> rfl

theorem calm_of_ne {state : ReadyState} (h : state ≠ upgrading) : state.calm = state := by
  cases state with
  | upgrading => exact absurd rfl h
  | _ => rfl

end ReadyState

namespace Websocket

variable (t : Websocket)

theorem websocket?_close : ∀ d ∈ t.close.delivered, d.websocket? = some t.id := by
  intro d mem
  simp only [close] at mem
  split at mem
  · simp at mem
  · split at mem
    · rw [List.mem_singleton.mp mem]
      rfl
    · simp at mem

theorem websocket?_send (packets : List Packet) :
    ∀ d ∈ (t.send packets).delivered, d.websocket? = some t.id := by
  intro d mem
  simp only [send] at mem
  split at mem
  · obtain ⟨f, _, eq⟩ := List.mem_map.mp mem
    rw [← eq]
    rfl
  · simp at mem

end Websocket

namespace Session

-- All that was handed over to anyone but a websocket.
def besides (tid : TransportId) (delivered : List Delivery) : List Delivery :=
  delivered.filter (·.websocket? ≠ some tid)

-- A session as if a websocket had never asked to join it, and nothing were said of it.
def unjoined (tid : TransportId) (s : Session) : Session :=
  { s with
    state := s.state.calm
    pending := none
    dispatched := besides tid s.dispatched
    signals := [] }

-- No other websocket waits to join.
def Alone (tid : TransportId) (s : Session) : Prop :=
  ∀ p, s.pending = some p → p.transport.id = tid

section

variable (tid : TransportId)

@[simp]
theorem besides_append (ds ds' : List Delivery) :
    besides tid (ds ++ ds') = besides tid ds ++ besides tid ds' :=
  List.filter_append ..

@[simp]
theorem besides_besides (ds : List Delivery) : besides tid (besides tid ds) = besides tid ds := by
  simp [besides, List.filter_filter]

theorem besides_of_websocket? {tid : TransportId} {ds : List Delivery}
    (h : ∀ d ∈ ds, d.websocket? = some tid) : besides tid ds = [] :=
  List.filter_eq_nil_iff.mpr fun d mem => by simp [h d mem]

variable (s : Session)

@[simp]
theorem isLive_unjoined : (s.unjoined tid).isLive = s.isLive :=
  s.state.isLive_calm

@[simp]
theorem unjoined_unjoined : (s.unjoined tid).unjoined tid = s.unjoined tid := by
  simp [unjoined]

theorem unjoined_handOver {delivered : List Delivery}
    (h : ∀ d ∈ delivered, d.websocket? = some tid) :
    (s.handOver delivered).unjoined tid = s.unjoined tid := by
  simp [unjoined, handOver, besides_of_websocket? h]

theorem unjoined_withTransport (d : Dispatch Transport) :
    (s.withTransport d).unjoined tid = ((s.unjoined tid).withTransport d).unjoined tid := by
  simp [unjoined, withTransport, handOver]

theorem unjoined_flush : s.flush.unjoined tid = (s.unjoined tid).flush.unjoined tid := by
  by_cases ne : s.buffer = []
  · have ne' : (s.unjoined tid).buffer = [] := ne
    rw [flush_of_buffer_nil ne, flush_of_buffer_nil ne', unjoined_unjoined]
  · cases writable : s.transport.writable with
    | false =>
      have writable' : (s.unjoined tid).transport.writable = false := writable
      rw [flush_of_not_writable writable, flush_of_not_writable writable', unjoined_unjoined]
    | true =>
      have ne' : (s.unjoined tid).buffer ≠ [] := ne
      have writable' : (s.unjoined tid).transport.writable := writable
      have ⟨_, eq⟩ := flush_of_writable ne writable
      have ⟨_, eq'⟩ := flush_of_writable ne' writable'
      rw [eq, eq']
      simp [unjoined]

theorem unjoined_enter (state : ReadyState) :
    (s.enter state).unjoined tid = { s.unjoined tid with state := state.calm } := by
  simp only [enter]
  split
  · next same => rw [← same]; rfl
  · rfl

theorem alone_unjoined : (s.unjoined tid).Alone tid := nofun

end

-- What does to a session the same whether the websocket asks to join it or not.
def Blind (tid : TransportId) (f : Session → Session) : Prop :=
  ∀ s, s.Alone tid → (f s).unjoined tid = (f (s.unjoined tid)).unjoined tid

section

variable {tid : TransportId} {s t : Session}

theorem Blind.congr {f : Session → Session} (blind : Blind tid f) (alone : s.Alone tid)
    (alone' : t.Alone tid) (h : s.unjoined tid = t.unjoined tid) :
    (f s).unjoined tid = (f t).unjoined tid := by
  rw [blind s alone, h, ← blind t alone']

theorem unjoined_flush_congr (h : s.unjoined tid = t.unjoined tid) :
    s.flush.unjoined tid = t.flush.unjoined tid := by
  rw [unjoined_flush, h, ← unjoined_flush]

theorem unjoined_dropPending (alone : s.Alone tid) : s.dropPending.unjoined tid = s.unjoined tid := by
  simp only [dropPending]
  split
  · rfl
  · next p pending =>
    have all : ∀ d ∈ p.transport.close.delivered, d.websocket? = some tid :=
      alone p pending ▸ p.transport.websocket?_close
    exact unjoined_handOver tid { s with pending := none } all

theorem unjoined_shut (alone : s.Alone tid) :
    s.shut.unjoined tid =
      { ((s.unjoined tid).withTransport s.transport.close).unjoined tid with
        state := .closed, buffer := [] } := by
  let emptied : Session := { s.enter .closing with buffer := [] }
  have alone' : emptied.Alone tid := fun p pending => alone p (by simpa [emptied] using pending)
  have transport : emptied.dropPending.transport = s.transport := by simp [emptied]
  have entered : emptied.unjoined tid = { s.unjoined tid with state := .closing, buffer := [] } :=
    congrArg (fun t : Session => { t with buffer := [] }) (s.unjoined_enter tid .closing)
  have shut : s.shut =
      (emptied.dropPending.withTransport emptied.dropPending.transport.close).enter .closed := rfl
  rw [shut, unjoined_enter, unjoined_withTransport, unjoined_dropPending alone', entered, transport]
  rfl

theorem unjoined_send (tid : TransportId) (s : Session) (p : Packet) :
    (s.send p).map (unjoined tid) = ((s.unjoined tid).send p).map (unjoined tid) := by
  have check : Transport.check (s.unjoined tid).transport.kind p (s.unjoined tid).revision =
      Transport.check s.transport.kind p s.revision := rfl
  simp only [send, isLive_unjoined, check]
  split
  · rfl
  · split
    · rfl
    · apply congrArg Except.ok
      apply unjoined_flush_congr
      simp [unjoined]

theorem unjoined_registerPoll (tid : TransportId) (s : Session) :
    s.registerPoll.map (fun r => (r.1, r.2.unjoined tid)) =
      (s.unjoined tid).registerPoll.map fun r => (r.1, r.2.unjoined tid) := by
  have transport : (s.unjoined tid).transport = s.transport := rfl
  have polls : (s.unjoined tid).polls = s.polls := rfl
  simp only [registerPoll, isLive_unjoined, transport, polls]
  split
  · rfl
  · split
    · rfl
    · split
      · rfl
      · refine congrArg (fun t => Except.ok (s.polls, t)) (unjoined_flush_congr ?_)
        simp [unjoined]

end

-- A change that may be refused is blind if its outcome is.
theorem unjoined_getD {ε : Type} {tid : TransportId} {s : Session} {x y : Except ε Session}
    (h : x.map (unjoined tid) = y.map (unjoined tid)) :
    (x.toOption.getD s).unjoined tid = (y.toOption.getD (s.unjoined tid)).unjoined tid := by
  cases x with
  | error e =>
    cases y with
    | error e' => exact (s.unjoined_unjoined tid).symm
    | ok t => exact absurd h nofun
  | ok t =>
    cases y with
    | error e => exact absurd h nofun
    | ok t' => exact Except.ok.inj h

namespace Blind

variable (tid : TransportId)

theorem send (p : Packet) : Blind tid fun s => (s.send p).toOption.getD s :=
  fun s _ => unjoined_getD (unjoined_send tid s p)

theorem registerPoll : Blind tid (perform · .registerPoll) := fun s _ => by
  have eq (s : Session) :
      s.perform .registerPoll = (s.registerPoll.map Prod.snd).toOption.getD s := by
    simp only [perform]
    cases s.registerPoll <;> rfl
  have same : (s.registerPoll.map Prod.snd).map (unjoined tid) =
      ((s.unjoined tid).registerPoll.map Prod.snd).map (unjoined tid) := by
    have h := congrArg (Except.map Prod.snd) (unjoined_registerPoll tid s)
    cases registered : s.registerPoll <;> cases registered' : (s.unjoined tid).registerPoll <;>
      simp_all [Except.map]
  simp only [eq]
  exact unjoined_getD same

theorem close (reason : CloseReason) : Blind tid (Session.close · reason) := fun s alone => by
  cases live : s.isLive with
  | false =>
    have live' : (s.unjoined tid).isLive = false := by rw [isLive_unjoined, live]
    simp only [close_of_not_live reason live, close_of_not_live reason live', unjoined_unjoined]
  | true =>
    have live' : (s.unjoined tid).isLive := by rw [isLive_unjoined, live]
    have ⟨_, eq⟩ := close_of_live reason live
    have ⟨_, eq'⟩ := close_of_live reason live'
    have same : s.shut.unjoined tid = (s.unjoined tid).shut.unjoined tid := by
      rw [unjoined_shut alone, unjoined_shut (alone_unjoined tid s), unjoined_unjoined]
      rfl
    simp only [eq, eq']
    exact congrArg (fun t : Session => { t with listening := false, cancelled := true }) same

theorem takeIn (content : Payload) : Blind tid (Session.takeIn · content) := fun s _ => by
  have listening : (s.unjoined tid).listening = s.listening := rfl
  cases open_ : s.listening with
  | false => simp [Session.takeIn, listening, open_]
  | true => simp [Session.takeIn, open_, unjoined, announce]

theorem receive (p : Packet) (now : Nat) : Blind tid (Session.receive · p now) := fun s alone => by
  let counted : Session := s.meter .received
  let counted' : Session := (s.unjoined tid).meter .received
  have same : counted.unjoined tid = counted'.unjoined tid := (s.unjoined_unjoined tid).symm
  have alone' : counted'.Alone tid := alone_unjoined tid s
  simp only [Session.receive]
  cases p.kind with
  | ping =>
    have heard : (counted.heartbeat now).unjoined tid = (counted'.heartbeat now).unjoined tid :=
      congrArg (heartbeat · now) same
    simp only [answerPing_eq]
    exact (send tid (.pong p.data)).congr alone alone' heard
  | pong => exact congrArg (heartbeat · now) same
  | message => exact (takeIn tid p.content).congr alone alone' same
  | close => exact (close tid .transportClose).congr alone alone' same
  | handshake | upgrade | noop => exact same

theorem recordDecodeError (e : DecodeError) : Blind tid (Session.recordDecodeError · e) :=
  fun s alone => by
    have same : (s.countDecodeError e).unjoined tid =
        ((s.unjoined tid).countDecodeError e).unjoined tid :=
      congrArg (fun t : Session => { t with decodeErrors := t.decodeErrors + 1 })
        (s.unjoined_unjoined tid).symm
    have exhausted (t : Session) : t.recordDecodeError e =
      if t.config.maxDecodeErrors < t.decodeErrors + 1 then
        (t.countDecodeError e).close .parseError else t.countDecodeError e := rfl
    have count : (s.unjoined tid).config.maxDecodeErrors < (s.unjoined tid).decodeErrors + 1 ↔
        s.config.maxDecodeErrors < s.decodeErrors + 1 := Iff.rfl
    simp only [exhausted, count]
    split
    · exact (close tid .parseError).congr alone (alone_unjoined tid s) same
    · exact same

-- Another websocket does not wait to join, so its end is nothing to an upgrade.
theorem abortUpgrade {tid tid' : TransportId} (f : Fault) (other : tid' ≠ tid) :
    Blind tid (Session.abortUpgrade · tid' f) := fun s alone => by
  have unfound : s.pending.filter (·.transport.id = tid') = none := by
    cases pending : s.pending with
    | none => rfl
    | some p => simp [Option.filter, alone p pending, other.symm]
  have unfound' : (s.unjoined tid).pending.filter (·.transport.id = tid') = none := rfl
  simp only [abortUpgrade_of_filter_none s f unfound, abortUpgrade_of_filter_none _ f unfound',
    unjoined_unjoined]

theorem transportClosed {tid tid' : TransportId} (reason : CloseReason) (other : tid' ≠ tid) :
    Blind tid (Session.transportClosed · tid' reason) := fun s alone => by
  have id : (s.unjoined tid).transport.id = s.transport.id := rfl
  simp only [Session.transportClosed, id]
  split
  · exact close tid reason s alone
  · exact abortUpgrade .upgradeTransportClosed other s alone

theorem releasePoll : Blind tid Session.releasePoll := fun s _ =>
  s.unjoined_withTransport tid s.transport.release

end Blind

namespace Op

-- An operation that neither brings along a websocket nor ends the upgrade of this one.
def spares (tid : TransportId) : Op → Bool
  | beginUpgrade _ _ _ => false
  | abortUpgrade tid' _ | transportClosed tid' _ => tid' ≠ tid
  | _ => true

theorem joining?_of_spares {op : Op} {tid : TransportId} (h : op.spares tid) :
    op.joining? = none := by
  cases op with
  | beginUpgrade => exact absurd h nofun
  | _ => rfl

end Op

-- Every operation but a probe.
theorem perform_blind {op : Op} {tid : TransportId} (spares : op.spares tid)
    (unprobed : ∀ tid p, op ≠ .probe tid p) : Blind tid (perform · op) := by
  cases op with
  | send p => exact .send tid p
  | registerPoll => exact .registerPoll tid
  | expirePoll poll => exact .releasePoll tid
  | receive p now => exact .receive tid p now
  | recordDecodeError e => exact .recordDecodeError tid e
  | abortUpgrade tid' f => exact .abortUpgrade f (by simpa [Op.spares] using spares)
  | transportClosed tid' reason => exact .transportClosed reason (by simpa [Op.spares] using spares)
  | close reason => exact .close tid reason
  | beginUpgrade => exact absurd spares nofun
  | probe tid' p => exact absurd rfl (unprobed tid' p)
  | setPollClient | heartbeat | countDecodeError | resetDecodeErrors | report | setWriter | passOn =>
    intro s _
    simp [perform, unjoined, Session.setPollClient, Session.heartbeat, Session.countDecodeError,
      Session.resetDecodeErrors, Session.report, Session.setWriter, announce, meter]

end Session

end Duplex
