import Mathlib.Data.List.Nodup
import Duplex.Proofs.Session.Stable
import Duplex.Proofs.Session.Valid
import Duplex.Server.Application
import Duplex.Server.Exchanges
import Duplex.Server.Shutdown
import Duplex.Server.Websockets

-- What holds of every session of a server. All that a server does to a session is made of its
-- operations, so a fact that lasts through them holds of all sessions at all times.

namespace Duplex

-- A session keeps its id whatever is done to it.
theorem Session.stable_id (sid : SessionId) : Session.Stable (·.id = sid) := fun s op _ same =>
  (congrArg (·.1) (s.perform_changes op).identity).trans same

-- A fact about all sessions of an engine. Their ids are those that the engine gives out, and no two
-- of these are the same.
structure Engine.Holds (P : Session → Prop) (e : Engine) : Prop where
  each : ∀ s ∈ e.sessions, P s
  ids : e.sessions.map (·.id) = (List.range e.sessions.length).map e.idOf
  distinct : ∀ m n, e.idOf m = e.idOf n → m = n

namespace Engine

-- Ids of different lengths are distinct.
theorem distinct_of_length {idOf : Nat → SessionId}
    (length : ∀ n, (idOf n).toList.length = n + 1) (m n : Nat) (same : idOf m = idOf n) : m = n := by
  have lengths := congrArg (·.toList.length) same
  simpa [length] using lengths

theorem publish_eq (e : Engine) (sid : SessionId) (signal : Signal) :
    ∃ bus metrics, e.publish sid signal = { e with bus, metrics } := by
  cases signal <;> exact ⟨_, _, rfl⟩

theorem publishAll_eq (e : Engine) (sid : SessionId) (signals : List Signal) :
    ∃ bus metrics,
      signals.foldl (fun e signal => e.publish sid signal) e = { e with bus, metrics } := by
  induction signals generalizing e with
  | nil => exact ⟨_, _, rfl⟩
  | cons signal signals ih =>
    have ⟨_, _, eq⟩ := e.publish_eq sid signal
    have ⟨_, _, eq'⟩ := ih (e.publish sid signal)
    exact ⟨_, _, by rw [List.foldl_cons, eq', eq]⟩

theorem put_of_id (e : Engine) {s : Session} {sid : SessionId} (id : s.id = sid) :
    e.put s = s.signals.foldl (fun e signal => e.publish sid signal)
      { e with
        sessions := e.sessions.map fun old =>
          if old.id = sid then { s with signals := [] } else old } := by
  subst id
  rfl

-- Taking a session back changes no other one.
theorem put_eq (e : Engine) (s : Session) :
    ∃ bus metrics, e.put s =
      { e with
        sessions := e.sessions.map fun old => if old.id = s.id then { s with signals := [] } else old
        bus
        metrics } :=
  publishAll_eq _ s.id s.signals

theorem sessions_put (e : Engine) (s : Session) :
    (e.put s).sessions =
      e.sessions.map fun old => if old.id = s.id then { s with signals := [] } else old := by
  obtain ⟨_, _, eq⟩ := e.put_eq s
  rw [eq]

theorem registry_put (e : Engine) (s : Session) : (e.put s).registry = e.registry := by
  obtain ⟨_, _, eq⟩ := e.put_eq s
  rw [eq]

theorem mem_of_session? {e : Engine} {sid : SessionId} {s : Session}
    (h : e.session? sid = some s) : s ∈ e.sessions :=
  List.mem_of_find?_eq_some h

theorem id_of_session? {e : Engine} {sid : SessionId} {s : Session}
    (h : e.session? sid = some s) : s.id = sid := by
  simpa using List.find?_some h

theorem session?_of_mem {e : Engine} {sid : SessionId} (there : ∃ s ∈ e.sessions, s.id = sid) :
    ∃ s, e.session? sid = some s := by
  obtain ⟨s, mem, same⟩ := there
  exact Option.isSome_iff_exists.mp (List.find?_isSome.mpr ⟨s, mem, decide_eq_true same⟩)

theorem session?_put {e : Engine} {sid : SessionId} {s s' : Session}
    (found : e.session? sid = some s) (id : s'.id = sid) :
    (e.put s').session? sid = some { s' with signals := [] } := by
  have there : ∃ t ∈ (e.put s').sessions, t.id = sid := by
    rw [sessions_put]
    exact ⟨_, List.mem_map.mpr ⟨s, mem_of_session? found,
      if_pos ((id_of_session? found).trans id.symm)⟩, id⟩
  obtain ⟨t, found'⟩ := session?_of_mem there
  have mem := mem_of_session? found'
  rw [sessions_put] at mem
  obtain ⟨old, _, eq⟩ := List.mem_map.mp mem
  split at eq
  · rw [found', ← eq]
  · next other => exact absurd ((congrArg (·.id) eq).trans (id_of_session? found')) (id ▸ other)

theorem session?_of_lookup {e : Engine} {sid : SessionId} {s : Session}
    (h : e.lookup sid = .ok s) : e.session? sid = some s := by
  simp only [lookup] at h
  split at h
  · next found =>
    rw [← Except.ok.inj h]
    exact (Option.filter_eq_some_iff.mp found).1
  · simp at h

namespace Holds

variable {P : Session → Prop} {e : Engine}

-- An engine that has opened no session yet.
theorem of_sessions_nil (new : e.sessions = [])
    (distinct : ∀ m n, e.idOf m = e.idOf n → m = n) : e.Holds P :=
  ⟨by simp [new], by simp [new], distinct⟩

-- An engine that differs in nothing that matters here.
theorem of_eq {e' : Engine} (h : e.Holds P) (sessions : e'.sessions = e.sessions)
    (idOf : e'.idOf = e.idOf) : e'.Holds P := by
  obtain ⟨each, ids, distinct⟩ := h
  exact ⟨sessions ▸ each, by rw [sessions, idOf, ids], idOf ▸ distinct⟩

theorem imp {Q : Session → Prop} (h : e.Holds P) (imp : ∀ s, P s → Q s) : e.Holds Q :=
  ⟨fun s mem => imp s (h.each s mem), h.ids, h.distinct⟩

theorem put (stable : Session.Stable P) (h : e.Holds P) {s : Session} (hs : P s) :
    (e.put s).Holds P := by
  have ⟨_, _, eq⟩ := e.put_eq s
  rw [eq]
  refine ⟨fun t mem => ?_, ?_, h.distinct⟩
  · have ⟨old, mem, eq⟩ := List.mem_map.mp mem
    split at eq
    · exact eq ▸ stable .passOn rfl hs
    · exact eq ▸ h.each old mem
  · have kept : ((·.id) ∘ fun old : Session => if old.id = s.id then { s with signals := [] } else old) =
        (·.id) := by
      funext old
      simp only [Function.comp]
      split
      · next same => exact same.symm
      · rfl
    simp only [List.map_map, List.length_map, kept]
    exact h.ids

theorem update (stable : Session.Stable P) (h : e.Holds P) (sid : SessionId)
    {f : Session → Session} (hf : ∀ s, P s → P (f s)) : (e.update sid f).Holds P := by
  simp only [Engine.update]
  split
  · exact h
  · next found => exact h.put stable (hf _ (h.each _ (mem_of_session? found)))

theorem closeAll (stable : Session.Stable P) (h : e.Holds P) (reason : CloseReason) :
    (e.closeAll reason).Holds P := by
  simp only [Engine.closeAll]
  generalize e.registry = registry
  induction registry generalizing e with
  | nil => exact h
  | cons sid registry ih =>
    exact ih (h.update stable sid fun s hs => stable (.close reason) rfl hs)

theorem runWatch (stable : Session.Stable P) (h : e.Holds P) (w : Watch) (now : Nat) :
    (e.runWatch w now).2.Holds P := by
  simp only [Engine.runWatch]
  split
  · exact h
  · next s found =>
    have watched := stable.watch (h.each _ (mem_of_session? found)) w now
    split
    · next eq =>
      rw [eq] at watched
      exact h.put stable watched
    · next eq =>
      rw [eq] at watched
      exact (h.put stable watched).of_eq rfl rfl

-- No two sessions have the same id.

theorem nodup (h : e.Holds P) : (e.sessions.map (·.id)).Nodup := by
  rw [h.ids]
  exact List.nodup_range.map fun m n => h.distinct m n

theorem eq_of_id (h : e.Holds P) {s t : Session} (hs : s ∈ e.sessions) (ht : t ∈ e.sessions)
    (same : s.id = t.id) : s = t :=
  List.inj_on_of_nodup_map h.nodup hs ht same

-- A session that nothing was done to comes back as it was.
theorem put_self (h : e.Holds P) {sid : SessionId} {s : Session} (found : e.session? sid = some s)
    (quiet : s.signals = []) : e.put s = e := by
  have same : { s with signals := [] } = s := by rw [← quiet]
  have sessions : (e.sessions.map fun old =>
      if old.id = s.id then { s with signals := [] } else old) = e.sessions := by
    refine (List.map_congr_left fun old mem => ?_).trans (List.map_id _)
    split
    · next is => exact same.trans (h.eq_of_id (mem_of_session? found) mem is.symm)
    · rfl
  rw [Engine.put, sessions, quiet]
  rfl

-- No session has the id that the engine gives out next.
theorem id_ne_next (h : e.Holds P) {s : Session} (mem : s ∈ e.sessions) :
    s.id ≠ e.idOf e.sessions.length := by
  intro eq
  have taken : s.id ∈ (List.range e.sessions.length).map e.idOf :=
    h.ids ▸ List.mem_map_of_mem mem
  have ⟨n, lt, same⟩ := List.mem_map.mp taken
  have last := h.distinct _ _ (same.trans eq)
  exact absurd (List.mem_range.mp lt) (by omega)

end Holds

-- What a session of this engine opens with.
def origin (e : Engine) (revision : Revision) (tid : TransportId) (writer? : Option Peer)
    (now : Nat) : Session.Origin where
  sid := e.idOf e.sessions.length
  revision
  config := e.config
  tid
  writer?
  handshake := e.config.handshake (e.idOf e.sessions.length) revision
    (if writer?.isSome then .websocket else .polling)
  now

namespace Holds

variable {P : Session → Prop} {e : Engine}

theorem map_sessions (h : e.Holds P) (quiet : Session) :
    (e.sessions.map fun old => if old.id = e.idOf e.sessions.length then quiet else old) =
      e.sessions :=
  (List.map_congr_left fun _ mem => if_neg (h.id_ne_next mem)).trans (List.map_id _)

-- The new session comes last, and the others stay as they are. All that it has to say is passed on,
-- and then that it was opened.
theorem openSession_publish (h : e.Holds P) (revision : Revision) (tid : TransportId)
    (writer? : Option Peer) (now : Nat) :
    let o := e.origin revision tid writer? now
    (e.openSession revision o.transport now).2 =
      (o.session.signals ++
          [Signal.meter (.opened o.transport.kind), .event (.connection o.transport.kind)]).foldl
        (fun e signal => e.publish o.sid signal)
        { e with
          sessions := e.sessions ++ [{ o.session with signals := [] }]
          registry := e.registry ++ [o.sid] } := by
  intro o
  let opened : Engine :=
    { e with sessions := e.sessions ++ [o.created], registry := e.registry ++ [o.sid] }
  have absent : e.sessions.find? (·.id = o.sid) = none :=
    List.find?_eq_none.mpr fun s mem same => h.id_ne_next mem (of_decide_eq_true same)
  have found : opened.session? o.sid = some o.created := by
    have last : [o.created].find? (·.id = o.sid) = some o.created := by simp; rfl
    exact (List.find?_append ..).trans (by rw [absent, Option.none_or, last])
  have id : o.session.id = o.sid := congrArg (·.1) o.identity_session
  have sessions : (opened.sessions.map fun old =>
      if old.id = o.sid then { o.session with signals := [] } else old) =
        e.sessions ++ [{ o.session with signals := [] }] := by
    rw [List.map_append]
    exact congr (congrArg _ (h.map_sessions _)) (congrArg ([·]) (if_pos rfl))
  have updated : opened.update o.sid (·.start o.handshake.packet now) =
      o.session.signals.foldl (fun e signal => e.publish o.sid signal)
        { opened with sessions := e.sessions ++ [{ o.session with signals := [] }] } := by
    have put := opened.put_of_id id
    rw [sessions] at put
    simp only [Engine.update, found]
    exact put
  rw [List.foldl_append, ← updated]
  cases writer? <;> rfl

theorem openSession_eq (h : e.Holds P) (revision : Revision) (tid : TransportId)
    (writer? : Option Peer) (now : Nat) :
    ∃ registry bus metrics,
      (e.openSession revision (e.origin revision tid writer? now).transport now).2 =
        { e with
          sessions :=
            e.sessions ++ [{ (e.origin revision tid writer? now).session with signals := [] }]
          registry
          bus
          metrics } := by
  obtain ⟨_, _, published⟩ := publishAll_eq _ (e.origin revision tid writer? now).sid _
  exact ⟨_, _, _, (h.openSession_publish revision tid writer? now).trans published⟩

theorem registry_openSession (h : e.Holds P) (revision : Revision) (tid : TransportId)
    (writer? : Option Peer) (now : Nat) :
    (e.openSession revision (e.origin revision tid writer? now).transport now).2.registry =
      e.registry ++ [e.idOf e.sessions.length] := by
  obtain ⟨_, _, published⟩ := publishAll_eq _ (e.origin revision tid writer? now).sid _
  exact congrArg (·.registry) ((h.openSession_publish revision tid writer? now).trans published)

theorem openSession (stable : Session.Stable P) (opens : ∀ o : Session.Origin, P o.session)
    (h : e.Holds P) (revision : Revision) (tid : TransportId) (writer? : Option Peer) (now : Nat) :
    (e.openSession revision (e.origin revision tid writer? now).transport now).2.Holds P := by
  let o := e.origin revision tid writer? now
  have ⟨_, _, _, eq⟩ := h.openSession_eq revision tid writer? now
  have id : o.session.id = o.sid := congrArg (·.1) o.identity_session
  rw [eq]
  refine ⟨fun s mem => ?_, ?_, h.distinct⟩
  · cases List.mem_append.mp mem with
    | inl old => exact h.each s old
    | inr new => exact List.mem_singleton.mp new ▸ stable .passOn rfl (opens _)
  · simp only [List.map_append, h.ids, List.length_append, List.length_singleton,
      List.range_succ, List.map_cons, List.map_nil]
    exact congrArg _ (congrArg (List.cons · []) id)

end Holds

end Engine

end Duplex
