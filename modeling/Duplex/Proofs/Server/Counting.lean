import Duplex.Proofs.Server.Shutdown
import Duplex.Proofs.Server.Stopping
import Duplex.Proofs.Session.Answers
import Duplex.Proofs.Session.Telling

-- What the beginning of a shutdown does to sessions, what it tells of them, and what it counts. It
-- closes those that live, and it counts those that are registered. A session that closed before is
-- counted as long as its supervisor has not taken it out.

namespace Duplex

namespace Session

-- What is left of a session that is closed, once it has passed on what it had to say.
def ended (s : Session) (reason : CloseReason) : Session :=
  { s.close reason with signals := [] }

-- What is told of a session that is closed. One that is over is not mentioned again.
def obituary (s : Session) (reason : CloseReason) : List Notice :=
  if s.isLive then
    [{ sid := s.id, event := .stateChange s.state .closing },
      { sid := s.id, event := .stateChange .closing .closed },
      { sid := s.id, event := .close reason }]
  else []

variable {s : Session} (reason : CloseReason)

theorem id_ended (s : Session) : (s.ended reason).id = s.id :=
  congrArg (·.1) (s.identity_close reason)

theorem isLive_ended (s : Session) : (s.ended reason).isLive = false :=
  s.isLive_close reason

theorem ended_of_not_live (quiet : s.signals = []) (over_ : s.isLive = false) :
    s.ended reason = s := by
  rw [ended, close_of_not_live reason over_, ← quiet]

theorem of_mem_obituary {n : Notice} (mem : n ∈ s.obituary reason) : s.isLive ∧ n.sid = s.id := by
  simp only [obituary] at mem
  split at mem
  case isTrue live =>
    simp only [List.mem_cons, List.not_mem_nil, or_false] at mem
    rcases mem with rfl | rfl | rfl <;> exact ⟨live, rfl⟩
  case isFalse => cases mem

theorem obituary_of_not_live (over_ : s.isLive = false) : s.obituary reason = [] := by
  simp [obituary, over_]

theorem events_close_quiet (quiet : s.signals = []) :
    (s.close reason).events.map (Notice.mk s.id) = s.obituary reason := by
  cases live : s.isLive with
  | false =>
    rw [close_of_not_live reason live, obituary_of_not_live reason live]
    simp [events, quiet]
  | true =>
    rw [s.events_close reason live]
    simp [events, quiet, obituary, live]

-- The poll that waits is answered with the end, and no other one is.
theorem answers_ended (v : s.Valid) (live : s.isLive) :
    (s.ended reason).answers = s.answers ++ s.transport.answersWith [.close] := by
  obtain ⟨unclosed, _⟩ := v.live live
  obtain ⟨_, eq⟩ := close_of_live reason live
  rw [ended, eq]
  exact s.answers_shut unclosed

end Session

theorem Bus.emitAll_append (b : Bus) (ns more : List Notice) :
    b.emitAll (ns ++ more) = (b.emitAll ns).emitAll more :=
  List.foldl_append

namespace Engine

theorem bus_publishAll (e : Engine) (sid : SessionId) (signals : List Signal) :
    (signals.foldl (fun e signal => e.publish sid signal) e).bus =
      e.bus.emitAll ((signals.filterMap Signal.event?).map (Notice.mk sid)) := by
  induction signals generalizing e with
  | nil => rfl
  | cons signal signals ih => cases signal <;> exact ih _

theorem bus_put (e : Engine) (s : Session) :
    (e.put s).bus = e.bus.emitAll (s.events.map (Notice.mk s.id)) :=
  bus_publishAll _ s.id s.signals

-- What is told of the session with an id.
def obituary (e : Engine) (reason : CloseReason) (sid : SessionId) : List Notice :=
  ((e.session? sid).map (·.obituary reason)).getD []

section

variable {P : Session → Prop} {e : Engine} {sid : SessionId}

theorem exists_of_mem_obituary {reason : CloseReason} {n : Notice}
    (mem : n ∈ e.obituary reason sid) :
    ∃ s ∈ e.sessions, s.id = sid ∧ n ∈ s.obituary reason := by
  simp only [obituary] at mem
  cases found : e.session? sid with
  | none => simp [found] at mem
  | some s =>
    rw [found] at mem
    exact ⟨s, mem_of_session? found, id_of_session? found, mem⟩

-- Closing one session.

theorem Holds.sessions_close (h : e.Holds P) (sid : SessionId) (reason : CloseReason) :
    (e.update sid (·.close reason)).sessions =
      e.sessions.map fun s => if s.id = sid then s.ended reason else s := by
  simp only [Engine.update]
  split
  · next missing =>
    refine ((List.map_congr_left fun s mem => if_neg ?_).trans (List.map_id _)).symm
    exact of_decide_eq_false (Bool.eq_false_iff.mpr (List.find?_eq_none.mp missing s mem))
  · next s found =>
    have id : (s.close reason).id = sid := (s.id_ended reason).trans (id_of_session? found)
    rw [sessions_put]
    refine List.map_congr_left fun old mem => ?_
    by_cases same : old.id = sid
    · rw [if_pos (same.trans id.symm), if_pos same,
        h.eq_of_id mem (mem_of_session? found) (same.trans (id_of_session? found).symm)]
      rfl
    · rw [if_neg (id ▸ same), if_neg same]

theorem bus_close (quiet : ∀ s ∈ e.sessions, s.signals = []) (sid : SessionId)
    (reason : CloseReason) :
    (e.update sid (·.close reason)).bus = e.bus.emitAll (e.obituary reason sid) := by
  simp only [update, obituary]
  split
  · next missing => rw [missing]; rfl
  · next s found =>
    have id : (s.close reason).id = s.id := s.id_ended reason
    rw [bus_put, id, s.events_close_quiet reason (quiet s (mem_of_session? found)), found]
    rfl

theorem session?_close_of_ne (h : e.Holds P) (reason : CloseReason) {id : SessionId}
    (other : id ≠ sid) : (e.update sid (·.close reason)).session? id = e.session? id := by
  have kept : (fun s : Session => decide ((if s.id = sid then s.ended reason else s).id = id)) =
      fun s => decide (s.id = id) := by
    funext s
    split
    · rw [s.id_ended reason]
    · rfl
  have elsewhere {found : Option Session} (eq : e.session? id = found) :
      found.map (fun s => if s.id = sid then s.ended reason else s) = found := by
    cases found with
    | none => rfl
    | some s =>
      have same : s.id = id := id_of_session? eq
      rw [Option.map_some, if_neg (same ▸ other)]
  rw [session?, h.sessions_close, List.find?_map, Function.comp_def, kept]
  exact elsewhere rfl

-- Closing one after the other.

theorem Holds.closeEach (h : e.Holds Session.Sane) (quiet : ∀ s ∈ e.sessions, s.signals = [])
    (reason : CloseReason) {ids : List SessionId} (nodup : ids.Nodup) :
    (ids.foldl (fun e sid => e.update sid (·.close reason)) e).sessions =
        e.sessions.map (fun s => if s.id ∈ ids then s.ended reason else s) ∧
      (ids.foldl (fun e sid => e.update sid (·.close reason)) e).bus =
        e.bus.emitAll (ids.flatMap (e.obituary reason)) := by
  induction ids generalizing e with
  | nil => simp [Bus.emitAll]
  | cons sid ids ih =>
    obtain ⟨fresh, nodup⟩ := List.nodup_cons.mp nodup
    let closed := e.update sid (·.close reason)
    have sessions : closed.sessions =
        e.sessions.map fun s => if s.id = sid then s.ended reason else s :=
      h.sessions_close sid reason
    have h' : closed.Holds Session.Sane :=
      h.update Session.Sane.stable sid fun s sane => sane.run [.close reason]
    have quiet' : ∀ s ∈ closed.sessions, s.signals = [] := by
      intro s mem
      rw [sessions] at mem
      obtain ⟨old, there, rfl⟩ := List.mem_map.mp mem
      split
      · rfl
      · exact quiet old there
    obtain ⟨sessions', bus'⟩ := ih h' quiet' nodup
    constructor
    case left =>
      rw [List.foldl_cons, sessions', sessions, List.map_map]
      refine List.map_congr_left fun s _ => ?_
      by_cases same : s.id = sid
      · have late : (s.ended reason).id ∉ ids := by rwa [s.id_ended reason, same]
        simp [same, late]
      · simp [same]
    case right =>
      have later : ids.flatMap (closed.obituary reason) = ids.flatMap (e.obituary reason) := by
        refine List.flatMap_congr fun id mem => ?_
        have other : id ≠ sid := fun same => fresh (same ▸ mem)
        rw [obituary, session?_close_of_ne h reason other, obituary]
      rw [List.foldl_cons, bus', later, bus_close quiet, List.flatMap_cons, Bus.emitAll_append]

end

end Engine

-- What is told of one session, picked out of what is told of all.
theorem filter_flatMap_sid {ids : List SessionId} (nodup : ids.Nodup)
    {told : SessionId → List Notice} (own : ∀ sid, ∀ n ∈ told sid, n.sid = sid) (sid : SessionId) :
    (ids.flatMap told).filter (·.sid = sid) = if sid ∈ ids then told sid else [] := by
  induction ids with
  | nil => simp
  | cons id ids ih =>
    obtain ⟨fresh, nodup⟩ := List.nodup_cons.mp nodup
    rw [List.flatMap_cons, List.filter_append, ih nodup]
    by_cases same : id = sid
    · have all : (told id).filter (·.sid = sid) = told id :=
        List.filter_eq_self.mpr fun n mem => decide_eq_true ((own id n mem).trans same)
      rw [all, same, if_neg (same ▸ fresh), if_pos List.mem_cons_self, List.append_nil]
    · have none_ : (told id).filter (·.sid = sid) = [] :=
        List.filter_eq_nil_iff.mpr fun n mem is =>
          same ((own id n mem).symm.trans (of_decide_eq_true is))
      rw [none_, List.nil_append]
      simp [Ne.symm same]

namespace Service

section

variable {v : Service}

theorem Sound.nodup_registry (i : v.Sound) : v.engine.registry.Nodup := by
  rw [i.registry]
  have staff : (v.supervisors.map (·.sid)).Nodup := i.staff ▸ i.holds.nodup
  exact staff.sublist (List.filter_sublist.map _)

theorem Sound.over_of_not_mem {s : Session} (i : v.Sound) (mem : s ∈ v.engine.sessions)
    (absent : s.id ∉ v.engine.registry) : s.isLive = false :=
  Bool.eq_false_iff.mpr fun live => absent (i.registered_of_live mem live)

theorem Sound.perm_registry (i : v.Sound) :
    v.engine.registry.Perm
      ((v.engine.sessions.filter fun s => v.engine.isRegistered s.id).map (·.id)) := by
  have nodup : ((v.engine.sessions.filter fun s => v.engine.isRegistered s.id).map (·.id)).Nodup :=
    i.holds.nodup.sublist (List.filter_sublist.map _)
  refine (List.perm_ext_iff_of_nodup i.nodup_registry nodup).mpr fun sid => ?_
  constructor
  case mp =>
    intro there
    obtain ⟨s, mem, same⟩ := List.mem_map.mp (i.mem_ids there)
    have registered : v.engine.isRegistered s.id := decide_eq_true (same ▸ there)
    exact List.mem_map.mpr ⟨s, List.mem_filter.mpr ⟨mem, registered⟩, same⟩
  case mpr =>
    intro mem
    obtain ⟨s, kept, rfl⟩ := List.mem_map.mp mem
    exact of_decide_eq_true (List.mem_filter.mp kept).2

-- Who is registered lives, or is over and has not been taken out yet.
theorem Sound.length_registry (i : v.Sound) :
    v.engine.registry.length =
      v.engine.sessions.countP (·.isLive) +
        v.engine.sessions.countP fun s => v.engine.isRegistered s.id && !s.isLive := by
  rw [i.perm_registry.length_eq, List.length_map, ← List.countP_eq_length_filter,
    List.countP_eq_countP_filter_add _ _ (·.isLive), List.countP_filter, List.countP_filter]
  refine congrArg (· + _) (List.countP_congr fun s mem => ?_)
  rw [Bool.and_eq_true]
  exact ⟨And.right, fun live => ⟨decide_eq_true (i.registered_of_live mem live), live⟩⟩

theorem Sound.length_registry_iff (i : v.Sound) :
    v.engine.registry.length = v.engine.sessions.countP (·.isLive) ↔
      ∀ s ∈ v.engine.sessions, v.engine.isRegistered s.id → s.isLive := by
  rw [i.length_registry, Nat.add_eq_left, List.countP_eq_zero]
  simp

-- Who listens on the bus makes no difference.
theorem Sound.listened (i : v.Sound) (bus : Bus) :
    { v with engine := { v.engine with bus } }.Sound :=
  ⟨i.holds.of_eq rfl rfl, i.balanced.of_eq rfl rfl, i.staff, i.registry, i.dead⟩

theorem Sound.closeAll (i : v.Sound) (reason : CloseReason) :
    (v.engine.closeAll reason).sessions = v.engine.sessions.map (·.ended reason) ∧
      (v.engine.closeAll reason).bus =
        v.engine.bus.emitAll (v.engine.registry.flatMap (v.engine.obituary reason)) := by
  obtain ⟨sessions, bus⟩ := i.holds.closeEach i.balanced.quiet reason i.nodup_registry
  refine ⟨sessions.trans (List.map_congr_left fun s mem => ?_), bus⟩
  split
  · rfl
  · next absent =>
    rw [s.ended_of_not_live reason (i.balanced.quiet s mem) (i.over_of_not_mem mem absent)]

-- All that is told is told of sessions that live, each time the same.
theorem Sound.obituaries (i : v.Sound) (reason : CloseReason) :
    (∀ n ∈ v.engine.registry.flatMap (v.engine.obituary reason),
        ∃ s ∈ v.engine.sessions, s.isLive ∧ n ∈ s.obituary reason) ∧
      ∀ s ∈ v.engine.sessions,
        (v.engine.registry.flatMap (v.engine.obituary reason)).filter (·.sid = s.id) =
          s.obituary reason := by
  have own : ∀ sid, ∀ n ∈ v.engine.obituary reason sid, n.sid = sid := by
    intro sid n mem
    obtain ⟨s, _, id, told⟩ := Engine.exists_of_mem_obituary mem
    exact (s.of_mem_obituary reason told).2.trans id
  constructor
  case left =>
    intro n mem
    obtain ⟨sid, _, mem⟩ := List.mem_flatMap.mp mem
    obtain ⟨s, there, _, told⟩ := Engine.exists_of_mem_obituary mem
    exact ⟨s, there, (s.of_mem_obituary reason told).1, told⟩
  case right =>
    intro s mem
    rw [filter_flatMap_sid i.nodup_registry own, Engine.obituary, i.session?_of_mem mem]
    split
    · rfl
    · next absent => rw [s.obituary_of_not_live reason (i.over_of_not_mem mem absent)]

end

-- The first beginning of a shutdown, whatever was done to the sessions and however far their
-- supervisors are. Only the count can be off: it is right exactly when no session is registered that
-- is over.
theorem beginShutdown_counts (config : Configuration) (idOf : Nat → SessionId)
    (distinct : ∀ m n, idOf m = idOf n → m = n) (acts : List Act) (bus : Bus) {server : Server}
    (same : server.engine = { ((idle config idOf).run acts).engine with bus })
    (running : server.stopping = false) :
    let e := server.engine
    let after := server.beginShutdown.2
    after.engine.sessions = e.sessions.map (·.ended .serverShutdown) ∧
      (∀ s ∈ e.sessions,
        (s.isLive → (s.ended .serverShutdown).isLive = false ∧
          (s.ended .serverShutdown).answers = s.answers ++ s.transport.answersWith [.close]) ∧
        (s.isLive = false → s.ended .serverShutdown = s)) ∧
      (∃ notices, after.engine.bus = bus.emitAll notices ∧
        (∀ n ∈ notices, ∃ s ∈ e.sessions, s.isLive ∧ n ∈ s.obituary .serverShutdown) ∧
        ∀ s ∈ e.sessions, notices.filter (·.sid = s.id) = s.obituary .serverShutdown) ∧
      server.beginShutdown.1 =
        e.sessions.countP (·.isLive) +
          e.sessions.countP (fun s => e.isRegistered s.id && !s.isLive) ∧
      (server.beginShutdown.1 = e.sessions.countP (·.isLive) ↔
        ∀ s ∈ e.sessions, e.isRegistered s.id → s.isLive) ∧
      ∀ moves, (after.run moves).beginShutdown = (0, after.run moves) := by
  let v : Service := { (idle config idOf).run acts with engine := server.engine }
  have i : v.Sound := by
    simp only [v, same]
    exact ((Sound.idle config distinct).run acts).listened bus
  have begins : server.beginShutdown =
      (server.engine.registry.length,
        { server with
          engine := server.engine.closeAll .serverShutdown
          stopping := true
          listening := false }) := by
    simp [Server.beginShutdown, running]
  have count : server.beginShutdown.1 = v.engine.registry.length := congrArg (·.1) begins
  have closed : server.beginShutdown.2.engine = v.engine.closeAll .serverShutdown :=
    congrArg (·.2.engine) begins
  have heard : v.engine.bus = bus := congrArg (·.bus) same
  obtain ⟨sessions, told⟩ := i.closeAll .serverShutdown
  intro e after
  refine ⟨?_, fun s mem => ⟨fun live => ?_, fun over_ => ?_⟩, ⟨_, ?_, i.obituaries .serverShutdown⟩, ?_,
    ?_, fun moves => ?_⟩
  · exact (congrArg (·.sessions) closed).trans sessions
  · exact ⟨s.isLive_ended _, Session.answers_ended _ (i.holds.each s mem).1 live⟩
  · exact Session.ended_of_not_live _ (i.balanced.quiet s mem) over_
  · rw [← heard, ← told]
    exact congrArg (·.bus) closed
  · exact count.trans i.length_registry
  · rw [count]
    exact i.length_registry_iff
  · exact Server.beginShutdown_of_stopping (Server.stopping_run server.stopping_beginShutdown moves)

-- One of two sessions has closed, and its supervisor has not noticed yet.

def lingering : List Act :=
  [.handshake .v4 none 0, .handshake .v3 (some .present) 3, .operate "a" (.close .transportClose)]

def serving (acts : List Act) : Server where
  listener := {}
  engine := ((idle {} letters).run acts).engine

theorem beginShutdown_counts_lingering :
    (serving lingering).stopping = false ∧ (serving lingering).beginShutdown.1 = 2 ∧
      (serving lingering).engine.sessions.countP (·.isLive) = 1 ∧
      (serving lingering).beginShutdown.2.engine.bus.emitted =
        (serving lingering).engine.bus.emitted + 3 := by
  decide +kernel

-- When it has noticed, and has taken its session out, the count is right.
theorem beginShutdown_counts_departed :
    (serving departing).stopping = false ∧ (serving departing).beginShutdown.1 = 1 ∧
      (serving departing).beginShutdown.2.beginShutdown = (0, (serving departing).beginShutdown.2) := by
  have running : (serving departing).stopping = false := rfl
  have served : (serving departing).engine = { ((idle {} letters).run departing).engine with
      bus := ((idle {} letters).run departing).engine.bus } := rfl
  obtain ⟨_, _, _, _, right, later⟩ :=
    beginShutdown_counts {} letters letters_distinct departing
      ((idle {} letters).run departing).engine.bus served running
  have live : ((serving departing).engine.sessions.all fun s =>
      !(serving departing).engine.isRegistered s.id || s.isLive) = true := by
    decide +kernel
  have one : (serving departing).engine.sessions.countP (·.isLive) = 1 := by decide +kernel
  refine ⟨running, (right.mpr fun s mem registered => ?_).trans one, later []⟩
  simpa [registered] using List.all_eq_true.mp live s mem

end Service

end Duplex
