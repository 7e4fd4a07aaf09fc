import Duplex.Proofs.Server.Service

-- Who is registered. A session is as long as it lives, and some time after that until its own
-- supervisor takes it out. However the tasks of an engine interleave, what is counted agrees.

namespace Duplex

namespace Session

-- What becomes of a session before it passes anything on.
structure Moved (s s' : Session) : Prop where
  id : s'.id = s.id
  sane : s'.Sane
  counts : Counts s s'

namespace Moved

variable {s s' : Session}

theorem refl (sane : s.Sane) : Moved s s :=
  ⟨rfl, sane, .refl s⟩

theorem perform (sane : s.Sane) (op : Op) (tells : op ≠ .passOn) : Moved s (s.perform op) where
  id := congrArg (·.1) (perform_changes s op).identity
  sane := sane.run [op]
  counts := perform_counts sane.1 op tells

-- One that has nothing to pass on may do so too.
theorem of_quiet (op : Op) (sane : s.Sane) (quiet : s.signals = []) : Moved s (s.perform op) := by
  by_cases tells : op = .passOn
  · have same : s.perform op = s := by rw [tells, Session.perform, ← quiet]
    exact same.symm ▸ refl sane
  · exact perform sane op tells

-- A session that is over stays so.
theorem dead (m : Moved s s') (over_ : s.isLive = false) : s'.isLive = false := by
  cases m.counts with
  | stays _ live => exact live.trans over_
  | closes _ dead => exact dead

end Moved

theorem Sane.stable : Stable Sane :=
  fun _ op _ sane => sane.run [op]

end Session

namespace Duty

variable {d : Duty} {s : Session} {now : Nat} {cue : Cue}

-- Whether the session must be over for a supervisor to come that far.
def isOver : Duty → Bool
  | leaving | finished => true
  | watching _ | reporting | closing => false

theorem moved_follow (sane : s.Sane) : s.Moved (d.follow s now cue).2 := by
  simp only [follow]
  split
  · simp only [Watch.ping]
    split
    · have eq : s.ping = s.perform (.send .ping) := by
        simp only [Session.ping, Session.perform]
        cases s.send .ping <;> rfl
      rw [eq]
      exact .perform sane (.send .ping) (by simp)
    · exact .refl sane
  · split <;> exact .refl sane
  · split <;> exact .refl sane
  · exact .perform sane (.report .heartbeatTimeout) (by simp)
  · exact .perform sane (.close .pingTimeout) (by simp)
  · exact .refl sane
  · exact .refl sane

theorem over_follow (sane : s.Sane) (before : d.isOver → s.isLive = false)
    (after : (d.follow s now cue).1.isOver) : (d.follow s now cue).2.isLive = false := by
  revert after
  simp only [follow]
  split
  · simp [isOver]
  · split <;> simp [isOver]
  · split
    · next cancelled =>
      cases live : s.isLive with
      | false => exact fun _ => rfl
      | true => exact absurd ((sane.2 live).symm.trans cancelled) Bool.false_ne_true
    · simp [isOver]
  · simp [isOver]
  · exact fun _ => s.isLive_close .pingTimeout
  · exact fun _ => before rfl
  · exact before

theorem follow_finished_iff :
    (d.follow s now cue).1 = .finished ↔ d = .finished ∨ d = .leaving ∧ cue = .go := by
  simp only [follow]
  split
  · simp
  · split <;> simp
  · split <;> simp
  · simp
  · simp
  · simp
  · next other =>
    refine ⟨.inl, fun h => h.resolve_right fun leaves => ?_⟩
    obtain ⟨rfl, rfl⟩ := leaves
    exact other rfl rfl

end Duty

namespace Engine

variable {e : Engine} {sid : SessionId} {s : Session}

theorem lookup_of_registered (found : e.session? sid = some s) (there : sid ∈ e.registry) :
    e.lookup sid = .ok s := by
  have kept : (some s).filter (fun _ => e.isRegistered sid) = some s :=
    Option.filter_eq_some_iff.mpr ⟨rfl, decide_eq_true there⟩
  simp only [lookup, found, kept]

theorem lookup_of_unregistered (gone : sid ∉ e.registry) :
    e.lookup sid = .error (.unknownSession sid) := by
  cases found : e.session? sid <;> simp [lookup, found, isRegistered, gone]

theorem ids_put (e : Engine) (s : Session) :
    (e.put s).sessions.map (·.id) = e.sessions.map (·.id) := by
  rw [sessions_put, List.map_map]
  refine List.map_congr_left fun old _ => ?_
  simp only [Function.comp]
  split
  · next same => exact same.symm
  · rfl

-- What was taken back is all that there is of a session.
theorem eq_of_mem_put {t : Session} (mem : t ∈ (e.put s).sessions) (same : t.id = s.id) :
    t = { s with signals := [] } := by
  rw [sessions_put] at mem
  obtain ⟨old, _, eq⟩ := List.mem_map.mp mem
  split at eq
  · exact eq.symm
  · next other => exact absurd ((congrArg (·.id) eq).trans same) other

theorem ids_update (e : Engine) (sid : SessionId) (f : Session → Session) :
    (e.update sid f).sessions.map (·.id) = e.sessions.map (·.id) := by
  simp only [update]
  split
  · rfl
  · exact ids_put _ _

theorem registry_update (e : Engine) (sid : SessionId) (f : Session → Session) :
    (e.update sid f).registry = e.registry := by
  simp only [update]
  split
  · rfl
  · exact registry_put _ _

end Engine

namespace Service

-- The supervisors are those of the sessions, and the registry knows whose work is not finished.
structure Sound (v : Service) : Prop where
  holds : v.engine.Holds Session.Sane
  balanced : v.engine.Balanced
  staff : v.supervisors.map (·.sid) = v.engine.sessions.map (·.id)
  registry : v.engine.registry = (v.supervisors.filter (·.duty ≠ .finished)).map (·.sid)
  dead : ∀ u ∈ v.supervisors, u.duty.isOver → ∀ s ∈ v.engine.sessions, s.id = u.sid → s.isLive = false

-- A supervisor keeps its place.
theorem exists_split {us : List Supervisor} {k : Nat} {u : Supervisor} (own : us[k]? = some u)
    (u' : Supervisor) :
    ∃ front back, us = front ++ u :: back ∧ us.set k u' = front ++ u' :: back := by
  obtain ⟨lt, is⟩ := List.getElem?_eq_some_iff.mp own
  obtain ⟨front, back, split, _, set⟩ :
      ∃ front back, us = front ++ us[k] :: back ∧ front.length = k ∧
        us.set k u' = front ++ u' :: back :=
    List.exists_of_set lt
  exact ⟨front, back, is ▸ split, set⟩

namespace Sound

variable {v : Service} {sid : SessionId} {s s' : Session} {k : Nat} {u : Supervisor}

theorem put (i : v.Sound) (found : v.engine.session? sid = some s) (m : s.Moved s') :
    { v with engine := v.engine.put s' }.Sound where
  holds := i.holds.put Session.Sane.stable m.sane
  balanced := i.balanced.put i.holds found (m.id.trans (Engine.id_of_session? found)) m.counts
  staff := i.staff.trans (v.engine.ids_put s').symm
  registry := (v.engine.registry_put s').trans i.registry
  dead u mem is t mem' same := by
    rw [Engine.sessions_put] at mem'
    obtain ⟨old, there, eq⟩ := List.mem_map.mp mem'
    split at eq
    · rw [← eq] at same ⊢
      exact m.dead (i.dead u mem is s (Engine.mem_of_session? found) (m.id.symm.trans same))
    · exact i.dead u mem is t (eq ▸ there) same

theorem update (i : v.Sound) (sid : SessionId) {f : Session → Session}
    (moves : ∀ s : Session, s.Sane → s.signals = [] → s.Moved (f s)) :
    { v with engine := v.engine.update sid f }.Sound := by
  simp only [Engine.update]
  split
  · exact i
  · next s found =>
    have mem := Engine.mem_of_session? found
    exact i.put found (moves s (i.holds.each s mem) (i.balanced.quiet s mem))

-- A supervisor takes up another duty.
theorem assign (i : v.Sound) (own : v.supervisors[k]? = some u) {d : Duty}
    (same : d = .finished ↔ u.duty = .finished)
    (dead : d.isOver → ∀ s ∈ v.engine.sessions, s.id = u.sid → s.isLive = false) :
    { v with supervisors := v.supervisors.set k { u with duty := d } }.Sound := by
  obtain ⟨front, back, split, set⟩ := exists_split own { u with duty := d }
  refine ⟨i.holds, i.balanced, ?_, ?_, ?_⟩
  · have staff := i.staff
    rw [split] at staff
    simpa [set] using staff
  · have registry := i.registry
    rw [split] at registry
    rw [set, registry]
    by_cases finished : u.duty = .finished <;> simp [finished, same]
  · have before := i.dead
    rw [split] at before
    rw [set]
    intro t mem
    simp only [List.mem_append, List.mem_cons] at mem before
    obtain front | rfl | back := mem
    · exact before t (.inl front)
    · exact dead
    · exact before t (.inr (.inr back))

-- A supervisor that finishes its work takes its session out of the registry, and no other one.
theorem finish (i : v.Sound) (own : v.supervisors[k]? = some { sid, duty := .leaving }) :
    { v with
      engine := v.engine.unregister sid
      supervisors := v.supervisors.set k { sid, duty := .finished } }.Sound := by
  obtain ⟨front, back, split, set⟩ := exists_split own { sid, duty := .finished }
  have staff := i.staff
  have nodup := i.holds.nodup
  rw [← staff, split, List.map_append, List.map_cons, List.nodup_append] at nodup
  obtain ⟨_, rest, apart⟩ := nodup
  have others {us : List Supervisor} (absent : sid ∉ us.map (·.sid)) :
      ((us.filter (·.duty ≠ .finished)).map (·.sid)).filter (· ≠ sid) =
        (us.filter (·.duty ≠ .finished)).map (·.sid) := by
    refine List.filter_eq_self.mpr fun id mem => decide_eq_true fun same => absent ?_
    obtain ⟨u, there, is⟩ := List.mem_map.mp mem
    exact same ▸ is ▸ List.mem_map_of_mem (List.mem_of_mem_filter there)
  refine ⟨i.holds.of_eq rfl rfl, i.balanced.of_eq rfl rfl, ?_, ?_, ?_⟩
  · rw [split] at staff
    simpa [set, Engine.unregister] using staff
  · have registry := i.registry
    rw [split] at registry
    rw [set, Engine.unregister, registry, List.filter_append, List.filter_append,
      List.filter_cons_of_pos (by simp), List.filter_cons_of_neg (by simp), List.map_append,
      List.map_cons, List.filter_append, List.filter_cons_of_neg (by simp), List.map_append,
      others fun mem => apart _ mem _ List.mem_cons_self rfl, others (List.nodup_cons.mp rest).1]
  · have before := i.dead
    rw [split] at before
    rw [set]
    intro t mem
    simp only [List.mem_append, List.mem_cons] at mem before
    obtain front | rfl | back := mem
    · exact before t (.inl front)
    · exact fun _ => before { sid, duty := .leaving } (.inr (.inl rfl)) rfl
    · exact before t (.inr (.inr back))

theorem attend (i : v.Sound) (k : Nat) (now : Nat) (cue : Duty.Cue) : (v.attend k now cue).Sound := by
  simp only [Service.attend]
  split
  · exact i
  · next u own =>
    cases found : v.engine.session? u.sid with
    | none =>
      have steady : v.engine.attend u.sid u.duty now cue = (u.duty, v.engine) := by
        simp only [Engine.attend, found]
      rw [steady]
      exact i.assign own .rfl (i.dead u (List.mem_of_getElem? own))
    | some s =>
      have mem := Engine.mem_of_session? found
      have sane := i.holds.each s mem
      have is := Engine.id_of_session? found
      have m : s.Moved (u.duty.follow s now cue).2 := Duty.moved_follow sane
      have put := i.put found m
      rw [Engine.attend_of_found found]
      by_cases leaves : u.duty = .leaving ∧ cue = .go
      · obtain ⟨leaving, rfl⟩ := leaves
        have own' : v.supervisors[k]? = some { sid := u.sid, duty := .leaving } := by
          rw [own, ← leaving]
        simp only [leaving, and_self, ↓reduceIte, Duty.follow] at put ⊢
        exact put.finish own'
      · rw [if_neg leaves]
        refine put.assign own (Duty.follow_finished_iff.trans (or_iff_left leaves)) ?_
        intro far t there same
        rw [Engine.eq_of_mem_put there (same.trans (is.symm.trans m.id.symm))]
        exact Duty.over_follow sane
          (fun before => i.dead u (List.mem_of_getElem? own) before s mem is) far

-- A handshake opens one more session, and it is registered and supervised.
theorem handshake_eq (i : v.Sound) (revision : Revision) (writer? : Option Peer) (now : Nat) :
    ∃ engine s,
      v.handshake revision writer? now =
          { v with
            engine
            supervisors := v.supervisors ++ [{ sid := s.id, duty := .watching (.ofSession s now) }] } ∧
        engine.sessions = v.engine.sessions ++ [s] ∧ engine.registry = v.engine.registry ++ [s.id] ∧
          engine.Holds Session.Sane ∧ engine.Balanced ∧ s.isLive := by
  let e : Engine := { v.engine with transports := v.engine.transports + 1 }
  let o := e.origin revision v.engine.transports writer? now
  let engine := (e.openSession revision o.transport now).2
  let s := { o.session with signals := [] }
  have counted : e.Holds Session.Sane := i.holds.of_eq rfl rfl
  have id : s.id = o.sid := congrArg (·.1) o.identity_session
  obtain ⟨_, _, _, eq⟩ := counted.openSession_eq revision v.engine.transports writer? now
  have sessions : engine.sessions = v.engine.sessions ++ [s] := congrArg (·.sessions) eq
  have holds : engine.Holds Session.Sane :=
    counted.openSession Session.Sane.stable Session.Origin.sane revision _ writer? now
  have mem : s ∈ engine.sessions := sessions ▸ List.mem_append_right _ List.mem_cons_self
  have found : engine.session? o.sid = some s := by
    obtain ⟨t, found⟩ := Engine.session?_of_mem ⟨s, mem, id⟩
    rw [found, holds.eq_of_id (Engine.mem_of_session? found) mem
      ((Engine.id_of_session? found).trans id.symm)]
  refine ⟨engine, s, ?_, sessions, ?_, holds, ?_, o.isLive_session⟩
  · have opened : v.handshake revision writer? now = { v with engine }.supervise o.sid now := rfl
    simp only [opened, Service.supervise, found, id]
  · rw [id]
    exact counted.registry_openSession revision v.engine.transports writer? now
  · have balanced : e.Balanced := i.balanced.of_eq rfl rfl
    exact balanced.openSession counted revision v.engine.transports writer? now

theorem handshake (i : v.Sound) (revision : Revision) (writer? : Option Peer) (now : Nat) :
    (v.handshake revision writer? now).Sound := by
  obtain ⟨engine, s, eq, sessions, registry, holds, balanced, _⟩ :=
    i.handshake_eq revision writer? now
  rw [eq]
  refine ⟨holds, balanced, ?_, ?_, fun u mem is t mem' same => ?_⟩
  · simp [i.staff, sessions]
  · simp [i.registry, registry]
  · have other : u ∈ v.supervisors := by
      cases List.mem_append.mp mem with
      | inl old => exact old
      | inr new =>
        rw [List.mem_singleton.mp new] at is
        cases is
    have there : u.sid ∈ v.engine.sessions.map (·.id) := i.staff ▸ List.mem_map_of_mem other
    have old : t ∈ v.engine.sessions := by
      cases List.mem_append.mp (sessions ▸ mem') with
      | inl old => exact old
      | inr new =>
        have nodup := holds.nodup
        rw [sessions, List.map_append, List.nodup_append] at nodup
        exact absurd (List.mem_singleton.mp new ▸ same).symm
          (nodup.2.2 _ there _ List.mem_cons_self)
    exact i.dead u other is t old same

theorem shutDown (i : v.Sound) : v.shutDown.Sound := by
  have any (shutdown : Shutdown) : { v with shutdown }.Sound :=
    ⟨i.holds, i.balanced, i.staff, i.registry, i.dead⟩
  simp only [Service.shutDown]
  split
  · exact any _
  · exact any _
  · next n sid left _ =>
    have closed := i.update sid fun s sane _ => .perform sane (.close .serverShutdown) (by simp)
    exact ⟨closed.holds, closed.balanced, closed.staff, closed.registry, closed.dead⟩
  · exact any _
  · exact i

theorem perform (i : v.Sound) (a : Act) : (v.perform a).Sound := by
  cases a with
  | handshake revision writer? now => exact i.handshake revision writer? now
  | operate sid op => exact i.update sid fun _ => .of_quiet op
  | attend k now cue => exact i.attend k now cue
  | shutDown => exact i.shutDown

theorem run (i : v.Sound) (acts : List Act) : (v.run acts).Sound := by
  induction acts generalizing v with
  | nil => exact i
  | cons a acts ih => exact ih (i.perform a)

theorem idle (config : Configuration) {idOf : Nat → SessionId}
    (distinct : ∀ m n, idOf m = idOf n → m = n) : (Service.idle config idOf).Sound where
  holds := .of_sessions_nil rfl distinct
  balanced := ⟨by simp [Service.idle], rfl, rfl, rfl⟩
  staff := rfl
  registry := rfl
  dead := by simp [Service.idle]

-- What the invariant says of single sessions.

theorem eq_of_sid {u' : Supervisor} (i : v.Sound) (mem : u ∈ v.supervisors)
    (mem' : u' ∈ v.supervisors) (same : u.sid = u'.sid) : u = u' :=
  List.inj_on_of_nodup_map (i.staff ▸ i.holds.nodup) mem mem' same

theorem mem_registry_iff (i : v.Sound) (mem : u ∈ v.supervisors) :
    u.sid ∈ v.engine.registry ↔ u.duty ≠ .finished := by
  rw [i.registry]
  refine ⟨fun there => ?_, fun goes => ?_⟩
  · obtain ⟨u', there, same⟩ := List.mem_map.mp there
    obtain ⟨mem', goes⟩ := List.mem_filter.mp there
    rw [i.eq_of_sid mem mem' same.symm]
    exact of_decide_eq_true goes
  · exact List.mem_map_of_mem (List.mem_filter.mpr ⟨mem, decide_eq_true goes⟩)

theorem session?_of_mem (i : v.Sound) (mem : s ∈ v.engine.sessions) :
    v.engine.session? s.id = some s := by
  obtain ⟨t, found⟩ := Engine.session?_of_mem ⟨s, mem, rfl⟩
  rw [found, i.holds.eq_of_id (Engine.mem_of_session? found) mem (Engine.id_of_session? found)]

theorem exists_supervisor (i : v.Sound) (mem : s ∈ v.engine.sessions) :
    ∃ u ∈ v.supervisors, u.sid = s.id :=
  List.mem_map.mp (i.staff ▸ List.mem_map_of_mem mem)

theorem exists_session (i : v.Sound) (mem : u ∈ v.supervisors) :
    ∃ s, v.engine.session? u.sid = some s := by
  have there : u.sid ∈ v.engine.sessions.map (·.id) := i.staff ▸ List.mem_map_of_mem mem
  exact Engine.session?_of_mem (List.mem_map.mp there)

theorem registered_of_live (i : v.Sound) (mem : s ∈ v.engine.sessions) (live : s.isLive) :
    s.id ∈ v.engine.registry := by
  obtain ⟨u, mem', same⟩ := i.exists_supervisor mem
  rw [← same, i.mem_registry_iff mem']
  intro finished
  have dead := i.dead u mem' (by rw [finished]; rfl) s mem same.symm
  exact absurd (live.symm.trans dead) nofun

theorem lookup_of_live (i : v.Sound) (mem : s ∈ v.engine.sessions) (live : s.isLive) :
    v.engine.lookup s.id = .ok s :=
  Engine.lookup_of_registered (i.session?_of_mem mem) (i.registered_of_live mem live)

end Sound

-- A session leaves the registry by a step.
def departs (v : Service) (a : Act) (sid : SessionId) : Bool :=
  sid ∈ v.engine.registry && sid ∉ (v.perform a).engine.registry

-- How often it leaves in a run.
def departures (v : Service) (sid : SessionId) : List Act → Nat
  | [] => 0
  | a :: acts => (v.departs a sid).toNat + (v.perform a).departures sid acts

-- A session that was opened and is not registered any more.
def gone (v : Service) (sid : SessionId) : Bool :=
  sid ∈ v.engine.sessions.map (·.id) && sid ∉ v.engine.registry

-- What a step does to the registry.
inductive Registers (v : Service) (a : Act) (v' : Service) : Prop
  | stays (ids : v'.engine.sessions.map (·.id) = v.engine.sessions.map (·.id))
    (registry : v'.engine.registry = v.engine.registry)
  | leaves {k now : Nat} (sid : SessionId) (act : a = .attend k now .go)
    (own : v.supervisors[k]? = some { sid, duty := .leaving })
    (ids : v'.engine.sessions.map (·.id) = v.engine.sessions.map (·.id))
    (registry : v'.engine.registry = v.engine.registry.filter (· ≠ sid))
  | comes (sid : SessionId) (act : a.opens) (fresh : sid ∉ v.engine.sessions.map (·.id))
    (ids : v'.engine.sessions.map (·.id) = v.engine.sessions.map (·.id) ++ [sid])
    (registry : v'.engine.registry = v.engine.registry ++ [sid])

theorem perform_registers {v : Service} (i : v.Sound) (a : Act) : Registers v a (v.perform a) := by
  cases a with
  | handshake revision writer? now =>
    obtain ⟨engine, s, eq, sessions, registry, holds, _⟩ := i.handshake_eq revision writer? now
    have nodup := holds.nodup
    rw [sessions, List.map_append, List.nodup_append] at nodup
    refine .comes s.id rfl (fun mem => nodup.2.2 _ mem _ List.mem_cons_self rfl) ?_ ?_
    · simp [Service.perform, eq, sessions]
    · simp [Service.perform, eq, registry]
  | operate sid op => exact .stays (Engine.ids_update _ _ _) (Engine.registry_update _ _ _)
  | attend k now cue =>
    simp only [Service.perform, attend]
    split
    · exact .stays rfl rfl
    · next u own =>
      obtain ⟨s, found⟩ := i.exists_session (List.mem_of_getElem? own)
      rw [Engine.attend_of_found found]
      by_cases leaves : u.duty = .leaving ∧ cue = .go
      · obtain ⟨leaving, rfl⟩ := leaves
        refine .leaves u.sid rfl (by rw [own, ← leaving]) ?_ ?_
        · rw [if_pos ⟨leaving, rfl⟩]
          exact Engine.ids_put _ _
        · rw [if_pos ⟨leaving, rfl⟩]
          exact congrArg _ (Engine.registry_put _ _)
      · rw [if_neg leaves]
        exact .stays (Engine.ids_put _ _) (Engine.registry_put _ _)
  | shutDown =>
    simp only [Service.perform, Service.shutDown]
    split
    · exact .stays rfl rfl
    · exact .stays rfl rfl
    · exact .stays (Engine.ids_update _ _ _) (Engine.registry_update _ _ _)
    · exact .stays rfl rfl
    · exact .stays rfl rfl

section

variable {v : Service} {sid : SessionId}

theorem Sound.mem_ids (i : v.Sound) (there : sid ∈ v.engine.registry) :
    sid ∈ v.engine.sessions.map (·.id) := by
  rw [i.registry] at there
  obtain ⟨u, mem, rfl⟩ := List.mem_map.mp there
  exact i.staff ▸ List.mem_map_of_mem (List.mem_of_mem_filter mem)

-- A session that leaves by a step is gone after it, and was not before.
theorem departs_add_gone (i : v.Sound) (a : Act) (sid : SessionId) :
    (v.departs a sid).toNat + (v.gone sid).toNat = ((v.perform a).gone sid).toNat := by
  cases perform_registers i a with
  | stays ids registry => simp [departs, gone, ids, registry]
  | leaves _ act own ids registry =>
    simp only [departs, gone, ids, registry, List.mem_filter]
    by_cases there : sid ∈ v.engine.registry
    · have known := i.mem_ids there
      simp [there, known]
    · simp [there]
  | comes new act fresh ids registry =>
    simp only [departs, gone, ids, registry, List.mem_append, List.mem_singleton]
    by_cases known : sid ∈ v.engine.sessions.map (·.id)
    · have other : sid ≠ new := fun same => fresh (same ▸ known)
      simp [known, other]
    · have absent : sid ∉ v.engine.registry := fun there => known (i.mem_ids there)
      simp [known, absent]

theorem departures_add_gone (i : v.Sound) (sid : SessionId) (acts : List Act) :
    v.departures sid acts + (v.gone sid).toNat = ((v.run acts).gone sid).toNat := by
  induction acts generalizing v with
  | nil => exact Nat.zero_add _
  | cons a acts ih =>
    rw [run_cons, ← ih (i.perform a), ← departs_add_gone i a, departures]
    omega

theorem Sound.gone_eq (i : v.Sound) {u : Supervisor} (mem : u ∈ v.supervisors) :
    v.gone u.sid = decide (u.duty = .finished) := by
  have known : u.sid ∈ v.engine.sessions.map (·.id) := i.staff ▸ List.mem_map_of_mem mem
  simp [gone, known, i.mem_registry_iff mem]

-- A session that is gone is not found any more.
theorem lookup_of_gone (i : v.Sound) (left : v.gone sid) (more : List Act) :
    (v.run more).engine.lookup sid = .error (.unknownSession sid) := by
  have stays := departures_add_gone i sid more
  rw [left] at stays
  have left' : (v.run more).gone sid = true := by
    cases later : (v.run more).gone sid with
    | true => rfl
    | false =>
      rw [later] at stays
      simp at stays
  simp only [gone, Bool.and_eq_true, decide_eq_true_eq] at left'
  exact Engine.lookup_of_unregistered left'.2

end

-- A session that lives is found. It leaves the registry only after it closed, by the last step of its
-- own supervisor and once, and then it is not found any more. The gauge of open sessions is what was
-- opened less what was closed, and as many live.
theorem run_registered (config : Configuration) (idOf : Nat → SessionId)
    (distinct : ∀ m n, idOf m = idOf n → m = n) (acts : List Act) :
    let v := (idle config idOf).run acts
    v.supervisors.map (·.sid) = v.engine.sessions.map (·.id) ∧
      (∀ s ∈ v.engine.sessions, s.isLive → v.engine.lookup s.id = .ok s) ∧
      (∀ a sid, v.departs a sid → ∃ k now s, a = .attend k now .go ∧
        v.supervisors[k]? = some { sid, duty := .leaving } ∧ v.engine.session? sid = some s ∧
          s.isLive = false) ∧
      (∀ u ∈ v.supervisors,
        (idle config idOf).departures u.sid acts = if u.duty = .finished then 1 else 0) ∧
      (∀ u ∈ v.supervisors, u.duty = .finished → ∀ more,
        (v.run more).engine.lookup u.sid = .error (.unknownSession u.sid)) ∧
      v.engine.metrics.opened = v.engine.sessions.length ∧
      v.engine.metrics.active = v.engine.metrics.opened - v.engine.metrics.closed ∧
      v.engine.metrics.active = v.engine.sessions.countP (·.isLive) := by
  have start := Sound.idle config distinct
  have i := start.run acts
  refine ⟨i.staff, fun s mem live => i.lookup_of_live mem live, ?_, ?_, ?_, i.balanced.opened, ?_,
    i.balanced.active⟩
  · intro a sid leaves
    simp only [departs, Bool.and_eq_true, decide_eq_true_eq] at leaves
    cases perform_registers i a with
    | stays _ registry => exact absurd leaves.1 (registry ▸ leaves.2)
    | comes _ _ _ _ registry =>
      exact absurd (List.mem_append_left _ leaves.1) (registry ▸ leaves.2)
    | @leaves k now other act own _ registry =>
      have same : sid = other := by
        by_contra other
        exact leaves.2 (registry ▸ List.mem_filter.mpr ⟨leaves.1, decide_eq_true other⟩)
      subst same
      have mem := List.mem_of_getElem? own
      obtain ⟨s, found⟩ := i.exists_session mem
      exact ⟨k, now, s, act, own, found,
        i.dead _ mem rfl s (Engine.mem_of_session? found) (Engine.id_of_session? found)⟩
  · intro u mem
    have none_ : (idle config idOf).gone u.sid = false := rfl
    have leaves := departures_add_gone start u.sid acts
    rw [i.gone_eq mem, none_] at leaves
    by_cases finished : u.duty = .finished <;> simpa [finished] using leaves
  · intro u mem finished
    exact lookup_of_gone i (by rw [i.gone_eq mem]; exact decide_eq_true finished)
  · rw [i.balanced.active, i.balanced.opened, i.balanced.closed,
      List.length_eq_countP_add_countP (·.isLive)]
    simp

-- One session closes and its supervisor notices, another one goes on.

def letters (n : Nat) : SessionId :=
  String.ofList (List.replicate (n + 1) 'a')

theorem letters_distinct (m n : Nat) (same : letters m = letters n) : m = n :=
  Engine.distinct_of_length (by simp [letters]) m n same

def departing : List Act :=
  [.handshake .v4 none 0, .handshake .v3 (some .present) 3, .operate "a" (.close .transportClose),
    .attend 0 5 .notice, .attend 0 5 .go]

theorem run_registered_departing :
    (idle {} letters).departures "a" departing = 1 ∧
      (∀ more, (((idle {} letters).run departing).run more).engine.lookup "a" =
        .error (.unknownSession "a")) ∧
      (∃ s, ((idle {} letters).run departing).engine.lookup "aa" = .ok s) ∧
      ((idle {} letters).run departing).engine.metrics.active = 1 := by
  obtain ⟨_, finds, _, once, never, _, _, gauge⟩ :=
    run_registered {} letters letters_distinct departing
  have finished : { sid := "a", duty := .finished } ∈ ((idle {} letters).run departing).supervisors := by
    decide +kernel
  have lives : (((idle {} letters).run departing).engine.sessions.any fun s =>
      s.id = "aa" ∧ s.isLive) = true := by
    decide +kernel
  obtain ⟨s, mem, is⟩ := List.any_eq_true.mp lives
  obtain ⟨id, live⟩ := of_decide_eq_true is
  refine ⟨once _ finished, never _ finished rfl, ⟨s, id ▸ finds s mem live⟩, gauge.trans ?_⟩
  decide +kernel

end Service

end Duplex
