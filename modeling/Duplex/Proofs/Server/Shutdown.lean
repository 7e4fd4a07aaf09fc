import Duplex.Proofs.Server.Registry

-- What a shutdown leaves behind, and who has to finish before nothing is left. A shutdown closes
-- what is registered when it begins to; a handshake that opens a session after that goes unnoticed.

namespace Duplex

namespace Engine

variable {P : Session → Prop} {e : Engine} {sid : SessionId} {s s' t : Session}

-- What lives when a session was taken back lived before.
theorem alive_put (found : e.session? sid = some s) (m : s.Moved s') (mem : t ∈ (e.put s').sessions)
    (live : t.isLive) : ∃ old ∈ e.sessions, old.id = t.id ∧ old.isLive := by
  rw [sessions_put] at mem
  obtain ⟨old, there, eq⟩ := List.mem_map.mp mem
  split at eq
  · subst eq
    refine ⟨s, mem_of_session? found, m.id.symm, ?_⟩
    cases lives : s.isLive with
    | true => rfl
    | false => exact absurd ((m.dead lives).symm.trans live) Bool.false_ne_true
  · exact ⟨old, there, congrArg (·.id) eq, eq ▸ live⟩

theorem alive_update (h : e.Holds Session.Sane) (quiet : ∀ s ∈ e.sessions, s.signals = [])
    {f : Session → Session} (moves : ∀ s : Session, s.Sane → s.signals = [] → s.Moved (f s))
    (mem : t ∈ (e.update sid f).sessions) (live : t.isLive) :
    ∃ old ∈ e.sessions, old.id = t.id ∧ old.isLive := by
  simp only [update] at mem
  split at mem
  · exact ⟨t, mem, rfl, live⟩
  · next s found =>
    have there := mem_of_session? found
    exact alive_put found (moves s (h.each s there) (quiet s there)) mem live

-- A session that was closed lives no more.
theorem id_ne_of_alive_close {reason : CloseReason}
    (mem : t ∈ (e.update sid (·.close reason)).sessions) (live : t.isLive) : t.id ≠ sid := by
  intro same
  simp only [update] at mem
  split at mem
  · next missing =>
    exact absurd same (of_decide_eq_false
      (Bool.eq_false_iff.mpr (List.find?_eq_none.mp missing t mem)))
  · next s found =>
    have id : (s.close reason).id = sid :=
      Session.stable_id sid (.close reason) rfl (id_of_session? found)
    rw [eq_of_mem_put mem (same.trans id.symm)] at live
    exact absurd ((s.isLive_close reason).symm.trans live) Bool.false_ne_true

end Engine

namespace Service

variable {v : Service} {s t : Session} {a : Act}

-- Only a handshake brings a session that lives.
theorem Sound.alive_perform (i : v.Sound) (mem : t ∈ (v.perform a).engine.sessions) (live : t.isLive)
    (known : t.id ∈ v.engine.sessions.map (·.id)) :
    ∃ old ∈ v.engine.sessions, old.id = t.id ∧ old.isLive := by
  cases a with
  | handshake revision writer? now =>
    obtain ⟨engine, s, eq, sessions, _, holds, _⟩ := i.handshake_eq revision writer? now
    simp only [Service.perform, eq, sessions] at mem
    cases List.mem_append.mp mem with
    | inl old => exact ⟨t, old, rfl, live⟩
    | inr new =>
      have nodup := holds.nodup
      rw [sessions, List.map_append, List.nodup_append] at nodup
      rw [List.mem_singleton.mp new] at known
      exact absurd rfl (nodup.2.2 _ known _ List.mem_cons_self)
  | operate sid op =>
    exact Engine.alive_update i.holds i.balanced.quiet (fun _ => .of_quiet op) mem live
  | attend k now cue =>
    simp only [Service.perform, Service.attend] at mem
    split at mem
    · exact ⟨t, mem, rfl, live⟩
    · next u own =>
      obtain ⟨s, found⟩ := i.exists_session (List.mem_of_getElem? own)
      have m : s.Moved (u.duty.follow s now cue).2 :=
        Duty.moved_follow (i.holds.each s (Engine.mem_of_session? found))
      have there : t ∈ (v.engine.put (u.duty.follow s now cue).2).sessions := by
        rw [Engine.attend_of_found found] at mem
        split at mem <;> exact mem
      exact Engine.alive_put found m there live
  | shutDown =>
    simp only [Service.perform, Service.shutDown] at mem
    split at mem
    · exact ⟨t, mem, rfl, live⟩
    · exact ⟨t, mem, rfl, live⟩
    · exact Engine.alive_update i.holds i.balanced.quiet
        (fun s sane _ => .perform sane (.close .serverShutdown) (by simp)) mem live
    · exact ⟨t, mem, rfl, live⟩
    · exact ⟨t, mem, rfl, live⟩

theorem shutdown_perform (v : Service) (other : a ≠ .shutDown) :
    (v.perform a).shutdown = v.shutdown := by
  cases a with
  | handshake =>
    simp only [perform, handshake, supervise]
    split <;> rfl
  | operate => rfl
  | attend =>
    simp only [perform, attend]
    split <;> rfl
  | shutDown => exact absurd rfl other

theorem mem_ids_perform (i : v.Sound) {sid : SessionId} (a : Act)
    (known : sid ∈ v.engine.sessions.map (·.id)) :
    sid ∈ (v.perform a).engine.sessions.map (·.id) := by
  cases perform_registers i a with
  | stays ids | leaves _ _ _ ids => rwa [ids]
  | comes _ _ _ ids =>
    rw [ids]
    exact List.mem_append_left _ known

theorem ids_perform (i : v.Sound) (opens : a.opens = false) :
    (v.perform a).engine.sessions.map (·.id) = v.engine.sessions.map (·.id) := by
  cases perform_registers i a with
  | stays ids | leaves _ _ _ ids => exact ids
  | comes _ act => exact absurd (opens.symm.trans act) Bool.false_ne_true

theorem ids_run (i : v.Sound) {acts : List Act} (opens : ∀ a ∈ acts, a.opens = false) :
    (v.run acts).engine.sessions.map (·.id) = v.engine.sessions.map (·.id) := by
  induction acts generalizing v with
  | nil => rfl
  | cons a acts ih =>
    obtain ⟨first, rest⟩ := List.forall_mem_cons.mp opens
    exact (ih (i.perform a) rest).trans (ids_perform i first)

-- A shutdown that is done stays so.
theorem done_run {n : Nat} (done : v.shutdown = .done n) (acts : List Act) :
    (v.run acts).shutdown = .done n := by
  induction acts generalizing v with
  | nil => exact done
  | cons a acts ih =>
    refine ih ?_
    by_cases other : a = .shutDown
    · rw [other]
      simp only [perform, shutDown, done]
    · exact (shutdown_perform v other).trans done

end Service

-- The sessions that a shutdown still has to close, once it knows them.
def Shutdown.left? : Shutdown → Option (List SessionId)
  | ahead | counted _ => none
  | closing _ left => some left
  | done _ => some []

namespace Service

-- Of the sessions that a shutdown found only those live that it still has to close.
structure Sweeps (found : List SessionId) (v : Service) : Prop where
  known : ∀ sid ∈ found, sid ∈ v.engine.sessions.map (·.id)
  left : ∃ left, v.shutdown.left? = some left ∧
    ∀ s ∈ v.engine.sessions, s.id ∈ found → s.isLive → s.id ∈ left

namespace Sweeps

variable {v : Service} {found : List SessionId}

-- It finds all that live.
theorem start (i : v.Sound) {n : Nat} (counted : v.shutdown = .counted n) :
    (v.perform .shutDown).Sweeps (v.engine.sessions.map (·.id)) := by
  have next : v.perform .shutDown = { v with shutdown := .closing n v.engine.registry } := by
    simp only [Service.perform, shutDown, counted]
  rw [next]
  exact ⟨fun _ mem => mem, _, rfl, fun s mem _ live => i.registered_of_live mem live⟩

theorem perform (i : v.Sound) (h : v.Sweeps found) (a : Act) : (v.perform a).Sweeps found := by
  obtain ⟨known, left, is, lives⟩ := h
  refine ⟨fun sid mem => mem_ids_perform i a (known sid mem), ?_⟩
  have before {t : Session} (mem : t ∈ (v.perform a).engine.sessions) (there : t.id ∈ found)
      (live : t.isLive) : t.id ∈ left := by
    obtain ⟨old, mem', same, live'⟩ := i.alive_perform mem live (known _ there)
    exact same ▸ lives old mem' (same ▸ there) live'
  by_cases other : a = .shutDown
  · subst other
    cases stage : v.shutdown with
    | ahead | counted => simp [stage, Shutdown.left?] at is
    | done n =>
      have next : v.perform .shutDown = v := by simp only [Service.perform, shutDown, stage]
      exact ⟨left, next.symm ▸ is, fun s mem there live => before mem there live⟩
    | closing n todo =>
      have same : todo = left := by
        rw [stage] at is
        exact Option.some.inj is
      subst same
      cases todo with
      | nil =>
        have next : v.perform .shutDown = { v with shutdown := .done n } := by
          simp only [Service.perform, shutDown, stage]
        exact ⟨[], by rw [next]; rfl, fun s mem there live => before mem there live⟩
      | cons sid rest =>
        have next : v.perform .shutDown =
            { v with
              engine := v.engine.update sid (·.close .serverShutdown)
              shutdown := .closing n rest } := by
          simp only [Service.perform, shutDown, stage]
        refine ⟨rest, by rw [next]; rfl, fun s mem there live => ?_⟩
        have other : s.id ≠ sid := by
          rw [next] at mem
          exact Engine.id_ne_of_alive_close mem live
        exact (List.mem_cons.mp (before mem there live)).resolve_left other
  · exact ⟨left, by rw [shutdown_perform v other, is], fun s mem there live => before mem there live⟩

theorem run (i : v.Sound) (h : v.Sweeps found) (acts : List Act) : (v.run acts).Sweeps found := by
  induction acts generalizing v with
  | nil => exact h
  | cons a acts ih => exact ih (i.perform a) (h.perform i a)

-- Once it is done none of them lives.
theorem dead (h : v.Sweeps found) {n : Nat} (done : v.shutdown = .done n) {s : Session}
    (mem : s ∈ v.engine.sessions) (there : s.id ∈ found) : s.isLive = false := by
  obtain ⟨left, is, lives⟩ := h.left
  rw [done] at is
  cases live : s.isLive with
  | false => rfl
  | true => exact absurd (Option.some.inj is ▸ lives s mem there live) nofun

theorem all_dead (h : v.Sweeps found) {n : Nat} (done : v.shutdown = .done n)
    (all : v.engine.sessions.map (·.id) = found) : ∀ s ∈ v.engine.sessions, s.isLive = false :=
  fun _ mem => h.dead done mem (all ▸ List.mem_map_of_mem mem)

end Sweeps

end Service

-- A supervisor whose session is over has few steps to go.

def Duty.left : Duty → Nat
  | watching _ => 4
  | reporting => 3
  | closing => 2
  | leaving => 1
  | finished => 0

namespace Duty

variable {d : Duty} {s : Session} {now : Nat}

theorem left_follow_le (d : Duty) (s : Session) (now : Nat) (cue : Cue) :
    (d.follow s now cue).1.left ≤ d.left := by
  simp only [follow]
  split
  · exact Nat.le_refl 4
  · split <;> simp [left]
  · split <;> simp [left]
  · simp [left]
  · simp [left]
  · simp [left]
  · exact Nat.le_refl _

theorem left_follow_go (few : d.left ≤ 3) : (d.follow s now .go).1.left ≤ d.left - 1 := by
  cases d with
  | watching => simp [left] at few
  | reporting | closing | leaving | finished => simp [follow, left]

theorem left_follow_notice (cancelled : s.cancelled) : (d.follow s now .notice).1.left ≤ 3 := by
  cases d with
  | watching => simp [follow, left, cancelled]
  | reporting | closing | leaving | finished => simp [follow, left]

theorem eq_finished_of_left (none_ : d.left = 0) : d = .finished := by
  cases d with
  | finished => rfl
  | watching | reporting | closing | leaving => simp [left] at none_

end Duty

namespace Service

variable {v : Service} {k : Nat} {u : Supervisor}

-- A supervisor does only what it is woken for.
theorem supervisor_perform (i : v.Sound) (own : v.supervisors[k]? = some u) (a : Act) :
    (a.cue? k = none ∧ (v.perform a).supervisors[k]? = some u) ∨
      ∃ cue now s, a.cue? k = some cue ∧ v.engine.session? u.sid = some s ∧
        (v.perform a).supervisors[k]? = some { u with duty := (u.duty.follow s now cue).1 } := by
  obtain ⟨lt, _⟩ := List.getElem?_eq_some_iff.mp own
  cases a with
  | handshake revision writer? now =>
    obtain ⟨_, _, eq, _⟩ := i.handshake_eq revision writer? now
    refine .inl ⟨rfl, ?_⟩
    simp only [perform, eq]
    rw [List.getElem?_append_left lt, own]
  | operate => exact .inl ⟨rfl, own⟩
  | attend j now cue =>
    by_cases same : j = k
    · subst same
      obtain ⟨s, found⟩ := i.exists_session (List.mem_of_getElem? own)
      refine .inr ⟨cue, now, s, if_pos rfl, found, ?_⟩
      simp only [perform, attend, own, Engine.attend_of_found found]
      exact List.getElem?_set_self lt
    · refine .inl ⟨if_neg same, ?_⟩
      simp only [perform, attend]
      split
      · exact own
      · exact (List.getElem?_set_ne same).trans own
  | shutDown =>
    refine .inl ⟨rfl, ?_⟩
    simp only [perform, shutDown]
    split <;> exact own

-- A supervisor whose session is over.
structure Retiring (v : Service) (k : Nat) (sid : SessionId) (d : Duty) : Prop where
  own : v.supervisors[k]? = some { sid, duty := d }
  dead : ∀ s ∈ v.engine.sessions, s.id = sid → s.isLive = false

namespace Retiring

variable {sid : SessionId} {d : Duty}

theorem perform (i : v.Sound) (r : v.Retiring k sid d) (a : Act) :
    (a.cue? k = none ∧ (v.perform a).Retiring k sid d) ∨
      ∃ cue now s, a.cue? k = some cue ∧ s.cancelled ∧
        (v.perform a).Retiring k sid (d.follow s now cue).1 := by
  have known : sid ∈ v.engine.sessions.map (·.id) :=
    i.staff ▸ List.mem_map_of_mem (List.mem_of_getElem? r.own)
  have dead : ∀ s ∈ (v.perform a).engine.sessions, s.id = sid → s.isLive = false := by
    intro s mem same
    cases live : s.isLive with
    | false => rfl
    | true =>
      obtain ⟨old, mem', same', live'⟩ := i.alive_perform mem live (same ▸ known)
      exact (r.dead old mem' (same'.trans same)).symm.trans live' |>.symm
  cases supervisor_perform i r.own a with
  | inl other => exact .inl ⟨other.1, other.2, dead⟩
  | inr woken =>
    obtain ⟨cue, now, s, is, found, own⟩ := woken
    have mem := Engine.mem_of_session? found
    have over_ := r.dead s mem (Engine.id_of_session? found)
    exact .inr ⟨cue, now, s, is, ((i.holds.each s mem).1.ended over_).2.2.2.2.2, own, dead⟩

-- It finishes as soon as it went on often enough.
theorem finishes {m : Nat} (i : v.Sound) (r : v.Retiring k sid d) (few : d.left ≤ m) (small : m ≤ 3)
    {acts : List Act} (goes : (List.replicate m .go).Sublist (acts.filterMap (Act.cue? k))) :
    (v.run acts).Retiring k sid .finished := by
  induction acts generalizing v d m with
  | nil =>
    have none_ : m = 0 := by simpa using List.sublist_nil.mp goes
    exact Duty.eq_finished_of_left (Nat.le_zero.mp (none_ ▸ few)) ▸ r
  | cons a acts ih =>
    rw [List.filterMap_cons] at goes
    obtain ⟨other, r'⟩ | ⟨cue, now, s, is, _, r'⟩ := r.perform i a
    · rw [other] at goes
      exact ih (i.perform a) r' few small goes
    · rw [is] at goes
      have less := d.left_follow_le s now cue
      cases m with
      | zero => exact ih (i.perform a) r' (less.trans few) small (List.nil_sublist _)
      | succ m =>
        rw [List.replicate_succ, List.sublist_cons_iff] at goes
        obtain later | ⟨rest, eq, goes⟩ := goes
        · exact ih (m := m + 1) (i.perform a) r' (less.trans few) small later
        · obtain ⟨rfl, rfl⟩ := List.cons.inj eq
          have less : (d.follow s now .go).1.left ≤ d.left - 1 := Duty.left_follow_go (few.trans small)
          exact ih (i.perform a) r' (by omega) (by omega) goes

-- One that still watches has to notice first.
theorem finishes_of_notice (i : v.Sound) (r : v.Retiring k sid d) {acts : List Act}
    (goes : [Duty.Cue.notice, .go, .go, .go].Sublist (acts.filterMap (Act.cue? k))) :
    (v.run acts).Retiring k sid .finished := by
  induction acts generalizing v d with
  | nil => exact absurd (List.sublist_nil.mp goes) nofun
  | cons a acts ih =>
    rw [List.filterMap_cons] at goes
    obtain ⟨other, r'⟩ | ⟨cue, now, s, is, cancelled, r'⟩ := r.perform i a
    · rw [other] at goes
      exact ih (i.perform a) r' goes
    · rw [is, List.sublist_cons_iff] at goes
      obtain later | ⟨rest, eq, goes⟩ := goes
      · exact ih (i.perform a) r' later
      · obtain ⟨rfl, rfl⟩ := List.cons.inj eq
        exact r'.finishes (m := 3) (i.perform a) (Duty.left_follow_notice cancelled) (Nat.le_refl 3)
          goes

end Retiring

-- When all sessions are over, the registry is empty as soon as their supervisors are through.
theorem registry_run (i : v.Sound) (dead : ∀ s ∈ v.engine.sessions, s.isLive = false)
    {acts : List Act} (opens : ∀ a ∈ acts, a.opens = false)
    (goes : ∀ k < v.supervisors.length,
      [Duty.Cue.notice, .go, .go, .go].Sublist (acts.filterMap (Act.cue? k))) :
    (v.run acts).engine.registry = [] := by
  have after := i.run acts
  have length : (v.run acts).supervisors.length = v.supervisors.length := by
    have ids := congrArg List.length
      (after.staff.trans ((ids_run i opens).trans i.staff.symm))
    simpa using ids
  have finished : ∀ u ∈ (v.run acts).supervisors, u.duty = .finished := by
    intro u mem
    obtain ⟨k, lt, is⟩ := List.getElem_of_mem mem
    have lt' : k < v.supervisors.length := length ▸ lt
    have own := List.getElem?_eq_getElem lt'
    have r : v.Retiring k v.supervisors[k].sid v.supervisors[k].duty := ⟨own, fun s mem _ => dead s mem⟩
    have through := (r.finishes_of_notice i (goes k lt')).own
    rw [List.getElem?_eq_getElem lt, is] at through
    exact congrArg (·.duty) (Option.some.inj through)
  rw [after.registry, List.filter_eq_nil_iff.mpr fun u mem => by simp [finished u mem]]
  rfl

-- A shutdown closes what is open when it takes its snapshot, for good. If no handshake comes after
-- that then nothing lives when it is done, and the registry is empty as soon as the supervisors are
-- through. But a handshake opens a session whenever it comes, and that lives.
theorem run_swept (config : Configuration) (idOf : Nat → SessionId)
    (distinct : ∀ m n, idOf m = idOf n → m = n) (before after : List Act) {n m : Nat}
    (counted : ((idle config idOf).run before).shutdown = .counted n)
    (done : (((idle config idOf).run before).run (.shutDown :: after)).shutdown = .done m) :
    let u := (idle config idOf).run before
    let v := u.run (.shutDown :: after)
    (∀ more, ∀ s ∈ (v.run more).engine.sessions,
      s.id ∈ u.engine.sessions.map (·.id) → s.isLive = false) ∧
      ((∀ a ∈ after, a.opens = false) → ∀ more, (∀ a ∈ more, a.opens = false) →
        (∀ s ∈ (v.run more).engine.sessions, s.isLive = false) ∧
          ((∀ k < v.supervisors.length,
            [Duty.Cue.notice, .go, .go, .go].Sublist (more.filterMap (Act.cue? k))) →
              (v.run more).engine.registry = [])) ∧
      (∀ more revision writer? now,
        ∃ s ∈ ((v.run more).handshake revision writer? now).engine.sessions,
          s.isLive ∧ ((v.run more).handshake revision writer? now).engine.lookup s.id = .ok s) := by
  intro u v
  have i : u.Sound := (Sound.idle config distinct).run before
  have i' : v.Sound := i.run _
  have sweeps : v.Sweeps (u.engine.sessions.map (·.id)) :=
    (Sweeps.start i counted).run (i.perform .shutDown) after
  refine ⟨fun more s mem there => ?_, fun opens more opens' => ?_, fun more revision writer? now => ?_⟩
  · exact (sweeps.run i' more).dead (done_run done more) mem there
  · have ids : v.engine.sessions.map (·.id) = u.engine.sessions.map (·.id) :=
      ids_run i (List.forall_mem_cons.mpr ⟨rfl, opens⟩)
    have ids' : (v.run more).engine.sessions.map (·.id) = u.engine.sessions.map (·.id) :=
      (ids_run i' opens').trans ids
    exact ⟨(sweeps.run i' more).all_dead (done_run done more) ids',
      registry_run i' (sweeps.all_dead done ids) opens'⟩
  · have i'' := (i'.run more).handshake revision writer? now
    obtain ⟨engine, s, eq, sessions, _, _, _, live⟩ :=
      (i'.run more).handshake_eq revision writer? now
    have mem : s ∈ ((v.run more).handshake revision writer? now).engine.sessions := by
      rw [eq]
      exact sessions ▸ List.mem_append_right _ List.mem_cons_self
    exact ⟨s, mem, live, i''.lookup_of_live mem live⟩

-- Two sessions are closed, and then their supervisors take them out.

def served : List Act :=
  [.handshake .v4 none 0, .handshake .v3 (some .present) 3, .shutDown]

def turns : List Act :=
  [0, 1].flatMap fun k => Engine.turn.map (.attend k 5)

theorem run_swept_drained :
    ((idle {} letters).run (served ++ .shutDown :: List.replicate 3 .shutDown)).shutdown = .done 2 ∧
      (((idle {} letters).run (served ++ .shutDown :: List.replicate 3 .shutDown)).run
        turns).engine.registry = [] := by
  have counted : ((idle {} letters).run served).shutdown = .counted 2 := by decide +kernel
  have done : (((idle {} letters).run served).run
      (.shutDown :: List.replicate 3 .shutDown)).shutdown = .done 2 := by decide +kernel
  obtain ⟨_, drains, _⟩ :=
    run_swept {} letters letters_distinct served (List.replicate 3 .shutDown) counted done
  rw [run_append]
  refine ⟨done, (drains (by decide) turns (by decide)).2 fun k lt => ?_⟩
  have two : (((idle {} letters).run served).run
      (.shutDown :: List.replicate 3 .shutDown)).supervisors.length = 2 := by decide +kernel
  rw [two] at lt
  interval_cases k <;> decide

-- A handshake that comes between the snapshot and the end of a shutdown, or after it, opens a session
-- that nobody closes: its supervisor goes on watching, however often it is its turn.

def late : List Act :=
  [.shutDown, .shutDown, .handshake .v4 none 0, .shutDown]

def tooLate : List Act :=
  [.shutDown, .shutDown, .shutDown, .handshake .v4 (some .present) 0]

theorem run_not_swept_late :
    ((idle {} letters).run late).shutdown = .done 0 ∧
      (∃ s ∈ ((idle {} letters).run late).engine.sessions, s.isLive) ∧
      (((idle {} letters).run late).run turns).engine.registry = ["a"] ∧
      ((idle {} letters).run tooLate).shutdown = .done 0 ∧
      (∃ s ∈ ((idle {} letters).run tooLate).engine.sessions, s.isLive) ∧
      (((idle {} letters).run tooLate).run turns).engine.registry = ["a"] := by
  have lives : ((idle {} letters).run late).engine.sessions.any (·.isLive) = true := by
    decide +kernel
  have lives' : ((idle {} letters).run tooLate).engine.sessions.any (·.isLive) = true := by
    decide +kernel
  refine ⟨?_, List.any_eq_true.mp lives, ?_, ?_, List.any_eq_true.mp lives', ?_⟩ <;> decide +kernel

end Service

end Duplex
