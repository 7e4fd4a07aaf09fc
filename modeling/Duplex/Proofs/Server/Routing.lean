import Duplex.Proofs.Settings.Validity
import Duplex.Server.Dispatch
import Mathlib.Data.List.DropRight
import Mathlib.Data.List.Nodup

-- The paths of a server. Whether they are distinct depends on the engine's path, which can be one
-- that the server has another route for. Settings with such a path are found fit.

namespace Duplex

namespace Http.Route

def paths (path : String) (withMetrics : Bool) : List String :=
  (table path withMetrics).map Prod.fst

section

variable {path p : String} {withMetrics : Bool} {r : Request} {found : Route}

-- What is at which path.

theorem engine_mem_table :
    (p, engine) ∈ table path withMetrics ↔
      p = path ∨ p = withoutTrailingSlashes path ∧ p ≠ "" := by
  simp only [table]
  split <;> split <;> grind

theorem health_mem_table : (p, health) ∈ table path withMetrics ↔ p = "/health" := by
  simp only [table]
  split <;> split <;> simp

theorem metrics_mem_table :
    (p, metrics) ∈ table path withMetrics ↔ withMetrics ∧ p = "/metrics" := by
  simp only [table]
  split <;> split <;> simp_all

theorem mem_sharing : found ∈ sharing path withMetrics p ↔ (p, found) ∈ table path withMetrics := by
  simp [sharing]

theorem withoutTrailingSlashes_prefix (path : String) :
    (withoutTrailingSlashes path).toList <+: path.toList := by
  rw [withoutTrailingSlashes, String.toList_ofList]
  exact List.rdropWhile_prefix (p := (· = '/')) path.toList

theorem rooted_of_prefix (rooted : Settings.Rooted path) (front : p.toList <+: path.toList)
    (ne : p ≠ "") : Settings.Rooted p := by
  have some_ : p.toList ≠ [] := fun nil => ne (String.toList_eq_nil_iff.mp nil)
  rw [Settings.Rooted, List.head?_eq_some_head some_, front.head some_,
    ← List.head?_eq_some_head]
  exact rooted

theorem rooted_of_mem (rooted : Settings.Rooted path) (mem : p ∈ paths path withMetrics) :
    Settings.Rooted p := by
  obtain ⟨entry, registered, rfl⟩ := List.mem_map.mp mem
  obtain ⟨p, found⟩ := entry
  cases found with
  | engine =>
    obtain rfl | bare := engine_mem_table.mp registered
    · exact rooted
    · exact rooted_of_prefix rooted (bare.1 ▸ withoutTrailingSlashes_prefix path) bare.2
  | health => exact health_mem_table.mp registered ▸ rfl
  | metrics => exact (metrics_mem_table.mp registered).2 ▸ rfl

theorem nodup_paths_iff :
    (paths path withMetrics).Nodup ↔
      withoutTrailingSlashes path ≠ "/health" ∧
        (withMetrics → withoutTrailingSlashes path ≠ "/metrics") := by
  have health : path = "/health" → withoutTrailingSlashes path = "/health" := by
    rintro rfl
    rfl
  have metrics : path = "/metrics" → withoutTrailingSlashes path = "/metrics" := by
    rintro rfl
    rfl
  simp only [paths, table]
  split <;> split <;> grind

-- What is reached.

theorem mem_of_find? (h : find? path withMetrics r = some found) :
    (r.path, found) ∈ table path withMetrics := by
  rw [← mem_sharing]
  simp only [find?, Option.or_eq_some_iff] at h
  obtain first | other := h
  · exact List.mem_of_find?_eq_some first
  · have rest := other.2
    split at rest
    · next mem => exact Option.some_inj.mp rest ▸ mem
    · exact List.mem_of_head? rest

theorem isSome_find?_of_mem (mem : (r.path, found) ∈ table path withMetrics) :
    (find? path withMetrics r).isSome := by
  have here : sharing path withMetrics r.path ≠ [] := List.ne_nil_of_mem (mem_sharing.mpr mem)
  rw [find?, Option.isSome_or, Bool.or_eq_true]
  refine .inr ?_
  split
  · rfl
  · exact List.isSome_head?.mpr here

theorem find?_of_alone (mem : (r.path, found) ∈ table path withMetrics)
    (alone : ∀ other, (r.path, other) ∈ table path withMetrics → other = found) :
    find? path withMetrics r = some found := by
  obtain ⟨other, h⟩ := Option.isSome_iff_exists.mp (isSome_find?_of_mem mem)
  rw [h, alone other (mem_of_find? h)]

-- What is read at a path is not left to the engine.
theorem find?_eq_engine_iff :
    find? path withMetrics r = some engine ↔
      (r.path, engine) ∈ table path withMetrics ∧
        ∀ found ≠ engine, (r.path, found) ∈ table path withMetrics →
          found.serves r.method = false := by
  simp only [← mem_sharing]
  constructor
  · intro h
    refine ⟨mem_sharing.mpr (mem_of_find? h), fun found ne mem => ?_⟩
    simp only [find?, Option.or_eq_some_iff] at h
    obtain first | other := h
    · have reads := List.find?_some first
      simp at reads
    · simpa [ne] using List.find?_eq_none.mp other.1 found mem
  · rintro ⟨mem, left⟩
    have reads : (sharing path withMetrics r.path).find?
        (fun found => found ≠ engine && found.serves r.method) = none := by
      simpa [List.find?_eq_none] using fun found mem ne => left found ne mem
    rw [find?, reads, Option.none_or, if_pos mem]

-- When each request finds what is at its path, the engine has its paths for itself.
theorem eq_engine_of_reached
    (reached : ∀ (r : Request) (found : Route), (r.path, found) ∈ table path withMetrics →
      find? path withMetrics r = some found)
    (bare : withoutTrailingSlashes path = r.path) (some_ : r.path ≠ "")
    (mem : (r.path, found) ∈ table path withMetrics) : found = engine := by
  have other := reached r engine (engine_mem_table.mpr (.inr ⟨bare.symm, some_⟩))
  rw [reached r found mem] at other
  exact Option.some_inj.mp other

theorem nodup_paths_iff_forall_find? :
    (paths path withMetrics).Nodup ↔
      ∀ (r : Request) (found : Route), (r.path, found) ∈ table path withMetrics →
        find? path withMetrics r = some found := by
  constructor
  · intro distinct r found mem
    refine find?_of_alone mem fun other mem' => ?_
    exact congrArg Prod.snd (List.inj_on_of_nodup_map distinct mem' mem rfl)
  · intro reached
    refine nodup_paths_iff.mpr ⟨fun bare => ?_, fun on bare => ?_⟩
    · have read : ({ method := "GET", target := "/health" } : Request).path = "/health" := rfl
      cases eq_engine_of_reached reached (read ▸ bare) (by decide) (health_mem_table.mpr read)
    · have read : ({ method := "GET", target := "/metrics" } : Request).path = "/metrics" := rfl
      cases eq_engine_of_reached reached (read ▸ bare) (by decide)
        (metrics_mem_table.mpr ⟨on, read⟩)

end

end Http.Route

-- An engine at the path of another route is not seen by who reads, so nobody opens a session.
theorem Server.route_of_shared {v : Server} {r : Http.Request} (shared : v.listener.path = "/health")
    (reads : r.method = "GET" ∨ r.method = "HEAD") (upgradable : Bool) :
    (v.route r upgradable).2.2 = v := by
  rw [route, shared]
  cases h : Http.Route.find? "/health" v.withMetrics r with
  | none => rfl
  | some found =>
    cases found with
    | health | metrics =>
      dsimp only
      split <;> rfl
    | engine =>
      obtain ⟨registered, left⟩ := Http.Route.find?_eq_engine_iff.mp h
      have at_ : r.path = "/health" :=
        (Http.Route.engine_mem_table.mp registered).elim id fun bare => bare.1
      have unread := left .health (by decide) (Http.Route.health_mem_table.mpr at_)
      rcases reads with get | head
      · simp [get, Http.Route.serves] at unread
      · simp [head, Http.Route.serves] at unread

namespace Settings

-- The paths of a server with fit settings begin with a slash. They are distinct, and each leads to
-- the one route that it was made for, unless the engine's path without the slashes at its end is
-- the path of another route. Then the engine gets what that route does not serve.
theorem nodup_paths_iff_of_valid {s : Settings} {found : List TransportKind}
    (valid : s.validate = .ok found) (withMetrics : Bool) :
    let table := Http.Route.table s.server.path withMetrics
    let paths := Http.Route.paths s.server.path withMetrics
    let bare := Http.Route.withoutTrailingSlashes s.server.path
    (∀ p ∈ paths, Rooted p) ∧
      (paths.Nodup ↔ bare ≠ "/health" ∧ (withMetrics → bare ≠ "/metrics")) ∧
      (paths.Nodup ↔ ∀ (r : Http.Request) (route : Http.Route), (r.path, route) ∈ table →
        Http.Route.find? s.server.path withMetrics r = some route) ∧
      ∀ r : Http.Request, Http.Route.find? s.server.path withMetrics r = some .engine ↔
        (r.path, .engine) ∈ table ∧
          ∀ route ≠ .engine, (r.path, route) ∈ table → route.serves r.method = false := by
  intro table paths bare
  have rooted : ∀ p ∈ paths, Rooted p :=
    fun _ mem => Http.Route.rooted_of_mem (validate_eq_ok valid).2 mem
  exact ⟨rooted, Http.Route.nodup_paths_iff, Http.Route.nodup_paths_iff_forall_find?,
    fun _ => Http.Route.find?_eq_engine_iff⟩

-- A path that only begins with the path of another route.
theorem nodup_paths_iff_of_valid_longer :
    ({ server := { path := "/health/engine//" } } : Settings).validate =
        .ok [.polling, .websocket] ∧
      Http.Route.paths "/health/engine//" true =
        ["/health/engine//", "/health", "/health/engine", "/metrics"] ∧
      (Http.Route.paths "/health/engine//" true).Nodup := by
  have valid : ({ server := { path := "/health/engine//" } } : Settings).validate =
      .ok [.polling, .websocket] := rfl
  exact ⟨valid, by decide, (nodup_paths_iff_of_valid valid true).2.1.mpr (by decide)⟩

theorem not_nodup_paths_of_health :
    ¬ ∀ (s : Settings) (found : List TransportKind) (withMetrics : Bool), s.validate = .ok found →
      (Http.Route.paths s.server.path withMetrics).Nodup := by
  intro distinct
  have valid : ({ server := { path := "/health" } } : Settings).validate =
      .ok [.polling, .websocket] := rfl
  have nodup := distinct _ _ false valid
  revert nodup
  decide

end Settings

end Duplex
