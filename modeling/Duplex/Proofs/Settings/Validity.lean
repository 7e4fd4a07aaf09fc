import Duplex.Proofs.Settings.Environment
import Duplex.Settings.Layers

-- What the environment can do to settings that can be run with. What a variable is read as can be
-- run with too, but for the path: any text is read as a path, also one that does not begin with a
-- slash.

namespace Duplex

theorem TransportKind.ofName?_eq_some_iff {s : String} {kind : TransportKind} :
    ofName? s = some kind ↔ s = kind.name := by
  constructor
  · intro found
    obtain ⟨kind', rfl⟩ := isSome_ofName?_iff.mp (Option.isSome_of_eq_some found)
    rw [ofName?_name] at found
    rw [Option.some_inj.mp found]
  · rintro rfl
    exact ofName?_name kind

namespace Settings

def Rooted (path : String) : Prop :=
  path.toList.head? = some '/'

instance (path : String) : Decidable (Rooted path) :=
  inferInstanceAs (Decidable (_ = _))

-- Whether an engine can run with it, whatever the path.
structure Traffic.Sound (t : Traffic) : Prop where
  positive : ∀ field ∈ positives t, field.2 ≠ 0
  some_ : t.transports ≠ []
  known : ∀ name ∈ t.transports, ∃ kind : TransportKind, name = kind.name

-- Checking.

theorem kinds_eq_ok_iff {names : List String} {found : List TransportKind} :
    kinds names = .ok found ↔ names = found.map TransportKind.name := by
  induction names generalizing found with
  | nil => cases found <;> simp [kinds]
  | cons name names ih =>
    cases found with
    | nil =>
      simp only [kinds]
      split
      · simp
      · split <;> simp
    | cons kind found =>
      rw [List.map_cons, List.cons.injEq, ← ih, ← TransportKind.ofName?_eq_some_iff, kinds]
      cases TransportKind.ofName? name with
      | none => simp
      | some kind' => cases kinds names <;> simp

theorem exists_kinds_of_known {names : List String}
    (h : ∀ name ∈ names, ∃ kind : TransportKind, name = kind.name) :
    ∃ found : List TransportKind, names = found.map TransportKind.name := by
  induction names with
  | nil => exact ⟨[], rfl⟩
  | cons name names ih =>
    rw [List.forall_mem_cons] at h
    obtain ⟨kind, rfl⟩ := h.1
    obtain ⟨found, rfl⟩ := ih h.2
    exact ⟨kind :: found, rfl⟩

-- With all else in order the path decides.
theorem validate_of_sound {s : Settings} (sound : s.engine.Sound) :
    ∃ found, s.validate =
      if Rooted s.server.path then .ok found else .error (.badPath s.server.path) := by
  obtain ⟨found, names⟩ := exists_kinds_of_known sound.known
  have listed := kinds_eq_ok_iff.mpr names
  have positive : (positives s.engine).find? (·.2 = 0) = none := by
    simpa [List.find?_eq_none] using sound.positive
  cases found with
  | nil => exact absurd names sound.some_
  | cons kind rest => exact ⟨kind :: rest, by rw [validate, positive, listed]; rfl⟩

theorem validate_eq_ok {s : Settings} {found : List TransportKind} (h : s.validate = .ok found) :
    s.engine.Sound ∧ Rooted s.server.path := by
  rw [validate] at h
  split at h
  case h_1 => cases h
  case h_2 positive =>
    split at h
    case h_1 => cases h
    case h_2 => cases h
    case h_3 kind rest listed =>
      have names := kinds_eq_ok_iff.mp listed
      split at h
      case isFalse => cases h
      case isTrue rooted =>
        refine ⟨⟨?_, by simp [names], ?_⟩, rooted⟩
        · simpa [List.find?_eq_none] using positive
        · intro name mem
          rw [names] at mem
          obtain ⟨kind', _, rfl⟩ := List.mem_map.mp mem
          exact ⟨kind', rfl⟩

-- Overriding.

theorem getD_of {α : Type} {P : α → Prop} {value? : Option α} {default : α}
    (read : ∀ v, value? = some v → P v) (kept : P default) : P (value?.getD default) := by
  cases value? with
  | none => exact kept
  | some v => exact read v rfl

theorem Environment.NumberAt.ne_zero {env : Environment} {name : String} {high : Nat} {n : UInt64}
    (h : env.NumberAt name 1 high n.toNat) : n ≠ 0 := by
  rintro rfl
  obtain ⟨text, set, denotes, low, high⟩ := h
  simp at low

theorem Traffic.Sound.override {t : Traffic} (sound : t.Sound) (env : Environment) :
    (t.override env).Sound := by
  have positive := sound.positive
  simp only [positives, List.forall_mem_cons, List.not_mem_nil, false_imp_iff, implies_true,
    and_true] at positive
  obtain ⟨pingInterval, pingTimeout, upgradeTimeout, pollTimeout, maxPayload⟩ := positive
  have milliseconds (name : String) {kept : UInt64} (ne : kept ≠ 0) :
      (env.milliseconds? name).getD kept ≠ 0 :=
    getD_of (fun _ read => (Environment.milliseconds?_eq_some_iff.mp read).ne_zero) ne
  have bytes (name : String) {kept : UInt64} (ne : kept ≠ 0) :
      (env.bytes? name).getD kept ≠ 0 :=
    getD_of (fun _ read => (Environment.bytes?_eq_some_iff.mp read).ne_zero) ne
  constructor
  case positive =>
    simp only [positives, List.forall_mem_cons, List.not_mem_nil, false_imp_iff, implies_true,
      and_true]
    exact ⟨milliseconds _ pingInterval, milliseconds _ pingTimeout, milliseconds _ upgradeTimeout,
      milliseconds _ pollTimeout, bytes _ maxPayload⟩
  case some_ =>
    refine getD_of (P := (· ≠ [])) (fun names read => ?_) sound.some_
    obtain ⟨text, set, lists, ne, known⟩ := Environment.transports?_eq_some_iff.mp read
    exact ne
  case known =>
    refine getD_of (P := fun names => ∀ name ∈ names, ∃ kind : TransportKind, name = kind.name)
      (fun names read => ?_) sound.known
    obtain ⟨text, set, lists, ne, known⟩ := Environment.transports?_eq_some_iff.mp read
    exact known

theorem override_path (s : Settings) (env : Environment) :
    (∃ path, env.TextAt "EIO_PATH" path ∧ (s.override env).server.path = path) ∨
      (∀ path, ¬ env.TextAt "EIO_PATH" path) ∧ (s.override env).server.path = s.server.path := by
  simp only [← Environment.text?_eq_some_iff]
  change (∃ path, _ ∧ (env.text? "EIO_PATH").getD s.server.path = path) ∨
    _ ∧ (env.text? "EIO_PATH").getD s.server.path = s.server.path
  cases env.text? "EIO_PATH" <;> simp

-- The environment has a path that cannot be run with.
def Environment.Uproots (env : Environment) (path : String) : Prop :=
  env.TextAt "EIO_PATH" path ∧ ¬ Rooted path

theorem Environment.Uproots.unique {env : Environment} {path path' : String}
    (h : env.Uproots path) (h' : env.Uproots path') : path = path' :=
  Option.some_inj.mp (h.1.1.symm.trans h'.1.1)

theorem validate_override {s : Settings} {found : List TransportKind}
    (valid : s.validate = .ok found) (env : Environment) :
    (∃ path, env.Uproots path ∧ (s.override env).validate = .error (.badPath path)) ∨
      (∀ path, ¬ env.Uproots path) ∧ ∃ found', (s.override env).validate = .ok found' := by
  obtain ⟨sound, rooted⟩ := validate_eq_ok valid
  have sound' : (s.override env).engine.Sound := sound.override env
  obtain ⟨found', checked⟩ := validate_of_sound sound'
  rcases override_path s env with ⟨path, set, path_eq⟩ | ⟨unset, path_eq⟩
  · rw [path_eq] at checked
    by_cases rooted' : Rooted path
    case pos =>
      refine .inr ⟨fun other uproots => uproots.2 ?_, found', by rw [checked, if_pos rooted']⟩
      rwa [← Option.some_inj.mp (set.1.symm.trans uproots.1.1)]
    case neg => exact .inl ⟨path, ⟨set, rooted'⟩, by rw [checked, if_neg rooted']⟩
  · rw [path_eq, if_pos rooted] at checked
    exact .inr ⟨fun path uproots => unset path uproots.1, found', checked⟩

theorem validate_override_iff {s : Settings} {found : List TransportKind}
    (valid : s.validate = .ok found) (env : Environment) :
    ((∃ found', (s.override env).validate = .ok found') ↔ ∀ path, ¬ env.Uproots path) ∧
      ∀ e, (s.override env).validate = .error e ↔
        ∃ path, env.Uproots path ∧ e = .badPath path := by
  rcases validate_override valid env with ⟨path, uproots, checked⟩ | ⟨rooted, found', checked⟩
  · rw [checked]
    refine ⟨⟨by simp, fun none_ => absurd uproots (none_ path)⟩, fun e => ?_⟩
    constructor
    · intro eq
      exact ⟨path, uproots, (Except.error.inj eq).symm⟩
    · rintro ⟨path', uproots', rfl⟩
      rw [uproots.unique uproots']
  · simp [checked, rooted]

-- Where the base and the file are fit by themselves, the check after overriding decides.
theorem layer_of_unset {base s : Settings} {file : Option Bytes}
    (loaded : layer base file (fun _ => none) = .ok s) (env : Environment) :
    (∃ found, s.validate = .ok found) ∧
      (layer base file env = .ok (s.override env) ↔
        ∃ found, (s.override env).validate = .ok found) ∧
      ∀ e, layer base file env = .error e ↔ (s.override env).validate = .error e := by
  have kept (settings : Settings) : settings.override (fun _ => none) = settings := rfl
  rw [layer] at loaded
  cases laid : overlayFile base file with
  | error e => simp [laid] at loaded
  | ok settings =>
    simp only [laid, kept] at loaded
    cases valid : settings.validate with
    | error e => simp [valid] at loaded
    | ok found =>
      obtain rfl : settings = s := by simpa [valid] using loaded
      refine ⟨⟨found, valid⟩, ?_⟩
      cases checked : (settings.override env).validate <;> simp [layer, laid, checked]

-- Of all variables only `EIO_PATH` can make settings unfit, and it does with every text that does
-- not begin with a slash. So settings that load without the environment fail to load with it for
-- this reason only.
theorem override_unfit_iff (env : Environment) :
    (∀ (s : Settings) (found : List TransportKind), s.validate = .ok found →
      ((∃ found', (s.override env).validate = .ok found') ↔ ∀ path, ¬ env.Uproots path) ∧
      ∀ e, (s.override env).validate = .error e ↔ ∃ path, env.Uproots path ∧ e = .badPath path) ∧
    ∀ (base s : Settings) (file : Option Bytes), layer base file (fun _ => none) = .ok s →
      (layer base file env = .ok (s.override env) ↔ ∀ path, ¬ env.Uproots path) ∧
      ∀ e, layer base file env = .error e ↔ ∃ path, env.Uproots path ∧ e = .badPath path := by
  constructor
  case left =>
    intro s found valid
    exact validate_override_iff valid env
  case right =>
    intro base s file loaded
    obtain ⟨⟨found, valid⟩, layered, failed⟩ := layer_of_unset loaded env
    obtain ⟨fit, unfit⟩ := validate_override_iff valid env
    exact ⟨layered.trans fit, fun e => (failed e).trans (unfit e)⟩

-- A variable out of range, a list with an unknown name and a rooted path.
def harmless : Environment :=
  .ofList [("EIO_PING_TIMEOUT", "0"), ("EIO_TRANSPORTS", "websocket,pigeon"), ("EIO_PATH", "/ws")]

theorem override_unfit_iff_harmless :
    ({} : Settings).validate = .ok [.polling, .websocket] ∧
      (∃ found, (({} : Settings).override harmless).validate = .ok found) ∧
      layer {} none (fun _ => none) = .ok {} ∧
      layer {} none harmless = .ok { server := { path := "/ws" } } := by
  have valid : ({} : Settings).validate = .ok [.polling, .websocket] := rfl
  have loaded : layer {} none (fun _ => none) = .ok {} := rfl
  have rooted : ∀ path, ¬ harmless.Uproots path := by
    rintro path ⟨⟨set, _⟩, unrooted⟩
    obtain rfl : "/ws" = path := Option.some_inj.mp set
    exact unrooted rfl
  have overridden : ({} : Settings).override harmless = { server := { path := "/ws" } } := by
    rfl
  refine ⟨valid, ((override_unfit_iff harmless).1 _ _ valid).1.mpr rooted, loaded, ?_⟩
  rw [((override_unfit_iff harmless).2 _ _ _ loaded).1.mpr rooted, overridden]

theorem override_unfit_unrooted :
    ¬ ∀ (s : Settings) (found : List TransportKind) (env : Environment), s.validate = .ok found →
      ∃ found', (s.override env).validate = .ok found' := by
  intro h
  have valid : ({} : Settings).validate = .ok [.polling, .websocket] := rfl
  obtain ⟨found, checked⟩ := h {} _ (.ofList [("EIO_PATH", "engine.io")]) valid
  have unfit : (({} : Settings).override (.ofList [("EIO_PATH", "engine.io")])).validate =
      .error (.badPath "engine.io") := rfl
  rw [unfit] at checked
  cases checked

end Settings

end Duplex
