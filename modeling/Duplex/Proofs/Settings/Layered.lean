import Duplex.CommandLine
import Duplex.Proofs.Settings.Environment
import Duplex.Proofs.Settings.Overlay

-- Where the value of a setting comes from: the highest layer that supplies one. A flag is above the
-- environment, the environment above the file, and the file above the base.

namespace Duplex.Settings

open Json

-- What may supply a value: which value that is, and how it is found.
structure Layer (α : Type) where
  value? : Option α
  Supplies : α → Prop
  value?_eq_some_iff {v : α} : value? = some v ↔ Supplies v

namespace Layer

variable {α : Type}

theorem Supplies.unique {layer : Layer α} {v w : α} (hv : layer.Supplies v)
    (hw : layer.Supplies w) : v = w :=
  Option.some_inj.mp
    ((layer.value?_eq_some_iff.mpr hv).symm.trans (layer.value?_eq_some_iff.mpr hw))

def flag (o : Option α) : Layer α :=
  ⟨o, (o = some ·), .rfl⟩

def base (b : α) : Layer α :=
  ⟨some b, (· = b), Option.some_inj.trans eq_comm⟩

section

variable (env : Environment) (name : String)

def text : Layer String :=
  ⟨env.text? name, env.TextAt name, Environment.text?_eq_some_iff⟩

def port : Layer UInt16 :=
  ⟨env.port? name, (env.NumberAt name 0 65535 ·.toNat), Environment.port?_eq_some_iff⟩

def milliseconds : Layer UInt64 :=
  ⟨env.milliseconds? name, (env.NumberAt name 1 3600000 ·.toNat),
    Environment.milliseconds?_eq_some_iff⟩

def bytes : Layer UInt64 :=
  ⟨env.bytes? name, (env.NumberAt name 1 1073741824 ·.toNat), Environment.bytes?_eq_some_iff⟩

def bool : Layer Bool :=
  ⟨env.bool? name, env.BoolAt name, Environment.bool?_eq_some_iff⟩

def transports : Layer (List String) :=
  ⟨env.transports? name, env.TransportsAt name, Environment.transports?_eq_some_iff⟩

end

-- A key of a section of the file.
def entry {read : Json → Option α} {write : α → Json} (file : Json) (key : String)
    (f : Field read write) : Layer α :=
  ⟨(file.given? key).bind read, fun v => file.given? key = some (write v), f.bind_eq_some_iff⟩

end Layer

-- The value of the first layer that supplies one.
inductive Highest {α : Type} : List (Layer α) → α → Prop
  | own {layer : Layer α} {lower : List (Layer α)} {v : α} (own : layer.Supplies v) :
    Highest (layer :: lower) v
  | lower {layer : Layer α} {lower : List (Layer α)} {v : α} (nothing : ∀ w, ¬ layer.Supplies w)
    (rest : Highest lower v) : Highest (layer :: lower) v

namespace Highest

variable {α : Type} {lower layers : List (Layer α)} {v w : α}

theorem base (b : α) : Highest [.base b] b :=
  .own rfl

theorem getD (layer : Layer α) (rest : Highest lower v) :
    Highest (layer :: lower) (layer.value?.getD v) := by
  cases found : layer.value? with
  | none =>
    refine .lower (fun w own => ?_) rest
    cases found.symm.trans (layer.value?_eq_some_iff.mpr own)
  | some w => exact .own (layer.value?_eq_some_iff.mp found)

theorem unique (hv : Highest layers v) (hw : Highest layers w) : v = w := by
  induction hv with
  | own own =>
    cases hw with
    | own own' => exact own.unique own'
    | lower nothing => exact absurd own (nothing _)
  | lower nothing _ ih =>
    cases hw with
    | own own' => exact absurd own' (nothing _)
    | lower _ rest' => exact ih rest'

end Highest

-- The layers of every setting.

section

variable (flags : CommandLine.Flags) (env : Environment) (file : Json)

structure Listener.Layered (base l : Listener) : Prop where
  host : Highest
    [.flag flags.host, .text env "EIO_HOST", .entry file "host" .text, .base base.host] l.host
  port : Highest
    [.flag flags.port, .port env "EIO_PORT", .port env "PORT", .entry file "port" .word16,
      .base base.port] l.port
  path : Highest [.text env "EIO_PATH", .entry file "path" .text, .base base.path] l.path
  cors : Highest [.entry file "cors" .bool, .base base.cors] l.cors

structure Traffic.Layered (base t : Traffic) : Prop where
  pingInterval : Highest
    [.flag flags.pingInterval, .milliseconds env "EIO_PING_INTERVAL",
      .entry file "pingIntervalMs" .word64, .base base.pingInterval] t.pingInterval
  pingTimeout : Highest
    [.milliseconds env "EIO_PING_TIMEOUT", .entry file "pingTimeoutMs" .word64,
      .base base.pingTimeout] t.pingTimeout
  upgradeTimeout : Highest
    [.milliseconds env "EIO_UPGRADE_TIMEOUT", .entry file "upgradeTimeoutMs" .word64,
      .base base.upgradeTimeout] t.upgradeTimeout
  pollTimeout : Highest
    [.milliseconds env "EIO_POLL_TIMEOUT", .entry file "pollTimeoutMs" .word64,
      .base base.pollTimeout] t.pollTimeout
  maxPayload : Highest
    [.bytes env "EIO_MAX_PAYLOAD", .entry file "maxPayload" .word64, .base base.maxPayload]
    t.maxPayload
  transports : Highest
    [.transports env "EIO_TRANSPORTS", .entry file "transports" .texts, .base base.transports]
    t.transports
  allowUpgrades : Highest
    [.bool env "EIO_ALLOW_UPGRADES", .entry file "allowUpgrades" .bool, .base base.allowUpgrades]
    t.allowUpgrades
  maxDecodeErrors : Highest
    [.entry file "maxDecodeErrors" .word32, .base base.maxDecodeErrors] t.maxDecodeErrors

structure Logging.Layered (base l : Logging) : Prop where
  level : Highest
    [.flag flags.logLevel, .text env "EIO_LOG_LEVEL", .entry file "level" .text,
      .base base.level] l.level
  json : Highest [.bool env "EIO_LOG_JSON", .entry file "json" .bool, .base base.json] l.json

structure Layered (base s : Settings) : Prop where
  server : Listener.Layered flags env (file.part "server") base.server s.server
  engine : Traffic.Layered flags env (file.part "engine") base.engine s.engine
  logging : Logging.Layered flags env (file.part "logging") base.logging s.logging

end

section

variable {flags : CommandLine.Flags} {env : Environment} {file : Json}

theorem Listener.Layered.unique {base l l' : Listener}
    (h : Listener.Layered flags env file base l) (h' : Listener.Layered flags env file base l') :
    l = l' := by
  cases l
  cases l'
  rw [Listener.mk.injEq]
  exact ⟨h.host.unique h'.host, h.port.unique h'.port, h.path.unique h'.path,
    h.cors.unique h'.cors⟩

theorem Traffic.Layered.unique {base t t' : Traffic} (h : Traffic.Layered flags env file base t)
    (h' : Traffic.Layered flags env file base t') : t = t' := by
  cases t
  cases t'
  rw [Traffic.mk.injEq]
  exact ⟨h.pingInterval.unique h'.pingInterval, h.pingTimeout.unique h'.pingTimeout,
    h.upgradeTimeout.unique h'.upgradeTimeout, h.pollTimeout.unique h'.pollTimeout,
    h.maxPayload.unique h'.maxPayload, h.transports.unique h'.transports,
    h.allowUpgrades.unique h'.allowUpgrades, h.maxDecodeErrors.unique h'.maxDecodeErrors⟩

theorem Logging.Layered.unique {base l l' : Logging} (h : Logging.Layered flags env file base l)
    (h' : Logging.Layered flags env file base l') : l = l' := by
  cases l
  cases l'
  rw [Logging.mk.injEq]
  exact ⟨h.level.unique h'.level, h.json.unique h'.json⟩

-- The layers leave no choice.
theorem Layered.unique {base s s' : Settings} (h : Layered flags env file base s)
    (h' : Layered flags env file base s') : s = s' := by
  cases s
  cases s'
  rw [Settings.mk.injEq]
  exact ⟨h.server.unique h'.server, h.engine.unique h'.engine, h.logging.unique h'.logging⟩

end

theorem layered_laid (flags : CommandLine.Flags) (env : Environment) (file : Json)
    (base : Settings) :
    Layered flags env file base (flags.apply ((base.laid file).override env)) where
  server := {
    host := .getD _ (.getD _ (.getD _ (.base _)))
    port := .getD _ (.getD _ (.getD _ (.getD _ (.base _))))
    path := .getD _ (.getD _ (.base _))
    cors := .getD _ (.base _) }
  engine := {
    pingInterval := .getD _ (.getD _ (.getD _ (.base _)))
    pingTimeout := .getD _ (.getD _ (.base _))
    upgradeTimeout := .getD _ (.getD _ (.base _))
    pollTimeout := .getD _ (.getD _ (.base _))
    maxPayload := .getD _ (.getD _ (.base _))
    transports := .getD _ (.getD _ (.base _))
    allowUpgrades := .getD _ (.getD _ (.base _))
    maxDecodeErrors := .getD _ (.base _) }
  logging := {
    level := .getD _ (.getD _ (.getD _ (.base _)))
    json := .getD _ (.getD _ (.base _)) }

namespace Holds

variable {file : Option Bytes} {json : Json} (h : Holds file json)

include h

theorem layer_eq_ok_iff (base : Settings) (env : Environment) {s : Settings} :
    layer base file env = .ok s ↔
      Fits json ∧ Layered {} env json base s ∧ ∃ kinds, s.validate = .ok kinds := by
  have laid : Layered {} env json base ((base.laid json).override env) :=
    layered_laid {} env json base
  rw [layer, h.overlayFile_eq]
  constructor
  · intro ok
    by_cases fits : Fits json
    case neg =>
      rw [overlay_of_not_fits h.sectioned fits] at ok
      cases ok
    case pos =>
      rw [overlay_of_fits h.sectioned fits] at ok
      dsimp only at ok
      split at ok
      case h_1 kinds valid =>
        cases ok
        exact ⟨fits, laid, kinds, valid⟩
      case h_2 => cases ok
  · rintro ⟨fits, layered, kinds, valid⟩
    rw [overlay_of_fits h.sectioned fits]
    dsimp only
    rw [← layered.unique laid, valid]

theorem layer_eq_error_iff (base : Settings) (env : Environment) {e : Error} :
    layer base file env = .error e ↔
      (¬ Fits json ∧ e = .json) ∨
        Fits json ∧ ∃ s, Layered {} env json base s ∧ s.validate = .error e := by
  have laid : Layered {} env json base ((base.laid json).override env) :=
    layered_laid {} env json base
  rw [layer, h.overlayFile_eq]
  by_cases fits : Fits json
  case neg =>
    rw [overlay_of_not_fits h.sectioned fits]
    simp [fits, eq_comm]
  case pos =>
    rw [overlay_of_fits h.sectioned fits]
    dsimp only
    constructor
    · intro failed
      split at failed
      case h_1 => cases failed
      case h_2 invalid =>
        cases failed
        exact .inr ⟨fits, _, laid, invalid⟩
    · rintro (⟨misfit, _⟩ | ⟨_, s, layered, invalid⟩)
      · exact absurd fits misfit
      · rw [← layered.unique laid, invalid]

theorem layered {base : Settings} {env : Environment} {s : Settings}
    (loaded : layer base file env = .ok s) (flags : CommandLine.Flags) :
    Layered flags env json base (flags.apply s) := by
  obtain ⟨_, layered, _⟩ := (h.layer_eq_ok_iff base env).mp loaded
  rw [layered.unique (layered_laid {} env json base)]
  exact layered_laid flags env json base

end Holds

-- Every setting has the value of its highest layer. Loading fails with a file that does not fit and
-- with settings that cannot be run with, and with nothing else.
theorem layer_takes_highest {file : Option Bytes} {json : Json} (holds : Holds file json)
    (base : Settings) (env : Environment) (flags : CommandLine.Flags) :
    (∀ s, layer base file env = .ok s → Layered flags env json base (flags.apply s)) ∧
      (∀ s, layer base file env = .ok s ↔
        Fits json ∧ Layered {} env json base s ∧ ∃ kinds, s.validate = .ok kinds) ∧
      (∀ e, layer base file env = .error e ↔
        (¬ Fits json ∧ e = .json) ∨
          Fits json ∧ ∃ s, Layered {} env json base s ∧ s.validate = .error e) ∧
      (∀ kinds, base.validate = .ok kinds → layer base none (fun _ => none) = .ok base) ∧
      CommandLine.Flags.apply {} base = base := by
  refine ⟨fun s loaded => holds.layered loaded flags, fun s => holds.layer_eq_ok_iff base env,
    fun e => holds.layer_eq_error_iff base env, fun kinds valid => ?_, rfl⟩
  have same : base.override (fun _ => none) = base := rfl
  rw [layer, overlayFile]
  dsimp only
  rw [same, valid]

-- A file that leaves a section and a setting as they are.
def sparse : Json :=
  .object [("server", .null),
    ("engine", .object [("pollTimeoutMs", .null), ("maxPayload", .ofNat 4096)])]

-- The first port is out of range and the limit is empty, so that neither counts.
def crowded : Environment :=
  .ofList [("EIO_PORT", "99999"), ("PORT", "8080"), ("EIO_MAX_PAYLOAD", "")]

theorem layer_takes_highest_sparse :
    ∃ s, layer CommandLine.base (some (Text.utf8 sparse.render)) crowded = .ok s ∧
      Layered { pingInterval := some 250 } crowded sparse CommandLine.base
        (CommandLine.Flags.apply { pingInterval := some 250 } s) ∧
      s.server.port = 8080 ∧ s.engine.maxPayload = 4096 ∧ s.engine.pollTimeout = 25000 := by
  have read : readFile (Text.utf8 sparse.render) = .ok sparse := readFile_render rfl rfl
  have holds : Holds (some (Text.utf8 sparse.render)) sparse := by
    refine .present read fun name mem value given => ?_
    simp only [sections, List.mem_cons, List.not_mem_nil, or_false] at mem
    rcases mem with rfl | rfl | rfl <;> cases given
    exact ⟨_, rfl⟩
  have loaded : layer CommandLine.base (some (Text.utf8 sparse.render)) crowded =
      .ok { CommandLine.base with
        server := { port := 8080 }
        engine := { pingInterval := 500, maxPayload := 4096 } } := by
    rw [layer, overlayFile, read]
    rfl
  exact ⟨_, loaded, (layer_takes_highest holds _ _ _).1 _ loaded, rfl, rfl, rfl⟩

end Duplex.Settings

namespace Duplex.CommandLine

-- What the echo server runs with, from its arguments on.
theorem layered_of_plan {args : List String} {env : Settings.Environment}
    {file : String → Option Bytes} {p : Plan} {json : Json} (planned : plan args env file = .ok p)
    (holds : Settings.Holds (file (p.flags.filePath env)) json) :
    read args = .ok p.flags ∧ Settings.Layered p.flags env json base p.settings ∧
      Configuration.ofSettings p.settings = .ok p.configuration := by
  rw [plan] at planned
  split at planned
  case h_1 => cases planned
  case h_2 flags readable =>
    split at planned
    case h_1 => cases planned
    case h_2 settings loaded =>
      dsimp only at planned
      split at planned
      case h_1 => cases planned
      case h_2 configuration fit =>
        cases planned
        exact ⟨readable, holds.layered loaded flags, fit⟩

end Duplex.CommandLine
