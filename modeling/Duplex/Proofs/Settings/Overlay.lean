import Duplex.Proofs.Json.Merged
import Duplex.Proofs.Json.Reading
import Duplex.Settings.Layers

-- A settings file over the base: what the file gives is taken from it, every other setting is left as
-- it is, and a file that gives anything but the value of a setting is refused.

namespace Duplex.Settings

open Json

-- The values that a file may hold.

structure Listener.Fits (file : Json) : Prop where
  host : file.Suits "host" string
  port : file.Suits "port" ofUInt16
  path : file.Suits "path" string
  cors : file.Suits "cors" .bool

structure Traffic.Fits (file : Json) : Prop where
  pingInterval : file.Suits "pingIntervalMs" ofUInt64
  pingTimeout : file.Suits "pingTimeoutMs" ofUInt64
  upgradeTimeout : file.Suits "upgradeTimeoutMs" ofUInt64
  pollTimeout : file.Suits "pollTimeoutMs" ofUInt64
  maxPayload : file.Suits "maxPayload" ofUInt64
  transports : file.Suits "transports" ofStrings
  allowUpgrades : file.Suits "allowUpgrades" .bool
  maxDecodeErrors : file.Suits "maxDecodeErrors" ofUInt32

structure Logging.Fits (file : Json) : Prop where
  level : file.Suits "level" string
  json : file.Suits "json" .bool

structure Fits (file : Json) : Prop where
  server : Listener.Fits (file.part "server")
  engine : Traffic.Fits (file.part "engine")
  logging : Logging.Fits (file.part "logging")

-- The file over the base.

def Listener.laid (l : Listener) (file : Json) : Listener where
  host := file.laid "host" asString? l.host
  port := file.laid "port" asUInt16? l.port
  path := file.laid "path" asString? l.path
  cors := file.laid "cors" asBool? l.cors

def Traffic.laid (t : Traffic) (file : Json) : Traffic where
  pingInterval := file.laid "pingIntervalMs" asUInt64? t.pingInterval
  pingTimeout := file.laid "pingTimeoutMs" asUInt64? t.pingTimeout
  upgradeTimeout := file.laid "upgradeTimeoutMs" asUInt64? t.upgradeTimeout
  pollTimeout := file.laid "pollTimeoutMs" asUInt64? t.pollTimeout
  maxPayload := file.laid "maxPayload" asUInt64? t.maxPayload
  transports := file.laid "transports" asStrings? t.transports
  allowUpgrades := file.laid "allowUpgrades" asBool? t.allowUpgrades
  maxDecodeErrors := file.laid "maxDecodeErrors" asUInt32? t.maxDecodeErrors

def Logging.laid (l : Logging) (file : Json) : Logging where
  level := file.laid "level" asString? l.level
  json := file.laid "json" asBool? l.json

def laid (s : Settings) (file : Json) : Settings where
  server := s.server.laid (file.part "server")
  engine := s.engine.laid (file.part "engine")
  logging := s.logging.laid (file.part "logging")

theorem laid_empty (s : Settings) : s.laid (.object []) = s :=
  rfl

-- Reading what a file was merged into.

theorem Listener.field?_toJson (l : Listener) :
    l.toJson.field? "host" 0 = some (string l.host) ∧
      l.toJson.field? "port" 1 = some (ofUInt16 l.port) ∧
      l.toJson.field? "path" 2 = some (string l.path) ∧
      l.toJson.field? "cors" 3 = some (.bool l.cors) := by
  simp [toJson, field?, Members.get?_cons, ofUInt16]

theorem Listener.ofJson?_merge (l : Listener) {file : Json} (table : file.IsTable) :
    ofJson? (l.toJson.merge file) = (do
      let host ← file.over? "host" asString? l.host
      let port ← file.over? "port" asUInt16? l.port
      let path ← file.over? "path" asString? l.path
      let cors ← file.over? "cors" asBool? l.cors
      some { host, port, path, cors }) := by
  obtain ⟨changes, rfl, nodup⟩ := table
  have fields := l.field?_toJson
  have isRecord : (l.toJson.merge (.object changes)).isRecord 4 = true := rfl
  rw [ofJson?, isRecord]
  dsimp only
  rw [toJson] at fields ⊢
  obtain ⟨host, port, path, cors⟩ := fields
  rw [Field.text.fieldOr_merge nodup host, Field.word16.fieldOr_merge nodup port,
    Field.text.fieldOr_merge nodup path, Field.bool.fieldOr_merge nodup cors]
  rfl

theorem Listener.ofJson?_of_fits {file : Json} (table : file.IsTable) (fits : Fits file)
    (l : Listener) : ofJson? (l.toJson.merge file) = some (l.laid file) := by
  rw [l.ofJson?_merge table, Field.text.over?_of_suits fits.host,
    Field.word16.over?_of_suits fits.port, Field.text.over?_of_suits fits.path,
    Field.bool.over?_of_suits fits.cors]
  rfl

theorem Listener.fits_of_ofJson? {file : Json} (table : file.IsTable) {l l' : Listener}
    (read : ofJson? (l.toJson.merge file) = some l') : Fits file := by
  simp only [l.ofJson?_merge table, Option.bind_eq_bind, Option.bind_eq_some_iff] at read
  obtain ⟨_, host, _, port, _, path, _, cors, _⟩ := read
  exact ⟨Field.text.suits_of_over? host, Field.word16.suits_of_over? port,
    Field.text.suits_of_over? path, Field.bool.suits_of_over? cors⟩

theorem Traffic.field?_toJson (t : Traffic) :
    t.toJson.field? "pingIntervalMs" 0 = some (ofUInt64 t.pingInterval) ∧
      t.toJson.field? "pingTimeoutMs" 1 = some (ofUInt64 t.pingTimeout) ∧
      t.toJson.field? "upgradeTimeoutMs" 2 = some (ofUInt64 t.upgradeTimeout) ∧
      t.toJson.field? "pollTimeoutMs" 3 = some (ofUInt64 t.pollTimeout) ∧
      t.toJson.field? "maxPayload" 4 = some (ofUInt64 t.maxPayload) ∧
      t.toJson.field? "transports" 5 = some (ofStrings t.transports) ∧
      t.toJson.field? "allowUpgrades" 6 = some (.bool t.allowUpgrades) ∧
      t.toJson.field? "maxDecodeErrors" 7 = some (ofUInt32 t.maxDecodeErrors) := by
  simp [toJson, field?, Members.get?_cons, ofUInt64, ofUInt32]

theorem Traffic.ofJson?_merge (t : Traffic) {file : Json} (table : file.IsTable) :
    ofJson? (t.toJson.merge file) = (do
      let pingInterval ← file.over? "pingIntervalMs" asUInt64? t.pingInterval
      let pingTimeout ← file.over? "pingTimeoutMs" asUInt64? t.pingTimeout
      let upgradeTimeout ← file.over? "upgradeTimeoutMs" asUInt64? t.upgradeTimeout
      let pollTimeout ← file.over? "pollTimeoutMs" asUInt64? t.pollTimeout
      let maxPayload ← file.over? "maxPayload" asUInt64? t.maxPayload
      let transports ← file.over? "transports" asStrings? t.transports
      let allowUpgrades ← file.over? "allowUpgrades" asBool? t.allowUpgrades
      let maxDecodeErrors ← file.over? "maxDecodeErrors" asUInt32? t.maxDecodeErrors
      some ⟨pingInterval, pingTimeout, upgradeTimeout, pollTimeout, maxPayload, transports,
        allowUpgrades, maxDecodeErrors⟩) := by
  obtain ⟨changes, rfl, nodup⟩ := table
  have fields := t.field?_toJson
  have isRecord : (t.toJson.merge (.object changes)).isRecord 8 = true := rfl
  rw [ofJson?, isRecord]
  dsimp only
  rw [toJson] at fields ⊢
  obtain ⟨pingInterval, pingTimeout, upgradeTimeout, pollTimeout, maxPayload, transports,
    allowUpgrades, maxDecodeErrors⟩ := fields
  rw [Field.word64.fieldOr_merge nodup pingInterval, Field.word64.fieldOr_merge nodup pingTimeout,
    Field.word64.fieldOr_merge nodup upgradeTimeout, Field.word64.fieldOr_merge nodup pollTimeout,
    Field.word64.fieldOr_merge nodup maxPayload, Field.texts.fieldOr_merge nodup transports,
    Field.bool.fieldOr_merge nodup allowUpgrades, Field.word32.fieldOr_merge nodup maxDecodeErrors]
  rfl

theorem Traffic.ofJson?_of_fits {file : Json} (table : file.IsTable) (fits : Fits file)
    (t : Traffic) : ofJson? (t.toJson.merge file) = some (t.laid file) := by
  rw [t.ofJson?_merge table, Field.word64.over?_of_suits fits.pingInterval,
    Field.word64.over?_of_suits fits.pingTimeout, Field.word64.over?_of_suits fits.upgradeTimeout,
    Field.word64.over?_of_suits fits.pollTimeout, Field.word64.over?_of_suits fits.maxPayload,
    Field.texts.over?_of_suits fits.transports, Field.bool.over?_of_suits fits.allowUpgrades,
    Field.word32.over?_of_suits fits.maxDecodeErrors]
  rfl

theorem Traffic.fits_of_ofJson? {file : Json} (table : file.IsTable) {t t' : Traffic}
    (read : ofJson? (t.toJson.merge file) = some t') : Fits file := by
  simp only [t.ofJson?_merge table, Option.bind_eq_bind, Option.bind_eq_some_iff] at read
  obtain ⟨_, pingInterval, _, pingTimeout, _, upgradeTimeout, _, pollTimeout, _, maxPayload,
    _, transports, _, allowUpgrades, _, maxDecodeErrors, _⟩ := read
  exact {
    pingInterval := Field.word64.suits_of_over? pingInterval
    pingTimeout := Field.word64.suits_of_over? pingTimeout
    upgradeTimeout := Field.word64.suits_of_over? upgradeTimeout
    pollTimeout := Field.word64.suits_of_over? pollTimeout
    maxPayload := Field.word64.suits_of_over? maxPayload
    transports := Field.texts.suits_of_over? transports
    allowUpgrades := Field.bool.suits_of_over? allowUpgrades
    maxDecodeErrors := Field.word32.suits_of_over? maxDecodeErrors }

theorem Logging.field?_toJson (l : Logging) :
    l.toJson.field? "level" 0 = some (string l.level) ∧
      l.toJson.field? "json" 1 = some (.bool l.json) := by
  simp [toJson, field?, Members.get?_cons]

theorem Logging.ofJson?_merge (l : Logging) {file : Json} (table : file.IsTable) :
    ofJson? (l.toJson.merge file) = (do
      let level ← file.over? "level" asString? l.level
      let jsonLines ← file.over? "json" asBool? l.json
      some { level, json := jsonLines }) := by
  obtain ⟨changes, rfl, nodup⟩ := table
  have fields := l.field?_toJson
  have isRecord : (l.toJson.merge (.object changes)).isRecord 2 = true := rfl
  rw [ofJson?, isRecord]
  dsimp only
  rw [toJson] at fields ⊢
  obtain ⟨level, json⟩ := fields
  rw [Field.text.fieldOr_merge nodup level, Field.bool.fieldOr_merge nodup json]
  rfl

theorem Logging.ofJson?_of_fits {file : Json} (table : file.IsTable) (fits : Fits file)
    (l : Logging) : ofJson? (l.toJson.merge file) = some (l.laid file) := by
  rw [l.ofJson?_merge table, Field.text.over?_of_suits fits.level,
    Field.bool.over?_of_suits fits.json]
  rfl

theorem Logging.fits_of_ofJson? {file : Json} (table : file.IsTable) {l l' : Logging}
    (read : ofJson? (l.toJson.merge file) = some l') : Fits file := by
  simp only [l.ofJson?_merge table, Option.bind_eq_bind, Option.bind_eq_some_iff] at read
  obtain ⟨_, level, _, json, _⟩ := read
  exact ⟨Field.text.suits_of_over? level, Field.bool.suits_of_over? json⟩

def sections : List String :=
  ["server", "engine", "logging"]

-- A file that is read holds no key twice.
structure Sectioned (file : Json) : Prop where
  table : file.IsTable
  part {name : String} (mem : name ∈ sections) : (file.part name).IsTable

theorem field?_toJson (s : Settings) :
    s.toJson.field? "server" 0 = some s.server.toJson ∧
      s.toJson.field? "engine" 1 = some s.engine.toJson ∧
      s.toJson.field? "logging" 2 = some s.logging.toJson := by
  simp [toJson, field?, Members.get?_cons]

theorem ofJson?_merge (base : Settings) {file : Json} (table : file.IsTable) :
    ofJson? (base.toJson.merge file) = (do
      let server ← Listener.ofJson? (base.server.toJson.merge (file.part "server"))
      let engine ← Traffic.ofJson? (base.engine.toJson.merge (file.part "engine"))
      let logging ← Logging.ofJson? (base.logging.toJson.merge (file.part "logging"))
      some { server, engine, logging }) := by
  obtain ⟨changes, rfl, nodup⟩ := table
  have fields := base.field?_toJson
  have isRecord : (base.toJson.merge (.object changes)).isRecord 3 = true := rfl
  rw [ofJson?, isRecord]
  rw [toJson] at fields ⊢
  obtain ⟨server, engine, logging⟩ := fields
  rw [fieldOr_merge_part nodup server, fieldOr_merge_part nodup engine,
    fieldOr_merge_part nodup logging]
  rfl

theorem overlay_of_fits {file : Json} (sectioned : Sectioned file) (fits : Fits file)
    (base : Settings) : overlay base file = .ok (base.laid file) := by
  have read : ofJson? (base.toJson.merge file) = some (base.laid file) := by
    rw [base.ofJson?_merge sectioned.table,
      Listener.ofJson?_of_fits (sectioned.part (by decide)) fits.server,
      Traffic.ofJson?_of_fits (sectioned.part (by decide)) fits.engine,
      Logging.ofJson?_of_fits (sectioned.part (by decide)) fits.logging]
    rfl
  rw [overlay, read]

theorem overlay_of_not_fits {file : Json} (sectioned : Sectioned file) (misfit : ¬ Fits file)
    (base : Settings) : overlay base file = .error .json := by
  rw [overlay]
  split
  case h_1 read =>
    simp only [base.ofJson?_merge sectioned.table, Option.bind_eq_bind,
      Option.bind_eq_some_iff] at read
    obtain ⟨_, server, _, engine, _, logging, _⟩ := read
    exact absurd {
      server := Listener.fits_of_ofJson? (sectioned.part (by decide)) server
      engine := Traffic.fits_of_ofJson? (sectioned.part (by decide)) engine
      logging := Logging.fits_of_ofJson? (sectioned.part (by decide)) logging } misfit
  case h_2 => rfl

-- What a file says as a whole. It is not there, or it holds an object, in which every section is
-- left out, null or an object.
inductive Holds : Option Bytes → Json → Prop
  | absent : Holds none (.object [])
  | present {bytes : Bytes} {members : Members} (read : readFile bytes = .ok (.object members))
    (objects : ∀ name ∈ sections, ∀ value, (Json.object members).given? name = some value →
      ∃ changes, value = .object changes) : Holds (some bytes) (.object members)

theorem readFile_render {json value : Json} (written : json.isExact)
    (kept : json.value? = some value) : readFile (Text.utf8 json.render) = .ok value := by
  rw [readFile, Text.ofUtf8?_utf8]
  dsimp only
  rw [ofText?_render written, Option.bind_some, kept]

theorem exists_distinct_of_readFile {bytes : Bytes} {json : Json}
    (read : readFile bytes = .ok json) : ∃ found : Json, json = found.distinct := by
  rw [readFile] at read
  split at read
  case h_1 => cases read
  case h_2 text _ =>
    split at read
    case h_2 => cases read
    case h_1 value found =>
      cases read
      obtain ⟨written, _, kept⟩ := Option.bind_eq_some_iff.mp found
      rw [Json.value?] at kept
      split at kept
      case isTrue => exact ⟨written, (Option.some_inj.mp kept).symm⟩
      case isFalse => cases kept

namespace Holds

variable {file : Option Bytes} {json : Json} (h : Holds file json)

include h

theorem sectioned : Sectioned json := by
  cases h with
  | absent => exact ⟨.empty, fun _ => .empty⟩
  | present read objects =>
    obtain ⟨found, eq⟩ := exists_distinct_of_readFile read
    refine ⟨isTable_of_distinct eq.symm, fun mem => ?_⟩
    rw [eq] at objects ⊢
    exact isTable_part (objects _ mem)

theorem overlayFile_eq (base : Settings) : overlayFile base file = overlay base json := by
  cases h with
  | absent =>
    have fits : Fits (.object []) := by
      constructor <;> constructor <;> intro value given <;> cases given
    rw [overlay_of_fits ⟨.empty, fun _ => .empty⟩ fits, base.laid_empty, overlayFile]
  | present read => rw [overlayFile, read]

end Holds

end Duplex.Settings
