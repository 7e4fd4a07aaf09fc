import Duplex.Settings.Environment

-- What a variable stands for, said without the functions that read it.

namespace Duplex

namespace Decimal

-- A number is denoted by its digits, with any zeros before them and maybe one plus sign in front.
def Denotes (cs : List Char) (n : Nat) : Prop :=
  ∃ sign zeros, (sign = [] ∨ sign = ['+']) ∧ cs = sign ++ (List.replicate zeros '0' ++ digits n)

theorem value?_eq_some_iff {cs : List Char} {n : Nat} :
    value? cs = some n ↔ ∃ zeros, cs = List.replicate zeros '0' ++ digits n := by
  constructor
  · intro read
    rw [value?] at read
    split at read
    case isTrue digits_ =>
      cases read
      exact exists_replicate_append_digits digits_.1 digits_.2
    case isFalse => cases read
  · rintro ⟨zeros, rfl⟩
    have ne : List.replicate zeros '0' ++ digits n ≠ [] := by simp [digits_ne_nil]
    have all : (List.replicate zeros '0' ++ digits n).all isDigit := by
      rw [List.all_append, all_isDigit_digits, Bool.and_true, List.all_replicate]
      simp [show isDigit '0' = true by decide]
    rw [value?, if_pos ⟨ne, all⟩, value_replicate_append, value_digits]

theorem unsigned?_eq_some_iff {cs : List Char} {n : Nat} :
    unsigned? cs = some n ↔ Denotes cs n := by
  rw [unsigned?.eq_def]
  split
  case h_1 cs =>
    rw [value?_eq_some_iff]
    constructor
    · rintro ⟨zeros, written⟩
      exact ⟨['+'], zeros, .inr rfl, written ▸ rfl⟩
    · rintro ⟨sign, zeros, rfl | rfl, written⟩
      · -- Without its sign the text would be one digit after the other.
        have read := value?_eq_some_iff.mpr ⟨zeros, written⟩
        simp [value?, isDigit] at read
      · exact ⟨zeros, List.cons.inj written |>.2⟩
  case h_2 cs unsigned =>
    rw [value?_eq_some_iff]
    constructor
    · rintro ⟨zeros, written⟩
      exact ⟨[], zeros, .inl rfl, written⟩
    · rintro ⟨sign, zeros, rfl | rfl, written⟩
      · exact ⟨zeros, written⟩
      · exact absurd written (unsigned _)

theorem unsignedUpTo?_eq_some_iff {bound : Nat} {cs : List Char} {n : Nat} :
    unsignedUpTo? bound cs = some n ↔ Denotes cs n ∧ n ≤ bound := by
  rw [unsignedUpTo?, Option.filter_eq_some_iff, unsigned?_eq_some_iff, decide_eq_true_eq]

-- Numbers of some width.
theorem map_unsignedUpTo?_eq_some_iff {α : Type} {size : Nat} {toNat : α → Nat} {of : Nat → α}
    (of_toNat : ∀ v, of (toNat v) = v) (toNat_of : ∀ n < size, toNat (of n) = n)
    (lt : ∀ v, toNat v < size) {cs : List Char} {v : α} :
    (unsignedUpTo? (size - 1) cs).map of = some v ↔ Denotes cs (toNat v) := by
  have bound := lt v
  rw [Option.map_eq_some_iff]
  simp only [unsignedUpTo?_eq_some_iff]
  constructor
  · rintro ⟨n, ⟨denotes, small⟩, rfl⟩
    rwa [toNat_of n (by omega)]
  · intro denotes
    exact ⟨toNat v, ⟨denotes, by omega⟩, of_toNat v⟩

end Decimal

theorem TransportKind.isSome_ofName?_iff {s : String} :
    (ofName? s).isSome ↔ ∃ kind : TransportKind, s = kind.name := by
  constructor
  · intro known
    rw [ofName?] at known
    split at known
    case isTrue eq => exact ⟨.polling, eq⟩
    case isFalse =>
      split at known
      case isTrue eq => exact ⟨.websocket, eq⟩
      case isFalse => cases known
  · rintro ⟨kind, rfl⟩
    rw [ofName?_name, Option.isSome_some]

namespace Settings

def boolWords : Bool → List String
  | true => ["true", "1", "yes", "on"]
  | false => ["false", "0", "no", "off"]

-- The transports of a list with commas. A blank entry names none.
def Lists (text : String) (names : List String) : Prop :=
  ∃ entries, (∀ entry ∈ entries, ',' ∉ entry) ∧ text.toList = Text.join ',' entries ∧
    names.map String.toList = (entries.map Text.trim).filter (· ≠ [])

theorem readText?_eq_some_iff {s v : String} : readText? s = some v ↔ s = v ∧ v ≠ "" := by
  rw [readText?]
  split
  case isTrue empty => simp [empty, eq_comm]
  case isFalse filled =>
    rw [Option.some_inj]
    exact ⟨fun eq => ⟨eq, eq ▸ filled⟩, And.left⟩

theorem readUInt16?_eq_some_iff {low high n : UInt16} {s : String} :
    readUInt16? low high s = some n ↔
      Decimal.Denotes s.toList n.toNat ∧ low ≤ n ∧ n ≤ high := by
  rw [readUInt16?, Option.filter_eq_some_iff, decide_eq_true_eq,
    Decimal.map_unsignedUpTo?_eq_some_iff (fun _ => UInt16.ofNat_toNat)
      (fun _ => UInt16.toNat_ofNat_of_lt') UInt16.toNat_lt]

theorem readUInt64?_eq_some_iff {low high n : UInt64} {s : String} :
    readUInt64? low high s = some n ↔
      Decimal.Denotes s.toList n.toNat ∧ low ≤ n ∧ n ≤ high := by
  rw [readUInt64?, Option.filter_eq_some_iff, decide_eq_true_eq,
    Decimal.map_unsignedUpTo?_eq_some_iff (fun _ => UInt64.ofNat_toNat)
      (fun _ => UInt64.toNat_ofNat_of_lt') UInt64.toNat_lt]

theorem readBool?_eq_some_iff {s : String} {b : Bool} :
    readBool? s = some b ↔ String.ofList (Text.lowercase s.toList) ∈ boolWords b := by
  rw [readBool?]
  generalize String.ofList (Text.lowercase s.toList) = word
  have apart : word ∈ boolWords true → word ∉ boolWords false := by
    intro yes
    simp only [boolWords, List.mem_cons, List.not_mem_nil, or_false] at yes
    rcases yes with rfl | rfl | rfl | rfl <;> decide
  change (if word ∈ boolWords true then some true else
    if word ∈ boolWords false then some false else none) = some b ↔ _
  by_cases yes : word ∈ boolWords true
  case pos => cases b <;> simp [yes, apart yes]
  case neg =>
    by_cases no : word ∈ boolWords false
    case pos => cases b <;> simp [yes, no]
    case neg => cases b <;> simp [yes, no]

theorem lists_iff {text : String} {names : List String} (ne : names ≠ []) :
    Lists text names ↔
      names = (((Text.split ',' text.toList).map Text.trim).filter (· ≠ [])).map String.ofList := by
  constructor
  · rintro ⟨entries, apart, joined, kept⟩
    have some_ : entries ≠ [] := by
      rintro rfl
      exact ne (List.map_eq_nil_iff.mp kept)
    rw [joined, Text.split_join some_ apart, ← kept, List.map_map]
    exact (List.map_id'' (fun _ => String.ofList_toList) names).symm
  · intro eq
    refine ⟨Text.split ',' text.toList, fun _ => Text.not_mem_of_mem_split,
      (Text.join_split _ _).symm, ?_⟩
    rw [eq, List.map_map]
    exact List.map_id'' (fun _ => String.toList_ofList) _

theorem readTransports?_eq_some_iff {s : String} {names : List String} :
    readTransports? s = some names ↔
      Lists s names ∧ names ≠ [] ∧ ∀ name ∈ names, ∃ kind : TransportKind, name = kind.name := by
  rw [readTransports?]
  have known_iff : ∀ names : List String,
      (names.all fun name => (TransportKind.ofName? name).isSome) ↔
        ∀ name ∈ names, ∃ kind : TransportKind, name = kind.name := fun names => by
    simp only [List.all_eq_true, TransportKind.isSome_ofName?_iff]
  constructor
  · intro read
    split at read
    case isTrue valid =>
      cases read
      exact ⟨(lists_iff valid.1).mpr rfl, valid.1, (known_iff _).mp valid.2⟩
    case isFalse => cases read
  · rintro ⟨lists, ne, known⟩
    rw [← (lists_iff ne).mp lists, if_pos ⟨ne, (known_iff names).mpr known⟩]

namespace Environment

variable (env : Environment) (name : String)

-- A variable that is unset stands for nothing, nor does one that is no value of its kind.

def TextAt (v : String) : Prop :=
  env name = some v ∧ v ≠ ""

def NumberAt (low high n : Nat) : Prop :=
  ∃ text, env name = some text ∧ Decimal.Denotes text.toList n ∧ low ≤ n ∧ n ≤ high

def BoolAt (b : Bool) : Prop :=
  ∃ text, env name = some text ∧ String.ofList (Text.lowercase text.toList) ∈ boolWords b

def TransportsAt (names : List String) : Prop :=
  ∃ text, env name = some text ∧ Lists text names ∧ names ≠ [] ∧
    ∀ name ∈ names, ∃ kind : TransportKind, name = kind.name

variable {env name}

theorem text?_eq_some_iff {v : String} : env.text? name = some v ↔ env.TextAt name v := by
  simp only [text?, Option.bind_eq_some_iff, readText?_eq_some_iff, TextAt]
  constructor
  · rintro ⟨_, set, rfl, filled⟩
    exact ⟨set, filled⟩
  · rintro ⟨set, filled⟩
    exact ⟨v, set, rfl, filled⟩

theorem port?_eq_some_iff {n : UInt16} :
    env.port? name = some n ↔ env.NumberAt name 0 65535 n.toNat := by
  simp only [port?, Option.bind_eq_some_iff, readUInt16?_eq_some_iff, NumberAt,
    UInt16.le_iff_toNat_le]
  rfl

theorem milliseconds?_eq_some_iff {n : UInt64} :
    env.milliseconds? name = some n ↔ env.NumberAt name 1 3600000 n.toNat := by
  simp only [milliseconds?, Option.bind_eq_some_iff, readUInt64?_eq_some_iff, NumberAt,
    UInt64.le_iff_toNat_le]
  rfl

theorem bytes?_eq_some_iff {n : UInt64} :
    env.bytes? name = some n ↔ env.NumberAt name 1 1073741824 n.toNat := by
  simp only [bytes?, Option.bind_eq_some_iff, readUInt64?_eq_some_iff, NumberAt,
    UInt64.le_iff_toNat_le]
  rfl

theorem bool?_eq_some_iff {b : Bool} : env.bool? name = some b ↔ env.BoolAt name b := by
  simp only [bool?, Option.bind_eq_some_iff, readBool?_eq_some_iff, BoolAt]

theorem transports?_eq_some_iff {names : List String} :
    env.transports? name = some names ↔ env.TransportsAt name names := by
  simp only [transports?, Option.bind_eq_some_iff, readTransports?_eq_some_iff, TransportsAt]

end Environment

end Settings

end Duplex
