import Duplex.Json.Basic

-- The fields of a record: how they are found, and that nothing is read but what is written of a
-- value.

namespace Duplex.Json

theorem Members.get?_nil (name : String) : get? [] name = none :=
  rfl

theorem Members.get?_cons (key : String) (value : Json) (members : Members) (name : String) :
    get? ((key, value) :: members) name = if name = key then some value else get? members name := by
  rw [get?, List.lookup_cons]
  by_cases same : name = key
  case pos => simp [same]
  case neg => rw [beq_false_of_ne same, if_neg same, get?]

theorem asString?_eq_some_iff {json : Json} {s : String} :
    json.asString? = some s ↔ json = string s := by
  cases json <;> simp [asString?]

theorem asBool?_eq_some_iff {json : Json} {b : Bool} : json.asBool? = some b ↔ json = bool b := by
  cases json <;> simp [asBool?]

theorem asNatBelow?_eq_some_iff {bound n : Nat} {json : Json} :
    json.asNatBelow? bound = some n ↔ json = ofNat n ∧ n < bound := by
  constructor
  · intro read
    rw [asNatBelow?.eq_def] at read
    split at read
    case h_1 k =>
      split at read
      case isTrue small =>
        cases read
        rw [ofNat, Int.toNat_of_nonneg small.1]
        exact ⟨rfl, by omega⟩
      case isFalse => cases read
    case h_2 => cases read
  · rintro ⟨rfl, small⟩
    have inside : 0 ≤ (n : Int) ∧ (n : Int) < bound := by omega
    rw [ofNat, asNatBelow?, if_pos inside, Int.toNat_natCast]

section

variable {α : Type} {bound : Nat} {toNat : α → Nat} {of : Nat → α}

-- Natural numbers of some width.
theorem map_asNatBelow?_eq_some_iff (of_toNat : ∀ v, of (toNat v) = v)
    (toNat_of : ∀ n < bound, toNat (of n) = n) (lt : ∀ v, toNat v < bound) {json : Json} {v : α} :
    (json.asNatBelow? bound).map of = some v ↔ json = ofNat (toNat v) := by
  rw [Option.map_eq_some_iff]
  simp only [asNatBelow?_eq_some_iff]
  constructor
  · rintro ⟨n, ⟨rfl, small⟩, rfl⟩
    rw [toNat_of n small]
  · rintro rfl
    exact ⟨toNat v, ⟨rfl, lt v⟩, of_toNat v⟩

end

def ofUInt16 (n : UInt16) : Json :=
  ofNat n.toNat

def ofUInt32 (n : UInt32) : Json :=
  ofNat n.toNat

def ofUInt64 (n : UInt64) : Json :=
  ofNat n.toNat

theorem asUInt16?_eq_some_iff {json : Json} {n : UInt16} :
    json.asUInt16? = some n ↔ json = ofUInt16 n :=
  map_asNatBelow?_eq_some_iff (fun _ => UInt16.ofNat_toNat)
    (fun _ => UInt16.toNat_ofNat_of_lt') UInt16.toNat_lt

theorem asUInt32?_eq_some_iff {json : Json} {n : UInt32} :
    json.asUInt32? = some n ↔ json = ofUInt32 n :=
  map_asNatBelow?_eq_some_iff (fun _ => UInt32.ofNat_toNat)
    (fun _ => UInt32.toNat_ofNat_of_lt') UInt32.toNat_lt

theorem asUInt64?_eq_some_iff {json : Json} {n : UInt64} :
    json.asUInt64? = some n ↔ json = ofUInt64 n :=
  map_asNatBelow?_eq_some_iff (fun _ => UInt64.ofNat_toNat)
    (fun _ => UInt64.toNat_ofNat_of_lt') UInt64.toNat_lt

theorem mapM_asString?_eq_some_iff {items : List Json} {ss : List String} :
    items.mapM asString? = some ss ↔ items = ss.map string := by
  induction items generalizing ss with
  | nil => simp [eq_comm]
  | cons item items ih =>
    cases ss with
    | nil => simp [Option.bind_eq_some_iff]
    | cons s ss => simp [Option.bind_eq_some_iff, asString?_eq_some_iff, ih]

theorem asStrings?_eq_some_iff {json : Json} {ss : List String} :
    json.asStrings? = some ss ↔ json = ofStrings ss := by
  rw [asStrings?, Option.bind_eq_some_iff]
  simp only [mapM_asString?_eq_some_iff]
  cases json <;> simp [asArray?, ofStrings, eq_comm]

end Duplex.Json
