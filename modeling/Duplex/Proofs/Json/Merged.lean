import Duplex.Proofs.Json.Fields
import Duplex.Settings.Merge

-- One JSON object laid over another, seen through what either says of a key.

namespace Duplex.Json

namespace Members

def keys (members : Members) : List String :=
  members.map Prod.fst

theorem get?_put (members : Members) (key : String) (value : Json) (name : String) :
    get? (put members key value) name = if name = key then some value else get? members name := by
  induction members with
  | nil => rw [put, get?_cons]
  | cons member members ih =>
    obtain ⟨k, v⟩ := member
    rw [put, get?_cons]
    split
    case isTrue same =>
      subst same
      rw [get?_cons]
      split <;> rfl
    case isFalse ne =>
      rw [get?_cons, ih]
      by_cases same : name = k
      case pos => rw [if_pos same, if_neg fun eq => ne (same ▸ eq), if_pos same]
      case neg => rw [if_neg same, if_neg same]

theorem mem_keys_put {members : Members} {key name : String} {value : Json} :
    name ∈ keys (put members key value) ↔ name = key ∨ name ∈ keys members := by
  induction members with
  | nil => simp [put, keys]
  | cons member members ih =>
    obtain ⟨k, v⟩ := member
    rw [put]
    split
    case isTrue same => simp [keys, same]
    case isFalse =>
      change name ∈ k :: keys _ ↔ _ ∨ name ∈ k :: keys _
      rw [List.mem_cons, List.mem_cons, ih, or_left_comm]

theorem nodup_keys_put {members : Members} (nodup : (keys members).Nodup) (key : String)
    (value : Json) : (keys (put members key value)).Nodup := by
  induction members with
  | nil => simp [put, keys]
  | cons member members ih =>
    obtain ⟨k, v⟩ := member
    obtain ⟨fresh, rest⟩ := List.nodup_cons.mp nodup
    rw [put]
    split
    case isTrue => exact nodup
    case isFalse ne =>
      refine List.nodup_cons.mpr ⟨fun mem => ?_, ih rest⟩
      exact (mem_keys_put.mp mem).elim ne fresh

theorem mem_put {members : Members} {key : String} {value : Json} {member : String × Json}
    (mem : member ∈ put members key value) : member.2 = value ∨ member ∈ members := by
  induction members with
  | nil => exact .inl (congrArg Prod.snd (List.mem_singleton.mp mem))
  | cons first rest ih =>
    obtain ⟨k, v⟩ := first
    rw [put] at mem
    split at mem
    case isTrue =>
      cases List.mem_cons.mp mem with
      | inl eq => exact .inl (congrArg Prod.snd eq)
      | inr later => exact .inr (List.mem_cons_of_mem _ later)
    case isFalse =>
      cases List.mem_cons.mp mem with
      | inl eq => exact .inr (eq ▸ List.mem_cons_self)
      | inr later => exact (ih later).imp_right (List.mem_cons_of_mem _)

theorem get?_eq_none {members : Members} {key : String} (fresh : key ∉ keys members) :
    get? members key = none := by
  induction members with
  | nil => rfl
  | cons member members ih =>
    obtain ⟨k, v⟩ := member
    change key ∉ k :: keys members at fresh
    rw [List.mem_cons, not_or] at fresh
    rw [get?_cons, if_neg fresh.1]
    exact ih fresh.2

theorem mem_of_get? {members : Members} {key : String} {value : Json}
    (found : get? members key = some value) : (key, value) ∈ members := by
  induction members with
  | nil => cases found
  | cons member members ih =>
    obtain ⟨k, v⟩ := member
    rw [get?_cons] at found
    split at found
    case isTrue same =>
      cases found
      exact same ▸ List.mem_cons_self
    case isFalse => exact List.mem_cons_of_mem _ (ih found)

end Members

-- What an object says of a key. A null says nothing.
def given? (json : Json) (key : String) : Option Json :=
  match json with
  | object members => (Members.get? members key).filter fun value => !value.isNull
  | _ => none

-- A part of an object that may be left out.
def part (json : Json) (key : String) : Json :=
  (json.given? key).getD (object [])

theorem given?_cons_self (key : String) (value : Json) (members : Members) :
    (object ((key, value) :: members)).given? key = if value.isNull then none else some value := by
  cases null : value.isNull <;> simp [given?, Members.get?_cons, null]

theorem given?_cons_of_ne {key name : String} (ne : name ≠ key) (value : Json) (members : Members) :
    (object ((key, value) :: members)).given? name = (object members).given? name := by
  rw [given?, Members.get?_cons, if_neg ne]
  rfl

theorem given?_eq_none {members : Members} {key : String} (fresh : key ∉ Members.keys members) :
    (object members).given? key = none := by
  rw [given?, Members.get?_eq_none fresh, Option.filter_none]

theorem merge_of_not_object {target : Json} (leaf : ∀ members, target ≠ object members)
    (change : Json) : merge target change = change := by
  rw [merge]
  exact fun members _ eq _ => leaf members eq

-- What becomes of a key: what was there, what the upper object says of it, or the one merged into
-- the other.
theorem get?_mergeMembers_eq {changes : Members} (nodup : (Members.keys changes).Nodup)
    (members : Members) (key : String) :
    Members.get? (mergeMembers members changes) key =
      ((object changes).given? key).elim (Members.get? members key) fun change =>
        some ((Members.get? members key).elim change (merge · change)) := by
  induction changes generalizing members with
  | nil => rw [mergeMembers, given?, Members.get?_nil, Option.filter_none, Option.elim_none]
  | cons change changes ih =>
    obtain ⟨k, value⟩ := change
    obtain ⟨fresh, rest⟩ := List.nodup_cons.mp nodup
    rw [mergeMembers]
    by_cases same : key = k
    case pos =>
      subst same
      rw [given?_cons_self]
      split
      case isTrue => rw [ih rest, given?_eq_none fresh, Option.elim_none]
      case isFalse =>
        rw [ih rest, given?_eq_none fresh, Option.elim_none, Option.elim_some, Members.get?_put,
          if_pos rfl]
        cases Members.get? members key <;> rfl
    case neg =>
      rw [given?_cons_of_ne same]
      split
      case isTrue => exact ih rest members
      case isFalse => rw [ih rest, Members.get?_put, if_neg same]

-- A key of the lower object has what the upper one says of it, merged into what was there.
theorem get?_mergeMembers {changes : Members} (nodup : (Members.keys changes).Nodup)
    {members : Members} {key : String} {target : Json}
    (there : Members.get? members key = some target) :
    Members.get? (mergeMembers members changes) key =
      some (((object changes).given? key).elim target (merge target)) := by
  rw [get?_mergeMembers_eq nodup, there]
  cases (object changes).given? key <;> rfl

-- Objects in which every key occurs once. A value that was read consists of such objects.

def IsTable (json : Json) : Prop :=
  ∃ members, json = object members ∧ (Members.keys members).Nodup

theorem IsTable.empty : (object []).IsTable :=
  ⟨[], rfl, List.nodup_nil⟩

theorem distinctMembers_of_put {P : Members → Prop}
    (put : ∀ found key (value : Json), P found → P (Members.put found key value.distinct))
    {found : Members} (h : P found) (members : Members) : P (distinctMembers found members) := by
  induction members generalizing found with
  | nil => simpa [distinctMembers] using h
  | cons member members ih =>
    obtain ⟨key, value⟩ := member
    rw [distinctMembers]
    exact ih (put found key value h)

theorem nodup_keys_distinctMembers (members : Members) :
    (Members.keys (distinctMembers [] members)).Nodup := by
  have start : (Members.keys []).Nodup := List.nodup_nil
  exact distinctMembers_of_put (P := fun found => (Members.keys found).Nodup)
    (fun _ key value nodup => Members.nodup_keys_put nodup key value.distinct) start members

theorem mem_distinctMembers {members : Members} {member : String × Json}
    (mem : member ∈ distinctMembers [] members) : ∃ value : Json, member.2 = value.distinct := by
  refine distinctMembers_of_put (P := fun found => ∀ m ∈ found, ∃ v : Json, m.2 = v.distinct)
    (fun found key value all m mem => ?_) (List.forall_mem_nil _) members member mem
  cases Members.mem_put mem with
  | inl new => exact ⟨value, new⟩
  | inr old => exact all m old

theorem isTable_of_distinct {json : Json} {members : Members}
    (eq : json.distinct = object members) : (object members).IsTable := by
  cases json with
  | object found =>
    rw [distinct] at eq
    cases eq
    exact ⟨_, rfl, nodup_keys_distinctMembers found⟩
  | _ => simp [distinct] at eq

theorem exists_distinct_of_given? {json value : Json} {key : String}
    (given : json.distinct.given? key = some value) : ∃ v : Json, value = v.distinct := by
  cases json with
  | object found =>
    rw [distinct, given?, Option.filter_eq_some_iff] at given
    exact mem_distinctMembers (Members.mem_of_get? given.1)
  | _ => simp [distinct, given?] at given

theorem isTable_part {json : Json} {key : String}
    (object_ : ∀ value, json.distinct.given? key = some value → ∃ changes, value = object changes) :
    (json.distinct.part key).IsTable := by
  rw [part]
  cases given : json.distinct.given? key with
  | none => exact .empty
  | some value =>
    obtain ⟨changes, rfl⟩ := object_ value given
    obtain ⟨v, eq⟩ := exists_distinct_of_given? given
    exact isTable_of_distinct eq.symm

section

variable {members changes : Members}

theorem field?_merge (nodup : (Members.keys changes).Nodup) {name : String} {index : Nat}
    {value : Json} (there : (object members).field? name index = some value) :
    (merge (object members) (object changes)).field? name index =
      some (((object changes).given? name).elim value (merge value)) := by
  rw [merge, field?]
  exact get?_mergeMembers nodup there

theorem fieldOr_merge_part {α : Type} {read : Json → Option α}
    (nodup : (Members.keys changes).Nodup) {name : String} {index : Nat} {inner : Members}
    (there : (object members).field? name index = some (object inner)) (default : α) :
    (merge (object members) (object changes)).fieldOr name index default read =
      read (merge (object inner) ((object changes).part name)) := by
  rw [fieldOr, field?_merge nodup there, part]
  cases (object changes).given? name with
  | none => rfl
  | some change => rfl

end

-- A field of the upper object, or else the value below it.
def over? {α : Type} (json : Json) (key : String) (read : Json → Option α) (below : α) : Option α :=
  (json.given? key).elim (some below) read

def laid {α : Type} (json : Json) (key : String) (read : Json → Option α) (below : α) : α :=
  ((json.given? key).bind read).getD below

-- A key that is left out, or whose value is one of those that are written.
def Suits {α : Type} (json : Json) (key : String) (write : α → Json) : Prop :=
  ∀ value, json.given? key = some value → ∃ v, value = write v

-- How the values of a type are read and written as a field. They are read back from nothing else,
-- and what takes their place takes all of it.
structure Field {α : Type} (read : Json → Option α) (write : α → Json) : Prop where
  read_eq_some_iff {json : Json} {v : α} : read json = some v ↔ json = write v
  not_object (v : α) (members : Members) : write v ≠ object members

namespace Field

variable {α : Type} {read : Json → Option α} {write : α → Json} (f : Field read write)

include f

theorem fieldOr_merge {members changes : Members} (nodup : (Members.keys changes).Nodup)
    {name : String} {index : Nat} {v : α}
    (there : (object members).field? name index = some (write v)) (default : α) :
    (merge (object members) (object changes)).fieldOr name index default read =
      (object changes).over? name read v := by
  rw [fieldOr, field?_merge nodup there, over?]
  cases (object changes).given? name with
  | none => exact f.read_eq_some_iff.mpr rfl
  | some change => exact congrArg read (merge_of_not_object (f.not_object v) change)

theorem bind_eq_some_iff {o : Option Json} {v : α} : o.bind read = some v ↔ o = some (write v) := by
  rw [Option.bind_eq_some_iff]
  constructor
  · rintro ⟨value, rfl, reads⟩
    rw [f.read_eq_some_iff.mp reads]
  · rintro rfl
    exact ⟨_, rfl, f.read_eq_some_iff.mpr rfl⟩

theorem over?_of_suits {json : Json} {key : String} (suits : json.Suits key write) (below : α) :
    json.over? key read below = some (json.laid key read below) := by
  rw [over?, laid]
  cases given : json.given? key with
  | none => rfl
  | some value =>
    obtain ⟨v, eq⟩ := suits value given
    have reads := f.read_eq_some_iff.mpr eq
    rw [Option.elim_some, Option.bind_some, reads, Option.getD_some]

theorem suits_of_over? {json : Json} {key : String} {below v : α}
    (reads : json.over? key read below = some v) : json.Suits key write := by
  intro value given
  rw [over?, given, Option.elim_some] at reads
  exact ⟨v, f.read_eq_some_iff.mp reads⟩

end Field

namespace Field

theorem text : Field asString? string :=
  ⟨asString?_eq_some_iff, by simp⟩

theorem bool : Field asBool? .bool :=
  ⟨asBool?_eq_some_iff, by simp⟩

theorem word16 : Field asUInt16? ofUInt16 :=
  ⟨asUInt16?_eq_some_iff, by simp [ofUInt16, ofNat]⟩

theorem word32 : Field asUInt32? ofUInt32 :=
  ⟨asUInt32?_eq_some_iff, by simp [ofUInt32, ofNat]⟩

theorem word64 : Field asUInt64? ofUInt64 :=
  ⟨asUInt64?_eq_some_iff, by simp [ofUInt64, ofNat]⟩

theorem texts : Field asStrings? ofStrings :=
  ⟨asStrings?_eq_some_iff, by simp [ofStrings]⟩

end Field

end Duplex.Json
