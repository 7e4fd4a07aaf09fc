import Duplex.Proofs.Json.Merged

-- What lies at the end of a path of keys, when one object is laid over another.

namespace Duplex.Json

def isObject : Json → Bool
  | object _ => true
  | _ => false

-- The value to which keys lead from object to object.
def at? : Json → List String → Option Json
  | json, [] => some json
  | object members, key :: path => (Members.get? members key).bind (at? · path)
  | _, _ :: _ => none

-- A value settles what a path leads to: by a value there, or by one before it from which no key
-- leads on. A null settles nothing.
def Settles (json : Json) (path : List String) : Prop :=
  (∃ value, json.at? path = some value ∧ value.isNull = false) ∨
    ∃ front value, front <+: path ∧ front ≠ path ∧ json.at? front = some value ∧
      value.isNull = false ∧ value.isObject = false

-- No object has a key twice, nor has any object inside it. What lies in an array does not count,
-- for an array is replaced as a whole.
inductive DistinctKeys : Json → Prop
  | leaf {json : Json} (leaf : json.isObject = false) : DistinctKeys json
  | object {members : Members} (nodup : (Members.keys members).Nodup)
    (values : ∀ key value, Members.get? members key = some value → DistinctKeys value) :
    DistinctKeys (object members)

theorem eq_object_of_isObject {json : Json} (is : json.isObject) : ∃ members, json = object members := by
  cases json with
  | object members => exact ⟨members, rfl⟩
  | _ => cases is

theorem given?_eq_some_iff {members : Members} {key : String} {value : Json} :
    (object members).given? key = some value ↔
      Members.get? members key = some value ∧ value.isNull = false := by
  simp [given?, Option.filter_eq_some_iff]

section

variable {json value : Json} {path : List String}

theorem at?_nil (json : Json) : json.at? [] = some json := by
  cases json <;> rfl

theorem at?_cons (members : Members) (key : String) (path : List String) :
    (object members).at? (key :: path) = (Members.get? members key).bind (at? · path) :=
  rfl

theorem exists_of_at?_cons {key : String} (found : json.at? (key :: path) = some value) :
    ∃ members child, json = object members ∧ Members.get? members key = some child ∧
      child.at? path = some value := by
  cases json with
  | object members =>
    obtain ⟨child, there, rest⟩ := Option.bind_eq_some_iff.mp found
    exact ⟨members, child, rfl, there, rest⟩
  | _ => cases found

-- From a null no key leads on.
theorem isNull_eq_false_of_at? (found : json.at? path = some value) (filled : value.isNull = false) :
    json.isNull = false := by
  cases path with
  | nil =>
    rw [at?_nil] at found
    cases found
    exact filled
  | cons =>
    obtain ⟨members, _, rfl, _⟩ := exists_of_at?_cons found
    rfl

theorem settles_of_leaf (filled : json.isNull = false) (leaf : json.isObject = false) (path : List String) :
    json.Settles path := by
  cases path with
  | nil => exact .inl ⟨json, at?_nil json, filled⟩
  | cons key path => exact .inr ⟨[], json, List.nil_prefix, nofun, at?_nil json, filled, leaf⟩

theorem not_settles_null (path : List String) : ¬null.Settles path := by
  rintro (⟨value, found, filled⟩ | ⟨front, value, _, _, found, filled, _⟩)
  all_goals exact absurd (isNull_eq_false_of_at? found filled) nofun

theorem settles_cons_iff {members : Members} {key : String} :
    (object members).Settles (key :: path) ↔
      ∃ child, Members.get? members key = some child ∧ child.Settles path := by
  constructor
  · rintro (⟨value, found, filled⟩ | ⟨front, value, before, ne, found, filled, leaf⟩)
    · obtain ⟨child, there, rest⟩ := Option.bind_eq_some_iff.mp found
      exact ⟨child, there, .inl ⟨value, rest, filled⟩⟩
    · cases front with
      | nil =>
        cases found
        cases leaf
      | cons key' front =>
        obtain ⟨rfl, below⟩ := List.cons_prefix_cons.mp before
        obtain ⟨child, there, rest⟩ := Option.bind_eq_some_iff.mp found
        exact ⟨child, there,
          .inr ⟨front, value, below, fun eq => ne (congrArg _ eq), rest, filled, leaf⟩⟩
  · rintro ⟨child, there, settles⟩
    have leads (front : List String) : (object members).at? (key :: front) = child.at? front := by
      rw [at?_cons, there, Option.bind_some]
    obtain ⟨value, found, filled⟩ | ⟨front, value, before, ne, found, rest⟩ := settles
    · exact .inl ⟨value, (leads path).trans found, filled⟩
    · exact .inr ⟨key :: front, value, List.cons_prefix_cons.mpr ⟨rfl, before⟩,
        fun eq => ne (List.cons.inj eq).2, (leads front).trans found, rest⟩

end

namespace DistinctKeys

variable {members : Members}

theorem nodup (distinct : (Json.object members).DistinctKeys) : (Members.keys members).Nodup := by
  cases distinct with
  | leaf leaf => cases leaf
  | object nodup => exact nodup

theorem value {key : String} {value : Json} (distinct : (Json.object members).DistinctKeys)
    (there : Members.get? members key = some value) : value.DistinctKeys := by
  cases distinct with
  | leaf leaf => cases leaf
  | object _ values => exact values key value there

theorem empty : (Json.object []).DistinctKeys :=
  .object List.nodup_nil nofun

theorem cons {key : String} {value : Json} (fresh : key ∉ Members.keys members)
    (first : value.DistinctKeys) (rest : (Json.object members).DistinctKeys) :
    (Json.object ((key, value) :: members)).DistinctKeys := by
  refine .object (List.nodup_cons.mpr ⟨fresh, rest.nodup⟩) fun name v there => ?_
  rw [Members.get?_cons] at there
  split at there
  · cases there
    exact first
  · exact rest.value there

end DistinctKeys

-- What was read of a text is of this kind.

mutual

theorem distinctKeys_distinct (json : Json) : json.distinct.DistinctKeys := by
  cases json with
  | object members =>
    rw [distinct]
    refine .object (nodup_keys_distinctMembers members) fun key value there => ?_
    exact distinctKeys_distinctMembers members (List.forall_mem_nil _) _ (Members.mem_of_get? there)
  | null | bool | number | string | array | unreadable => exact .leaf (by simp [distinct, isObject])

theorem distinctKeys_distinctMembers {found : Members} (members : Members)
    (all : ∀ member ∈ found, member.2.DistinctKeys) :
    ∀ member ∈ distinctMembers found members, member.2.DistinctKeys := by
  cases members with
  | nil => rwa [distinctMembers]
  | cons first members =>
    obtain ⟨key, value⟩ := first
    rw [distinctMembers]
    refine distinctKeys_distinctMembers members fun member mem => ?_
    cases Members.mem_put mem with
    | inl new => exact new ▸ distinctKeys_distinct value
    | inr old => exact all member old

end

theorem merge_of_leaf (target : Json) {source : Json} (leaf : source.isObject = false) :
    target.merge source = source := by
  rw [merge]
  rintro _ changes - rfl
  cases leaf

theorem merge_onto_leaf {target : Json} (leaf : target.isObject = false) (source : Json) :
    target.merge source = source := by
  refine merge_of_not_object ?_ source
  rintro members rfl
  cases leaf

section

variable {target source value : Json} {path : List String}

-- A value stays where it is if the source does not settle what its path leads to.
theorem at?_merge_of_target (distinct : source.DistinctKeys) (filled : source.isNull = false)
    (found : target.at? path = some value) (open_ : ¬source.Settles path) :
    (target.merge source).at? path = some value := by
  induction path generalizing target source with
  | nil => exact absurd (.inl ⟨source, at?_nil source, filled⟩) open_
  | cons key path ih =>
    obtain ⟨members, child, rfl, there, rest⟩ := exists_of_at?_cons found
    cases is : source.isObject with
    | false => exact absurd (settles_of_leaf filled is _) open_
    | true =>
      obtain ⟨changes, rfl⟩ := eq_object_of_isObject is
      rw [merge, at?_cons, get?_mergeMembers_eq distinct.nodup, there]
      cases given : (object changes).given? key with
      | none => exact rest
      | some change =>
        obtain ⟨there', filled'⟩ := given?_eq_some_iff.mp given
        exact ih (distinct.value there') filled' rest fun settles =>
          open_ (settles_cons_iff.mpr ⟨change, there', settles⟩)

-- A leaf, which is a value that is no object, is laid over whatever is there.
theorem at?_merge_of_source (distinct : source.DistinctKeys) (found : source.at? path = some value)
    (leaf : value.isObject = false) (filled : value.isNull = false) :
    (target.merge source).at? path = some value := by
  induction path generalizing target source with
  | nil =>
    rw [at?_nil] at found
    cases found
    rw [merge_of_leaf target leaf, at?_nil]
  | cons key path ih =>
    obtain ⟨changes, change, rfl, there, rest⟩ := exists_of_at?_cons found
    cases is : target.isObject with
    | false => rwa [merge_onto_leaf is]
    | true =>
      obtain ⟨members, rfl⟩ := eq_object_of_isObject is
      have given := given?_eq_some_iff.mpr ⟨there, isNull_eq_false_of_at? rest filled⟩
      rw [merge, at?_cons, get?_mergeMembers_eq distinct.nodup, given]
      cases Members.get? members key with
      | none => exact rest
      | some child => exact ih (distinct.value there) rest

-- Every leaf comes from one of the two, by the same path.
theorem of_at?_merge (distinct : source.DistinctKeys)
    (found : (target.merge source).at? path = some value) (leaf : value.isObject = false) :
    target.at? path = some value ∨ source.at? path = some value := by
  induction path generalizing target source with
  | nil =>
    rw [at?_nil] at found
    cases found
    cases is : source.isObject with
    | false => exact .inr (by rw [merge_of_leaf target is, at?_nil])
    | true =>
      cases is' : target.isObject with
      | false => exact .inr (by rw [merge_onto_leaf is', at?_nil])
      | true =>
        obtain ⟨changes, rfl⟩ := eq_object_of_isObject is
        obtain ⟨members, rfl⟩ := eq_object_of_isObject is'
        rw [merge] at leaf
        cases leaf
  | cons key path ih =>
    cases is : source.isObject with
    | false =>
      rw [merge_of_leaf target is] at found
      exact .inr found
    | true =>
      obtain ⟨changes, rfl⟩ := eq_object_of_isObject is
      cases is' : target.isObject with
      | false =>
        rw [merge_onto_leaf is'] at found
        exact .inr found
      | true =>
        obtain ⟨members, rfl⟩ := eq_object_of_isObject is'
        rw [merge, at?_cons, get?_mergeMembers_eq distinct.nodup] at found
        rw [at?_cons, at?_cons]
        cases given : (object changes).given? key with
        | none =>
          rw [given] at found
          exact .inl found
        | some change =>
          obtain ⟨there, _⟩ := given?_eq_some_iff.mp given
          rw [there]
          rw [given] at found
          cases below : Members.get? members key with
          | none =>
            rw [below] at found
            exact .inr found
          | some child =>
            rw [below] at found
            exact ih (distinct.value there) found

end

-- Merging once more.

theorem Members.put_of_get? {members : Members} {key : String} {value : Json}
    (there : get? members key = some value) : put members key value = members := by
  induction members with
  | nil => cases there
  | cons member members ih =>
    obtain ⟨k, v⟩ := member
    rw [get?_cons] at there
    rw [put]
    by_cases same : k = key
    case pos =>
      rw [if_pos same.symm] at there
      cases there
      rw [if_pos same]
    case neg =>
      rw [if_neg (Ne.symm same)] at there
      rw [if_neg same, ih there]

theorem Members.get?_of_mem {members : Members} (nodup : (keys members).Nodup) {key : String}
    {value : Json} (mem : (key, value) ∈ members) : get? members key = some value := by
  induction members with
  | nil => cases mem
  | cons member members ih =>
    obtain ⟨fresh, rest⟩ := List.nodup_cons.mp nodup
    rw [get?_cons]
    obtain rfl | later := List.mem_cons.mp mem
    · exact if_pos rfl
    · have other : key ≠ member.1 := fun same => fresh (same ▸ List.mem_map_of_mem later)
      rw [if_neg other, ih rest later]

-- Changes that are there already change nothing.
theorem mergeMembers_of_absorbed {members changes : Members}
    (absorbed : ∀ key change, (key, change) ∈ changes → change.isNull = false →
      ∃ value, Members.get? members key = some value ∧ value.merge change = value) :
    mergeMembers members changes = members := by
  induction changes with
  | nil => rw [mergeMembers]
  | cons first changes ih =>
    obtain ⟨key, change⟩ := first
    have rest := ih fun key change mem => absorbed key change (List.mem_cons_of_mem _ mem)
    rw [mergeMembers]
    split
    case isTrue => exact rest
    case isFalse filled =>
      obtain ⟨value, there, same⟩ :=
        absorbed key change List.mem_cons_self (Bool.eq_false_iff.mpr filled)
      simp only [there, same, Members.put_of_get? there]
      exact rest

theorem merge_merge_self {source : Json} (distinct : source.DistinctKeys) (target : Json) :
    (target.merge source).merge source = target.merge source := by
  induction distinct generalizing target with
  | leaf leaf => rw [merge_of_leaf _ leaf, merge_of_leaf _ leaf]
  | @object changes nodup values ih =>
    have onto (key : String) (change : Json) (mem : (key, change) ∈ changes) (target : Json) :
        (target.merge change).merge change = target.merge change :=
      ih key change (Members.get?_of_mem nodup mem) target
    -- Onto anything but an object a change comes as it is.
    have itself (key : String) (change : Json) (mem : (key, change) ∈ changes) :
        change.merge change = change := by
      have plain : null.merge change = change := merge_onto_leaf rfl change
      have again := onto key change mem null
      rwa [plain] at again
    cases is : target.isObject with
    | false =>
      rw [merge_onto_leaf is, merge, mergeMembers_of_absorbed]
      intro key change mem _
      exact ⟨change, Members.get?_of_mem nodup mem, itself key change mem⟩
    | true =>
      obtain ⟨members, rfl⟩ := eq_object_of_isObject is
      rw [merge, merge, mergeMembers_of_absorbed]
      intro key change mem filled
      have given := given?_eq_some_iff.mpr ⟨Members.get?_of_mem nodup mem, filled⟩
      refine ⟨_, (get?_mergeMembers_eq nodup members key).trans (by rw [given]; rfl), ?_⟩
      cases Members.get? members key with
      | none => exact itself key change mem
      | some child => exact onto key change mem child

-- Laid over one another, objects keep what the upper one does not settle and take its leaves, and
-- every leaf is from one of them by the same path. A second time nothing changes.
theorem merge_lays_leaves (members : Members) {changes : Members}
    (distinct : (object changes).DistinctKeys) :
    let target := object members
    let source := object changes
    let merged := target.merge source
    (∀ path value, target.at? path = some value → ¬source.Settles path →
      merged.at? path = some value) ∧
      (∀ path value, source.at? path = some value → value.isObject = false → value.isNull = false →
        merged.at? path = some value) ∧
      (∀ path value, merged.at? path = some value → value.isObject = false →
        target.at? path = some value ∨ source.at? path = some value) ∧
      merged.merge source = merged :=
  ⟨fun _ _ => at?_merge_of_target distinct rfl, fun _ _ => at?_merge_of_source distinct,
    fun _ _ => of_at?_merge distinct, merge_merge_self distinct _⟩

-- A null beside an object that is new, and a number in the place of an array.

def lower : Members :=
  [("server", object [("host", string "a"), ("port", ofNat 3000)]), ("tags", array [string "x"])]

def upper : Members :=
  [("server", object [("port", null), ("limits", object [("rate", null)])]), ("tags", ofNat 5)]

theorem distinctKeys_upper : (object upper).DistinctKeys :=
  have limits : (object [("rate", null)]).DistinctKeys := .cons (by decide) (.leaf rfl) .empty
  have server : (object [("port", null), ("limits", object [("rate", null)])]).DistinctKeys :=
    .cons (by decide) (.leaf rfl) (.cons (by decide) limits .empty)
  .cons (by decide) server (.cons (by decide) (.leaf rfl) .empty)

theorem not_settles_upper : ¬(object upper).Settles ["server", "port"] := by
  intro settles
  obtain ⟨server, there, settles⟩ := settles_cons_iff.mp settles
  cases there
  obtain ⟨port, there, settles⟩ := settles_cons_iff.mp settles
  cases there
  exact not_settles_null [] settles

theorem merge_lays_leaves_upper :
    (object upper).DistinctKeys ∧
      ((object lower).merge (object upper)).at? ["server", "port"] = some (ofNat 3000) ∧
      ((object lower).merge (object upper)).at? ["tags"] = some (ofNat 5) ∧
      ((object lower).at? ["server", "limits", "rate"] = some null ∨
        (object upper).at? ["server", "limits", "rate"] = some null) ∧
      ((object lower).merge (object upper)).merge (object upper) =
        (object lower).merge (object upper) := by
  obtain ⟨keeps, takes, comes, again⟩ := merge_lays_leaves lower distinctKeys_upper
  exact ⟨distinctKeys_upper, keeps _ _ rfl not_settles_upper, takes _ _ rfl rfl rfl,
    comes _ _ (by rfl) rfl, again⟩

end Duplex.Json
