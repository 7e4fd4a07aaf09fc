-- Records in a text, set apart by a character.

namespace Duplex.Text

-- The records of a text. A text without the separator is one record, the empty text an empty one.
def split (separator : Char) : List Char → List (List Char)
  | [] => [[]]
  | c :: cs =>
    if c = separator then [] :: split separator cs
    else
      match split separator cs with
      | [] => [[c]]
      | record :: records => (c :: record) :: records

def join (separator : Char) : List (List Char) → List Char
  | [] => []
  | [record] => record
  | record :: records => record ++ separator :: join separator records

theorem split_ne_nil (separator : Char) (cs : List Char) : split separator cs ≠ [] := by
  cases cs with
  | nil => simp [split]
  | cons c cs =>
    simp only [split]
    split
    · simp
    · split <;> simp

theorem join_split (separator : Char) (cs : List Char) :
    join separator (split separator cs) = cs := by
  induction cs with
  | nil => rfl
  | cons c cs ih =>
    simp only [split]
    split
    · next h =>
      subst h
      cases hs : split c cs with
      | nil => exact absurd hs (split_ne_nil c cs)
      | cons r rs => rw [hs] at ih; simp [join, ih]
    · cases hs : split separator cs with
      | nil => exact absurd hs (split_ne_nil separator cs)
      | cons r rs =>
        rw [hs] at ih
        cases rs with
        | nil => simp_all [join]
        | cons r' rs => simp_all [join]

theorem not_mem_of_mem_split {separator : Char} {cs record : List Char}
    (h : record ∈ split separator cs) : separator ∉ record := by
  induction cs generalizing record with
  | nil => simp [List.mem_singleton.mp h]
  | cons c cs ih =>
    simp only [split] at h
    split at h
    · rcases List.mem_cons.mp h with eq | later
      · simp [eq]
      · exact ih later
    · next ne =>
      split at h
      · next none_ => exact absurd none_ (split_ne_nil separator cs)
      · next first rest cut =>
        rcases List.mem_cons.mp h with eq | later
        · simpa [eq, Ne.symm ne] using ih (cut ▸ List.mem_cons_self)
        · exact ih (cut ▸ List.mem_cons_of_mem _ later)

theorem split_of_not_mem {separator : Char} {cs : List Char} (h : separator ∉ cs) :
    split separator cs = [cs] := by
  induction cs with
  | nil => rfl
  | cons c cs ih =>
    simp only [List.mem_cons, not_or] at h
    simp [split, ih h.2, Ne.symm h.1]

theorem split_append_separator {separator : Char} {cs : List Char} (ds : List Char)
    (h : separator ∉ cs) : split separator (cs ++ separator :: ds) = cs :: split separator ds := by
  induction cs with
  | nil => simp [split]
  | cons c cs ih =>
    simp only [List.mem_cons, not_or] at h
    simp [split, ih h.2, Ne.symm h.1]

theorem split_join {separator : Char} {records : List (List Char)} (ne : records ≠ [])
    (h : ∀ record ∈ records, separator ∉ record) :
    split separator (join separator records) = records := by
  induction records with
  | nil => exact absurd rfl ne
  | cons r rs ih =>
    cases rs with
    | nil => simpa [join] using split_of_not_mem (h r (by simp))
    | cons r' rs =>
      have rest : ∀ record ∈ r' :: rs, separator ∉ record := fun x hx => h x (by simp_all)
      rw [join, split_append_separator _ (h r (by simp)), ih (by simp) rest]
      simp

-- The text before the first separator and the text after it.
def cut? (separator : Char) : List Char → Option (List Char × List Char)
  | [] => none
  | c :: cs =>
    if c = separator then some ([], cs)
    else (cut? separator cs).map fun (before, after) => (c :: before, after)

theorem cut?_append_separator {separator : Char} {cs : List Char} (ds : List Char)
    (h : separator ∉ cs) : cut? separator (cs ++ separator :: ds) = some (cs, ds) := by
  induction cs with
  | nil => simp [cut?]
  | cons c cs ih =>
    simp only [List.mem_cons, not_or] at h
    simp [cut?, ih h.2, Ne.symm h.1]

theorem cut?_eq_some {separator : Char} {cs before after : List Char}
    (h : cut? separator cs = some (before, after)) :
    cs = before ++ separator :: after ∧ separator ∉ before := by
  fun_induction cut? separator cs generalizing before after with
  | case1 => simp at h
  | case2 cs => simp_all
  | case3 c cs hc ih =>
    obtain ⟨⟨b, a⟩, hb, he⟩ := Option.map_eq_some_iff.1 h
    obtain ⟨rfl, rfl⟩ : c :: b = before ∧ a = after := by simpa using he
    obtain ⟨rfl, hn⟩ := ih hb
    exact ⟨rfl, by simp [hn, Ne.symm hc]⟩

theorem cut?_of_not_mem {separator : Char} {cs : List Char} (h : separator ∉ cs) :
    cut? separator cs = none := by
  induction cs with
  | nil => rfl
  | cons c cs ih =>
    simp only [List.mem_cons, not_or] at h
    simp [cut?, ih h.2, Ne.symm h.1]

theorem not_mem_of_cut? {separator : Char} {cs : List Char} (h : cut? separator cs = none) :
    separator ∉ cs := by
  induction cs with
  | nil => simp
  | cons c cs ih =>
    simp only [cut?] at h
    split at h
    · simp at h
    · next ne =>
      have later := ih (Option.map_eq_none_iff.mp h)
      simpa [Ne.symm ne] using later

end Duplex.Text
