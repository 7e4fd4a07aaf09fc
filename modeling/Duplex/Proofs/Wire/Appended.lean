import Mathlib
import Duplex.Proofs.Wire.Batch

-- Batches set one behind the other. Both revisions read a body record by record, and a record
-- does not see what stands behind it. So a body that is accepted can be followed by any text: the
-- packets come first, and what is wrong with the text is wrong with the whole.

namespace Duplex.Batch

-- What stands between a body and the next: revision 3 sets its records side by side.
def glue : Revision → List Char
  | .v4 => [separator]
  | .v3 => []

-- The packet of the first record of a text, and the text behind that record if there is any. The
-- error is what is wrong with this record.
def readRecord : Revision → List Char → Except DecodeError (Packet × Option (List Char))
  | .v4, cs =>
    match Text.cut? separator cs with
    | none => (Frame.decodeText .v4 cs).map (·, none)
    | some (record, rest) => (Frame.decodeText .v4 record).map (·, some rest)
  | .v3, [] => .error .empty
  | .v3, cs =>
    match cutRecord cs with
    | .error e => .error e
    | .ok (record, rest) =>
      (Frame.decodeText .v3 record).map (·, if rest = [] then none else some rest)

-- Revision 3 does not tell an empty text behind a record from none.
def Seam (r : Revision) (after : Option (List Char)) : Prop :=
  r = .v3 → after ≠ some []

-- The text behind a record, with the glue in front.
def behind (r : Revision) : Option (List Char) → List Char
  | none => []
  | some rest => glue r ++ rest

theorem readRecord_v3 {cs : List Char} (ne : cs ≠ []) :
    readRecord .v3 cs =
      match cutRecord cs with
      | .error e => .error e
      | .ok (record, rest) =>
        (Frame.decodeText .v3 record).map (·, if rest = [] then none else some rest) := by
  cases cs with
  | nil => exact absurd rfl ne
  | cons c cs => rfl

theorem decodeRecords_split (cs : List Char) :
    decodeRecords .v4 (Text.split separator cs) = decodeChars .v4 cs := by
  cases cs with
  | nil => rfl
  | cons c cs => rfl

-- A body is read record by record, in either revision.
theorem decodeChars_eq (r : Revision) (cs : List Char) :
    decodeChars r cs =
      match readRecord r cs with
      | .error e => .error e
      | .ok (p, none) => .ok [p]
      | .ok (p, some rest) => (decodeChars r rest).map (p :: ·) := by
  cases r
  case v4 =>
    rw [← decodeRecords_split]
    simp only [readRecord]
    cases hc : Text.cut? separator cs with
    | none =>
      rw [Text.split_of_not_mem (Text.not_mem_of_cut? hc)]
      simp only [decodeRecords]
      cases Frame.decodeText .v4 cs <;> rfl
    | some parts =>
      obtain ⟨record, rest⟩ := parts
      obtain ⟨rfl, plain⟩ := Text.cut?_eq_some hc
      rw [Text.split_append_separator _ plain]
      simp only [decodeRecords, decodeRecords_split]
      cases Frame.decodeText .v4 record with
      | error e => rfl
      | ok p => cases hd : decodeChars .v4 rest <;> simp [Except.map, hd]
  case v3 =>
    by_cases empty : cs = []
    case pos => simp [empty, decodeChars, readRecord]
    case neg =>
      rw [readRecord_v3 empty, decodeChars, if_neg empty, decodeLengthPrefixed_eq empty]
      cases cutRecord cs with
      | error e => rfl
      | ok parts =>
        obtain ⟨record, rest⟩ := parts
        cases hd : Frame.decodeText .v3 record with
        | error e => simp [hd, Except.map]
        | ok p =>
          by_cases last : rest = []
          · simp [last, decodeLengthPrefixed_nil, Except.map, hd]
          · simp [last, decodeChars, hd, Except.map]

-- What one step reads.

theorem exists_front_of_cutRecord {cs record rest : List Char}
    (h : cutRecord cs = .ok (record, rest)) :
    ∃ front, front ≠ [] ∧ cs = front ++ rest ∧
      ∀ more, cutRecord (front ++ more) = .ok (record, more) := by
  obtain ⟨written, rfl, plain, number⟩ := cutRecord_eq_ok_iff.mp h
  refine ⟨written ++ lengthMark :: record, by simp, by simp, fun more => ?_⟩
  exact cutRecord_eq_ok_iff.mpr ⟨written, by simp, plain, number⟩

theorem exists_behind_v4 (cs : List Char) :
    ∃ record after, separator ∉ record ∧ cs = record ++ behind .v4 after := by
  cases hc : Text.cut? separator cs with
  | none => exact ⟨cs, none, Text.not_mem_of_cut? hc, by simp [behind]⟩
  | some parts =>
    obtain ⟨record, rest⟩ := parts
    obtain ⟨body, plain⟩ := Text.cut?_eq_some hc
    exact ⟨record, some rest, plain, by simp [body, behind, glue]⟩

theorem readRecord_behind_v4 {record : List Char} (plain : separator ∉ record)
    (after : Option (List Char)) :
    readRecord .v4 (record ++ behind .v4 after) =
      (Frame.decodeText .v4 record).map (·, after) := by
  cases after with
  | none => simp [readRecord, behind, Text.cut?_of_not_mem plain]
  | some rest => simp [readRecord, behind, glue, Text.cut?_append_separator rest plain]

-- A record that is read does not see what stands behind it.
theorem readRecord_eq_ok {r : Revision} {cs : List Char} {p : Packet} {after : Option (List Char)}
    (h : readRecord r cs = .ok (p, after)) :
    ∃ record, record ≠ [] ∧ cs = record ++ behind r after ∧ Seam r after ∧
      ∀ other, Seam r other → readRecord r (record ++ behind r other) = .ok (p, other) := by
  cases r
  case v4 =>
    obtain ⟨record, after', plain, rfl⟩ := exists_behind_v4 cs
    rw [readRecord_behind_v4 plain] at h
    cases hd : Frame.decodeText .v4 record with
    | error e => simp [hd, Except.map] at h
    | ok q =>
      obtain ⟨rfl, rfl⟩ : q = p ∧ after' = after := by simpa [hd, Except.map] using h
      have ne : record ≠ [] := by
        intro empty
        simp [empty, Frame.decodeText] at hd
      refine ⟨record, ne, rfl, by simp [Seam], fun other _ => ?_⟩
      rw [readRecord_behind_v4 plain, hd]
      rfl
  case v3 =>
    have ne : cs ≠ [] := by
      intro empty
      simp [empty, readRecord] at h
    rw [readRecord_v3 ne] at h
    cases hc : cutRecord cs with
    | error e => simp [hc] at h
    | ok parts =>
      obtain ⟨text, rest⟩ := parts
      cases hd : Frame.decodeText .v3 text with
      | error e => simp [hc, hd, Except.map] at h
      | ok q =>
        obtain ⟨rfl, last⟩ : q = p ∧ (if rest = [] then none else some rest) = after := by
          simpa [hc, hd, Except.map] using h
        obtain ⟨front, some_, rfl, again⟩ := exists_front_of_cutRecord hc
        refine ⟨front, some_, ?_, ?_, fun other seam => ?_⟩
        · cases rest <;> simp [← last, behind, glue]
        · cases rest <;> simp [← last, Seam]
        · cases other with
          | none =>
            have cut : cutRecord front = .ok (text, []) := by simpa using again []
            simp [behind, readRecord_v3, some_, cut, hd, Except.map]
          | some more =>
            have ne : more ≠ [] := by simpa [Seam] using seam
            simp [behind, glue, readRecord_v3, some_, again, hd, ne, Except.map]

-- Whole bodies.

theorem behind_some_append (r : Revision) (rest more : List Char) :
    behind r (some rest) ++ more = behind r (some (rest ++ more)) :=
  List.append_assoc ..

theorem length_of_readRecord {r : Revision} {cs rest : List Char} {p : Packet}
    (h : readRecord r cs = .ok (p, some rest)) : rest.length < cs.length := by
  obtain ⟨record, ne, rfl, _, _⟩ := readRecord_eq_ok h
  have := List.length_pos_iff.mpr ne
  simp only [behind, List.length_append]
  omega

-- A fact that comes to a text from what is behind its first record holds of every text.
theorem record_induction {r : Revision} {motive : List Char → Prop}
    (step : ∀ cs, (∀ p rest, readRecord r cs = .ok (p, some rest) → motive rest) → motive cs)
    (cs : List Char) : motive cs :=
  step cs fun _ rest h =>
    have := length_of_readRecord h
    record_induction step rest
  termination_by cs.length

theorem decodeChars_last {r : Revision} {cs : List Char} {p : Packet}
    (h : readRecord r cs = .ok (p, none)) : decodeChars r cs = .ok [p] := by
  rw [decodeChars_eq, h]

theorem decodeChars_more {r : Revision} {cs rest : List Char} {p : Packet}
    (h : readRecord r cs = .ok (p, some rest)) :
    decodeChars r cs = (decodeChars r rest).map (p :: ·) := by
  rw [decodeChars_eq, h]

theorem decodeChars_malformed {r : Revision} {cs : List Char} {e : DecodeError}
    (h : readRecord r cs = .error e) : decodeChars r cs = .error e := by
  rw [decodeChars_eq, h]

theorem decodeChars_behind {r : Revision} {cs : List Char} {packets : List Packet}
    (h : decodeChars r cs = .ok packets) {more : List Char} (seam : Seam r (some more)) :
    decodeChars r (cs ++ behind r (some more)) = (decodeChars r more).map (packets ++ ·) := by
  induction cs using record_induction (r := r) generalizing packets with
  | step cs ih =>
  cases hn : readRecord r cs with
  | error e => simp [decodeChars_malformed hn] at h
  | ok read =>
    obtain ⟨p, after⟩ := read
    obtain ⟨record, ne, text, inner, again⟩ := readRecord_eq_ok hn
    cases after with
    | none =>
      obtain rfl : [p] = packets := by simpa [decodeChars_last hn] using h
      rw [text, behind, List.append_nil, decodeChars_more (again _ seam)]
      rfl
    | some rest =>
      rw [decodeChars_more hn] at h
      cases later : decodeChars r rest with
      | error e => simp [later, Except.map] at h
      | ok ps =>
        obtain rfl : p :: ps = packets := by simpa [later, Except.map] using h
        have joined : Seam r (some (rest ++ behind r (some more))) := by
          simp_all [Seam]
        rw [text, List.append_assoc, behind_some_append, decodeChars_more (again _ joined),
          ih p rest hn later]
        cases decodeChars r more <;> rfl

-- The places in a text where a record begins while all before it is accepted.
inductive Reached (r : Revision) (rest : List Char) : List Char → Prop where
  | start : Reached r rest rest
  | behind {front : List Char} {packets : List Packet} (accepted : decodeChars r front = .ok packets)
      (seam : Seam r (some rest)) : Reached r rest (front ++ behind r (some rest))

theorem Reached.cons {r : Revision} {rest cs text : List Char} {p : Packet}
    (h : readRecord r cs = .ok (p, some text)) (reached : Reached r rest text) :
    Reached r rest cs := by
  obtain ⟨record, ne, rfl, inner, again⟩ := readRecord_eq_ok h
  cases reached with
  | start =>
    have alone := decodeChars_last (again none (by simp [Seam]))
    rw [Batch.behind, List.append_nil] at alone
    exact .behind alone inner
  | @behind front packets accepted seam =>
    have some_ : Seam r (some front) := by
      intro _ empty
      simp [Option.some.inj empty, decodeChars] at accepted
    have longer := decodeChars_more (again _ some_)
    rw [accepted] at longer
    rw [← behind_some_append, ← List.append_assoc]
    exact .behind longer seam

theorem decodeChars_of_reached {r : Revision} {rest cs : List Char} {e : DecodeError}
    (reached : Reached r rest cs) (bad : readRecord r rest = .error e) :
    decodeChars r cs = .error e := by
  have alone := decodeChars_malformed bad
  cases reached with
  | start => exact alone
  | behind accepted seam =>
    rw [decodeChars_behind accepted seam, alone]
    rfl

theorem exists_reached {r : Revision} {cs : List Char} {e : DecodeError}
    (h : decodeChars r cs = .error e) :
    ∃ rest, Reached r rest cs ∧ readRecord r rest = .error e := by
  induction cs using record_induction (r := r) with
  | step cs ih =>
  cases hn : readRecord r cs with
  | error e' =>
    obtain rfl : e' = e := by simpa [decodeChars_malformed hn] using h
    exact ⟨cs, .start, hn⟩
  | ok read =>
    obtain ⟨p, after⟩ := read
    cases after with
    | none => simp [decodeChars_last hn] at h
    | some text =>
      rw [decodeChars_more hn] at h
      cases later : decodeChars r text with
      | ok ps => simp [later, Except.map] at h
      | error e' =>
        obtain rfl : e' = e := by simpa [later, Except.map] using h
        obtain ⟨rest, reached, bad⟩ := ih p text hn later
        exact ⟨rest, reached.cons hn, bad⟩

-- Two batches, one behind the other, read as the packets of both, and the second fails the whole
-- as it fails alone. What is wrong with a body is what is wrong with its first malformed record.
theorem decode_append (r : Revision) :
    (∀ {body more : String} {packets : List Packet}, decode body r = .ok packets →
      (r = .v3 → more ≠ "") →
      decode (body ++ String.ofList (glue r) ++ more) r = (decode more r).map (packets ++ ·)) ∧
    ∀ (body : String) (e : DecodeError), decode body r = .error e ↔
      ∃ rest, Reached r rest body.toList ∧ readRecord r rest = .error e := by
  constructor
  case left =>
    intro body more packets accepted some_
    have seam : Seam r (some more.toList) := by
      intro v3 empty
      exact some_ v3 (String.toList_eq_nil_iff.mp (Option.some.inj empty))
    have whole : (body ++ String.ofList (glue r) ++ more).toList =
        body.toList ++ behind r (some more.toList) := by
      simp [behind]
    rw [decode, whole]
    exact decodeChars_behind accepted seam
  case right =>
    intro body e
    constructor
    case mp => exact exists_reached
    case mpr =>
      intro h
      obtain ⟨rest, reached, bad⟩ := h
      exact decodeChars_of_reached reached bad

-- A length that ends inside a character, with a good record before it and one behind.
theorem decode_append_boundary :
    decode "1:4" .v3 = .ok [{ kind := .message }] ∧ "2:4€1:6" ≠ "" ∧
      decode ("1:4" ++ String.ofList (glue .v3) ++ "2:4€1:6") .v3 = .error (.lengthMismatch 2 7) := by
  have accepted : decode "1:4" .v3 = .ok [{ kind := .message }] :=
    decodeChars_last (show readRecord .v3 "1:4".toList = _ by cbv)
  have some_ : "2:4€1:6" ≠ "" := by decide
  have alone : decode "2:4€1:6" .v3 = .error (.lengthMismatch 2 7) :=
    decodeChars_malformed (show readRecord .v3 "2:4€1:6".toList = _ by cbv)
  refine ⟨accepted, some_, ?_⟩
  rw [(decode_append .v3).1 accepted fun _ => some_, alone]
  rfl

-- Revision 4 reads the text behind the last separator, were it empty.
example : decode "4a\x1e" .v4 = .error .empty := by cbv

end Duplex.Batch
