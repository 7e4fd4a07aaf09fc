import Mathlib
import Duplex.Proofs.Wire.Frame
import Duplex.Wire.Batch

-- Packets written as one polling body and read back. In revision 4 no record holds the separator,
-- so the separators cut the body where it was joined. In revision 3 every record is read by the
-- length in front of it.

namespace Duplex.Text

theorem utf8ByteSize_ofList (cs : List Char) : (String.ofList cs).utf8ByteSize = byteLength cs := by
  induction cs with
  | nil => rfl
  | cons c cs ih =>
    rw [← List.singleton_append, String.ofList_append, String.utf8ByteSize_append, ih]
    simp

end Duplex.Text

namespace Duplex.Batch

-- The batch rules are those of frames and one more.
theorem frame_check_of_check {p : Packet} {r : Revision} (h : check p r = .ok ()) :
    Frame.check p r = .ok () := by
  simp only [check] at h
  cases hf : Frame.check p r with
  | ok => rfl
  | error e => simp [hf] at h

theorem not_mem_text_of_check {kind : Packet.Kind} {s : String}
    (h : check { kind, data := some (.text s) } .v4 = .ok ()) : separator ∉ s.toList := by
  intro hs
  simp [check, Frame.check, hs] at h

theorem records_of_check {packets : List Packet} {r : Revision}
    (h : ∀ p ∈ packets, check p r = .ok ()) :
    records r packets = .ok (packets.map (record · r)) := by
  induction packets with
  | nil => rfl
  | cons p ps ih =>
    have hp := h p (by simp)
    have hps := ih fun q hq => h q (by simp [hq])
    simp [records, hp, hps]

theorem check_of_records {packets : List Packet} {r : Revision} {rs : List (List Char)}
    (h : records r packets = .ok rs) : ∀ p ∈ packets, check p r = .ok () := by
  induction packets generalizing rs with
  | nil => simp
  | cons p ps ih =>
    simp only [records] at h
    cases hc : check p r with
    | error e => simp [hc] at h
    | ok =>
      cases hr : records r ps with
      | error e => simp [hc, hr] at h
      | ok rest => simpa [hc] using ih hr

-- The first packet that cannot be batched decides the complaint.
theorem records_eq_error_iff {packets : List Packet} {r : Revision} {e : EncodeError} :
    records r packets = .error e ↔
      ∃ before p after, packets = before ++ p :: after ∧ (∀ q ∈ before, check q r = .ok ()) ∧
        check p r = .error e := by
  induction packets with
  | nil => simp [records]
  | cons p ps ih =>
    constructor
    case mp =>
      intro h
      simp only [records] at h
      cases hc : check p r with
      | error e' =>
        have : e' = e := by simpa [hc] using h
        exact ⟨[], p, ps, rfl, by simp, this ▸ hc⟩
      | ok =>
        have hr : records r ps = .error e := by
          cases hr : records r ps with
          | error e' => simpa [hc, hr] using h
          | ok rest => simp [hc, hr] at h
        have ⟨before, q, after, eq, good, bad⟩ := ih.mp hr
        refine ⟨p :: before, q, after, by simp [eq], ?_, bad⟩
        simpa [hc] using good
    case mpr =>
      intro ⟨before, q, after, eq, good, bad⟩
      simp only [records]
      cases before with
      | nil =>
        have ⟨hp, _⟩ : p = q ∧ ps = after := by simpa using eq
        simp [hp, bad]
      | cons b before =>
        have ⟨hp, hps⟩ : p = b ∧ ps = before ++ q :: after := by simpa using eq
        have hr := ih.mpr ⟨before, q, after, hps, fun x hx => good x (by simp [hx]), bad⟩
        simp [hp, good b (by simp), hr]

theorem record_ne_nil (p : Packet) (r : Revision) : record p r ≠ [] := by
  simp only [record]
  split <;> simp [Frame.tagged, Frame.base64Text]

theorem decodeText_record {p : Packet} {r : Revision} (h : check p r = .ok ()) :
    Frame.decodeText r (record p r) = .ok p.normalized := by
  have hf := frame_check_of_check h
  match p with
  | { kind, data := none } =>
    simp [record, Frame.decodeText_tagged, Packet.normalized_of_none]
  | { kind, data := some (.text s) } =>
    simp [record, Frame.decodeText_tagged, Packet.normalized_of_text]
  | { kind, data := some (.binary bytes) } =>
    have hk : r = .v4 → kind = .message := fun hr => Frame.check_eq_ok_iff.mp hf hr rfl
    simp [record, Frame.decodeText_base64Text hk, Packet.normalized_of_binary]

-- Revision 4.

theorem separator_not_mem_record {p : Packet} (h : check p .v4 = .ok ()) :
    separator ∉ record p .v4 := by
  match p with
  | { kind, data := none } => cases kind <;> simp [record, Frame.tagged] <;> decide
  | { kind, data := some (.text s) } =>
    have hs := not_mem_text_of_check h
    have ht : separator ≠ kind.tag := by cases kind <;> decide
    simp [record, Frame.tagged, hs, ht]
  | { kind, data := some (.binary bytes) } =>
    intro hm
    have hb : separator ≠ Frame.base64Mark := by decide
    have := Base64.le_of_mem_encodeText
      (by simpa [record, Frame.base64Text, Frame.base64Tag, hb] using hm)
    simp [separator] at this

theorem decodeRecords_map_record {packets : List Packet} {r : Revision}
    (h : ∀ p ∈ packets, check p r = .ok ()) :
    decodeRecords r (packets.map (record · r)) = .ok (packets.map Packet.normalized) := by
  induction packets with
  | nil => rfl
  | cons p ps ih =>
    have hp := decodeText_record (h p (by simp))
    have hps := ih fun q hq => h q (by simp [hq])
    simp [decodeRecords, hp, hps]

theorem join_ne_nil {separator : Char} {record : List Char} (h : record ≠ [])
    (records : List (List Char)) : Text.join separator (record :: records) ≠ [] := by
  cases records <;> simp [Text.join, h]

-- Revision 3.

theorem lengthMark_not_mem_digits (n : Nat) : lengthMark ∉ Decimal.digits n := by
  intro h
  have := List.all_eq_true.mp (Decimal.all_isDigit_digits n) lengthMark h
  revert this
  decide

theorem cutRecord_eq_ok_iff {cs record rest : List Char} :
    cutRecord cs = .ok (record, rest) ↔
      ∃ written, cs = written ++ lengthMark :: (record ++ rest) ∧ lengthMark ∉ written ∧
        (Decimal.value? written).filter (· ≤ maxLength) = some (Text.byteLength record) := by
  constructor
  case mp =>
    intro h
    simp only [cutRecord] at h
    split at h
    · simp at h
    next written after cut =>
    split at h
    · simp at h
    next n number =>
    split at h
    · simp at h
    next record' rest' taken =>
    obtain ⟨rfl, rfl⟩ : record' = record ∧ rest' = rest := by simpa using h
    obtain ⟨rfl, plain⟩ := Text.cut?_eq_some cut
    obtain ⟨rfl, rfl⟩ := Text.takeBytes?_eq_some taken
    exact ⟨written, rfl, plain, number⟩
  case mpr =>
    intro h
    obtain ⟨written, rfl, plain, number⟩ := h
    simp [cutRecord, Text.cut?_append_separator _ plain, number, Text.takeBytes?_byteLength]

theorem cutRecord_lengthPrefixed {cs : List Char} (fits : Text.byteLength cs ≤ maxLength)
    (rest : List Char) : cutRecord (lengthPrefixed cs ++ rest) = .ok (cs, rest) :=
  cutRecord_eq_ok_iff.mpr ⟨Decimal.digits (Text.byteLength cs), by simp [lengthPrefixed],
    lengthMark_not_mem_digits _, by simp [Option.filter, fits]⟩

theorem decodeLengthPrefixed_nil : decodeLengthPrefixed [] = .ok [] := by
  rw [decodeLengthPrefixed]
  rfl

theorem decodeLengthPrefixed_eq {cs : List Char} (ne : cs ≠ []) :
    decodeLengthPrefixed cs =
      match cutRecord cs with
      | .error e => .error e
      | .ok (record, rest) =>
        match Frame.decodeText .v3 record with
        | .error e => .error e
        | .ok p => (decodeLengthPrefixed rest).map (p :: ·) := by
  rw [decodeLengthPrefixed, if_neg ne]
  split
  case h_1 e cut => rw [cut]
  case h_2 record rest cut =>
    simp only [cut]
    cases Frame.decodeText .v3 record with
    | error e => rfl
    | ok p => cases decodeLengthPrefixed rest <;> rfl

theorem decodeLengthPrefixed_of_cutRecord {cs record rest : List Char} {p : Packet}
    (cut : cutRecord cs = .ok (record, rest)) (h : Frame.decodeText .v3 record = .ok p) :
    decodeLengthPrefixed cs = (decodeLengthPrefixed rest).map (p :: ·) := by
  have ne : cs ≠ [] := by
    intro empty
    simp [empty, cutRecord, Text.cut?] at cut
  simp only [decodeLengthPrefixed_eq ne, cut, h]

theorem decodeLengthPrefixed_flatMap {packets : List Packet}
    (h : ∀ p ∈ packets, check p .v3 = .ok ())
    (fits : ∀ p ∈ packets, Text.byteLength (record p .v3) ≤ maxLength) :
    decodeLengthPrefixed (packets.flatMap fun p => lengthPrefixed (record p .v3)) =
      .ok (packets.map Packet.normalized) := by
  induction packets with
  | nil => exact decodeLengthPrefixed_nil
  | cons p ps ih =>
    have hp := decodeText_record (h p (by simp))
    have hps := ih (fun q hq => h q (by simp [hq])) (fun q hq => fits q (by simp [hq]))
    have cut := cutRecord_lengthPrefixed (fits p (by simp))
      (ps.flatMap fun p => lengthPrefixed (record p .v3))
    rw [List.flatMap_cons, decodeLengthPrefixed_of_cutRecord cut hp, hps]
    rfl

theorem byteLength_record_le {packets : List Packet} {p : Packet} (h : p ∈ packets)
    (r : Revision) :
    Text.byteLength (record p r) ≤
      Text.byteLength (packets.flatMap fun p => lengthPrefixed (record p r)) := by
  have ⟨before, after, eq⟩ := List.append_of_mem h
  subst eq
  simp only [List.flatMap_append, List.flatMap_cons, Text.byteLength_append, lengthPrefixed,
    Text.byteLength_cons]
  omega

-- Both revisions.

theorem check_of_encode {packets : List Packet} {r : Revision} {body : String}
    (h : encode packets r = .ok body) : ∀ p ∈ packets, check p r = .ok () := by
  simp only [encode] at h
  cases hr : records r packets with
  | error e => simp [hr] at h
  | ok rs => exact check_of_records hr

theorem encode_of_check {packets : List Packet} {r : Revision}
    (h : ∀ p ∈ packets, check p r = .ok ()) :
    encode packets r = .ok (String.ofList (frameRecords r (packets.map (record · r)))) := by
  simp [encode, records_of_check h]

theorem encode_eq_error_iff {packets : List Packet} {r : Revision} {e : EncodeError} :
    encode packets r = .error e ↔
      ∃ before p after, packets = before ++ p :: after ∧ (∀ q ∈ before, check q r = .ok ()) ∧
        check p r = .error e := by
  rw [← records_eq_error_iff, encode]
  cases records r packets <;> simp

theorem decodeChars_frameRecords_v4 {packets : List Packet} (ne : packets ≠ [])
    (h : ∀ p ∈ packets, check p .v4 = .ok ()) :
    decodeChars .v4 (frameRecords .v4 (packets.map (record · .v4))) =
      .ok (packets.map Packet.normalized) := by
  have hs : ∀ cs ∈ packets.map (record · .v4), separator ∉ cs := by
    intro cs hcs
    have ⟨p, hp, eq⟩ := List.mem_map.mp hcs
    exact eq ▸ separator_not_mem_record (h p hp)
  have hn : Text.join separator (packets.map (record · .v4)) ≠ [] := by
    have ⟨p, ps, eq⟩ := List.exists_cons_of_ne_nil ne
    subst eq
    exact join_ne_nil (record_ne_nil p .v4) _
  simp only [decodeChars, frameRecords, hn, ↓reduceIte]
  rw [Text.split_join (by simpa using ne) hs, decodeRecords_map_record h]

theorem decodeChars_frameRecords_v3 {packets : List Packet} (ne : packets ≠ [])
    (h : ∀ p ∈ packets, check p .v3 = .ok ())
    (fits : Text.byteLength (frameRecords .v3 (packets.map (record · .v3))) ≤ maxLength) :
    decodeChars .v3 (frameRecords .v3 (packets.map (record · .v3))) =
      .ok (packets.map Packet.normalized) := by
  simp only [frameRecords, List.flatMap_map] at fits ⊢
  have hn : packets.flatMap (fun p => lengthPrefixed (record p .v3)) ≠ [] := by
    have ⟨p, ps, eq⟩ := List.exists_cons_of_ne_nil ne
    simp [eq, lengthPrefixed]
  rw [decodeChars, if_neg hn]
  exact decodeLengthPrefixed_flatMap h fun p hp =>
    Nat.le_trans (byteLength_record_le hp .v3) fits

-- A body is a text in memory, so its size is a word. Revision 4 does without this.
theorem decode_of_encode {packets : List Packet} (ne : packets ≠ []) {r : Revision} {body : String}
    (h : encode packets r = .ok body) (fits : r = .v3 → body.utf8ByteSize ≤ maxLength) :
    decode body r = .ok (packets.map Packet.normalized) := by
  have good := check_of_encode h
  have eq : String.ofList (frameRecords r (packets.map (record · r))) = body := by
    simpa [encode_of_check good] using h
  subst eq
  rw [decode, String.toList_ofList]
  cases r
  case v3 =>
    exact decodeChars_frameRecords_v3 ne good (Text.utf8ByteSize_ofList _ ▸ fits rfl)
  case v4 => exact decodeChars_frameRecords_v4 ne good

-- Writing a batch fails exactly with the complaint about its first packet that cannot be batched.
-- What was written reads back as the same packets, as text and as bytes.
theorem encode_round_trip {packets : List Packet} (ne : packets ≠ []) (r : Revision) :
    ((∃ body, encode packets r = .ok body) ↔ ∀ p ∈ packets, check p r = .ok ()) ∧
      (∀ e, encode packets r = .error e ↔
        ∃ before p after, packets = before ++ p :: after ∧ (∀ q ∈ before, check q r = .ok ()) ∧
          check p r = .error e) ∧
      ∀ body, encode packets r = .ok body → (r = .v3 → body.utf8ByteSize ≤ maxLength) →
        decode body r = .ok (packets.map Packet.normalized) ∧
          decodeBytes (Text.utf8 body) r = .ok (packets.map Packet.normalized) := by
  refine ⟨⟨?_, ?_⟩, fun e => encode_eq_error_iff, ?_⟩
  · intro ⟨body, h⟩
    exact check_of_encode h
  · intro h
    exact ⟨_, encode_of_check h⟩
  · intro body h fits
    rw [decodeBytes_utf8]
    exact ⟨decode_of_encode ne h fits, decode_of_encode ne h fits⟩

-- Bytes, text with marks and digits, a raw empty text and a pong of bytes in revision 3.
theorem encode_round_trip_mixed :
    let packets : List Packet :=
      [{ kind := .message, data := some (.binary [0, 255]) },
        { kind := .message, data := some (.text "b1:€") },
        { kind := .message, data := some (.text "") }, { kind := .pong, data := some (.binary []) }]
    packets ≠ [] ∧ encode packets .v3 = .ok "6:b4AP8=7:4b1:€1:42:b3" ∧
      decode "6:b4AP8=7:4b1:€1:42:b3" .v3 = .ok (packets.map Packet.normalized) := by
  intro packets
  have ne : packets ≠ [] := by simp [packets]
  have written : encode packets .v3 = .ok "6:b4AP8=7:4b1:€1:42:b3" := by cbv
  exact ⟨ne, written, ((encode_round_trip ne .v3).2.2 _ written (by decide)).1⟩

end Duplex.Batch
