import Mathlib
import Duplex.Proofs.Wire.Batch

-- What reads as packets is what these packets are written as. A record leaves no choice, and
-- neither do the separators of revision 4. A length of revision 3 may have zeros in front.

namespace Duplex

namespace Frame

theorem tag_of_kindOfTag {c : Char} {kind : Packet.Kind} (h : kindOfTag c = .ok kind) :
    kind.tag = c := by
  simp only [kindOfTag] at h
  split at h
  · next found => exact Except.ok.inj h ▸ Packet.Kind.tag_of_ofTag? found
  · simp at h

theorem decodeBase64_eq_ok {kind : Packet.Kind} {cs : List Char} {p : Packet}
    (h : decodeBase64 kind cs = .ok p) :
    ∃ bytes, p = .withData kind (.binary bytes) ∧ cs = Base64.encodeText bytes := by
  simp only [decodeBase64] at h
  split at h
  · next bytes decoded =>
    exact ⟨bytes, (Except.ok.inj h).symm, (Base64.encodeText_of_decodeText decoded).symm⟩
  · simp at h

-- A packet is read from the text form of a text or from that of bytes.
theorem decodeText_eq_ok {r : Revision} {cs : List Char} {p : Packet}
    (h : decodeText r cs = .ok p) :
    (∃ kind s, p = .withData kind (.text s) ∧ cs = tagged kind s.toList) ∨
      ∃ kind bytes, (r = .v4 → kind = .message) ∧ p = .withData kind (.binary bytes) ∧
        cs = base64Text kind r bytes := by
  cases cs with
  | nil => simp [decodeText] at h
  | cons c cs =>
    simp only [decodeText] at h
    split at h
    · next mark =>
      apply Or.inr
      cases r with
      | v4 =>
        obtain ⟨bytes, packet, written⟩ := decodeBase64_eq_ok h
        have same : c :: cs = base64Text .message .v4 bytes := by
          simp [base64Text, base64Tag, mark, written]
        exact ⟨.message, bytes, fun _ => rfl, packet, same⟩
      | v3 =>
        cases cs with
        | nil => simp at h
        | cons t ts =>
          simp only at h
          split at h
          · next kind tag =>
            obtain ⟨bytes, packet, written⟩ := decodeBase64_eq_ok h
            have tag := tag_of_kindOfTag tag
            exact ⟨kind, bytes, by simp, packet, by simp [base64Text, base64Tag, mark, written, tag]⟩
          · simp at h
    · split at h
      · next kind tag =>
        have tag := tag_of_kindOfTag tag
        exact .inl ⟨kind, String.ofList cs, (Except.ok.inj h).symm, by simp [tagged, tag]⟩
      · simp at h

end Frame

namespace Batch

-- Records.

theorem record_withData_text (kind : Packet.Kind) (s : String) (r : Revision) :
    record (.withData kind (.text s)) r = Frame.tagged kind s.toList := by
  by_cases empty : s = "" <;> simp [record, Packet.withData, Payload.normalized, empty]

theorem check_withData_text {kind : Packet.Kind} {s : String} {r : Revision}
    (plain : r = .v4 → separator ∉ s.toList) : check (.withData kind (.text s)) r = .ok () := by
  by_cases empty : s = ""
  case pos => simp [check, Frame.check, Packet.withData, Payload.normalized, empty]
  case neg =>
    cases r
    case v3 => simp [check, Frame.check, Packet.withData, Payload.normalized, empty]
    case v4 => simp [check, Frame.check, Packet.withData, Payload.normalized, empty, plain rfl]

theorem check_withData_binary {kind : Packet.Kind} {r : Revision} (h : r = .v4 → kind = .message)
    (bytes : Bytes) : check (.withData kind (.binary bytes)) r = .ok () := by
  cases r
  case v3 => simp [check, Frame.check, Packet.withData, Payload.normalized]
  case v4 => simp [check, Frame.check, Packet.withData, Payload.normalized, h rfl]

theorem record_of_decodeText {r : Revision} {cs : List Char} {p : Packet}
    (h : Frame.decodeText r cs = .ok p) : record p r = cs := by
  obtain ⟨kind, s, packet, written⟩ | ⟨kind, bytes, _, packet, written⟩ :=
    Frame.decodeText_eq_ok h
  · rw [packet, record_withData_text, written]
  · rw [packet, written]
    rfl

theorem check_of_decodeText {r : Revision} {cs : List Char} {p : Packet}
    (h : Frame.decodeText r cs = .ok p) (plain : r = .v4 → separator ∉ cs) :
    check p r = .ok () := by
  obtain ⟨kind, s, packet, written⟩ | ⟨kind, bytes, message, packet, _⟩ :=
    Frame.decodeText_eq_ok h
  · rw [packet]
    refine check_withData_text fun v4 inside => plain v4 ?_
    rw [written]
    exact List.mem_cons_of_mem _ inside
  · exact packet ▸ check_withData_binary message bytes

theorem map_record_of_decodeRecords {r : Revision} {rs : List (List Char)} {packets : List Packet}
    (h : decodeRecords r rs = .ok packets) : packets.map (record · r) = rs := by
  induction rs generalizing packets with
  | nil => simp [← Except.ok.inj h]
  | cons cs rs ih =>
    simp only [decodeRecords] at h
    split at h
    · simp at h
    · next p first =>
      split at h
      · next ps rest => simp [← Except.ok.inj h, record_of_decodeText first, ih rest]
      · simp at h

theorem check_of_decodeRecords {r : Revision} {rs : List (List Char)} {packets : List Packet}
    (h : decodeRecords r rs = .ok packets) (plain : r = .v4 → ∀ cs ∈ rs, separator ∉ cs) :
    ∀ p ∈ packets, check p r = .ok () := by
  induction rs generalizing packets with
  | nil => simp [← Except.ok.inj h]
  | cons cs rs ih =>
    simp only [decodeRecords] at h
    split at h
    · simp at h
    · next p first =>
      split at h
      · next ps rest =>
        have good := check_of_decodeText first fun v4 => plain v4 cs (by simp)
        have later := ih rest fun v4 ds hd => plain v4 ds (by simp [hd])
        simpa [← Except.ok.inj h, good] using later
      · simp at h

-- Revision 3.

-- Records with their lengths, and so many zeros in front of each length.
def zeroPadded (written : List (Nat × List Char)) : List Char :=
  written.flatMap fun (zeros, cs) => List.replicate zeros '0' ++ lengthPrefixed cs

theorem cutRecord_eq_ok {cs record rest : List Char} (h : cutRecord cs = .ok (record, rest)) :
    ∃ zeros, cs = List.replicate zeros '0' ++ lengthPrefixed record ++ rest := by
  obtain ⟨written, rfl, _, number⟩ := cutRecord_eq_ok_iff.mp h
  obtain ⟨value, _⟩ := Option.filter_eq_some_iff.mp number
  obtain ⟨⟨ne, digits⟩, value⟩ : (written ≠ [] ∧ written.all Decimal.isDigit) ∧
      Decimal.value written = Text.byteLength record := by simpa [Decimal.value?] using value
  obtain ⟨zeros, padded⟩ := Decimal.exists_replicate_append_digits ne digits
  refine ⟨zeros, ?_⟩
  rw [value] at padded
  rw [padded]
  simp [lengthPrefixed]

theorem decodeRecords_of_decodeLengthPrefixed {cs : List Char} {packets : List Packet}
    (h : decodeLengthPrefixed cs = .ok packets) :
    ∃ written, cs = zeroPadded written ∧
      decodeRecords .v3 (written.map Prod.snd) = .ok packets := by
  fun_induction decodeLengthPrefixed cs generalizing packets with
  | case1 => exact ⟨[], rfl, h⟩
  | case2 => simp at h
  | case3 => simp at h
  | case4 cs _ record rest cut p first ps later ih =>
    have ⟨zeros, front⟩ := cutRecord_eq_ok cut
    have ⟨written, body, decoded⟩ := ih later
    refine ⟨(zeros, record) :: written, ?_, ?_⟩
    · simp [front, body, zeroPadded]
    · simp [decodeRecords, first, decoded, ← Except.ok.inj h]
  | case5 => simp at h

theorem lengthMark_not_mem_zeros (zeros n : Nat) :
    lengthMark ∉ List.replicate zeros '0' ++ Decimal.digits n := by
  intro h
  rcases List.mem_append.mp h with zero | digit
  · exact absurd (List.eq_of_mem_replicate zero) (by decide)
  · exact lengthMark_not_mem_digits n digit

-- Zeros, length and record are read off the text.
theorem zeroPadded_cons_injective {zeros zeros' : Nat} {cs cs' rest rest' : List Char}
    (h : List.replicate zeros '0' ++ lengthPrefixed cs ++ rest =
      List.replicate zeros' '0' ++ lengthPrefixed cs' ++ rest') :
    zeros = zeros' ∧ cs = cs' ∧ rest = rest' := by
  have cut (zeros : Nat) (cs rest : List Char) :
      Text.cut? lengthMark (List.replicate zeros '0' ++ lengthPrefixed cs ++ rest) =
        some (List.replicate zeros '0' ++ Decimal.digits (Text.byteLength cs), cs ++ rest) := by
    have plain := lengthMark_not_mem_zeros zeros (Text.byteLength cs)
    simpa [lengthPrefixed] using Text.cut?_append_separator (cs ++ rest) plain
  have same := cut zeros cs rest
  rw [h, cut zeros' cs' rest'] at same
  obtain ⟨number, after⟩ := Prod.mk.inj (Option.some.inj same)
  have length : Text.byteLength cs' = Text.byteLength cs := by
    simpa [Decimal.value_replicate_append, Decimal.value_digits] using
      congrArg Decimal.value number
  have taken := Text.takeBytes?_byteLength cs rest
  rw [← after, ← length, Text.takeBytes?_byteLength] at taken
  obtain ⟨record, later⟩ := Prod.mk.inj (Option.some.inj taken)
  have padding : zeros' = zeros := by simpa [length] using congrArg List.length number
  exact ⟨padding.symm, record.symm, later.symm⟩

theorem zeroPadded_injective {written other : List (Nat × List Char)}
    (h : zeroPadded written = zeroPadded other) : written = other := by
  induction written generalizing other with
  | nil =>
    cases other with
    | nil => rfl
    | cons => simp [zeroPadded, lengthPrefixed] at h
  | cons first rest ih =>
    cases other with
    | nil => simp [zeroPadded, lengthPrefixed] at h
    | cons first' rest' =>
      obtain ⟨zeros, record, later⟩ := zeroPadded_cons_injective h
      rw [ih later, Prod.ext zeros record]

-- Both revisions.

theorem encode_of_decodeRecords {r : Revision} {rs : List (List Char)} {packets : List Packet}
    (h : decodeRecords r rs = .ok packets) (plain : r = .v4 → ∀ cs ∈ rs, separator ∉ cs) :
    encode packets r = .ok (String.ofList (frameRecords r rs)) := by
  rw [encode_of_check (check_of_decodeRecords h plain), map_record_of_decodeRecords h]

theorem decodeRecords_of_decode_v4 {body : String} {packets : List Packet}
    (h : decode body .v4 = .ok packets) :
    decodeRecords .v4 (Text.split separator body.toList) = .ok packets := by
  simp only [decode, decodeChars] at h
  split at h
  · simp at h
  · exact h

theorem decodeRecords_of_decode_v3 {body : String} {packets : List Packet}
    (h : decode body .v3 = .ok packets) :
    ∃ written, body = String.ofList (zeroPadded written) ∧
      decodeRecords .v3 (written.map Prod.snd) = .ok packets := by
  simp only [decode, decodeChars] at h
  split at h
  · simp at h
  · obtain ⟨written, padded, decoded⟩ := decodeRecords_of_decodeLengthPrefixed h
    exact ⟨written, by rw [← padded, String.ofList_toList], decoded⟩

theorem encode_of_decode_v4 {body : String} {packets : List Packet}
    (h : decode body .v4 = .ok packets) : encode packets .v4 = .ok body := by
  have plain : ∀ cs ∈ Text.split separator body.toList, separator ∉ cs :=
    fun _ => Text.not_mem_of_mem_split
  rw [encode_of_decodeRecords (decodeRecords_of_decode_v4 h) fun _ => plain, frameRecords,
    Text.join_split, String.ofList_toList]

theorem encode_of_decode_v3 {body : String} {packets : List Packet}
    (h : decode body .v3 = .ok packets) :
    ∃ written, body = String.ofList (zeroPadded written) ∧
      encode packets .v3 =
        .ok (String.ofList (written.flatMap fun (_, cs) => lengthPrefixed cs)) := by
  have ⟨written, padded, decoded⟩ := decodeRecords_of_decode_v3 h
  refine ⟨written, padded, ?_⟩
  rw [encode_of_decodeRecords decoded (by simp), frameRecords, List.flatMap_map]

-- Whatever is accepted is a batch that could have been written: in revision 4 to the letter, in
-- revision 3 but for zeros in front of the lengths. There is only one way to tell these zeros.
theorem decode_accepts_encodings {body : String} {r : Revision} {packets : List Packet}
    (h : decode body r = .ok packets) :
    (∀ p ∈ packets, check p r = .ok ()) ∧
      (r = .v4 → encode packets r = .ok body ∧
        ∀ other, decode other r = .ok packets → other = body) ∧
      (r = .v3 → ∃ written, body = String.ofList (zeroPadded written) ∧
        (∀ other, body = String.ofList (zeroPadded other) → other = written) ∧
        encode packets r =
          .ok (String.ofList (written.flatMap fun (_, cs) => lengthPrefixed cs))) := by
  cases r
  case v4 =>
    have encoded := encode_of_decode_v4 h
    refine ⟨check_of_encode encoded, fun _ => ⟨encoded, fun other same => ?_⟩, by simp⟩
    have again := encode_of_decode_v4 same
    rw [encoded] at again
    exact (Except.ok.inj again).symm
  case v3 =>
    have ⟨written, padded, encoded⟩ := encode_of_decode_v3 h
    refine ⟨check_of_encode encoded, by simp, fun _ =>
      ⟨written, padded, fun other same => ?_, encoded⟩⟩
    rw [padded] at same
    exact (zeroPadded_injective (String.ofList_inj.mp same)).symm

-- Zeros before a length, a length of two digits, text with a colon and bytes with a tag.
theorem decode_accepts_encodings_padded :
    let packets : List Packet :=
      [{ kind := .message, data := some (.text "3:b€67890") },
        { kind := .pong, data := some (.binary [0, 255]) }, { kind := .noop }]
    decode "0012:43:b€678906:b3AP8=01:6" .v3 = .ok packets ∧
      encode packets .v3 = .ok "12:43:b€678906:b3AP8=1:6" := by
  intro packets
  have read : decodeLengthPrefixed "0012:43:b€678906:b3AP8=01:6".toList = .ok packets := by
    have last : cutRecord "01:6".toList = .ok ("6".toList, []) := by cbv
    have second : cutRecord "6:b3AP8=01:6".toList = .ok ("b3AP8=".toList, "01:6".toList) := by cbv
    have first : cutRecord "0012:43:b€678906:b3AP8=01:6".toList =
        .ok ("43:b€67890".toList, "6:b3AP8=01:6".toList) := by cbv
    rw [decodeLengthPrefixed_of_cutRecord first (by cbv),
      decodeLengthPrefixed_of_cutRecord second (by cbv),
      decodeLengthPrefixed_of_cutRecord last (by cbv), decodeLengthPrefixed_nil]
    rfl
  have accepted : decode "0012:43:b€678906:b3AP8=01:6" .v3 = .ok packets := read
  obtain ⟨written, padded, only, encoded⟩ := (decode_accepts_encodings accepted).2.2 rfl
  have told := only [(2, "43:b€67890".toList), (0, "b3AP8=".toList), (1, "6".toList)] (by cbv)
  refine ⟨accepted, ?_⟩
  rw [encoded, ← told]
  cbv

end Batch

end Duplex
