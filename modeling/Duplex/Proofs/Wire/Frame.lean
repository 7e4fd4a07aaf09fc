import Duplex.Proofs.Wire.Base64
import Duplex.Wire.Frame

-- Packets written as text or as a frame, read back in the same revision.

namespace Duplex

namespace Packet

def carriesBytes (p : Packet) : Bool :=
  p.data.any Payload.isBinary

theorem Kind.tag_ne_base64Mark (kind : Kind) : kind.tag ≠ Frame.base64Mark := by
  cases kind <;> decide

theorem normalized_of_text (kind : Kind) (s : String) :
    withData kind (.text s) = normalized { kind, data := some (.text s) } := rfl

theorem normalized_of_none (kind : Kind) :
    withData kind (.text "") = normalized { kind } := rfl

theorem normalized_of_binary (kind : Kind) (bytes : Bytes) :
    withData kind (.binary bytes) = normalized { kind, data := some (.binary bytes) } := rfl

end Packet

namespace Frame

@[simp]
theorem kindOfTag_tag (kind : Packet.Kind) : kindOfTag kind.tag = .ok kind := by
  simp [kindOfTag]

theorem decodeText_tagged (r : Revision) (kind : Packet.Kind) (text : List Char) :
    decodeText r (tagged kind text) = .ok (.withData kind (.text (String.ofList text))) := by
  simp [tagged, decodeText, kind.tag_ne_base64Mark]

theorem decodeBase64_encodeText (kind : Packet.Kind) (bytes : Bytes) :
    decodeBase64 kind (Base64.encodeText bytes) = .ok (.withData kind (.binary bytes)) := by
  simp [decodeBase64]

-- Revision 4 writes no tag, so only a message comes back as what it was.
theorem decodeText_base64Text {kind : Packet.Kind} {r : Revision} (h : r = .v4 → kind = .message)
    (bytes : Bytes) :
    decodeText r (base64Text kind r bytes) = .ok (.withData kind (.binary bytes)) := by
  cases r
  case v3 => simp [base64Text, base64Tag, decodeText, decodeBase64_encodeText]
  case v4 => simp [base64Text, base64Tag, decodeText, decodeBase64_encodeText, h rfl]

theorem check_eq_ok_iff {p : Packet} {r : Revision} :
    check p r = .ok () ↔ (r = .v4 → p.carriesBytes → p.kind = .message) := by
  match p, r with
  | { kind, data := none }, _ => simp [check, Packet.carriesBytes]
  | { kind, data := some (.text s) }, _ => simp [check, Packet.carriesBytes, Payload.isBinary]
  | { kind, data := some (.binary bytes) }, .v3 => simp [check]
  | { kind, data := some (.binary bytes) }, .v4 =>
    by_cases h : kind = .message <;> simp [check, Packet.carriesBytes, Payload.isBinary, h]

-- A packet has a frame if and only if it passes the check, and the complaint is the same.
theorem encode_eq_error_iff {p : Packet} {r : Revision} {e : EncodeError} :
    encode p r = .error e ↔ check p r = .error e := by
  simp only [encode]
  cases h : check p r with
  | error e' => simp
  | ok =>
    match p, r with
    | { kind, data := none }, _ => simp
    | { kind, data := some (.text s) }, _ => simp
    | { kind, data := some (.binary bytes) }, .v3 => simp
    | { kind, data := some (.binary bytes) }, .v4 => simp

theorem exists_encode_of_check {p : Packet} {r : Revision} (h : check p r = .ok ()) :
    ∃ f, encode p r = .ok f := by
  cases he : encode p r with
  | ok f => exact ⟨f, rfl⟩
  | error e => simp [encode_eq_error_iff.mp he] at h

theorem check_of_encode {p : Packet} {r : Revision} {f : Frame} (h : encode p r = .ok f) :
    check p r = .ok () := by
  cases hc : check p r with
  | ok => rfl
  | error e => simp [encode_eq_error_iff.mpr hc] at h

theorem decode_encode {p : Packet} {r : Revision} {f : Frame} (h : encode p r = .ok f) :
    decode f r = .ok p.normalized := by
  have hc := check_of_encode h
  simp only [encode] at h
  match p, r with
  | { kind, data := none }, _ =>
    simp only [hc, Except.ok.injEq] at h
    simp [← h, decode, decodeText_tagged, Packet.normalized_of_none]
  | { kind, data := some (.text s) }, _ =>
    simp only [hc, Except.ok.injEq] at h
    simp [← h, decode, decodeText_tagged, Packet.normalized_of_text]
  | { kind, data := some (.binary bytes) }, .v3 =>
    simp only [hc, Except.ok.injEq] at h
    simp [← h, decode, Packet.normalized_of_binary]
  | { kind, data := some (.binary bytes) }, .v4 =>
    simp only [hc, Except.ok.injEq] at h
    have hk : kind = .message := check_eq_ok_iff.mp hc rfl rfl
    simp [← h, decode, hk, Packet.normalized_of_binary]

-- A packet that is written in one revision reads as itself in another.
def Crosses (p : Packet) (written read : Revision) : Prop :=
  ∃ f, encode p written = .ok f ∧ decode f read = .ok p.normalized

theorem crosses_of_check {p : Packet} {r : Revision} (h : check p r = .ok ()) : Crosses p r r := by
  have ⟨f, encoded⟩ := exists_encode_of_check h
  exact ⟨f, encoded, decode_encode encoded⟩

-- Text is written the same in both revisions.
theorem crosses_of_not_carriesBytes {p : Packet} (written read : Revision)
    (h : p.carriesBytes = false) : Crosses p written read := by
  have fit : check p read = .ok () := check_eq_ok_iff.mpr (by simp [h])
  have ⟨f, encoded, decoded⟩ := crosses_of_check fit
  refine ⟨f, ?_, decoded⟩
  match p, written, read with
  | { kind, data := none }, _, _ => exact encoded
  | { kind, data := some (.text s) }, _, _ => exact encoded
  | { kind, data := some (.binary bytes) }, _, _ => simp [Packet.carriesBytes, Payload.isBinary] at h

-- Bytes are not: revision 3 puts a type in front of them.
theorem not_crosses_of_carriesBytes {p : Packet} {written read : Revision} (ne : written ≠ read)
    (h : p.carriesBytes) : ¬Crosses p written read := by
  intro ⟨f, encoded, decoded⟩
  match p, written, read with
  | { kind, data := some (.binary bytes) }, .v3, .v4 =>
    simp only [encode, check, Except.ok.injEq] at encoded
    simp [← encoded, decode, Packet.withData, Packet.normalized, Payload.normalized] at decoded
  | { kind, data := some (.binary bytes) }, .v4, .v3 =>
    have message : kind = .message := check_eq_ok_iff.mp (check_of_encode encoded) rfl rfl
    simp only [message, encode, check, ↓reduceIte, Except.ok.injEq] at encoded
    rw [← encoded] at decoded
    match bytes with
    | [] => simp [decode] at decoded
    | b :: bytes =>
      cases code : Packet.Kind.ofCode? b <;>
        simp [decode, code, Packet.withData, Packet.normalized, Payload.normalized] at decoded

theorem crosses_iff {p : Packet} {written read : Revision} (h : check p read = .ok ()) :
    Crosses p written read ↔ written = read ∨ p.carriesBytes = false := by
  constructor
  · intro crosses
    cases bytes : p.carriesBytes with
    | false => exact .inr rfl
    | true =>
      refine .inl (Decidable.byContradiction fun ne => ?_)
      exact not_crosses_of_carriesBytes ne bytes crosses
  · intro same
    cases same with
    | inl eq =>
      rw [eq]
      exact crosses_of_check h
    | inr textual => exact crosses_of_not_carriesBytes written read textual

end Frame

end Duplex
