import Mathlib
import Duplex.Proofs.Wire.Strict

-- A frame is read as the packet that it was written for, and a packet that was read is written as
-- the frame that it was read from. Only bytes have a second form: they may come as base64 text, but
-- they never leave in it.

namespace Duplex.Frame

-- Bytes, with the type that revision 3 puts in front of them.
def ofBytes (kind : Packet.Kind) (bytes : Bytes) : Revision → Frame
  | .v3 => .binary (kind.code :: bytes)
  | .v4 => .binary bytes

-- A text frame that starts with the mark of base64.
def isBase64 : Frame → Bool
  | text s => s.toList.head? = some base64Mark
  | binary _ => false

section

variable {kind : Packet.Kind} {bytes : Bytes} {r : Revision}

theorem isBase64_tagged (kind : Packet.Kind) (cs : List Char) :
    isBase64 (.text (String.ofList (tagged kind cs))) = false := by
  simp [isBase64, tagged, kind.tag_ne_base64Mark]

theorem isBase64_base64Text (kind : Packet.Kind) (r : Revision) (bytes : Bytes) :
    isBase64 (.text (String.ofList (base64Text kind r bytes))) := by
  simp [isBase64, base64Text]

theorem encode_withData_text (kind : Packet.Kind) (s : String) (r : Revision) :
    encode (.withData kind (.text s)) r = .ok (.text (String.ofList (tagged kind s.toList))) := by
  by_cases empty : s = "" <;> simp [encode, check, Packet.withData, Payload.normalized, empty]

theorem encode_withData_binary (h : r = .v4 → kind = .message) (bytes : Bytes) :
    encode (.withData kind (.binary bytes)) r = .ok (ofBytes kind bytes r) := by
  cases r
  case v3 => rfl
  case v4 => simp [encode, check, Packet.withData, Payload.normalized, ofBytes, h rfl]

-- Revision 3 finds the type of bytes in front of them, in revision 4 they are a message.
theorem decode_binary_eq_ok {p : Packet} (h : decode (.binary bytes) r = .ok p) :
    ∃ kind content, (r = .v4 → kind = .message) ∧ p = .withData kind (.binary content) ∧
      .binary bytes = ofBytes kind content r := by
  cases r with
  | v4 => exact ⟨.message, bytes, fun _ => rfl, (Except.ok.inj h).symm, rfl⟩
  | v3 =>
    cases bytes with
    | nil => simp [decode] at h
    | cons b content =>
      simp only [decode] at h
      split at h
      · next kind found =>
        have code := Packet.Kind.code_of_ofCode? found
        exact ⟨kind, content, by simp, (Except.ok.inj h).symm, by simp [ofBytes, code]⟩
      · simp at h

end

-- What is read is the text form of a text, the base64 form of bytes, or bytes as they are.
theorem decode_eq_ok {f : Frame} {r : Revision} {p : Packet} (h : decode f r = .ok p) :
    (∃ kind s, p = .withData kind (.text s) ∧
        f = .text (String.ofList (tagged kind s.toList))) ∨
      ∃ kind bytes, (r = .v4 → kind = .message) ∧ p = .withData kind (.binary bytes) ∧
        (f = .text (String.ofList (base64Text kind r bytes)) ∨ f = ofBytes kind bytes r) := by
  cases f with
  | text s =>
    have chars : String.ofList s.toList = s := String.ofList_toList
    have read : decodeText r s.toList = .ok p := h
    obtain ⟨kind, t, packet, written⟩ | ⟨kind, bytes, message, packet, written⟩ :=
      decodeText_eq_ok read
    · exact .inl ⟨kind, t, packet, by rw [← written, chars]⟩
    · exact .inr ⟨kind, bytes, message, packet, .inl (by rw [← written, chars])⟩
  | binary bytes =>
    have ⟨kind, content, message, packet, written⟩ := decode_binary_eq_ok h
    exact .inr ⟨kind, content, message, packet, .inr written⟩

-- A packet has a frame if and only if it passes the check, with the same complaint if it does not,
-- and the frame reads as the packet. In the other direction a frame that reads as a packet is the
-- frame of that packet, but for base64 text, which reads as the same packet as the bytes themselves.
theorem encode_inverts_decode (r : Revision) :
    (∀ p, (∀ e, encode p r = .error e ↔ check p r = .error e) ∧
        ((∃ f, encode p r = .ok f) ↔ check p r = .ok ()) ∧
        ∀ f, encode p r = .ok f → decode f r = .ok p.normalized) ∧
      ∀ f p, decode f r = .ok p →
        (f.isBase64 = false → encode p r = .ok f) ∧
          (f.isBase64 → ∃ bytes, p.data = some (.binary bytes) ∧
            encode p r = .ok (ofBytes p.kind bytes r) ∧
            decode (ofBytes p.kind bytes r) r = .ok p) := by
  refine ⟨fun p => ⟨fun e => encode_eq_error_iff, ⟨?_, exists_encode_of_check⟩,
    fun f => decode_encode⟩, fun f p read => ?_⟩
  · intro ⟨f, encoded⟩
    exact check_of_encode encoded
  obtain ⟨kind, s, packet, written⟩ | ⟨kind, bytes, message, packet, written⟩ := decode_eq_ok read
  · have textual := isBase64_tagged kind s.toList
    rw [written, packet]
    exact ⟨fun _ => encode_withData_text kind s r, fun base64 => absurd (textual ▸ base64) nofun⟩
  · have encoded := encode_withData_binary message bytes
    have again : decode (ofBytes kind bytes r) r = .ok p := packet ▸ decode_encode encoded
    rw [packet] at again ⊢
    refine ⟨fun plain => ?_, fun _ => ⟨bytes, rfl, encoded, again⟩⟩
    cases written with
    | inl base64 =>
      have marked := isBase64_base64Text kind r bytes
      rw [← base64, plain] at marked
      exact absurd marked nofun
    | inr direct => exact direct ▸ encoded

-- Bytes in base64 text leave as a binary frame, behind their type.
theorem encode_inverts_decode_base64 :
    let p : Packet := { kind := .pong, data := some (.binary [1, 2]) }
    decode (.text "b3AQI=") .v3 = .ok p ∧ encode p .v3 = .ok (.binary [3, 1, 2]) ∧
      decode (.binary [3, 1, 2]) .v3 = .ok p := by
  intro p
  have read : decode (.text "b3AQI=") .v3 = .ok p := by cbv
  obtain ⟨bytes, data, written, again⟩ := ((encode_inverts_decode .v3).2 _ _ read).2 (by cbv)
  obtain rfl : [1, 2] = bytes := by simpa [p] using data
  exact ⟨read, written, again⟩

end Duplex.Frame
