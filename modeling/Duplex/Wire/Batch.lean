import Duplex.Text.Split
import Duplex.Wire.Frame

-- Many packets as one polling body. Revision 4 puts a separator between the records, revision 3
-- writes before each record how many bytes it takes.

namespace Duplex.Batch

-- The record separator of revision 4.
def separator : Char := '\x1e'

-- What a batch can carry: what a frame can, without the separator inside a text of revision 4.
def check (p : Packet) (r : Revision) : Except EncodeError Unit :=
  match Frame.check p r with
  | .error e => .error e
  | .ok () =>
    match p.data, r with
    | some (.text s), .v4 =>
      if separator ∈ s.toList then .error .separatorInText else .ok ()
    | _, _ => .ok ()

-- A packet as a record. Bytes travel as base64 here.
def record (p : Packet) (r : Revision) : List Char :=
  match p.data with
  | none => Frame.tagged p.kind []
  | some (.text s) => Frame.tagged p.kind s.toList
  | some (.binary bytes) => Frame.base64Text p.kind r bytes

-- The records of packets that can all be batched, or the complaint about the first that cannot.
def records (r : Revision) : List Packet → Except EncodeError (List (List Char))
  | [] => .ok []
  | p :: ps =>
    match check p r with
    | .error e => .error e
    | .ok () =>
      match records r ps with
      | .ok rest => .ok (record p r :: rest)
      | .error e => .error e

-- The mark between a length and its record.
def lengthMark : Char := ':'

def lengthPrefixed (cs : List Char) : List Char :=
  Decimal.digits (Text.byteLength cs) ++ lengthMark :: cs

def frameRecords : Revision → List (List Char) → List Char
  | .v4, records => Text.join separator records
  | .v3, records => records.flatMap lengthPrefixed

def encode (packets : List Packet) (r : Revision) : Except EncodeError String :=
  match records r packets with
  | .ok rs => .ok (String.ofList (frameRecords r rs))
  | .error e => .error e

def decodeRecords (r : Revision) : List (List Char) → Except DecodeError (List Packet)
  | [] => .ok []
  | cs :: rest =>
    match Frame.decodeText r cs with
    | .error e => .error e
    | .ok p =>
      match decodeRecords r rest with
      | .ok ps => .ok (p :: ps)
      | .error e => .error e

-- A length is a 64-bit number.
def maxLength : Nat := UInt64.size - 1

-- The first record of a revision 3 body and the text after it.
def cutRecord (cs : List Char) : Except DecodeError (List Char × List Char) :=
  match Text.cut? lengthMark cs with
  | none => .error (.lengthPrefix (String.ofList cs))
  | some (written, rest) =>
    match (Decimal.value? written).filter (· ≤ maxLength) with
    | none => .error (.lengthPrefix (String.ofList written))
    | some n =>
      match Text.takeBytes? n rest with
      | none => .error (.lengthMismatch n (Text.byteLength rest))
      | some (record, rest) => .ok (record, rest)

theorem cutRecord_lt {cs record rest : List Char} (h : cutRecord cs = .ok (record, rest)) :
    rest.length < cs.length := by
  simp only [cutRecord] at h
  split at h
  · simp at h
  · next written after hc =>
    split at h
    · simp at h
    · split at h
      · simp at h
      · next ht =>
        obtain ⟨rfl, _⟩ := Text.cut?_eq_some hc
        obtain ⟨rfl, _⟩ := Text.takeBytes?_eq_some ht
        simp only [Except.ok.injEq, Prod.mk.injEq] at h
        obtain ⟨rfl, rfl⟩ := h
        simp only [List.length_append, List.length_cons]
        omega

def decodeLengthPrefixed (cs : List Char) : Except DecodeError (List Packet) :=
  if cs = [] then .ok []
  else
    match _h : cutRecord cs with
    | .error e => .error e
    | .ok (record, rest) =>
      match Frame.decodeText .v3 record with
      | .error e => .error e
      | .ok p =>
        match decodeLengthPrefixed rest with
        | .ok ps => .ok (p :: ps)
        | .error e => .error e
  termination_by cs.length
  decreasing_by exact cutRecord_lt _h

-- A body holds at least one record.
def decodeChars (r : Revision) (cs : List Char) : Except DecodeError (List Packet) :=
  if cs = [] then .error .empty
  else
    match r with
    | .v4 => decodeRecords .v4 (Text.split separator cs)
    | .v3 => decodeLengthPrefixed cs

def decode (body : String) (r : Revision) : Except DecodeError (List Packet) :=
  decodeChars r body.toList

def decodeBytes (body : Bytes) (r : Revision) : Except DecodeError (List Packet) :=
  match Text.ofUtf8? body with
  | some s => decode s r
  | none => .error .notUtf8

theorem decodeBytes_utf8 (s : String) (r : Revision) :
    decodeBytes (Text.utf8 s) r = decode s r := by
  simp [decodeBytes, Text.ofUtf8?_utf8]

end Duplex.Batch
