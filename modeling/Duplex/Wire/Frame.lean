import Duplex.Revision
import Duplex.Wire.Base64
import Duplex.Wire.Error

-- One packet as one websocket frame.

namespace Duplex

inductive Frame where
  | text (s : String)
  | binary (bytes : Bytes)
  deriving DecidableEq, Repr, Inhabited

namespace Frame

-- Revision 4 writes bytes without a type, so only a message may carry them.
def check (p : Packet) (r : Revision) : Except EncodeError Unit :=
  match p.data, r with
  | some (.binary _), .v4 => if p.kind = .message then .ok () else .error (.binaryControl p.kind)
  | _, _ => .ok ()

-- The text form of a packet without bytes: its tag and its text.
def tagged (kind : Packet.Kind) (text : List Char) : List Char :=
  kind.tag :: text

def encode (p : Packet) (r : Revision) : Except EncodeError Frame :=
  match check p r with
  | .error e => .error e
  | .ok () =>
    match p.data, r with
    | some (.binary bytes), .v4 => .ok (.binary bytes)
    | some (.binary bytes), .v3 => .ok (.binary (p.kind.code :: bytes))
    | some (.text s), _ => .ok (.text (String.ofList (tagged p.kind s.toList)))
    | none, _ => .ok (.text (String.ofList (tagged p.kind [])))

-- The mark in front of bytes that travel as base64 text.
def base64Mark : Char := 'b'

-- The tag of bytes in base64 text: revision 4 leaves it out, they can only be a message.
def base64Tag (kind : Packet.Kind) : Revision → List Char
  | .v3 => [kind.tag]
  | .v4 => []

def base64Text (kind : Packet.Kind) (r : Revision) (bytes : Bytes) : List Char :=
  base64Mark :: base64Tag kind r ++ Base64.encodeText bytes

def decodeBase64 (kind : Packet.Kind) (cs : List Char) : Except DecodeError Packet :=
  match Base64.decodeText cs with
  | .ok bytes => .ok (.withData kind (.binary bytes))
  | .error e => .error (.base64 e.message)

def kindOfTag (c : Char) : Except DecodeError Packet.Kind :=
  match Packet.Kind.ofTag? c with
  | some kind => .ok kind
  | none => .error (.unknownTag c)

-- A packet written as text, in a frame or as a record of a batch.
def decodeText (r : Revision) : List Char → Except DecodeError Packet
  | [] => .error .empty
  | c :: cs =>
    if c = base64Mark then
      match r, cs with
      | .v4, _ => decodeBase64 .message cs
      | .v3, [] => .error .empty
      | .v3, t :: ts =>
        match kindOfTag t with
        | .ok kind => decodeBase64 kind ts
        | .error e => .error e
    else
      match kindOfTag c with
      | .ok kind => .ok (.withData kind (.text (String.ofList cs)))
      | .error e => .error e

def decode (f : Frame) (r : Revision) : Except DecodeError Packet :=
  match f, r with
  | .text s, _ => decodeText r s.toList
  | .binary bytes, .v4 => .ok (.withData .message (.binary bytes))
  | .binary [], .v3 => .error .empty
  | .binary (b :: bytes), .v3 =>
    match Packet.Kind.ofCode? b with
    | some kind => .ok (.withData kind (.binary bytes))
    | none => .error (.unknownCode b)

end Frame

end Duplex
