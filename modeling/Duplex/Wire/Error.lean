import Duplex.Packet
import Duplex.Text.Decimal
import Duplex.Text.Quoted

-- Why a packet has no wire form, and why a wire form is no packet.

namespace Duplex

inductive DecodeError where
  | empty
  | unknownTag (tag : Char)
  | unknownCode (code : UInt8)
  | lengthPrefix (written : String)
  | lengthMismatch (expected available : Nat)
  | base64 (reason : String)
  | notUtf8
  deriving DecidableEq, Repr

namespace DecodeError

def message : DecodeError → String
  | empty => "empty packet"
  | unknownTag tag => "unknown packet type tag " ++ Text.quoteChar tag
  | unknownCode code => "unknown binary packet type byte " ++ Decimal.text code.toNat
  | lengthPrefix written => "malformed length prefix " ++ Text.quote written
  | lengthMismatch expected available =>
    "length prefix says " ++ Decimal.text expected ++ " bytes but " ++ Decimal.text available ++
      " are available"
  | base64 reason => "invalid base64 payload: " ++ reason
  | notUtf8 => "payload is not valid UTF-8"

end DecodeError

inductive EncodeError where
  | separatorInText
  | binaryControl (kind : Packet.Kind)
  deriving DecidableEq, Repr

namespace EncodeError

def message : EncodeError → String
  | separatorInText => "text contains the record separator and cannot be batched"
  | binaryControl kind =>
    kind.name ++ " packets cannot carry binary data on this protocol revision"

end EncodeError

end Duplex
