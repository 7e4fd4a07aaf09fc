import Duplex.Wire.Error
import Duplex.Json.Writer

-- What can go wrong with a request or a session, and how a client is told.

namespace Duplex

-- A span of milliseconds in words: seconds with as many places as it needs, from one second on.
def Duration.text (milliseconds : Nat) : String :=
  if milliseconds = 0 then "0ns"
  else if milliseconds < 1000 then Decimal.text milliseconds ++ "ms"
  else
    let places := Decimal.digits (1000 + milliseconds % 1000) |>.drop 1
    let places := (places.reverse.dropWhile (· = '0')).reverse
    let fraction := if places = [] then [] else '.' :: places
    String.ofList (Decimal.digits (milliseconds / 1000) ++ fraction ++ ['s'])

inductive Fault where
  | decode (e : DecodeError)
  | encode (e : EncodeError)
  | transport (reason : String)
  | unknownSession (sid : String)
  | unknownTransport (name : String)
  | transportMismatch (reason : String)
  | unsupportedRevision (name : String)
  | badMethod
  | heartbeatTimeout
  | upgradeTimeout (milliseconds : Nat)
  | payloadTooLarge (limit : Nat)
  | sessionClosed
  | forbidden (reason : String)
  deriving DecidableEq, Repr

namespace Fault

def kind : Fault → String
  | decode _ => "decode"
  | encode _ => "encode"
  | transport _ => "transport"
  | unknownSession _ => "unknown_session"
  | unknownTransport _ => "unknown_transport"
  | transportMismatch _ => "transport_mismatch"
  | unsupportedRevision _ => "unsupported_protocol"
  | badMethod => "bad_handshake_method"
  | heartbeatTimeout => "heartbeat_timeout"
  | upgradeTimeout _ => "upgrade_probe_timeout"
  | payloadTooLarge _ => "payload_too_large"
  | sessionClosed => "session_closed"
  | forbidden _ => "forbidden"

def message : Fault → String
  | decode e => "decode error: " ++ e.message
  | encode e => "encode error: " ++ e.message
  | transport reason => "transport error: " ++ reason
  | unknownSession sid => "unknown session id " ++ Text.quote sid
  | unknownTransport name => "transport " ++ Text.quote name ++ " is unknown or not allowed"
  | transportMismatch reason => "transport mismatch: " ++ reason
  | unsupportedRevision name => "unsupported protocol version " ++ Text.quote name
  | badMethod => "bad handshake method"
  | heartbeatTimeout => "heartbeat timeout"
  | upgradeTimeout limit => "upgrade probe timed out after " ++ Duration.text limit
  | payloadTooLarge limit => "payload exceeds the " ++ Decimal.text limit ++ " byte limit"
  | sessionClosed => "session closed"
  | forbidden reason => "forbidden: " ++ reason

-- The number that a client is told.
def code : Fault → Nat
  | unknownTransport _ => 0
  | unknownSession _ => 1
  | badMethod => 2
  | forbidden _ => 4
  | unsupportedRevision _ => 5
  | _ => 3

-- The words that go with the number. They keep the details from the client.
def codeMessage (f : Fault) : String :=
  match f.code with
  | 0 => "Transport unknown"
  | 1 => "Session ID unknown"
  | 2 => "Bad handshake method"
  | 4 => "Forbidden"
  | 5 => "Unsupported protocol version"
  | _ => "Bad request"

def status : Fault → Nat
  | forbidden _ => 403
  | _ => 400

def body (f : Fault) : String :=
  (Json.object [("code", .ofNat f.code), ("message", .string f.codeMessage)]).render

end Fault

end Duplex
