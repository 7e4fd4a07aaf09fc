import Duplex.Transport.Delivery

-- A websocket: every packet is a frame for the writer of the connection.

namespace Duplex

structure Websocket where
  id : TransportId
  revision : Revision
  writer : Peer := .present
  closed : Bool := false
  deriving DecidableEq, Repr

-- How far the writing of packets came.
structure Websocket.Written where
  writer : Peer
  frames : List Frame := []
  refused : Option (List Packet) := none

namespace Websocket

def writable (t : Websocket) : Bool :=
  !t.closed && t.writer.isThere

-- Writes packets until the writer takes no more. A packet that has no frame form is left out.
def write (r : Revision) : Peer → List Packet → Written
  | writer, [] => { writer }
  | writer, p :: ps =>
    match Frame.encode p r with
    | .error _ => write r writer ps
    | .ok frame =>
      match writer.take? with
      | none => { writer := .gone, refused := some (p :: ps) }
      | some writer =>
        let rest := write r writer ps
        { rest with frames := frame :: rest.frames }

def send (t : Websocket) (packets : List Packet) : Dispatch Websocket :=
  if t.writable then
    let written := write t.revision t.writer packets
    { transport := { t with writer := written.writer }
      delivered := written.frames.map (.frame t.id)
      refused := written.refused }
  else { transport := t, refused := some packets }

-- The writer is told once that nothing follows.
def close (t : Websocket) : Dispatch Websocket :=
  if t.closed then { transport := t }
  else
    match t.writer.take? with
    | some writer =>
      { transport := { t with closed := true, writer }, delivered := [.hangUp t.id] }
    | none => { transport := { t with closed := true, writer := .gone } }

-- The writer of a connection has something to say of itself.
def setWriter (t : Websocket) (id : TransportId) (writer : Peer) : Websocket :=
  if t.id = id then { t with writer := t.writer.become writer } else t

@[simp]
theorem id_send (t : Websocket) (packets : List Packet) :
    (t.send packets).transport.id = t.id := by
  simp only [send]
  split <;> rfl

@[simp]
theorem closed_send (t : Websocket) (packets : List Packet) :
    (t.send packets).transport.closed = t.closed := by
  simp only [send]
  split <;> rfl

@[simp]
theorem id_close (t : Websocket) : t.close.transport.id = t.id := by
  simp only [close]
  split <;> (try split) <;> rfl

@[simp]
theorem revision_close (t : Websocket) : t.close.transport.revision = t.revision := by
  simp only [close]
  split <;> (try split) <;> rfl

@[simp]
theorem closed_close (t : Websocket) : t.close.transport.closed = true := by
  simp only [close]
  split <;> (try split) <;> simp_all

@[simp]
theorem revision_send (t : Websocket) (packets : List Packet) :
    (t.send packets).transport.revision = t.revision := by
  simp only [send]
  split <;> rfl

section

variable (t : Websocket) (tid : TransportId) (writer : Peer)

@[simp]
theorem id_setWriter : (t.setWriter tid writer).id = t.id := by
  simp only [setWriter]
  split <;> rfl

@[simp]
theorem revision_setWriter : (t.setWriter tid writer).revision = t.revision := by
  simp only [setWriter]
  split <;> rfl

@[simp]
theorem closed_setWriter : (t.setWriter tid writer).closed = t.closed := by
  simp only [setWriter]
  split <;> rfl

end

end Websocket

end Duplex
