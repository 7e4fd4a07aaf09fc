import Duplex.Transport.Polling
import Duplex.Transport.Websocket
import Duplex.Wire.Batch

-- The transport that carries a session.

namespace Duplex

inductive Transport where
  | polling (t : Polling)
  | websocket (t : Websocket)
  deriving DecidableEq, Repr

-- The same outcome, seen of a larger thing than the transport itself.
def Dispatch.map {σ τ : Type} (f : σ → τ) (d : Dispatch σ) : Dispatch τ :=
  { transport := f d.transport, delivered := d.delivered, refused := d.refused }

namespace Transport

def id : Transport → TransportId
  | polling t => t.id
  | websocket t => t.id

def kind : Transport → TransportKind
  | polling _ => .polling
  | websocket _ => .websocket

def isClosed : Transport → Bool
  | polling t => t.closed
  | websocket t => t.closed

def writable : Transport → Bool
  | polling t => t.writable
  | websocket t => t.writable

def send (t : Transport) (packets : List Packet) : Dispatch Transport :=
  match t with
  | polling t => (t.send packets).map polling
  | websocket t => (t.send packets).map websocket

def close : Transport → Dispatch Transport
  | polling t => t.close.map polling
  | websocket t => t.close.map websocket

-- Only polling has anything to release.
def release : Transport → Dispatch Transport
  | polling t => t.release.map polling
  | websocket t => { transport := websocket t }

-- The peer behind a transport has something to say of itself.
def setPollClient (poll : PollId) (client : Peer) : Transport → Transport
  | polling t => polling (t.setClient poll client)
  | websocket t => websocket t

def setWriter (id : TransportId) (writer : Peer) : Transport → Transport
  | polling t => polling t
  | websocket t => websocket (t.setWriter id writer)

-- What a packet must obey to leave by this kind of transport.
def check (kind : TransportKind) (p : Packet) (r : Revision) : Except EncodeError Unit :=
  match kind with
  | .polling => Batch.check p r
  | .websocket => Frame.check p r

@[simp]
theorem kind_send (t : Transport) (packets : List Packet) :
    (t.send packets).transport.kind = t.kind := by
  cases t <;> rfl

@[simp]
theorem id_send (t : Transport) (packets : List Packet) :
    (t.send packets).transport.id = t.id := by
  cases t <;> simp [send, Dispatch.map, id]

end Transport

end Duplex
