import Duplex.Transport.Active

-- What a transport takes of the packets that it is sent. It takes a first part of them and gives
-- back the rest, and what it gives back it could not take at that moment.

namespace Duplex

-- The frame of a packet, if it has one.
def Frame.form? (r : Revision) (p : Packet) : Option Frame :=
  (Frame.encode p r).toOption

theorem Frame.form?_of_error {p : Packet} {r : Revision} {e : EncodeError}
    (h : Frame.encode p r = .error e) : Frame.form? r p = none := by
  simp [form?, h, Except.toOption]

theorem Frame.form?_of_ok {p : Packet} {r : Revision} {f : Frame} (h : Frame.encode p r = .ok f) :
    Frame.form? r p = some f := by
  simp [form?, h, Except.toOption]

-- Where packets go: to the polls of a transport, or to the writer of a websocket.
inductive Channel where
  | polls (id : TransportId)
  | websocket (id : TransportId) (revision : Revision)
  deriving DecidableEq

namespace Channel

def kind : Channel → TransportKind
  | polls _ => .polling
  | websocket _ _ => .websocket

def id : Channel → TransportId
  | polls id | websocket id _ => id

-- Packets that polls take are the answer to one poll. Packets that a websocket takes are written
-- one by one, and one without a frame is left out.
inductive Takes : Channel → List Packet → List Delivery → Prop
  | nothing {c : Channel} : Takes c [] []
  | answer {id : TransportId} (poll : PollId) (packets : List Packet) :
    Takes (polls id) packets [.answer poll packets]
  | frames {id : TransportId} {r : Revision} (packets : List Packet) :
    Takes (websocket id r) packets ((packets.filterMap (Frame.form? r)).map (.frame id))

end Channel

namespace Websocket

theorem write_append (r : Revision) (writer : Peer) (packets : List Packet) :
    ∃ taken, packets = taken ++ (write r writer packets).refused.getD [] ∧
      (write r writer packets).frames = taken.filterMap (Frame.form? r) := by
  induction packets generalizing writer with
  | nil => exact ⟨[], rfl, rfl⟩
  | cons p ps ih =>
    simp only [write]
    cases he : Frame.encode p r with
    | error e =>
      have ⟨taken, eq, frames⟩ := ih writer
      refine ⟨p :: taken, by simpa using eq, ?_⟩
      simpa [Frame.form?_of_error he] using frames
    | ok f =>
      cases ht : writer.take? with
      | none => exact ⟨[], rfl, rfl⟩
      | some writer' =>
        have ⟨taken, eq, frames⟩ := ih writer'
        refine ⟨p :: taken, by simpa using eq, ?_⟩
        simpa [Frame.form?_of_ok he] using frames

-- A writer that is there takes everything.
theorem write_present (r : Revision) (packets : List Packet) :
    write r .present packets =
      { writer := .present, frames := packets.filterMap (Frame.form? r) } := by
  induction packets with
  | nil => rfl
  | cons p ps ih =>
    simp only [write, Peer.take?, ih]
    cases he : Frame.encode p r with
    | error e => simp [Frame.form?_of_error he]
    | ok f => simp [Frame.form?_of_ok he]

theorem writer_write_of_refused {r : Revision} {writer : Peer} {packets rest : List Packet}
    (h : (write r writer packets).refused = some rest) :
    (write r writer packets).writer = .gone := by
  induction packets generalizing writer with
  | nil => simp [write] at h
  | cons p ps ih =>
    simp only [write] at h ⊢
    cases he : Frame.encode p r with
    | error e =>
      simp only [he] at h ⊢
      exact ih h
    | ok f =>
      simp only [he] at h ⊢
      cases ht : writer.take? with
      | none => rfl
      | some writer' =>
        simp only [ht] at h ⊢
        exact ih h

end Websocket

namespace Transport

def channel : Transport → Channel
  | polling t => .polls t.id
  | websocket t => .websocket t.id t.revision

theorem kind_channel (t : Transport) : t.channel.kind = t.kind := by
  cases t <;> rfl

theorem id_channel (t : Transport) : t.channel.id = t.id := by
  cases t <;> rfl

theorem send_takes (t : Transport) (packets : List Packet) :
    ∃ taken, t.channel.Takes taken (t.send packets).delivered ∧
      packets = taken ++ (t.send packets).refused.getD [] := by
  cases t with
  | polling t =>
    simp only [send, Dispatch.map, Polling.send]
    cases hp : t.parked with
    | none => exact ⟨[], .nothing, rfl⟩
    | some p =>
      cases ht : p.client.take? with
      | none => exact ⟨[], by simpa [ht] using Channel.Takes.nothing, by simp [ht]⟩
      | some client => exact ⟨packets, by simpa [ht] using .answer p.poll packets, by simp [ht]⟩
  | websocket t =>
    simp only [send, Dispatch.map, Websocket.send]
    split
    · obtain ⟨taken, eq, frames⟩ := Websocket.write_append t.revision t.writer packets
      exact ⟨taken, by simpa [frames] using .frames taken, eq⟩
    · exact ⟨[], .nothing, rfl⟩

-- A transport that gives something back takes nothing more.
theorem not_writable_of_refused {t : Transport} {packets rest : List Packet}
    (h : (t.send packets).refused = some rest) :
    (t.send packets).transport.writable = false := by
  cases t with
  | polling t => simp [send, Dispatch.map, writable, Polling.writable, Polling.hasLivePoll]
  | websocket t =>
    simp only [send, Dispatch.map, Websocket.send] at h ⊢
    split
    · next hw =>
      simp only [hw, ↓reduceIte] at h
      simp [writable, Websocket.writable, Websocket.writer_write_of_refused h, Peer.isThere]
    · next hw => simpa [writable] using hw

@[simp]
theorem channel_send (t : Transport) (packets : List Packet) :
    (t.send packets).transport.channel = t.channel := by
  cases t <;> simp [send, Dispatch.map, channel]

@[simp]
theorem isClosed_send (t : Transport) (packets : List Packet) :
    (t.send packets).transport.isClosed = t.isClosed := by
  cases t <;> simp [send, Dispatch.map, isClosed]

theorem release_polling (t : Polling) : (polling t).release = (polling t).send [.noop] := rfl

@[simp]
theorem channel_release (t : Transport) : t.release.transport.channel = t.channel := by
  cases t with
  | polling t => simp [release_polling]
  | websocket t => rfl

@[simp]
theorem kind_release (t : Transport) : t.release.transport.kind = t.kind := by
  cases t <;> rfl

@[simp]
theorem isClosed_release (t : Transport) : t.release.transport.isClosed = t.isClosed := by
  cases t with
  | polling t => simp [release_polling]
  | websocket t => rfl

@[simp]
theorem isClosed_close (t : Transport) : t.close.transport.isClosed = true := by
  cases t <;> simp [close, Dispatch.map, isClosed]

@[simp]
theorem channel_close (t : Transport) : t.close.transport.channel = t.channel := by
  cases t <;> simp [close, Dispatch.map, channel]

@[simp]
theorem kind_close (t : Transport) : t.close.transport.kind = t.kind := by
  cases t <;> rfl

section

variable (t : Transport)

@[simp]
theorem channel_setPollClient (poll : PollId) (client : Peer) :
    (t.setPollClient poll client).channel = t.channel := by
  cases t <;> rfl

@[simp]
theorem kind_setPollClient (poll : PollId) (client : Peer) :
    (t.setPollClient poll client).kind = t.kind := by
  cases t <;> rfl

@[simp]
theorem isClosed_setPollClient (poll : PollId) (client : Peer) :
    (t.setPollClient poll client).isClosed = t.isClosed := by
  cases t <;> rfl

@[simp]
theorem channel_setWriter (tid : TransportId) (writer : Peer) :
    (t.setWriter tid writer).channel = t.channel := by
  cases t <;> simp [setWriter, channel]

@[simp]
theorem kind_setWriter (tid : TransportId) (writer : Peer) :
    (t.setWriter tid writer).kind = t.kind := by
  cases t <;> rfl

@[simp]
theorem isClosed_setWriter (tid : TransportId) (writer : Peer) :
    (t.setWriter tid writer).isClosed = t.isClosed := by
  cases t <;> simp [setWriter, isClosed]

-- What a peer says of itself never makes a transport writable.

theorem not_writable_setPollClient (poll : PollId) (client : Peer) (h : t.writable = false) :
    (t.setPollClient poll client).writable = false := by
  cases t with
  | websocket t => exact h
  | polling t =>
    cases hp : t.parked with
    | none => simp [setPollClient, writable, Polling.writable, Polling.setClient,
        Polling.hasLivePoll, hp]
    | some p =>
      by_cases hq : p.poll = poll
      · cases hc : p.client <;> simp_all [setPollClient, writable, Polling.writable,
          Polling.setClient, Polling.hasLivePoll, Peer.isThere]
      · simp_all [setPollClient, writable, Polling.writable, Polling.setClient,
          Polling.hasLivePoll]

theorem not_writable_setWriter (tid : TransportId) (writer : Peer) (h : t.writable = false) :
    (t.setWriter tid writer).writable = false := by
  cases t with
  | polling t => exact h
  | websocket t =>
    simp only [setWriter, Websocket.setWriter]
    split
    · cases hw : t.writer <;>
        simp_all [writable, Websocket.writable, Peer.isThere]
    · exact h

end

end Transport

end Duplex
