import Duplex.Proofs.Transport.Takes
import Duplex.Session.Basic

-- What a flush does to a session: packets go from the front of the buffer to the transport, and
-- what then still waits cannot leave now.

namespace Duplex.Session

-- Packets only wait for a transport that cannot take them.
def Prompt (s : Session) : Prop :=
  s.buffer ≠ [] → s.transport.writable = false

section

variable (s : Session)

theorem transport_flush :
    s.flush.transport = s.transport ∨
      s.flush.transport = (s.transport.send s.buffer).transport := by
  by_cases ne : s.buffer = []
  · exact .inl (by rw [flush_of_buffer_nil ne])
  · cases h : s.transport.writable with
    | false => exact .inl (by rw [flush_of_not_writable h])
    | true =>
      have ⟨_, eq⟩ := flush_of_writable ne h
      exact .inr (by rw [eq])

@[simp]
theorem kind_flush : s.flush.transport.kind = s.transport.kind := by
  cases s.transport_flush with
  | inl eq => rw [eq]
  | inr eq => rw [eq, Transport.kind_send]

@[simp]
theorem channel_flush : s.flush.transport.channel = s.transport.channel := by
  cases s.transport_flush with
  | inl eq => rw [eq]
  | inr eq => rw [eq, Transport.channel_send]

@[simp]
theorem isClosed_flush : s.flush.transport.isClosed = s.transport.isClosed := by
  cases s.transport_flush with
  | inl eq => rw [eq]
  | inr eq => rw [eq, Transport.isClosed_send]

theorem flush_takes :
    ∃ taken moved, s.transport.channel.Takes taken moved ∧
      s.buffer = taken ++ s.flush.buffer ∧ s.flush.dispatched = s.dispatched ++ moved := by
  by_cases ne : s.buffer = []
  · exact ⟨[], [], .nothing, by rw [flush_of_buffer_nil ne]; simp⟩
  · cases h : s.transport.writable with
    | false => exact ⟨[], [], .nothing, by rw [flush_of_not_writable h]; simp⟩
    | true =>
      have ⟨_, eq⟩ := flush_of_writable ne h
      have ⟨taken, takes, split⟩ := s.transport.send_takes s.buffer
      exact ⟨taken, _, takes, by rw [eq]; exact ⟨split, rfl⟩⟩

theorem prompt_flush : s.flush.Prompt := by
  intro waits
  by_cases ne : s.buffer = []
  · rw [flush_of_buffer_nil ne] at waits
    exact absurd ne waits
  · cases h : s.transport.writable with
    | false => rw [flush_of_not_writable h, h]
    | true =>
      have ⟨_, eq⟩ := flush_of_writable ne h
      rw [eq] at waits ⊢
      cases hr : (s.transport.send s.buffer).refused with
      | none => simp [hr] at waits
      | some rest => exact Transport.not_writable_of_refused hr

end

end Duplex.Session
