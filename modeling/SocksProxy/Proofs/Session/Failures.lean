import SocksProxy.Proofs.Session.Provision

/-!
A session fails for what its client, its destination, its registrations or its authority do, and
never for want of room or of something that it should have at hand. No cursor of a buffer is asked
to move further than it may.
-/

namespace SocksProxy

open Net (SocketAddress)

namespace Live

/-- Every move of a cursor that a session or its relay can make from here is granted, and leads to
the buffer that the session has after it. -/
structure Granted (s : Live) : Prop where
  reading : (s.inbound.store s.incoming.bytes).advanceWrite s.incoming.bytes.length =
    .ok s.took.inbound
  sending : s.outbound.advanceRead s.outgoing.count = .ok s.gave.outbound
  decoding : ∀ (σ α : Type) (d : Wire.Decoder σ α) (state : σ),
    s.inbound.advanceRead (s.inbound.size - (d.run state s.inbound.held).2.2.length) =
      .ok (d.runOn state s.inbound).2.2
  staging : ∀ (message : Message) (after : Buffer), message.write s.outbound = .ok after →
    (s.outbound.store message.encode).advanceWrite message.encode.length = .ok after
  relayReading : ∀ (relay : Relay) (server : Endpoint) (side : Side),
    let scene := s.scene relay server
    let received := (scene.ends.get side).socket.receive (scene.buffers.get side).room
    ((scene.buffers.get side).store received.bytes).advanceWrite received.bytes.length =
      .ok ((scene.took side received).buffers.get side)
  relayWriting : ∀ (relay : Relay) (server : Endpoint) (side : Side),
    let scene := s.scene relay server
    let sent := (scene.ends.get side).socket.transmit (scene.buffers.get side.other).held
    (scene.buffers.get side.other).advanceRead sent.count =
      .ok ((scene.gave side sent).buffers.get side.other)

theorem granted_staging {message : Message} {before after : Buffer}
    (written : message.write before = .ok after) :
    (before.store message.encode).advanceWrite message.encode.length = .ok after := by
  rw [Message.write_eq] at written
  by_cases fits : message.encode.length ≤ before.room
  · rw [Wire.writeExact_of_fits fits] at written
    rw [Buffer.advanceWrite_store fits, Except.ok.inj written]
  · rw [Wire.writeExact, if_pos (Nat.lt_of_not_le fits)] at written
    cases written

theorem granted (s : Live) : s.Granted where
  reading := Buffer.advanceWrite_store (Socket.receive_length _ _)
  sending := Buffer.advanceRead_of_le (Socket.transmit_count_le _ _)
  decoding _ _ _ _ := Buffer.advanceRead_of_le (Nat.sub_le _ _)
  staging _ _ written := granted_staging written
  relayReading relay server side := by
    intro scene received
    have stored := Relay.Scene.direction_took scene side received (Socket.receive_taken _ _)
    have buffer := congrArg Relay.Direction.buffer stored
    rw [Relay.Direction.store_buffer] at buffer
    have put := Buffer.advanceWrite_store (Socket.receive_length (scene.buffers.get side).room
      (scene.ends.get side).socket)
    exact put.trans (congrArg Except.ok buffer.symm)
  relayWriting relay server side := by
    intro scene sent
    have consumed := Buffer.advanceRead_of_le (Socket.transmit_count_le
      (scene.buffers.get side.other).held (scene.ends.get side).socket)
    exact consumed.trans (congrArg Except.ok (Pair.get_set_same _ _ _).symm)

/-- With buffers of at least the least size, a session that ends with an internal failure has it
from its authority, in every phase it has at hand what it needs there, every message is staged in an
empty buffer, and every cursor move is granted. -/
theorem no_internal_failure (services : Services) (id : SessionId) (client : Socket)
    (address : SocketAddress) (moves : List Move)
    (size : Settings.leastBuffer ≤ services.bufferSize)
    (ongoing : ∀ move ∈ moves, move.isOngoing = true) :
    let s := (accepted services id client address).run (.start :: moves)
    (∀ cause, s.session.phase = .failed cause → cause.isInternal = true →
      services.authority.FailsWith cause) ∧
      s.session.phase.Provided s ∧
      (∀ move : Move, move.isOngoing = true → s.Stages (s.move move)) ∧
      ∀ anywhere : Live, anywhere.Granted := by
  intro s
  have start := keeps_start services id client address
  have capacity : (accepted services id client address).start.outbound.capacity =
      services.bufferSize := (start.capacity .server).trans (Buffer.new_capacity _)
  have begun : Settings.leastBuffer ≤
      (accepted services id client address).start.outbound.capacity := capacity ▸ size
  have run := keeps_run moves ongoing begun start.provided
  have authority : s.services.authority = services.authority :=
    congrArg Conditions.authority (run.conditions.trans start.conditions)
  have still : Settings.leastBuffer ≤ s.outbound.capacity := run.capacity .server ▸ begun
  refine ⟨?_, run.provided, ?_, granted⟩
  · intro cause failed inside
    have provided : s.session.phase.Provided s := run.provided
    rw [failed] at provided
    rw [← authority]
    exact provided inside
  · intro move more
    exact (proceeds_move run.provided still more).stages

/-- The longest reply fills the smallest buffer. -/
theorem no_internal_failure_when_buffer_fills :
    let services : Services := { Services.reaching .empty with bufferSize := 262 }
    let moves : List Move :=
      [.far .client (.send ([5, 1, 0, 5, 1, 0, 3, 255] ++ List.replicate 255 97 ++ [0, 80])),
        .event (.readable .client), .event (.writable .client), .event (.readable .client),
        .finishLookup, .event .resumed]
    let s := (accepted services ⟨0⟩ .fresh (.ofIp .localhost 5000)).run (.start :: moves)
    Settings.leastBuffer ≤ services.bufferSize ∧ (∀ move ∈ moves, move.isOngoing = true) ∧
      s.outbound.room = 0 ∧ s.session.phase.Provided s := by
  intro services moves s
  have size : Settings.leastBuffer ≤ services.bufferSize := by decide
  have ongoing : ∀ move ∈ moves, move.isOngoing = true := by decide +kernel
  have full : s.outbound.room = 0 := by decide +kernel
  clear_value moves
  exact ⟨size, ongoing, full,
    (no_internal_failure services ⟨0⟩ .fresh (.ofIp .localhost 5000) moves size ongoing).2.1⟩

end Live

end SocksProxy
