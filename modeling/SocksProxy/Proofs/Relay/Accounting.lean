import SocksProxy.Proofs.Relay.HalfClose
import SocksProxy.Proofs.Relay.Progress
import SocksProxy.Proofs.Relay.Watched

/-!
What a relay counts. A round of writing adds what it has written to a counter of the whole process,
also when it fails after that, and nothing else that a relay does touches this counter. So the
counter grows by what the two sockets were given, however often a relay goes on after a failure.
-/

namespace SocksProxy.Relay

def Round.written (d : Direction) : Round → Bytes
  | .write sent => d.buffer.held.take sent.count
  | .start | .read _ => []

namespace Direction

theorem read_delivered (received : Received) (d : Direction) :
    (d.read received).delivered = d.delivered := by
  have stored : (d.store received.bytes).delivered = d.delivered := by
    unfold store
    dsimp only
    split <;> rfl
  unfold read
  dsimp only
  split
  · split <;> exact stored
  · split <;> exact stored

theorem after_delivered (round : Round) (d : Direction) :
    (d.after round).delivered = d.delivered ++ round.written d := by
  cases round with
  | start => exact (start_delivered d).trans (List.append_nil _).symm
  | read received => exact (read_delivered received d).trans (List.append_nil _).symm
  | write sent => exact write_delivered sent d

end Direction

namespace Scene

variable (s : Scene) (side : Side)

/-- Bytes that the whole process has passed on, as far as it counts. -/
def transferred (s : Scene) : UInt64 := s.monitor.stats.bytesTransferred

theorem transferred_hear (client server : Net.SocketAddress) (chunk : Pop3.Chunk) (w : Watch) :
    (w.hear client server chunk).monitor.stats.bytesTransferred =
      w.monitor.stats.bytesTransferred := by
  have reported : ∀ (logins : List Pop3.Sighting) (m : Monitor),
      (logins.foldl (fun m login => m.sighted client server login) m).stats.bytesTransferred =
        m.stats.bytesTransferred := by
    intro logins
    induction logins with
    | nil => intro m; rfl
    | cons login rest ih => intro m; exact ih (m.sighted client server login)
  unfold Watch.hear
  split
  · rfl
  · exact reported _ _

theorem transferred_onRead : (s.onRead side).1.transferred = s.transferred := by
  have watch := congrArg (fun w => w.monitor.stats.bytesTransferred) (s.watch_onRead side)
  refine Eq.trans watch ?_
  split
  · exact transferred_hear _ _ _ s.watch
  · rfl

theorem transferred_onWrite (may : (s.context side).allowed.write = true) :
    (s.onWrite side).1.transferred = s.transferred + UInt64.ofNat
      ((s.ends.get side).socket.transmit (s.buffers.get side.other).held).count :=
  congrArg (fun w => w.monitor.stats.bytesTransferred) (s.watch_onWrite side may)

def wrote (side : Side) (move : Move) (s : Scene) : Bytes :=
  match s.round? side.other move with
  | some round => round.written (s.direction side.other)
  | none => []

theorem move_wrote (move : Move) :
    ((s.move move).1.ends.get side).socket.delivered =
      (s.ends.get side).socket.delivered ++ s.wrote side move := by
  have after := congrArg Direction.delivered (direction_move s side.other move)
  have delivered : ∀ x : Scene,
      (x.direction side.other).delivered = (x.ends.get side).socket.delivered := by
    intro x
    rw [direction, Side.other_other]
  rw [delivered] at after
  rw [after, wrote]
  cases s.round? side.other move with
  | none => rw [List.append_nil, delivered]
  | some round => exact (Direction.after_delivered round _).trans (congrArg (· ++ _) (delivered s))

theorem wrote_writable (may : (s.context side).allowed.write = true) :
    (s.wrote side (.writable side)).length =
      ((s.ends.get side).socket.transmit (s.buffers.get side.other).held).count := by
  have happens : s.round? side.other (.writable side) =
      some (.write ((s.ends.get side).socket.transmit (s.buffers.get side.other).held)) := by
    simp [round?, direction, may]
  have bound := Socket.transmit_count_le (s.buffers.get side.other).held (s.ends.get side).socket
  rw [wrote, happens]
  exact (List.length_take ..).trans (Nat.min_eq_left bound)

theorem wrote_writable_other : s.wrote side (.writable side.other) = [] := by
  have nothing : s.round? side.other (.writable side.other) = none := by
    simp [round?, Side.other_ne]
  rw [wrote, nothing]

theorem wrote_writable_refused (may : ¬ (s.context side).allowed.write = true) :
    s.wrote side (.writable side) = [] := by
  have nothing : s.round? side.other (.writable side) = none := by
    simp [round?, direction, may]
  rw [wrote, nothing]

/-- Whatever a relay writes it counts, and it counts nothing else. -/
theorem move_transferred (move : Move) :
    (s.move move).1.transferred = s.transferred + UInt64.ofNat
      ((s.wrote .client move).length + (s.wrote .server move).length) := by
  have unwritten : ∀ {after : Scene}, after.transferred = s.transferred →
      s.wrote .client move = [] → s.wrote .server move = [] →
      after.transferred = s.transferred + UInt64.ofNat
        ((s.wrote .client move).length + (s.wrote .server move).length) := by
    intro after same client server
    rw [client, server, same]
    exact (UInt64.add_zero _).symm
  cases move with
  | start =>
      exact unwritten (congrArg (fun w => w.monitor.stats.bytesTransferred) s.watch_start) rfl rfl
  | setSniffing on => exact unwritten rfl rfl rfl
  | far side move => exact unwritten rfl rfl rfl
  | readable side =>
      have nothing : ∀ way, s.wrote way (.readable side) = [] := by
        intro way
        unfold wrote
        cases happens : s.round? way.other (.readable side) with
        | none => rfl
        | some round =>
            simp only [round?, Option.ite_none_right_eq_some, Option.some.injEq] at happens
            obtain ⟨-, rfl⟩ := happens
            rfl
      exact unwritten (s.transferred_onRead side) (nothing _) (nothing _)
  | writable side =>
      by_cases may : (s.context side).allowed.write = true
      · -- One side is written to, so only one of the two lengths is not zero.
        have other : s.wrote side.other (.writable side) = [] := by
          have nothing := s.wrote_writable_other side.other
          rwa [Side.other_other] at nothing
        have sum : (s.wrote .client (.writable side)).length +
            (s.wrote .server (.writable side)).length =
              (s.wrote side (.writable side)).length := by
          cases side with
          | client =>
              change s.wrote .server _ = [] at other
              rw [other]
              rfl
          | server =>
              change s.wrote .client _ = [] at other
              rw [other]
              exact Nat.zero_add _
        rw [sum, wrote_writable s side may]
        exact s.transferred_onWrite side may
      · have nothing : ∀ way, s.wrote way (.writable side) = [] := by
          intro way
          rcases side.eq_or_other way with rfl | rfl
          · exact s.wrote_writable_refused side may
          · exact s.wrote_writable_other way
        have still : (s.onWrite side).1.transferred = s.transferred := by
          rw [onWrite, if_neg may]
        exact unwritten still (nothing _) (nothing _)

/-- How a scene has come from an earlier one: each way what was held and what was read since is what
was written since and what is held now, and what was written both ways has been counted. -/
structure Accounts (first s : Scene) (read written : Pair Bytes) : Prop where
  taken : ∀ side, (s.ends.get side).socket.taken =
    (first.ends.get side).socket.taken ++ read.get side
  delivered : ∀ side, (s.ends.get side).socket.delivered =
    (first.ends.get side).socket.delivered ++ written.get side
  balance : ∀ side, (first.buffers.get side).held ++ read.get side =
    written.get side.other ++ (s.buffers.get side).held
  counted : s.transferred =
    first.transferred + UInt64.ofNat (written.client.length + written.server.length)

theorem run_transferred (moves : List Move) (s : Scene) : ∃ written : Pair Bytes,
    (∀ side, ((s.run moves).ends.get side).socket.delivered =
      (s.ends.get side).socket.delivered ++ written.get side) ∧
    (s.run moves).transferred =
      s.transferred + UInt64.ofNat (written.client.length + written.server.length) := by
  induction moves generalizing s with
  | nil =>
      refine ⟨⟨[], []⟩, ?_, (UInt64.add_zero _).symm⟩
      intro side
      cases side <;> exact (List.append_nil _).symm
  | cons move rest ih =>
      obtain ⟨written, delivered, counted⟩ := ih (s.move move).1
      refine ⟨⟨s.wrote .client move ++ written.client, s.wrote .server move ++ written.server⟩,
        ?_, ?_⟩
      · intro side
        refine (delivered side).trans ?_
        rw [move_wrote, List.append_assoc]
        cases side <;> rfl
      · refine counted.trans ?_
        rw [move_transferred, UInt64.add_assoc, ← UInt64.ofNat_add]
        simp only [List.length_append]
        congr 2
        omega

/-- A relay loses no byte and makes none up, and counts what it writes. -/
theorem run_accounts (moves : List Move) (s : Scene)
    (consistent : ∀ side, (s.direction side).Consistent) :
    ∃ read written, s.Accounts (s.run moves) read written := by
  obtain ⟨written, delivered, counted⟩ := run_transferred moves s
  have passes : ∀ side, ∃ read, ((s.run moves).ends.get side).socket.taken =
      (s.ends.get side).socket.taken ++ read ∧ (s.buffers.get side).held ++ read =
        written.get side.other ++ ((s.run moves).buffers.get side).held := by
    intro side
    obtain ⟨read, passed, taken, sent, balance⟩ := (run_leads side moves s (consistent side)).carried
    -- What has passed the sink is what the sink's socket has been given.
    have same : passed = written.get side.other :=
      List.append_cancel_left (sent.symm.trans (delivered side.other))
    exact ⟨read, taken, same ▸ balance⟩
  obtain ⟨up, upTaken, upBalance⟩ := passes .client
  obtain ⟨down, downTaken, downBalance⟩ := passes .server
  refine ⟨⟨up, down⟩, written, ?_, delivered, ?_, counted⟩
  · intro side
    cases side with
    | client => exact upTaken
    | server => exact downTaken
  · intro side
    cases side with
    | client => exact upBalance
    | server => exact downBalance

def connections (s : Scene) : UInt64 × UInt64 :=
  (s.monitor.stats.currentConnections, s.monitor.stats.historicConnections)

theorem Stroke.connections {s after : Scene} (stroke : Stroke s after) :
    after.connections = s.connections := by
  cases stroke <;> rfl

theorem move_connections (move : Move) : (s.move move).1.connections = s.connections :=
  (move_strokes s move).keeps (fun stroke same => stroke.connections.trans same) rfl

end Scene

end SocksProxy.Relay
