import SocksProxy.Relay

/-!
A relay with its sniffer forgotten. Forgetting goes with every step: it makes no difference whether
the sniffer is left out before a step or after it. So what a relay does with its sockets, its
buffers and what it waits for does not depend on whether anybody watches.
-/

namespace SocksProxy

/-- What is forgotten after a run may be forgotten before it, together with the moves that change
nothing else. -/
theorem forget_foldl {σ μ : Type} {step : σ → μ → σ} {forget : σ → σ} {idle : μ → Bool}
    (heedless : ∀ s move, idle move = false → step (forget s) move = forget (step s move))
    (same : ∀ s move, idle move = true → forget (step s move) = forget s) (moves : List μ) (s : σ) :
    forget (moves.foldl step s) = (moves.filter fun move => !idle move).foldl step (forget s) := by
  induction moves generalizing s with
  | nil => rfl
  | cons move rest ih =>
      rw [List.foldl_cons, ih]
      cases kind : idle move with
      | true => rw [same s move kind, List.filter_cons_of_neg (by simp [kind])]
      | false =>
          rw [List.filter_cons_of_pos (by simp [kind]), List.foldl_cons, heedless s move kind]

def Entry.ofSniffer : Entry → Bool
  | .sighted _ _ _ | .sniffingSet _ => true
  | _ => false

namespace Monitor

/-- All but what the sniffer has counted and noted, and whether it is wanted. -/
def unsniffed (m : Monitor) : Monitor :=
  { sniffing := false
    stats := { m.stats with credentialsSniffed := 0 }
    journal := m.journal.filter fun entry => !entry.ofSniffer }

theorem unsniffed_note {entry : Entry} (other : entry.ofSniffer = false) (m : Monitor) :
    (m.note entry).unsniffed = m.unsniffed.note entry := by
  simp [unsniffed, note, other]

theorem unsniffed_sighted (client server : Net.SocketAddress) (login : Pop3.Sighting)
    (m : Monitor) : (m.sighted client server login).unsniffed = m.unsniffed := by
  simp [unsniffed, sighted, note, Stats.sniffed, Entry.ofSniffer]

theorem unsniffed_setSniffing (on : Bool) (m : Monitor) :
    (m.setSniffing on).unsniffed = m.unsniffed := by
  simp [unsniffed, setSniffing, note, Entry.ofSniffer]

end Monitor

namespace Relay

def unsniffed (r : Relay) : Relay := { r with sniffer := none }

def Move.isSwitch : Move → Bool
  | .setSniffing _ => true
  | _ => false

namespace Scene

def unsniffed (s : Scene) : Scene :=
  { s with relay := s.relay.unsniffed, monitor := s.monitor.unsniffed }

/-- A step comes to the same without the sniffer, and is refused for the same reason. -/
def Heedless (step : Scene → Scene × Option Net.IoError) : Prop :=
  ∀ s : Scene, step s.unsniffed = ((step s).1.unsniffed, (step s).2)

theorem unsniffed_report (s : Scene) (login : Pop3.Sighting) :
    (s.report login).unsniffed = s.unsniffed := by
  simp only [unsniffed, report, Monitor.unsniffed_sighted]

theorem unsniffed_sniff (s : Scene) (side : Side) (chunk : Bytes) :
    (s.sniff side chunk).unsniffed = s.unsniffed := by
  have reported : ∀ (logins : List Pop3.Sighting) (s : Scene),
      (logins.foldl report s).unsniffed = s.unsniffed := by
    intro logins
    induction logins with
    | nil => intro s; rfl
    | cons login rest ih => intro s; exact (ih _).trans (s.unsniffed_report login)
  unfold sniff
  split
  · split
    · rfl
    · rfl
    · exact reported _ _
  · rfl

theorem unsniffed_took (s : Scene) (side : Side) (received : Received) :
    (s.took side received).unsniffed = s.unsniffed.took side received := by
  have seen := ((s.withSocket side received.socket).withBuffer side
    ((s.buffers.get side).put received.bytes)).unsniffed_sniff side received.bytes
  unfold took
  dsimp only
  split
  · exact seen
  · exact congrArg (fun s : Scene => s.withContext side.other (·.arm .writeOnly)) seen

theorem unsniffed_sourceEnded (s : Scene) (side : Side) :
    (s.sourceEnded side).unsniffed = s.unsniffed.sourceEnded side := by
  unfold sourceEnded
  exact apply_ite unsniffed _ _ _

theorem unsniffed_sourceOpen (s : Scene) (side : Side) :
    (s.sourceOpen side).unsniffed = s.unsniffed.sourceOpen side := by
  unfold sourceOpen
  exact apply_ite unsniffed _ _ _

theorem unsniffed_sinkDrained (s : Scene) (side : Side) :
    (s.sinkDrained side).unsniffed = s.unsniffed.sinkDrained side := by
  unfold sinkDrained
  exact apply_ite unsniffed _ _ _

theorem unsniffed_sinkServed (s : Scene) (side : Side) (count : Nat) :
    (s.sinkServed side count).unsniffed = s.unsniffed.sinkServed side count := by
  unfold sinkServed
  by_cases some : 0 < count
  · simp only [some, ↓reduceIte]
    rw [apply_ite unsniffed, unsniffed_sinkDrained]
    rfl
  · simp only [some, ↓reduceIte]
    rw [apply_ite unsniffed, unsniffed_sinkDrained]
    rfl

theorem unsniffed_armed (s : Scene) : s.armed.unsniffed = s.unsniffed.armed := by
  unfold armed unsniffed
  dsimp only
  cases s.buffers.client.canRead <;> cases s.buffers.server.canRead <;> rfl

theorem unsniffed_register (s : Scene) (side : Side) :
    s.unsniffed.register side = ((s.register side).1.unsniffed, (s.register side).2) := rfl

theorem heedless_registerBoth (side : Side) : Heedless fun s => s.registerBoth side := by
  intro s
  unfold registerBoth
  dsimp only
  rw [unsniffed_register]
  dsimp only
  split
  · rfl
  · exact unsniffed_register _ side.other

theorem heedless_start : Heedless start := by
  intro s
  have started := heedless_registerBoth .client s.armed
  rwa [unsniffed_armed] at started

theorem heedless_onRead (side : Side) : Heedless (onRead side) := by
  intro s
  have same : (s.unsniffed.ends.get side).socket.receive (s.unsniffed.buffers.get side).room =
      (s.ends.get side).socket.receive (s.buffers.get side).room := rfl
  unfold onRead
  rw [same]
  generalize (s.ends.get side).socket.receive (s.buffers.get side).room = received
  dsimp only
  rw [← unsniffed_took, ← unsniffed_sourceEnded, ← unsniffed_sourceOpen]
  change (if (s.context side).allowed.read then _ else _) = _
  split
  · split <;> exact heedless_registerBoth side _
  · rfl

theorem heedless_onWrite (side : Side) : Heedless (onWrite side) := by
  intro s
  have same : (s.unsniffed.ends.get side).socket.transmit (s.unsniffed.buffers.get side.other).held =
      (s.ends.get side).socket.transmit (s.buffers.get side.other).held := rfl
  unfold onWrite
  rw [same]
  generalize (s.ends.get side).socket.transmit (s.buffers.get side.other).held = sent
  dsimp only
  rw [show s.unsniffed.gave side sent = (s.gave side sent).unsniffed from rfl,
    ← unsniffed_sinkServed]
  change (if (s.context side).allowed.write then _ else _) = _
  split
  · split
    · rfl
    · exact heedless_registerBoth side _
    · exact heedless_registerBoth side _
  · rfl

theorem heedless_move {move : Move} (other : move.isSwitch = false) : Heedless (Scene.move move) := by
  cases move with
  | start => exact heedless_start
  | readable side => exact heedless_onRead side
  | writable side => exact heedless_onWrite side
  | setSniffing on => cases other
  | far side move => exact fun s => rfl

theorem unsniffed_switch {move : Move} (switch : move.isSwitch = true) (s : Scene) :
    (s.move move).1.unsniffed = s.unsniffed := by
  cases move with
  | setSniffing on =>
      change { s.unsniffed with monitor := (s.monitor.setSniffing on).unsniffed } = _
      rw [Monitor.unsniffed_setSniffing]
      rfl
  | _ => cases switch

/-- A run comes to the same without the sniffer, and without the moves of its switch. -/
theorem unsniffed_run (moves : List Move) (s : Scene) :
    (s.run moves).unsniffed = s.unsniffed.run (moves.filter fun move => !move.isSwitch) :=
  forget_foldl (fun s _ other => congrArg Prod.fst (heedless_move other s))
    (fun s _ switch => unsniffed_switch switch s) moves s

end Scene

end Relay

end SocksProxy
