import SocksProxy.Relay

/-!
A step of a relay taken apart into the smallest changes of a scene. What every such change keeps,
every run keeps, whatever the steps made of them decide.
-/

namespace SocksProxy.Relay.Scene

/-- The smallest changes that steps are made of. -/
inductive Stroke : Scene → Scene → Prop where
  | context (s : Scene) (side : Side) (f : CopyContext → CopyContext) :
      Stroke s (s.withContext side f)
  | buffer (s : Scene) (side : Side) (buffer : Buffer) : Stroke s (s.withBuffer side buffer)
  | receive (s : Scene) (side : Side) (room : Nat) :
      Stroke s (s.withSocket side ((s.ends.get side).socket.receive room).socket)
  | transmit (s : Scene) (side : Side) (message : Bytes) :
      Stroke s (s.withSocket side ((s.ends.get side).socket.transmit message).socket)
  | shutdownRead (s : Scene) (side : Side) : Stroke s (s.withEnd side Endpoint.shutdownRead)
  | shutdownWrite (s : Scene) (side : Side) : Stroke s (s.withEnd side Endpoint.shutdownWrite)
  | register (s : Scene) (side : Side) : Stroke s (s.register side).1
  | countBytes (s : Scene) (n : Nat) : Stroke s { s with monitor := s.monitor.countBytes n }
  | sniffer (s : Scene) (sniffer : Pop3.Sniffer) : Stroke s (s.withSniffer sniffer)
  | report (s : Scene) (login : Pop3.Sighting) : Stroke s (s.report login)
  | setSniffing (s : Scene) (on : Bool) : Stroke s (s.setSniffing on)
  | farMove (s : Scene) (side : Side) (move : FarMove) : Stroke s (s.farMove move side)

inductive Strokes (first : Scene) : Scene → Prop where
  | none : Strokes first first
  | next {s after : Scene} (before : Strokes first s) (last : Stroke s after) : Strokes first after

namespace Strokes

variable {first s : Scene}

theorem keeps {kept : Scene → Prop} (stroke : ∀ {s after}, Stroke s after → kept s → kept after)
    {last : Scene} (strokes : Strokes first last) (before : kept first) : kept last := by
  induction strokes with
  | none => exact before
  | next earlier last ih => exact stroke last ih

theorem armed (strokes : Strokes first s) : Strokes first s.armed := by
  have reading := (strokes.next (.context s .client (·.arm .readOnly))).next
    (.context _ .server (·.arm .readOnly))
  have writing : Strokes first (if s.buffers.client.canRead then
      ((s.withContext .client (·.arm .readOnly)).withContext .server (·.arm .readOnly)).withContext
        .server (·.arm .writeOnly)
      else (s.withContext .client (·.arm .readOnly)).withContext .server (·.arm .readOnly)) := by
    split
    · exact reading.next (.context _ .server _)
    · exact reading
  unfold Scene.armed
  dsimp only
  split
  · exact writing.next (.context _ .client _)
  · exact writing

theorem registerBoth (strokes : Strokes first s) (side : Side) :
    Strokes first (s.registerBoth side).1 := by
  have one := strokes.next (.register s side)
  unfold Scene.registerBoth
  dsimp only
  split
  · exact one
  · exact one.next (.register _ side.other)

theorem sniff (strokes : Strokes first s) (side : Side) (chunk : Bytes) :
    Strokes first (s.sniff side chunk) := by
  have reported : ∀ (sightings : List Pop3.Sighting) (scene : Scene), Strokes first scene →
      Strokes first (sightings.foldl Scene.report scene) := by
    intro sightings
    induction sightings with
    | nil => intro scene before; exact before
    | cons sighting rest ih => intro scene before; exact ih _ (before.next (.report scene sighting))
  unfold Scene.sniff
  split
  · split
    · exact strokes
    · exact strokes.next (.sniffer s _)
    · exact reported _ _ (strokes.next (.sniffer s _))
  · exact strokes

theorem took (strokes : Strokes first s) (side : Side) (room : Nat) :
    Strokes first (s.took side ((s.ends.get side).socket.receive room)) := by
  have stored := (strokes.next (.receive s side room)).next (.buffer _ side
    ((s.buffers.get side).put ((s.ends.get side).socket.receive room).bytes))
  have seen := stored.sniff side ((s.ends.get side).socket.receive room).bytes
  unfold Scene.took
  dsimp only
  split
  · exact seen
  · exact seen.next (.context _ side.other _)

theorem sourceEnded (strokes : Strokes first s) (side : Side) :
    Strokes first (s.sourceEnded side) := by
  have cut := (strokes.next (.context s side (·.revoke .readOnly))).next (.shutdownRead _ side)
  unfold Scene.sourceEnded
  dsimp only
  split
  · exact (cut.next (.context _ side.other (·.revoke .writeOnly))).next
      (.shutdownWrite _ side.other)
  · exact cut

theorem sourceOpen (strokes : Strokes first s) (side : Side) :
    Strokes first (s.sourceOpen side) := by
  unfold Scene.sourceOpen
  split
  · exact strokes.next (.context s side _)
  · exact strokes.next (.context s side _)

theorem gave (strokes : Strokes first s) (side : Side) (message : Bytes) :
    Strokes first (s.gave side ((s.ends.get side).socket.transmit message)) :=
  ((strokes.next (.transmit s side message)).next (.buffer _ side.other _)).next
    (.countBytes _ _)

theorem sinkDrained (strokes : Strokes first s) (side : Side) :
    Strokes first (s.sinkDrained side) := by
  have idle := strokes.next (.context s side (·.disarm .writeOnly))
  unfold Scene.sinkDrained
  dsimp only
  split
  · exact idle
  · exact (idle.next (.context _ side (·.revoke .writeOnly))).next (.shutdownWrite _ side)

theorem sinkServed (strokes : Strokes first s) (side : Side) (count : Nat) :
    Strokes first (s.sinkServed side count) := by
  unfold Scene.sinkServed
  by_cases some : 0 < count
  · have resumed := strokes.next (.context s side.other (·.arm .readOnly))
    simp only [some, ↓reduceIte]
    split
    · exact resumed.sinkDrained side
    · exact resumed.next (.context _ side _)
  · simp only [some, ↓reduceIte]
    split
    · exact strokes.sinkDrained side
    · exact strokes.next (.context s side _)

end Strokes

theorem move_strokes (s : Scene) (move : Move) : Strokes s (s.move move).1 := by
  have nothing : Strokes s s := .none
  cases move with
  | start => exact nothing.armed.registerBoth .client
  | setSniffing on => exact nothing.next (.setSniffing s on)
  | far side move => exact nothing.next (.farMove s side move)
  | readable side =>
      change Strokes s (s.onRead side).1
      unfold onRead
      split
      · have stored := nothing.took side (s.buffers.get side).room
        dsimp only
        split
        · exact (stored.sourceEnded side).registerBoth side
        · exact (stored.sourceOpen side).registerBoth side
      · exact nothing
  | writable side =>
      change Strokes s (s.onWrite side).1
      unfold onWrite
      split
      · have stored := nothing.gave side (s.buffers.get side.other).held
        dsimp only
        split
        · exact stored
        · exact (stored.sinkServed side _).registerBoth side
        · exact (stored.sinkServed side _).registerBoth side
      · exact nothing

theorem withEnd_keeps (kept : Endpoint → Endpoint → Prop) {s : Scene} {side : Side}
    {f : Endpoint → Endpoint} (same : ∀ e, kept e e)
    (changed : kept (s.ends.get side) (f (s.ends.get side))) (way : Side) :
    kept (s.ends.get way) ((s.withEnd side f).ends.get way) := by
  rcases Side.eq_or_other side way with rfl | rfl
  · rw [withEnd, Pair.get_set_same]
    exact changed
  · rw [withEnd, Pair.get_other_set]
    exact same _

section Features

/-! What neither sockets nor registrations have a part in, no step of a relay changes. -/

variable {α : Type} (f : Endpoint → α) (socket : ∀ e socket, f { e with socket } = f e)
  (registration : ∀ e interest registered registry,
    f { e with interest, registered, registry } = f e)

include socket registration

theorem Stroke.same {s after : Scene} (stroke : Stroke s after) (way : Side) :
    f (after.ends.get way) = f (s.ends.get way) := by
  have changed : ∀ side (g : Endpoint → Endpoint), f (g (s.ends.get side)) = f (s.ends.get side) →
      f ((s.withEnd side g).ends.get way) = f (s.ends.get way) :=
    fun side g same => withEnd_keeps (fun e after => f after = f e) (fun _ => rfl) same way
  cases stroke with
  | receive side room | transmit side message | shutdownRead side | shutdownWrite side
  | farMove side move => exact changed side _ (socket _ _)
  | register side =>
      refine changed side (fun e => (e.setInterest (s.context side).interest).1) ?_
      obtain ⟨interest, registered, registry, own⟩ := Endpoint.setInterest_eq
        (Prod.eta ((s.ends.get side).setInterest (s.context side).interest)).symm
      rw [own]
      exact registration _ _ _ _
  | _ => rfl

theorem move_same (s : Scene) (move : Move) (way : Side) :
    f ((s.move move).1.ends.get way) = f (s.ends.get way) :=
  (move_strokes s move).keeps
    (fun stroke before => (stroke.same f socket registration way).trans before) rfl

end Features

theorem move_address (s : Scene) (move : Move) (way : Side) :
    ((s.move move).1.ends.get way).address = (s.ends.get way).address :=
  move_same Endpoint.address (fun _ _ => rfl) (fun _ _ _ _ => rfl) s move way

theorem withEnd_delivered {s : Scene} {side : Side} {f : Endpoint → Endpoint}
    (more : (s.ends.get side).socket.delivered <+: (f (s.ends.get side)).socket.delivered)
    (way : Side) :
    (s.ends.get way).socket.delivered <+: ((s.withEnd side f).ends.get way).socket.delivered :=
  withEnd_keeps (fun e after => e.socket.delivered <+: after.socket.delivered)
    (fun _ => List.prefix_rfl) more way

theorem withEnd_undelivered {s : Scene} {side : Side} {f : Endpoint → Endpoint}
    (same : (f (s.ends.get side)).socket.delivered = (s.ends.get side).socket.delivered)
    (way : Side) :
    (s.ends.get way).socket.delivered <+: ((s.withEnd side f).ends.get way).socket.delivered :=
  withEnd_delivered ⟨[], (List.append_nil _).trans same.symm⟩ way

theorem Stroke.delivered {s after : Scene} (stroke : Stroke s after) (way : Side) :
    (s.ends.get way).socket.delivered <+: (after.ends.get way).socket.delivered := by
  cases stroke with
  | receive side room =>
      obtain ⟨inbox, tail, taken, own⟩ := Socket.receive_socket room (s.ends.get side).socket
      exact withEnd_undelivered (by rw [own]) way
  | transmit side message =>
      exact withEnd_delivered ⟨_, (Socket.transmit_delivered _ _).symm⟩ way
  | shutdownRead side => exact withEnd_undelivered rfl way
  | shutdownWrite side => exact withEnd_undelivered rfl way
  | farMove side move =>
      obtain ⟨inbox, tail, space, broken, gone, own⟩ :=
        Socket.farMove_socket move (s.ends.get side).socket
      exact withEnd_undelivered (by rw [own]) way
  | register side =>
      exact withEnd_undelivered (f := fun e => (e.setInterest (s.context side).interest).1)
        (by rw [Endpoint.setInterest_socket (Prod.eta _).symm]) way
  | _ => exact List.prefix_rfl

theorem move_delivered (s : Scene) (move : Move) (way : Side) :
    (s.ends.get way).socket.delivered <+: ((s.move move).1.ends.get way).socket.delivered := by
  have onward : ∀ {before after : Scene}, Stroke before after →
      (s.ends.get way).socket.delivered <+: (before.ends.get way).socket.delivered →
        (s.ends.get way).socket.delivered <+: (after.ends.get way).socket.delivered :=
    fun stroke earlier => earlier.trans (stroke.delivered way)
  exact (move_strokes s move).keeps onward List.prefix_rfl

end SocksProxy.Relay.Scene
