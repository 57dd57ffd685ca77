import SocksProxy.Relay

/-!
A relay seen one direction at a time: a source, the buffer that it is read into, and the sink that
this buffer is written to. A step on one side touches one direction only, reading the one that
begins there and writing the one that ends there. What a relay keeps is therefore proved of a single
direction, and holds of both.
-/

namespace SocksProxy.Relay

/-- One way through a relay: what is still allowed and waited for at its two ends, the buffer
between them, and what has passed the ends. -/
structure Direction where
  mayRead : Bool
  waitsRead : Bool
  mayWrite : Bool
  waitsWrite : Bool
  buffer : Buffer
  -- Everything read from the source.
  taken : Bytes
  -- Everything written to the sink.
  delivered : Bytes
  -- How often the sink's half for writing was shut down.
  writeShut : Nat

inductive Round where
  | start
  | read (received : Received)
  | write (sent : Sent)

namespace CopyContext

variable (wanted : Interest) (c : CopyContext)

@[simp] theorem arm_allowed : (c.arm wanted).allowed = c.allowed := rfl

@[simp] theorem arm_read :
    (c.arm wanted).interest.read = (c.interest.read || wanted.read && c.allowed.read) := rfl

@[simp] theorem arm_write :
    (c.arm wanted).interest.write = (c.interest.write || wanted.write && c.allowed.write) := rfl

@[simp] theorem disarm_allowed : (c.disarm wanted).allowed = c.allowed := rfl

@[simp] theorem disarm_read :
    (c.disarm wanted).interest.read = (c.interest.read && !wanted.read) := rfl

@[simp] theorem disarm_write :
    (c.disarm wanted).interest.write = (c.interest.write && !wanted.write) := rfl

@[simp] theorem revoke_interest : (c.revoke wanted).interest = (c.disarm wanted).interest := rfl

@[simp] theorem revoke_read :
    (c.revoke wanted).allowed.read = (c.allowed.read && !wanted.read) := rfl

@[simp] theorem revoke_write :
    (c.revoke wanted).allowed.write = (c.allowed.write && !wanted.write) := rfl

end CopyContext

namespace Direction

def armSource (d : Direction) : Direction :=
  { d with waitsRead := d.waitsRead || d.mayRead }

def armSink (d : Direction) : Direction :=
  { d with waitsWrite := d.waitsWrite || d.mayWrite }

def endSource (d : Direction) : Direction :=
  { d with mayRead := false, waitsRead := false }

def endSink (d : Direction) : Direction :=
  { d with mayWrite := false, waitsWrite := false, writeShut := d.writeShut + 1 }

def start (d : Direction) : Direction :=
  if d.buffer.canRead then d.armSource.armSink else d.armSource

def store (bytes : Bytes) (d : Direction) : Direction :=
  let stored := { d with buffer := d.buffer.put bytes, taken := d.taken ++ bytes }
  if bytes.isEmpty then stored else stored.armSink

def read (received : Received) (d : Direction) : Direction :=
  let stored := d.store received.bytes
  if received.ending.isClosed then
    if stored.buffer.isEmpty then stored.endSource.endSink else stored.endSource
  else if stored.buffer.canWrite then stored.armSource
  else { stored with waitsRead := false }

def pass (count : Nat) (d : Direction) : Direction :=
  { d with
    buffer := d.buffer.consume count
    delivered := d.delivered ++ d.buffer.held.take count }

def settleSink (d : Direction) : Direction :=
  if d.buffer.isEmpty then
    if d.mayRead then { d with waitsWrite := false } else d.endSink
  else d.armSink

def resume (count : Nat) (d : Direction) : Direction :=
  if 0 < count then d.armSource.settleSink else d.settleSink

def write (sent : Sent) (d : Direction) : Direction :=
  match sent.ending with
  | .failed _ => d.pass sent.count
  | .drained | .blocked => (d.pass sent.count).resume sent.count

def after : Round → Direction → Direction
  | .start => start
  | .read received => read received
  | .write sent => write sent

end Direction

namespace Scene

def direction (s : Scene) (side : Side) : Direction :=
  { mayRead := (s.context side).allowed.read
    waitsRead := (s.context side).interest.read
    mayWrite := (s.context side.other).allowed.write
    waitsWrite := (s.context side.other).interest.write
    buffer := s.buffers.get side
    taken := (s.ends.get side).socket.taken
    delivered := (s.ends.get side.other).socket.delivered
    writeShut := (s.ends.get side.other).socket.writeShut }

/-- What a move does to the direction that begins at a side, if it does anything to it. -/
def round? (side : Side) (s : Scene) : Move → Option Round
  | .start => some .start
  | .readable ready =>
      if ready = side ∧ (s.direction side).mayRead = true then
        some (.read ((s.ends.get side).socket.receive (s.buffers.get side).room))
      else none
  | .writable ready =>
      if ready = side.other ∧ (s.direction side).mayWrite = true then
        some (.write ((s.ends.get side.other).socket.transmit (s.buffers.get side).held))
      else none
  | .setSniffing _ | .far _ _ => none

section Parts

variable (s : Scene) (way : Side)

theorem direction_withContext (f : CopyContext → CopyContext) :
    (s.withContext way f).direction way =
      { s.direction way with
        mayRead := (f (s.context way)).allowed.read
        waitsRead := (f (s.context way)).interest.read } := by
  cases way <;> rfl

theorem direction_withContext_other (f : CopyContext → CopyContext) :
    (s.withContext way.other f).direction way =
      { s.direction way with
        mayWrite := (f (s.context way.other)).allowed.write
        waitsWrite := (f (s.context way.other)).interest.write } := by
  cases way <;> rfl

@[simp] theorem direction_armRead :
    (s.withContext way (·.arm .readOnly)).direction way = (s.direction way).armSource := by
  rw [direction_withContext]
  simp [direction, Direction.armSource, Interest.readOnly]

@[simp] theorem direction_armRead_other :
    (s.withContext way.other (·.arm .readOnly)).direction way = s.direction way := by
  rw [direction_withContext_other]
  simp [direction, Interest.readOnly]

@[simp] theorem direction_armWrite :
    (s.withContext way (·.arm .writeOnly)).direction way = s.direction way := by
  rw [direction_withContext]
  simp [direction, Interest.writeOnly]

@[simp] theorem direction_armWrite_other :
    (s.withContext way.other (·.arm .writeOnly)).direction way = (s.direction way).armSink := by
  rw [direction_withContext_other]
  simp [direction, Direction.armSink, Interest.writeOnly]

@[simp] theorem direction_disarmRead :
    (s.withContext way (·.disarm .readOnly)).direction way =
      { s.direction way with waitsRead := false } := by
  rw [direction_withContext]
  simp [direction, Interest.readOnly]

@[simp] theorem direction_disarmRead_other :
    (s.withContext way.other (·.disarm .readOnly)).direction way = s.direction way := by
  rw [direction_withContext_other]
  simp [direction, Interest.readOnly]

@[simp] theorem direction_disarmWrite :
    (s.withContext way (·.disarm .writeOnly)).direction way = s.direction way := by
  rw [direction_withContext]
  simp [direction, Interest.writeOnly]

@[simp] theorem direction_disarmWrite_other :
    (s.withContext way.other (·.disarm .writeOnly)).direction way =
      { s.direction way with waitsWrite := false } := by
  rw [direction_withContext_other]
  simp [direction, Interest.writeOnly]

@[simp] theorem direction_revokeRead :
    (s.withContext way (·.revoke .readOnly)).direction way = (s.direction way).endSource := by
  rw [direction_withContext]
  simp [direction, Direction.endSource, Interest.readOnly]

@[simp] theorem direction_revokeRead_other :
    (s.withContext way.other (·.revoke .readOnly)).direction way = s.direction way := by
  rw [direction_withContext_other]
  simp [direction, Interest.readOnly]

@[simp] theorem direction_revokeWrite :
    (s.withContext way (·.revoke .writeOnly)).direction way = s.direction way := by
  rw [direction_withContext]
  simp [direction, Interest.writeOnly]

@[simp] theorem direction_revokeWrite_other :
    (s.withContext way.other (·.revoke .writeOnly)).direction way =
      { s.direction way with mayWrite := false, waitsWrite := false } := by
  rw [direction_withContext_other]
  simp [direction, Interest.writeOnly]

@[simp] theorem direction_shutdownWrite :
    (s.withEnd way Endpoint.shutdownWrite).direction way = s.direction way := by
  cases way <;> rfl

@[simp] theorem direction_shutdownWrite_other :
    (s.withEnd way.other Endpoint.shutdownWrite).direction way =
      { s.direction way with writeShut := (s.direction way).writeShut + 1 } := by
  cases way <;> rfl

@[simp] theorem direction_shutdownRead (side : Side) :
    (s.withEnd side Endpoint.shutdownRead).direction way = s.direction way := by
  cases side <;> cases way <;> rfl

@[simp] theorem direction_withSocket (socket : Socket) :
    (s.withSocket way socket).direction way = { s.direction way with taken := socket.taken } := by
  cases way <;> rfl

@[simp] theorem direction_withSocket_other (socket : Socket) :
    (s.withSocket way.other socket).direction way =
      { s.direction way with
        delivered := socket.delivered, writeShut := socket.writeShut } := by
  cases way <;> rfl

@[simp] theorem direction_withBuffer (buffer : Buffer) :
    (s.withBuffer way buffer).direction way = { s.direction way with buffer } := by
  cases way <;> rfl

@[simp] theorem direction_withBuffer_other (buffer : Buffer) :
    (s.withBuffer way.other buffer).direction way = s.direction way := by
  cases way <;> rfl

@[simp] theorem direction_sniff (side : Side) (chunk : Bytes) :
    (s.sniff side chunk).direction way = s.direction way := by
  have reported : ∀ (sightings : List Pop3.Sighting) (scene : Scene),
      (sightings.foldl report scene).direction way = scene.direction way := by
    intro sightings
    induction sightings with
    | nil => intro scene; rfl
    | cons sighting rest ih => intro scene; exact ih (scene.report sighting)
  unfold sniff
  split
  · split
    · rfl
    · rfl
    · exact reported _ _
  · rfl

end Parts

theorem direction_register (s : Scene) (side way : Side) :
    (s.register side).1.direction way = s.direction way := by
  have same : ((s.ends.get side).setInterest (s.context side).interest).1.socket =
      (s.ends.get side).socket := Endpoint.setInterest_socket (Prod.eta _).symm
  cases side <;> cases way <;>
    simp_all [register, direction, Pair.get, Pair.set, context, Side.other]

@[simp] theorem direction_registerBoth (s : Scene) (side way : Side) :
    (s.registerBoth side).1.direction way = s.direction way := by
  unfold registerBoth
  dsimp only
  split
  · exact s.direction_register side way
  · exact (direction_register _ side.other way).trans (s.direction_register side way)

section Steps

variable (s : Scene) (way : Side)

theorem direction_armed : s.armed.direction way = (s.direction way).start := by
  unfold armed Direction.start
  cases way
  · rw [show Side.server = Side.client.other from rfl]
    by_cases up : s.buffers.client.canRead = true <;>
      by_cases down : s.buffers.server.canRead = true <;>
      simp [up, down, show (s.direction .client).buffer = s.buffers.client from rfl]
  · rw [show Side.client = Side.server.other from rfl]
    by_cases up : s.buffers.client.canRead = true <;>
      by_cases down : s.buffers.server.canRead = true <;>
      simp [up, down, show (s.direction .server).buffer = s.buffers.server from rfl]

theorem direction_took (received : Received)
    (read : received.socket.taken = (s.ends.get way).socket.taken ++ received.bytes) :
    (s.took way received).direction way = (s.direction way).store received.bytes := by
  have stored : ((s.withSocket way received.socket).withBuffer way
      ((s.buffers.get way).put received.bytes)).direction way =
      { s.direction way with
        buffer := (s.direction way).buffer.put received.bytes
        taken := (s.direction way).taken ++ received.bytes } := by
    rw [direction_withBuffer, direction_withSocket, read]
    rfl
  unfold took Direction.store
  by_cases nothing : received.bytes.isEmpty = true
  · simp only [nothing, ↓reduceIte, direction_sniff, stored]
  · simp only [nothing, Bool.false_eq_true, ↓reduceIte, direction_armWrite_other,
      direction_sniff, stored]

theorem direction_took_other (received : Received)
    (delivered : received.socket.delivered = (s.ends.get way.other).socket.delivered)
    (shut : received.socket.writeShut = (s.ends.get way.other).socket.writeShut) :
    (s.took way.other received).direction way = s.direction way := by
  have stored : ((s.withSocket way.other received.socket).withBuffer way.other
      ((s.buffers.get way.other).put received.bytes)).direction way = s.direction way := by
    rw [direction_withBuffer_other, direction_withSocket_other, delivered, shut]
    rfl
  unfold took
  by_cases nothing : received.bytes.isEmpty = true
  · simp only [nothing, ↓reduceIte, direction_sniff, stored]
  · simp only [nothing, Bool.false_eq_true, ↓reduceIte, Side.other_other, direction_armWrite,
      direction_sniff, stored]

theorem direction_sourceEnded :
    (s.sourceEnded way).direction way =
      if (s.direction way).buffer.isEmpty then (s.direction way).endSource.endSink
      else (s.direction way).endSource := by
  change (if (s.direction way).buffer.isEmpty = true then _ else _ : Scene).direction way = _
  split
  · simp [Direction.endSink]
  · simp

theorem direction_sourceEnded_other :
    (s.sourceEnded way.other).direction way = s.direction way := by
  unfold sourceEnded
  split <;> simp

theorem direction_sourceOpen :
    (s.sourceOpen way).direction way =
      if (s.direction way).buffer.canWrite then (s.direction way).armSource
      else { s.direction way with waitsRead := false } := by
  change (if (s.direction way).buffer.canWrite = true then _ else _ : Scene).direction way = _
  split
  · simp
  · simp

theorem direction_sourceOpen_other :
    (s.sourceOpen way.other).direction way = s.direction way := by
  unfold sourceOpen
  split <;> simp

theorem direction_gave (sent : Sent)
    (written : sent.socket.delivered =
      (s.ends.get way.other).socket.delivered ++ (s.buffers.get way).held.take sent.count)
    (shut : sent.socket.writeShut = (s.ends.get way.other).socket.writeShut) :
    (s.gave way.other sent).direction way = (s.direction way).pass sent.count := by
  unfold gave
  rw [Side.other_other]
  change ((s.withSocket way.other sent.socket).withBuffer way _).direction way = _
  rw [direction_withBuffer, direction_withSocket_other, written, shut]
  rfl

theorem direction_gave_other (sent : Sent)
    (taken : sent.socket.taken = (s.ends.get way).socket.taken) :
    (s.gave way sent).direction way = s.direction way := by
  change ((s.withSocket way sent.socket).withBuffer way.other _).direction way = _
  rw [direction_withBuffer_other, direction_withSocket, taken]
  rfl

theorem direction_sinkDrained :
    (s.sinkDrained way.other).direction way =
      if (s.direction way).mayRead then { s.direction way with waitsWrite := false }
      else (s.direction way).endSink := by
  unfold sinkDrained
  rw [Side.other_other]
  change (if (s.direction way).mayRead = true then _ else _ : Scene).direction way = _
  split
  · simp
  · simp [Direction.endSink]

theorem direction_sinkDrained_other :
    (s.sinkDrained way).direction way = s.direction way := by
  unfold sinkDrained
  dsimp only
  split <;> simp

theorem direction_sinkSettled :
    (if (s.direction way).buffer.isEmpty = true then s.sinkDrained way.other
      else s.withContext way.other (·.arm .writeOnly)).direction way =
      (s.direction way).settleSink := by
  unfold Direction.settleSink
  split
  · exact direction_sinkDrained s way
  · exact direction_armWrite_other s way

theorem direction_sinkServed (count : Nat) :
    (s.sinkServed way.other count).direction way = (s.direction way).resume count := by
  unfold sinkServed Direction.resume
  rw [Side.other_other]
  by_cases some : 0 < count
  · simp only [some, ↓reduceIte]
    rw [← direction_armRead]
    exact direction_sinkSettled _ way
  · simp only [some, ↓reduceIte]
    exact direction_sinkSettled s way

theorem direction_sinkServed_other (count : Nat) :
    (s.sinkServed way count).direction way = s.direction way := by
  unfold sinkServed
  by_cases some : 0 < count
  · simp only [some, ↓reduceIte]
    split
    · rw [direction_sinkDrained_other, direction_armRead_other]
    · rw [direction_armWrite, direction_armRead_other]
  · simp only [some, ↓reduceIte]
    split
    · rw [direction_sinkDrained_other]
    · rw [direction_armWrite]

end Steps

section Moves

variable (s : Scene) (way : Side)

theorem direction_onRead (may : (s.direction way).mayRead = true) :
    (s.onRead way).1.direction way =
      (s.direction way).read ((s.ends.get way).socket.receive (s.buffers.get way).room) := by
  have allowed : (s.context way).allowed.read = true := may
  have stored := direction_took s way _ (Socket.receive_taken (s.buffers.get way).room
    (s.ends.get way).socket)
  unfold onRead Direction.read
  rw [if_pos allowed]
  dsimp only
  rw [direction_registerBoth]
  split
  · rw [direction_sourceEnded, stored]
  · rw [direction_sourceOpen, stored]

theorem onRead_refused (may : ¬ (s.direction way).mayRead = true) : s.onRead way = (s, none) := by
  unfold onRead
  exact if_neg may

theorem direction_onRead_other : (s.onRead way.other).1.direction way = s.direction way := by
  obtain ⟨inbox, tail, taken, own⟩ := Socket.receive_socket (s.buffers.get way.other).room
    (s.ends.get way.other).socket
  have stored := direction_took_other s way _
    (by rw [own]) (by rw [own])
  unfold onRead
  split
  · dsimp only
    rw [direction_registerBoth]
    split
    · rw [direction_sourceEnded_other, stored]
    · rw [direction_sourceOpen_other, stored]
  · rfl

theorem direction_onWrite (may : (s.direction way).mayWrite = true) :
    (s.onWrite way.other).1.direction way =
      (s.direction way).write
        ((s.ends.get way.other).socket.transmit (s.buffers.get way).held) := by
  have allowed : (s.context way.other).allowed.write = true := may
  obtain ⟨space, delivered, own⟩ := Socket.transmit_socket (s.buffers.get way).held
    (s.ends.get way.other).socket
  have passed := direction_gave s way _
    (Socket.transmit_delivered (s.buffers.get way).held (s.ends.get way.other).socket)
    (by rw [own])
  unfold onWrite Direction.write
  rw [if_pos allowed, Side.other_other]
  dsimp only
  cases ((s.ends.get way.other).socket.transmit (s.buffers.get way).held).ending with
  | failed cause => exact passed
  | drained => rw [direction_registerBoth, direction_sinkServed, passed]
  | blocked => rw [direction_registerBoth, direction_sinkServed, passed]

theorem onWrite_refused (may : ¬ (s.direction way).mayWrite = true) :
    s.onWrite way.other = (s, none) := by
  unfold onWrite
  exact if_neg may

theorem direction_onWrite_other : (s.onWrite way).1.direction way = s.direction way := by
  obtain ⟨space, delivered, own⟩ := Socket.transmit_socket (s.buffers.get way.other).held
    (s.ends.get way).socket
  have passed := direction_gave_other s way _ (by rw [own] : _ = (s.ends.get way).socket.taken)
  unfold onWrite
  split
  · dsimp only
    split
    · exact passed
    · rw [direction_registerBoth, direction_sinkServed_other, passed]
    · rw [direction_registerBoth, direction_sinkServed_other, passed]
  · rfl

theorem direction_farMove (move : FarMove) (side : Side) :
    (s.farMove move side).direction way = s.direction way := by
  obtain ⟨inbox, tail, space, broken, gone, own⟩ := Socket.farMove_socket move
    (s.ends.get side).socket
  unfold farMove
  rw [own]
  cases side <;> cases way <;> rfl

/-- A move does to each direction what it does to it alone. -/
theorem direction_move (move : Move) :
    (s.move move).1.direction way =
      match s.round? way move with
      | some round => (s.direction way).after round
      | none => s.direction way := by
  cases move with
  | start => exact (direction_registerBoth _ _ _).trans (direction_armed s way)
  | setSniffing on => rfl
  | far side move => exact direction_farMove s way move side
  | readable side =>
      rcases side.eq_or_other way with rfl | rfl
      · by_cases may : (s.direction side).mayRead = true
        · have round : s.round? side (.readable side) = some _ := if_pos ⟨rfl, may⟩
          rw [round]
          exact direction_onRead s side may
        · have round : s.round? side (.readable side) = none := if_neg fun both => may both.2
          rw [round]
          exact congrArg (fun result => result.1.direction side) (onRead_refused s side may)
      · have round : s.round? way (.readable way.other) = none :=
          if_neg fun both => way.other_ne both.1
        rw [round]
        exact direction_onRead_other s way
  | writable side =>
      rcases side.eq_or_other way with rfl | rfl
      · have round : s.round? side (.writable side) = none :=
          if_neg fun both => side.other_ne both.1.symm
        rw [round]
        exact direction_onWrite_other s side
      · by_cases may : (s.direction way).mayWrite = true
        · have round : s.round? way (.writable way.other) = some _ := if_pos ⟨rfl, may⟩
          rw [round]
          exact direction_onWrite s way may
        · have round : s.round? way (.writable way.other) = none := if_neg fun both => may both.2
          rw [round]
          exact congrArg (fun result => result.1.direction way) (onWrite_refused s way may)

end Moves

end Scene

end SocksProxy.Relay
