import SocksProxy.Proofs.Relay.Watched

/-!
Reading read by read comes to what reading all at once comes to, whatever the system makes of each
attempt. The sniffer is shown exactly the octets that the cursor moves over, each of them once, and
what it makes of the reads it makes of all of them together.
-/

namespace SocksProxy.Relay.Scene

open Net (SocketAddress)

variable {wanted : Bool} {side : Side} {s : Scene}

/-- The scene once these octets have come from a side, with what has become of its watch. -/
def filled (side : Side) (socket : Socket) (buffer : Buffer) (watch : Watch) (s : Scene) : Scene :=
  ((s.withSocket side socket).withBuffer side buffer).withWatch watch

def hearingIf (wanted : Bool) (chunk : Pop3.Chunk) (s : Scene) : Watch :=
  if wanted then s.hearing chunk else s.watch

theorem filled_filled (s : Scene) (side : Side) (first second : Socket) (before after : Buffer)
    (earlier later : Watch) :
    (s.filled side first before earlier).filled side second after later =
      s.filled side second after later := by
  cases side <;> rfl

theorem filled_same (s : Scene) (side : Side) :
    s.filled side (s.ends.get side).socket (s.buffers.get side) s.watch = s := by
  cases side <;> rfl

theorem buffers_filled (s : Scene) (side : Side) (socket : Socket) (buffer : Buffer)
    (watch : Watch) : (s.filled side socket buffer watch).buffers.get side = buffer :=
  Pair.get_set_same _ side buffer

theorem socket_filled (s : Scene) (side : Side) (socket : Socket) (buffer : Buffer)
    (watch : Watch) : ((s.filled side socket buffer watch).ends.get side).socket = socket :=
  congrArg Endpoint.socket (Pair.get_set_same _ side _)

theorem hearingIf_append (s : Scene) (wanted : Bool) (side : Side) (socket : Socket)
    (buffer : Buffer) (first second : Bytes) :
    (s.filled side socket buffer (s.hearingIf wanted ⟨side, first⟩)).hearingIf wanted
        ⟨side, second⟩ = s.hearingIf wanted ⟨side, first ++ second⟩ := by
  cases wanted with
  | false => rfl
  | true =>
      refine Eq.trans ?_ (s.watch.hear_append side first second).symm
      cases side <;> rfl

theorem hearingIf_nil (s : Scene) (wanted : Bool) (side : Side) :
    s.hearingIf wanted ⟨side, []⟩ = s.watch := by
  unfold hearingIf
  rw [hearing_nil, ite_self]

theorem take_store {chunk : Bytes} {b : Buffer} (fits : chunk.length ≤ b.room) :
    (b.store chunk).free.take chunk.length = chunk := by
  have whole : chunk.take b.free.length = chunk := List.take_of_length_le fits
  simp [Buffer.store, whole]

theorem fill_store {chunk : Bytes} {b : Buffer} (fits : chunk.length ≤ b.room) :
    (b.store chunk).fill chunk.length = b.put chunk := by
  have moved := Buffer.advanceWrite_store fits
  unfold Buffer.advanceWrite at moved
  split at moved
  · exact Except.ok.inj moved
  · cases moved

theorem put_put {first second : Bytes} {b : Buffer}
    (fits : (first ++ second).length ≤ b.room) :
    (b.put first).put second = b.put (first ++ second) := by
  have both : (first ++ second).take b.free.length = first ++ second := List.take_of_length_le fits
  rw [Buffer.room, List.length_append] at fits
  have whole : first.take b.free.length = first :=
    List.take_of_length_le (Nat.le_of_add_right_le fits)
  have rest : second.take (b.free.length - first.length) = second :=
    List.take_of_length_le (Nat.le_sub_of_add_le' fits)
  simp [Buffer.put, Buffer.extend, both, whole, rest]

/-- The sniffer is shown what was read, cut out of the free cells while the cursor stands before
it. -/
theorem readOnce_eq {chunk : Bytes} (fits : chunk.length ≤ (s.buffers.get side).room) :
    s.readOnce wanted side chunk =
      s.filled side
        { (s.ends.get side).socket with
          inbox := (s.ends.get side).socket.inbox.drop chunk.length
          taken := (s.ends.get side).socket.taken ++ chunk }
        ((s.buffers.get side).put chunk) (s.hearingIf wanted ⟨side, chunk⟩) := by
  unfold readOnce
  dsimp only
  rw [take_store fits, fill_store fits]
  cases wanted with
  | false => cases side <;> rfl
  | true =>
      simp only [if_pos, shown_eq]
      cases side <;> rfl

/-- What came of reading, in as many reads as it may be, is what comes of reading all at once. -/
structure Reads (wanted : Bool) (side : Side) (s : Scene) (reading : Reading) : Prop where
  octets : reading.reads.flatten =
    ((s.ends.get side).socket.receive (s.buffers.get side).room).bytes
  something : [] ∉ reading.reads
  ending : reading.ending =
    ((s.ends.get side).socket.receive (s.buffers.get side).room).ending
  scene : reading.scene = s.filled side
    ((s.ends.get side).socket.receive (s.buffers.get side).room).socket
    ((s.buffers.get side).put reading.reads.flatten)
    (s.hearingIf wanted ⟨side, reading.reads.flatten⟩)

theorem reads_full (full : ¬ (s.buffers.get side).canWrite = true) :
    Reads wanted side s ⟨[], .full, s⟩ := by
  have none : (s.buffers.get side).room = 0 := by
    simpa [Buffer.canWrite, Buffer.room] using full
  refine ⟨?_, List.not_mem_nil, ?_, ?_⟩ <;> rw [none, Socket.receive_zero]
  · rfl
  · rw [List.flatten_nil, Buffer.put_nil, hearingIf_nil, filled_same]

theorem reads_end (room : (s.buffers.get side).canWrite = true)
    (empty : (s.ends.get side).socket.inbox = []) : Reads wanted side s (s.readEnd side) := by
  have some : 0 < (s.buffers.get side).room := by
    simpa [Buffer.canWrite, Buffer.room, List.length_pos_iff] using room
  refine ⟨?_, List.not_mem_nil, ?_, ?_⟩ <;> rw [Socket.receive_empty empty some]
  · rfl
  · rfl
  · change s.withSocket side _ = s.filled side _ ((s.buffers.get side).put []) _
    rw [Buffer.put_nil]
    change _ = s.filled side _ _ (s.hearingIf wanted ⟨side, []⟩)
    rw [hearingIf_nil]
    cases side <;> rfl

theorem room_put (chunk : Bytes) (b : Buffer) : (b.put chunk).room = b.room - chunk.length := by
  simp [Buffer.room, Buffer.put, Buffer.extend]

theorem reads_cons {chunk : Bytes} {later : Reading} (something : chunk ≠ [])
    (first : chunk <+: (s.ends.get side).socket.inbox)
    (fits : chunk.length ≤ (s.buffers.get side).room)
    (reads : Reads wanted side (s.readOnce wanted side chunk) later) :
    Reads wanted side s { later with reads := chunk :: later.reads } := by
  obtain ⟨octets, others, ending, scene⟩ := reads
  rw [readOnce_eq fits] at octets ending scene
  rw [socket_filled, buffers_filled, room_put] at octets ending scene
  have whole := Socket.receive_split first fits
  have brought : (chunk ++ later.reads.flatten).length ≤ (s.buffers.get side).room := by
    have rest := congrArg List.length octets
    have bound := Socket.receive_length ((s.buffers.get side).room - chunk.length)
      { (s.ends.get side).socket with
        inbox := (s.ends.get side).socket.inbox.drop chunk.length
        taken := (s.ends.get side).socket.taken ++ chunk }
    rw [List.length_append]
    omega
  refine ⟨?_, ?_, ?_, ?_⟩
  · rw [whole, List.flatten_cons, octets]
  · exact fun member => (List.mem_cons.mp member).elim (something ·.symm) others
  · rw [whole]
    exact ending
  · rw [whole, List.flatten_cons, ← put_put brought, ← hearingIf_append]
    exact scene.trans (filled_filled ..)

theorem room_of_canWrite {b : Buffer} (room : b.canWrite = true) : 0 < b.room := by
  simpa [Buffer.canWrite, Buffer.room, List.length_pos_iff] using room

theorem available_fits (most : Nat) (s : Scene) :
    (s.available side most).length ≤ (s.buffers.get side).room :=
  Nat.le_trans (List.length_take_le _ _) (Nat.min_le_right _ _)

theorem reads_upTo {most : Nat} {onwards : Scene → Reading}
    (positive : (s.buffers.get side).canWrite = true → 0 < most)
    (later : ∀ chunk, s.available side most = chunk →
      Reads wanted side (s.readOnce wanted side chunk) (onwards (s.readOnce wanted side chunk))) :
    Reads wanted side s (s.readUpTo wanted side most onwards) := by
  unfold readUpTo
  split
  case isTrue room =>
    split
    case h_1 nothing =>
      refine reads_end room ((List.take_eq_nil_iff.mp nothing).resolve_left ?_)
      exact Nat.ne_of_gt (Nat.lt_min.mpr ⟨positive room, room_of_canWrite room⟩)
    case h_2 first more brought =>
      have fits : (first :: more).length ≤ (s.buffers.get side).room :=
        brought ▸ available_fits most s
      exact reads_cons (List.cons_ne_nil first more) (brought ▸ List.take_prefix _ _) fits
        (later _ brought)
  case isFalse full => exact reads_full full

theorem inbox_of_room {chunk : Bytes} (brought : s.available side (s.buffers.get side).room = chunk)
    (room : ((s.readOnce wanted side chunk).buffers.get side).canWrite = true) :
    ((s.readOnce wanted side chunk).ends.get side).socket.inbox = [] := by
  have fits : chunk.length ≤ (s.buffers.get side).room := brought ▸ available_fits _ s
  have left := room_of_canWrite room
  rw [readOnce_eq fits, buffers_filled, room_put] at left
  rw [readOnce_eq fits, socket_filled]
  subst brought
  simp only [available, Nat.min_self, List.length_take] at left ⊢
  rw [List.drop_eq_nil_iff]
  omega

theorem reads_loop (attempts : List Attempt) (s : Scene) :
    Reads wanted side s (s.readLoop wanted side attempts) := by
  induction attempts generalizing s with
  | nil =>
      unfold readLoop
      refine reads_upTo room_of_canWrite fun chunk brought => ?_
      split
      case isTrue room => exact reads_end room (inbox_of_room brought room)
      case isFalse full => exact reads_full full
  | cons attempt rest ih =>
      cases attempt with
      | interrupted =>
          unfold readLoop
          split
          case isTrue => exact ih s
          case isFalse full => exact reads_full full
      | brings more =>
          unfold readLoop
          exact reads_upTo (fun _ => Nat.succ_pos more) fun chunk _ => ih _

def readsBy (attempts : List Attempt) (side : Side) (s : Scene) : List Bytes :=
  if (s.context side).allowed.read then (s.readLoop s.monitor.sniffing side attempts).reads else []

theorem readsBy_flatten (attempts : List Attempt) (side : Side) (s : Scene) :
    (s.readsBy attempts side).flatten = s.brought side := by
  unfold readsBy brought
  split
  · exact (reads_loop attempts s).octets
  · rfl

theorem took_eq (s : Scene) (side : Side) (received : Received) :
    s.took side received =
      let stored := s.filled side received.socket ((s.buffers.get side).put received.bytes)
        (s.hearingIf s.monitor.sniffing ⟨side, received.bytes⟩)
      if received.bytes.isEmpty then stored
      else stored.withContext side.other (·.arm .writeOnly) := by
  have seen : ((s.withSocket side received.socket).withBuffer side
      ((s.buffers.get side).put received.bytes)).sniff side received.bytes =
        s.filled side received.socket ((s.buffers.get side).put received.bytes)
          (s.hearingIf s.monitor.sniffing ⟨side, received.bytes⟩) := by
    rw [sniff_eq]
    unfold hearingIf
    change (if s.monitor.sniffing then _ else _) = _
    cases side <;> split <;> rfl
  unfold took
  dsimp only
  rw [seen]

theorem isEmpty_flatten {reads : List Bytes} (something : [] ∉ reads) :
    reads.flatten.isEmpty = reads.isEmpty := by
  cases reads with
  | nil => rfl
  | cons first rest =>
      cases first with
      | nil => exact absurd List.mem_cons_self something
      | cons octet more => rfl

/-- However the system cuts what there is to be read, a step of reading comes to the same. -/
theorem onReadBy_eq (attempts : List Attempt) (side : Side) (s : Scene) :
    s.onReadBy side attempts = s.onRead side := by
  have reads : Reads s.monitor.sniffing side s (s.readLoop s.monitor.sniffing side attempts) :=
    reads_loop attempts s
  unfold onReadBy onRead
  simp only [took_eq, ← reads.octets, ← isEmpty_flatten reads.something, reads.ending, reads.scene]

theorem moveBy_eq (attempts : List Attempt) (move : Move) (s : Scene) :
    s.moveBy attempts move = s.move move := by
  cases move with
  | readable side => exact onReadBy_eq attempts side s
  | start | writable side | setSniffing on | far side move => rfl

end SocksProxy.Relay.Scene
