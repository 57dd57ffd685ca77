import SocksProxy.Net

/-!
A stream socket as the proxy sees it: what the far end has sent, how its stream ends, how much it
still takes, and how the registry answers when its readiness is asked for. Everything read from it
and written to it is kept as a history, so what went through can be stated of a whole run.
-/

namespace SocksProxy

open Net (IoError)

/-- What can be asked of the registry for one socket. -/
inductive Registry.Call where
  | register
  | reregister
  | deregister
  deriving DecidableEq, Repr

/-- How the registry answers for one socket: to each kind of call with these answers in turn, a
refusal or none, and behind the last of them without a refusal. -/
structure Registry where
  register : List (Option IoError)
  reregister : List (Option IoError)
  deregister : List (Option IoError)
  deriving DecidableEq, Repr

namespace Registry

/-- Nothing is refused. -/
def accepting : Registry := ⟨[], [], []⟩

/-- Why a call is refused now, if it is. -/
def answer : Call → Registry → Option IoError
  | .register, r => r.register.head?.join
  | .reregister, r => r.reregister.head?.join
  | .deregister, r => r.deregister.head?.join

/-- What is left to be answered behind a call. -/
def after : Call → Registry → Registry
  | .register, r => { r with register := r.register.tail }
  | .reregister, r => { r with reregister := r.reregister.tail }
  | .deregister, r => { r with deregister := r.deregister.tail }

@[simp] theorem answer_accepting (call : Call) : accepting.answer call = none := by
  cases call <;> rfl

@[simp] theorem after_accepting (call : Call) : accepting.after call = accepting := by
  cases call <;> rfl

end Registry

/-- What follows the bytes that the far end has sent. -/
inductive Tail where
  -- More may come.
  | more
  | finished
  -- The next read fails; after that the stream has ended.
  | reset
  deriving DecidableEq, Repr

structure Socket where
  -- Sent by the far end and not read yet.
  inbox : Bytes
  tail : Tail
  -- How much more is taken before writes block, or fail if `broken`; no bound if absent.
  space : Option Nat
  broken : Bool
  -- Whether the far end has been closed.
  gone : Bool
  registry : Registry
  -- Everything read so far.
  taken : Bytes
  -- Everything written so far.
  delivered : Bytes
  -- How often the half that reads was shut down.
  readShut : Nat
  -- How often the half that writes was shut down.
  writeShut : Nat
  -- Whether the socket has been closed altogether.
  closed : Bool
  deriving DecidableEq, Repr

inductive ReadEnd where
  -- The buffer has no more room.
  | full
  -- Nothing is there at the moment.
  | blocked
  | ended
  | failed (cause : IoError)
  deriving DecidableEq, Repr

/-- Nothing more will ever be read. -/
def ReadEnd.isClosed : ReadEnd → Bool
  | .ended | .failed _ => true
  | .full | .blocked => false

inductive WriteEnd where
  | drained
  | blocked
  | failed (cause : IoError)
  deriving DecidableEq, Repr

structure Received where
  bytes : Bytes
  ending : ReadEnd
  socket : Socket

structure Sent where
  count : Nat
  ending : WriteEnd
  socket : Socket

namespace Socket

def fresh : Socket :=
  { inbox := [], tail := .more, space := none, broken := false, gone := false
    registry := .accepting, taken := [], delivered := [], readShut := 0, writeShut := 0
    closed := false }

/-- What a read finds once everything sent has been read. -/
def atEnd (s : Socket) : ReadEnd × Socket :=
  match s.tail with
  | .more => (.blocked, s)
  | .finished => (.ended, s)
  | .reset => (.failed .connectionReset, { s with tail := .finished })

/-- Read until there is no room or nothing more to read. -/
def receive (room : Nat) (s : Socket) : Received :=
  let bytes := s.inbox.take room
  let rest := { s with inbox := s.inbox.drop room, taken := s.taken ++ bytes }
  if room ≤ s.inbox.length then ⟨bytes, .full, rest⟩
  else ⟨bytes, rest.atEnd.1, rest.atEnd.2⟩

/-- How many of so many bytes are taken now. -/
def capacityFor (length : Nat) (s : Socket) : Nat :=
  match s.space with
  | none => length
  | some space => min space length

/-- Write until all is sent or no more is taken. -/
def transmit (message : Bytes) (s : Socket) : Sent :=
  let count := s.capacityFor message.length
  let rest := { s with
    space := s.space.map (· - count)
    delivered := s.delivered ++ message.take count }
  if message.length ≤ count then ⟨count, .drained, rest⟩
  else if s.broken then ⟨count, .failed .brokenPipe, rest⟩
  else ⟨count, .blocked, rest⟩

def shutdownRead (s : Socket) : Socket := { s with readShut := s.readShut + 1 }

/-- Nothing can be written after this. -/
def shutdownWrite (s : Socket) : Socket :=
  { s with writeShut := s.writeShut + 1, space := some 0, broken := true }

def close (s : Socket) : Socket := { s with closed := true }

/-- The far end has been told that nothing more comes. -/
def sawEnd (s : Socket) : Bool := s.writeShut != 0 || s.closed

/-- Once its stream has ended, nothing more can be sent. -/
def send (bytes : Bytes) (s : Socket) : Socket :=
  if s.tail = .more then { s with inbox := s.inbox ++ bytes } else s

def finish (s : Socket) : Socket :=
  if s.tail = .more then { s with tail := .finished } else s

/-- Gone: the stream ends, and writes fail after so many more bytes. -/
def leave (more : Nat) (s : Socket) : Socket :=
  if s.gone then s
  else
    { s.finish with
      gone := true
      space := if s.broken then s.space else some more
      broken := true }

/-- Gone with a fault that the next read meets. -/
def abort (more : Nat) (s : Socket) : Socket :=
  if s.gone then s else { s.leave more with tail := .reset }

def limit (more : Nat) (s : Socket) : Socket :=
  if s.broken then s else { s with space := some more }

def release (s : Socket) : Socket :=
  if s.broken then s else { s with space := none }

end Socket

inductive FarMove where
  | send (bytes : Bytes)
  | finish
  | leave (more : Nat)
  | abort (more : Nat)
  | limit (more : Nat)
  | release
  deriving DecidableEq, Repr

namespace Socket

def farMove : FarMove → Socket → Socket
  | .send bytes => send bytes
  | .finish => finish
  | .leave more => leave more
  | .abort more => abort more
  | .limit more => limit more
  | .release => release

theorem receive_bytes (room : Nat) (s : Socket) : (s.receive room).bytes = s.inbox.take room := by
  unfold receive
  split <;> rfl

theorem receive_length (room : Nat) (s : Socket) : (s.receive room).bytes.length ≤ room := by
  rw [receive_bytes]
  exact List.length_take_le room s.inbox

theorem atEnd_inbox (s : Socket) : s.atEnd.2.inbox = s.inbox := by
  unfold atEnd
  split <;> rfl

theorem atEnd_taken (s : Socket) : s.atEnd.2.taken = s.taken := by
  unfold atEnd
  split <;> rfl

theorem receive_taken (room : Nat) (s : Socket) :
    (s.receive room).socket.taken = s.taken ++ (s.receive room).bytes := by
  rw [receive_bytes]
  unfold receive
  split
  · rfl
  · exact atEnd_taken _

theorem receive_inbox (room : Nat) (s : Socket) :
    (s.receive room).bytes ++ (s.receive room).socket.inbox = s.inbox := by
  have kept : (s.receive room).socket.inbox = s.inbox.drop room := by
    unfold receive
    split
    · rfl
    · exact atEnd_inbox _
  rw [receive_bytes, kept, List.take_append_drop]

theorem transmit_delivered (message : Bytes) (s : Socket) :
    (s.transmit message).socket.delivered =
      s.delivered ++ message.take (s.transmit message).count := by
  unfold transmit
  dsimp only
  split
  · rfl
  · split <;> rfl

theorem transmit_count_le (message : Bytes) (s : Socket) :
    (s.transmit message).count ≤ message.length := by
  have bound : s.capacityFor message.length ≤ message.length := by
    unfold capacityFor
    split
    · exact Nat.le_refl _
    · exact Nat.min_le_right _ _
  unfold transmit
  dsimp only
  split
  · exact bound
  · split <;> exact bound

/-- A round of writing comes to an end with everything sent, or with something left. -/
theorem transmit_drained (message : Bytes) (s : Socket) :
    (s.transmit message).ending = .drained ↔ (s.transmit message).count = message.length := by
  have bound := s.transmit_count_le message
  have count : (s.transmit message).count = s.capacityFor message.length := by
    unfold transmit
    dsimp only
    split
    · rfl
    · split <;> rfl
  rw [count] at bound ⊢
  unfold transmit
  dsimp only
  split <;> rename_i all
  · simp only [true_iff]
    omega
  · have short : s.capacityFor message.length ≠ message.length := by omega
    split <;> simp [short]

/-- What a read finds at the end is no want of room. -/
theorem atEnd_ne_full (s : Socket) : s.atEnd.1 ≠ .full := by
  unfold atEnd
  split <;> simp

/-- A round of reading ends for want of room exactly when it has used all room there was. -/
theorem receive_full (room : Nat) (s : Socket) :
    (s.receive room).ending = .full ↔ (s.receive room).bytes.length = room := by
  rw [receive_bytes, List.length_take]
  unfold receive
  split <;> rename_i enough
  · simp only [true_iff]
    omega
  · have short : min room s.inbox.length ≠ room := by omega
    simp only [short, iff_false]
    exact atEnd_ne_full _

theorem atEnd_ended {s : Socket} (ended : s.atEnd.1 = .ended) :
    s.tail = .finished ∧ s.atEnd.2 = s := by
  unfold atEnd at ended ⊢
  split at ended
  · cases ended
  · rename_i finished
    exact ⟨finished, rfl⟩
  · cases ended

/-- A round of reading that meets the end of the stream has taken all there was before it. -/
theorem receive_ended {room : Nat} {s : Socket} (ended : (s.receive room).ending = .ended) :
    (s.receive room).socket.inbox = [] ∧ (s.receive room).socket.tail = .finished := by
  unfold receive at ended ⊢
  split at ended <;> rename_i enough
  · cases ended
  · obtain ⟨finished, same⟩ := atEnd_ended ended
    rw [if_neg enough]
    dsimp only
    rw [same]
    exact ⟨List.drop_eq_nil_of_le (by omega), finished⟩

/-- A stream without a fault is read without a failure, and keeps its end. -/
theorem receive_sound {s : Socket} (sound : s.tail ≠ .reset) (room : Nat) :
    (∃ inbox taken, (s.receive room).socket = { s with inbox, taken }) ∧
      ∀ cause, (s.receive room).ending ≠ .failed cause := by
  unfold receive
  split
  · exact ⟨⟨_, _, rfl⟩, by simp⟩
  · unfold atEnd
    dsimp only
    split
    · exact ⟨⟨_, _, rfl⟩, by simp⟩
    · exact ⟨⟨_, _, rfl⟩, by simp⟩
    · rename_i reset
      exact absurd reset sound

/-- Where everything has been read and there is room, the end of the stream is met. -/
theorem receive_finished {s : Socket} {room : Nat} (finished : s.tail = .finished)
    (empty : s.inbox = []) (some : 0 < room) : (s.receive room).ending = .ended := by
  unfold receive
  rw [if_neg (by rw [empty]; exact Nat.not_le.mpr some)]
  simp [atEnd, finished]

/-- A far end that takes whatever is sent takes it at once. -/
theorem transmit_free {s : Socket} (free : s.space = none) (message : Bytes) :
    s.transmit message =
      ⟨message.length, .drained, { s with delivered := s.delivered ++ message }⟩ := by
  have all : s.capacityFor message.length = message.length := by rw [capacityFor, free]
  unfold transmit
  simp [all, free]

theorem receive_zero (s : Socket) : s.receive 0 = ⟨[], .full, s⟩ := by
  simp [receive]

/-- With everything read that was sent, a round of reading finds how the stream goes on. -/
theorem receive_empty {s : Socket} {room : Nat} (empty : s.inbox = []) (some : 0 < room) :
    s.receive room = ⟨[], s.atEnd.1, s.atEnd.2⟩ := by
  obtain ⟨inbox, tail, space, broken, gone, registry, taken, delivered, readShut, writeShut,
    closed⟩ := s
  cases empty
  have none : ¬ room ≤ 0 := Nat.not_le.mpr some
  simp [receive, none]

/-- A round of reading may be cut behind any octets that it begins with. -/
theorem receive_split {s : Socket} {chunk : Bytes} {room : Nat} (first : chunk <+: s.inbox)
    (fits : chunk.length ≤ room) :
    let rest := { s with inbox := s.inbox.drop chunk.length, taken := s.taken ++ chunk }
    let later := rest.receive (room - chunk.length)
    s.receive room = ⟨chunk ++ later.bytes, later.ending, later.socket⟩ := by
  obtain ⟨left, inbox⟩ := first
  have more : room ≤ s.inbox.length ↔ room - chunk.length ≤ left.length := by
    rw [← inbox, List.length_append]
    omega
  have taken : s.inbox.take room = chunk ++ left.take (room - chunk.length) := by
    rw [← inbox, List.take_append, List.take_of_length_le fits]
  have dropped : s.inbox.drop room = left.drop (room - chunk.length) := by
    rw [← inbox, List.drop_append, List.drop_eq_nil_of_le fits, List.nil_append]
  have behind : s.inbox.drop chunk.length = left := by
    rw [← inbox, List.drop_left]
  unfold receive
  simp only [more, taken, dropped, behind, List.append_assoc]
  split <;> rfl

theorem atEnd_socket (s : Socket) : ∃ tail, s.atEnd.2 = { s with tail } := by
  unfold atEnd
  split <;> exact ⟨_, rfl⟩

/-- Reading changes what has come from the far end, and nothing else. -/
theorem receive_socket (room : Nat) (s : Socket) :
    ∃ inbox tail taken, (s.receive room).socket = { s with inbox, tail, taken } := by
  unfold receive
  split
  · exact ⟨_, _, _, rfl⟩
  · obtain ⟨tail, same⟩ := atEnd_socket
      { s with inbox := s.inbox.drop room, taken := s.taken ++ s.inbox.take room }
    exact ⟨_, tail, _, same⟩

/-- Writing changes what goes to the far end, and nothing else. -/
theorem transmit_socket (message : Bytes) (s : Socket) :
    ∃ space delivered, (s.transmit message).socket = { s with space, delivered } := by
  unfold transmit
  dsimp only
  split
  · exact ⟨_, _, rfl⟩
  · split <;> exact ⟨_, _, rfl⟩

/-- The far end has no part in what has been read, written or shut down on this side. -/
theorem farMove_socket (move : FarMove) (s : Socket) :
    ∃ inbox tail space broken gone,
      s.farMove move = { s with inbox, tail, space, broken, gone } := by
  cases move <;>
    simp only [farMove, send, finish, leave, abort, limit, release] <;>
    repeat' split
  all_goals exact ⟨_, _, _, _, _, rfl⟩

end Socket

end SocksProxy
