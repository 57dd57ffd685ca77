import SocksProxy.Bytes

/-!
A byte queue in memory that never grows or moves. The two cursors cut the memory into what has been
read, what waits to be read, and what may be written; only when nothing waits do both cursors go
back to the start. Cells keep their old contents until they are written again.
-/

namespace SocksProxy

structure Buffer where
  -- Cells before the read cursor.
  passed : Bytes
  -- Cells between the cursors: what is there to be read.
  held : Bytes
  -- Cells from the write cursor on.
  free : Bytes
  -- Both cursors are at the start whenever nothing waits.
  settled : held = [] → passed = [] := by simp
  deriving DecidableEq, Repr

/-- A cursor asked to move further than its region goes. -/
structure Overrun where
  advanced : String
  asked : Nat
  limit : Nat
  deriving DecidableEq, Repr

def Overrun.message (fault : Overrun) : String :=
  fault.advanced ++ ": " ++ toString fault.asked ++ " > " ++ toString fault.limit

namespace Buffer

def new (capacity : Nat) : Buffer :=
  { passed := [], held := [], free := List.replicate capacity 0 }

/-- Cut the memory into these regions, or at its start if nothing waits to be read. -/
def cut (passed held free : Bytes) : Buffer :=
  if waiting : held = [] then { passed := [], held := [], free := passed ++ free }
  else { passed, held, free, settled := fun nothing => absurd nothing waiting }

/-- Add to what is held, taking so many cells from the free ones. -/
def extend (more : Bytes) (cells : Nat) (b : Buffer) : Buffer :=
  { passed := b.passed
    held := b.held ++ more
    free := b.free.drop cells
    settled := fun nothing => b.settled (List.append_eq_nil_iff.mp nothing).1 }

def memory (b : Buffer) : Bytes := b.passed ++ b.held ++ b.free

def capacity (b : Buffer) : Nat := b.passed.length + b.held.length + b.free.length

def readCursor (b : Buffer) : Nat := b.passed.length

def writeCursor (b : Buffer) : Nat := b.passed.length + b.held.length

def size (b : Buffer) : Nat := b.held.length

def room (b : Buffer) : Nat := b.free.length

def isEmpty (b : Buffer) : Bool := b.held.isEmpty

def canRead (b : Buffer) : Bool := !b.held.isEmpty

def canWrite (b : Buffer) : Bool := !b.free.isEmpty

/-- Move the read cursor over `n` cells, or over all that is held if that is less. -/
def consume (n : Nat) (b : Buffer) : Buffer :=
  cut (b.passed ++ b.held.take n) (b.held.drop n) b.free

/-- Move the write cursor over `n` cells as they are, or over all free ones if that is less. -/
def fill (n : Nat) (b : Buffer) : Buffer := b.extend (b.free.take n) n

/-- Write as much of the source as fits behind what is held. -/
def put (source : Bytes) (b : Buffer) : Buffer :=
  b.extend (source.take b.free.length) source.length

/-- Overwrite free cells from the first one on, and move no cursor. -/
def store (source : Bytes) (b : Buffer) : Buffer :=
  { b with free := source.take b.free.length ++ b.free.drop source.length }

def fitting (source : Bytes) (b : Buffer) : Nat := min b.free.length source.length

def advanceRead (n : Nat) (b : Buffer) : Except Overrun Buffer :=
  if n ≤ b.size then .ok (b.consume n) else .error ⟨"advance_read", n, b.size⟩

def advanceWrite (n : Nat) (b : Buffer) : Except Overrun Buffer :=
  if n ≤ b.room then .ok (b.fill n) else .error ⟨"advance_write", n, b.room⟩

def readByte (b : Buffer) : Option UInt8 × Buffer :=
  match b.held with
  | [] => (none, b)
  | first :: _ => (some first, b.consume 1)

theorem memory_length (b : Buffer) : b.memory.length = b.capacity := by
  simp [memory, capacity, Nat.add_assoc]

theorem cut_memory (passed held free : Bytes) :
    (cut passed held free).memory = passed ++ held ++ free := by
  unfold cut
  split
  · rename_i nothing
    simp [memory, nothing]
  · rfl

@[simp] theorem cut_held (passed held free : Bytes) : (cut passed held free).held = held := by
  unfold cut
  split
  · rename_i nothing
    exact nothing.symm
  · rfl

@[simp] theorem consume_held (n : Nat) (b : Buffer) : (b.consume n).held = b.held.drop n :=
  cut_held _ _ _

theorem consume_memory (n : Nat) (b : Buffer) : (b.consume n).memory = b.memory := by
  rw [consume, cut_memory, memory, List.append_assoc b.passed, List.take_append_drop]

/-- Moving over nothing changes nothing, since the cursors have gone back already if they had to. -/
theorem consume_zero (b : Buffer) : b.consume 0 = b := by
  cases b with
  | mk passed held free settled =>
      by_cases waiting : held = []
      · have start : passed = [] := settled waiting
        simp [consume, cut, waiting, start]
      · simp [consume, cut, waiting]

/-- Room comes back only when nothing waits any more. -/
theorem consume_free {n : Nat} {b : Buffer} (left : b.held.drop n ≠ []) :
    (b.consume n).free = b.free := by
  unfold consume cut
  rw [dif_neg left]

theorem fill_memory (n : Nat) (b : Buffer) : (b.fill n).memory = b.memory := by
  simp [fill, extend, memory]

@[simp] theorem put_held (source : Bytes) (b : Buffer) :
    (b.put source).held = b.held ++ source.take b.free.length := rfl

theorem put_nil (b : Buffer) : b.put [] = b := by
  simp [put, extend]

theorem capacity_of_memory {before after : Buffer} (same : after.memory = before.memory) :
    after.capacity = before.capacity := by
  rw [← memory_length, ← memory_length, same]

theorem consume_capacity (n : Nat) (b : Buffer) : (b.consume n).capacity = b.capacity :=
  capacity_of_memory (consume_memory n b)

theorem fill_capacity (n : Nat) (b : Buffer) : (b.fill n).capacity = b.capacity :=
  capacity_of_memory (fill_memory n b)

theorem put_capacity (source : Bytes) (b : Buffer) : (b.put source).capacity = b.capacity := by
  simp only [capacity, put, extend, List.length_append, List.length_take, List.length_drop]
  omega

theorem writeCursor_of_full {b : Buffer} (full : b.free = []) : b.writeCursor = b.capacity := by
  simp [writeCursor, capacity, full]

/-- A full buffer holds something, unless it is no buffer at all. -/
theorem held_of_full {b : Buffer} (positive : 0 < b.capacity) (full : b.free = []) :
    b.held ≠ [] := by
  intro nothing
  have start : b.passed = [] := b.settled nothing
  simp [capacity, start, nothing, full] at positive

theorem new_capacity (capacity : Nat) : (new capacity).capacity = capacity := by
  simp [new, Buffer.capacity]

/-- Both cursors are at the start. -/
def Unused (b : Buffer) : Prop := b.readCursor = 0 ∧ b.writeCursor = 0

theorem unused_iff (b : Buffer) : b.Unused ↔ b.held = [] := by
  constructor
  · intro unused
    have none : b.passed.length + b.held.length = 0 := unused.2
    exact List.length_eq_zero_iff.mp (by omega)
  · intro nothing
    simp [Unused, readCursor, writeCursor, nothing, b.settled nothing]

/-- With nothing waiting the whole memory is free. -/
theorem room_of_empty {b : Buffer} (nothing : b.held = []) : b.room = b.capacity := by
  simp [room, capacity, nothing, b.settled nothing]

theorem advanceRead_of_le {n : Nat} {b : Buffer} (within : n ≤ b.size) :
    b.advanceRead n = .ok (b.consume n) := if_pos within

/-- To put is to overwrite free cells and to move the write cursor behind them. -/
theorem advanceWrite_store {source : Bytes} {b : Buffer} (fits : source.length ≤ b.room) :
    (b.store source).advanceWrite source.length = .ok (b.put source) := by
  have whole : source.take b.free.length = source := List.take_of_length_le fits
  have within : source.length ≤ (b.store source).room := by
    simp [room, store, whole]
  rw [advanceWrite, if_pos within]
  simp [fill, put, extend, store, whole]

/-- Both cursors, as a line of a diagnostic. -/
def describe (b : Buffer) : String :=
  "Buffer \x7b read: " ++ toString b.readCursor ++ ", write: " ++ toString b.writeCursor ++
    ", capacity: " ++ toString b.capacity ++ " \x7d"

end Buffer

end SocksProxy
