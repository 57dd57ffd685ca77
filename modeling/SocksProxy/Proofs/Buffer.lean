import SocksProxy.Buffer.Slab

/-!
A queue of bytes in memory that never grows. The queue cut into regions and the queue as it lies
in memory answer every call alike, so no cursor ever leaves the memory or passes the other one.
What has been taken out, followed by what is readable, is what was put in, in order, however often
the cursors went back to the start meanwhile.
-/

namespace SocksProxy

open Buffer (Answer Call)

structure Exchange where
  readable : Bytes
  writable : Bytes
  call : Call
  answer : Answer
  deriving DecidableEq, Repr

namespace Exchange

/-- What a call is to be answered. A cursor is refused if it is to move further than its region
goes, and for nothing else. -/
def due (readable writable : Bytes) : Call → Answer
  | .put source => .copied (min writable.length source.length)
  | .readByte => .octet readable.head?
  | .advanceRead n =>
      if n ≤ readable.length then .moved else .overrun ⟨"advance_read", n, readable.length⟩
  | .advanceWrite n =>
      if n ≤ writable.length then .moved else .overrun ⟨"advance_write", n, writable.length⟩
  | .overwrite source => .copied (min writable.length source.length)

/-- Octets that enter the queue: as much of the source as was copied, or the cells that the write
cursor was moved over, as they are then. -/
def entered (e : Exchange) : Bytes :=
  match e.call, e.answer with
  | .put source, .copied count => source.take count
  | .advanceWrite n, .moved => e.writable.take n
  | _, _ => []

/-- Octets that leave the queue: the one that was answered, or those that the read cursor was moved
over. -/
def consumed (e : Exchange) : Bytes :=
  match e.call, e.answer with
  | .readByte, .octet found => found.toList
  | .advanceRead n, .moved => e.readable.take n
  | _, _ => []

end Exchange

namespace Slab

def exchange (call : Call) (s : Slab) : Exchange :=
  ⟨s.readable, s.writable, call, (s.perform call).1⟩

def run (calls : List Call) (s : Slab) : Slab := calls.foldl (fun s call => (s.perform call).2) s

def history : List Call → Slab → List Exchange
  | [], _ => []
  | call :: rest, s => s.exchange call :: history rest (s.perform call).2

/-- The cursors are in order and inside the memory, and at the start if nothing is readable. -/
structure Sound (capacity : Nat) (s : Slab) : Prop where
  memory : s.cells.length = capacity
  ordered : s.read ≤ s.write
  within : s.write ≤ capacity
  settled : s.readable = [] → s.read = 0 ∧ s.write = 0 ∧ s.writable.length = capacity

structure Serves (s : Slab) (call : Call) : Prop where
  answered : (s.perform call).1 = Exchange.due s.readable s.writable call
  unchanged : ∀ fault, (s.perform call).1 = .overrun fault → (s.perform call).2 = s
  inOrder : (s.exchange call).consumed ++ (s.perform call).2.readable =
    s.readable ++ (s.exchange call).entered
  regained : s.writable.length < (s.perform call).2.writable.length →
    (s.perform call).2.readable = []

end Slab

namespace Buffer

def run (calls : List Call) (b : Buffer) : Buffer :=
  calls.foldl (fun b call => (b.perform call).2) b

def history : List Call → Buffer → List Exchange
  | [], _ => []
  | call :: rest, b =>
      ⟨b.held, b.free, call, (b.perform call).1⟩ :: history rest (b.perform call).2

variable {n : Nat} {source : Bytes} {b : Buffer}

theorem slab_readable (b : Buffer) : b.slab.readable = b.held := by
  unfold Slab.readable slab memory readCursor writeCursor
  rw [← List.length_append, List.take_left, List.drop_left]

theorem slab_writable (b : Buffer) : b.slab.writable = b.free := by
  unfold Slab.writable slab memory writeCursor
  rw [← List.length_append, List.drop_left]

theorem slab_sound (b : Buffer) : b.slab.Sound b.capacity where
  memory := b.memory_length
  ordered := Nat.le_add_right _ _
  within := Nat.le_add_right _ _
  settled nothing := by
    rw [slab_readable] at nothing
    obtain ⟨read, write⟩ := (unused_iff b).mpr nothing
    rw [slab_writable]
    exact ⟨read, write, room_of_empty nothing⟩

theorem slab_consume (within : n ≤ b.size) :
    (b.consume n).slab =
      if b.readCursor + n = b.writeCursor then b.slab.compact
      else { b.slab with read := b.readCursor + n } := by
  have memory := b.consume_memory n
  have length : (b.passed ++ b.held.take n).length = b.readCursor + n := by
    rw [List.length_append, List.length_take_of_le within, readCursor]
  by_cases drained : b.held.drop n = []
  · have all : b.held.length ≤ n := List.drop_eq_nil_iff.mp drained
    have met : b.readCursor + n = b.writeCursor :=
      congrArg (b.readCursor + ·) (Nat.le_antisymm within all)
    have unused := (unused_iff (b.consume n)).mpr ((consume_held n b).trans drained)
    rw [if_pos met, slab, memory, unused.1, unused.2]
    rfl
  · have apart : b.readCursor + n ≠ b.writeCursor := by
      intro met
      exact drained (List.drop_eq_nil_of_le (Nat.le_of_eq (Nat.add_left_cancel met).symm))
    have cursors : (b.consume n).readCursor = b.readCursor + n ∧
        (b.consume n).writeCursor = b.writeCursor := by
      have size : n ≤ b.held.length := within
      unfold readCursor writeCursor consume cut
      rw [dif_neg drained]
      simp only [List.length_append, List.length_take, List.length_drop]
      omega
    rw [if_neg apart, slab, memory, cursors.1, cursors.2]
    rfl

theorem slab_fill (within : n ≤ b.room) :
    (b.fill n).slab = { b.slab with write := b.writeCursor + n } := by
  have cursor : (b.fill n).writeCursor = b.writeCursor + n := by
    unfold writeCursor fill extend
    rw [List.length_append, List.length_take_of_le within, Nat.add_assoc]
  rw [slab, fill_memory, cursor]
  rfl

theorem take_fitting (source : Bytes) (b : Buffer) :
    source.take (b.fitting source) = source.take b.free.length :=
  List.take_eq_take_min.symm

theorem drop_fitting (source : Bytes) (b : Buffer) :
    b.free.drop (b.fitting source) = b.free.drop source.length := by
  rw [fitting, Nat.min_comm]
  exact List.drop_eq_drop_min.symm

theorem slab_store (source : Bytes) (b : Buffer) :
    (b.store source).slab = { b.slab with
      cells := b.slab.cells.take b.writeCursor ++ source.take (b.fitting source) ++
        b.slab.cells.drop (b.writeCursor + b.fitting source) } := by
  have before : b.slab.cells.take b.writeCursor = b.passed ++ b.held :=
    List.take_left' List.length_append
  have behind : b.slab.cells.drop (b.writeCursor + b.fitting source) =
      b.free.drop source.length := by
    rw [← drop_fitting, writeCursor, ← List.length_append]
    exact List.drop_length_add_append _
  rw [before, behind, take_fitting, List.append_assoc]
  rfl

theorem fill_store (source : Bytes) (b : Buffer) :
    (b.store source).fill (b.fitting source) = b.put source := by
  have length : (source.take b.free.length).length = b.fitting source := List.length_take
  have copied : (source.take b.free.length ++ b.free.drop source.length).take (b.fitting source) =
      source.take b.free.length := List.take_left' length
  have left : (source.take b.free.length ++ b.free.drop source.length).drop (b.fitting source) =
      b.free.drop source.length := List.drop_left' length
  simp only [fill, store, put, extend, copied, left]

theorem slab_advanceRead (n : Nat) (b : Buffer) :
    b.slab.advanceRead n =
      ((b.granted (b.advanceRead n)).1, (b.granted (b.advanceRead n)).2.slab) := by
  have ordered : ¬ b.slab.write < b.slab.read := Nat.not_lt.mpr b.slab_sound.ordered
  have size : b.slab.write - b.slab.read = b.size := Nat.add_sub_cancel_left _ _
  rw [Slab.advanceRead, if_neg ordered, size, advanceRead]
  by_cases within : n ≤ b.size
  · rw [if_neg (Nat.not_lt.mpr within), if_pos within, granted, slab_consume within]
    rfl
  · rw [if_pos (Nat.lt_of_not_le within), if_neg within, granted]

theorem slab_advanceWrite (n : Nat) (b : Buffer) :
    b.slab.advanceWrite n =
      ((b.granted (b.advanceWrite n)).1, (b.granted (b.advanceWrite n)).2.slab) := by
  have length : b.slab.cells.length = b.capacity := b.memory_length
  have inside : ¬ b.slab.cells.length < b.slab.write := by
    rw [length]
    exact Nat.not_lt.mpr b.slab_sound.within
  have room : b.slab.cells.length - b.slab.write = b.room := by
    rw [length]
    exact Nat.add_sub_cancel_left _ _
  rw [Slab.advanceWrite, if_neg inside, room, advanceWrite]
  by_cases within : n ≤ b.room
  · rw [if_neg (Nat.not_lt.mpr within), if_pos within, granted, slab_fill within]
    rfl
  · rw [if_pos (Nat.lt_of_not_le within), if_neg within, granted]

theorem slab_readByte (b : Buffer) :
    b.slab.readByte = (.octet b.readByte.1, b.readByte.2.slab) := by
  unfold Slab.readByte readByte
  cases held : b.held with
  | nil =>
      have met : b.slab.read = b.slab.write := by
        change b.readCursor = b.readCursor + b.held.length
        rw [held]
        rfl
      rw [if_pos met]
  | cons first rest =>
      have apart : b.slab.read ≠ b.slab.write := by
        change b.readCursor ≠ b.readCursor + b.held.length
        rw [held, List.length_cons]
        omega
      have there : b.slab.cells[b.slab.read]? = some first := by
        rw [← List.head?_drop]
        change ((b.passed ++ b.held ++ b.free).drop b.passed.length).head? = some first
        rw [List.append_assoc, List.drop_left, held]
        rfl
      have within : 1 ≤ b.size := by
        rw [size, held]
        exact Nat.le_add_left 1 rest.length
      rw [if_neg apart, there, slab_advanceRead, advanceRead_of_le within]
      rfl

theorem slab_overwrite (source : Bytes) (b : Buffer) :
    b.slab.overwrite source = (.copied (b.fitting source), (b.store source).slab) := by
  have length : b.slab.cells.length = b.capacity := b.memory_length
  have inside : ¬ b.slab.cells.length < b.slab.write := by
    rw [length]
    exact Nat.not_lt.mpr b.slab_sound.within
  have room : b.slab.cells.length - b.slab.write = b.free.length := by
    rw [length]
    exact Nat.add_sub_cancel_left _ _
  rw [Slab.overwrite, if_neg inside, room, slab_store]
  rfl

theorem slab_put (source : Bytes) (b : Buffer) :
    b.slab.put source = (.copied (b.fitting source), (b.put source).slab) := by
  have within : b.fitting source ≤ (b.store source).room := by
    change min b.free.length source.length ≤
      (source.take b.free.length ++ b.free.drop source.length).length
    rw [List.length_append, List.length_take]
    exact Nat.le_add_right _ _
  have moved : (b.store source).advanceWrite (b.fitting source) = .ok (b.put source) := by
    rw [advanceWrite, if_pos within, fill_store]
  rw [Slab.put, slab_overwrite]
  dsimp only
  rw [slab_advanceWrite, moved]
  rfl

/-- Cut into regions or as it lies in memory, the queue answers alike and stays the same. -/
theorem slab_perform (call : Call) (b : Buffer) :
    b.slab.perform call = ((b.perform call).1, (b.perform call).2.slab) := by
  cases call with
  | put source => exact slab_put source b
  | readByte => exact slab_readByte b
  | advanceRead n => exact slab_advanceRead n b
  | advanceWrite n => exact slab_advanceWrite n b
  | overwrite source => exact slab_overwrite source b

theorem slab_exchange (call : Call) (b : Buffer) :
    b.slab.exchange call = ⟨b.held, b.free, call, (b.perform call).1⟩ := by
  rw [Slab.exchange, slab_readable, slab_writable, slab_perform]

theorem slab_run (calls : List Call) (b : Buffer) : b.slab.run calls = (b.run calls).slab := by
  induction calls generalizing b with
  | nil => rfl
  | cons call rest ih =>
      rw [Slab.run, List.foldl_cons, slab_perform]
      exact ih (b.perform call).2

theorem slab_history (calls : List Call) (b : Buffer) : b.slab.history calls = b.history calls := by
  induction calls generalizing b with
  | nil => rfl
  | cons call rest ih => rw [Slab.history, slab_exchange, slab_perform, ih, history]

theorem store_capacity (source : Bytes) (b : Buffer) : (b.store source).capacity = b.capacity := by
  simp only [capacity, store, List.length_append, List.length_take, List.length_drop]
  omega

theorem readByte_eq (b : Buffer) : b.readByte = (b.held.head?, b.consume 1) := by
  unfold readByte
  cases held : b.held with
  | nil =>
      have same : b.consume 1 = b.consume 0 := by simp [consume, held]
      rw [same, consume_zero]
      rfl
  | cons first rest => rfl

/-- What there is to a call: its answer, and the queue after it. -/
inductive Performed (b : Buffer) : Call → Answer → Buffer → Prop where
  | put (source : Bytes) : Performed b (.put source) (.copied (b.fitting source)) (b.put source)
  | read : Performed b .readByte (.octet b.held.head?) (b.consume 1)
  | readMoved {n : Nat} (within : n ≤ b.held.length) :
      Performed b (.advanceRead n) .moved (b.consume n)
  | readRefused {n : Nat} (beyond : ¬ n ≤ b.held.length) :
      Performed b (.advanceRead n) (.overrun ⟨"advance_read", n, b.held.length⟩) b
  | writeMoved {n : Nat} (within : n ≤ b.free.length) :
      Performed b (.advanceWrite n) .moved (b.fill n)
  | writeRefused {n : Nat} (beyond : ¬ n ≤ b.free.length) :
      Performed b (.advanceWrite n) (.overrun ⟨"advance_write", n, b.free.length⟩) b
  | overwrite (source : Bytes) :
      Performed b (.overwrite source) (.copied (b.fitting source)) (b.store source)

theorem performed (call : Call) (b : Buffer) :
    b.Performed call (b.perform call).1 (b.perform call).2 := by
  cases call with
  | put source => exact .put source
  | overwrite source => exact .overwrite source
  | readByte =>
      rw [perform, readByte_eq]
      exact .read
  | advanceRead n =>
      rw [perform, advanceRead]
      by_cases within : n ≤ b.size
      · rw [if_pos within]
        exact .readMoved within
      · rw [if_neg within]
        exact .readRefused within
  | advanceWrite n =>
      rw [perform, advanceWrite]
      by_cases within : n ≤ b.room
      · rw [if_pos within]
        exact .writeMoved within
      · rw [if_neg within]
        exact .writeRefused within

namespace Performed

variable {call : Call} {answer : Answer} {after : Buffer}

theorem capacity_eq (done : b.Performed call answer after) : after.capacity = b.capacity := by
  cases done with
  | put source => exact b.put_capacity source
  | overwrite source => exact store_capacity source b
  | read => exact b.consume_capacity 1
  | readMoved within => exact b.consume_capacity _
  | writeMoved within => exact b.fill_capacity _
  | readRefused beyond | writeRefused beyond => rfl

theorem due (done : b.Performed call answer after) : answer = Exchange.due b.held b.free call := by
  cases done with
  | put source | overwrite source | read => rfl
  | readMoved within | writeMoved within => exact (if_pos within).symm
  | readRefused beyond | writeRefused beyond => exact (if_neg beyond).symm

theorem of_overrun {fault : Overrun} (done : b.Performed call (.overrun fault) after) :
    after = b := by
  cases done with
  | readRefused beyond | writeRefused beyond => rfl

theorem inOrder (done : b.Performed call answer after) :
    Exchange.consumed ⟨b.held, b.free, call, answer⟩ ++ after.held =
      b.held ++ Exchange.entered ⟨b.held, b.free, call, answer⟩ := by
  cases done with
  | put source =>
      rw [put_held, ← take_fitting]
      rfl
  | overwrite source | readRefused beyond | writeRefused beyond =>
      exact (List.append_nil b.held).symm
  | read =>
      rw [consume_held]
      refine Eq.trans ?_ (List.append_nil b.held).symm
      cases b.held <;> rfl
  | readMoved within =>
      rw [consume_held]
      exact (List.take_append_drop _ _).trans (List.append_nil b.held).symm
  | writeMoved within => rfl

/-- Room comes back with the last octet that is taken out, and not before. -/
theorem regained (done : b.Performed call answer after) (more : b.free.length < after.free.length) :
    after.held = [] := by
  have drains : ∀ n, b.free.length < (b.consume n).free.length → (b.consume n).held = [] := by
    intro n more
    rw [consume_held]
    by_cases left : b.held.drop n = []
    · exact left
    · rw [consume_free left] at more
      exact absurd more (Nat.lt_irrefl _)
  cases done with
  | put source | writeMoved within =>
      exact absurd more (Nat.not_lt.mpr (List.length_drop ▸ Nat.sub_le _ _))
  | overwrite source =>
      simp only [store, List.length_append, List.length_take, List.length_drop] at more
      omega
  | read => exact drains 1 more
  | readMoved within => exact drains _ more
  | readRefused beyond | writeRefused beyond => exact absurd more (Nat.lt_irrefl _)

end Performed

theorem slab_serves (call : Call) (b : Buffer) : b.slab.Serves call where
  answered := by
    rw [slab_perform, slab_readable, slab_writable]
    exact (performed call b).due
  unchanged fault refused := by
    rw [slab_perform] at refused ⊢
    have done := performed call b
    rw [refused] at done
    exact congrArg slab done.of_overrun
  inOrder := by
    rw [slab_exchange, slab_perform, slab_readable, slab_readable]
    exact (performed call b).inOrder
  regained more := by
    rw [slab_perform] at more ⊢
    rw [slab_writable, slab_writable] at more
    rw [slab_readable]
    exact (performed call b).regained more

theorem run_capacity (calls : List Call) (b : Buffer) : (b.run calls).capacity = b.capacity := by
  induction calls generalizing b with
  | nil => rfl
  | cons call rest ih => exact (ih (b.perform call).2).trans (performed call b).capacity_eq

theorem run_inOrder (calls : List Call) (b : Buffer) :
    (b.history calls).flatMap Exchange.consumed ++ (b.run calls).held =
      b.held ++ (b.history calls).flatMap Exchange.entered := by
  induction calls generalizing b with
  | nil => exact (List.append_nil b.held).symm
  | cons call rest ih =>
      have first := (performed call b).inOrder
      have later := ih (b.perform call).2
      rw [history, List.flatMap_cons, List.flatMap_cons, List.append_assoc,
        ← List.append_assoc b.held, ← first, List.append_assoc, ← later]
      rfl

/-- Whatever is asked of a new queue, and in whatever order: its cursors stay in order and inside
the memory, and are at the start when nothing is readable; what has been taken out and what is
readable are together what was put in; and every further call is answered as it should be, is
given up without a trace if a cursor is to move too far, and gives room back only if it leaves
nothing to be read. -/
theorem first_in_first_out (capacity : Nat) (calls : List Call) :
    let s := (Slab.new capacity).run calls
    let h := (Slab.new capacity).history calls
    ((new capacity).run calls).slab = s ∧ (new capacity).history calls = h ∧ s.Sound capacity ∧
      h.flatMap Exchange.consumed ++ s.readable = h.flatMap Exchange.entered ∧
      ∀ call, s.Serves call := by
  intro s h
  have memory : (new capacity).slab.run calls = ((new capacity).run calls).slab :=
    slab_run calls (new capacity)
  have sound := ((new capacity).run calls).slab_sound
  have inOrder := run_inOrder calls (new capacity)
  rw [run_capacity, new_capacity] at sound
  rw [← slab_readable, ← slab_history] at inOrder
  rw [← memory] at sound inOrder
  refine ⟨memory.symm, (slab_history calls (new capacity)).symm, sound, inOrder, fun call => ?_⟩
  have serves := ((new capacity).run calls).slab_serves call
  rw [← memory] at serves
  exact serves

/-- Cells keep their contents when the cursors go back, and may enter a second time. -/
example :
    let h := (new 4).history
      [.put [1, 2, 3], .readByte, .advanceWrite 2, .advanceRead 2, .advanceWrite 1, .put [7]]
    h.map Exchange.answer =
        [.copied 3, .octet (some 1), .overrun ⟨"advance_write", 2, 1⟩, .moved, .moved,
          .copied 1] ∧
      h.flatMap Exchange.entered = [1, 2, 3, 1, 7] := by
  decide

end Buffer

end SocksProxy
