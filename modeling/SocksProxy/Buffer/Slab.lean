import SocksProxy.Buffer

/-!
The byte queue as it lies in memory: cells that are there from the start, and two numbers. Nothing
ties the numbers to each other or to the cells, so a cursor that names cells which are not there has
an outcome of its own, beside that of a cursor asked to move too far. What a call has done until it
is given up stays done.
-/

namespace SocksProxy

namespace Buffer

/-- What is asked of a queue from outside. -/
inductive Call where
  | put (source : Bytes)
  | readByte
  | advanceRead (n : Nat)
  | advanceWrite (n : Nat)
  -- Write into what is writable and move no cursor, as whoever fills a queue in place does.
  | overwrite (source : Bytes)
  deriving DecidableEq, Repr

inductive Answer where
  -- So many octets were copied.
  | copied (count : Nat)
  | octet (found : Option UInt8)
  | moved
  -- The call was given up: a cursor was to move further than its region goes.
  | overrun (fault : Overrun)
  -- The call was given up: the cursors name cells that are not there.
  | astray
  deriving DecidableEq, Repr

end Buffer

structure Slab where
  cells : Bytes
  read : Nat
  write : Nat
  deriving DecidableEq, Repr

namespace Slab

open Buffer (Call Answer)

def new (capacity : Nat) : Slab := ⟨List.replicate capacity 0, 0, 0⟩

def readable (s : Slab) : Bytes := (s.cells.take s.write).drop s.read

def writable (s : Slab) : Bytes := s.cells.drop s.write

/-- Both cursors go back to the start; the cells stay as they are. -/
def compact (s : Slab) : Slab := { s with read := 0, write := 0 }

def advanceRead (n : Nat) (s : Slab) : Answer × Slab :=
  if s.write < s.read then (.astray, s)
  else if s.write - s.read < n then (.overrun ⟨"advance_read", n, s.write - s.read⟩, s)
  else
    let after := { s with read := s.read + n }
    (.moved, if after.read = after.write then after.compact else after)

def advanceWrite (n : Nat) (s : Slab) : Answer × Slab :=
  if s.cells.length < s.write then (.astray, s)
  else if s.cells.length - s.write < n then
    (.overrun ⟨"advance_write", n, s.cells.length - s.write⟩, s)
  else (.moved, { s with write := s.write + n })

def readByte (s : Slab) : Answer × Slab :=
  if s.read = s.write then (.octet none, s)
  else
    match s.cells[s.read]? with
    | none => (.astray, s)
    | some first =>
        match s.advanceRead 1 with
        | (.moved, after) => (.octet (some first), after)
        | givenUp => givenUp

def overwrite (source : Bytes) (s : Slab) : Answer × Slab :=
  if s.cells.length < s.write then (.astray, s)
  else
    let count := min (s.cells.length - s.write) source.length
    (.copied count,
      { s with
        cells := s.cells.take s.write ++ source.take count ++ s.cells.drop (s.write + count) })

def put (source : Bytes) (s : Slab) : Answer × Slab :=
  match s.overwrite source with
  | (.copied count, stored) =>
      match stored.advanceWrite count with
      | (.moved, after) => (.copied count, after)
      | givenUp => givenUp
  | givenUp => givenUp

def perform : Call → Slab → Answer × Slab
  | .put source, s => s.put source
  | .readByte, s => s.readByte
  | .advanceRead n, s => s.advanceRead n
  | .advanceWrite n, s => s.advanceWrite n
  | .overwrite source, s => s.overwrite source

end Slab

namespace Buffer

/-- The queue as it lies in memory. -/
def slab (b : Buffer) : Slab := ⟨b.memory, b.readCursor, b.writeCursor⟩

/-- A cursor that is refused stays where it is. -/
def granted (b : Buffer) : Except Overrun Buffer → Answer × Buffer
  | .ok after => (.moved, after)
  | .error fault => (.overrun fault, b)

def perform : Call → Buffer → Answer × Buffer
  | .put source, b => (.copied (b.fitting source), b.put source)
  | .readByte, b => (.octet b.readByte.1, b.readByte.2)
  | .advanceRead n, b => b.granted (b.advanceRead n)
  | .advanceWrite n, b => b.granted (b.advanceWrite n)
  | .overwrite source, b => (.copied (b.fitting source), b.store source)

end Buffer

end SocksProxy
