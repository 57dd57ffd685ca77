import SocksProxy.Wire.Request

/-!
The request decoder in memory of fixed size. Addresses and names are gathered in arrays that are
there from the start, and counters say how much of them is filled. A write outside of its array has
no outcome; a name ends with a zero behind its last octet.
-/

namespace SocksProxy

namespace Octets

def zeros (n : Nat) : Octets n := ⟨List.replicate n 0, List.length_replicate⟩

/-- Write one cell, if there is such a cell. -/
def write? {n : Nat} (cells : Octets n) (i : Nat) (b : UInt8) : Option (Octets n) :=
  if i < n then some ⟨cells.val.set i b, List.length_set.trans cells.property⟩ else none

end Octets

namespace Wire

/-- An address as it lies in memory: a name is as long as its length says, in an array that is
longer than any name. -/
inductive RawAddress where
  | v4 (octets : Octets 4)
  | v6 (octets : Octets 16)
  | domain (name : Octets 256) (length : UInt8)
  deriving DecidableEq

/-- The octets without a length, and without what is behind a name. -/
def RawAddress.bytes : RawAddress → Bytes
  | .v4 octets => octets.val
  | .v6 octets => octets.val
  | .domain name length => name.val.take length.toNat

/-- A request as it lies in memory, its port as it came. -/
structure RawRequest where
  command : Command
  address : RawAddress
  port : Octets 2
  deriving DecidableEq

/-- Where the decoder stands, with the number of cells that are filled. -/
inductive Place where
  | version
  | command
  | reserved
  | addressKind
  | ip (filled : Nat)
  | nameLength
  | name (filled : Nat)
  | port (filled : Nat)
  | done
  | failed (fault : Invalid)
  deriving DecidableEq

structure Scratch where
  place : Place
  command : Command
  kind : AddressKind
  octets : Octets 16
  name : Octets 256
  nameLength : Nat
  port : Octets 2
  deriving DecidableEq

namespace Scratch

def fresh : Scratch where
  place := .version
  command := .connect
  kind := .v4
  octets := .zeros 16
  name := .zeros 256
  nameLength := 0
  port := .zeros 2

def ipLength (m : Scratch) : Nat :=
  match m.kind with
  | .v6 => 16
  | _ => 4

def address (m : Scratch) : RawAddress :=
  match m.kind with
  | .v4 => .v4 ⟨m.octets.val.take 4, by simp [m.octets.property]⟩
  | .v6 => .v6 m.octets
  | .domain => .domain m.name (UInt8.ofNat m.nameLength)

def message (m : Scratch) : RawRequest := ⟨m.command, m.address, m.port⟩

/-- The next octet of a name. Behind the last one there is a zero. -/
def feedName (filled : Nat) (b : UInt8) (m : Scratch) : Option Scratch := do
  let name ← m.name.write? filled b
  if filled + 1 = m.nameLength then
    let ended ← name.write? m.nameLength 0
    return { m with name := ended, place := .port 0 }
  else return { m with name, place := .name (filled + 1) }

def feed (m : Scratch) (b : UInt8) : Option Scratch :=
  match m.place with
  | .version =>
      some { m with place := if b = Wire.version then .command else .failed ⟨.version, b⟩ }
  | .command =>
      match Command.ofCode? b with
      | .ok command => some { m with place := .reserved, command }
      | .error _ => some { m with place := .failed ⟨.command, b⟩ }
  | .reserved =>
      some { m with place := if b = Wire.reserved then .addressKind else .failed ⟨.reserved, b⟩ }
  | .addressKind =>
      match AddressKind.ofCode? b with
      | .ok kind =>
          some { m with place := if kind = .domain then .nameLength else .ip 0, kind }
      | .error _ => some { m with place := .failed ⟨.addressKind, b⟩ }
  | .ip filled => do
      let octets ← m.octets.write? filled b
      return { m with
        octets
        place := if filled + 1 = m.ipLength then .port 0 else .ip (filled + 1) }
  | .nameLength =>
      some { m with nameLength := b.toNat, place := if b = 0 then .port 0 else .name 0 }
  | .name filled => m.feedName filled b
  | .port filled => do
      let port ← m.port.write? filled b
      return { m with port, place := if filled = 1 then .done else .port 1 }
  | .done => some m
  | .failed _ => some m

def progress (m : Scratch) : Progress :=
  match m.place with
  | .done => .done
  | .failed _ => .failed
  | _ => .needMore

def output (m : Scratch) : Option RawRequest :=
  match m.place with
  | .done => some m.message
  | _ => none

def fault (m : Scratch) : Option Invalid :=
  match m.place with
  | .failed fault => some fault
  | _ => none

/-- The memory is lost for good with the first write outside of an array. -/
def decoder : Decoder (Option Scratch) RawRequest where
  feed memory b := memory.bind fun m => m.feed b
  progress
    | some m => m.progress
    | none => .needMore
  output memory := memory.bind output
  fault memory := memory.bind fault
  unfailed := "request not failed"

end Scratch

end Wire

end SocksProxy
