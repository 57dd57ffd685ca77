import SocksProxy.Wire.Reply
import SocksProxy.Wire.Scratch

/-!
Messages written in place. A message announces how many cells it takes and is then written into that
many cells piece by piece, a cell at a time and without an octet in between; the write cursor moves
when all pieces are there. What can go wrong on the way has an outcome each.
-/

namespace SocksProxy

namespace Wire

/-- Cells that are filled from the first one on. -/
structure Cells where
  filled : Bytes
  left : Bytes
  deriving DecidableEq

namespace Cells

/-- Write a piece, or the part of it that fits. -/
def write (piece : Bytes) (c : Cells) : Cells :=
  ⟨c.filled ++ piece.take c.left.length, c.left.drop piece.length⟩

/-- Write the pieces up to the first that does not fit, and tell whether all of them did. -/
def writeAll : List Bytes → Cells → Bool × Cells
  | [], c => (true, c)
  | piece :: rest, c =>
      if piece.length ≤ c.left.length then writeAll rest (c.write piece) else (false, c.write piece)

end Cells

inductive Writing where
  | written
  -- The message needs more room than there is.
  | exhausted (required available : Nat)
  -- A piece did not fit into the cells that were left.
  | cutOff
  -- Cells were left behind the last piece.
  | short
  -- The write cursor was to move too far.
  | overrun (fault : Overrun)
  deriving DecidableEq

/-- A message as it is written: the length it announces, and its pieces. -/
structure Draft where
  announced : Nat
  pieces : List Bytes
  deriving DecidableEq

namespace Draft

/-- The outcome, and the memory as it is then. -/
def writeTo (d : Draft) (b : Buffer) : Writing × Buffer :=
  if b.room < d.announced then (.exhausted d.announced b.room, b)
  else
    let result := Cells.writeAll d.pieces ⟨[], b.free.take d.announced⟩
    let stored := b.store (result.2.filled ++ result.2.left)
    if !result.1 then (.cutOff, stored)
    else if !result.2.left.isEmpty then (.short, stored)
    else
      match stored.advanceWrite d.announced with
      | .ok moved => (.written, moved)
      | .error fault => (.overrun fault, stored)

end Draft

def Selection.draft (s : Selection) : Draft := ⟨2, [[s.version], [s.method.code]]⟩

def Verdict.draft (v : Verdict) : Draft :=
  ⟨2, [[credentialsVersion], [if v.accepted then 0 else 1]]⟩

namespace RawAddress

def kind : RawAddress → AddressKind
  | .v4 _ => .v4
  | .v6 _ => .v6
  | .domain _ _ => .domain

/-- How many cells the address takes, its length included. -/
def wireLength : RawAddress → Nat
  | .domain _ length => 1 + length.toNat
  | other => other.bytes.length

def pieces : RawAddress → List Bytes
  | .domain name length => [[length], (RawAddress.domain name length).bytes]
  | other => [other.bytes]

/-- The address without what is behind its name. -/
def address : RawAddress → Address
  | .v4 octets => .ip (.v4 octets)
  | .v6 octets => .ip (.v6 octets)
  | .domain name length =>
      .domain ⟨name.val.take length.toNat,
        Nat.le_trans (List.length_take_le _ _) (Nat.le_of_lt_succ length.toNat_lt)⟩

end RawAddress

end Wire

/-- The number of a port as it is sent. -/
def Port.ofOctets (octets : Octets 2) : UInt16 :=
  ofBytes (octets.val.getD 0 0) (octets.val.getD 1 0)

namespace Wire

/-- A reply as it lies in memory, its port as it is sent. -/
structure RawReply where
  status : Status
  address : RawAddress
  port : Octets 2
  deriving DecidableEq

namespace RawReply

def draft (r : RawReply) : Draft where
  announced := 4 + r.address.wireLength + 2
  pieces := [[version], [r.status.code], [reserved], [r.address.kind.code]] ++
    r.address.pieces ++ [r.port.val]

def reply (r : RawReply) : Reply :=
  ⟨r.status, r.address.address, Port.ofOctets r.port⟩

end RawReply

/-- A message of the proxy as it lies in memory. -/
inductive RawMessage where
  | selection (content : Selection)
  | verdict (content : Verdict)
  | reply (content : RawReply)
  deriving DecidableEq

namespace RawMessage

def draft : RawMessage → Draft
  | .selection content => content.draft
  | .verdict content => content.draft
  | .reply content => content.draft

def layout : RawMessage → Bytes
  | .selection content => content.encode
  | .verdict content => content.encode
  | .reply content => content.reply.encode

def write : RawMessage → Buffer → Except WriteFault Buffer
  | .selection content => content.write
  | .verdict content => content.write
  | .reply content => content.reply.write

end RawMessage

end Wire

end SocksProxy
