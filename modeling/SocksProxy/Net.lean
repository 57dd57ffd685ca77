import SocksProxy.Bytes

/-!
Where connections go, and what goes wrong with them in the system's wording. IP addresses are
written as four decimal numbers, or as up to eight hexadecimal groups in which the first longest run
of at least two zero groups shrinks to `::`; a reader of them takes a whole item from the front of
the text and returns the rest, or takes nothing. A host name that is an address already, in any
notation the system takes, needs no lookup.
-/

namespace SocksProxy.Net

inductive IoError where
  | notPermitted
  | noSuchFile
  | brokenPipe
  | addressInUse
  | addressNotAvailable
  | connectionReset
  | nulInName
  | unknownName
  | shortWrite
  | other (text : String)
  deriving DecidableEq, Repr

def IoError.text : IoError → String
  | .notPermitted => "Operation not permitted (os error 1)"
  | .noSuchFile => "No such file or directory (os error 2)"
  | .brokenPipe => "Broken pipe (os error 32)"
  | .addressInUse => "Address already in use (os error 98)"
  | .addressNotAvailable => "Cannot assign requested address (os error 99)"
  | .connectionReset => "Connection reset by peer (os error 104)"
  | .nulInName => "file name contained an unexpected NUL byte"
  | .unknownName => "failed to lookup address information: Name or service not known"
  | .shortWrite => "failed to write whole buffer"
  | .other text => text

inductive IpAddress where
  | v4 (octets : Octets 4)
  | v6 (octets : Octets 16)
  deriving DecidableEq

namespace IpAddress

def bytes : IpAddress → Bytes
  | .v4 octets => octets.val
  | .v6 octets => octets.val

def ofV4 (a b c d : UInt8) : IpAddress :=
  .v4 ⟨[a, b, c, d], rfl⟩

def localhost : IpAddress := ofV4 127 0 0 1

def isLoopback : IpAddress → Bool
  | .v4 octets => octets.val.head? == some 127
  | .v6 octets => octets.val == List.replicate 15 0 ++ [1]

def groups : Bytes → List Nat
  | high :: low :: rest => (high.toNat * 256 + low.toNat) :: groups rest
  | _ => []

def ofGroups (numbers : List Nat) : Bytes :=
  numbers.flatMap fun n => [UInt8.ofNat (n / 256), UInt8.ofNat (n % 256)]

structure Stretch where
  first : Nat
  length : Nat
  deriving DecidableEq, Repr

/-- The first longest stretch of zeros, given the stretch that ends just before this place and the
best one found so far. -/
def longestZeros : List Nat → Nat → Stretch → Stretch → Stretch
  | [], _, _, best => best
  | n :: rest, place, running, best =>
      if n = 0 then
        let grown : Stretch :=
          if running.length = 0 then ⟨place, 1⟩ else ⟨running.first, running.length + 1⟩
        longestZeros rest (place + 1) grown (if best.length < grown.length then grown else best)
      else longestZeros rest (place + 1) ⟨0, 0⟩ best

def dotted (octets : Bytes) : String :=
  ".".intercalate (octets.map fun b => toString b.toNat)

def colons (numbers : List Nat) : String :=
  ":".intercalate (numbers.map Text.hexLower)

/-- Twelve octets that mark an address of the older kind carried in the newer form. -/
def mappedMark : Bytes := List.replicate 10 0 ++ [0xFF, 0xFF]

def text : IpAddress → String
  | .v4 octets => dotted octets.val
  | .v6 octets =>
      if octets.val.take 12 = mappedMark then "::ffff:" ++ dotted (octets.val.drop 12)
      else
        let numbers := groups octets.val
        let zeros := longestZeros numbers 0 ⟨0, 0⟩ ⟨0, 0⟩
        if 1 < zeros.length then
          colons (numbers.take zeros.first) ++ "::" ++
            colons (numbers.drop (zeros.first + zeros.length))
        else colons numbers

end IpAddress

namespace Notation

abbrev Reader (α : Type) := List Char → Option (α × List Char)

def digit (radix : Nat) (c : Char) : Option Nat :=
  let n := c.toNat
  let value :=
    if 48 ≤ n ∧ n ≤ 57 then some (n - 48)
    else if 97 ≤ n ∧ n ≤ 102 then some (n - 87)
    else if 65 ≤ n ∧ n ≤ 70 then some (n - 55)
    else none
  value.filter (· < radix)

def digits (radix : Nat) (text : List Char) : List Nat :=
  (text.takeWhile fun c => (digit radix c).isSome).filterMap (digit radix)

def value (radix : Nat) (ds : List Nat) : Nat :=
  ds.foldl (fun sum d => sum * radix + d) 0

/-- A number of one to `most` digits (any count if `none`) that is at most `limit`. A zero may lead
longer numbers only if `zeros` holds. -/
def number (radix : Nat) (most : Option Nat) (zeros : Bool) (limit : Nat) : Reader Nat :=
  fun text =>
    let ds := digits radix text
    let count := ds.length
    if count = 0 ∨ most.any (· < count) then none
    else if !zeros && text.head? == some '0' && 1 < count then none
    else if limit < value radix ds then none
    else some (value radix ds, text.drop count)

def mark (c : Char) : Reader Unit
  | [] => none
  | d :: rest => if d = c then some ((), rest) else none

/-- Items after the first follow a separator. -/
def separated {α : Type} (sep : Char) (position : Nat) (item : Reader α) : Reader α := fun text =>
  if position = 0 then item text else (mark sep text).bind fun taken => item taken.2

def decimalOctet : Reader Nat := number 10 (some 3) false 255

/-- Four decimal octets, dots between them, none with a leading zero. -/
def v4 : Reader (Octets 4) := fun text => do
  let (a, text) ← decimalOctet text
  let (b, text) ← separated '.' 1 decimalOctet text
  let (c, text) ← separated '.' 2 decimalOctet text
  let (d, text) ← separated '.' 3 decimalOctet text
  pure (⟨[UInt8.ofNat a, UInt8.ofNat b, UInt8.ofNat c, UInt8.ofNat d], rfl⟩, text)

/-- Up to `room` groups, and whether the last two of them were written as four decimal octets. -/
def groupRun : Nat → Nat → List Char → List Nat × Bool × List Char
  | 0, _, text => ([], false, text)
  | room + 1, position, text =>
      match (if room = 0 then none else separated ':' position v4 text) with
      | some (octets, rest) => (IpAddress.groups octets.val, true, rest)
      | none =>
          match separated ':' position (number 16 (some 4) true 0xFFFF) text with
          | some (n, rest) =>
              let tail := groupRun room (position + 1) rest
              (n :: tail.1, tail.2.1, tail.2.2)
          | none => ([], false, text)

def octetsOf (numbers : List Nat) : Option (Octets 16) :=
  let bytes := IpAddress.ofGroups numbers
  if full : bytes.length = 16 then some ⟨bytes, full⟩ else none

/-- Eight groups, or fewer with one `::` that stands for at least one zero group. -/
def v6 : Reader (Octets 16) := fun text =>
  let (front, dotted, rest) := groupRun 8 0 text
  if front.length = 8 then (octetsOf front).map fun octets => (octets, rest)
  else if dotted then none
  else do
    let (_, rest) ← mark ':' rest
    let (_, rest) ← mark ':' rest
    let (back, _, rest) := groupRun (7 - front.length) 0 rest
    let zeros := List.replicate (8 - front.length - back.length) 0
    let octets ← octetsOf (front ++ zeros ++ back)
    pure (octets, rest)

/-- What a reader makes of a whole text. -/
def whole {α : Type} (read : Reader α) (text : String) : Option α :=
  match read text.toList with
  | some (item, []) => some item
  | _ => none

def ip? (text : String) : Option IpAddress :=
  match whole v4 text with
  | some octets => some (.v4 octets)
  | none => (whole v6 text).map .v6

def port : Reader UInt16 := fun text => do
  let (_, text) ← mark ':' text
  let (n, text) ← number 10 none true 0xFFFF text
  pure (UInt16.ofNat n, text)

/-- The interface number of a link local address, zero if none is written. -/
def scope (text : List Char) : UInt32 × List Char :=
  match (mark '%' text).bind fun taken => number 10 none true 0xFFFFFFFF taken.2 with
  | some (n, rest) => (UInt32.ofNat n, rest)
  | none => (0, text)

end Notation

/-- One end of a connection. Only the newer kind of address may name an interface. -/
inductive SocketAddress where
  | v4 (octets : Octets 4) (port : UInt16)
  | v6 (octets : Octets 16) (port : UInt16) (scope : UInt32)
  deriving DecidableEq

namespace SocketAddress

def ip : SocketAddress → IpAddress
  | .v4 octets _ => .v4 octets
  | .v6 octets _ _ => .v6 octets

def port : SocketAddress → UInt16
  | .v4 _ port => port
  | .v6 _ port _ => port

def ofIp (ip : IpAddress) (port : UInt16) : SocketAddress :=
  match ip with
  | .v4 octets => .v4 octets port
  | .v6 octets => .v6 octets port 0

@[simp] theorem ip_ofIp (address : IpAddress) (p : UInt16) : (ofIp address p).ip = address := by
  cases address <;> rfl

@[simp] theorem port_ofIp (address : IpAddress) (p : UInt16) : (ofIp address p).port = p := by
  cases address <;> rfl

/-- An address of the newer kind stands in brackets. -/
def text : SocketAddress → String
  | .v4 octets port => (IpAddress.v4 octets).text ++ ":" ++ toString port.toNat
  | .v6 octets port scope =>
      let interface := if scope = 0 then "" else "%" ++ toString scope.toNat
      "[" ++ (IpAddress.v6 octets).text ++ interface ++ "]:" ++ toString port.toNat

def readV4 : Notation.Reader SocketAddress := fun text => do
  let (octets, text) ← Notation.v4 text
  let (port, text) ← Notation.port text
  pure (.v4 octets port, text)

def readV6 : Notation.Reader SocketAddress := fun text => do
  let (_, text) ← Notation.mark '[' text
  let (octets, text) ← Notation.v6 text
  let (scope, text) := Notation.scope text
  let (_, text) ← Notation.mark ']' text
  let (port, text) ← Notation.port text
  pure (.v6 octets port scope, text)

def ofText? (text : String) : Option SocketAddress :=
  Notation.whole (fun chars => (readV4 chars).orElse fun _ => readV6 chars) text

end SocketAddress

inductive Destination where
  | ip (address : IpAddress) (port : UInt16)
  | domain (name : String) (port : UInt16)
  deriving DecidableEq

namespace Destination

def port : Destination → UInt16
  | .ip _ port => port
  | .domain _ port => port

def ofSocketAddress (address : SocketAddress) : Destination :=
  .ip address.ip address.port

def text : Destination → String
  | .ip (.v4 octets) port => (IpAddress.v4 octets).text ++ ":" ++ toString port.toNat
  | .ip (.v6 octets) port => "[" ++ (IpAddress.v6 octets).text ++ "]:" ++ toString port.toNat
  | .domain name port => name ++ ":" ++ toString port.toNat

def ofText? (text : String) : Option Destination :=
  (SocketAddress.ofText? text).map ofSocketAddress

end Destination

/-- A number as it is written in a program: hexadecimal, octal or decimal. -/
def looseNumber? (text : List Char) : Option Nat :=
  let read (radix : Nat) (ds : List Char) : Option Nat :=
    if ds.isEmpty then none
    else
      ds.foldlM (fun value c => (Notation.digit radix c).map (value * radix + ·)) 0
  match text with
  | '0' :: 'x' :: ds | '0' :: 'X' :: ds => read 16 ds
  | '0' :: ds => if ds.isEmpty then some 0 else read 8 ds
  | ds => read 10 ds

/-- Octets of a number, high one first. -/
def bigEndian : Nat → Nat → Bytes
  | 0, _ => []
  | count + 1, n => UInt8.ofNat (n / 256 ^ count) :: bigEndian count n

/-- Each number but the last is one octet. -/
def looseOctets? : List Nat → Nat → Option Bytes
  | [], _ => none
  | [last], left => if last < 256 ^ left then some (bigEndian left last) else none
  | n :: rest, left =>
      if n < 256 ∧ 1 < left then (looseOctets? rest (left - 1)).map (UInt8.ofNat n :: ·) else none

def looseV4? (host : String) : Option (Octets 4) := do
  let numbers ← (host.splitOn ".").mapM fun part => looseNumber? part.toList
  let octets ← looseOctets? numbers 4
  if full : octets.length = 4 then some ⟨octets, full⟩ else none

def interface? (text : String) : Option UInt32 :=
  (Notation.whole (Notation.number 10 none true 0xFFFFFFFF) text).map UInt32.ofNat

/-- An address with an interface number behind a percent sign. -/
def scopedV6? (host : String) : Option (Octets 16 × UInt32) :=
  match host.splitOn "%" with
  | [address, interface] => do pure (← Notation.whole Notation.v6 address, ← interface? interface)
  | _ => none

def numericHost? (host : String) (port : UInt16) : Option SocketAddress :=
  match Notation.ip? host with
  | some address => some (.ofIp address port)
  | none =>
      match looseV4? host with
      | some octets => some (.v4 octets port)
      | none => (scopedV6? host).map fun (octets, scope) => .v6 octets port scope

/-- The addresses of a host that needs no lookup. -/
def resolveNumeric (host : String) (port : UInt16) : Except IoError (List SocketAddress) :=
  match numericHost? host port with
  | some address => .ok [address]
  | none => .error (if host.contains '\x00' then .nulInName else .unknownName)

end SocksProxy.Net
