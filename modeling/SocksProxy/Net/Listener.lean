import SocksProxy.Net
import SocksProxy.Users

/-!
Addresses that a server can listen on: those of this machine alone, and those that stand for all of
its addresses. One address is taken once; one that stands for all clashes with every other on the
same port. With them stands why a server cannot be set up or told something.
-/

namespace SocksProxy.Server

open Net (IoError SocketAddress)

inductive Error where
  | io (cause : IoError)
  -- The settings file makes no sense.
  | unreadable
  | user (cause : UserError)
  | addressInUse (address : SocketAddress)
  | addressNotAvailable (address : SocketAddress)
  | disconnected (name : String)
  | bufferTooSmall (size least : Nat)
  deriving DecidableEq

def Error.message : Error → String
  | .io cause => "io error: " ++ cause.text
  | .unreadable => "config error"
  | .user cause => "user error: " ++ cause.message
  | .addressInUse address => "address already in use: " ++ address.text
  | .addressNotAvailable address => "address not available: " ++ address.text
  | .disconnected name => "disconnected channel error: " ++ name
  | .bufferTooSmall size least =>
      "buffer size " ++ toString size ++ " is below the minimum of " ++ toString least ++ " bytes"

end SocksProxy.Server

namespace SocksProxy.Net

namespace IpAddress

def isUnspecified (a : IpAddress) : Bool := a.bytes.all (· == 0)

/-- An older address, or a newer one that stands for it. -/
def asV4? : IpAddress → Option (Octets 4)
  | .v4 octets => some octets
  | .v6 octets =>
      if octets.val.take 12 = mappedMark then
        if full : (octets.val.drop 12).length = 4 then some ⟨octets.val.drop 12, full⟩ else none
      else none

/-- Whether this machine has the address whatever its network is. -/
def isOwn (a : IpAddress) : Bool :=
  a.isUnspecified || a.isLoopback ||
    match a.asV4? with
    | some octets => (IpAddress.v4 octets).isLoopback
    | none => false

end IpAddress

/-- Ports that are taken, and the one that a server gets when it asks for any. -/
structure Ports where
  taken : List SocketAddress
  next : UInt16
  deriving DecidableEq

namespace Ports

/-- Nothing is taken, and the first port to give away is the first that is free for that. -/
def free : Ports := ⟨[], 49152⟩

/-- Whether two addresses cannot be listened on at the same time. -/
def clash (a b : SocketAddress) : Bool :=
  a.port == b.port && (a.ip == b.ip || a.ip.isUnspecified || b.ip.isUnspecified)

/-- Listen on an address; a port of zero stands for any. -/
def listen (address : SocketAddress) (p : Ports) : Except Server.Error (SocketAddress × Ports) :=
  if !address.ip.isOwn then .error (.addressNotAvailable address)
  else if address.port = 0 then
    let given := SocketAddress.ofIp address.ip p.next
    .ok (given, ⟨given :: p.taken, p.next + 1⟩)
  else if p.taken.any (clash address) then .error (.addressInUse address)
  else .ok (address, { p with taken := address :: p.taken })

end Ports

/-- The newer kind's address of this machine for itself. -/
def IpAddress.localhostV6 : IpAddress := .v6 ⟨List.replicate 15 0 ++ [1], rfl⟩

/-- Where a connection to an address of this machine comes from, if somebody listens there. -/
def connectLocally (target : SocketAddress) (listening : Bool) : Except Wire.Refusal IpAddress :=
  if listening then
    match target.ip with
    | .v4 _ => .ok .localhost
    | .v6 octets =>
        .ok (if (IpAddress.v6 octets).isUnspecified then .localhostV6 else .v6 octets)
  else .error .connectionRefused

end SocksProxy.Net
