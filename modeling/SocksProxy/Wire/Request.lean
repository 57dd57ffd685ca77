import SocksProxy.Net
import SocksProxy.Wire.Decoder

/-!
The client's request: version, command, a zero, the kind of address, the address, and a port. The
decoder keeps exactly the parts that have come, so an address is complete by construction when the
port is read.
-/

namespace SocksProxy.Wire

/-- A host name as octets; nothing says that they are text. -/
abbrev DomainName := { bytes : Bytes // bytes.length ≤ 255 }

inductive Address where
  | ip (address : Net.IpAddress)
  | domain (name : DomainName)
  deriving DecidableEq

namespace Address

def kind : Address → AddressKind
  | .ip (.v4 _) => .v4
  | .ip (.v6 _) => .v6
  | .domain _ => .domain

/-- The octets without a length. -/
def bytes : Address → Bytes
  | .ip address => address.bytes
  | .domain name => name.val

/-- How many octets the address takes in a message, its length octet included. -/
def wireLength : Address → Nat
  | .ip (.v4 _) => 4
  | .ip (.v6 _) => 16
  | .domain name => 1 + name.val.length

/-- The octets in a message, its length octet included. -/
def encode : Address → Bytes
  | .ip address => address.bytes
  | .domain name => UInt8.ofNat name.val.length :: name.val

theorem encode_length (a : Address) : a.encode.length = a.wireLength := by
  cases a with
  | ip address =>
      cases address with
      | v4 octets => exact octets.property
      | v6 octets => exact octets.property
  | domain name => simp [encode, wireLength, Nat.add_comm]

def ip? : Address → Option Net.IpAddress
  | .ip address => some address
  | .domain _ => none

/-- The name as text. -/
def host (a : Address) : String := Text.lossy a.bytes

def describe : Address → String
  | .ip address => address.text
  | .domain name => Text.quoted (Text.lossy name.val)

def ofDomain? (name : Bytes) : Option Address :=
  if fits : name.length ≤ 255 then some (.domain ⟨name, fits⟩) else none

end Address

structure Request where
  command : Command
  address : Address
  port : UInt16
  deriving DecidableEq

namespace Request

def encode (r : Request) : Bytes :=
  version :: r.command.code :: reserved :: r.address.kind.code :: r.address.encode ++
    Port.bytes r.port

def destination (r : Request) : Net.Destination :=
  match r.address with
  | .ip address => .ip address r.port
  | .domain name => .domain (Text.lossy name.val) r.port

/-- Where to connect without a lookup. -/
def socketAddress? (r : Request) : Option Net.SocketAddress :=
  r.address.ip?.map fun ip => .ofIp ip r.port

inductive State where
  | version
  | command
  | reserved (command : Command)
  | addressKind (command : Command)
  | octets4 (command : Command) (read : Bytes)
  | octets16 (command : Command) (read : Bytes)
  | nameLength (command : Command)
  | name (command : Command) (length : UInt8) (read : Bytes)
  | portHigh (command : Command) (address : Address)
  | portLow (command : Command) (address : Address) (high : UInt8)
  | done (request : Request)
  | failed (fault : Invalid)
  deriving DecidableEq

/-- The address is complete with its fourth octet. -/
def readOctets4 (command : Command) (read : Bytes) : State :=
  if full : read.length = 4 then .portHigh command (.ip (.v4 ⟨read, full⟩))
  else .octets4 command read

/-- The address is complete with its sixteenth octet. -/
def readOctets16 (command : Command) (read : Bytes) : State :=
  if full : read.length = 16 then .portHigh command (.ip (.v6 ⟨read, full⟩))
  else .octets16 command read

theorem length_le_of_octet {read : Bytes} {length : UInt8} (full : read.length = length.toNat) :
    read.length ≤ 255 := by
  have limit := length.toNat_lt
  omega

/-- The name is complete when it is as long as announced. -/
def readName (command : Command) (length : UInt8) (read : Bytes) : State :=
  if full : read.length = length.toNat then
    .portHigh command (.domain ⟨read, length_le_of_octet full⟩)
  else .name command length read

def feed : State → UInt8 → State
  | .version, b => if b = Wire.version then .command else .failed ⟨.version, b⟩
  | .command, b =>
      match Command.ofCode? b with
      | .ok command => .reserved command
      | .error _ => .failed ⟨.command, b⟩
  | .reserved command, b =>
      if b = Wire.reserved then .addressKind command else .failed ⟨.reserved, b⟩
  | .addressKind command, b =>
      match AddressKind.ofCode? b with
      | .ok .v4 => .octets4 command []
      | .ok .v6 => .octets16 command []
      | .ok .domain => .nameLength command
      | .error _ => .failed ⟨.addressKind, b⟩
  | .octets4 command read, b => readOctets4 command (read ++ [b])
  | .octets16 command read, b => readOctets16 command (read ++ [b])
  | .nameLength command, b => readName command b []
  | .name command length read, b => readName command length (read ++ [b])
  | .portHigh command address, b => .portLow command address b
  | .portLow command address high, b => .done ⟨command, address, Port.ofBytes high b⟩
  | .done request, _ => .done request
  | .failed fault, _ => .failed fault

def progress : State → Progress
  | .done _ => .done
  | .failed _ => .failed
  | _ => .needMore

def output : State → Option Request
  | .done request => some request
  | _ => none

def fault : State → Option Invalid
  | .failed fault => some fault
  | _ => none

def decoder : Decoder State Request :=
  ⟨feed, progress, output, fault, "request not failed"⟩

end Request

end SocksProxy.Wire
