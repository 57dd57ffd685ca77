import SocksProxy.Wire.Request

/-!
The proxy's messages. Each is put into a buffer whole, or not at all when the buffer has too little
room for the length that the message announces.
-/

namespace SocksProxy.Wire

inductive WriteFault where
  -- The message needs more room than there is.
  | exhausted (required available : Nat)
  -- The message is longer than it announced.
  | overlong
  deriving DecidableEq, Repr

/-- Put a message into exactly the announced number of cells. -/
def writeExact (required : Nat) (message : Bytes) (b : Buffer) : Except WriteFault Buffer :=
  if b.room < required then .error (.exhausted required b.room)
  else if required < message.length then .error .overlong
  else
    let region := b.free.take required
    .ok (b.extend (message ++ region.drop message.length) required)

/-- A message that is as long as it announces is put behind what is held, and nothing else is. -/
theorem writeExact_held {message : Bytes} {before after : Buffer}
    (written : writeExact message.length message before = .ok after) :
    after.held = before.held ++ message := by
  unfold writeExact at written
  by_cases short : before.room < message.length
  · rw [if_pos short] at written
    cases written
  · rw [if_neg short, if_neg (Nat.lt_irrefl _)] at written
    cases written
    have nothing : (before.free.take message.length).drop message.length = [] := by
      rw [List.drop_eq_nil_iff]
      exact List.length_take_le _ _
    change before.held ++ (message ++ _) = _
    rw [nothing, List.append_nil]

/-- There is no other way to fail than to find too little room. -/
theorem writeExact_of_fits {message : Bytes} {b : Buffer} (fits : message.length ≤ b.room) :
    writeExact message.length message b = .ok (b.put message) := by
  have nothing : (b.free.take message.length).drop message.length = [] := by
    rw [List.drop_eq_nil_iff]
    exact List.length_take_le _ _
  have whole : message.take b.free.length = message := List.take_of_length_le fits
  rw [writeExact, if_neg (Nat.not_lt.mpr fits), if_neg (Nat.lt_irrefl _)]
  simp only [nothing, Buffer.put, whole, List.append_nil]

/-- The method the client has to use. -/
structure Selection where
  version : UInt8
  method : Method
  deriving DecidableEq, Repr

namespace Selection

def encode (s : Selection) : Bytes := [s.version, s.method.code]

def write (s : Selection) (b : Buffer) : Except WriteFault Buffer := writeExact 2 s.encode b

end Selection

/-- Whether the credentials were accepted. -/
structure Verdict where
  accepted : Bool
  deriving DecidableEq, Repr

namespace Verdict

def encode (v : Verdict) : Bytes := [credentialsVersion, if v.accepted then 0 else 1]

def write (v : Verdict) (b : Buffer) : Except WriteFault Buffer := writeExact 2 v.encode b

end Verdict

/-- The outcome of a request with an address: the bound one, or the requested one sent back. -/
structure Reply where
  status : Status
  address : Address
  port : UInt16
  deriving DecidableEq

namespace Reply

def echo (request : Request) (status : Status) : Reply :=
  ⟨status, request.address, request.port⟩

def bound (status : Status) (address : Net.SocketAddress) : Reply :=
  ⟨status, .ip address.ip, address.port⟩

def wireLength (r : Reply) : Nat := 4 + r.address.wireLength + 2

def encode (r : Reply) : Bytes :=
  version :: r.status.code :: reserved :: r.address.kind.code :: r.address.encode ++
    Port.bytes r.port

def write (r : Reply) (b : Buffer) : Except WriteFault Buffer := writeExact r.wireLength r.encode b

theorem encode_length (r : Reply) : r.encode.length = r.wireLength := by
  simp only [encode, wireLength, List.cons_append, List.length_cons, List.length_append,
    Address.encode_length, Port.bytes, List.length_nil]
  omega

end Reply

end SocksProxy.Wire
