import SocksProxy.Buffer
import SocksProxy.Text.Quoted
import SocksProxy.Wire.Code

/-!
Messages decoded one byte at a time. A decoder keeps its place between calls, takes no byte beyond
the end of its message, and stops at the first byte that cannot be right. A run only says how far
the message has come; what the message is, or which byte was wrong, is asked for afterwards.
-/

namespace SocksProxy.Wire

/-- The part of a message that a wrong byte stands in. -/
inductive Field where
  | version
  | credentialsVersion
  | command
  | reserved
  | addressKind
  deriving DecidableEq, Repr

def Field.text : Field → String
  | .version => "version"
  | .credentialsVersion => "auth version"
  | .command => "command"
  | .reserved => "reserved"
  | .addressKind => "address type"

/-- A byte that no message has in that place. -/
structure Invalid where
  field : Field
  value : UInt8
  deriving DecidableEq, Repr

def Invalid.text (fault : Invalid) : String :=
  "invalid " ++ fault.field.text ++ ": 0x" ++ Text.hexOctet fault.value

/-- How far a message has come. -/
inductive Progress where
  | needMore
  | done
  | failed
  deriving DecidableEq, Repr

structure Decoder (σ α : Type) where
  feed : σ → UInt8 → σ
  progress : σ → Progress
  -- The message, if it is complete.
  output : σ → Option α
  -- The byte that is wrong, if one is.
  fault : σ → Option Invalid
  -- What there is to say about a failure where there was none.
  unfailed : String

namespace Decoder

variable {σ α : Type}

/-- Feed bytes until the message is complete or wrong, and leave the rest. A finished decoder still
takes one byte, and without any byte there is no news. -/
def run (d : Decoder σ α) : σ → Bytes → σ × Progress × Bytes
  | s, [] => (s, .needMore, [])
  | s, b :: rest =>
      let next := d.feed s b
      match d.progress next with
      | .needMore => run d next rest
      | news => (next, news, rest)

/-- Run on what a buffer holds. -/
def runOn (d : Decoder σ α) (s : σ) (buffer : Buffer) : σ × Progress × Buffer :=
  let result := d.run s buffer.held
  (result.1, result.2.1, buffer.consume (buffer.held.length - result.2.2.length))

/-- What there is to say about a failure, or that there was none. -/
def reason (d : Decoder σ α) (s : σ) : String :=
  match d.fault s with
  | some fault => fault.text
  | none => d.unfailed

end Decoder

namespace Greeting

/-- A greeting that offers these codes. -/
def encode (codes : Bytes) : Bytes :=
  version :: UInt8.ofNat codes.length :: codes

/-- The first preferred method in both lists. -/
def choose (acceptable : List Method) (offered : Bytes) : Method :=
  (Method.preference.find? fun m => m ∈ acceptable && m ∈ offered.map Method.ofCode).getD .noMethods

inductive State where
  | version
  | count
  -- So many codes are still to come, and this is the best rank among those that came.
  | methods (left : Nat) (best : Option Nat)
  | done (method : Method)
  | failed (fault : Invalid)
  deriving DecidableEq, Repr

/-- The better of the best rank so far and the rank of an offered code. -/
def offer (acceptable : List Method) (best : Option Nat) (code : UInt8) : Option Nat :=
  let method := Method.ofCode code
  if method ∈ acceptable then
    match method.rank with
    | some rank => some (match best with | some b => min b rank | none => rank)
    | none => best
  else best

def select (best : Option Nat) : Method :=
  match best with
  | some rank => Method.preference[rank]?.getD .noMethods
  | none => .noMethods

def feed (acceptable : List Method) : State → UInt8 → State
  | .version, b => if b = Wire.version then .count else .failed ⟨.version, b⟩
  | .count, b => if b = 0 then .done (select none) else .methods b.toNat none
  | .methods left best, b =>
      let best := offer acceptable best b
      if left ≤ 1 then .done (select best) else .methods (left - 1) best
  | .done method, _ => .done method
  | .failed fault, _ => .failed fault

def progress : State → Progress
  | .done _ => .done
  | .failed _ => .failed
  | _ => .needMore

def output : State → Option Method
  | .done method => some method
  | _ => none

def fault : State → Option Invalid
  | .failed fault => some fault
  | _ => none

def decoder (acceptable : List Method) : Decoder State Method :=
  ⟨feed acceptable, progress, output, fault, "negotiation not failed"⟩

end Greeting

structure Credentials where
  name : String
  password : String
  deriving DecidableEq, Repr

namespace Credentials

/-- The name in full, the password never. -/
def describe (c : Credentials) : String :=
  "Credentials \x7b username: " ++ Text.quoted c.name ++ ", password: \"***\" \x7d"

/-- The message that carries these octets. -/
def encode (name password : Bytes) : Bytes :=
  credentialsVersion :: UInt8.ofNat name.length :: name ++
    UInt8.ofNat password.length :: password

def ofBytes (name password : Bytes) : Credentials :=
  ⟨Text.lossy name, Text.lossy password⟩

inductive State where
  | version
  | nameLength
  -- So many octets are still to come after those read.
  | name (left : Nat) (read : Bytes)
  | passwordLength (name : Bytes)
  | password (name : Bytes) (left : Nat) (read : Bytes)
  | done (name password : Bytes)
  | failed (fault : Invalid)
  deriving DecidableEq, Repr

def feed : State → UInt8 → State
  | .version, b => if b = credentialsVersion then .nameLength else .failed ⟨.credentialsVersion, b⟩
  | .nameLength, b => if b = 0 then .passwordLength [] else .name b.toNat []
  | .name left read, b =>
      if left ≤ 1 then .passwordLength (read ++ [b]) else .name (left - 1) (read ++ [b])
  | .passwordLength name, b => if b = 0 then .done name [] else .password name b.toNat []
  | .password name left read, b =>
      if left ≤ 1 then .done name (read ++ [b]) else .password name (left - 1) (read ++ [b])
  | .done name password, _ => .done name password
  | .failed fault, _ => .failed fault

def progress : State → Progress
  | .done _ _ => .done
  | .failed _ => .failed
  | _ => .needMore

def output : State → Option Credentials
  | .done name password => some (ofBytes name password)
  | _ => none

def fault : State → Option Invalid
  | .failed fault => some fault
  | _ => none

def decoder : Decoder State Credentials :=
  ⟨feed, progress, output, fault, "auth not failed"⟩

end Credentials

end SocksProxy.Wire
