import SocksProxy.Bytes

/-!
Follows one mail conversation in both directions and reports a login once the server has answered
its password. A byte stream is cut into lines; what is kept of one between two chunks never exceeds
512 octets. Commands come from the client's lines and wait, oldest first, for answers from the
server's. Runs of commands of no interest take one entry however long they are; when sixteen entries
are there, a new one pushes the oldest out.
-/

namespace SocksProxy.Pop3

def lineFeed : UInt8 := 10
def carriageReturn : UInt8 := 13

/-- Octets that a line may have before its line feed. -/
def longestLine : Nat := 512

structure LineBuffer where
  -- The unfinished line, its last octet first.
  latest : Bytes
  -- How many more octets the line may have.
  room : Nat
  -- The line has had more than that.
  overlong : Bool
  deriving DecidableEq, Repr

namespace LineBuffer

def empty : LineBuffer := ⟨[], longestLine, false⟩

/-- The line, without one carriage return at its end. -/
def line (b : LineBuffer) : Bytes :=
  match b.latest with
  | [] => []
  | last :: before => (if last = carriageReturn then before else b.latest).reverse

/-- One octet, and the line it ends if it ends one that is kept. -/
def step (b : LineBuffer) (octet : UInt8) : Option Bytes × LineBuffer :=
  if octet = lineFeed then (if b.overlong then none else some b.line, empty)
  else
    match b.room with
    | 0 => (none, { b with overlong := true })
    | room + 1 => (none, { b with latest := octet :: b.latest, room := room })

/-- Lines newest first, so that adding one is cheap. -/
def advance (state : List Bytes × LineBuffer) (octet : UInt8) : List Bytes × LineBuffer :=
  match state.2.step octet with
  | (some finished, next) => (finished :: state.1, next)
  | (none, next) => (state.1, next)

/-- The lines that a chunk ends, in order. -/
def feed (chunk : Bytes) (b : LineBuffer) : List Bytes × LineBuffer :=
  let result := chunk.foldl advance ([], b)
  (result.1.reverse, result.2)

end LineBuffer

inductive Pending where
  | user
  | pass
  -- So many commands of no interest in a row.
  | other (count : Nat)
  deriving DecidableEq, Repr

namespace Pending

def most : Nat := 16

/-- Where the count of a run stops growing. -/
def longestRun : Nat := UInt64.size - 1

def push (queue : List Pending) (command : Pending) : List Pending :=
  match command, queue.getLast? with
  | .other more, some (.other count) => queue.dropLast ++ [.other (min (count + more) longestRun)]
  | _, _ => (if queue.length = most then queue.drop 1 else queue) ++ [command]

def pop : List Pending → Option Pending × List Pending
  | [] => (none, [])
  | .other count :: rest =>
      if 1 < count then (some (.other 1), .other (count - 1) :: rest)
      else (some (.other count), rest)
  | command :: rest => (some command, rest)

/-- A queue with every run written out as single commands. -/
def expand (queue : List Pending) : List Pending :=
  queue.flatMap fun
    | .other count => List.replicate count (.other 1)
    | command => [command]

end Pending

def port : UInt16 := 110

/-- A login and the server's answer to it. -/
structure Sighting where
  user : String
  pass : String
  accepted : Bool
  deriving DecidableEq, Repr

inductive Command where
  | user (argument : Bytes)
  | pass (argument : Bytes)
  | other
  deriving DecidableEq, Repr

def upper (octet : UInt8) : UInt8 :=
  if 97 ≤ octet ∧ octet ≤ 122 then octet - 32 else octet

def userWord : Bytes := [0x55, 0x53, 0x45, 0x52]
def passWord : Bytes := [0x50, 0x41, 0x53, 0x53]

/-- A keyword in any case, one space, and the rest of the line as it is. -/
def Command.ofLine (octets : Bytes) : Command :=
  if octets[4]? = some 0x20 then
    let word := (octets.take 4).map upper
    if word = userWord then .user (octets.drop 5)
    else if word = passWord then .pass (octets.drop 5)
    else .other
  else .other

def okMark : Bytes := [0x2B, 0x4F, 0x4B]
def errorMark : Bytes := [0x2D, 0x45, 0x52, 0x52]

/-- Whether a server line is an answer, and whether it is a good one. -/
def answer? (line : Bytes) : Option Bool :=
  if okMark.isPrefixOf line then some true
  else if errorMark.isPrefixOf line then some false
  else none

structure Sniffer where
  client : LineBuffer
  server : LineBuffer
  pending : List Pending
  user : Option String
  pass : Option String
  deriving DecidableEq, Repr

namespace Sniffer

def new : Sniffer := ⟨.empty, .empty, [], none, none⟩

/-- A user name forgets the password before it. -/
def command (s : Sniffer) (line : Bytes) : Sniffer :=
  match Command.ofLine line with
  | .user argument =>
      { s with
        user := some (Text.lossy argument)
        pass := none
        pending := Pending.push s.pending .user }
  | .pass argument =>
      { s with pass := some (Text.lossy argument), pending := Pending.push s.pending .pass }
  | .other => { s with pending := Pending.push s.pending (.other 1) }

/-- An answer to a password reports the login, if a name is known, and uses the password up. -/
def answer (s : Sniffer) (line : Bytes) : Option Sighting × Sniffer :=
  match answer? line with
  | none => (none, s)
  | some accepted =>
      let popped := Pending.pop s.pending
      let rest := { s with pending := popped.2 }
      match popped.1 with
      | some .pass =>
          let used := { rest with pass := none }
          match s.user, s.pass with
          | some user, some pass => (some ⟨user, pass, accepted⟩, used)
          | _, _ => (none, used)
      | _ => (none, rest)

def commands (s : Sniffer) (lines : List Bytes) : Sniffer := lines.foldl command s

/-- Sightings newest first, so that adding one is cheap. -/
def hear (state : List Sighting × Sniffer) (line : Bytes) : List Sighting × Sniffer :=
  match state.2.answer line with
  | (some sighting, next) => (sighting :: state.1, next)
  | (none, next) => (state.1, next)

def answers (s : Sniffer) (lines : List Bytes) : List Sighting × Sniffer :=
  let result := lines.foldl hear ([], s)
  (result.1.reverse, result.2)

def clientBytes (s : Sniffer) (chunk : Bytes) : Sniffer :=
  let fed := s.client.feed chunk
  { s with client := fed.2 }.commands fed.1

/-- Octets on their way back, and the logins they settle. -/
def serverBytes (s : Sniffer) (chunk : Bytes) : List Sighting × Sniffer :=
  let fed := s.server.feed chunk
  { s with server := fed.2 }.answers fed.1

end Sniffer

end SocksProxy.Pop3
