import SocksProxy.Net.Listener
import SocksProxy.Yaml.Grammar

/-!
What a server is told before it starts. A settings file adds users and replaces what it mentions. It
is a mapping with three keys, all optional, or the three values in that order: users, whether to
look for mail logins, and the buffer size. Anything else is refused as a whole.
-/

namespace SocksProxy.Settings

open Yaml (Node Tag)

structure File where
  users : List User
  sniffing : Option Bool
  bufferSize : Option Nat
  deriving DecidableEq, Repr

namespace File

/-- Text is what was written, whatever it looks like. -/
def text? : Node → Option String
  | .scalar _ _ text => some text
  | _ => none

def isNull (text : String) : Bool := text == "~" || text == "null"

/-- A tag of the kinds that every document knows. -/
def wellKnown? (tag : Option Tag) : Option String :=
  match tag with
  | some tag => if tag.handle = "!!" then some tag.suffix else none
  | none => none

/-- Whether a value is there, if that can be told. -/
def present? : Node → Option Bool
  | .scalar false _ _ => some true
  | .scalar true tag text =>
      if wellKnown? tag = some "null" then if isNull text then some false else none
      else some (tag.isSome || !isNull text)
  | .sequence _ | .mapping _ => some true
  | .unfinished => none

/-- Absent, or read in this way. -/
def optional? {α : Type} (read : Node → Option α) (node : Node) : Option (Option α) := do
  if ← present? node then (read node).map some else pure none

def boolText? (text : String) : Option Bool :=
  if text = "true" then some true else if text = "false" then some false else none

def bool? : Node → Option Bool
  | .scalar true none text => boolText? text
  | .scalar _ tag text => if wellKnown? tag = some "bool" then boolText? text else none
  | _ => none

/-- The value of a digit below the radix. -/
def digit? (radix : Nat) (c : Char) : Option Nat :=
  (Yaml.hexDigit? c).bind fun d => if d < radix then some d else none

def digits? (radix : Nat) (text : List Char) : Option Nat :=
  if text.isEmpty then none
  else text.foldlM (fun value c => (digit? radix c).map (value * radix + ·)) 0

/-- Digits behind an optional plus. -/
def unsigned? (radix : Nat) (text : List Char) : Option Nat :=
  match text with
  | '+' :: rest => digits? radix rest
  | _ => digits? radix text

/-- Digits behind an optional sign. -/
def signed? (radix : Nat) (text : List Char) : Option Int :=
  match text with
  | '-' :: rest => (digits? radix rest).map fun n => -(n : Int)
  | _ => (unsigned? radix text).map fun n => (n : Int)

/-- Largest number that has a place. -/
def mostUnsigned : Nat := UInt64.size - 1

def atMost (most : Nat) (n : Nat) : Option Nat := if n ≤ most then some n else none

/-- A signed number that is not negative and has a place. -/
def ofSigned? (n : Int) : Option Nat :=
  if 0 ≤ n ∧ n ≤ Int64.maxValue.toInt then some n.toNat else none

/-- The letter that announces a radix. -/
def radix? (c : Char) : Option Nat :=
  match c with
  | 'x' => some 16
  | 'o' => some 8
  | 'b' => some 2
  | _ => none

/-- A number in another radix, which has to be marked as such. A plus may stand before the mark and
behind it. -/
def inRadix? (text : List Char) : Option Nat :=
  match text with
  | '0' :: letter :: rest | '+' :: '0' :: letter :: rest => do
      atMost mostUnsigned (← unsigned? (← radix? letter) rest)
  | '-' :: '0' :: letter :: rest => do ofSigned? (← signed? (← radix? letter) ('-' :: rest))
  | _ => none

/-- What follows one sign, if there is any. -/
def withoutSign (text : List Char) : List Char :=
  match text with
  | '+' :: rest | '-' :: rest => rest
  | _ => text

/-- Digits after a zero are a text, not a number, whatever the sign. -/
def isPadded (text : List Char) : Bool :=
  match withoutSign text with
  | '0' :: rest => !rest.isEmpty && rest.all Char.isDigit
  | _ => false

def plainNumber? (text : List Char) : Option Nat :=
  (inRadix? text).orElse fun _ =>
    if isPadded text then none
    else
      match (unsigned? 10 text).bind (atMost mostUnsigned) with
      | some n => some n
      | none => (signed? 10 text).bind ofSigned?

def number? : Node → Option Nat
  | .scalar true none text => plainNumber? text.toList
  | .scalar _ tag text =>
      if wellKnown? tag = some "int" then (signed? 10 text.toList).bind ofSigned? else none
  | _ => none

/-- The values under one key of a mapping. -/
def valuesOf (key : String) (entries : List (Node × Node)) : List Node :=
  entries.filterMap fun entry => if text? entry.1 = some key then some entry.2 else none

/-- The value of a key that may be there once. -/
def atMostOne? (key : String) (entries : List (Node × Node)) : Option (Option Node) :=
  match valuesOf key entries with
  | [] => some none
  | [value] => some (some value)
  | _ => none

/-- A user is a mapping with a name and a password, whatever else it holds, or the two in a row. -/
def user? : Node → Option User
  | .mapping entries => do
      if entries.all fun entry => (text? entry.1).isSome then
        let name ← (← atMostOne? "name" entries)
        let password ← (← atMostOne? "password" entries)
        pure ⟨← text? name, ← text? password⟩
      else none
  | .sequence [name, password] => do pure ⟨← text? name, ← text? password⟩
  | _ => none

def users? : Node → Option (List User)
  | .sequence items => items.mapM user?
  | _ => none

def keys : List String := ["users", "sniffer", "buffer_size"]

def isKnown (key : Node) : Bool :=
  match text? key with
  | some text => keys.contains text
  | none => false

def ofNode? : Node → Option File
  | .mapping entries => do
      if entries.all fun entry => isKnown entry.1 then
        let users ← atMostOne? "users" entries
        let sniffing ← atMostOne? "sniffer" entries
        let bufferSize ← atMostOne? "buffer_size" entries
        let users ← users.mapM users?
        let sniffing ← sniffing.mapM (optional? bool?)
        let bufferSize ← bufferSize.mapM (optional? number?)
        pure ⟨users.getD [], sniffing.join, bufferSize.join⟩
      else none
  | .sequence [users, sniffing, bufferSize] => do
      pure ⟨← users? users, ← optional? bool? sniffing, ← optional? number? bufferSize⟩
  | _ => none

def ofText? (text : String) : Option File := (Node.ofText? text).bind ofNode?

end File

end SocksProxy.Settings

namespace SocksProxy

open Net (IpAddress SocketAddress)

structure Settings where
  ip : IpAddress
  port : UInt16
  -- Capacity of each direction's buffer.
  bufferSize : Nat
  -- Look for mail logins.
  sniffing : Bool
  -- With no user at all, nobody has to authenticate.
  users : List User
  deriving DecidableEq

namespace Settings

/-- A request for a name of 255 octets takes this much. -/
def leastBuffer : Nat := 262

def default : Settings :=
  ⟨.v4 ⟨[0, 0, 0, 0], rfl⟩, 1080, 2048, true, []⟩

def new (ip : IpAddress) (port : UInt16) : Settings := { default with ip := ip, port := port }

def address (s : Settings) : SocketAddress := .ofIp s.ip s.port

def addUser (user : User) (s : Settings) : Settings := { s with users := s.users ++ [user] }

def validate (s : Settings) : Except Server.Error Unit :=
  if s.bufferSize < leastBuffer then .error (.bufferTooSmall s.bufferSize leastBuffer) else .ok ()

def merge (file : File) (s : Settings) : Settings :=
  { s with
    users := s.users ++ file.users
    sniffing := file.sniffing.getD s.sniffing
    bufferSize := file.bufferSize.getD s.bufferSize }

/-- Settings with those of a file, whose text is absent if there is no such file. -/
def withFile (ip : IpAddress) (port : UInt16) (text : Option String) :
    Except Server.Error Settings := do
  let text ← match text with | some text => .ok text | none => .error (.io .noSuchFile)
  let file ← match File.ofText? text with | some file => .ok file | none => .error .unreadable
  let settings := (new ip port).merge file
  settings.validate
  pure settings

end Settings

end SocksProxy
