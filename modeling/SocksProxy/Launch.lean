import SocksProxy.Server

/-!
A program run from its arguments to the server that they describe, or to the reason why there is
none. The command line has options with a short and a long name, most of them with a value that
follows or is attached. A value that follows is only looked at when the next option begins or the
line ends, so an argument nobody knows is reported before a bad value in front of it.
-/

namespace SocksProxy.CommandLine

open Net (IpAddress)

inductive Flag where
  | port
  | listen
  | user
  | noSniffer
  | config
  | help
  | version
  deriving DecidableEq, Repr

namespace Flag

def ofLong? (name : String) : Option Flag :=
  match name with
  | "port" => some .port
  | "listen" => some .listen
  | "user" => some .user
  | "no-sniffer" => some .noSniffer
  | "config" => some .config
  | "help" => some .help
  | "version" => some .version
  | _ => none

def ofShort? (letter : Char) : Option Flag :=
  match letter with
  | 'p' => some .port
  | 'l' => some .listen
  | 'u' => some .user
  | 'N' => some .noSniffer
  | 'c' => some .config
  | 'h' => some .help
  | 'V' => some .version
  | _ => none

def takesValue : Flag → Bool
  | .port | .listen | .user | .config => true
  | .noSniffer | .help | .version => false

def text : Flag → String
  | .port => "--port <PORT>"
  | .listen => "--listen <IPADDR>"
  | .user => "--user <USERS>"
  | .noSniffer => "--no-sniffer"
  | .config => "--config <CONFIG>"
  | .help => "--help"
  | .version => "--version"

end Flag

inductive UsageError where
  | unexpected (argument : String)
  | missingValue (flag : Flag)
  | invalidValue (value : String) (flag : Flag) (why : String)
  | unwantedValue (value : String) (flag : Flag)
  | repeated (flag : Flag)
  deriving DecidableEq, Repr

def UsageError.message : UsageError → String
  | .unexpected argument => "error: unexpected argument '" ++ argument ++ "' found"
  | .missingValue flag =>
      "error: a value is required for '" ++ flag.text ++ "' but none was supplied"
  | .invalidValue value flag why =>
      "error: invalid value '" ++ value ++ "' for '" ++ flag.text ++ "': " ++ why
  | .unwantedValue value flag =>
      "error: unexpected value '" ++ value ++ "' for '" ++ flag.text ++
        "' found; no more were expected"
  | .repeated flag => "error: the argument '" ++ flag.text ++ "' cannot be used multiple times"

structure Options where
  port : Option UInt16
  ip : Option IpAddress
  users : List User
  noSniffer : Bool
  config : Option String
  deriving DecidableEq

def Options.none : Options := ⟨.none, .none, [], false, .none⟩

/-- Why reading the line ends before its end. -/
inductive Stop where
  | help
  | version
  | usage (fault : UsageError)
  deriving DecidableEq

def isTooLong : String := "number too large to fit in target type"
def isTooShort : String := "number too small to fit in target type"
def isNoDigit : String := "invalid digit found in string"

/-- Digits in front of what does not fit any more are enough to tell. -/
def magnitude (limit : Nat) (overflow : String) : Nat → List Char → Except String Nat
  | value, [] => .ok value
  | value, c :: rest =>
      if c.isDigit then
        let grown := value * 10 + (c.toNat - '0'.toNat)
        if limit < grown then .error overflow else magnitude limit overflow grown rest
      else .error isNoDigit

def mostPositive : Nat := UInt64.size / 2 - 1

/-- A number with an optional sign, within 64 bits. -/
def integer (text : String) : Except String Int :=
  match text.toList with
  | [] => .error "cannot parse integer from empty string"
  | ['-'] | ['+'] => .error isNoDigit
  | '-' :: digits => (magnitude (mostPositive + 1) isTooShort 0 digits).map fun n => -(n : Int)
  | '+' :: digits => (magnitude mostPositive isTooLong 0 digits).map fun n => (n : Int)
  | digits => (magnitude mostPositive isTooLong 0 digits).map fun n => (n : Int)

def portOf (text : String) : Except String UInt16 := do
  let n ← integer text
  if 0 ≤ n ∧ n ≤ 65535 then .ok (UInt16.ofNat n.toNat)
  else .error (toString n ++ " is not in 0..=65535")

def ipOf (text : String) : Except String IpAddress :=
  match Net.Notation.ip? text with
  | some ip => .ok ip
  | none => .error "invalid IP address syntax"

/-- A name that is not empty, a colon, and a password that may hold more of them. -/
def userOf (text : String) : Except String User :=
  let chars := text.toList
  let name := chars.takeWhile (· != ':')
  match chars.drop name.length with
  | _ :: password =>
      if name.isEmpty then .error ("expected name:pass, got " ++ Text.quoted text)
      else .ok ⟨String.ofList name, String.ofList password⟩
  | [] => .error ("expected name:pass, got " ++ Text.quoted text)

/-- What has been read, and an option whose value may follow or has followed. -/
structure State where
  options : Options
  pending : Option (Flag × Option String)

def once {α : Type} (flag : Flag) (before : Option α) (value : String)
    (read : String → Except String α) : Except Stop α :=
  if before.isSome then .error (.usage (.repeated flag))
  else
    match read value with
    | .ok a => .ok a
    | .error why => .error (.usage (.invalidValue value flag why))

def apply (flag : Flag) (value : Option String) (o : Options) : Except Stop Options :=
  match flag, value with
  | .help, _ => .error .help
  | .version, _ => .error .version
  | .noSniffer, _ =>
      if o.noSniffer then .error (.usage (.repeated flag)) else .ok { o with noSniffer := true }
  | _, none => .error (.usage (.missingValue flag))
  | .port, some value =>
      (once flag o.port value portOf).map fun port => { o with port := some port }
  | .listen, some value => (once flag o.ip value ipOf).map fun ip => { o with ip := some ip }
  | .config, some value => do
      let path ← once flag o.config value .ok
      if path.isEmpty then .error (.usage (.missingValue flag))
      else .ok { o with config := some path }
  | .user, some value => do
      let user ← once flag (Option.none : Option User) value userOf
      .ok { o with users := o.users ++ [user] }

def State.settle (s : State) : Except Stop State :=
  match s.pending with
  | none => .ok s
  | some (flag, value) => do .ok ⟨← apply flag value s.options, none⟩

/-- An option begins, with its value if that is attached. -/
def State.begin (flag : Flag) (attached : Option String) (s : State) : Except Stop State := do
  let s ← s.settle
  if flag.takesValue && attached.isNone then .ok { s with pending := some (flag, none) }
  else do .ok { s with options := ← apply flag attached s.options }

def unexpected {α : Type} (argument : String) : Except Stop α :=
  .error (.usage (.unexpected argument))

/-- A name, and a value behind the first equals sign. -/
def splitValue (text : List Char) : String × Option String :=
  let name := text.takeWhile (· != '=')
  (String.ofList name, (text.drop name.length).tail?.map String.ofList)

def long (text : List Char) (s : State) : Except Stop State :=
  let (name, value) := splitValue text
  match Flag.ofLong? name, value with
  | none, _ => unexpected ("--" ++ name)
  | some flag, some value =>
      if flag.takesValue then s.begin flag (some value)
      else .error (.usage (.unwantedValue value flag))
  | some flag, none => s.begin flag none

/-- Options of one letter in a row. The rest behind one that takes a value is its value. -/
def short : List Char → State → Except Stop State
  | [], s => .ok s
  | letter :: rest, s =>
      match Flag.ofShort? letter with
      | none => unexpected ("-" ++ letter.toString)
      | some flag =>
          if flag.takesValue then
            match rest with
            | [] => s.begin flag none
            | '=' :: value => s.begin flag (some (String.ofList value))
            | value => s.begin flag (some (String.ofList value))
          else do
            let s ← s.begin flag none
            short rest s

/-- Arguments in order. Behind two dashes alone there would only be arguments that are no options,
and there are none of these. -/
def read : List String → State → Except Stop State
  | [], s => s.settle
  | argument :: rest, s =>
      match argument.toList with
      | ['-', '-'] =>
          match rest with
          | [] => s.settle
          | first :: _ => unexpected first
      | '-' :: '-' :: text => do read rest (← long text s)
      | '-' :: letter :: letters => do read rest (← short (letter :: letters) s)
      | _ =>
          match s.pending with
          | some (flag, none) => read rest { s with pending := some (flag, some argument) }
          | _ => unexpected argument

def parse (arguments : List String) : Except Stop Options :=
  (read arguments ⟨.none, none⟩).map State.options

/-- Settings of a file and of the line: the line's users come last, and it can only turn the sniffer
off. -/
def settings (o : Options) (file : String → Option String) : Except Server.Error Settings := do
  let ip := o.ip.getD Settings.default.ip
  let port := o.port.getD Settings.default.port
  let loaded ←
    match o.config with
    | some path => Settings.withFile ip port (file path)
    | none => .ok (Settings.new ip port)
  let grown := o.users.foldl (fun s user => s.addUser user) loaded
  pure (if o.noSniffer then { grown with sniffing := false } else grown)

end SocksProxy.CommandLine

namespace SocksProxy

inductive Launch where
  | stopped (why : CommandLine.Stop)
  -- What was being done when it failed.
  | failed (during : String) (failure : Server.Failure)
  | started (server : Server) (address : Net.SocketAddress)

namespace Launch

/-- Nothing is known of names and addresses before there is a network. -/
def unreached (_ : Net.SocketAddress) : Route := .refused .networkUnreachable

def run (arguments : List String) (file : String → Option String) : Launch :=
  match CommandLine.parse arguments with
  | .error why => .stopped why
  | .ok options =>
      match CommandLine.settings options file with
      | .error cause => .failed ("loading " ++ options.config.getD "") ⟨cause, []⟩
      | .ok settings =>
          match Server.ofSettings settings (fun _ _ => .failed) unreached (fun _ => .accepting)
            .free with
          | .error failure => .failed "starting server" failure
          | .ok (server, address, _) => .started (server.note (.listening address)) address

/-- A server that was started ends well. -/
def exitCode : Launch → UInt8
  | .stopped .help | .stopped .version | .started _ _ => 0
  | .failed _ _ => 1
  | .stopped (.usage _) => 2

def log : Launch → List Entry
  | .started server _ => server.services.monitor.journal
  | .failed _ failure => failure.journal
  | .stopped _ => []

end Launch

end SocksProxy
