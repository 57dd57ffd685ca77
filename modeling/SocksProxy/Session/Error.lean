import SocksProxy.Wire.Reply

/-!
Why a session ends early, and the status that its client should see for it. Why an outbound
connection failed is told by the number the operating system gives: a finite table, and a general
failure for every other number.
-/

namespace SocksProxy

open Net (IoError SocketAddress)
open Wire (Command Refusal)

inductive SessionError where
  | io (cause : IoError)
  | poisoned (what : String)
  | disconnected (name : String)
  | messageFormat (what : String)
  | noAcceptableMethod
  | badCredentials
  | commandNotSupported (command : Command)
  | hostUnreachable (host : String) (port : UInt16)
  | nameNotResolved (name : String) (port : UInt16)
  | connect (address : SocketAddress) (why : Refusal)
  | bufferExhausted (required available : Nat)
  | peerClosed (peer : SocketAddress)
  deriving DecidableEq

namespace SessionError

def message : SessionError → String
  | .io cause => "io error: " ++ cause.text
  | .poisoned what => "poisoned error: " ++ what
  | .disconnected name => "disconnected channel error: " ++ name
  | .messageFormat what => "message format error: " ++ what
  | .noAcceptableMethod => "authentication error: no acceptable method"
  | .badCredentials => "authentication error: unrecognized username/password"
  | .commandNotSupported command => "command not supported: " ++ command.name
  | .hostUnreachable host port => "host unreachable: " ++ host ++ ":" ++ toString port.toNat
  | .nameNotResolved name port => "name not resolved: " ++ name ++ ":" ++ toString port.toNat
  | .connect address why => "connect error: " ++ address.text ++ ": " ++ why.name
  | .bufferExhausted required available =>
      "buffer exhausted: " ++ toString required ++ " bytes required, " ++ toString available ++
        " available"
  | .peerClosed peer => "peer closed connection: " ++ peer.text

/-- The status for a client that can still be answered. -/
def refusal : SessionError → Refusal
  | .noAcceptableMethod | .badCredentials => .notAllowed
  | .commandNotSupported _ => .commandNotSupported
  | .hostUnreachable _ _ | .nameNotResolved _ _ => .hostUnreachable
  | .connect _ why => why
  | _ => .serverFailure

def ofWrite : Wire.WriteFault → SessionError
  | .exhausted required available => .bufferExhausted required available
  | .overlong => .io .shortWrite

/-- A lock whose holder died. -/
def ofPoisonedLock : SessionError := .poisoned "PoisonError \x7b .. \x7d"

/-- A relay step without a destination. -/
def noServer : SessionError := .messageFormat "no server socket"

end SessionError

end SocksProxy

namespace SocksProxy.Net

open Wire (Refusal)

def refusalOfErrno (errno : Int) : Refusal :=
  if errno = 100 ∨ errno = 101 then .networkUnreachable
  else if errno = 112 ∨ errno = 113 then .hostUnreachable
  else if errno = 111 then .connectionRefused
  else if errno = 110 then .ttlExpired
  else if errno = 1 ∨ errno = 13 then .notAllowed
  else if errno = 97 then .addressKindNotSupported
  else .serverFailure

/-- A failure without a number is a general one. -/
def refusalOf (errno : Option Int) : Refusal :=
  match errno with
  | some n => refusalOfErrno n
  | none => .serverFailure

end SocksProxy.Net
