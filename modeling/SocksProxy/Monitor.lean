import SocksProxy.Pop3
import SocksProxy.Session.Error
import SocksProxy.Side

/-!
What the whole process watches: whether mail logins are looked for, the counters, which are 64-bit
numbers and wrap, and the journal of what the operator is told, one entry a line. An entry keeps
what it is about; its wording is in one function. Nothing here decides where a byte goes.
-/

namespace SocksProxy

structure Stats where
  bytesTransferred : UInt64
  currentConnections : UInt64
  historicConnections : UInt64
  -- Logins seen by the sniffer, whether the server took them or not.
  credentialsSniffed : UInt64
  deriving DecidableEq, Repr

namespace Stats

def zero : Stats := ⟨0, 0, 0, 0⟩

def addBytes (n : Nat) (s : Stats) : Stats :=
  { s with bytesTransferred := s.bytesTransferred + UInt64.ofNat n }

def opened (s : Stats) : Stats :=
  { s with
    currentConnections := s.currentConnections + 1
    historicConnections := s.historicConnections + 1 }

def closed (s : Stats) : Stats :=
  { s with currentConnections := s.currentConnections - 1 }

def sniffed (s : Stats) : Stats :=
  { s with credentialsSniffed := s.credentialsSniffed + 1 }

end Stats

namespace Server

inductive Command where
  -- Stop accepting and close every session.
  | terminate
  | setSniffing (on : Bool)
  deriving DecidableEq, Repr

def Command.describe : Command → String
  | .terminate => "Terminate"
  | .setSniffing on => "SetSniffer(" ++ (if on then "true" else "false") ++ ")"

end Server

open Net (Destination IoError SocketAddress)
open Wire (Command Status)

inductive Entry where
  | configured (address : SocketAddress) (bufferSize : Nat) (sniffing : Bool) (users : Nat)
  | listening (address : SocketAddress)
  | accepted (id : SessionId) (client : SocketAddress)
  | closed (id : SessionId) (client : SocketAddress) (phase : String)
  | commanded (command : Server.Command)
  | unknownToken (token : Token)
  | stopped
  | notRegistered (id : SessionId) (cause : IoError)
  | notNotified (id : SessionId) (cause : SessionError)
  | notLookedUp (id : SessionId) (cause : SessionError)
  | gssapiRefused (id : SessionId)
  | noMethod (id : SessionId)
  | problem (id : SessionId) (cause : SessionError)
  | access (client : SocketAddress) (user : Option String) (command : Command)
      (destination : Destination) (status : Status)
  | sighted (client server : SocketAddress) (login : Pop3.Sighting)
  | sniffingSet (on : Bool)
  | userAdded (name : String)
  | userRemoved (name : String)
  | passwordChanged (name : String)
  deriving DecidableEq

namespace Entry

def accessText (client : SocketAddress) (user : Option String) (command : Command)
    (destination : Destination) (status : Status) : String :=
  "access: " ++ client.text ++ " user=" ++ user.getD "-" ++ " " ++ command.name ++ " " ++
    destination.text ++ " => " ++ status.text

/-- Name and password are quoted, since a client may put anything into them. -/
def sightedText (client server : SocketAddress) (login : Pop3.Sighting) : String :=
  "POP3 credentials: " ++ client.text ++ " => " ++ server.text ++ ": user=" ++
    Text.quoted login.user ++ " pass=" ++ Text.quoted login.pass ++
    (if login.accepted then " accepted" else " rejected")

def text : Entry → String
  | .configured address bufferSize sniffing users =>
      "server config: " ++ address.text ++ ", buffer " ++ toString bufferSize ++
        " bytes, sniffer " ++ (if sniffing then "true" else "false") ++ ", " ++ toString users ++
        " user(s)"
  | .listening address => "listening: " ++ address.text
  | .accepted id client => id.text ++ ": accepted: " ++ client.text
  | .closed id client phase => id.text ++ ": closed: " ++ client.text ++ " (" ++ phase ++ ")"
  | .commanded command => "cmd: " ++ command.describe
  | .unknownToken token => "unknown token: Token(" ++ toString token.toNat ++ ")"
  | .stopped => "server shutdown"
  | .notRegistered id cause => id.text ++ ": register error: " ++ cause.text
  | .notNotified id cause => id.text ++ ": notify error: " ++ cause.message
  | .notLookedUp id cause => id.text ++ ": resolver error: " ++ cause.message
  | .gssapiRefused id => id.text ++ ": GSSAPI is not supported, closing"
  | .noMethod id => id.text ++ ": " ++ SessionError.noAcceptableMethod.message ++ ", closing"
  | .problem id cause => id.text ++ ": " ++ cause.message
  | .access client user command destination status =>
      accessText client user command destination status
  | .sighted client server login => sightedText client server login
  | .sniffingSet on => "sniffer " ++ (if on then "enabled" else "disabled")
  | .userAdded name => "user added: " ++ name
  | .userRemoved name => "user removed: " ++ name
  | .passwordChanged name => "password changed: " ++ name

end Entry

structure Monitor where
  sniffing : Bool
  stats : Stats
  -- Entries in the order in which they were made.
  journal : List Entry
  deriving DecidableEq

namespace Monitor

def new (sniffing : Bool) : Monitor := ⟨sniffing, .zero, []⟩

def note (entry : Entry) (m : Monitor) : Monitor :=
  { m with journal := m.journal ++ [entry] }

def countBytes (n : Nat) (m : Monitor) : Monitor :=
  { m with stats := m.stats.addBytes n }

/-- One login counts once and makes one entry. -/
def sighted (client server : Net.SocketAddress) (login : Pop3.Sighting) (m : Monitor) : Monitor :=
  { m with stats := m.stats.sniffed }.note (.sighted client server login)

/-- Announced even if nothing changes. -/
def setSniffing (on : Bool) (m : Monitor) : Monitor :=
  { m.note (.sniffingSet on) with sniffing := on }

end Monitor

end SocksProxy
