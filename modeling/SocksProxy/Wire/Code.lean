import SocksProxy.Bytes

/-!
The numbers of the protocol and what they stand for: authentication methods, commands, kinds of
address and reply statuses. Every number of a method means something; commands and kinds of address
leave most numbers without a meaning.
-/

namespace SocksProxy.Wire

/-- The version every message of the main protocol begins with. -/
def version : UInt8 := 5

/-- The version of the name and password messages. -/
def credentialsVersion : UInt8 := 1

def reserved : UInt8 := 0

/-- A number without a meaning, and what it was expected to be. -/
structure UnknownCode where
  code : UInt8
  expected : String
  deriving DecidableEq, Repr

def UnknownCode.message (fault : UnknownCode) : String :=
  "try from u8(0x" ++ Text.hexUpper fault.code.toNat ++ ") error to " ++ fault.expected

/-- How a client may prove who it is. -/
inductive Method where
  | noAuth
  | gssapi
  | userPass
  | assigned (code : UInt8)
  | privateUse (code : UInt8)
  | noMethods
  deriving DecidableEq, Repr

namespace Method

def ofCode (code : UInt8) : Method :=
  if code = 0 then .noAuth
  else if code = 1 then .gssapi
  else if code = 2 then .userPass
  else if code < 0x80 then .assigned code
  else if code < 0xFF then .privateUse code
  else .noMethods

def code : Method → UInt8
  | .noAuth => 0
  | .gssapi => 1
  | .userPass => 2
  | .assigned code => code
  | .privateUse code => code
  | .noMethods => 0xFF

theorem code_ofCode (c : UInt8) : (ofCode c).code = c := by
  unfold ofCode
  split
  · rename_i same; exact same.symm
  · split
    · rename_i same; exact same.symm
    · split
      · rename_i same; exact same.symm
      · split
        · rfl
        · split
          · rfl
          · rename_i below
            have limit := c.toNat_lt
            apply UInt8.toNat_inj.mp
            simp only [UInt8.lt_iff_toNat_lt, code] at below ⊢
            change ¬ c.toNat < 255 at below
            change 255 = c.toNat
            omega

def name : Method → String
  | .noAuth => "NoAuth"
  | .gssapi => "GssApi"
  | .userPass => "UserPass"
  | .assigned code => "IANAMethod(" ++ toString code.toNat ++ ")"
  | .privateUse code => "Private(" ++ toString code.toNat ++ ")"
  | .noMethods => "NoMethods"

def text : Method → String
  | .noAuth => "No Authentication Required"
  | .gssapi => "GSSAPI"
  | .userPass => "Username/Password"
  | .assigned code => "IANA Assigned: 0x" ++ Text.hexUpper code.toNat
  | .privateUse code => "Private Methods: 0x" ++ Text.hexUpper code.toNat
  | .noMethods => "No Acceptable Methods"

/-- The methods a client can be asked to use, the most wanted first. -/
def preference : List Method := [.noAuth, .userPass, .gssapi]

/-- Place among the preferred methods. -/
def rank (m : Method) : Option Nat := preference.idxOf? m

end Method

/-- What a client asks for. -/
inductive Command where
  | connect
  | bind
  | udpAssociate
  deriving DecidableEq, Repr

namespace Command

def code : Command → UInt8
  | .connect => 1
  | .bind => 2
  | .udpAssociate => 3

def ofCode? (code : UInt8) : Except UnknownCode Command :=
  if code = 1 then .ok .connect
  else if code = 2 then .ok .bind
  else if code = 3 then .ok .udpAssociate
  else .error ⟨code, "protocol::SockCommand"⟩

def name : Command → String
  | .connect => "Connect"
  | .bind => "Bind"
  | .udpAssociate => "UdpAssociate"

end Command

/-- How an address is laid out in a message. -/
inductive AddressKind where
  | v4
  | domain
  | v6
  deriving DecidableEq, Repr

namespace AddressKind

def code : AddressKind → UInt8
  | .v4 => 1
  | .domain => 3
  | .v6 => 4

def ofCode? (code : UInt8) : Except UnknownCode AddressKind :=
  if code = 1 then .ok .v4
  else if code = 3 then .ok .domain
  else if code = 4 then .ok .v6
  else .error ⟨code, "protocol::AddrType"⟩

def name : AddressKind → String
  | .v4 => "V4"
  | .domain => "Domain"
  | .v6 => "V6"

def text : AddressKind → String
  | .v4 => "Version4 IP Address"
  | .domain => "Fully Qualified Domain Name"
  | .v6 => "Version6 IP Address"

end AddressKind

/-- Why a request could not be served. -/
inductive Refusal where
  | serverFailure
  | notAllowed
  | networkUnreachable
  | hostUnreachable
  | connectionRefused
  | ttlExpired
  | commandNotSupported
  | addressKindNotSupported
  deriving DecidableEq, Repr

namespace Refusal

def all : List Refusal :=
  [.serverFailure, .notAllowed, .networkUnreachable, .hostUnreachable, .connectionRefused,
    .ttlExpired, .commandNotSupported, .addressKindNotSupported]

def name : Refusal → String
  | .serverFailure => "ServerFailure"
  | .notAllowed => "ConnectionNotAllowed"
  | .networkUnreachable => "NetworkUnreachable"
  | .hostUnreachable => "HostUnreachable"
  | .connectionRefused => "ConnectionRefused"
  | .ttlExpired => "TtlExpired"
  | .commandNotSupported => "CommandNotSupported"
  | .addressKindNotSupported => "AddrTypeNotSupported"

def ofName? (name : String) : Option Refusal :=
  all.find? fun refusal => refusal.name == name

end Refusal

/-- The outcome that a reply reports. -/
inductive Status where
  | success
  | failure (why : Refusal)
  deriving DecidableEq, Repr

namespace Status

def isSuccess : Status → Bool
  | .success => true
  | .failure _ => false

def code : Status → UInt8
  | .success => 0
  | .failure .serverFailure => 1
  | .failure .notAllowed => 2
  | .failure .networkUnreachable => 3
  | .failure .hostUnreachable => 4
  | .failure .connectionRefused => 5
  | .failure .ttlExpired => 6
  | .failure .commandNotSupported => 7
  | .failure .addressKindNotSupported => 8

def name : Status → String
  | .success => "Success"
  | .failure .serverFailure => "Failure"
  | .failure .notAllowed => "RuleFailure"
  | .failure why => why.name

def text : Status → String
  | .success => "succeeded"
  | .failure .serverFailure => "general SOCKS server failure"
  | .failure .notAllowed => "connection not allowed by ruleset"
  | .failure .networkUnreachable => "Network unreachable"
  | .failure .hostUnreachable => "Host unreachable"
  | .failure .connectionRefused => "Connection refused"
  | .failure .ttlExpired => "TTL expired"
  | .failure .commandNotSupported => "Command not supported"
  | .failure .addressKindNotSupported => "Address type not supported"

def ofName? (name : String) : Option Status :=
  if name = "Success" then some .success else (Refusal.ofName? name).map .failure

end Status

end SocksProxy.Wire
