import SocksProxy.Monitor
import SocksProxy.Socket
import SocksProxy.Users

/-!
What all sessions share: who may pass, where names and addresses lead, the buffer size, the users,
the monitor, and the sessions that workers want resumed. A lookup is made by a worker away from
the session: it first leaves its answer where the session finds it, then tells the session. A
worker that dies leaves no answer, and tells nothing.
-/

namespace SocksProxy

open Net (IoError SocketAddress)
open Wire (Method Refusal)

inductive Answer where
  | addresses (found : List SocketAddress)
  | failed
  | dies
  deriving DecidableEq

namespace Lookup

inductive Stage where
  | running
  -- The answer is there and nobody has been told.
  | answered
  | told
  | vanished
  deriving DecidableEq, Repr

end Lookup

structure Lookup where
  host : String
  port : UInt16
  answer : Answer
  stage : Lookup.Stage
  -- Whether the session has taken the outcome.
  taken : Bool
  deriving DecidableEq

namespace Lookup

def ask (host : String) (port : UInt16) (answer : Answer) : Lookup :=
  ⟨host, port, answer, .running, false⟩

/-- The worker finds its answer, or dies. -/
def finish (l : Lookup) : Lookup :=
  match l.stage with
  | .running => { l with stage := match l.answer with | .dies => .vanished | _ => .answered }
  | _ => l

/-- The worker tells the session, once. -/
def tell (l : Lookup) : Bool × Lookup :=
  match l.stage with
  | .answered => (true, { l with stage := .told })
  | _ => (false, l)

def hasEnded (l : Lookup) : Bool :=
  match l.stage with
  | .running | .answered => false
  | .told | .vanished => true

/-- What the session finds: nothing while the worker runs, the addresses if it found any, and no
address otherwise. An outcome can be taken once. -/
def outcome? (l : Lookup) : Option (List SocketAddress) :=
  match l.stage with
  | .running => none
  | .vanished => some []
  | .answered | .told =>
      if l.taken then some []
      else
        match l.answer with
        | .addresses found => some found
        | .failed | .dies => some []

def take (l : Lookup) : Option (List SocketAddress) × Lookup :=
  match l.outcome? with
  | none => (none, l)
  | some found => (some found, { l with taken := true })

end Lookup

structure Notices where
  waiting : List SessionId
  heard : Bool
  deriving DecidableEq

namespace Notices

def empty : Notices := ⟨[], true⟩

def notify (id : SessionId) (n : Notices) : Except SessionError Notices :=
  if n.heard then .ok { n with waiting := n.waiting ++ [id] } else .error (.disconnected "notifier")

/-- The next session to resume, which is then no longer waiting. -/
def next (n : Notices) : Option SessionId × Notices :=
  (n.waiting.head?, { n with waiting := n.waiting.tail })

def hangUp (n : Notices) : Notices := { n with waiting := [], heard := false }

end Notices

inductive Authority where
  -- The user store, as it is when asked.
  | users
  -- A rule of its own, which may look at the credentials.
  | rule (methods : List Method) (verdict : Wire.Credentials → Except SessionError Bool)

/-- The same verdict for everybody. -/
def Authority.fixed (methods : List Method) (verdict : Except SessionError Bool) : Authority :=
  .rule methods fun _ => verdict

inductive Outcome where
  | connected (bound : SocketAddress)
  | failed (why : Refusal)
  deriving DecidableEq

inductive Route where
  | refused (why : Refusal)
  | later (outcome : Outcome)
  deriving DecidableEq

structure Services where
  authority : Authority
  resolve : String → UInt16 → Answer
  -- Why no worker can be started, if none can.
  workerFault : Option IoError
  -- What becomes of an attempt, after those that a session has made before.
  route : List SocketAddress → SocketAddress → Route
  -- How the registry answers for the socket of the last of the attempts that a session has made.
  registry : List SocketAddress → Registry
  -- Capacity of each direction's buffer.
  bufferSize : Nat
  users : UserStore
  monitor : Monitor
  notices : Notices

namespace Services

def acceptableMethods (s : Services) : List Method :=
  match s.authority with
  | .users => s.users.acceptableMethods
  | .rule methods _ => methods

def authenticate (s : Services) (c : Wire.Credentials) : Except SessionError Bool :=
  match s.authority with
  | .users => .ok (s.users.authenticate c.name c.password)
  | .rule _ verdict => verdict c

def note (entry : Entry) (s : Services) : Services :=
  { s with monitor := s.monitor.note entry }

def setSniffing (on : Bool) (s : Services) : Services :=
  { s with monitor := s.monitor.setSniffing on }

/-- Ask for a session to be resumed; that nobody listens is noted. -/
def notify (id : SessionId) (s : Services) : Services :=
  match s.notices.notify id with
  | .ok notices => { s with notices }
  | .error cause => s.note (.notNotified id cause)

/-- Only changes of the store that succeed are noted. -/
def addUser (user : User) (s : Services) : Except UserError Services :=
  (s.users.add user).map fun users => { s with users }.note (.userAdded user.name)

def removeUser (name : String) (s : Services) : Except UserError Services :=
  (s.users.remove name).map fun users => { s with users }.note (.userRemoved name)

def changePassword (name password : String) (s : Services) : Except UserError Services :=
  (s.users.changePassword name password).map fun users =>
    { s with users }.note (.passwordChanged name)

/-- Add users one after the other, until one does not fit. -/
def addUsers : List User → Services → Services × Option UserError
  | [], s => (s, none)
  | user :: rest, s =>
      match s.addUser user with
      | .ok grown => addUsers rest grown
      | .error fault => (s, some fault)

end Services

end SocksProxy
