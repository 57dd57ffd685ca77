import SocksProxy.Rehearsal.Copying
import SocksProxy.Session.Run

/-!
A session played through step by step: a script fixes who may pass, where names and addresses lead,
and when lookups and connections are decided. A lookup waits until the script lets it go; from then
on lookups are decided as soon as they begin.
-/

namespace SocksProxy.Rehearsal

open Net (SocketAddress)

structure World where
  hosts : List (String × List SocketAddress)
  routes : List (SocketAddress × Route)
  -- Lookups die instead of answering.
  lookupsDie : Bool

namespace World

def resolve (w : World) (host : String) (_ : UInt16) : Answer :=
  if w.lookupsDie then .dies
  else
    match w.hosts.lookup host with
    | some addresses => .addresses addresses
    | none => .failed

def route (w : World) (address : SocketAddress) : Route :=
  (w.routes.lookup address).getD (.refused .serverFailure)

end World

end SocksProxy.Rehearsal

namespace SocksProxy.Rehearsal.Serving

open Net (SocketAddress)

structure Script where
  id : SessionId
  client : SocketAddress
  bufferSize : Nat
  users : List User
  -- A fixed rule in place of the users.
  authority : Authority
  sniffing : Bool
  world : World
  started : Bool

inductive Step where
  | move (move : Move)
  -- Let lookups go that have been held back.
  | release
  deriving DecidableEq

/-- What a step reports of itself. -/
inductive Reaction where
  -- Whether there was a connection to decide.
  | settled (anything : Bool)
  | notified (id : SessionId)
  | died
  -- The session did not wait for a lookup that was held back.
  | nothing
  deriving DecidableEq

structure Stage where
  live : Live
  -- Lookups are not held back any more.
  released : Bool
  ends : Pair FarEnd
  lookupsShown : Nat
  attemptsShown : Nat

/-- What one step shows. -/
structure Glimpse where
  reaction : Option Reaction
  lookups : List (String × UInt16)
  error : Option SessionError
  log : List Entry
  session : Session
  arrived : Pair Bytes
  sawEnd : Pair Bool
  attempts : List SocketAddress
  bytesTransferred : UInt64
  credentialsSniffed : UInt64

def Script.services (script : Script) : Services :=
  { authority := script.authority
    resolve := script.world.resolve
    workerFault := none
    route := fun _ => script.world.route
    registry := fun _ => .accepting
    bufferSize := script.bufferSize
    users := .empty
    monitor := Monitor.new script.sniffing
    notices := .empty }

/-- The users are added before anything is shown. -/
def Stage.ofScript (script : Script) : Except UserError Stage :=
  match script.services.addUsers script.users with
  | (_, some fault) => .error fault
  | (services, none) =>
      .ok
        { live :=
            { services := { services with monitor := { services.monitor with journal := [] } }
              session := Session.new script.id .fresh script.client script.bufferSize }
          released := false
          ends := ⟨.fresh, .fresh⟩
          lookupsShown := 0
          attemptsShown := 0 }

namespace Stage

def withLive (s : Stage) (live : Live) : Stage := { s with live := live }

/-- Let the lookup's worker come to its end. -/
def endLookup (live : Live) : Live := live.finishLookup.tellLookup

/-- Let lookups go from now on. If the session waits for one that was held back, report whether it
was told. -/
def release (s : Stage) : Stage × Reaction :=
  let ended := endLookup s.live
  let reaction : Reaction :=
    match s.live.session.phase, s.released with
    | .resolving _, false =>
        match ended.services.notices.waiting.drop s.live.services.notices.waiting.length with
        | id :: _ => .notified id
        | [] => .died
    | _, _ => .nothing
  ({ s with live := ended, released := true }, reaction)

def afterFar (move : Move) (ends : Pair FarEnd) : Pair FarEnd :=
  match move with
  | .far side move => ends.set side ((ends.get side).after move)
  | _ => ends

def act (s : Stage) : Step → Stage × Option Reaction
  | .release => let r := s.release; (r.1, some r.2)
  | .move move =>
      let reaction := if move = .settle then some (.settled s.live.isDialling) else none
      ({ s with live := s.live.move move, ends := afterFar move s.ends }, reaction)

/-- Lookups that are not held back end at once. -/
def settleLookups (s : Stage) : Stage :=
  if s.released then s.withLive (endLookup s.live) else s

/-- A destination that begins to serve is seen from its first byte. -/
def meetDestination (before after : Stage) : Stage :=
  if before.live.session.attempt.isSome && after.live.session.attempt.isNone then
    { after with ends := { after.ends with server := .fresh } }
  else after

/-- Why the session failed, if it did so just now. -/
def newError (before after : Phase) : Option SessionError :=
  match before, after with
  | .failed _, _ => none
  | _, .failed cause => some cause
  | _, _ => none

/-- Look at everything. The journal is shown once, and the lookups once they have been let go. -/
def look (before s : Stage) (reaction : Option Reaction) : Glimpse × Stage :=
  let session := s.live.session
  let server := session.destination?.getD .fresh
  let seen : Pair FarEnd :=
    ⟨s.ends.client.look session.client.socket, s.ends.server.look server⟩
  let told := match reaction with | some (.notified _) => true | _ => false
  let glimpse : Glimpse :=
    { reaction := reaction
      lookups := if told then session.record.lookups.drop s.lookupsShown else []
      error := newError before.live.session.phase session.phase
      log := s.live.services.monitor.journal
      session := session
      arrived := ⟨s.ends.client.arrived session.client.socket, s.ends.server.arrived server⟩
      sawEnd := ⟨seen.client.sawEnd, seen.server.sawEnd⟩
      attempts := session.record.attempts.drop s.attemptsShown
      bytesTransferred := s.live.services.monitor.stats.bytesTransferred
      credentialsSniffed := s.live.services.monitor.stats.credentialsSniffed }
  let services := s.live.services
  (glimpse,
    { live :=
        { services := { services with monitor := { services.monitor with journal := [] } }
          session := session }
      released := s.released
      ends := seen
      lookupsShown := if told then session.record.lookups.length else s.lookupsShown
      attemptsShown := session.record.attempts.length })

def step (s : Stage) (what : Step) : Glimpse × Stage :=
  let acted := s.act what
  look s (meetDestination s acted.1.settleLookups) acted.2

end Stage

/-- A run cannot be played: a refusal that comes later is a closed port that answers, and there is
no network on which to find one. -/
inductive Fault where
  | badUsers (cause : UserError)
  | noNetwork
  deriving DecidableEq

/-- Whether a connection to one of these addresses would be refused later. -/
def needsNetwork (script : Script) (attempts : List SocketAddress) : Bool :=
  attempts.any fun target =>
    script.world.route target == .later (.failed .connectionRefused)

def play (script : Script) : List Step → Stage → Except Fault (List Glimpse)
  | [], _ => .ok []
  | what :: rest, s =>
      let taken := s.step what
      if needsNetwork script taken.1.attempts then .error .noNetwork
      else (play script rest taken.2).map (taken.1 :: ·)

/-- The first glimpse is of the session before any step. -/
def run (script : Script) (steps : List Step) : Except Fault (List Glimpse) :=
  match Stage.ofScript script with
  | .error cause => .error (.badUsers cause)
  | .ok stage =>
      let begun := if script.started then stage.withLive stage.live.start else stage
      let first := Stage.look stage begun none
      (play script steps first.2).map (first.1 :: ·)

end SocksProxy.Rehearsal.Serving
