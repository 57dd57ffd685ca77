import SocksProxy.Session.Run
import SocksProxy.Settings

/-!
Many sessions side by side. What becomes ready is named by a token, and the token alone decides
whether clients are accepted, the waker is heard, or a session is told; sessions whose work
elsewhere is over are named by their ids. A session that has come to its end leaves the table at
once, and is counted as closed when it does.
-/

namespace SocksProxy

open Net (IoError SocketAddress)

structure Server where
  services : Services
  -- Sessions at work, the oldest first.
  sessions : List Session
  -- Sessions that have left, the latest first.
  closed : List Session
  -- Whether anybody is still accepted.
  running : Bool

namespace Server

/-- What can be known about a socket that has become ready. -/
structure Readiness where
  readable : Bool
  writable : Bool
  readClosed : Bool
  writeClosed : Bool
  error : Bool
  deriving DecidableEq, Repr

/-- Reading comes first. -/
def Readiness.events (side : Side) (r : Readiness) : List SocksProxy.Event :=
  (if r.readable || r.readClosed || r.error then [.readable side] else []) ++
    (if r.writable || r.writeClosed || r.error then [.writable side] else [])

def new (services : Services) : Server := ⟨services, [], [], true⟩

/-- Why there is no server, and what has been noted until then. -/
structure Failure where
  cause : Error
  journal : List Entry
  deriving DecidableEq

/-- Services that the sessions of a server with these settings share. -/
def servicesFor (settings : Settings) (resolve : String → UInt16 → Answer)
    (route : SocketAddress → Route) (registry : List SocketAddress → Registry) :
    Services × Option UserError :=
  let services : Services :=
    { authority := .users
      resolve := resolve
      workerFault := none
      route := fun _ => route
      registry := registry
      bufferSize := settings.bufferSize
      users := .empty
      monitor := Monitor.new settings.sniffing
      notices := .empty }
  services.addUsers settings.users

def configured (settings : Settings) : Entry :=
  .configured settings.address settings.bufferSize settings.sniffing settings.users.length

/-- A server with these settings, and the address that it has been given. Settings that make no
sense are reported before an address that cannot be had, and that before users who do not fit. -/
def ofSettings (settings : Settings) (resolve : String → UInt16 → Answer)
    (route : SocketAddress → Route) (registry : List SocketAddress → Registry) (ports : Net.Ports) :
    Except Failure (Server × SocketAddress × Net.Ports) :=
  match settings.validate, ports.listen settings.address with
  | .error cause, _ | _, .error cause => .error ⟨cause, []⟩
  | .ok (), .ok (address, ports) =>
      match servicesFor settings resolve route registry with
      | (services, some cause) => .error ⟨.user cause, services.monitor.journal⟩
      | (services, none) => .ok (new (services.note (configured settings)), address, ports)

def find? (id : SessionId) (s : Server) : Option Session := s.sessions.find? fun x => x.id = id

def has (id : SessionId) (s : Server) : Bool := s.sessions.any fun x => x.id = id

def replace (session : Session) : List Session → List Session
  | [] => []
  | x :: rest => if x.id = session.id then session :: rest else x :: replace session rest

def without (id : SessionId) (sessions : List Session) : List Session :=
  sessions.filter fun x => !decide (x.id = id)

def live (session : Session) (s : Server) : Live := ⟨s.services, session⟩

def note (entry : Entry) (s : Server) : Server := { s with services := s.services.note entry }

def withStats (f : Stats → Stats) (s : Server) : Server :=
  { s with services := { s.services with
      monitor := { s.services.monitor with stats := f s.services.monitor.stats } } }

def retire (session : Session) (s : Server) : Server :=
  let ended := (s.live session).close
  let left : Server :=
    { s with
      services := ended.services
      sessions := without session.id s.sessions
      closed := ended.session :: s.closed }
  left.withStats Stats.closed

/-- A session that has come to its end leaves the table. -/
def reap (id : SessionId) (s : Server) : Server :=
  match s.find? id with
  | none => s
  | some session =>
      if session.isFinished then
        (s.retire session).note (.closed id session.client.address session.phase.name)
      else s

/-- Events for one session, as long as it goes on. Nothing happens for one that has left. -/
def drive (id : SessionId) (events : List SocksProxy.Event) (s : Server) : Server :=
  match s.find? id with
  | none => s
  | some session =>
      let driven := events.foldl
        (fun live event => if live.session.isFinished then live else live.handle event)
        (s.live session)
      let stored : Server :=
        { s with services := driven.services, sessions := replace driven.session s.sessions }
      stored.reap id

/-- The first of the ids that are drawn which no session has. -/
def freshId? (drawn : List SessionId) (s : Server) : Option SessionId :=
  drawn.find? fun id => !s.has id

def acceptAs (id : SessionId) (socket : Socket) (address : SocketAddress) (s : Server) : Server :=
  let noted := (s.note (.accepted id address)).withStats Stats.opened
  let started := (noted.live (Session.new id socket address s.services.bufferSize)).start
  let stored : Server :=
    { noted with services := started.services, sessions := noted.sessions ++ [started.session] }
  stored.reap id

/-- Take a client on, once an id is drawn that no session has. -/
def accept (drawn : List SessionId) (socket : Socket) (address : SocketAddress) (s : Server) :
    Server :=
  match s.freshId? drawn with
  | some id => s.acceptAs id socket address
  | none => s

def readiness (token : Token) (ready : Readiness) (s : Server) : Server :=
  match Token.session? token with
  | none => s.note (.unknownToken token)
  | some (id, side) => s.drive id (ready.events side)

def shutdown (s : Server) : Server :=
  { s.sessions.foldl (fun s session => s.retire session) s with running := false }

def resume (ids : List SessionId) (s : Server) : Server :=
  ids.foldl (fun s id => s.drive id [.resumed]) s

/-- Obey commands in order. After the command to stop nothing else is done. -/
def obey : List Command → Server → Server
  | [], s => s
  | command :: rest, s =>
      let noted := s.note (.commanded command)
      match command with
      | .terminate => noted.shutdown.note .stopped
      | .setSniffing on => obey rest { noted with services := noted.services.setSniffing on }

/-- Commands first, then the sessions that are to be resumed, if the server goes on. -/
def wake (commands : List Command) (s : Server) : Server :=
  let obeyed := s.obey commands
  if obeyed.running then
    let waiting := obeyed.services.notices.waiting
    let taken : Server :=
      { obeyed with services := { obeyed.services with
          notices := { obeyed.services.notices with waiting := [] } } }
    taken.resume waiting
  else obeyed

/-- The world around one session makes a move. -/
def around (id : SessionId) (move : Live → Live) (s : Server) : Server :=
  match s.find? id with
  | none => s
  | some session =>
      let moved := move (s.live session)
      { s with services := moved.services, sessions := replace moved.session s.sessions }

inductive Happening where
  | accepted (drawn : List SessionId) (socket : Socket) (address : SocketAddress)
  | ready (token : Token) (readiness : Readiness)
  | woken (commands : List Command)
  -- Somebody asks for a session to be resumed, whether there is such a session or not.
  | notified (id : SessionId)
  -- A far end, a lookup or a connection of one session moves.
  | around (id : SessionId) (move : Move)
  deriving DecidableEq

/-- Moves of a session's surroundings, as opposed to moves of the session itself. -/
def isAround : Move → Bool
  | .settle | .finishLookup | .tellLookup | .far _ _ => true
  | _ => false

def happen : Happening → Server → Server
  | .accepted drawn socket address, s => if s.running then s.accept drawn socket address else s
  | .ready token readiness, s => if s.running then s.readiness token readiness else s
  | .woken commands, s => if s.running then s.wake commands else s
  | .notified id, s => { s with services := s.services.notify id }
  | .around id move, s => if isAround move then s.around id (Live.move move) else s

def run (happenings : List Happening) (s : Server) : Server :=
  happenings.foldl (fun s h => s.happen h) s

/-- A client that connects, and the ids as they are drawn for it. -/
structure Caller where
  drawn : List SessionId
  socket : Socket
  address : Net.SocketAddress

/-- What has become ready, with the clients that wait to be accepted and the commands that wait to
be obeyed by then. -/
structure Signal where
  token : Token
  readiness : Readiness
  callers : List Caller
  commands : List Command

def turn (signal : Signal) (s : Server) : Server :=
  if signal.token = Token.listener then
    signal.callers.foldl (fun s caller => s.accept caller.drawn caller.socket caller.address) s
  else if signal.token = Token.waker then s.wake signal.commands
  else s.readiness signal.token signal.readiness

end Server

end SocksProxy
