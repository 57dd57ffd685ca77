import SocksProxy.Server

/-!
A whole server played through: clients and destinations come, speak and go, and after each step
everything that can happen without them does happen. Lookups and connections are decided as soon as
they begin.
-/

namespace SocksProxy.Rehearsal.Hosting

open Net (SocketAddress)

inductive Step where
  -- A client connects.
  | enter (client : String)
  -- A destination takes the connection to this address that waits longest.
  | accept (target : SocketAddress) (destination : String)
  | send (peer : String) (bytes : Bytes)
  | finish (peer : String)
  | leave (peer : String)
  | receive (peer : String) (count : Nat)
  -- Everything up to the end of the stream.
  | drain (peer : String)
  | idle
  | setSniffing (on : Bool)
  | addUser (user : User)
  | removeUser (name : String)
  | terminate
  deriving DecidableEq

inductive Answer where
  | done
  | bytes (received : Bytes)
  | stats (now : Stats)
  | sent (heard : Bool)
  | changed (fault : Option UserError)
  | stopped (heard : Bool) (after : Stats)
  deriving DecidableEq

/-- Somebody at the far end of one side of a session. -/
structure Peer where
  name : String
  session : SessionId
  side : Side
  -- How many bytes have been received.
  received : Nat
  deriving DecidableEq

structure Stage where
  server : Server
  peers : List Peer
  -- Clients so far.
  entered : Nat

namespace Stage

def sessions (s : Stage) : List Session := s.server.sessions ++ s.server.closed

def session? (id : SessionId) (s : Stage) : Option Session := s.sessions.find? fun x => x.id = id

def socket? (peer : Peer) (s : Stage) : Option Socket :=
  (s.session? peer.session).bind fun session =>
    match peer.side with
    | .client => some session.client.socket
    | .server => session.destination?

def peer? (name : String) (s : Stage) : Option Peer := s.peers.find? fun p => p.name = name

def withPeer (peer : Peer) (s : Stage) : Stage :=
  { s with peers := s.peers.map fun p => if p.name = peer.name then peer else p }

/-- What is ready on a socket, of what is waited for. -/
def readinessOf (interest : Interest) (socket : Socket) : Server.Readiness :=
  { readable := interest.read && (!socket.inbox.isEmpty || socket.tail != .more)
    writable := interest.write && (socket.space != some 0 || socket.broken)
    readClosed := false
    writeClosed := false
    error := false }

/-- A connection that has been decided. -/
def writableOnly : Server.Readiness := ⟨false, true, false, false, false⟩

/-- What one session waits for and what has come. -/
def pending (session : Session) : List Server.Happening :=
  let token (side : Side) := Token.ofSession session.id side
  let client := readinessOf session.client.interest session.client.socket
  let lookup : List Server.Happening :=
    match session.lookup with
    | some ⟨_, _, _, .running, _⟩ => [.around session.id .finishLookup]
    | some ⟨_, _, _, .answered, _⟩ => [.around session.id .tellLookup, .woken []]
    | _ => []
  let server : List Server.Happening :=
    match session.server, session.attempt with
    | some _, some ⟨_, _, false⟩ => [.around session.id .settle]
    | some server, some ⟨_, _, true⟩ =>
        if server.interest.write then [.ready (token .server) writableOnly] else []
    | some server, none =>
        let ready := readinessOf server.interest server.socket
        if (ready.events .server).isEmpty then [] else [.ready (token .server) ready]
    | none, _ => []
  let client : List Server.Happening :=
    if (client.events .client).isEmpty then [] else [.ready (token .client) client]
  lookup ++ client ++ server

/-- Let everything happen that can. -/
def settle : Nat → Server → Server
  | 0, s => s
  | fuel + 1, s =>
      match s.sessions.flatMap pending with
      | [] => s
      | happenings => settle fuel (s.run happenings)

/-- Every round passes on a byte or brings a session further. -/
def rounds (s : Server) : Nat :=
  s.sessions.foldl (fun total session =>
    total + 64 + 2 * session.client.socket.inbox.length +
      2 * (session.server.map fun e => e.socket.inbox.length).getD 0) 64

def withServer (server : Server) (s : Stage) : Stage :=
  { s with server := settle (rounds server) server }

def farMove (peer : Peer) (move : FarMove) (s : Stage) : Stage :=
  s.withServer (s.server.happen (.around peer.session (.far peer.side move)))

/-- Whether this session serves the address and nobody has taken its destination's side. -/
def isWaiting (target : SocketAddress) (s : Stage) (session : Session) : Bool :=
  session.record.attempts.getLast? == some target && session.destination?.isSome &&
    !s.peers.any fun p => p.session = session.id && p.side = .server

def enter (name : String) (s : Stage) : Stage :=
  let id : SessionId := ⟨UInt32.ofNat s.entered⟩
  let address := SocketAddress.ofIp .localhost (UInt16.ofNat (20000 + s.entered))
  let accepted := s.server.happen (.accepted [id] .fresh address)
  let peers := s.peers ++ [Peer.mk name id .client 0]
  { s with peers := peers, entered := s.entered + 1 }.withServer accepted

/-- Take so many bytes, or all of them. -/
def receive (peer : Peer) (count : Option Nat) (s : Stage) : Bytes × Stage :=
  let arrived := ((s.socket? peer).map Socket.delivered).getD []
  let fresh := arrived.drop peer.received
  let taken := match count with | some n => fresh.take n | none => fresh
  (taken, s.withPeer { peer with received := peer.received + taken.length })

/-- Whoever goes with bytes not received resets the connection. -/
def leave (peer : Peer) (s : Stage) : Stage :=
  let arrived := ((s.socket? peer).map fun x => x.delivered.length).getD 0
  s.farMove peer (if peer.received < arrived then .abort 0 else .leave 0)

def changeUsers (changed : Except UserError Services) (s : Stage) : Answer × Stage :=
  match changed with
  | .ok services => (.changed none, { s with server := { s.server with services := services } })
  | .error cause => (.changed (some cause), s)

def stats (s : Stage) : Stats := s.server.services.monitor.stats

def command (what : Server.Command) (s : Stage) : Stage :=
  s.withServer (s.server.happen (.woken [what]))

def withPeerNamed (name : String) (f : Peer → Stage → Answer × Stage) (s : Stage) :
    Answer × Stage :=
  match s.peer? name with
  | some peer => f peer s
  | none => (.done, s)

def step (s : Stage) : Step → Answer × Stage
  | .enter name => (.done, s.enter name)
  | .accept target name =>
      match s.sessions.find? (s.isWaiting target) with
      | some session =>
          (.done, { s with peers := s.peers ++ [Peer.mk name session.id .server 0] })
      | none => (.done, s)
  | .send name bytes => s.withPeerNamed name fun peer s => (.done, s.farMove peer (.send bytes))
  | .finish name => s.withPeerNamed name fun peer s => (.done, s.farMove peer .finish)
  | .leave name => s.withPeerNamed name fun peer s => (.done, s.leave peer)
  | .receive name count => s.withPeerNamed name fun peer s =>
      let r := s.receive peer (some count); (.bytes r.1, r.2)
  | .drain name => s.withPeerNamed name fun peer s =>
      let r := s.receive peer none; (.bytes r.1, r.2)
  | .idle => (.stats s.stats, s)
  | .setSniffing on => (.sent s.server.running, s.command (.setSniffing on))
  | .addUser user => s.changeUsers (s.server.services.addUser user)
  | .removeUser name => s.changeUsers (s.server.services.removeUser name)
  | .terminate =>
      let stopped := s.command .terminate
      (.stopped s.server.running stopped.stats, stopped)

end Stage

/-- What a whole run shows. -/
structure Result where
  answers : List Answer
  users : List String
  stats : Stats

def play : List Step → Stage → List Answer × Stage
  | [], s => ([], s)
  | what :: rest, s =>
      let taken := s.step what
      let others := play rest taken.2
      (taken.1 :: others.1, others.2)

/-- The server is stopped at the end, if it still runs. -/
def run (server : Server) (steps : List Step) : Result :=
  let played := play steps ⟨server, [], 0⟩
  { answers := played.1
    users := played.2.server.services.users.names
    stats := (played.2.command .terminate).stats }

end SocksProxy.Rehearsal.Hosting
