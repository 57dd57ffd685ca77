import SocksProxy.Relay
import SocksProxy.Session.Services

/-!
A session, and a session at work: together with the services it uses. A phase holds exactly what
it still needs: a decoder's place, the method that is being announced, the request that is being
served, the relay. What the proxy may say in it is a message. The small moves of a session are
here: reading what the client sent, sending what is staged, staging a message, and going on once
the client's socket is registered for what is needed next.
-/

namespace SocksProxy

open Net (SocketAddress)
open Wire (Method Request Status)

structure Candidates where
  waiting : List SocketAddress
  deriving DecidableEq

namespace Candidates

/-- The next address to try, which is then no longer waiting. -/
def next (c : Candidates) : Option SocketAddress × Candidates :=
  (c.waiting.head?, ⟨c.waiting.tail⟩)

def isEmpty (c : Candidates) : Bool := c.waiting.isEmpty

end Candidates

inductive Event where
  | readable (side : Side)
  | writable (side : Side)
  -- Work away from the session is over.
  | resumed
  deriving DecidableEq, Repr

inductive Phase where
  | greeting (acceptable : List Method) (state : Wire.Greeting.State)
  | selecting (method : Method)
  | credentials (state : Wire.Credentials.State)
  | verdict (accepted : Bool)
  | request (state : Wire.Request.State)
  | resolving (request : Request)
  | connecting (request : Request) (rest : Candidates) (target : SocketAddress)
  | replying (request : Request) (status : Status)
  | relaying (relay : Relay)
  | failed (cause : SessionError)
  | done
  deriving DecidableEq

namespace Phase

def name : Phase → String
  | .greeting _ _ => "CONN_READ"
  | .selecting _ => "CONN_WRITE"
  | .credentials _ => "AUTH_READ"
  | .verdict _ => "AUTH_WRITE"
  | .request _ => "REQ_READ"
  | .resolving _ => "REQ_RESOLVE"
  | .connecting _ _ _ => "REQ_CONNECT"
  | .replying _ _ => "REQ_WRITE"
  | .relaying _ => "COPY"
  | .failed _ => "ERROR"
  | .done => "DONE"

/-- Place in the order in which phases follow one another. -/
def rank : Phase → Nat
  | .greeting _ _ => 0
  | .selecting _ => 1
  | .credentials _ => 2
  | .verdict _ => 3
  | .request _ => 4
  | .resolving _ => 5
  | .connecting _ _ _ => 6
  | .replying _ _ => 7
  | .relaying _ => 8
  | .failed _ => 9
  | .done => 9

def isFinished : Phase → Bool
  | .failed _ | .done => true
  | _ => false

end Phase

/-- What a session says to its client before any byte is relayed. -/
inductive Message where
  | selection (method : Method)
  | verdict (accepted : Bool)
  | reply (content : Wire.Reply)
  deriving DecidableEq

namespace Message

def encode : Message → Bytes
  | .selection method => Wire.Selection.encode ⟨Wire.version, method⟩
  | .verdict accepted => Wire.Verdict.encode ⟨accepted⟩
  | .reply content => content.encode

def write : Message → Buffer → Except Wire.WriteFault Buffer
  | .selection method => Wire.Selection.write ⟨Wire.version, method⟩
  | .verdict accepted => Wire.Verdict.write ⟨accepted⟩
  | .reply content => content.write

/-- Every message announces the length that it has. -/
theorem write_eq (message : Message) (b : Buffer) :
    message.write b = Wire.writeExact message.encode.length message.encode b := by
  cases message with
  | selection method => rfl
  | verdict accepted => rfl
  | reply content =>
      change Wire.writeExact content.wireLength content.encode b = _
      rw [← content.encode_length]
      rfl

theorem write_held {message : Message} {before after : Buffer}
    (written : message.write before = .ok after) : after.held = before.held ++ message.encode := by
  rw [write_eq] at written
  exact Wire.writeExact_held written

end Message

structure Attempt where
  target : SocketAddress
  outcome : Outcome
  settled : Bool
  deriving DecidableEq

structure Check where
  credentials : Wire.Credentials
  -- Absent if the authority failed to answer.
  accepted : Option Bool
  deriving DecidableEq

/-- What a session has asked for and said, oldest first. -/
structure Record where
  lookups : List (String × UInt16)
  attempts : List SocketAddress
  checks : List Check
  said : List Message
  -- Sockets of destinations that have been let go.
  abandoned : List Socket
  deriving DecidableEq

structure Session where
  id : SessionId
  phase : Phase
  client : Endpoint
  server : Option Endpoint
  -- For each side, what came from it and has not been passed on.
  buffers : Pair Buffer
  -- The name that was authenticated.
  user : Option String
  lookup : Option Lookup
  -- The latest connection on its way, until it serves.
  attempt : Option Attempt
  -- The latest destination that served and was let go.
  former : Option Socket
  record : Record
  deriving DecidableEq

namespace Session

/-- Not started yet, so finished as far as anyone can see. -/
def new (id : SessionId) (client : Socket) (address : SocketAddress) (bufferSize : Nat) : Session :=
  { id := id
    phase := .done
    client := Endpoint.new client address (Token.ofSession id .client)
    server := none
    buffers := ⟨Buffer.new bufferSize, Buffer.new bufferSize⟩
    user := none
    lookup := none
    attempt := none
    former := none
    record := ⟨[], [], [], [], []⟩ }

def isFinished (s : Session) : Bool := s.phase.isFinished

/-- The destination's socket, once it serves. -/
def destination? (s : Session) : Option Socket :=
  match s.server, s.attempt with
  | some server, none => some server.socket
  | _, _ => s.former

/-- Let go of the destination's socket, whether it has served or not. -/
def abandon (s : Session) : Session :=
  { s with
    server := none
    record := { s.record with
      abandoned := s.record.abandoned ++ (s.server.map Endpoint.socket).toList } }

/-- Let go of the destination's socket; one that has served is kept in mind. -/
def dropServer (s : Session) : Session :=
  { s.abandon with former := s.destination?.map Socket.close }

end Session

structure Live where
  services : Services
  session : Session

namespace Live

def enter (phase : Phase) (s : Live) : Live :=
  { s with session := { s.session with phase := phase } }

def fail (cause : SessionError) (s : Live) : Live := s.enter (.failed cause)

def note (entry : Entry) (s : Live) : Live := { s with services := s.services.note entry }

def noteProblem (cause : SessionError) (s : Live) : Live := s.note (.problem s.session.id cause)

def withClient (client : Endpoint) (s : Live) : Live :=
  { s with session := { s.session with client := client } }

def withClientSocket (socket : Socket) (s : Live) : Live :=
  s.withClient { s.session.client with socket := socket }

def withServer (server : Option Endpoint) (s : Live) : Live :=
  { s with session := { s.session with server := server } }

def withLookup (lookup : Lookup) (s : Live) : Live :=
  { s with session := { s.session with lookup := some lookup } }

/-- The destination could not be reached. -/
def abandonServer (s : Live) : Live := { s with session := s.session.abandon }

def withRecord (record : Record) (s : Live) : Live :=
  { s with session := { s.session with record := record } }

def inbound (s : Live) : Buffer := s.session.buffers.client

def outbound (s : Live) : Buffer := s.session.buffers.server

def withInbound (buffer : Buffer) (s : Live) : Live :=
  { s with session := { s.session with buffers := { s.session.buffers with client := buffer } } }

def withOutbound (buffer : Buffer) (s : Live) : Live :=
  { s with session := { s.session with buffers := { s.session.buffers with server := buffer } } }

/-- Go on with the client's socket registered for what is wanted. -/
def await (wanted : Interest) (next : Live → Live) (s : Live) : Live :=
  match s.session.client.setInterest wanted with
  | (client, none) => next (s.withClient client)
  | (client, some cause) => (s.withClient client).fail (.io cause)

/-- What a round of reading from the client brings now. -/
def incoming (s : Live) : Received := s.session.client.socket.receive s.inbound.room

/-- What a round of writing to the client takes now. -/
def outgoing (s : Live) : Sent := s.session.client.socket.transmit s.outbound.held

/-- A round of reading has put what it brought into the buffer. -/
def took (s : Live) : Live :=
  (s.withClientSocket s.incoming.socket).withInbound (s.inbound.put s.incoming.bytes)

/-- A round of writing has taken what it wrote out of the buffer. -/
def gave (s : Live) : Live :=
  (s.withClientSocket s.outgoing.socket).withOutbound (s.outbound.consume s.outgoing.count)

/-- Read what the client has sent, and go on knowing whether its stream has ended. -/
def receive (next : Bool → Live → Live) (s : Live) : Live :=
  match s.incoming.ending with
  | .full | .blocked => next false s.took
  | .ended => next true s.took
  | .failed cause => s.took.fail (.io cause)

/-- Send what is staged, and go on once all of it is sent. -/
def flush (next : Live → Live) (s : Live) : Live :=
  match s.outgoing.ending with
  | .drained => next s.gave
  | .blocked => s.gave
  | .failed cause => s.gave.fail (.io cause)

def staged (message : Message) (buffer : Buffer) (s : Live) : Live :=
  (s.withOutbound buffer).withRecord
    { s.session.record with said := s.session.record.said ++ [message] }

/-- Stage a message, and go on waiting for the client to take it. -/
def say (message : Message) (next : Live → Live) (s : Live) : Live :=
  match message.write s.outbound with
  | .ok buffer => (s.staged message buffer).await .writeOnly next
  | .error fault => s.fail (.ofWrite fault)

/-- A message is not complete: wait for more, unless nothing more can come. -/
def needMore (closed : Bool) (phase : Phase) (s : Live) : Live :=
  if closed then s.fail (.peerClosed s.session.client.address)
  else s.await .readOnly (enter phase)

end Live

end SocksProxy
