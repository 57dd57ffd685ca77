import SocksProxy.Session.Live

/-!
A session driven by events. Each phase acts on one event, the relay on four; every other event
leaves everything as it is. Beside the events there are the moves of the world around a session.
-/

namespace SocksProxy

open Net (SocketAddress)
open Wire (Method Refusal Request Status)

namespace Live

/-- Stage the outcome of a request that is not served, with the requested address sent back. -/
def refuse (request : Request) (why : Refusal) (s : Live) : Live :=
  s.say (.reply (.echo request (.failure why))) (enter (.replying request (.failure why)))

/-- No address is left; the last one failed for this reason. -/
def unreachable (request : Request) (last : Refusal) (s : Live) : Live :=
  match request.socketAddress? with
  | some _ => s.refuse request last
  | none =>
      (s.noteProblem (.hostUnreachable request.address.host request.port)).refuse request
        .hostUnreachable

/-- The socket of the latest attempt. -/
def stream (s : Live) : Socket :=
  { Socket.fresh with registry := s.services.registry s.session.record.attempts }

def dialling (server : Endpoint) (attempt : Attempt) (s : Live) : Live :=
  { s with session := { s.session.dropServer with server := some server, attempt := some attempt } }

/-- A connection is on its way: wait for the destination, and for nothing from the client. -/
def dial (request : Request) (rest : List SocketAddress) (target : SocketAddress)
    (outcome : Outcome) (s : Live) : Live :=
  let server := Endpoint.new s.stream target (Token.ofSession s.session.id .server)
  match server.setInterest .writeOnly with
  | (_, some cause) => s.fail (.io cause)
  | (server, none) =>
      (s.dialling server ⟨target, outcome, false⟩).await .none
        (enter (.connecting request ⟨rest⟩ target))

def attempting (target : SocketAddress) (s : Live) : Live :=
  s.withRecord { s.session.record with attempts := s.session.record.attempts ++ [target] }

/-- Try addresses until one does not fail at once. -/
def connect (request : Request) : List SocketAddress → Refusal → Live → Live
  | [], last, s => s.unreachable request last
  | target :: rest, _, s =>
      match s.services.route s.session.record.attempts target with
      | .refused why => (s.attempting target).connect request rest why
      | .later outcome => (s.attempting target).dial request rest target outcome

def asking (host : String) (port : UInt16) (s : Live) : Live :=
  { s with session := { s.session with
      lookup := some (Lookup.ask host port (s.services.resolve host port))
      record := { s.session.record with
        lookups := s.session.record.lookups ++ [(host, port)] } } }

/-- Ask a worker for the addresses of a name, if one can be started. -/
def lookUp (request : Request) (s : Live) : Live :=
  match s.services.workerFault with
  | some cause =>
      (s.note (.notLookedUp s.session.id (.io cause))).refuse request
        (SessionError.io cause).refusal
  | none =>
      (s.asking request.address.host request.port).await .none (enter (.resolving request))

def serve (request : Request) (s : Live) : Live :=
  if request.command = .connect then
    match request.socketAddress? with
    | some address => s.connect request [address] .hostUnreachable
    | none => s.lookUp request
  else
    (s.noteProblem (.commandNotSupported request.command)).refuse request .commandNotSupported

/-- The session has been told that its lookup is over, or so it seems. -/
def resolved (request : Request) (s : Live) : Live :=
  match s.session.lookup with
  | none => s
  | some lookup =>
      match lookup.take with
      | (none, _) => s
      | (some found, lookup) =>
          match found with
          | [] =>
              ((s.withLookup lookup).noteProblem
                (.nameNotResolved request.address.host request.port)).refuse request
                .hostUnreachable
          | first :: rest =>
              (s.withLookup lookup).connect request (first :: rest) .hostUnreachable

/-- The destination serves from now on. -/
def connected (request : Request) (server : Endpoint) (bound : SocketAddress) (s : Live) : Live :=
  match server.setInterest .none with
  | (server, some cause) => (s.withServer (some server)).fail (.io cause)
  | (server, none) =>
      (s.withServer (some server)).say (.reply (.bound .success bound)) fun replied =>
        { replied with session := { replied.session with
            attempt := none, phase := .replying request .success } }

def settled (request : Request) (rest : Candidates) (s : Live) : Live :=
  match s.session.server, s.session.attempt with
  | none, _ => s.fail .noServer
  | some _, none => s
  | some server, some attempt =>
      if attempt.settled then
        match attempt.outcome with
        | .connected bound => s.connected request server bound
        | .failed why => s.abandonServer.connect request rest.waiting why
      else s

/-- Go on with a message, or wait for the rest of it. A decoder that is done without a message is
a failure of the proxy's own. -/
def parse {σ α : Type} (decoder : Wire.Decoder σ α) (absent : String) (again : σ → Phase)
    (next : α → Live → Live) (state : σ) (closed : Bool) (s : Live) : Live :=
  let result := decoder.runOn state s.inbound
  let read := s.withInbound result.2.2
  match result.2.1 with
  | .done =>
      match decoder.output result.1 with
      | some message => next message read
      | none => read.fail (.messageFormat absent)
  | .failed => read.fail (.messageFormat (decoder.reason result.1))
  | .needMore => read.needMore closed (again result.1)

def readRequest : Wire.Request.State → Bool → Live → Live :=
  parse Wire.Request.decoder "no request" .request serve

def beginRequest (s : Live) : Live := s.await .readOnly (readRequest .version false)

def checking (question : Check) (s : Live) : Live :=
  s.withRecord { s.session.record with checks := s.session.record.checks ++ [question] }

def named (name : String) (s : Live) : Live :=
  { s with session := { s.session with user := some name } }

/-- Ask the authority, remember an accepted name, and tell the client. -/
def check (credentials : Wire.Credentials) (s : Live) : Live :=
  let answer := s.services.authenticate credentials
  let asked := s.checking ⟨credentials, answer.toOption⟩
  match answer with
  | .error cause => asked.fail cause
  | .ok true => (asked.named credentials.name).say (.verdict true) (enter (.verdict true))
  | .ok false =>
      (asked.noteProblem .badCredentials).say (.verdict false) (enter (.verdict false))

def readCredentials : Wire.Credentials.State → Bool → Live → Live :=
  parse Wire.Credentials.decoder "no credentials" .credentials check

/-- Tell the client which method has been chosen. -/
def announce (method : Method) (s : Live) : Live :=
  s.say (.selection method) (enter (.selecting method))

def readGreeting (acceptable : List Method) : Wire.Greeting.State → Bool → Live → Live :=
  parse (Wire.Greeting.decoder acceptable) "no method selection" (.greeting acceptable) announce

/-- The client knows the method; only two of them lead on. -/
def selected (method : Method) (s : Live) : Live :=
  match method with
  | .noAuth => s.beginRequest
  | .userPass => s.await .readOnly (readCredentials .version false)
  | .gssapi => (s.note (.gssapiRefused s.session.id)).enter .done
  | _ => (s.note (.noMethod s.session.id)).enter .done

def judged (accepted : Bool) (s : Live) : Live :=
  if accepted then s.beginRequest else s.enter .done

def scene (relay : Relay) (server : Endpoint) (s : Live) : Relay.Scene :=
  ⟨relay, ⟨s.session.client, server⟩, s.session.buffers, s.services.monitor⟩

def withScene (scene : Relay.Scene) (s : Live) : Live :=
  { services := { s.services with monitor := scene.monitor }
    session := { s.session with
      client := scene.ends.client
      server := some scene.ends.server
      buffers := scene.buffers } }

def relay (relay : Relay) (step : Relay.Scene → Relay.Scene × Option Net.IoError) (s : Live) :
    Live :=
  match s.session.server with
  | none => s.fail .noServer
  | some server =>
      let result := step (s.scene relay server)
      let stepped := s.withScene result.1
      match result.2 with
      | some cause => stepped.fail (.io cause)
      | none => stepped.enter (if result.1.relay.isDone then .done else .relaying result.1.relay)

/-- A sniffer follows mail connections, if it is wanted when they begin. -/
def snifferFor (request : Request) (s : Live) : Option Pop3.Sniffer :=
  if request.port = Pop3.port ∧ s.services.monitor.sniffing = true then some .new else none

/-- The client knows the outcome: note the access, then relay or end. -/
def replied (request : Request) (status : Status) (s : Live) : Live :=
  let noted := s.note (.access s.session.client.address s.session.user request.command
    request.destination status)
  if status.isSuccess then noted.relay (Relay.new (s.snifferFor request)) Relay.Scene.start
  else noted.enter .done

/-- Nobody waits for a lookup any more, if there is one. -/
def forgetLookup (s : Live) : Live := { s with session := { s.session with lookup := none } }

/-- Wait for the greeting, with the methods that are acceptable at this moment. -/
def start (s : Live) : Live :=
  let fresh := s.forgetLookup
  match fresh.session.client.setInterest .readOnly with
  | (client, none) =>
      (fresh.withClient client).enter (.greeting s.services.acceptableMethods .version)
  | (client, some cause) =>
      ((fresh.withClient client).note (.notRegistered s.session.id cause)).fail (.io cause)

def handle (event : Event) (s : Live) : Live :=
  match s.session.phase, event with
  | .greeting acceptable state, .readable .client => s.receive (readGreeting acceptable state)
  | .selecting method, .writable .client => s.flush (selected method)
  | .credentials state, .readable .client => s.receive (readCredentials state)
  | .verdict accepted, .writable .client => s.flush (judged accepted)
  | .request state, .readable .client => s.receive (readRequest state)
  | .resolving request, .resumed => s.resolved request
  | .connecting request rest _, .writable .server => s.settled request rest
  | .replying request status, .writable .client => s.flush (replied request status)
  | .relaying relay, .readable side => s.relay relay (Relay.Scene.onRead side)
  | .relaying relay, .writable side => s.relay relay (Relay.Scene.onWrite side)
  | _, _ => s

/-- Give up both sockets' registrations, and the destination's socket. -/
def close (s : Live) : Live :=
  { s with session := { s.session.dropServer with client := s.session.client.unregister } }

/-- The far end of one side makes a move; a destination has one once it serves. -/
def farMove (move : FarMove) (side : Side) (s : Live) : Live :=
  match side, s.session.server, s.session.attempt with
  | .client, _, _ => s.withClientSocket (s.session.client.socket.farMove move)
  | .server, some server, none =>
      s.withServer (some { server with socket := server.socket.farMove move })
  | .server, _, _ =>
      { s with session := { s.session with former := s.session.former.map (Socket.farMove move) } }

/-- Whether a connection is on its way and not decided. -/
def isDialling (s : Live) : Bool :=
  match s.session.attempt with
  | some attempt => !attempt.settled
  | none => false

def settle (s : Live) : Live :=
  { s with session := { s.session with
      attempt := s.session.attempt.map fun attempt => { attempt with settled := true } } }

def finishLookup (s : Live) : Live :=
  { s with session := { s.session with lookup := s.session.lookup.map Lookup.finish } }

/-- The lookup's worker asks for the session to be resumed, if it has an answer to give. -/
def tellLookup (s : Live) : Live :=
  match s.session.lookup with
  | none => s
  | some lookup =>
      let told := lookup.tell
      let services := if told.1 then s.services.notify s.session.id else s.services
      { services := services, session := { s.session with lookup := some told.2 } }

/-- Refused changes of the users change nothing. -/
def withUsers (changed : Except UserError Services) (s : Live) : Live :=
  match changed with
  | .ok services => { s with services := services }
  | .error _ => s

end Live

inductive Move where
  | start
  | event (event : Event)
  | close
  -- The connection on its way is decided.
  | settle
  -- The lookup's worker ends.
  | finishLookup
  -- The lookup's worker asks for the session to be resumed.
  | tellLookup
  | setSniffing (on : Bool)
  | addUser (user : User)
  | removeUser (name : String)
  | changePassword (name password : String)
  | far (side : Side) (move : FarMove)
  deriving DecidableEq

namespace Live

def move : Move → Live → Live
  | .start, s => s.start
  | .event event, s => s.handle event
  | .close, s => s.close
  | .settle, s => s.settle
  | .finishLookup, s => s.finishLookup
  | .tellLookup, s => s.tellLookup
  | .setSniffing on, s => { s with services := s.services.setSniffing on }
  | .addUser user, s => s.withUsers (s.services.addUser user)
  | .removeUser name, s => s.withUsers (s.services.removeUser name)
  | .changePassword name password, s => s.withUsers (s.services.changePassword name password)
  | .far side move, s => s.farMove move side

def run (moves : List Move) (s : Live) : Live := moves.foldl (fun s m => s.move m) s

end Live

end SocksProxy
