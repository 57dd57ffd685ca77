import SocksProxy.Endpoint
import SocksProxy.Monitor

/-!
Bytes copied both ways between two sockets through two buffers, one for each source. For each side
there is what it may still do and what it waits for at the moment; the first never grows. When a
source has ended and its buffer is drained, the other side's half for writing is shut down. The
sniffer only sees what has been read; it decides nothing.
-/

namespace SocksProxy

open Net (IoError)

/-- What one side still may do, and what it waits for. -/
structure CopyContext where
  interest : Interest
  allowed : Interest
  deriving DecidableEq, Repr

namespace CopyContext

def new : CopyContext := ⟨.none, .both⟩

/-- Wait for this too, as far as it is allowed. -/
def arm (wanted : Interest) (c : CopyContext) : CopyContext :=
  { c with interest := c.interest.union (wanted.inter c.allowed) }

def disarm (unwanted : Interest) (c : CopyContext) : CopyContext :=
  { c with interest := c.interest.without unwanted }

/-- Never again. -/
def revoke (lost : Interest) (c : CopyContext) : CopyContext :=
  { c.disarm lost with allowed := c.allowed.without lost }

end CopyContext

structure Relay where
  contexts : Pair CopyContext
  sniffer : Option Pop3.Sniffer
  deriving DecidableEq

namespace Relay

def new (sniffer : Option Pop3.Sniffer) : Relay := ⟨⟨.new, .new⟩, sniffer⟩

def isDone (r : Relay) : Bool :=
  r.contexts.client.allowed.isEmpty && r.contexts.client.interest.isEmpty &&
    r.contexts.server.allowed.isEmpty && r.contexts.server.interest.isEmpty

structure Scene where
  relay : Relay
  ends : Pair Endpoint
  -- For each side, the buffer that it reads into and its peer writes from.
  buffers : Pair Buffer
  monitor : Monitor
  deriving DecidableEq

namespace Scene

def context (s : Scene) (side : Side) : CopyContext := s.relay.contexts.get side

def withContext (s : Scene) (side : Side) (f : CopyContext → CopyContext) : Scene :=
  { s with relay := { s.relay with contexts := s.relay.contexts.set side (f (s.context side)) } }

def withEnd (s : Scene) (side : Side) (f : Endpoint → Endpoint) : Scene :=
  { s with ends := s.ends.set side (f (s.ends.get side)) }

def withSocket (s : Scene) (side : Side) (socket : Socket) : Scene :=
  s.withEnd side fun e => { e with socket := socket }

def withBuffer (s : Scene) (side : Side) (buffer : Buffer) : Scene :=
  { s with buffers := s.buffers.set side buffer }

def withSniffer (s : Scene) (sniffer : Pop3.Sniffer) : Scene :=
  { s with relay := { s.relay with sniffer := some sniffer } }

def register (s : Scene) (side : Side) : Scene × Option IoError :=
  let asked := (s.ends.get side).setInterest (s.context side).interest
  ({ s with ends := s.ends.set side asked.1 }, asked.2)

/-- Register a side and then its peer; a refusal ends the step there. -/
def registerBoth (s : Scene) (side : Side) : Scene × Option IoError :=
  let first := s.register side
  match first.2 with
  | some _ => first
  | none => first.1.register side.other

/-- Report a login once its answer has been seen. -/
def report (s : Scene) (login : Pop3.Sighting) : Scene :=
  { s with monitor := s.monitor.sighted s.ends.client.address s.ends.server.address login }

/-- Show the sniffer what was read from one side, if there is one and it is wanted. -/
def sniff (s : Scene) (side : Side) (chunk : Bytes) : Scene :=
  if s.monitor.sniffing then
    match s.relay.sniffer, side with
    | none, _ => s
    | some sniffer, .client => s.withSniffer (sniffer.clientBytes chunk)
    | some sniffer, .server =>
        let heard := sniffer.serverBytes chunk
        heard.1.foldl report (s.withSniffer heard.2)
  else s

/-- Both sides wait to read, and to write if something is there already. -/
def armed (s : Scene) : Scene :=
  let reading := (s.withContext .client (·.arm .readOnly)).withContext .server (·.arm .readOnly)
  let serverArmed :=
    if s.buffers.client.canRead then reading.withContext .server (·.arm .writeOnly) else reading
  if s.buffers.server.canRead then serverArmed.withContext .client (·.arm .writeOnly)
  else serverArmed

def start (s : Scene) : Scene × Option IoError := s.armed.registerBoth .client

/-- The source has ended: it is not read again, and an empty buffer closes the way onwards. -/
def sourceEnded (s : Scene) (side : Side) : Scene :=
  let cut := (s.withContext side (·.revoke .readOnly)).withEnd side Endpoint.shutdownRead
  if (s.buffers.get side).isEmpty then
    (cut.withContext side.other (·.revoke .writeOnly)).withEnd side.other Endpoint.shutdownWrite
  else cut

/-- Keep reading while there is room; a full buffer waits for the peer to drain it. -/
def sourceOpen (s : Scene) (side : Side) : Scene :=
  if (s.buffers.get side).canWrite then s.withContext side (·.arm .readOnly)
  else s.withContext side (·.disarm .readOnly)

def took (s : Scene) (side : Side) (received : Received) : Scene :=
  let stored := (s.withSocket side received.socket).withBuffer side
    ((s.buffers.get side).put received.bytes)
  let seen := stored.sniff side received.bytes
  if received.bytes.isEmpty then seen else seen.withContext side.other (·.arm .writeOnly)

def onRead (side : Side) (s : Scene) : Scene × Option IoError :=
  if (s.context side).allowed.read then
    let received := (s.ends.get side).socket.receive (s.buffers.get side).room
    let stored := s.took side received
    let settled :=
      if received.ending.isClosed then stored.sourceEnded side else stored.sourceOpen side
    settled.registerBoth side
  else (s, none)

def gave (s : Scene) (side : Side) (sent : Sent) : Scene :=
  { (s.withSocket side sent.socket).withBuffer side.other
      ((s.buffers.get side.other).consume sent.count) with
    monitor := s.monitor.countBytes sent.count }

/-- Nothing waits to be written; if nothing more can come, the half is closed. -/
def sinkDrained (s : Scene) (side : Side) : Scene :=
  let idle := s.withContext side (·.disarm .writeOnly)
  if (s.context side.other).allowed.read then idle
  else (idle.withContext side (·.revoke .writeOnly)).withEnd side Endpoint.shutdownWrite

/-- The peer may fill the room that writing has made, and what is left waits to be written. -/
def sinkServed (s : Scene) (side : Side) (count : Nat) : Scene :=
  let resumed := if 0 < count then s.withContext side.other (·.arm .readOnly) else s
  if (resumed.buffers.get side.other).isEmpty then resumed.sinkDrained side
  else resumed.withContext side (·.arm .writeOnly)

/-- A side has become writable. What was written before a failure counts. -/
def onWrite (side : Side) (s : Scene) : Scene × Option IoError :=
  if (s.context side).allowed.write then
    let sent := (s.ends.get side).socket.transmit (s.buffers.get side.other).held
    let stored := s.gave side sent
    match sent.ending with
    | .failed cause => (stored, some cause)
    | .drained | .blocked => (stored.sinkServed side sent.count).registerBoth side
  else (s, none)

def farMove (move : FarMove) (side : Side) (s : Scene) : Scene :=
  s.withSocket side ((s.ends.get side).socket.farMove move)

def setSniffing (on : Bool) (s : Scene) : Scene :=
  { s with monitor := s.monitor.setSniffing on }

end Scene

inductive Move where
  | start
  | readable (side : Side)
  | writable (side : Side)
  | setSniffing (on : Bool)
  | far (side : Side) (move : FarMove)
  deriving DecidableEq, Repr

namespace Scene

/-- The scene after a move, and what a step of the relay failed with. -/
def move : Move → Scene → Scene × Option IoError
  | .start, s => s.start
  | .readable side, s => s.onRead side
  | .writable side, s => s.onWrite side
  | .setSniffing on, s => (s.setSniffing on, none)
  | .far side move, s => (s.farMove move side, none)

/-- A relay goes on after a failure, as far as it can. -/
def run (moves : List Move) (s : Scene) : Scene := moves.foldl (fun s m => (s.move m).1) s

end Scene

end Relay

end SocksProxy
