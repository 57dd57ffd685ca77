import SocksProxy.Relay

/-!
A step of reading, read by read. The octets of a read come to lie in free cells; the sniffer is
shown them there, and only then the write cursor moves behind them. Reading goes on until there is
no room, nothing to be read, or no stream any more.
-/

namespace SocksProxy.Relay

/-- What the system makes of an attempt to read: it is interrupted, or brings this much and one
octet more, if there is so much. -/
inductive Attempt where
  | interrupted
  | brings (more : Nat)
  deriving DecidableEq, Repr

namespace Scene

/-- What came of reading: the reads that brought something, and how they came to an end. -/
structure Reading where
  reads : List Bytes
  ending : ReadEnd
  scene : Scene

/-- Show the sniffer octets of one side, if there is one. -/
def shown (s : Scene) (side : Side) (chunk : Bytes) : Scene :=
  match s.relay.sniffer, side with
  | none, _ => s
  | some sniffer, .client => s.withSniffer (sniffer.clientBytes chunk)
  | some sniffer, .server =>
      let heard := sniffer.serverBytes chunk
      heard.1.foldl report (s.withSniffer heard.2)

variable (wanted : Bool) (side : Side)

/-- What a read of at most so many octets brings. -/
def available (most : Nat) (s : Scene) : Bytes :=
  (s.ends.get side).socket.inbox.take (min most (s.buffers.get side).room)

/-- A read that brings these octets. -/
def readOnce (chunk : Bytes) (s : Scene) : Scene :=
  let socket := (s.ends.get side).socket
  let lying := (s.buffers.get side).store chunk
  let rest := { socket with
    inbox := socket.inbox.drop chunk.length
    taken := socket.taken ++ chunk }
  let stored := (s.withSocket side rest).withBuffer side lying
  let seen := if wanted then stored.shown side (lying.free.take chunk.length) else stored
  seen.withBuffer side (lying.fill chunk.length)

/-- With everything read that was sent, the stream goes on, has ended or fails. -/
def readEnd (s : Scene) : Reading :=
  let found := (s.ends.get side).socket.atEnd
  ⟨[], found.1, s.withSocket side found.2⟩

/-- One attempt to read, and what follows if it brings something. -/
def readUpTo (most : Nat) (onwards : Scene → Reading) (s : Scene) : Reading :=
  if (s.buffers.get side).canWrite then
    match s.available side most with
    | [] => s.readEnd side
    | first :: more =>
        let later := onwards (s.readOnce wanted side (first :: more))
        { later with reads := (first :: more) :: later.reads }
  else ⟨[], .full, s⟩

/-- Attempt after attempt. The one behind the last of them brings all there is room for. -/
def readLoop : List Attempt → Scene → Reading
  | [], s =>
      s.readUpTo wanted side (s.buffers.get side).room fun all =>
        if (all.buffers.get side).canWrite then all.readEnd side else ⟨[], .full, all⟩
  | .interrupted :: rest, s =>
      if (s.buffers.get side).canWrite then readLoop rest s else ⟨[], .full, s⟩
  | .brings more :: rest, s => s.readUpTo wanted side (more + 1) (readLoop rest)

/-- A side has become readable. Whether the sniffer is wanted is asked once, before the first
read. -/
def onReadBy (attempts : List Attempt) (s : Scene) : Scene × Option Net.IoError :=
  if (s.context side).allowed.read then
    let reading := s.readLoop s.monitor.sniffing side attempts
    let stored :=
      if reading.reads.isEmpty then reading.scene
      else reading.scene.withContext side.other (·.arm .writeOnly)
    let settled :=
      if reading.ending.isClosed then stored.sourceEnded side else stored.sourceOpen side
    settled.registerBoth side
  else (s, none)

/-- A move, with the attempts to read if it is one of reading. -/
def moveBy (attempts : List Attempt) : Move → Scene → Scene × Option Net.IoError
  | .readable side, s => s.onReadBy side attempts
  | move, s => s.move move

end Scene

end SocksProxy.Relay
