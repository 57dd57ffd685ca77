import SocksProxy.Relay

/-!
A relay played through move by move between two far ends, and what such a far end has seen of the
proxy.
-/

namespace SocksProxy.Rehearsal

structure FarEnd where
  -- How many bytes that arrived have been shown.
  shown : Nat
  sawEnd : Bool
  -- It takes nothing for a while.
  stalled : Bool
  deriving DecidableEq, Repr

namespace FarEnd

def fresh : FarEnd := ⟨0, false, false⟩

def after (move : FarMove) (f : FarEnd) : FarEnd :=
  match move with
  | .limit _ => { f with stalled := true }
  | .release => { f with stalled := false }
  | _ => f

/-- Bytes that arrived since the last look. Nothing arrives while the far end takes nothing. -/
def arrived (s : Socket) (f : FarEnd) : Bytes :=
  if f.stalled then [] else s.delivered.drop f.shown

/-- After a look. A far end that is gone sees no end any more. -/
def look (s : Socket) (f : FarEnd) : FarEnd :=
  if f.stalled then f
  else { f with shown := s.delivered.length, sawEnd := f.sawEnd || (s.sawEnd && !s.gone) }

end FarEnd

end SocksProxy.Rehearsal

namespace SocksProxy.Rehearsal.Copying

open Net (IoError SocketAddress)

structure Script where
  bufferSize : Nat
  -- For each side, bytes that its buffer holds to begin with.
  held : Pair Bytes
  hasSniffer : Bool
  sniffing : Bool
  addresses : Pair SocketAddress

structure Stage where
  scene : Relay.Scene
  ends : Pair FarEnd

structure Glimpse where
  -- For steps of the relay itself, what it failed with, if it did.
  result : Option (Option IoError)
  scene : Relay.Scene
  arrived : Pair Bytes
  sawEnd : Pair Bool
  log : List Entry

namespace Stage

def ofScript (script : Script) : Stage :=
  let buffer (bytes : Bytes) := (Buffer.new script.bufferSize).put bytes
  let endpoint (side : Side) :=
    Endpoint.new .fresh (script.addresses.get side) (Token.ofSession ⟨0⟩ side)
  { scene :=
      { relay := Relay.new (if script.hasSniffer then some .new else none)
        ends := ⟨endpoint .client, endpoint .server⟩
        buffers := ⟨buffer script.held.client, buffer script.held.server⟩
        monitor := Monitor.new script.sniffing }
    ends := ⟨.fresh, .fresh⟩ }

def afterFar (move : Relay.Move) (ends : Pair FarEnd) : Pair FarEnd :=
  match move with
  | .far side move => ends.set side ((ends.get side).after move)
  | _ => ends

def isStep : Relay.Move → Bool
  | .start | .readable _ | .writable _ => true
  | .setSniffing _ | .far _ _ => false

/-- Make a move and look at everything; the journal is shown once. -/
def step (s : Stage) (move : Relay.Move) : Glimpse × Stage :=
  let moved := s.scene.move move
  let scene := moved.1
  let ends := afterFar move s.ends
  let client := scene.ends.client.socket
  let server := scene.ends.server.socket
  let seen : Pair FarEnd := ⟨ends.client.look client, ends.server.look server⟩
  let glimpse : Glimpse :=
    { result := if isStep move then some moved.2 else none
      scene := scene
      arrived := ⟨ends.client.arrived client, ends.server.arrived server⟩
      sawEnd := ⟨seen.client.sawEnd, seen.server.sawEnd⟩
      log := scene.monitor.journal }
  (glimpse, ⟨{ scene with monitor := { scene.monitor with journal := [] } }, seen⟩)

end Stage

def play : List Relay.Move → Stage → List Glimpse
  | [], _ => []
  | move :: rest, s =>
      let taken := s.step move
      taken.1 :: play rest taken.2

def run (script : Script) (moves : List Relay.Move) : List Glimpse :=
  play moves (Stage.ofScript script)

end SocksProxy.Rehearsal.Copying
