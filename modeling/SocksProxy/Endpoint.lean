import SocksProxy.Side
import SocksProxy.Socket

/-!
A socket of a session, with its token and what it is registered for: to become readable, writable,
both or neither. Interests form the small Boolean algebra of those two questions. Waiting for
nothing and not being registered are the same thing. What the registry answers is up to the world.
-/

namespace SocksProxy

open Net (IoError SocketAddress)

structure Interest where
  read : Bool
  write : Bool
  deriving DecidableEq, Repr

namespace Interest

def none : Interest := ⟨false, false⟩
def readOnly : Interest := ⟨true, false⟩
def writeOnly : Interest := ⟨false, true⟩
def both : Interest := ⟨true, true⟩

def union (a b : Interest) : Interest := ⟨a.read || b.read, a.write || b.write⟩

def inter (a b : Interest) : Interest := ⟨a.read && b.read, a.write && b.write⟩

def compl (a : Interest) : Interest := ⟨!a.read, !a.write⟩

def without (a b : Interest) : Interest := a.inter b.compl

def contains (a b : Interest) : Bool := a.inter b == b

def isEmpty (a : Interest) : Bool := !a.read && !a.write

def text (a : Interest) : String :=
  match a.read, a.write with
  | true, true => "RW"
  | true, false => "R"
  | false, true => "W"
  | false, false => "-"

def ofText? (text : String) : Option Interest :=
  if text = "RW" then some both
  else if text = "R" then some readOnly
  else if text = "W" then some writeOnly
  else if text = "-" ∨ text = "" then some none
  else Option.none

end Interest

structure Endpoint where
  socket : Socket
  address : SocketAddress
  token : Token
  interest : Interest
  registered : Bool
  -- How the registry answers from now on.
  registry : Registry
  deriving DecidableEq

namespace Endpoint

def new (socket : Socket) (address : SocketAddress) (token : Token) : Endpoint :=
  ⟨socket, address, token, .none, false, socket.registry⟩

/-- What has to be asked of the registry for this, if anything. -/
def call? (wanted : Interest) (e : Endpoint) : Option Registry.Call :=
  match wanted.isEmpty, e.registered with
  | false, false => some .register
  | false, true => some .reregister
  | true, true => some .deregister
  | true, false => none

/-- The registry has given its answer to a call. -/
def answered (call : Registry.Call) (e : Endpoint) : Endpoint :=
  { e with registry := e.registry.after call }

/-- Register, change or give up the registration. A refusal leaves it as it was. -/
def setInterest (wanted : Interest) (e : Endpoint) : Endpoint × Option IoError :=
  match e.call? wanted with
  | none => ({ e with interest := wanted }, none)
  | some call =>
      match e.registry.answer call with
      | none => ({ e.answered call with interest := wanted, registered := !wanted.isEmpty }, none)
      | some cause => (e.answered call, some cause)

/-- Give up the registration, whatever the registry answers. -/
def unregister (e : Endpoint) : Endpoint :=
  let left := if e.registered then e.answered .deregister else e
  { left with interest := .none, registered := false }

def shutdownRead (e : Endpoint) : Endpoint := { e with socket := e.socket.shutdownRead }

def shutdownWrite (e : Endpoint) : Endpoint := { e with socket := e.socket.shutdownWrite }

def describe (e : Endpoint) : String :=
  "Endpoint \x7b addr: " ++ e.address.text ++ ", token: Token(" ++ toString e.token.toNat ++
    "), interest: " ++ e.interest.text ++ " \x7d"

section SetInterest

variable {wanted : Interest} {before after : Endpoint} {refusal : Option IoError}

theorem call?_eq_none {e : Endpoint} :
    e.call? wanted = none ↔ wanted.isEmpty = true ∧ e.registered = false := by
  unfold call?
  cases wanted.isEmpty <;> cases e.registered <;> simp

theorem setInterest_of_granted {call : Registry.Call} (calls : before.call? wanted = some call)
    (granted : before.registry.answer call = none) :
    before.setInterest wanted =
      ({ before.answered call with interest := wanted, registered := !wanted.isEmpty }, none) := by
  simp only [setInterest, calls, granted]

theorem setInterest_of_refused {call : Registry.Call} {cause : IoError}
    (calls : before.call? wanted = some call) (refused : before.registry.answer call = some cause) :
    before.setInterest wanted = (before.answered call, some cause) := by
  simp only [setInterest, calls, refused]

/-- Only what the socket is registered for may change, and what the registry will answer. -/
theorem setInterest_eq (asked : before.setInterest wanted = (after, refusal)) :
    ∃ interest registered registry, after = { before with interest, registered, registry } := by
  unfold setInterest at asked
  split at asked
  · cases asked
    exact ⟨_, _, _, rfl⟩
  · split at asked <;> cases asked <;> exact ⟨_, _, _, rfl⟩

theorem setInterest_socket (asked : before.setInterest wanted = (after, refusal)) :
    after.socket = before.socket := by
  obtain ⟨interest, registered, registry, rfl⟩ := setInterest_eq asked
  rfl

theorem setInterest_address (asked : before.setInterest wanted = (after, refusal)) :
    after.address = before.address := by
  obtain ⟨interest, registered, registry, rfl⟩ := setInterest_eq asked
  rfl

/-- What has not been refused is what the socket is registered for. -/
theorem setInterest_granted (asked : before.setInterest wanted = (after, none)) :
    after.interest = wanted ∧ after.registered = !wanted.isEmpty := by
  unfold setInterest at asked
  split at asked
  · rename_i nothing
    obtain ⟨empty, absent⟩ := call?_eq_none.mp nothing
    cases asked
    exact ⟨rfl, by rw [absent, empty]; rfl⟩
  · split at asked <;> cases asked
    exact ⟨rfl, rfl⟩

/-- What is left to be answered is what there was, or what there is behind one more call. -/
theorem setInterest_registry (asked : before.setInterest wanted = (after, refusal)) :
    after.registry = before.registry ∨ ∃ call, after.registry = before.registry.after call := by
  unfold setInterest at asked
  split at asked
  · cases asked
    exact .inl rfl
  · split at asked <;> cases asked <;> exact .inr ⟨_, rfl⟩

theorem setInterest_accepting (wanted : Interest) {e : Endpoint}
    (accepts : e.registry = .accepting) :
    e.setInterest wanted =
      ({ e with interest := wanted, registered := !wanted.isEmpty }, none) := by
  unfold setInterest
  split
  · rename_i nothing
    obtain ⟨empty, absent⟩ := call?_eq_none.mp nothing
    rw [empty, absent]
    rfl
  · rename_i call _
    simp only [answered, accepts, Registry.answer_accepting, Registry.after_accepting]

end SetInterest

end Endpoint

end SocksProxy
