/-!
The two sides of a relayed connection, pairs with one component for each, and the names of sockets.
The listening socket and the waker have tokens of their own; each session has two neighbouring ones,
its client's first. A token is a 64-bit number and a session id a 32-bit one, so distinct sockets of
sessions always have distinct tokens.
-/

namespace SocksProxy

inductive Side where
  | client
  | server
  deriving DecidableEq, Repr

namespace Side

def other : Side → Side
  | .client => .server
  | .server => .client

@[simp] theorem other_other (s : Side) : s.other.other = s := by cases s <;> rfl

theorem other_ne (s : Side) : s.other ≠ s := by cases s <;> decide

theorem eq_or_other (s way : Side) : s = way ∨ s = way.other := by
  cases s <;> cases way <;> simp [other]

def name : Side → String
  | .client => "Client"
  | .server => "Server"

end Side

structure Pair (α : Type) where
  client : α
  server : α
  deriving DecidableEq, Repr

namespace Pair

variable {α : Type}

def get (p : Pair α) : Side → α
  | .client => p.client
  | .server => p.server

def set (p : Pair α) (s : Side) (a : α) : Pair α :=
  match s with
  | .client => { p with client := a }
  | .server => { p with server := a }

@[simp] theorem get_set_same (p : Pair α) (s : Side) (a : α) : (p.set s a).get s = a := by
  cases s <;> rfl

@[simp] theorem get_set_other (p : Pair α) (s : Side) (a : α) :
    (p.set s a).get s.other = p.get s.other := by
  cases s <;> rfl

@[simp] theorem get_other_set (p : Pair α) (s : Side) (a : α) :
    (p.set s.other a).get s = p.get s := by
  cases s <;> rfl

end Pair

structure SessionId where
  number : UInt32
  deriving DecidableEq, Repr

def SessionId.text (id : SessionId) : String :=
  "SessionId(" ++ toString id.number.toNat ++ ")"

abbrev Token := UInt64

namespace Token

def listener : Token := 0
def waker : Token := 1

/-- The first token that belongs to a session. -/
def first : Nat := 2

def ofSession (id : SessionId) (side : Side) : Token :=
  let base := first + 2 * id.number.toNat
  match side with
  | .client => UInt64.ofNat base
  | .server => UInt64.ofNat (base + 1)

/-- Whose socket a token names; ids wrap at 32 bits. -/
def session? (token : Token) : Option (SessionId × Side) :=
  if token.toNat < first then none
  else
    let n := token.toNat - first
    some (⟨UInt32.ofNat (n / 2)⟩, if n % 2 = 0 then .client else .server)

end Token

end SocksProxy
