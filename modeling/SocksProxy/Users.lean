import SocksProxy.Text.Quoted
import SocksProxy.Wire.Code

/-!
Users who may authenticate with name and password: at most ten, names distinct, in the order in
which they were added. A name is only compared as a whole, and a refused change leaves the store as
it was.
-/

namespace SocksProxy

open Wire (Method)

structure User where
  name : String
  password : String
  deriving DecidableEq, Repr

/-- The name in full, the password never. -/
def User.describe (u : User) : String :=
  "User \x7b name: " ++ Text.quoted u.name ++ ", password: \"***\" \x7d"

inductive UserError where
  | alreadyExists (name : String)
  | tooMany (most : Nat)
  | notFound (name : String)
  deriving DecidableEq, Repr

def UserError.message : UserError → String
  | .alreadyExists name => "user already exists: " ++ name
  | .tooMany most => "too many users: at most " ++ toString most
  | .notFound name => "no such user: " ++ name

structure UserStore where
  users : List User
  deriving DecidableEq, Repr

namespace UserStore

def mostUsers : Nat := 10

def empty : UserStore := ⟨[]⟩

def names (s : UserStore) : List String := s.users.map User.name

def has (s : UserStore) (name : String) : Bool := s.users.any fun u => u.name == name

/-- A name that is taken is reported before a store that is full. -/
def add (s : UserStore) (user : User) : Except UserError UserStore :=
  if s.has user.name then .error (.alreadyExists user.name)
  else if mostUsers ≤ s.users.length then .error (.tooMany mostUsers)
  else .ok ⟨s.users ++ [user]⟩

def remove (s : UserStore) (name : String) : Except UserError UserStore :=
  if s.has name then .ok ⟨s.users.eraseP fun u => u.name == name⟩
  else .error (.notFound name)

/-- Give the first user of that name another password. -/
def replacePassword (name password : String) : List User → List User
  | [] => []
  | u :: rest =>
      if u.name = name then { u with password := password } :: rest
      else u :: replacePassword name password rest

def changePassword (s : UserStore) (name password : String) : Except UserError UserStore :=
  if s.has name then .ok ⟨replacePassword name password s.users⟩
  else .error (.notFound name)

def authenticate (s : UserStore) (name password : String) : Bool :=
  s.users.any fun u => u.name == name && u.password == password

def needsAuth (s : UserStore) : Bool := !s.users.isEmpty

/-- With users a password is demanded, without any it is not. -/
def acceptableMethods (s : UserStore) : List Method :=
  if s.needsAuth then [.userPass, .gssapi] else [.noAuth, .gssapi]

/-- Add users one after the other, stopping at the first that does not fit. -/
def addAll : List User → UserStore → Except UserError UserStore
  | [], s => .ok s
  | user :: rest, s =>
      match s.add user with
      | .ok grown => addAll rest grown
      | .error fault => .error fault

def ofUsers (users : List User) : Except UserError UserStore := addAll users empty

end UserStore

end SocksProxy
