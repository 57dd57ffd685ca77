import SocksProxy.Proofs.Wire.Credentials
import SocksProxy.Proofs.Wire.Greeting
import SocksProxy.Proofs.Wire.Request
import SocksProxy.Session.Run

/-!
The books of a session: what has passed between it and the world, whatever way it passed. All that
is said here about a session is said about its books, so a step that leaves them as they are needs
no word.
-/

namespace SocksProxy

open Net (SocketAddress)
open Wire (Method)

def Entry.accessUser? : Entry → Option (Option String)
  | .access _ user _ _ _ => some user
  | _ => none

theorem Entry.about_of_silent {entry : Entry} {allowed : Option String → Prop}
    (silent : entry.accessUser? = none) : ∀ who, entry.accessUser? = some who → allowed who := by
  intro who about
  rw [silent] at about
  cases about

/-- The name in the first credentials that were accepted. -/
def acceptedName (checks : List Check) : Option String :=
  checks.findSome? fun check =>
    if check.accepted = some true then some check.credentials.name else none

namespace Session

/-- The sockets of all destinations that a session has had, the present one last. -/
def destinations (s : Session) : List Socket :=
  s.record.abandoned ++ (s.server.map Endpoint.socket).toList

def fetched (s : Session) : Bytes := s.destinations.flatMap Socket.taken

def forwarded (s : Session) : Bytes := s.destinations.flatMap Socket.delivered

end Session

structure Ledger where
  -- Everything read from the client.
  taken : Bytes
  -- Everything written to the client.
  delivered : Bytes
  -- Read from the client and not used yet.
  inbound : Bytes
  -- Meant for the client and not written yet.
  outbound : Bytes
  said : List Message
  checks : List Check
  user : Option String
  lookups : List (String × UInt16)
  attempts : List SocketAddress
  -- What was read from each destination and what was written to it, the present one last.
  traffic : List (Bytes × Bytes)
  journal : List Entry

def Live.ledger (s : Live) : Ledger :=
  { taken := s.session.client.socket.taken
    delivered := s.session.client.socket.delivered
    inbound := s.inbound.held
    outbound := s.outbound.held
    said := s.session.record.said
    checks := s.session.record.checks
    user := s.session.user
    lookups := s.session.record.lookups
    attempts := s.session.record.attempts
    traffic := s.session.destinations.map fun socket => (socket.taken, socket.delivered)
    journal := s.services.monitor.journal }

namespace Ledger

section Postings

variable (l : Ledger)

def fetched : Bytes := l.traffic.flatMap Prod.fst

def forwarded : Bytes := l.traffic.flatMap Prod.snd

def receive (bytes : Bytes) : Ledger :=
  { l with taken := l.taken ++ bytes, inbound := l.inbound ++ bytes }

def send (count : Nat) : Ledger :=
  { l with
    delivered := l.delivered ++ l.outbound.take count
    outbound := l.outbound.drop count }

def use (rest : Bytes) : Ledger := { l with inbound := rest }

def say (message : Message) : Ledger :=
  { l with outbound := l.outbound ++ message.encode, said := l.said ++ [message] }

def note (entry : Entry) : Ledger := { l with journal := l.journal ++ [entry] }

def check (question : Check) : Ledger := { l with checks := l.checks ++ [question] }

def lookUp (name : String × UInt16) : Ledger := { l with lookups := l.lookups ++ [name] }

def attempt (target : SocketAddress) : Ledger := { l with attempts := l.attempts ++ [target] }

def dial : Ledger := { l with traffic := l.traffic ++ [([], [])] }

end Postings

/-- What was heard from the client, and what was said to it, since the books began. -/
structure Talk (l first : Ledger) (heard : Bytes) (said : List Message) : Prop where
  taken : l.taken = first.taken ++ (heard ++ l.inbound)
  delivered : l.delivered ++ l.outbound = first.delivered ++ said.flatMap Message.encode
  said : l.said = said

/-- Whom the access lines since the books began are about. -/
def Accesses (l first : Ledger) (allowed : Option String → Prop) : Prop :=
  ∃ noted, l.journal = first.journal ++ noted ∧
    ∀ entry ∈ noted, ∀ who, entry.accessUser? = some who → allowed who

variable {l first : Ledger} {heard : Bytes} {said : List Message}

theorem Talk.receive (talk : l.Talk first heard said) (bytes : Bytes) :
    (l.receive bytes).Talk first heard said := by
  refine ⟨?_, talk.delivered, talk.said⟩
  simp only [Ledger.receive, talk.taken, List.append_assoc]

theorem Talk.send (talk : l.Talk first heard said) (count : Nat) :
    (l.send count).Talk first heard said := by
  refine ⟨talk.taken, ?_, talk.said⟩
  simp only [Ledger.send, List.append_assoc, List.take_append_drop]
  exact talk.delivered

theorem Talk.use (talk : l.Talk first heard said) {bytes rest : Bytes}
    (split : l.inbound = bytes ++ rest) : (l.use rest).Talk first (heard ++ bytes) said := by
  refine ⟨?_, talk.delivered, talk.said⟩
  simp only [Ledger.use, talk.taken, split, List.append_assoc]

theorem Talk.say (talk : l.Talk first heard said) (message : Message) :
    (l.say message).Talk first heard (said ++ [message]) := by
  refine ⟨talk.taken, ?_, ?_⟩
  · simp only [Ledger.say, ← List.append_assoc, talk.delivered, List.flatMap_append,
      List.flatMap_singleton]
  · simp only [Ledger.say, talk.said]

theorem Accesses.note {allowed : Option String → Prop} (accesses : l.Accesses first allowed)
    {entry : Entry} (welcome : ∀ who, entry.accessUser? = some who → allowed who) :
    (l.note entry).Accesses first allowed := by
  obtain ⟨noted, journal, about⟩ := accesses
  refine ⟨noted ++ [entry], ?_, ?_⟩
  · simp only [Ledger.note, journal, List.append_assoc]
  · intro other member
    rcases List.mem_append.mp member with old | new
    · exact about other old
    · rw [List.mem_singleton.mp new]
      exact welcome

structure Untried (l first : Ledger) : Prop where
  lookups : l.lookups = []
  attempts : l.attempts = []
  replies : ∀ reply, Message.reply reply ∉ l.said
  traffic : l.traffic = []
  accesses : l.Accesses first fun _ => False

/-- A client is being met: this was heard and said, and the authority was asked this. -/
structure Meeting (l first : Ledger) (heard : Bytes) (said : List Message) (asked : List Check) :
    Prop where
  untried : l.Untried first
  talk : l.Talk first heard said
  checks : l.checks = asked
  user : l.user = acceptedName asked

variable {asked : List Check}

theorem Meeting.receive (meeting : l.Meeting first heard said asked) (bytes : Bytes) :
    (l.receive bytes).Meeting first heard said asked :=
  { meeting with untried := { meeting.untried with }, talk := meeting.talk.receive bytes }

theorem Meeting.send (meeting : l.Meeting first heard said asked) (count : Nat) :
    (l.send count).Meeting first heard said asked :=
  { meeting with untried := { meeting.untried with }, talk := meeting.talk.send count }

theorem Meeting.use (meeting : l.Meeting first heard said asked) {bytes rest : Bytes}
    (split : l.inbound = bytes ++ rest) :
    (l.use rest).Meeting first (heard ++ bytes) said asked :=
  { meeting with untried := { meeting.untried with }, talk := meeting.talk.use split }

theorem Meeting.say (meeting : l.Meeting first heard said asked) {message : Message}
    (early : ∀ reply, message ≠ .reply reply) :
    (l.say message).Meeting first heard (said ++ [message]) asked := by
  have replies : ∀ reply, Message.reply reply ∉ l.said ++ [message] := by
    intro reply member
    rcases List.mem_append.mp member with old | new
    · exact meeting.untried.replies reply old
    · exact early reply (List.mem_singleton.mp new).symm
  exact
    { meeting with
      untried := { meeting.untried with replies }
      talk := meeting.talk.say message }

theorem Untried.note (untried : l.Untried first) {entry : Entry}
    (silent : entry.accessUser? = none) : (l.note entry).Untried first :=
  { untried with accesses := untried.accesses.note (Entry.about_of_silent silent) }

theorem Meeting.note (meeting : l.Meeting first heard said asked) {entry : Entry}
    (silent : entry.accessUser? = none) : (l.note entry).Meeting first heard said asked :=
  { meeting with untried := meeting.untried.note silent, talk := { meeting.talk with } }

theorem Meeting.check (meeting : l.Meeting first heard said []) (question : Check)
    {user : Option String} (named : user = acceptedName [question]) :
    ({ l.check question with user } : Ledger).Meeting first heard said [question] :=
  { untried := { meeting.untried with }
    talk := { meeting.talk with }
    checks := congrArg (· ++ [question]) meeting.checks
    user := named }

end Ledger

end SocksProxy
