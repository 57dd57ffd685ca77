import SocksProxy.Proofs.Session.Ledger

/-!
Clients that have been let in, and what was heard from them and told to them for that. From then on
the books only grow: what let the client in stays at their beginning.
-/

namespace SocksProxy

open Wire (Method Reply Request)

abbrev Counted := { bytes : Bytes // bytes.length ≤ 255 }

/-- How a client got in. -/
inductive Opening where
  -- It was let in without a question.
  | free (codes : Counted)
  -- Its name and password were accepted.
  | known (codes name password : Counted)

namespace Opening

def codes : Opening → Counted
  | .free codes => codes
  | .known codes _ _ => codes

def method : Opening → Method
  | .free _ => .noAuth
  | .known _ _ _ => .userPass

def proof : Opening → Bytes
  | .free _ => []
  | .known _ name password => Wire.Credentials.encode name.val password.val

/-- Everything the client sent to be let in. -/
def heard (o : Opening) : Bytes := Wire.Greeting.encode o.codes.val ++ o.proof

def said : Opening → List Message
  | .free _ => [.selection .noAuth]
  | .known _ _ _ => [.selection .userPass, .verdict true]

def told (o : Opening) : Bytes := o.said.flatMap Message.encode

def welcome : Opening → Bytes
  | .free _ => []
  | .known _ _ _ => Wire.Verdict.encode ⟨true⟩

def checks : Opening → List Check
  | .free _ => []
  | .known _ name password => [⟨.ofBytes name.val password.val, some true⟩]

def user? : Opening → Option String
  | .free _ => none
  | .known _ name password => some (Wire.Credentials.ofBytes name.val password.val).name

theorem checks_length (o : Opening) : o.checks.length ≤ 1 := by
  cases o with
  | free codes => exact Nat.zero_le _
  | known codes name password => exact Nat.le_refl _

theorem told_eq (o : Opening) :
    o.told = Wire.Selection.encode ⟨Wire.version, o.method⟩ ++ o.welcome := by
  cases o <;> rfl

theorem acceptedName_checks (o : Opening) : acceptedName o.checks = o.user? := by
  cases o <;> rfl

end Opening

namespace Ledger

/-- A client has been let in: what this took has been heard, and told to its last octet. -/
structure Admitted (l first : Ledger) (acceptable : List Method) (opening : Opening) : Prop where
  method : Wire.Greeting.settled acceptable opening.codes.val = opening.method
  heard : ∃ rest, l.taken = first.taken ++ (opening.heard ++ rest)
  told : ∃ rest, l.delivered = first.delivered ++ (opening.told ++ rest)
  said : ∃ rest, l.said = opening.said ++ rest
  checks : l.checks = opening.checks
  user : l.user = opening.user?
  accesses : l.Accesses first (· = opening.user?)

/-- From one state of the books to a later one, after a client has been let in. -/
structure Grows (before after : Ledger) : Prop where
  taken : ∃ more, after.taken = before.taken ++ more
  delivered : ∃ more, after.delivered = before.delivered ++ more
  said : ∃ more, after.said = before.said ++ more
  checks : after.checks = before.checks
  user : after.user = before.user
  journal : ∃ noted, after.journal = before.journal ++ noted ∧
    ∀ entry ∈ noted, ∀ who, entry.accessUser? = some who → who = before.user

variable {l first : Ledger} {acceptable : List Method} {opening : Opening}

theorem Admitted.grow {after : Ledger} (admitted : l.Admitted first acceptable opening)
    (grows : l.Grows after) : after.Admitted first acceptable opening := by
  obtain ⟨taken, heard⟩ := admitted.heard
  obtain ⟨delivered, told⟩ := admitted.told
  obtain ⟨messages, said⟩ := admitted.said
  obtain ⟨moreTaken, takenNext⟩ := grows.taken
  obtain ⟨moreDelivered, deliveredNext⟩ := grows.delivered
  obtain ⟨moreSaid, saidNext⟩ := grows.said
  obtain ⟨noted, journal, about⟩ := admitted.accesses
  obtain ⟨moreNoted, journalNext, aboutNext⟩ := grows.journal
  refine ⟨admitted.method, ⟨taken ++ moreTaken, ?_⟩, ⟨delivered ++ moreDelivered, ?_⟩,
    ⟨messages ++ moreSaid, ?_⟩, grows.checks.trans admitted.checks,
    grows.user.trans admitted.user, ⟨noted ++ moreNoted, ?_, ?_⟩⟩
  · simp only [takenNext, heard, List.append_assoc]
  · simp only [deliveredNext, told, List.append_assoc]
  · simp only [saidNext, said, List.append_assoc]
  · simp only [journalNext, journal, List.append_assoc]
  · intro entry member who same
    rcases List.mem_append.mp member with old | new
    · exact about entry old who same
    · exact (aboutNext entry new who same).trans admitted.user

theorem Grows.refl (l : Ledger) : l.Grows l :=
  ⟨⟨[], (List.append_nil _).symm⟩, ⟨[], (List.append_nil _).symm⟩, ⟨[], (List.append_nil _).symm⟩,
    rfl, rfl, [], (List.append_nil _).symm, by simp⟩

theorem Grows.receive (bytes : Bytes) : l.Grows (l.receive bytes) :=
  { Grows.refl l with taken := ⟨bytes, rfl⟩ }

theorem Grows.send (count : Nat) : l.Grows (l.send count) :=
  { Grows.refl l with delivered := ⟨_, rfl⟩ }

theorem Grows.say (message : Message) : l.Grows (l.say message) :=
  { Grows.refl l with said := ⟨[message], rfl⟩ }

theorem Grows.note {entry : Entry} (about : ∀ who, entry.accessUser? = some who → who = l.user) :
    l.Grows (l.note entry) := by
  refine { Grows.refl l with journal := ⟨[entry], rfl, ?_⟩ }
  intro other member
  rw [List.mem_singleton.mp member]
  exact about

def Untouched (l : Ledger) : Prop := ∀ pair ∈ l.traffic, pair = ([], [])

theorem Untouched.fetched (untouched : l.Untouched) : l.fetched = [] := by
  rw [Ledger.fetched, List.flatMap_eq_nil_iff]
  intro pair member
  rw [untouched pair member]

theorem Untouched.forwarded (untouched : l.Untouched) : l.forwarded = [] := by
  rw [Ledger.forwarded, List.flatMap_eq_nil_iff]
  intro pair member
  rw [untouched pair member]

theorem Untouched.dial (untouched : l.Untouched) : l.dial.Untouched := by
  intro pair member
  rcases List.mem_append.mp member with old | new
  · exact untouched pair old
  · exact List.mem_singleton.mp new

/-- A client that has been let in is being served: this was heard and said since then. -/
structure Serving (l first : Ledger) (acceptable : List Method) (opening : Opening)
    (heard : Bytes) (said : List Message) : Prop where
  admitted : l.Admitted first acceptable opening
  untouched : l.Untouched
  talk : l.Talk first (opening.heard ++ heard) (opening.said ++ said)

variable {heard : Bytes} {said : List Message}

theorem Serving.receive (serving : l.Serving first acceptable opening heard said) (bytes : Bytes) :
    (l.receive bytes).Serving first acceptable opening heard said :=
  { admitted := serving.admitted.grow (.receive bytes)
    untouched := serving.untouched
    talk := serving.talk.receive bytes }

theorem Serving.send (serving : l.Serving first acceptable opening heard said) (count : Nat) :
    (l.send count).Serving first acceptable opening heard said :=
  { admitted := serving.admitted.grow (.send count)
    untouched := serving.untouched
    talk := serving.talk.send count }

theorem Serving.use (serving : l.Serving first acceptable opening heard said)
    {bytes rest : Bytes} (split : l.inbound = bytes ++ rest) :
    (l.use rest).Serving first acceptable opening (heard ++ bytes) said :=
  { admitted := serving.admitted.grow { Grows.refl l with }
    untouched := serving.untouched
    talk := by
      have used := serving.talk.use split
      rwa [List.append_assoc] at used }

theorem Serving.say (serving : l.Serving first acceptable opening heard said)
    (message : Message) :
    (l.say message).Serving first acceptable opening heard (said ++ [message]) :=
  { admitted := serving.admitted.grow (.say message)
    untouched := serving.untouched
    talk := by
      have spoken := serving.talk.say message
      rwa [List.append_assoc] at spoken }

theorem Serving.note (serving : l.Serving first acceptable opening heard said) {entry : Entry}
    (about : ∀ who, entry.accessUser? = some who → who = l.user) :
    (l.note entry).Serving first acceptable opening heard said :=
  { admitted := serving.admitted.grow (.note about)
    untouched := serving.untouched
    talk := { serving.talk with } }

theorem Serving.noteSilent (serving : l.Serving first acceptable opening heard said)
    {entry : Entry} (silent : entry.accessUser? = none) :
    (l.note entry).Serving first acceptable opening heard said :=
  serving.note (Entry.about_of_silent silent)

theorem Serving.lookUp (serving : l.Serving first acceptable opening heard said)
    (name : String × UInt16) :
    (l.lookUp name).Serving first acceptable opening heard said :=
  { admitted := serving.admitted.grow { Grows.refl l with }
    untouched := serving.untouched
    talk := { serving.talk with } }

theorem Serving.attempt (serving : l.Serving first acceptable opening heard said)
    (target : Net.SocketAddress) :
    (l.attempt target).Serving first acceptable opening heard said :=
  { admitted := serving.admitted.grow { Grows.refl l with }
    untouched := serving.untouched
    talk := { serving.talk with } }

theorem Serving.dial (serving : l.Serving first acceptable opening heard said) :
    l.dial.Serving first acceptable opening heard said :=
  { admitted := serving.admitted.grow { Grows.refl l with }
    untouched := serving.untouched.dial
    talk := { serving.talk with } }

theorem Meeting.letIn (meeting : l.Meeting first opening.heard opening.said opening.checks)
    (method : Wire.Greeting.settled acceptable opening.codes.val = opening.method)
    (sent : l.outbound = []) : l.Serving first acceptable opening [] [] := by
  have told : l.delivered = first.delivered ++ opening.told := by
    have delivered := meeting.talk.delivered
    rwa [sent, List.append_nil] at delivered
  have user : l.user = opening.user? := meeting.user.trans opening.acceptedName_checks
  obtain ⟨noted, journal, about⟩ := meeting.untried.accesses
  refine ⟨⟨method, ⟨l.inbound, meeting.talk.taken⟩, ⟨[], ?_⟩, ⟨[], ?_⟩, meeting.checks, user,
    noted, journal, ?_⟩, ?_, ?_⟩
  · rw [told, List.append_nil]
  · rw [meeting.talk.said, List.append_nil]
  · intro entry member who named
    exact absurd (about entry member who named) id
  · intro pair member
    rw [meeting.untried.traffic] at member
    cases member
  · rw [List.append_nil, List.append_nil]
    exact meeting.talk

/-- A client that has not been let in; it may have been asked who it is. -/
structure Stranger (l first : Ledger) : Prop where
  untried : l.Untried first
  once : l.checks.length ≤ 1
  user : l.user = acceptedName l.checks

inductive Unserved (l first : Ledger) (acceptable : List Method) : Prop where
  -- The client has not been let in.
  | stranger (stranger : l.Stranger first)
  -- It has, and nothing has been exchanged with a destination.
  | guest (opening : Opening) (admitted : l.Admitted first acceptable opening)
      (untouched : l.Untouched)

theorem Meeting.unserved {asked : List Check} (meeting : l.Meeting first heard said asked)
    (once : asked.length ≤ 1) : l.Unserved first acceptable := by
  refine .stranger ⟨meeting.untried, ?_, ?_⟩
  · rw [meeting.checks]
    exact once
  · rw [meeting.checks]
    exact meeting.user

theorem Serving.unserved (serving : l.Serving first acceptable opening heard said) :
    l.Unserved first acceptable :=
  .guest opening serving.admitted serving.untouched

theorem Unserved.untouched (unserved : l.Unserved first acceptable) : l.Untouched := by
  cases unserved with
  | stranger stranger =>
      intro pair member
      rw [stranger.untried.traffic] at member
      cases member
  | guest opening admitted untouched => exact untouched

theorem Unserved.note (unserved : l.Unserved first acceptable) {entry : Entry}
    (silent : entry.accessUser? = none) : (l.note entry).Unserved first acceptable := by
  cases unserved with
  | stranger stranger =>
      exact .stranger { stranger with untried := stranger.untried.note silent }
  | guest opening admitted untouched =>
      exact .guest opening (admitted.grow (.note (Entry.about_of_silent silent))) untouched

/-- The books of a session that relays, or did: everything from the client that is not part of the
handshake is on its way to the destination, and the other way round. -/
structure Exchanged (l first : Ledger) (acceptable : List Method) (opening : Opening)
    (request : Request) (reply : Reply) : Prop where
  admitted : l.Admitted first acceptable opening
  command : request.command = .connect
  status : reply.status = .success
  taken : l.taken =
    first.taken ++ (opening.heard ++ (request.encode ++ (l.forwarded ++ l.inbound)))
  delivered : l.delivered ++ l.outbound =
    first.delivered ++ (opening.told ++ (reply.encode ++ l.fetched))

theorem Exchanged.note {request : Request} {reply : Reply}
    (exchanged : l.Exchanged first acceptable opening request reply) {entry : Entry}
    (silent : entry.accessUser? = none) :
    (l.note entry).Exchanged first acceptable opening request reply :=
  { exchanged with
    admitted := exchanged.admitted.grow (.note (Entry.about_of_silent silent)) }

/-- When a client has been told that it is connected, nothing has been exchanged yet. -/
theorem Serving.exchanged {request : Request} {reply : Reply}
    (serving : l.Serving first acceptable opening request.encode [.reply reply])
    (command : request.command = .connect) (status : reply.status = .success) :
    l.Exchanged first acceptable opening request reply := by
  refine ⟨serving.admitted, command, status, ?_, ?_⟩
  · rw [serving.untouched.forwarded, serving.talk.taken]
    simp only [List.append_assoc, List.nil_append]
  · rw [serving.untouched.fetched, serving.talk.delivered, List.flatMap_append,
      List.flatMap_singleton, List.append_nil]
    rfl

end Ledger

end SocksProxy
