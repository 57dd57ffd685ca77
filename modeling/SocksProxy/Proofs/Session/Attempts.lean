import SocksProxy.Proofs.Session.Provision

/-!
What a request leads to: at most one lookup, attempts in the order of the addresses, each after the
one before it has failed, and one reply that tells how they went.
-/

namespace SocksProxy

open Net (SocketAddress)
open Wire (Refusal Reply Request Status)

def Message.reply? : Message → Option Reply
  | .reply content => some content
  | _ => none

def Route.fault? : Route → Option Refusal
  | .refused why | .later (.failed why) => some why
  | .later (.connected _) => none

/-- The addresses that a session gets to see; it cannot tell a worker that died from one that found
nothing. -/
def Answer.found : Answer → List SocketAddress
  | .addresses found => found
  | .failed | .dies => []

namespace Wire.Request

def lookups (request : Request) : List (String × UInt16) :=
  if request.command = .connect ∧ request.socketAddress? = none then
    [(request.address.host, request.port)]
  else []

/-- What a client is told when the last attempt failed for this reason. -/
def blames (request : Request) (last : Refusal) : Refusal :=
  match request.socketAddress? with
  | some _ => last
  | none => .hostUnreachable

end Wire.Request

namespace Services

variable {services : Services} {request : Request}

/-- The addresses that may be tried for a request, in this order. -/
def candidates (services : Services) (request : Request) : List SocketAddress :=
  if request.command = .connect then
    match request.socketAddress? with
    | some address => [address]
    | none => (services.resolve request.address.host request.port).found
  else []

/-- Each of these addresses fails when it is tried after those before it, the last one for this
reason. -/
inductive Failing (services : Services) : List SocketAddress → Refusal → Prop where
  | none : Failing services [] .hostUnreachable
  | next {tried : List SocketAddress} {last why : Refusal} {target : SocketAddress}
      (before : Failing services tried last)
      (fault : (services.route tried target).fault? = some why) :
      Failing services (tried ++ [target]) why

/-- A reply is as the attempts went. -/
inductive Answered (services : Services) (request : Request) :
    List SocketAddress → Reply → Prop where
  | unsupported (other : request.command ≠ .connect) :
      Answered services request [] (.echo request (.failure .commandNotSupported))
  | exhausted {last : Refusal} (connect : request.command = .connect)
      (failing : services.Failing (services.candidates request) last) :
      Answered services request (services.candidates request)
        (.echo request (.failure (request.blames last)))
  | connected {tried rest : List SocketAddress} {target bound : SocketAddress} {last : Refusal}
      (connect : request.command = .connect)
      (candidates : services.candidates request = tried ++ target :: rest)
      (failing : services.Failing tried last)
      (reached : services.route tried target = .later (.connected bound)) :
      Answered services request (tried ++ [target]) (.bound .success bound)

theorem Failing.fault {tried earlier later : List SocketAddress} {target : SocketAddress}
    {last : Refusal} (failing : services.Failing tried last)
    (split : tried = earlier ++ target :: later) :
    ∃ why, (services.route earlier target).fault? = some why := by
  induction failing generalizing later with
  | none => simp at split
  | next before fault ih =>
      rcases List.eq_nil_or_concat later with rfl | ⟨front, final, rfl⟩
      · obtain ⟨rfl, same⟩ := List.append_inj' split rfl
        cases same
        exact ⟨_, fault⟩
      · rw [List.concat_eq_append, ← List.cons_append, ← List.append_assoc] at split
        exact ih (List.append_inj' split rfl).1

/-- With one more address tried, every one but that has failed. -/
theorem Failing.fault_before {tried earlier later : List SocketAddress}
    {target next latest : SocketAddress} {last : Refusal} (failing : services.Failing tried last)
    (split : tried ++ [latest] = earlier ++ target :: next :: later) :
    ∃ why, (services.route earlier target).fault? = some why := by
  rcases List.eq_nil_or_concat later with rfl | ⟨front, final, rfl⟩
  · have front : earlier ++ [target] ++ [next] = earlier ++ [target, next] := by simp
    rw [← front] at split
    exact failing.fault (List.append_inj' split rfl).1
  · rw [List.concat_eq_append, ← List.cons_append, ← List.cons_append,
      ← List.append_assoc] at split
    exact failing.fault (List.append_inj' split rfl).1

theorem Answered.inOrder {attempts : List SocketAddress} {reply : Reply}
    (answered : services.Answered request attempts reply) :
    attempts <+: services.candidates request := by
  cases answered with
  | unsupported other => exact List.nil_prefix
  | exhausted connect failing => exact List.prefix_rfl
  | connected connect candidates failing reached =>
      rw [candidates]
      exact ⟨_, by rw [List.append_assoc]; rfl⟩

theorem Answered.inTurn {attempts earlier later : List SocketAddress} {reply : Reply}
    {target next : SocketAddress} (answered : services.Answered request attempts reply)
    (split : attempts = earlier ++ target :: next :: later) :
    ∃ why, (services.route earlier target).fault? = some why := by
  cases answered with
  | unsupported other => simp at split
  | exhausted connect failing => exact failing.fault split
  | connected connect candidates failing reached => exact failing.fault_before split

end Services

namespace Lookup

theorem running_of_outcome {l : Lookup} (nothing : l.outcome? = none) : l.stage = .running := by
  unfold outcome? at nothing
  split at nothing
  · assumption
  · cases nothing
  all_goals
    split at nothing
    · cases nothing
    · split at nothing <;> cases nothing

theorem taken_finish (l : Lookup) : l.finish.taken = l.taken := by
  unfold finish
  split <;> rfl

end Lookup

structure Lookup.Pending (answer : Answer) (l : Lookup) : Prop where
  same : l.answer = answer
  untaken : l.taken = false
  vanished : l.stage = .vanished → answer = .dies

namespace Lookup.Pending

variable {answer : Answer} {l : Lookup}

theorem finish (pending : l.Pending answer) : l.finish.Pending answer := by
  obtain ⟨same, untaken, vanished⟩ := pending
  unfold Lookup.finish
  split
  · refine ⟨same, untaken, ?_⟩
    intro gone
    dsimp only at gone
    split at gone
    · rename_i dies
      exact same.symm.trans dies
    · cases gone
  · exact ⟨same, untaken, vanished⟩

theorem tell (pending : l.Pending answer) : l.tell.2.Pending answer := by
  obtain ⟨same, untaken, vanished⟩ := pending
  unfold Lookup.tell
  split
  · exact ⟨same, untaken, fun gone => by cases gone⟩
  · exact ⟨same, untaken, vanished⟩

theorem outcome (pending : l.Pending answer) :
    l.outcome? = none ∨ l.outcome? = some answer.found := by
  obtain ⟨same, untaken, vanished⟩ := pending
  unfold Lookup.outcome?
  split <;> rename_i stage
  · exact Or.inl rfl
  · right
    rw [vanished stage]
    rfl
  all_goals
    right
    rw [untaken, same]
    cases answer <;> rfl

end Lookup.Pending

namespace Live

def attempts (s : Live) : List SocketAddress := s.session.record.attempts

def lookups (s : Live) : List (String × UInt16) := s.session.record.lookups

def replies (s : Live) : List Reply := s.said.filterMap Message.reply?

def Awaits (s : Live) (answer : Answer) : Prop :=
  ∃ lookup, s.session.lookup = some lookup ∧ lookup.Pending answer

/-- The one reply of a session, and the destination that a client was told it is connected to. -/
structure Answers (services : Services) (request : Request) (reply : Reply) (s : Live) : Prop where
  replies : s.replies = [reply]
  agreed : services.Answered request s.attempts reply
  destination : reply.status = .success →
    s.session.server.map Endpoint.address = s.attempts.getLast?

/-- A session on its way through the addresses: this one is being tried, and that will come of
it. -/
structure Trying (services : Services) (request : Request) (rest : List SocketAddress)
    (target : SocketAddress) (outcome : Outcome) (tried : List SocketAddress) (s : Live) :
    Prop where
  attempts : s.attempts = tried ++ [target]
  candidates : services.candidates request = tried ++ target :: rest
  failing : ∃ last, services.Failing tried last
  route : services.route tried target = .later outcome
  current : s.session.attempt.map (fun attempt => (attempt.target, attempt.outcome)) =
    some (target, outcome)
  destination : s.session.server.map Endpoint.address = some target

end Live

def Phase.Attends (services : Services) (request : Request) (s : Live) : Phase → Prop
  | .resolving wanted =>
      wanted = request ∧ request.command = .connect ∧ request.socketAddress? = none ∧
        s.attempts = [] ∧ s.replies = [] ∧
        s.Awaits (services.resolve request.address.host request.port)
  | .connecting wanted rest target =>
      wanted = request ∧ request.command = .connect ∧ s.replies = [] ∧
        ∃ outcome tried, s.Trying services request rest.waiting target outcome tried
  | .replying wanted status =>
      wanted = request ∧ ∃ reply, reply.status = status ∧ s.Answers services request reply
  | .relaying _ | .failed _ | .done => ∃ reply, s.Answers services request reply
  | .greeting _ _ | .selecting _ | .credentials _ | .verdict _ | .request _ => False

def Phase.unasked : Phase → Bool
  | .resolving _ | .connecting _ _ _ | .replying _ _ | .relaying _ => false
  | .greeting _ _ | .selecting _ | .credentials _ | .verdict _ | .request _ | .failed _ | .done =>
      true

def Phase.request? : Phase → Option Request
  | .resolving wanted | .connecting wanted _ _ | .replying wanted _ => some wanted
  | _ => none

namespace Live

/-- A session serves this request, or has served it. -/
structure Attending (services : Services) (request : Request) (s : Live) : Prop where
  lookups : s.lookups = request.lookups
  attends : s.session.phase.Attends services request s

structure Untroubled (s : Live) : Prop where
  lookups : s.lookups = []
  attempts : s.attempts = []
  replies : s.replies = []
  unasked : s.session.phase.unasked = true

/-- Addresses have been tried, each but the last one failing at once. -/
def Tries (s after : Live) : Prop :=
  ∃ more, after.attempts = s.attempts ++ more ∧
    ∀ earlier target next later, more = earlier ++ target :: next :: later →
      ∃ why, s.services.route (s.attempts ++ earlier) target = .refused why

/-- A request has been carried further without success so far. -/
structure Leads (services : Services) (request : Request) (s after : Live) : Prop where
  attending : after.Attending services request
  shown : after.session.phase.request? = some request
  tries : s.Tries after
  reply : after.replies = [] ∨ ∃ why, after.replies = [.echo request (.failure why)]

variable {services : Services} {request : Request} {s x after : Live}

theorem Tries.of_same (same : after.attempts = s.attempts) : s.Tries after :=
  ⟨[], by rw [same, List.append_nil], by simp⟩

theorem Leads.of_same (leads : x.Leads services request after)
    (route : x.services.route = s.services.route) (attempts : x.attempts = s.attempts) :
    s.Leads services request after := by
  obtain ⟨attending, shown, ⟨more, added, inTurn⟩, reply⟩ := leads
  rw [attempts] at added inTurn
  rw [route] at inTurn
  exact ⟨attending, shown, ⟨more, added, inTurn⟩, reply⟩

structure Pursues (services : Services) (request : Request) (s : Live) : Prop where
  route : s.services.route = services.route
  able : s.Able
  roomy : s.Roomy
  lookups : s.lookups = request.lookups
  silent : s.replies = []

theorem Pursues.framed (pursues : s.Pursues services request) (framed : s.Framed after)
    (idle : after.outbound.held = s.outbound.held) (lookups : after.lookups = s.lookups) :
    after.Pursues services request where
  route := (congrArg Conditions.route framed.conditions).trans pursues.route
  able := framed.able pursues.able
  roomy := framed.roomy pursues.roomy idle
  lookups := lookups.trans pursues.lookups
  silent := (congrArg (List.filterMap Message.reply?) framed.said).trans pursues.silent

theorem Tries.attempting {target : SocketAddress} {why : Refusal}
    (refused : s.services.route s.attempts target = .refused why)
    (tries : (s.attempting target).Tries after) : s.Tries after := by
  obtain ⟨more, added, inTurn⟩ := tries
  refine ⟨target :: more, added.trans (List.append_assoc _ _ _), ?_⟩
  intro earlier first next later split
  cases earlier with
  | nil =>
      cases split
      exact ⟨why, (List.append_nil s.attempts).symm ▸ refused⟩
  | cons head front =>
      cases split
      have turn := inTurn front first next later rfl
      change ∃ why, s.services.route ((s.attempts ++ [target]) ++ front) first = _ at turn
      rwa [List.append_assoc] at turn

structure Connects (services : Services) (request : Request) (bound : SocketAddress)
    (s after : Live) : Prop where
  attending : after.Attending services request
  attempts : after.attempts = s.attempts
  reply : after.replies = [.bound .success bound]

end Live

end SocksProxy
