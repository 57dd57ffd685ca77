import SocksProxy.Proofs.Session.Attempts

/-!
A session on its way to a destination, whatever happens on the way. Before a request has been parsed
nothing is looked up, tried or answered; afterwards everything that is goes with the request.
-/

namespace SocksProxy

open Net (SocketAddress)
open Wire (Refusal Reply Request Status)

namespace Live

variable {services : Services} {request : Request} {s x after : Live}

def Reached (s : Live) (bound : SocketAddress) : Prop :=
  ∃ request rest target, s.session.phase = .connecting request rest target ∧
    s.session.attempt = some ⟨target, .connected bound, true⟩

/-- This event finds a connection made. -/
def Decides (s : Live) (event : Event) : Prop :=
  event = .writable .server ∧ ∃ bound, s.Reached bound

/-- What one event does to a session that serves a request, or has served it. -/
inductive Carries (services : Services) (request : Request) (s : Live) (event : Event)
    (after : Live) : Prop where
  | idles (undecided : ¬ s.Decides event) (attempts : after.attempts = s.attempts)
      (replies : after.replies = s.replies) (attending : after.Attending services request)
  -- The latest attempt has failed, or none has been made.
  | retries (undecided : ¬ s.Decides event) (free : s.attempts = [] ∨
        ∃ target why, s.session.attempt = some ⟨target, .failed why, true⟩)
      (silent : s.replies = []) (leads : s.Leads services request after)
  -- The current attempt has succeeded.
  | connects {rest : Candidates} {target bound : SocketAddress}
      (deciding : event = .writable .server)
      (trying : s.session.phase = .connecting request rest target)
      (current : s.session.attempt = some ⟨target, .connected bound, true⟩)
      (silent : s.replies = []) (connects : s.Connects services request bound after)

theorem Answers.of_same {reply : Reply} (answers : s.Answers services request reply)
    (record : after.session.record = s.session.record)
    (server : after.session.server.map Endpoint.address = s.session.server.map Endpoint.address) :
    after.Answers services request reply := by
  have attempts : after.attempts = s.attempts := congrArg Record.attempts record
  obtain ⟨replies, agreed, destination⟩ := answers
  refine ⟨?_, attempts ▸ agreed, fun success => ?_⟩
  · rw [Live.replies, said, record]
    exact replies
  · rw [server, attempts]
    exact destination success

structure Undisturbed (s after : Live) : Prop where
  attempts : after.attempts = s.attempts
  replies : after.replies = s.replies
  untroubled : after.Untroubled

theorem Undisturbed.andThen (undisturbed : s.Undisturbed x) (further : x.Undisturbed after) :
    s.Undisturbed after :=
  ⟨further.attempts.trans undisturbed.attempts, further.replies.trans undisturbed.replies,
    further.untroubled⟩

/-- Nothing has changed that the way of a request rests on. -/
structure Alongside (s after : Live) : Prop where
  phase : after.session.phase = s.session.phase
  record : after.session.record = s.session.record
  awaits : ∀ answer, s.Awaits answer → after.Awaits answer
  attempt : after.session.attempt.map (fun attempt => (attempt.target, attempt.outcome)) =
    s.session.attempt.map (fun attempt => (attempt.target, attempt.outcome))
  server : after.session.server.map Endpoint.address = s.session.server.map Endpoint.address

theorem Attending.alongside (attending : s.Attending services request)
    (alongside : s.Alongside after) : after.Attending services request := by
  obtain ⟨phase, record, awaits, attempt, server⟩ := alongside
  have attempts : after.attempts = s.attempts := congrArg Record.attempts record
  have replies : after.replies = s.replies :=
    congrArg (fun record => record.said.filterMap Message.reply?) record
  obtain ⟨lookups, attends⟩ := attending
  refine ⟨(congrArg Record.lookups record).trans lookups, ?_⟩
  rw [phase]
  generalize s.session.phase = here at attends
  cases here with
  | resolving wanted =>
      obtain ⟨same, connect, address, untried, silent, asked⟩ := attends
      exact ⟨same, connect, address, attempts.trans untried, replies.trans silent,
        awaits _ asked⟩
  | connecting wanted rest target =>
      obtain ⟨same, connect, silent, outcome, tried, trying⟩ := attends
      exact ⟨same, connect, replies.trans silent, outcome, tried,
        attempts.trans trying.attempts, trying.candidates, trying.failing, trying.route,
        attempt.trans trying.current, server.trans trying.destination⟩
  | replying wanted status =>
      obtain ⟨same, reply, told, answers⟩ := attends
      exact ⟨same, reply, told, answers.of_same record server⟩
  | relaying relay => exact attends.imp fun reply answers => answers.of_same record server
  | failed cause => exact attends.imp fun reply answers => answers.of_same record server
  | done => exact attends.imp fun reply answers => answers.of_same record server
  | _ => exact attends

theorem alongside_tellLookup (s : Live) : s.Alongside s.tellLookup := by
  unfold tellLookup
  split
  · exact ⟨rfl, rfl, fun _ => id, rfl, rfl⟩
  · rename_i lookup present
    refine ⟨rfl, rfl, ?_, rfl, rfl⟩
    rintro answer ⟨other, same, pending⟩
    rw [present] at same
    cases same
    exact ⟨_, rfl, pending.tell⟩

theorem alongside_farMove (s : Live) (move : FarMove) (side : Side) :
    s.Alongside (s.farMove move side) := by
  unfold farMove
  split
  · exact ⟨rfl, rfl, fun _ => id, rfl, rfl⟩
  · rename_i server _ serves trying
    refine ⟨rfl, rfl, fun _ => id, rfl, ?_⟩
    rw [serves]
    rfl
  · exact ⟨rfl, rfl, fun _ => id, rfl, rfl⟩

theorem alongside_withUsers {α : Type} {changed : Except UserError α} {update : α → Services} :
    s.Alongside (s.withUsers (changed.map update)) := by
  cases changed <;> exact ⟨rfl, rfl, fun _ => id, rfl, rfl⟩

theorem alongside_move {move : Move} (ongoing : move.isOngoing = true)
    (world : ∀ event, move ≠ .event event) : s.Alongside (s.move move) := by
  cases move with
  | start => cases ongoing
  | close => cases ongoing
  | event event => exact absurd rfl (world event)
  | settle =>
      refine ⟨rfl, rfl, fun _ => id, ?_, rfl⟩
      exact Option.map_map _ _ _
  | finishLookup =>
      refine ⟨rfl, rfl, ?_, rfl, rfl⟩
      rintro answer ⟨lookup, present, pending⟩
      exact ⟨lookup.finish, congrArg (Option.map Lookup.finish) present, pending.finish⟩
  | tellLookup => exact alongside_tellLookup s
  | setSniffing on => exact ⟨rfl, rfl, fun _ => id, rfl, rfl⟩
  | addUser user => exact alongside_withUsers
  | removeUser name => exact alongside_withUsers
  | changePassword name password => exact alongside_withUsers
  | far side move => exact alongside_farMove s move side

end Live

end SocksProxy
