import SocksProxy.Proofs.Session.Handshake

/-!
Whole courses of sessions: a start, and then events and moves of the world in any order. Until a
session relays, its books say what goes with its phase; from then on they are balanced.
-/

namespace SocksProxy

open Net (SocketAddress)
open Wire (Method)

/-- Anything but starting a session and closing it. -/
def Move.isOngoing : Move → Bool
  | .start | .close => false
  | _ => true

/-- Services that reach every address, and find no name. -/
def Services.reaching (users : UserStore) : Services :=
  { authority := .users
    resolve := fun _ _ => .failed
    workerFault := none
    route := fun _ target => .later (.connected target)
    registry := fun _ => .accepting
    bufferSize := 32
    users
    monitor := .new false
    notices := .empty }

namespace Live

def accepted (services : Services) (id : SessionId) (client : Socket) (address : SocketAddress) :
    Live :=
  ⟨services, Session.new id client address services.bufferSize⟩

/-- What every move of a run keeps holds at its end. -/
theorem run_ongoing {P : Live → Prop}
    (moved : ∀ (move : Move) (s : Live), move.isOngoing = true → P s → P (s.move move))
    (moves : List Move) (ongoing : ∀ move ∈ moves, move.isOngoing = true) {s : Live} (here : P s) :
    P (s.run moves) := by
  induction moves generalizing s with
  | nil => exact here
  | cons move rest ih =>
      exact ih (fun later member => ongoing later (List.mem_cons_of_mem move member))
        (moved move s (ongoing move List.mem_cons_self) here)

def everRelays : List Move → Live → Bool
  | [], s => s.relays
  | move :: rest, s => s.relays || everRelays rest (s.move move)

variable {first : Ledger} {acceptable : List Method} {s : Live}

theorem begun_took {next : Bool → Live → Live}
    (failed : s.took.ledger.Unserved first acceptable)
    (arrived : ∀ closed, (next closed s.took).Begun first acceptable) :
    (s.receive next).Begun first acceptable := by
  apply receive_cases arrived
  intro cause
  exact begun_fail failed _

theorem begun_gave {next : Live → Live} {phase : Phase} (now : s.session.phase = phase)
    (place : phase.Place s.gave.ledger first acceptable)
    (failed : s.gave.ledger.Unserved first acceptable)
    (sent : s.gave.ledger.outbound = [] → (next s.gave).Begun first acceptable) :
    (s.flush next).Begun first acceptable := by
  have waits : s.gave.Before first acceptable := by
    rw [Before, show s.gave.session.phase = phase from now]
    exact place
  apply flush_cases
  · intro drained
    exact sent (outbound_of_drained drained)
  · exact Or.inl waits
  · intro cause
    exact begun_fail failed _

theorem begun_handle (here : s.Before first acceptable) (event : Event) :
    (s.handle event).Begun first acceptable := by
  have idle : s.Begun first acceptable := Or.inl here
  -- One case for each phase and the event that it acts on; the books first take in what the event
  -- brings, since even a session that fails has read or written it.
  unfold handle
  split
  · rename_i methods state phase
    rw [Before, phase] at here
    obtain ⟨rfl, pending, heard, reads, meeting⟩ := here
    have arrived := meeting.receive s.incoming.bytes
    rw [← ledger_took] at arrived
    exact begun_took (arrived.unserved (Nat.zero_le _)) fun closed =>
      begun_readGreeting pending reads arrived
  · rename_i method phase
    rw [Before, phase] at here
    obtain ⟨codes, chosen, meeting⟩ := here
    have written := meeting.send s.outgoing.count
    rw [← ledger_gave] at written
    exact begun_gave phase ⟨codes, chosen, written⟩ (written.unserved (Nat.zero_le _)) fun sent =>
      begun_selected chosen written sent
  · rename_i state phase
    rw [Before, phase] at here
    obtain ⟨pending, codes, heard, chosen, reads, meeting⟩ := here
    have arrived := meeting.receive s.incoming.bytes
    rw [← ledger_took] at arrived
    exact begun_took (arrived.unserved (Nat.zero_le _)) fun closed =>
      begun_readCredentials chosen pending reads arrived
  · rename_i accepted phase
    rw [Before, phase] at here
    obtain ⟨codes, name, password, chosen, meeting⟩ := here
    have written := meeting.send s.outgoing.count
    rw [← ledger_gave] at written
    exact begun_gave phase ⟨codes, name, password, chosen, written⟩
      (written.unserved (Nat.le_refl _)) fun sent => begun_judged chosen written sent
  · rename_i state phase
    rw [Before, phase] at here
    obtain ⟨pending, opening, heard, reads, serving⟩ := here
    have arrived := serving.receive s.incoming.bytes
    rw [← ledger_took] at arrived
    exact begun_took arrived.unserved fun closed => begun_readRequest pending reads arrived
  · rename_i request phase
    rw [Before, phase] at here
    obtain ⟨connect, opening, serving⟩ := here
    exact begun_resolved idle connect serving
  · rename_i request rest target phase
    rw [Before, phase] at here
    obtain ⟨connect, opening, serving⟩ := here
    exact begun_settled idle connect serving rest
  · rename_i request status phase
    rw [Before, phase] at here
    obtain ⟨command, opening, reply, same, serving⟩ := here
    have written := serving.send s.outgoing.count
    rw [← ledger_gave] at written
    exact begun_gave phase ⟨command, opening, reply, same, written⟩ written.unserved fun sent =>
      begun_replied command same written
  · rename_i relay side phase
    rw [Before, phase] at here
    exact absurd here id
  · rename_i relay side phase
    rw [Before, phase] at here
    exact absurd here id
  · exact idle

/-- A session that relays goes on relaying, or is over. -/
theorem after_handle (after : s.After first acceptable) (event : Event) :
    (s.handle event).After first acceptable := by
  obtain ⟨⟨opening, request, reply, exchanged⟩, origin, follows⟩ := after
  have balanced : (s.handle event).ledger.Exchanged first acceptable opening request reply :=
    handle_cases (P := fun next => next.ledger.Exchanged first acceptable opening request reply)
      follows event exchanged fun _ _ serves _ consistent move =>
        exchanged_relay serves consistent move exchanged
  exact ⟨⟨opening, request, reply, balanced⟩, origin, follows_handle follows event⟩

/-- A move that a session has no part in: at most an entry is noted, and that is about no access. -/
structure Calm (s after : Live) : Prop where
  phase : after.session.phase = s.session.phase
  ledger : after.ledger = s.ledger ∨
    ∃ entry : Entry, entry.accessUser? = none ∧ after.ledger = s.ledger.note entry
  directions : ∀ relay server, s.session.server = some server →
    ∃ same, after.session.server = some same ∧ ∀ way,
      (after.scene relay same).direction way = (s.scene relay server).direction way

theorem calm_refl (s : Live) : s.Calm s :=
  ⟨rfl, Or.inl rfl, fun _ server serves => ⟨server, serves, fun _ => rfl⟩⟩

theorem calm_of_services {services : Services}
    (journal : services.monitor.journal = s.services.monitor.journal ∨
      ∃ entry : Entry, entry.accessUser? = none ∧
        services.monitor.journal = s.services.monitor.journal ++ [entry]) :
    s.Calm { s with services } := by
  refine ⟨rfl, ?_, fun _ server serves => ⟨server, serves, fun _ => rfl⟩⟩
  rcases journal with same | ⟨entry, silent, more⟩
  · exact Or.inl (by simp only [ledger, same, inbound, outbound])
  · exact Or.inr ⟨entry, silent, by simp only [ledger, more, inbound, outbound, Ledger.note]⟩

theorem calm_withUsers {α : Type} {changed : Except UserError α} {update : α → Services}
    {entry : Entry} (silent : entry.accessUser? = none)
    (noted : ∀ users, (update users).monitor.journal = s.services.monitor.journal ++ [entry]) :
    s.Calm (s.withUsers (changed.map update)) := by
  cases changed with
  | error fault => exact calm_refl s
  | ok users => exact calm_of_services (Or.inr ⟨entry, silent, noted users⟩)

theorem calm_tellLookup (s : Live) : s.Calm s.tellLookup := by
  have notified : s.Calm { s with services := s.services.notify s.session.id } := by
    apply calm_of_services
    unfold Services.notify
    split
    · exact Or.inl rfl
    · rename_i cause unheard
      exact Or.inr ⟨.notNotified s.session.id cause, rfl, rfl⟩
  unfold tellLookup
  split
  · exact calm_refl s
  · rename_i lookup asked
    dsimp only
    split
    · exact ⟨notified.phase, notified.ledger, notified.directions⟩
    · exact ⟨rfl, Or.inl rfl, fun _ server serves => ⟨server, serves, fun _ => rfl⟩⟩

theorem calm_far_client (s : Live) (move : FarMove) : s.Calm (s.farMove move .client) := by
  obtain ⟨inbox, tail, space, broken, gone, own⟩ :=
    Socket.farMove_socket move s.session.client.socket
  refine ⟨rfl, Or.inl ?_, ?_⟩
  · change (s.withClientSocket (s.session.client.socket.farMove move)).ledger = s.ledger
    rw [own]
    rfl
  · intro relay server serves
    exact ⟨server, serves, fun way => Relay.Scene.direction_farMove (s.scene relay server) way move
      .client⟩

theorem calm_far_server (s : Live) (move : FarMove) : s.Calm (s.farMove move .server) := by
  -- Only a destination that serves is moved; without one the move goes to one that was let go.
  have letGo : s.Calm { s with session := { s.session with
      former := s.session.former.map (Socket.farMove move) } } :=
    ⟨rfl, Or.inl rfl, fun _ server serves => ⟨server, serves, fun _ => rfl⟩⟩
  cases serves : s.session.server with
  | none =>
      simp only [farMove, serves]
      rw [← serves]
      exact letGo
  | some server =>
      cases trying : s.session.attempt with
      | some attempt =>
          simp only [farMove, serves, trying]
          rw [← serves, ← trying]
          exact letGo
      | none =>
          have moved : s.farMove move .server =
              s.withServer (some { server with socket := server.socket.farMove move }) := by
            simp only [farMove, serves, trying]
          obtain ⟨inbox, tail, space, broken, gone, own⟩ :=
            Socket.farMove_socket move server.socket
          rw [moved]
          refine ⟨rfl, Or.inl ?_, ?_⟩
          · rw [own]
            simp [ledger, withServer, Session.destinations, serves, inbound, outbound]
          · intro relay present same
            rw [serves] at same
            cases same
            exact ⟨_, rfl, fun way => Relay.Scene.direction_farMove (s.scene relay server) way move
              .server⟩

theorem calm_move {move : Move} (ongoing : move.isOngoing = true)
    (world : ∀ event, move ≠ .event event) : s.Calm (s.move move) := by
  cases move with
  | start => cases ongoing
  | close => cases ongoing
  | event event => exact absurd rfl (world event)
  | settle => exact ⟨rfl, Or.inl rfl, fun _ server serves => ⟨server, serves, fun _ => rfl⟩⟩
  | finishLookup => exact ⟨rfl, Or.inl rfl, fun _ server serves => ⟨server, serves, fun _ => rfl⟩⟩
  | tellLookup => exact calm_tellLookup s
  | setSniffing on => exact calm_of_services (Or.inr ⟨.sniffingSet on, rfl, rfl⟩)
  | addUser user => exact calm_withUsers rfl fun users => rfl
  | removeUser name => exact calm_withUsers rfl fun users => rfl
  | changePassword name password => exact calm_withUsers rfl fun users => rfl
  | far side move =>
      cases side with
      | client => exact calm_far_client s move
      | server => exact calm_far_server s move

theorem place_note {phase : Phase} {l : Ledger} (place : phase.Place l first acceptable)
    {entry : Entry} (silent : entry.accessUser? = none) :
    phase.Place (l.note entry) first acceptable := by
  cases phase with
  | greeting methods state =>
      obtain ⟨same, pending, heard, reads, meeting⟩ := place
      exact ⟨same, pending, heard, reads, meeting.note silent⟩
  | selecting method =>
      obtain ⟨codes, chosen, meeting⟩ := place
      exact ⟨codes, chosen, meeting.note silent⟩
  | credentials state =>
      obtain ⟨pending, codes, heard, chosen, reads, meeting⟩ := place
      exact ⟨pending, codes, heard, chosen, reads, meeting.note silent⟩
  | verdict accepted =>
      obtain ⟨codes, name, password, chosen, meeting⟩ := place
      exact ⟨codes, name, password, chosen, meeting.note silent⟩
  | request state =>
      obtain ⟨pending, opening, heard, reads, serving⟩ := place
      exact ⟨pending, opening, heard, reads, serving.noteSilent silent⟩
  | resolving request =>
      obtain ⟨connect, opening, serving⟩ := place
      exact ⟨connect, opening, serving.noteSilent silent⟩
  | connecting request rest target =>
      obtain ⟨connect, opening, serving⟩ := place
      exact ⟨connect, opening, serving.noteSilent silent⟩
  | replying request status =>
      obtain ⟨command, opening, reply, same, serving⟩ := place
      exact ⟨command, opening, reply, same, serving.noteSilent silent⟩
  | relaying relay => exact place
  | failed cause => exact Ledger.Unserved.note place silent
  | done => exact Ledger.Unserved.note place silent

theorem Calm.before {after : Live} (calm : s.Calm after) (here : s.Before first acceptable) :
    after.Before first acceptable := by
  rw [Before, calm.phase]
  rcases calm.ledger with same | ⟨entry, silent, more⟩
  · rw [same]
    exact here
  · rw [more]
    exact place_note here silent

theorem Calm.follows {after : Live} {origin : Relay.Scene} (calm : s.Calm after)
    (follows : s.Follows origin) : after.Follows origin := by
  obtain ⟨relay, server, serves, leads, consistent, place⟩ := follows
  obtain ⟨present, same, directions⟩ := calm.directions relay server serves
  refine ⟨relay, present, same, ?_, ?_, ?_⟩
  · intro way
    rw [directions]
    exact leads way
  · intro way
    rw [directions]
    exact consistent way
  · rw [calm.phase]
    exact place

theorem Calm.after {next : Live} (calm : s.Calm next) (relayed : s.After first acceptable) :
    next.After first acceptable := by
  obtain ⟨⟨opening, request, reply, exchanged⟩, origin, follows⟩ := relayed
  refine ⟨⟨opening, request, reply, ?_⟩, origin, calm.follows follows⟩
  rcases calm.ledger with same | ⟨entry, silent, more⟩
  · rw [same]
    exact exchanged
  · rw [more]
    exact exchanged.note silent

theorem begun_move (here : s.Before first acceptable) {move : Move}
    (ongoing : move.isOngoing = true) : (s.move move).Begun first acceptable := by
  by_cases event : ∃ event, move = .event event
  · obtain ⟨event, rfl⟩ := event
    exact begun_handle here event
  · exact Or.inl ((calm_move ongoing fun e same => event ⟨e, same⟩).before here)

theorem after_move (relayed : s.After first acceptable) {move : Move}
    (ongoing : move.isOngoing = true) : (s.move move).After first acceptable := by
  by_cases event : ∃ event, move = .event event
  · obtain ⟨event, rfl⟩ := event
    exact after_handle relayed event
  · exact (calm_move ongoing fun e same => event ⟨e, same⟩).after relayed

theorem after_run (moves : List Move) (ongoing : ∀ move ∈ moves, move.isOngoing = true)
    (relayed : s.After first acceptable) : (s.run moves).After first acceptable :=
  run_ongoing (P := fun s => s.After first acceptable) (fun _ _ more here => after_move here more)
    moves ongoing relayed

theorem relays_of_before (here : s.Before first acceptable) : s.relays = false := by
  unfold relays
  split
  · rename_i relay phase
    rw [Before, phase] at here
    exact absurd here id
  · rfl

theorem everRelays_of_relays (moves : List Move) (relaying : s.relays = true) :
    s.everRelays moves = true := by
  cases moves with
  | nil => exact relaying
  | cons move rest => rw [everRelays, relaying, Bool.true_or]

/-- A whole run: the books of a session that has relayed on the way are balanced, and those of any
other say what goes with its phase. -/
theorem run_begun (moves : List Move) (ongoing : ∀ move ∈ moves, move.isOngoing = true)
    (here : s.Before first acceptable) :
    s.everRelays moves = true ∧ (s.run moves).After first acceptable ∨
      s.everRelays moves = false ∧ (s.run moves).Before first acceptable := by
  induction moves generalizing s with
  | nil => exact Or.inr ⟨relays_of_before here, here⟩
  | cons move rest ih =>
      have later : ∀ move ∈ rest, move.isOngoing = true := fun next member =>
        ongoing next (List.mem_cons_of_mem move member)
      rw [everRelays, relays_of_before here, Bool.false_or]
      rcases begun_move here (ongoing move List.mem_cons_self) with still | ⟨relaying, relayed⟩
      · exact ih later still
      · -- From this move on the session relays, and what follows is a course of its own.
        exact Or.inl ⟨everRelays_of_relays rest relaying, after_run rest later relayed⟩

theorem before_start (services : Services) (id : SessionId) (client : Socket)
    (address : SocketAddress) :
    (accepted services id client address).start.Before (accepted services id client address).ledger
      services.acceptableMethods := by
  have untried : (accepted services id client address).ledger.Untried
      (accepted services id client address).ledger :=
    { lookups := rfl
      attempts := rfl
      replies := fun _ => List.not_mem_nil
      traffic := rfl
      accesses := ⟨[], (List.append_nil _).symm, by simp⟩ }
  have meeting : (accepted services id client address).ledger.Meeting
      (accepted services id client address).ledger [] [] [] :=
    ⟨untried, ⟨(List.append_nil _).symm, rfl, rfl⟩, rfl, rfl⟩
  have same : ∀ {waiting refusal},
      (accepted services id client address).forgetLookup.session.client.setInterest .readOnly =
        (waiting, refusal) →
      ((accepted services id client address).forgetLookup.withClient waiting).ledger.Meeting
        (accepted services id client address).ledger [] [] [] := by
    intro waiting refusal registered
    have kept : ((accepted services id client address).forgetLookup.withClient waiting).ledger =
        (accepted services id client address).ledger :=
      ledger_withClient (Endpoint.setInterest_socket registered)
    rw [kept]
    exact meeting
  unfold start
  dsimp only
  split <;> rename_i registered
  · exact ⟨rfl, rfl, [], rfl, same registered⟩
  · -- A client that cannot be waited for is a stranger to the end.
    exact ((same registered).note rfl).unserved (Nat.zero_le _)

end Live

end SocksProxy
