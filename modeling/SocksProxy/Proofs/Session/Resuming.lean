import SocksProxy.Proofs.Session.Upheld
import SocksProxy.Proofs.Session.Watching

/-!
Lookups of host names and the sessions that wait for them. A session leaves a lookup to its worker,
and has nothing to do with it but to ask for one and to take its outcome, once; from then on it does
not wait for one any more.
-/

namespace SocksProxy

open Net (SocketAddress)
open Wire (Refusal Request Status)

namespace Phase

theorem not_resolves_of_rank {phase : Phase} (later : 6 ≤ phase.rank) : phase.resolves = false := by
  cases phase <;> simp_all [rank, resolves]

theorem not_resolves_of_finished {phase : Phase} (finished : phase.isFinished = true) :
    phase.resolves = false := by
  cases phase <;> first | rfl | cases finished

theorem resolving_of_resolves {phase : Phase} (resolves : phase.resolves = true) :
    ∃ request, phase = .resolving request := by
  cases phase <;> first | exact ⟨_, rfl⟩ | cases resolves

end Phase

namespace Lookup

variable {l : Lookup}

/-- The outcome that a worker leaves is there from when it is left, whether the session has been
told or not. -/
theorem isSome_outcome_of_ended (l : Lookup) (ended : l.hasEnded = true) :
    l.outcome?.isSome = true := by
  cases found : l.outcome? with
  | some found => rfl
  | none => simp [hasEnded, running_of_outcome found] at ended

/-- Only a worker that dies vanishes, and it tells nobody. -/
structure Faithful (l : Lookup) : Prop where
  vanished : l.stage = .vanished → l.answer = .dies
  silent : l.answer = .dies → l.stage ≠ .answered ∧ l.stage ≠ .told

theorem Faithful.told_of_ended (faithful : l.Faithful) (ended : l.hasEnded = true)
    (lives : l.answer ≠ .dies) : l.stage = .told := by
  unfold hasEnded at ended
  split at ended
  · cases ended
  · cases ended
  · assumption
  · exact absurd (faithful.vanished ‹_›) lives

theorem faithful_ask (host : String) (port : UInt16) (answer : Answer) :
    (ask host port answer).Faithful :=
  ⟨fun gone => (nomatch gone), fun _ => ⟨Stage.noConfusion, Stage.noConfusion⟩⟩

theorem Faithful.finish (faithful : l.Faithful) : l.finish.Faithful := by
  obtain ⟨host, port, answer, stage, taken⟩ := l
  cases stage with
  | running =>
      cases answer <;> exact ⟨by simp [Lookup.finish], by simp [Lookup.finish]⟩
  | _ => exact faithful

theorem Faithful.told (faithful : l.Faithful) (answered : l.stage = .answered) :
    { l with stage := .told }.Faithful :=
  ⟨fun gone => (nomatch gone), fun dies => absurd answered (faithful.silent dies).1⟩

theorem told_finish (l : Lookup) : l.finish.stage = .told ↔ l.stage = .told := by
  obtain ⟨host, port, answer, stage, taken⟩ := l
  cases stage with
  | running => cases answer <;> simp [finish]
  | _ => exact Iff.rfl

end Lookup

namespace Live

def calling (s : Live) : SessionId × Notices × Option Lookup :=
  (s.session.id, s.services.notices, s.session.lookup)

theorem unseen_calling : Unseen calling :=
  { enter := fun _ _ => rfl
    withClient := fun _ _ => rfl
    withServer := fun _ _ => rfl
    withInbound := fun _ _ => rfl
    staged := fun _ _ _ => rfl
    note := fun _ _ _ => rfl
    attempting := fun _ _ => rfl
    dialling := fun _ _ _ => rfl
    abandonServer := fun _ => rfl
    serving := fun _ _ => rfl
    withScene := fun _ _ => rfl }

/-- What an event has to do with lookups: nothing, and then the session either stays or does not
wait for one; or it asks for the only one; or it takes the outcome. -/
inductive Calls (s after : Live) : Prop where
  | leaves (calling : after.calling = s.calling) (elsewhere : after.session.phase.resolves = false)
  | stays (calling : after.calling = s.calling) (phase : after.session.phase = s.session.phase)
  | asks (host : String) (port : UInt16) (answer : Answer)
      (calling : after.calling =
        (s.session.id, s.services.notices, some (.ask host port answer)))
      (early : s.session.phase.rank < 5) (later : 5 ≤ after.session.phase.rank)
  | takes {lookup : Lookup} (asked : s.session.lookup = some lookup)
      (calling : after.calling =
        (s.session.id, s.services.notices, some { lookup with taken := true }))
      (later : 6 ≤ after.session.phase.rank)

variable {request : Request} {event : Event} {lookup : Lookup} {s x after : Live}

theorem not_resolves_say_enter {message : Message} {phase : Phase}
    (elsewhere : phase.resolves = false) :
    (s.say message (enter phase)).session.phase.resolves = false := by
  apply say_posts (P := fun after => after.session.phase.resolves = false)
  · exact fun staged posted => elsewhere
  · exact fun cause => rfl
  · exact fun staged cause posted => rfl

theorem Onward.later (onward : s.Onward 6 after) : 6 ≤ after.session.phase.rank :=
  onward.rank (by decide)

theorem resolved_of_nothing (request : Request)
    (nothing : ∀ lookup, s.session.lookup = some lookup → lookup.outcome? = none) :
    s.resolved request = s := by
  unfold resolved
  split
  · rfl
  · rename_i lookup present
    simp only [Lookup.take, nothing lookup present]

theorem resolved_of_outcome (request : Request) {found : List SocketAddress}
    (asked : s.session.lookup = some lookup) (there : lookup.outcome? = some found) :
    (s.resolved request).calling =
        (s.session.id, s.services.notices, some { lookup with taken := true }) ∧
      6 ≤ (s.resolved request).session.phase.rank := by
  unfold resolved
  rw [asked]
  simp only [Lookup.take, there]
  split
  · exact ⟨unseen_calling.refuse _ _ _,
      (onward_refuse _ _ _).later⟩
  · exact ⟨unseen_calling.connect _ _ _ _, (onward_connect _ _ _ _).later⟩

theorem calls_resolved (request : Request) (s : Live) : s.Calls (s.resolved request) := by
  cases asked : s.session.lookup with
  | none =>
      rw [resolved_of_nothing request (by simp [asked])]
      exact .stays rfl rfl
  | some lookup =>
      cases there : lookup.outcome? with
      | none =>
          rw [resolved_of_nothing request (by simp [asked, there])]
          exact .stays rfl rfl
      | some found =>
          obtain ⟨calling, later⟩ := resolved_of_outcome request asked there
          exact .takes asked calling later

theorem calling_check (credentials : Wire.Credentials) (s : Live) :
    (s.check credentials).calling = s.calling ∧
      (s.check credentials).session.phase.resolves = false := by
  have tells : ∀ (message : Message) (phase : Phase) (x : Live), phase.resolves = false →
      (x.say message (enter phase)).calling = x.calling ∧
        (x.say message (enter phase)).session.phase.resolves = false :=
    fun message phase x elsewhere =>
      ⟨unseen_calling.say message (unseen_calling.enter phase) x, not_resolves_say_enter elsewhere⟩
  unfold check
  dsimp only
  split
  · exact ⟨rfl, rfl⟩
  · exact tells _ _ ((s.checking _).named _) rfl
  · exact tells _ _ ((s.checking _).noteProblem _) rfl

theorem calls_noted_refuse (same : x.calling = s.calling) (entry : Entry) (why : Refusal) :
    s.Calls ((x.note entry).refuse request why) :=
  .leaves ((unseen_calling.refuse _ _ (x.note entry)).trans same)
    (Phase.not_resolves_of_rank (onward_refuse _ _ _).later)

theorem calls_lookUp (request : Request) (same : x.calling = s.calling)
    (early : s.session.phase.rank < 5) : s.Calls (x.lookUp request) := by
  have later := (onward_lookUp request x).rank (by decide)
  unfold lookUp at later ⊢
  split
  · exact calls_noted_refuse same _ _
  · rename_i spawns
    rw [spawns] at later
    obtain ⟨id, rest⟩ := Prod.mk.inj same
    obtain ⟨notices, -⟩ := Prod.mk.inj rest
    refine .asks request.address.host request.port
      (x.services.resolve request.address.host request.port) ?_ early later
    rw [unseen_calling.await .none (unseen_calling.enter _) _, ← id, ← notices]
    rfl

theorem calls_serve (request : Request) (same : x.calling = s.calling)
    (early : s.session.phase.rank < 5) : s.Calls (x.serve request) := by
  unfold serve
  split
  · split
    · exact .leaves ((unseen_calling.connect _ _ _ x).trans same)
        (Phase.not_resolves_of_rank (onward_connect _ _ _ x).later)
    · exact calls_lookUp request same early
  · exact calls_noted_refuse same _ _

theorem calls_act (act : x.Act after) (same : x.calling = s.calling)
    (phase : x.session.phase = s.session.phase) : s.Calls after := by
  have turned : ∀ {phase : Phase} {y : Live}, x.Turns phase y → ∀ buffer,
      (y.withInbound buffer).calling = s.calling := by
    intro phase y turns buffer
    cases turns <;> exact same
  cases act with
  | unregistered refused => exact .leaves same rfl
  | waits turns hears =>
      obtain ⟨-, reads⟩ := hear_more hears
      refine .leaves ((unseen_calling.await .readOnly (unseen_calling.enter _) _).trans
        (turned turns _)) ?_
      apply await_cases (P := fun after => after.session.phase.resolves = false)
      · exact fun client registered => Phase.resolves_of_reads reads
      · exact fun client cause refused => rfl
  | leaves hears empty finished => exact .leaves same rfl
  | @mistakes _ _ buffer _ turns hears => exact .leaves (turned turns buffer) rfl
  | selects turns hears =>
      exact .leaves ((unseen_calling.say _ (unseen_calling.enter _) _).trans (turned turns _))
        (not_resolves_say_enter rfl)
  | verifies turns hears =>
      obtain ⟨calling, elsewhere⟩ := calling_check _ _
      exact .leaves (calling.trans (turned turns _)) elsewhere
  | serves turns hears =>
      have place := hear_rank hears
      have early : s.session.phase.rank ≤ 4 := phase ▸ place ▸ turns.onward.2
      exact calls_serve _ (turned turns _) (Nat.lt_succ_of_le early)
  | dismisses told sent other =>
      obtain ⟨entry, -, ending⟩ := selected_other other
      rw [ending]
      exact .leaves same rfl
  | rejects told sent => exact .leaves same rfl
  | replied told sent =>
      refine .leaves ((unseen_calling.replied _ _ x).trans same) ?_
      rcases x.over_replied _ _ with finished | ⟨⟨relay, relaying⟩, -⟩
      · exact Phase.not_resolves_of_finished finished
      · rw [relaying]
        rfl

theorem calls_handle (event : Event) (s : Live) : s.Calls (s.handle event) := by
  have relayed : ∀ (relay : Relay) (move : Relay.Move),
      s.Calls (s.relay relay (Relay.Scene.move move)) := by
    intro relay move
    refine .leaves (unseen_calling.relay _ _ s) ?_
    rcases (kept_relay relay move s).2 with finished | ⟨onwards, relaying⟩
    · exact Phase.not_resolves_of_finished finished
    · rw [relaying]
      rfl
  have handled := s.handled event
  generalize s.handle event = after at handled
  cases handled with
  | nothing deaf => exact .stays rfl rfl
  | heard reads sound act | sent writes drained act => exact calls_act act rfl rfl
  | unheard reads broken => exact .leaves rfl rfl
  | halted writes blocked => exact .stays rfl rfl
  | unsent writes broken => exact .leaves rfl rfl
  | resumed asked => exact calls_resolved _ s
  | decided trying =>
      rcases onward_settled _ _ s with same | onward
      · rw [same]
        exact .stays rfl rfl
      · exact .leaves (unseen_calling.settled _ _ s) (Phase.not_resolves_of_rank onward.later)
  | readable relaying => exact relayed _ _
  | writable relaying => exact relayed _ _

theorem handle_resolving (asked : s.session.phase = .resolving request) :
    s.handle .resumed = s.resolved request := by
  unfold handle
  rw [asked]

theorem handle_resumed_elsewhere (elsewhere : s.session.phase.resolves = false) :
    s.handle .resumed = s := by
  unfold handle
  split <;> simp_all [Phase.resolves]

theorem calling_move {move : Move} (ongoing : move.isOngoing = true)
    (world : ∀ event, move ≠ .event event) (finishes : move ≠ .finishLookup)
    (tells : move ≠ .tellLookup) : (s.move move).calling = s.calling := by
  have users : ∀ {α : Type} (changed : Except UserError α) (update : α → Services),
      (∀ a, (update a).notices = s.services.notices) →
        (s.withUsers (changed.map update)).calling = s.calling := by
    intro α changed update kept
    cases changed with
    | error fault => rfl
    | ok a => exact congrArg (fun n => (s.session.id, n, s.session.lookup)) (kept a)
  cases move with
  | start | close => cases ongoing
  | event event => exact absurd rfl (world event)
  | finishLookup => exact absurd rfl finishes
  | tellLookup => exact absurd rfl tells
  | settle | setSniffing on => rfl
  | addUser user | removeUser name | changePassword name password => exact users _ _ fun _ => rfl
  | far side far =>
      change (s.farMove far side).calling = s.calling
      unfold farMove
      split <;> rfl

inductive Works (s after : Live) : Prop where
  | rests (calling : after.calling = s.calling)
  | finishes (calling : after.calling =
      (s.session.id, s.services.notices, s.session.lookup.map Lookup.finish))
  | tells {lookup : Lookup} (asked : s.session.lookup = some lookup)
      (answered : lookup.stage = .answered)
      (calling : after.calling = (s.session.id,
        { s.services.notices with waiting := s.services.notices.waiting ++ [s.session.id] },
        some { lookup with stage := .told }))

theorem tellLookup_answered (heard : s.services.notices.heard = true)
    (asked : s.session.lookup = some lookup) (answered : lookup.stage = .answered) :
    s.tellLookup.calling = (s.session.id,
      { s.services.notices with waiting := s.services.notices.waiting ++ [s.session.id] },
      some { lookup with stage := .told }) := by
  simp [tellLookup, calling, asked, Lookup.tell, answered, Services.notify, Notices.notify, heard]

theorem works_tellLookup (heard : s.services.notices.heard = true) : s.Works s.tellLookup := by
  cases asked : s.session.lookup with
  | none =>
      rw [tellLookup, asked]
      exact .rests rfl
  | some lookup =>
      by_cases answered : lookup.stage = .answered
      · exact .tells asked answered (tellLookup_answered heard asked answered)
      · have silent : lookup.tell = (false, lookup) := by
          unfold Lookup.tell
          split
          · exact absurd ‹_› answered
          · rfl
        exact .rests (by simp [tellLookup, calling, asked, silent])

theorem works_move {move : Move} (ongoing : move.isOngoing = true)
    (world : ∀ event, move ≠ .event event) (heard : s.services.notices.heard = true) :
    s.Works (s.move move) := by
  by_cases finishes : move = .finishLookup
  · rw [finishes]
    exact .finishes rfl
  · by_cases tells : move = .tellLookup
    · rw [tells]
      exact works_tellLookup heard
    · exact .rests (calling_move ongoing world finishes tells)

theorem rank_run (moves : List Move) (ongoing : ∀ move ∈ moves, move.isOngoing = true) (s : Live) :
    s.session.phase.rank ≤ (s.run moves).session.phase.rank :=
  run_ongoing (P := fun after => s.session.phase.rank ≤ after.session.phase.rank)
    (fun _ x more here => Nat.le_trans here (forward_move more x).rank) moves ongoing
    (Nat.le_refl _)

end Live

end SocksProxy
