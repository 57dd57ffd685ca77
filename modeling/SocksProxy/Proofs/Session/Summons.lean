import SocksProxy.Proofs.Session.Resuming

/-!
What the worker of a lookup does for its session. It leaves an outcome first and asks for the
session to be resumed afterwards, once. A session that waits although its worker has told is among
those to be resumed; when it is, it takes the outcome and never waits again.
-/

namespace SocksProxy

open Net (SocketAddress)

namespace Session

def summons (s : Session) : List SessionId :=
  if s.lookup.any fun lookup => lookup.stage = .told then [s.id] else []

/-- A session that waits has a lookup whose outcome it has not taken; once the worker has told, the
session is among those that are to be resumed. -/
def Wakes (waiting : List SessionId) (s : Session) : Prop :=
  s.phase.resolves = true → ∃ lookup, s.lookup = some lookup ∧ lookup.Faithful ∧
    lookup.taken = false ∧ (lookup.stage = .told → s.id ∈ waiting)

variable {waiting more : List SessionId} {s x : Session}

theorem wakes_of_elsewhere (elsewhere : s.phase.resolves = false) : s.Wakes waiting := by
  intro resolves
  rw [elsewhere] at resolves
  cases resolves

theorem Wakes.mono (wakes : s.Wakes waiting) (grows : s.id ∈ waiting → s.id ∈ more) :
    s.Wakes more := by
  intro resolves
  obtain ⟨lookup, asked, faithful, untaken, told⟩ := wakes resolves
  exact ⟨lookup, asked, faithful, untaken, fun ended => grows (told ended)⟩

theorem Wakes.of_same (wakes : s.Wakes waiting) (id : x.id = s.id) (lookup : x.lookup = s.lookup)
    (phase : x.phase = s.phase) : x.Wakes waiting := by
  intro resolves
  rw [phase] at resolves
  rw [id, lookup]
  exact wakes resolves

end Session

namespace Live

variable {waiting first : List SessionId} {event : Event} {lookup : Lookup} {s after : Live}

theorem of_calling {id : SessionId} {notices : Notices} {found : Option Lookup}
    (calling : after.calling = (id, notices, found)) :
    after.session.id = id ∧ after.services.notices = notices ∧ after.session.lookup = found := by
  obtain ⟨id, rest⟩ := Prod.mk.inj calling
  exact ⟨id, Prod.mk.inj rest⟩

theorem Calls.same_id (calls : s.Calls after) : after.session.id = s.session.id := by
  cases calls with
  | leaves calling | stays calling | asks _ _ _ calling | takes _ calling =>
      exact (of_calling calling).1

theorem Calls.same_notices (calls : s.Calls after) : after.services.notices = s.services.notices := by
  cases calls with
  | leaves calling | stays calling | asks _ _ _ calling | takes _ calling =>
      exact (of_calling calling).2.1

theorem Calls.wakes (calls : s.Calls after) (wakes : s.session.Wakes waiting) :
    after.session.Wakes waiting := by
  cases calls with
  | leaves calling elsewhere => exact Session.wakes_of_elsewhere elsewhere
  | stays calling phase =>
      obtain ⟨id, -, lookup⟩ := of_calling calling
      exact wakes.of_same id lookup phase
  | asks host port answer calling =>
      obtain ⟨-, -, asked⟩ := of_calling calling
      exact fun _ => ⟨_, asked, Lookup.faithful_ask host port answer, rfl, fun told => nomatch told⟩
  | takes asked calling later =>
      exact Session.wakes_of_elsewhere (Phase.not_resolves_of_rank later)

theorem wakes_resumed (wakes : s.session.Wakes waiting) : (s.handle .resumed).session.Wakes [] := by
  cases resolves : s.session.phase.resolves with
  | false =>
      rw [handle_resumed_elsewhere resolves]
      exact Session.wakes_of_elsewhere resolves
  | true =>
      obtain ⟨request, phase⟩ := Phase.resolving_of_resolves resolves
      obtain ⟨lookup, asked, faithful, untaken, -⟩ := wakes resolves
      rw [handle_resolving phase]
      cases there : lookup.outcome? with
      | none =>
          rw [resolved_of_nothing request (by simp [asked, there])]
          refine fun _ => ⟨lookup, asked, faithful, untaken, fun told => ?_⟩
          rw [Lookup.running_of_outcome there] at told
          cases told
      | some found =>
          obtain ⟨-, later⟩ := resolved_of_outcome request asked there
          exact Session.wakes_of_elsewhere (Phase.not_resolves_of_rank later)

theorem Works.same_id (works : s.Works after) : after.session.id = s.session.id := by
  cases works with
  | rests calling | finishes calling | tells _ _ calling => exact (of_calling calling).1

theorem Works.heard (works : s.Works after) (heard : s.services.notices.heard = true) :
    after.services.notices.heard = true := by
  cases works with
  | rests calling | finishes calling | tells _ _ calling =>
      rw [(of_calling calling).2.1]
      exact heard

theorem Works.waiting_subset (works : s.Works after) :
    s.services.notices.waiting ⊆ after.services.notices.waiting := by
  cases works with
  | rests calling | finishes calling =>
      rw [(of_calling calling).2.1]
      exact List.Subset.refl _
  | tells _ _ calling =>
      rw [(of_calling calling).2.1]
      exact List.subset_append_left _ _

theorem Works.wakes (works : s.Works after) (phase : after.session.phase = s.session.phase)
    (wakes : s.session.Wakes s.services.notices.waiting) :
    after.session.Wakes after.services.notices.waiting := by
  cases works with
  | rests calling =>
      obtain ⟨id, notices, lookup⟩ := of_calling calling
      rw [notices]
      exact wakes.of_same id lookup phase
  | finishes calling =>
      obtain ⟨id, notices, found⟩ := of_calling calling
      intro resolves
      rw [phase] at resolves
      obtain ⟨lookup, asked, faithful, untaken, told⟩ := wakes resolves
      rw [asked] at found
      refine ⟨lookup.finish, found, faithful.finish, lookup.taken_finish.trans untaken, ?_⟩
      rw [id, notices]
      exact fun ended => told (lookup.told_finish.mp ended)
  | tells asked answered calling =>
      obtain ⟨id, notices, found⟩ := of_calling calling
      intro resolves
      rw [phase] at resolves
      obtain ⟨lookup, same, faithful, untaken, -⟩ := wakes resolves
      cases same.symm.trans asked
      refine ⟨_, found, faithful.told answered, untaken, fun _ => ?_⟩
      rw [id, notices]
      exact List.mem_append_right _ List.mem_cons_self

/-- Whoever has been asked for to be resumed since a session began was asked for by its worker. -/
structure Summoned (first : List SessionId) (s : Live) : Prop where
  heard : s.services.notices.heard = true
  unasked : s.session.phase.rank < 5 → s.session.lookup = none
  faithful : ∀ lookup, s.session.lookup = some lookup → lookup.Faithful
  sent : s.services.notices.waiting = first ++ s.session.summons

theorem Calls.summoned (calls : s.Calls after) (summoned : s.Summoned first)
    (onwards : s.session.phase.rank ≤ after.session.phase.rank) : after.Summoned first := by
  obtain ⟨heard, unasked, faithful, sent⟩ := summoned
  have same : after.calling = s.calling → after.Summoned first := by
    intro calling
    obtain ⟨id, notices, lookup⟩ := of_calling calling
    refine ⟨notices ▸ heard, fun early => ?_, lookup ▸ faithful, ?_⟩
    · rw [lookup]
      exact unasked (Nat.lt_of_le_of_lt onwards early)
    · rw [notices, Session.summons, id, lookup]
      exact sent
  cases calls with
  | leaves calling | stays calling => exact same calling
  | asks host port answer calling early later =>
      obtain ⟨-, notices, asked⟩ := of_calling calling
      have silent : s.session.summons = [] := by simp [Session.summons, unasked early]
      refine ⟨notices ▸ heard, fun again => absurd later (Nat.not_le_of_lt again), ?_, ?_⟩
      · intro lookup found
        cases asked.symm.trans found
        exact Lookup.faithful_ask host port answer
      · rw [notices, sent, silent, Session.summons, asked]
        rfl
  | takes asked calling later =>
      obtain ⟨id, notices, found⟩ := of_calling calling
      refine ⟨notices ▸ heard, fun early => by omega, ?_, ?_⟩
      · intro lookup present
        cases found.symm.trans present
        exact ⟨(faithful _ asked).vanished, (faithful _ asked).silent⟩
      · rw [notices, sent, Session.summons, Session.summons, id, found, asked]
        rfl

theorem Works.summoned (works : s.Works after) (summoned : s.Summoned first)
    (phase : after.session.phase = s.session.phase) : after.Summoned first := by
  obtain ⟨heard, unasked, faithful, sent⟩ := summoned
  have heard := works.heard heard
  rw [← phase] at unasked
  cases works with
  | rests calling =>
      obtain ⟨id, notices, lookup⟩ := of_calling calling
      rw [← lookup] at unasked faithful
      refine ⟨heard, unasked, faithful, ?_⟩
      rw [notices, sent, Session.summons, Session.summons, id, lookup]
  | finishes calling =>
      obtain ⟨id, notices, found⟩ := of_calling calling
      refine ⟨heard, fun early => by rw [found, unasked early]; rfl, ?_, ?_⟩
      · intro lookup present
        obtain ⟨earlier, asked, rfl⟩ := Option.map_eq_some_iff.mp (found.symm.trans present)
        exact (faithful earlier asked).finish
      · rw [notices, sent, Session.summons, Session.summons, id, found]
        cases s.session.lookup with
        | none => rfl
        | some lookup =>
            simp only [Option.map_some, Option.any_some, lookup.told_finish]
  | tells asked answered calling =>
      obtain ⟨id, notices, found⟩ := of_calling calling
      refine ⟨heard, fun early => ?_, ?_, ?_⟩
      · rw [unasked early] at asked
        cases asked
      · intro lookup present
        cases found.symm.trans present
        exact (faithful _ asked).told answered
      · rw [notices, Session.summons, id, found]
        change s.services.notices.waiting ++ [s.session.id] = first ++ [s.session.id]
        rw [sent, Session.summons, asked]
        simp [answered]

theorem summoned_move {move : Move} (ongoing : move.isOngoing = true)
    (summoned : s.Summoned first) : (s.move move).Summoned first := by
  rcases move.event_or_world with ⟨event, rfl⟩ | world
  · exact (calls_handle event s).summoned summoned (forward_move ongoing s).rank
  · exact (works_move ongoing world summoned.heard).summoned summoned
      (calm_move ongoing world).phase

theorem summoned_run (moves : List Move) (ongoing : ∀ move ∈ moves, move.isOngoing = true)
    (summoned : s.Summoned first) : (s.run moves).Summoned first :=
  run_ongoing (P := Summoned first) (fun _ _ more here => summoned_move more here) moves ongoing
    summoned

theorem start_of_new (services : Services) (id : SessionId) (client : Socket)
    (address : SocketAddress) :
    (accepted services id client address).start.calling = (id, services.notices, none) ∧
      (accepted services id client address).start.session.phase.resolves = false := by
  unfold start
  dsimp only
  split <;> exact ⟨rfl, rfl⟩

theorem summoned_start {services : Services} (heard : services.notices.heard = true)
    (id : SessionId) (client : Socket) (address : SocketAddress) :
    (accepted services id client address).start.Summoned services.notices.waiting := by
  obtain ⟨calling, -⟩ := start_of_new services id client address
  obtain ⟨-, notices, unasked⟩ := of_calling calling
  refine ⟨notices ▸ heard, fun _ => unasked, fun lookup asked => ?_, ?_⟩
  · rw [unasked] at asked
    cases asked
  · rw [notices, Session.summons, unasked]
    exact (List.append_nil _).symm

/-- What the worker of a lookup has sent, in addition to whatever was waiting before. -/
structure TellsOnce (first : List SessionId) (s : Live) (lookup : Lookup) : Prop where
  -- Nothing is sent before the worker ends, and so nothing before its outcome can be seen.
  unsent : lookup.hasEnded = false → s.services.notices.waiting = first
  visible : lookup.hasEnded = true → lookup.outcome?.isSome = true
  sent : lookup.hasEnded = true → lookup.answer ≠ .dies →
    s.services.notices.waiting = first ++ [s.session.id]
  -- A worker that dies never says that it has.
  lost : lookup.answer = .dies → s.services.notices.waiting = first

theorem Summoned.tellsOnce (summoned : s.Summoned first) (asked : s.session.lookup = some lookup) :
    s.TellsOnce first lookup := by
  have faithful := summoned.faithful lookup asked
  have sent : s.services.notices.waiting =
      first ++ if lookup.stage = .told then [s.session.id] else [] := by
    rw [summoned.sent, Session.summons, asked]
    simp
  have untold : lookup.stage ≠ .told → s.services.notices.waiting = first := by
    intro other
    rw [sent, if_neg other, List.append_nil]
  refine ⟨fun running => untold fun told => ?_, lookup.isSome_outcome_of_ended, fun ended lives => ?_,
    fun dies => untold (faithful.silent dies).2⟩
  · simp [Lookup.hasEnded, told] at running
  · rw [sent, if_pos (faithful.told_of_ended ended lives)]

/-- At any time of any run of a session, what its worker has sent is one word when it has ended with
an answer, and nothing before. -/
theorem tellsOnce_run {services : Services} (heard : services.notices.heard = true) (id : SessionId)
    (client : Socket) (address : SocketAddress) (moves : List Move)
    (ongoing : ∀ move ∈ moves, move.isOngoing = true) (lookup : Lookup) :
    let s := (accepted services id client address).run (.start :: moves)
    s.session.lookup = some lookup → s.TellsOnce services.notices.waiting lookup :=
  fun asked => (summoned_run moves ongoing (summoned_start heard id client address)).tellsOnce asked

/-- An outcome that is there is taken when the session is resumed, and nothing is waited for or
taken after that. -/
structure TakesOnce (s after : Live) (lookup : Lookup) : Prop where
  untaken : lookup.taken = false
  taken : after.session.lookup = some { lookup with taken := true }
  onwards : ∀ moves : List Move, (∀ move ∈ moves, move.isOngoing = true) →
    (after.run moves).session.phase.resolves = false ∧
      (after.run moves).handle .resumed = after.run moves

theorem takesOnce_resumed (wakes : s.session.Wakes waiting)
    (resolves : s.session.phase.resolves = true) (asked : s.session.lookup = some lookup)
    (visible : lookup.outcome?.isSome = true) : s.TakesOnce (s.handle .resumed) lookup := by
  obtain ⟨request, phase⟩ := Phase.resolving_of_resolves resolves
  obtain ⟨found, there⟩ := Option.isSome_iff_exists.mp visible
  obtain ⟨same, present, -, untaken, -⟩ := wakes resolves
  cases present.symm.trans asked
  obtain ⟨calling, later⟩ := resolved_of_outcome request asked there
  rw [handle_resolving phase]
  refine ⟨untaken, (of_calling calling).2.2, fun moves ongoing => ?_⟩
  have elsewhere := Phase.not_resolves_of_rank (Nat.le_trans later (rank_run moves ongoing _))
  exact ⟨elsewhere, handle_resumed_elsewhere elsewhere⟩

end Live

end SocksProxy
