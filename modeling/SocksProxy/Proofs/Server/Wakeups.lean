import SocksProxy.Proofs.Server.Table
import SocksProxy.Proofs.Session.Summons

/-!
Workers and the sessions that wait for them, among all the others. A worker asks for its session
to be resumed when the outcome is there to be taken; from then on the session stays among those
that are to be resumed until it is, whatever else happens to the server meanwhile.
-/

namespace SocksProxy

namespace Server

/-- No session that waits for a lookup is forgotten. Those that are being resumed are on their way
besides those that wait to be. -/
structure Alert (pending : List SessionId) (s : Server) : Prop where
  unique : s.Unique
  heard : s.services.notices.heard = true
  wakes : ∀ x ∈ s.sessions, x.Wakes (pending ++ s.services.notices.waiting)

variable {services : Services} {pending left : List SessionId} {id : SessionId} {x y : Session}
  {lookup : Lookup} {moved : Live} {s after : Server}

theorem Alert.fewer (alert : s.Alert pending) (fewer : after.sessions.Sublist s.sessions)
    (notices : after.services.notices = s.services.notices) : after.Alert pending where
  unique := alert.unique.fewer fewer
  heard := by rw [notices]; exact alert.heard
  wakes x member := by rw [notices]; exact alert.wakes x (fewer.subset member)

/-- A session is not concerned when another one is taken off the list. -/
theorem wakes_besides {waiting more : List SessionId} (wakes : y.Wakes (pending ++ waiting))
    (distinct : y.id ≠ id) (others : ∀ other ∈ pending, other = id ∨ other ∈ left)
    (grows : waiting ⊆ more) : y.Wakes (left ++ more) := by
  refine wakes.mono fun waits => ?_
  rcases List.mem_append.mp waits with named | later
  · exact List.mem_append_left _ ((others y.id named).resolve_left distinct)
  · exact List.mem_append_right _ (grows later)

theorem Alert.store (alert : s.Alert pending) (same : moved.session.id = id)
    (heard : moved.services.notices.heard = true)
    (grows : s.services.notices.waiting ⊆ moved.services.notices.waiting)
    (others : ∀ other ∈ pending, other = id ∨ other ∈ left)
    (wakes : moved.session.Wakes (left ++ moved.services.notices.waiting)) :
    (s.store moved).Alert left where
  unique := alert.unique.store moved
  heard := heard
  wakes y member := by
    rcases mem_replace alert.unique member with rfl | ⟨there, distinct⟩
    · exact wakes
    · exact wakes_besides (alert.wakes y there) (same ▸ distinct) others grows

theorem driven_same (events : List SocksProxy.Event) (s : Live) :
    (s.driven events).session.id = s.session.id ∧
      (s.driven events).services.notices = s.services.notices := by
  apply Live.driven_keeps (P := fun x =>
    x.session.id = s.session.id ∧ x.services.notices = s.services.notices)
  · intro event x ⟨id, notices⟩
    have calls := Live.calls_handle event x
    exact ⟨calls.same_id.trans id, calls.same_notices.trans notices⟩
  · exact ⟨rfl, rfl⟩

theorem Alert.drives {events : List SocksProxy.Event} (alert : s.Alert pending)
    (others : ∀ other ∈ pending, other = id ∨ other ∈ left)
    (wakes : ∀ x ∈ s.sessions, x.id = id →
      ((s.live x).driven events).session.Wakes (left ++ s.services.notices.waiting)) :
    (s.drive id events).Alert left := by
  rcases drive_cases id events s with ⟨idle, nobody⟩ | ⟨x, member, rfl, driven⟩
  · rw [idle]
    exact ⟨alert.unique, alert.heard, fun y member =>
      wakes_besides (alert.wakes y member) (nobody y member) others (List.Subset.refl _)⟩
  · obtain ⟨same, notices⟩ := driven_same events (s.live x)
    rw [driven]
    refine Alert.fewer (alert.store same ?_ ?_ others ?_) (reap_fewer _ _) (reap_notices _ _)
    · rw [notices]
      exact alert.heard
    · rw [notices]
      exact List.Subset.refl _
    · rw [notices]
      exact wakes x member rfl

theorem alert_drive (alert : s.Alert pending) (id : SessionId) (events : List SocksProxy.Event) :
    (s.drive id events).Alert pending :=
  alert.drives (fun _ => Or.inr) fun x member _ =>
    Live.driven_keeps (P := fun moved => moved.session.Wakes _)
      (fun event moved wakes => (Live.calls_handle event moved).wakes wakes) events
      (alert.wakes x member)

theorem alert_resumed (alert : s.Alert (id :: pending)) :
    (s.drive id [.resumed]).Alert pending := by
  refine alert.drives (fun _ => List.mem_cons.mp) fun x member _ => ?_
  have alone : ((s.live x).driven [.resumed]).session.Wakes [] := by
    simp only [Live.driven, List.foldl_cons, List.foldl_nil]
    split
    · rename_i finished
      exact Session.wakes_of_elsewhere (Phase.not_resolves_of_finished finished)
    · exact Live.wakes_resumed (alert.wakes x member)
  exact alone.mono fun waits => absurd waits List.not_mem_nil

theorem alert_resume (ids : List SessionId) (alert : s.Alert ids) : (s.resume ids).Alert [] := by
  induction ids generalizing s with
  | nil => exact alert
  | cons id rest ih => exact ih (alert_resumed alert)

theorem ongoing_of_isAround {move : Move} (around : isAround move = true) :
    move.isOngoing = true ∧ ∀ event, move ≠ .event event := by
  cases move <;> first | exact ⟨rfl, fun _ => Move.noConfusion⟩ | cases around

theorem alert_around (alert : s.Alert []) (id : SessionId) {move : Move}
    (world : isAround move = true) : (s.around id (Live.move move)).Alert [] := by
  rcases around_cases id (Live.move move) s with idle | ⟨x, member, rfl, moved⟩
  · rw [idle]
    exact alert
  · rw [moved]
    obtain ⟨ongoing, apart⟩ := ongoing_of_isAround world
    have works := Live.works_move (s := s.live x) ongoing apart alert.heard
    exact alert.store works.same_id (works.heard alert.heard) works.waiting_subset
      (fun _ => Or.inr) (works.wakes (Live.calm_move ongoing apart).phase (alert.wakes x member))

theorem alert_acceptAs (alert : s.Alert []) (fresh : ∀ x ∈ s.sessions, x.id ≠ id) (socket : Socket)
    (address : Net.SocketAddress) : (s.acceptAs id socket address).Alert [] := by
  let noted := (s.note (.accepted id address)).withStats Stats.opened
  let started := (Live.accepted noted.services id socket address).start
  obtain ⟨calling, elsewhere⟩ := Live.start_of_new noted.services id socket address
  obtain ⟨same, notices, -⟩ := Live.of_calling calling
  have stored : Alert []
      { noted with services := started.services, sessions := s.sessions ++ [started.session] } := by
    refine ⟨alert.unique.append (same ▸ fresh), ?_, fun y member => ?_⟩
    · exact notices ▸ alert.heard
    · rcases List.mem_append.mp member with there | new
      · dsimp only
        rw [notices]
        exact alert.wakes y there
      · rw [List.mem_singleton.mp new]
        exact Session.wakes_of_elsewhere elsewhere
  exact stored.fewer (reap_fewer id _) (reap_notices id _)

theorem alert_notify (alert : s.Alert []) (id : SessionId) :
    Alert [] { s with services := s.services.notify id } := by
  have notified : s.services.notify id = { s.services with
      notices := { s.services.notices with waiting := s.services.notices.waiting ++ [id] } } := by
    simp [Services.notify, Notices.notify, alert.heard]
  rw [notified]
  refine ⟨alert.unique, alert.heard, fun x member => (alert.wakes x member).mono fun waits => ?_⟩
  exact (List.mem_append_left [id] waits : x.id ∈ s.services.notices.waiting ++ [id])

theorem alert_taken (alert : s.Alert []) (ids : List SessionId) (left : List SessionId)
    (split : s.services.notices.waiting = ids ++ left) :
    Alert ids { s with services := { s.services with
      notices := { s.services.notices with waiting := left } } } :=
  ⟨alert.unique, alert.heard, fun x member => (alert.wakes x member).mono fun waits => split ▸ waits⟩

theorem alert_wake (alert : s.Alert []) (commands : List Command) : (s.wake commands).Alert [] := by
  obtain ⟨fewer, notices, -⟩ := s.obey_keeps commands
  have obeyed : (s.obey commands).Alert [] := alert.fewer fewer notices
  unfold wake
  dsimp only
  split
  · exact alert_resume _ (alert_taken obeyed _ [] (List.append_nil _).symm)
  · exact obeyed

theorem alert_happen (alert : s.Alert []) (happening : Happening) :
    (s.happen happening).Alert [] := by
  unfold happen
  split
  · split
    · unfold accept
      split
      · exact alert_acceptAs alert (fresh_of_freshId ‹_›) _ _
      · exact alert
    · exact alert
  · split
    · unfold readiness
      split
      · exact alert.fewer (List.Sublist.refl _) rfl
      · exact alert_drive alert _ _
    · exact alert
  · split
    · exact alert_wake alert _
    · exact alert
  · exact alert_notify alert _
  · split
    · exact alert_around alert _ ‹_›
    · exact alert

/-- The states that a server can be seen in, also in the middle of what it does: a session is told
of its sockets one event at a time, and sessions are resumed one at a time. -/
inductive Reached (services : Services) : Server → Prop where
  | fresh : Reached services (.new services)
  | happens {s : Server} (before : Reached services s) (happening : Happening) :
      Reached services (s.happen happening)
  | drives {s : Server} (before : Reached services s) (id : SessionId)
      (events : List SocksProxy.Event) : Reached services (s.drive id events)
  | resumes {s : Server} {id : SessionId} {rest : List SessionId} (before : Reached services s)
      (next : s.services.notices.waiting = id :: rest) :
      Reached services (Server.drive id [.resumed] { s with services := { s.services with
        notices := { s.services.notices with waiting := rest } } })

theorem Reached.run (before : Reached services s) (happenings : List Happening) :
    Reached services (s.run happenings) := by
  induction happenings generalizing s with
  | nil => exact before
  | cons happening rest ih => exact ih (before.happens happening)

theorem Reached.alert (heard : services.notices.heard = true) (reached : Reached services s) :
    s.Alert [] := by
  induction reached with
  | fresh => exact ⟨List.nodup_nil, heard, fun x member => absurd member List.not_mem_nil⟩
  | happens before happening ih => exact alert_happen ih happening
  | drives before id events ih => exact alert_drive ih id events
  | resumes before next ih => exact alert_resumed (alert_taken ih [_] _ next)

def Awake (id : SessionId) (s : Server) : Prop :=
  ∀ x ∈ s.sessions, x.id = id → x.phase.resolves = false

def Ready (id : SessionId) (s : Server) : Prop :=
  ∀ x ∈ s.sessions, x.id = id → x.phase.resolves = true →
    ∃ lookup, x.lookup = some lookup ∧ lookup.outcome?.isSome = true

theorem driven_resumed (resolves : x.phase.resolves = true) :
    (s.live x).driven [.resumed] = (s.live x).handle .resumed := by
  obtain ⟨request, phase⟩ := Phase.resolving_of_resolves resolves
  have ongoing : (s.live x).session.isFinished = false := by
    change x.phase.isFinished = false
    rw [phase]
    rfl
  simp [Live.driven, ongoing]

theorem driven_elsewhere (elsewhere : x.phase.resolves = false) :
    (s.live x).driven [.resumed] = s.live x := by
  simp only [Live.driven, List.foldl_cons, List.foldl_nil]
  split
  · rfl
  · exact Live.handle_resumed_elsewhere elsewhere

theorem mem_resumed (unique : s.Unique) (member : y ∈ (s.drive id [.resumed]).sessions) :
    (y ∈ s.sessions ∧ y.id ≠ id) ∨
      ∃ x ∈ s.sessions, x.id = id ∧ y = ((s.live x).driven [.resumed]).session :=
  mem_drive unique (fun x _ => (driven_same [.resumed] (s.live x)).1) member

theorem awake_resumed (unique : s.Unique) (ready : s.Ready id) :
    (s.drive id [.resumed]).Awake id := by
  intro y member same
  rcases mem_resumed unique member with ⟨-, other⟩ | ⟨x, here, named, rfl⟩
  · exact absurd same other
  · cases resolves : x.phase.resolves with
    | false =>
        rw [driven_elsewhere resolves]
        exact resolves
    | true =>
        obtain ⟨request, phase⟩ := Phase.resolving_of_resolves resolves
        obtain ⟨lookup, asked, visible⟩ := ready x here named resolves
        obtain ⟨found, there⟩ := Option.isSome_iff_exists.mp visible
        rw [driven_resumed resolves, Live.handle_resolving (s := s.live x) phase]
        exact Phase.not_resolves_of_rank
          (Live.resolved_of_outcome (s := s.live x) request asked there).2

theorem ready_resumed (unique : s.Unique) (ready : s.Ready id) {other : SessionId}
    (different : other ≠ id) : (s.drive other [.resumed]).Ready id := by
  intro y member named
  rcases mem_resumed unique member with ⟨there, -⟩ | ⟨x, -, known, rfl⟩
  · exact ready y there named
  · rw [(driven_same [.resumed] (s.live x)).1] at named
    exact absurd (known.symm.trans named) different

theorem awake_drive (unique : s.Unique) (awake : s.Awake id) (other : SessionId) :
    (s.drive other [.resumed]).Awake id := by
  intro y member named
  rcases mem_resumed unique member with ⟨there, -⟩ | ⟨x, here, -, rfl⟩
  · exact awake y there named
  · rw [(driven_same [.resumed] (s.live x)).1] at named
    have elsewhere := awake x here named
    rw [driven_elsewhere elsewhere]
    exact elsewhere

theorem awake_resume (ids : List SessionId) (unique : s.Unique) (awake : s.Awake id) :
    (s.resume ids).Awake id := by
  induction ids generalizing s with
  | nil => exact awake
  | cons first rest ih => exact ih (unique.drive first _) (awake_drive unique awake first)

theorem awake_of_named (ids : List SessionId) (unique : s.Unique) (ready : s.Ready id)
    (named : id ∈ ids) : (s.resume ids).Awake id := by
  induction ids generalizing s with
  | nil => cases named
  | cons first rest ih =>
      by_cases same : first = id
      · rw [← same] at ready ⊢
        exact awake_resume rest (unique.drive first _) (awake_resumed unique ready)
      · exact ih (unique.drive first _) (ready_resumed unique ready same)
          ((List.mem_cons.mp named).resolve_left fun here => same here.symm)

/-- Whoever waits to be resumed, and has an outcome to take, is resumed the next time that the
server is woken and goes on. -/
theorem awake_wake (unique : s.Unique) (ready : s.Ready id)
    (waits : id ∈ s.services.notices.waiting) (commands : List Command)
    (running : (s.wake commands).running = true) : (s.wake commands).Awake id := by
  obtain ⟨fewer, notices, same⟩ := s.obey_keeps commands
  unfold wake at running ⊢
  dsimp only at running ⊢
  split at running
  · rename_i going
    rw [if_pos going]
    refine awake_of_named _ (unique.fewer fewer) ?_ (notices ▸ waits)
    intro x member
    exact ready x (same going ▸ member)
  · rename_i stopped
    exact absurd running stopped

/-- A session that waits for this lookup is resumed, whatever happens meanwhile, once the worker has
told. -/
structure Attends (s : Server) (x : Session) (lookup : Lookup) : Prop where
  visible : lookup.hasEnded = true → lookup.outcome?.isSome = true
  due : lookup.hasEnded = true → lookup.answer ≠ .dies → x.id ∈ s.services.notices.waiting
  takes : lookup.outcome?.isSome = true →
    (s.live x).TakesOnce ((s.live x).handle .resumed) lookup ∧
      ((s.live x).handle .resumed).session.phase.resolves = false
  resumed : ∀ y ∈ (s.drive x.id [.resumed]).sessions, y.id = x.id →
    y = ((s.live x).handle .resumed).session
  woken : lookup.outcome?.isSome = true → x.id ∈ s.services.notices.waiting →
    ∀ commands, (s.wake commands).running = true → (s.wake commands).Awake x.id

theorem Alert.attends (alert : s.Alert []) (member : x ∈ s.sessions)
    (resolves : x.phase.resolves = true) :
    ∃ lookup, x.lookup = some lookup ∧ s.Attends x lookup := by
  have wakes := alert.wakes x member
  obtain ⟨lookup, asked, faithful, untaken, told⟩ := wakes resolves
  refine ⟨lookup, asked, lookup.isSome_outcome_of_ended, ?_, ?_, ?_, ?_⟩
  · exact fun ended lives => told (faithful.told_of_ended ended lives)
  · intro visible
    have once := Live.takesOnce_resumed (s := s.live x) wakes resolves asked visible
    exact ⟨once, (once.onwards [] fun _ => nofun).1⟩
  · intro y there same
    rcases mem_resumed alert.unique there with ⟨-, other⟩ | ⟨z, here, named, rfl⟩
    · exact absurd same other
    · rw [alert.unique.eq_of_id here member named, driven_resumed resolves]
  · intro visible waits
    refine awake_wake alert.unique (fun y there same _ => ?_) waits
    rw [alert.unique.eq_of_id there member same]
    exact ⟨lookup, asked, visible⟩

/-- Whatever becomes of a session meanwhile, its worker sends one word when it has ended with an
answer, and none before the outcome can be seen; and a session that still waits then is resumed by
that word, takes the outcome, and waits no more. -/
theorem no_wake_up_lost (services : Services) (heard : services.notices.heard = true) :
    (∀ id client address moves, (∀ move ∈ moves, move.isOngoing = true) → ∀ lookup,
      let s := (Live.accepted services id client address).run (.start :: moves)
      s.session.lookup = some lookup → s.TellsOnce services.notices.waiting lookup) ∧
    ∀ s, Reached services s → ∀ x ∈ s.sessions, x.phase.resolves = true →
      ∃ lookup, x.lookup = some lookup ∧ s.Attends x lookup :=
  ⟨fun id client address moves => Live.tellsOnce_run heard id client address moves,
    fun _ reached _ member => (reached.alert heard).attends member⟩

def answering (answer : Answer) : Services :=
  { Services.reaching .empty with resolve := fun _ _ => answer }

def nameLookedUp : List Happening :=
  let client := Token.ofSession ⟨7⟩ .client
  [.accepted [⟨7⟩] .fresh (.ofIp .localhost 5000),
    .around ⟨7⟩ (.far .client (.send [5, 1, 0])),
    .ready client ⟨true, false, false, false, false⟩,
    .ready client ⟨false, true, false, false, false⟩,
    .around ⟨7⟩ (.far .client (.send [5, 1, 0, 3, 4, 110, 97, 109, 101, 0, 80])),
    .ready client ⟨true, false, false, false, false⟩,
    .around ⟨7⟩ .finishLookup, .around ⟨7⟩ .tellLookup]

/-- A worker that has found an address has told its session, which is then woken. -/
theorem no_wake_up_lost_when_name_is_found :
    let services := answering (.addresses [.ofIp .localhost 80])
    let s := (Server.new services).run nameLookedUp
    services.notices.heard = true ∧ s.services.notices.waiting = [⟨7⟩] ∧
      ∃ x ∈ s.sessions, x.phase.resolves = true ∧
        ∃ lookup, x.lookup = some lookup ∧ lookup.hasEnded = true ∧ s.Attends x lookup := by
  intro services s
  have heard : services.notices.heard = true := rfl
  have waiting : s.services.notices.waiting = [⟨7⟩] := by decide +kernel
  have waits : ∃ x ∈ s.sessions, x.phase.resolves = true ∧
      x.lookup.any Lookup.hasEnded = true := by decide +kernel
  obtain ⟨x, member, resolves, ended⟩ := waits
  have reached : Reached services s := Reached.fresh.run nameLookedUp
  obtain ⟨lookup, asked, attends⟩ := (no_wake_up_lost services heard).2 s reached x member resolves
  rw [asked] at ended
  exact ⟨heard, waiting, x, member, resolves, lookup, asked, ended, attends⟩

/-- A worker that dies leaves its session waiting, with an outcome to take and nobody to say so. -/
theorem wake_up_lost_when_worker_dies :
    let services := answering .dies
    let s := (Server.new services).run nameLookedUp
    services.notices.heard = true ∧ Reached services s ∧
      ∃ x ∈ s.sessions, x.phase.resolves = true ∧ x.lookup.any Lookup.hasEnded = true ∧
        x.id ∉ s.services.notices.waiting := by
  intro services s
  exact ⟨rfl, Reached.fresh.run nameLookedUp, by decide +kernel⟩

end Server

end SocksProxy
