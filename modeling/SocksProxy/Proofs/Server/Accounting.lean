import SocksProxy.Proofs.Server.Wakeups
import SocksProxy.Proofs.Session.Accounting

/-!
Whom a server has taken on, whom it still serves and whom it has let go. A session is in the table
from when its client is accepted until it has come to its end or the server stops; then it is
closed, and counted as closed, and never seen again.
-/

namespace SocksProxy

/-- Nothing is held for a session any more: no destination, and no interest in its client. -/
def Session.Released (x : Session) : Prop := x.server = none ∧ x.client.registered = false

namespace Server

open Net (SocketAddress)

def connections (s : Server) : UInt64 × UInt64 := s.services.connections

/-- Whoever has been accepted is at work or has left, once, and the counters say how many there are
and how many there have been. -/
structure Balanced (accepted : List SessionId) (s : Server) : Prop where
  unique : s.Unique
  once : ((s.closed ++ s.sessions).map Session.id).Perm accepted
  released : ∀ x ∈ s.closed, x.Released
  counts : s.connections = (UInt64.ofNat s.sessions.length, UInt64.ofNat accepted.length)

/-- Nobody in the table has come to an end. -/
def Lively (s : Server) : Prop := ∀ x ∈ s.sessions, x.isFinished = false

variable {accepted : List SessionId} {id : SessionId} {x : Session} {sessions : List Session}
  {moved : Live} {s after : Server}

theorem length_replace (session : Session) (sessions : List Session) :
    (replace session sessions).length = sessions.length := by
  have same := congrArg List.length (ids_replace session sessions)
  simpa using same

theorem without_head (unique : ((x :: sessions).map Session.id).Nodup) :
    without x.id (x :: sessions) = sessions := by
  have alone := (List.nodup_cons.mp unique).1
  rw [without, List.filter_cons_of_neg (by simp), List.filter_eq_self]
  intro y there
  simpa using fun same : y.id = x.id => alone (same ▸ List.mem_map_of_mem there)

theorem perm_without (unique : (sessions.map Session.id).Nodup) (member : x ∈ sessions) :
    sessions.Perm (x :: without x.id sessions) := by
  induction sessions with
  | nil => cases member
  | cons first rest ih =>
      rcases List.mem_cons.mp member with rfl | later
      · rw [without_head unique]
      · obtain ⟨alone, unique⟩ := List.nodup_cons.mp unique
        have distinct : first.id ≠ x.id := fun same =>
          alone (same ▸ List.mem_map_of_mem later)
        have kept : without x.id (first :: rest) = first :: without x.id rest :=
          List.filter_cons_of_pos (by simpa using distinct)
        rw [kept]
        exact ((ih unique later).cons first).trans (List.Perm.swap x first _)

theorem Balanced.of_same (balanced : s.Balanced accepted) (sessions : after.sessions = s.sessions)
    (closed : after.closed = s.closed) (connections : after.connections = s.connections) :
    after.Balanced accepted := by
  obtain ⟨unique, once, released, counts⟩ := balanced
  refine ⟨?_, ?_, ?_, ?_⟩
  · rw [Unique, sessions]
    exact unique
  · rw [closed, sessions]
    exact once
  · rw [closed]
    exact released
  · rw [connections, sessions]
    exact counts

theorem Balanced.store (balanced : s.Balanced accepted)
    (connections : moved.services.connections = s.connections) :
    (s.store moved).Balanced accepted := by
  refine ⟨balanced.unique.store moved, ?_, balanced.released, ?_⟩
  · change ((s.closed ++ replace moved.session s.sessions).map Session.id).Perm accepted
    rw [List.map_append, ids_replace, ← List.map_append]
    exact balanced.once
  · change moved.services.connections =
      (UInt64.ofNat (replace moved.session s.sessions).length, _)
    rw [connections, length_replace]
    exact balanced.counts

theorem Balanced.retire (balanced : s.Balanced accepted) (member : x ∈ s.sessions) :
    (s.retire x).Balanced accepted := by
  have split := perm_without balanced.unique member
  have closed : (s.retire x).closed = ((s.live x).close).session :: s.closed := rfl
  have sessions : (s.retire x).sessions = without x.id s.sessions := rfl
  refine ⟨balanced.unique.fewer (without_sublist _ _), ?_, ?_, ?_⟩
  · refine List.Perm.trans ?_ balanced.once
    rw [closed, sessions]
    change (x.id :: (s.closed ++ without x.id s.sessions).map Session.id).Perm _
    have back : (x :: (s.closed ++ without x.id s.sessions)).Perm (s.closed ++ s.sessions) :=
      List.perm_middle.symm.trans (split.symm.append_left s.closed)
    exact back.map Session.id
  · intro y member
    rw [closed] at member
    rcases List.mem_cons.mp member with rfl | earlier
    · exact ⟨rfl, rfl⟩
    · exact balanced.released y earlier
  · have counts := balanced.counts
    have fewer : s.sessions.length = (without x.id s.sessions).length + 1 := split.length_eq
    rw [fewer, UInt64.ofNat_add] at counts
    rw [sessions]
    change (s.connections.1 - 1, s.connections.2) = _
    rw [counts]
    exact congrArg (·, UInt64.ofNat accepted.length) (UInt64.add_sub_cancel _ _)

theorem Balanced.reap (balanced : s.Balanced accepted) (id : SessionId) :
    (s.reap id).Balanced accepted := by
  unfold Server.reap
  rcases find?_cases id s with ⟨absent, -⟩ | ⟨x, member, rfl, found⟩
  · rw [absent]
    exact balanced
  · rw [found]
    dsimp only
    split
    · exact (balanced.retire member).of_same rfl rfl rfl
    · exact balanced

/-- Once the only session that may have come to its end is looked at, nobody has. -/
theorem lively_reap (unique : s.Unique)
    (others : ∀ x ∈ s.sessions, x.id ≠ id → x.isFinished = false) : (s.reap id).Lively := by
  unfold Server.reap
  rcases find?_cases id s with ⟨absent, nobody⟩ | ⟨x, member, rfl, found⟩
  · rw [absent]
    exact fun y there => others y there (nobody y there)
  · rw [found]
    dsimp only
    split
    · intro y there
      obtain ⟨before, distinct⟩ := List.mem_filter.mp there
      exact others y before (by simpa using distinct)
    · rename_i going
      intro y there
      by_cases same : y.id = x.id
      · rw [unique.eq_of_id there member same]
        simpa using going
      · exact others y there same

theorem driven_connections (events : List SocksProxy.Event) (s : Live) :
    (s.driven events).services.connections = s.services.connections :=
  Live.driven_keeps (P := fun x => x.services.connections = s.services.connections)
    (fun event x same => (x.connections_move (.event event)).trans same) events rfl

theorem Balanced.drive (balanced : s.Balanced accepted) (id : SessionId)
    (events : List SocksProxy.Event) : (s.drive id events).Balanced accepted := by
  rcases drive_cases id events s with ⟨idle, -⟩ | ⟨x, -, -, driven⟩
  · rw [idle]
    exact balanced
  · rw [driven]
    exact (balanced.store (driven_connections events (s.live x))).reap id

theorem lively_drive (unique : s.Unique) (lively : s.Lively) (id : SessionId)
    (events : List SocksProxy.Event) : (s.drive id events).Lively := by
  rcases drive_cases id events s with ⟨idle, -⟩ | ⟨x, -, rfl, driven⟩
  · rw [idle]
    exact lively
  · rw [driven]
    refine lively_reap (unique.store _) fun y member distinct => ?_
    have same := (driven_same events (s.live x)).1
    rcases mem_replace unique member with rfl | ⟨there, -⟩
    · exact absurd same distinct
    · exact lively y there

theorem Balanced.around (balanced : s.Balanced accepted) (id : SessionId) (move : Move) :
    (s.around id (Live.move move)).Balanced accepted := by
  rcases around_cases id (Live.move move) s with idle | ⟨x, -, -, moved⟩
  · rw [idle]
    exact balanced
  · rw [moved]
    exact balanced.store ((s.live x).connections_move move)

theorem lively_around (unique : s.Unique) (lively : s.Lively) (id : SessionId) {move : Move}
    (world : isAround move = true) : (s.around id (Live.move move)).Lively := by
  rcases around_cases id (Live.move move) s with idle | ⟨x, member, -, moved⟩
  · rw [idle]
    exact lively
  · rw [moved]
    obtain ⟨ongoing, apart⟩ := ongoing_of_isAround world
    intro y there
    rcases mem_replace unique there with rfl | ⟨before, -⟩
    · -- A session that something is done around stays in its phase.
      have phase := (Live.calm_move (s := s.live x) ongoing apart).phase
      exact (congrArg Phase.isFinished phase).trans (lively x member)
    · exact lively y before

theorem accounted_acceptAs (balanced : s.Balanced accepted) (lively : s.Lively)
    (fresh : ∀ x ∈ s.sessions, x.id ≠ id) (socket : Socket) (address : SocketAddress) :
    (s.acceptAs id socket address).Balanced (accepted ++ [id]) ∧
      (s.acceptAs id socket address).Lively := by
  let noted := (s.note (.accepted id address)).withStats Stats.opened
  let started := (Live.accepted noted.services id socket address).start
  have same : started.session.id = id :=
    (Live.of_calling (Live.start_of_new noted.services id socket address).1).1
  have counted : started.services.connections = (s.connections.1 + 1, s.connections.2 + 1) :=
    (Live.accepted noted.services id socket address).connections_move .start
  have stored : Balanced (accepted ++ [id])
      { noted with services := started.services, sessions := s.sessions ++ [started.session] } := by
    refine ⟨balanced.unique.append (same ▸ fresh), ?_, balanced.released, ?_⟩
    · change ((s.closed ++ (s.sessions ++ [started.session])).map Session.id).Perm _
      rw [← List.append_assoc, List.map_append, List.map_singleton, same]
      exact balanced.once.append_right [id]
    · change started.services.connections =
        (UInt64.ofNat (s.sessions ++ [started.session]).length, _)
      rw [counted, balanced.counts, List.length_append, List.length_append, UInt64.ofNat_add,
        UInt64.ofNat_add]
      rfl
  refine ⟨stored.reap id, lively_reap stored.unique fun y member distinct => ?_⟩
  rcases List.mem_append.mp member with there | new
  · exact lively y there
  · rw [List.mem_singleton.mp new] at distinct
    exact absurd same distinct

theorem shutdown_balanced (balanced : s.Balanced accepted) :
    s.shutdown.Balanced accepted ∧ s.shutdown.sessions = [] := by
  have leave : ∀ (leaving : List Session) (s : Server), s.Balanced accepted →
      s.sessions = leaving →
      (leaving.foldl (fun s x => s.retire x) s).Balanced accepted ∧
        (leaving.foldl (fun s x => s.retire x) s).sessions = [] := by
    intro leaving
    induction leaving with
    | nil => exact fun s balanced nobody => ⟨balanced, nobody⟩
    | cons x rest ih =>
        intro s balanced table
        have unique := balanced.unique
        rw [Unique, table] at unique
        refine ih (s.retire x) (balanced.retire (table ▸ List.mem_cons_self)) ?_
        change without x.id s.sessions = rest
        rw [table, without_head unique]
  obtain ⟨left, nobody⟩ := leave s.sessions s balanced rfl
  exact ⟨left.of_same rfl rfl rfl, nobody⟩

theorem obey_balanced (commands : List Command) (balanced : s.Balanced accepted) :
    (s.obey commands).Balanced accepted ∧
      (s.running = true → (s.obey commands).running = false → (s.obey commands).sessions = []) := by
  induction commands generalizing s with
  | nil =>
      refine ⟨balanced, fun running stopped => ?_⟩
      rw [Server.obey, running] at stopped
      cases stopped
  | cons command rest ih =>
      cases command with
      | setSniffing on => exact ih (balanced.of_same rfl rfl rfl)
      | terminate =>
          have noted : (s.note (.commanded .terminate)).Balanced accepted :=
            balanced.of_same rfl rfl rfl
          obtain ⟨left, nobody⟩ := shutdown_balanced noted
          exact ⟨left.of_same rfl rfl rfl, fun _ _ => nobody⟩

/-- The books of a server between two things that happen to it. -/
structure Accounted (accepted : List SessionId) (s : Server) : Prop extends
    Balanced accepted s where
  lively : s.Lively
  stopped : s.running = false → s.sessions = []

theorem running_drive (id : SessionId) (events : List SocksProxy.Event) (s : Server) :
    (s.drive id events).running = s.running := by
  rcases drive_cases id events s with ⟨idle, -⟩ | ⟨x, -, -, driven⟩
  · rw [idle]
  · rw [driven, running_reap]
    rfl

theorem Accounted.going (balanced : s.Balanced accepted) (lively : s.Lively)
    (running : s.running = true) : s.Accounted accepted :=
  { balanced with
    lively
    stopped := fun stopped => by
      rw [running] at stopped
      cases stopped }

theorem Accounted.drive (accounted : s.Accounted accepted) (running : s.running = true)
    (id : SessionId) (events : List SocksProxy.Event) :
    (s.drive id events).Accounted accepted :=
  .going (accounted.toBalanced.drive id events) (lively_drive accounted.unique accounted.lively id
    events) ((running_drive id events s).trans running)

theorem Accounted.resume (ids : List SessionId) (accounted : s.Accounted accepted)
    (running : s.running = true) : (s.resume ids).Accounted accepted := by
  induction ids generalizing s with
  | nil => exact accounted
  | cons id rest ih =>
      exact ih (accounted.drive running id _) ((running_drive id _ s).trans running)

theorem Accounted.wake (commands : List Command) (accounted : s.Accounted accepted)
    (running : s.running = true) : (s.wake commands).Accounted accepted := by
  obtain ⟨balanced, stopped⟩ := obey_balanced commands accounted.toBalanced
  obtain ⟨-, -, same⟩ := s.obey_keeps commands
  unfold Server.wake
  dsimp only
  split
  · rename_i goes
    refine Accounted.resume _ (Accounted.going (balanced.of_same rfl rfl rfl) ?_ goes) goes
    intro x member
    exact accounted.lively x (same goes ▸ member)
  · rename_i stops
    have nobody := stopped running (Bool.eq_false_iff.mpr stops)
    refine { balanced with lively := ?_, stopped := fun _ => nobody }
    intro x member
    rw [nobody] at member
    cases member

theorem Accounted.readiness (accounted : s.Accounted accepted) (running : s.running = true)
    (token : Token) (ready : Readiness) : (s.readiness token ready).Accounted accepted := by
  unfold Server.readiness
  split
  · exact .going (accounted.toBalanced.of_same rfl rfl rfl) accounted.lively running
  · exact accounted.drive running _ _

theorem Accounted.notify (accounted : s.Accounted accepted) (id : SessionId) :
    Accounted accepted { s with services := s.services.notify id } := by
  have counted : (s.services.notify id).connections = s.services.connections := by
    unfold Services.notify
    split <;> rfl
  have balanced : Balanced accepted { s with services := s.services.notify id } :=
    accounted.toBalanced.of_same rfl rfl counted
  exact { balanced with lively := accounted.lively, stopped := accounted.stopped }

theorem Accounted.around (accounted : s.Accounted accepted) (id : SessionId) {move : Move}
    (world : isAround move = true) : (s.around id (Live.move move)).Accounted accepted := by
  refine { accounted.toBalanced.around id move with
    lively := lively_around accounted.unique accounted.lively id world
    stopped := ?_ }
  rcases around_cases id (Live.move move) s with idle | ⟨x, member, -, moved⟩
  · rw [idle]
    exact accounted.stopped
  · rw [moved]
    intro stopped
    -- The table of a server that has stopped is empty, so there was nobody to move.
    rw [accounted.stopped stopped] at member
    cases member

def takesOn? : Happening → Server → Option SessionId
  | .accepted drawn _ _, s => if s.running then s.freshId? drawn else none
  | _, _ => none

theorem Accounted.accept (accounted : s.Accounted accepted) (running : s.running = true)
    (drawn : List SessionId) (socket : Socket) (address : SocketAddress) :
    (s.accept drawn socket address).Accounted (accepted ++ (s.freshId? drawn).toList) := by
  unfold Server.accept
  cases found : s.freshId? drawn with
  | none =>
      rw [Option.toList_none, List.append_nil]
      exact accounted
  | some id =>
      obtain ⟨balanced, lively⟩ := accounted_acceptAs accounted.toBalanced accounted.lively
        (fresh_of_freshId found) socket address
      exact .going balanced lively ((running_reap id _).trans running)

/-- One step: only accepting takes anybody on, and nothing loses anybody. -/
theorem Accounted.happen (accounted : s.Accounted accepted) (happening : Happening) :
    (s.happen happening).Accounted (accepted ++ (s.takesOn? happening).toList) := by
  have nobody : s.Accounted (accepted ++ []) := (List.append_nil accepted).symm ▸ accounted
  cases happening with
  | accepted drawn socket address =>
      unfold Server.happen takesOn?
      dsimp only
      split
      · exact accounted.accept ‹_› drawn socket address
      · exact nobody
  | ready token ready =>
      unfold Server.happen
      dsimp only
      split
      · exact nobody.readiness ‹_› token ready
      · exact nobody
  | woken commands =>
      unfold Server.happen
      dsimp only
      split
      · exact nobody.wake commands ‹_›
      · exact nobody
  | notified id => exact nobody.notify id
  | around id move =>
      unfold Server.happen
      dsimp only
      split
      · exact nobody.around id ‹_›
      · exact nobody

/-- The ids that clients are taken on with during a run, in this order. -/
def admitted : List Happening → Server → List SessionId
  | [], _ => []
  | happening :: rest, s => (s.takesOn? happening).toList ++ admitted rest (s.happen happening)

theorem Accounted.run (happenings : List Happening) (accounted : s.Accounted accepted) :
    (s.run happenings).Accounted (accepted ++ s.admitted happenings) := by
  induction happenings generalizing s accepted with
  | nil => exact (List.append_nil accepted).symm ▸ accounted
  | cons happening rest ih =>
      have later := ih (accounted.happen happening)
      rw [List.append_assoc] at later
      exact later

theorem accounted_new {services : Services} (fresh : services.connections = (0, 0)) :
    (new services).Accounted [] where
  unique := List.nodup_nil
  once := .nil
  released _ member := absurd member List.not_mem_nil
  counts := fresh
  lively _ member := absurd member List.not_mem_nil
  stopped _ := rfl

/-- What is missing from the table has been counted as closed. -/
theorem Balanced.departed (balanced : s.Balanced accepted) :
    s.connections.1 + UInt64.ofNat s.closed.length = s.connections.2 := by
  have all := balanced.once.length_eq
  rw [List.length_map, List.length_append] at all
  rw [balanced.counts, ← UInt64.ofNat_add, ← all, Nat.add_comm]

theorem connections_addUsers (users : List User) (services : Services) :
    (services.addUsers users).1.connections = services.connections := by
  induction users generalizing services with
  | nil => rfl
  | cons user rest ih =>
      unfold Services.addUsers
      split
      · rename_i grown added
        have same : grown.connections = services.connections := by
          unfold Services.addUser at added
          cases stored : services.users.add user with
          | error fault =>
              rw [stored] at added
              cases added
          | ok users =>
              rw [stored] at added
              cases added
              rfl
        exact (ih grown).trans same
      · rfl

theorem connections_servicesFor (settings : Settings) (resolve : String → UInt16 → Answer)
    (route : SocketAddress → Route) (registry : List SocketAddress → Registry) :
    (servicesFor settings resolve route registry).1.connections = (0, 0) :=
  connections_addUsers settings.users _

theorem new_of_settings {settings : Settings} {resolve : String → UInt16 → Answer}
    {route : SocketAddress → Route} {registry : List SocketAddress → Registry}
    {ports left : Net.Ports} {address : SocketAddress}
    (started : ofSettings settings resolve route registry ports = .ok (s, address, left)) :
    ∃ services, services.connections = (0, 0) ∧ s = .new services := by
  have counted := connections_servicesFor settings resolve route registry
  unfold ofSettings at started
  split at started
  · cases started
  · cases started
  · split at started
    · cases started
    · rename_i services ready
      cases started
      rw [ready] at counted
      exact ⟨services.note (configured settings), counted, rfl⟩

/-- Whatever happens to a server, its table holds the sessions that have not come to their end, each
under an id of its own; everybody else who was accepted has been closed once; and the counters say
so. A server that stops closes whoever is left. -/
theorem sessions_accounted_for :
    (∀ services happenings, services.connections = (0, 0) →
      let s := (Server.new services).run happenings
      let accepted := (Server.new services).admitted happenings
      s.Accounted accepted ∧ s.connections.1 + UInt64.ofNat s.closed.length = s.connections.2 ∧
        s.shutdown.Balanced accepted ∧ s.shutdown.sessions = [] ∧ s.shutdown.connections.1 = 0) ∧
      ∀ settings resolve route registry ports s address left,
        ofSettings settings resolve route registry ports = .ok (s, address, left) →
          ∃ services, services.connections = (0, 0) ∧ s = .new services := by
  constructor
  · intro services happenings fresh s accepted
    have accounted : s.Accounted accepted := (accounted_new fresh).run happenings
    obtain ⟨left, nobody⟩ := shutdown_balanced accounted.toBalanced
    have none := congrArg Prod.fst left.counts
    rw [nobody] at none
    exact ⟨accounted, accounted.departed, left, nobody, none⟩
  · intro settings resolve route registry ports s address left started
    exact new_of_settings started

/-- One client cannot be waited for, one makes a mistake, and two are still there when the server
stops, one of them under an id that was free again. Stale tokens and notices change nothing. -/
theorem sessions_accounted_for_after_stop :
    let services := Services.reaching .empty
    let address := SocketAddress.ofIp .localhost 5000
    let ready : Readiness := ⟨true, false, false, false, false⟩
    let happenings : List Happening :=
      [.accepted [⟨1⟩] { Socket.fresh with registry := ⟨[some .notPermitted], [], []⟩ } address,
        .accepted [⟨2⟩] .fresh address, .around ⟨2⟩ (.far .client (.send [4])),
        .ready (Token.ofSession ⟨2⟩ .client) ready, .accepted [⟨3⟩] .fresh address,
        .ready (Token.ofSession ⟨2⟩ .client) ready, .ready 1 ready, .notified ⟨1⟩, .woken [],
        .accepted [⟨3⟩, ⟨2⟩] .fresh address, .woken [.terminate], .ready 4 ready]
    let s := (Server.new services).run happenings
    services.connections = (0, 0) ∧
      (Server.new services).admitted happenings = [⟨1⟩, ⟨2⟩, ⟨3⟩, ⟨2⟩] ∧
      s.closed.map Session.id = [⟨2⟩, ⟨3⟩, ⟨2⟩, ⟨1⟩] ∧ s.connections = (0, 4) ∧
      s.Accounted [⟨1⟩, ⟨2⟩, ⟨3⟩, ⟨2⟩] := by
  intro services address ready happenings s
  have fresh : services.connections = (0, 0) := rfl
  have admitted : (Server.new services).admitted happenings = [⟨1⟩, ⟨2⟩, ⟨3⟩, ⟨2⟩] := by
    decide +kernel
  have accounted := (sessions_accounted_for.1 services happenings fresh).1
  rw [admitted] at accounted
  exact ⟨fresh, admitted, by decide +kernel, by decide +kernel, accounted⟩

end Server

end SocksProxy
