import SocksProxy.Proofs.Session.Order

/-!
What a session is registered for. Interest is changed apart from the phase, and often more than
once for one event; when the event is over, a session that goes on is registered for what it acts
on next, and for nothing else.
-/

namespace SocksProxy

open Net (SocketAddress)
open Wire (Refusal Request Status)

namespace Endpoint

/-- Registered for this, and for nothing else. -/
def Watches (wanted : Interest) (e : Endpoint) : Prop :=
  e.interest = wanted ∧ e.registered = !wanted.isEmpty

def SameWatch (e other : Endpoint) : Prop :=
  other.interest = e.interest ∧ other.registered = e.registered

theorem SameWatch.watches {wanted : Interest} {e other : Endpoint} (same : e.SameWatch other)
    (watches : e.Watches wanted) : other.Watches wanted :=
  ⟨same.1.trans watches.1, same.2.trans watches.2⟩

/-- What a socket may be found ready for. -/
def asked (e : Endpoint) : Interest := if e.registered then e.interest else .none

theorem Watches.asked {wanted : Interest} {e : Endpoint} (watches : e.Watches wanted) :
    e.asked = wanted := by
  obtain ⟨interest, registered⟩ := watches
  rw [Endpoint.asked, interest, registered]
  obtain ⟨read, write⟩ := wanted
  cases read <;> cases write <;> rfl

end Endpoint

/-- Whether an event is among those that this is asked for: of the client, of the destination, and
of a worker. -/
def Event.isAmong (client server : Interest) (worker : Bool) : Event → Bool
  | .readable .client => client.read
  | .writable .client => client.write
  | .readable .server => server.read
  | .writable .server => server.write
  | .resumed => worker

namespace Session

def hasTaken (s : Session) : Bool := s.lookup.all Lookup.taken

/-- What the socket of a side may be found ready for, if there is one. -/
def asked (s : Session) : Side → Interest
  | .client => s.client.asked
  | .server => s.server.elim .none Endpoint.asked

def asksFor (s : Session) (event : Event) : Bool :=
  event.isAmong (s.asked .client) (s.asked .server) (!s.hasTaken)

end Session

namespace Phase

def resolves : Phase → Bool
  | .resolving _ => true
  | _ => false

/-- What the sockets of a session are registered for in each phase. -/
def Watches (client : Endpoint) (server : Option Endpoint) : Phase → Prop
  | .greeting _ _ | .credentials _ | .request _ => client.Watches .readOnly
  | .selecting _ | .verdict _ => client.Watches .writeOnly
  | .resolving _ => client.Watches .none
  | .connecting _ _ _ => client.Watches .none ∧ ∀ e, server = some e → e.Watches .writeOnly
  | .replying _ _ => client.Watches .writeOnly ∧ ∀ e, server = some e → e.Watches .none
  | .relaying relay => client.Watches relay.contexts.client.interest ∧
      ∀ e, server = some e → e.Watches relay.contexts.server.interest
  | .failed _ | .done => True

theorem watches_of_reads {phase : Phase} {client : Endpoint} {server : Option Endpoint}
    (reads : phase.reads = true) :
    phase.Watches client server ↔ client.Watches .readOnly := by
  cases phase <;> first | exact Iff.rfl | cases reads

theorem watches_of_same {phase : Phase} {client other : Endpoint} {server present : Option Endpoint}
    (same : client.SameWatch other)
    (kept : ∀ e, present = some e → ∃ before, server = some before ∧ before.SameWatch e)
    (here : phase.Watches client server) : phase.Watches other present := by
  have server : ∀ {wanted : Interest}, (∀ e, server = some e → e.Watches wanted) →
      ∀ e, present = some e → e.Watches wanted := by
    intro wanted watches e now
    obtain ⟨before, serves, still⟩ := kept e now
    exact still.watches (watches before serves)
  cases phase with
  | failed cause => trivial
  | done => trivial
  | connecting request rest target => exact ⟨same.watches here.1, server here.2⟩
  | replying request status => exact ⟨same.watches here.1, server here.2⟩
  | relaying relay => exact ⟨same.watches here.1, server here.2⟩
  | _ => exact same.watches here

theorem resolves_of_reads {phase : Phase} (reads : phase.reads = true) :
    phase.resolves = false := by
  cases phase <;> first | rfl | cases reads

def isPlain (phase : Phase) : Bool := !phase.isFinished && !phase.resolves

theorem isPlain_of_reads {phase : Phase} (reads : phase.reads = true) : phase.isPlain = true := by
  cases phase <;> first | rfl | cases reads

theorem isPlain_of_writes {phase : Phase} (writes : phase.writes = true) :
    phase.isPlain = true := by
  cases phase <;> first | rfl | cases writes

/-- There is a session in this phase, with all that the phase needs, which the event changes. -/
def ActsOn (phase : Phase) (event : Event) : Prop :=
  ∃ s : Live, s.session.phase = phase ∧ phase.Provided s ∧ s.handle event ≠ s

/-- A session in this phase whose client is lost, whose lookup and attempt are over, and whose
destination, if there is one, cannot be given up. -/
def lost (server : Bool) (outbound : Buffer) (phase : Phase) : Live :=
  let address := SocketAddress.ofIp .localhost 80
  let socket := { Socket.fresh with tail := .reset, space := some 0, broken := true }
  let first := Live.accepted (Services.reaching .empty) ⟨0⟩ socket address
  let present : Endpoint := ⟨socket, address, 0, .none, true, ⟨[], [], [some .notPermitted]⟩⟩
  { first with session := { first.session with
      phase := phase
      server := if server then some present else none
      buffers := ⟨Buffer.new 1, outbound⟩
      lookup := some ⟨"", 80, .failed, .told, false⟩
      attempt := some ⟨address, .connected address, true⟩ } }

theorem server_lost (server : Bool) (outbound : Buffer) (phase : Phase) :
    (phase.lost server outbound).session.server.isSome = server := by
  cases server <;> rfl

section ActsOn

variable {phase : Phase} {event : Event}

theorem actsOn_of_lost (server : Bool) (outbound : Buffer)
    (provided : phase.Provided (phase.lost server outbound))
    (leaves : ((phase.lost server outbound).handle event).session.phase ≠ phase) :
    phase.ActsOn event :=
  ⟨_, rfl, provided, fun same => leaves (congrArg (·.session.phase) same)⟩

theorem heeds_of_actsOn (acts : phase.ActsOn event) : phase.heeds event = true := by
  obtain ⟨s, rfl, -, changed⟩ := acts
  cases heeds : s.session.phase.heeds event with
  | true => rfl
  | false => exact absurd (Live.handle_deaf heeds) changed

/-- Up to the relay, what a phase is said to act on are the events that make a difference in it. -/
theorem actsOn_iff (unrelayed : ∀ relay, phase ≠ .relaying relay) :
    phase.ActsOn event ↔ phase.heeds event = true := by
  refine ⟨heeds_of_actsOn, fun heeds => ?_⟩
  let staged := (Buffer.new 1).put [0]
  cases phase <;> rcases event with (_ | _) | (_ | _) | _ <;> cases heeds
  case greeting | credentials | request =>
    exact actsOn_of_lost false (.new 1) ⟨⟨rfl, rfl⟩, ⟨rfl, rfl⟩, rfl⟩ Phase.noConfusion
  case selecting | verdict => exact actsOn_of_lost false staged rfl Phase.noConfusion
  case resolving request =>
    refine actsOn_of_lost false (.new 1) ⟨⟨rfl, rfl⟩, rfl⟩ fun same => ?_
    -- Nothing was found, which the client is told.
    let s := (resolving request).lost false (.new 1)
    have later : 6 ≤ (s.handle .resumed).session.phase.rank :=
      (Live.onward_refuse request .hostUnreachable _).rank (by decide)
    rw [same] at later
    exact absurd later (by decide : ¬ 6 ≤ 5)
  case connecting => exact actsOn_of_lost true (.new 1) ⟨⟨rfl, rfl⟩, rfl⟩ Phase.noConfusion
  case replying request status =>
    exact actsOn_of_lost status.isSuccess staged (server_lost _ _ _) Phase.noConfusion
  all_goals exact absurd rfl (unrelayed _)

end ActsOn

end Phase

namespace Live

/-- The sockets are registered as the phase needs it, and until it is over only a session that waits
for the outcome of a lookup has one to take. -/
structure Watchful (s : Live) : Prop where
  watches : s.session.phase.Watches s.session.client s.session.server
  taken : s.session.isFinished = false → s.session.hasTaken = !s.session.phase.resolves

/-- Nothing has changed about what the sockets are registered for, nor about a lookup's outcome. -/
structure Unmoved (s after : Live) : Prop where
  phase : after.session.phase = s.session.phase
  client : s.session.client.SameWatch after.session.client
  server : ∀ e, after.session.server = some e →
    ∃ before, s.session.server = some before ∧ before.SameWatch e
  taken : after.session.hasTaken = s.session.hasTaken

structure Unbound (s : Live) : Prop where
  roomy : s.Roomy
  absent : s.session.server = none
  taken : s.session.hasTaken = true

variable {request : Request} {s x after : Live}

theorem Unmoved.watchful (unmoved : s.Unmoved after) (watchful : s.Watchful) :
    after.Watchful := by
  refine ⟨?_, ?_⟩
  · rw [unmoved.phase]
    exact Phase.watches_of_same unmoved.client unmoved.server watchful.watches
  · rw [unmoved.taken, Session.isFinished, unmoved.phase]
    exact watchful.taken

theorem unmoved_of_same (phase : after.session.phase = s.session.phase)
    (client : s.session.client.SameWatch after.session.client)
    (server : after.session.server = s.session.server)
    (taken : after.session.hasTaken = s.session.hasTaken) : s.Unmoved after :=
  ⟨phase, client, fun e present => ⟨e, server ▸ present, rfl, rfl⟩, taken⟩

theorem watches_watching (wanted : Interest) (s : Live) :
    (s.watching wanted).session.client.Watches wanted := ⟨rfl, rfl⟩

theorem Unbound.framed (unbound : s.Unbound) (framed : s.Framed after)
    (idle : after.outbound.held = s.outbound.held)
    (server : after.session.server = s.session.server)
    (lookup : after.session.lookup = s.session.lookup) : after.Unbound :=
  ⟨framed.roomy unbound.roomy idle, server.trans unbound.absent,
    (congrArg (Option.all Lookup.taken) lookup).trans unbound.taken⟩

theorem Unbound.note (unbound : s.Unbound) (entry : Entry) : (s.note entry).Unbound :=
  unbound.framed (s.framed_note entry) rfl rfl rfl

theorem watchful_over (ended : s.session.isFinished = true) : s.Watchful := by
  constructor
  · unfold Session.isFinished at ended
    cases here : s.session.phase <;> rw [here] at ended <;> trivial
  · rw [ended]
    rintro ⟨⟩

theorem watchful_await {wanted : Interest} {next : Live → Live}
    (ready : ∀ client : Endpoint, client.Watches wanted → (next (s.withClient client)).Watchful) :
    (s.await wanted next).Watchful :=
  await_cases (fun client registered => ready client (Endpoint.setInterest_granted registered))
    fun _ _ _ => watchful_over rfl

theorem watchful_staged {message : Message} {next : Live → Live} (roomy : s.Roomy)
    (ready : ∀ client : Endpoint, client.Watches .writeOnly →
      (next ((s.staged message (s.outbound.put message.encode)).withClient client)).Watchful) :
    (s.say message next).Watchful := by
  rw [say, roomy.write message]
  exact watchful_await ready

theorem watchful_say {message : Message} {phase : Phase} (unbound : s.Unbound)
    (waits : ∀ client : Endpoint, client.Watches .writeOnly → phase.Watches client none)
    (settles : phase.resolves = false) : (s.say message (enter phase)).Watchful := by
  apply watchful_staged unbound.roomy
  intro client watched
  refine ⟨?_, fun _ => unbound.taken.trans (congrArg not settles).symm⟩
  have watches := waits client watched
  rw [← unbound.absent] at watches
  exact watches

theorem watchful_refuse (unbound : s.Unbound) (why : Refusal) :
    (s.refuse request why).Watchful :=
  watchful_say unbound (fun _ watches => ⟨watches, fun e absent => by cases absent⟩) rfl

theorem watchful_unreachable (unbound : s.Unbound) (last : Refusal) :
    (s.unreachable request last).Watchful := by
  unfold unreachable
  split
  · exact watchful_refuse unbound last
  · exact watchful_refuse (unbound.note _) _

theorem watchful_dial (unbound : s.Unbound) (rest : List SocketAddress) (target : SocketAddress)
    (outcome : Outcome) : (s.dial request rest target outcome).Watchful := by
  unfold dial
  dsimp only
  split <;> rename_i asked
  · exact watchful_over rfl
  · refine watchful_await (s := s.dialling _ _) fun client watches => ?_
    refine ⟨⟨watches, ?_⟩, fun _ => unbound.taken⟩
    intro e present
    cases present
    exact Endpoint.setInterest_granted asked

theorem watchful_connect (targets : List SocketAddress) (last : Refusal) (unbound : s.Unbound) :
    (s.connect request targets last).Watchful := by
  induction targets generalizing s last with
  | nil => exact watchful_unreachable unbound last
  | cons target rest ih =>
      have still : (s.attempting target).Unbound :=
        unbound.framed (s.framed_attempting target) rfl rfl rfl
      unfold Live.connect
      split
      · exact ih _ still
      · exact watchful_dial still rest target _

theorem watchful_lookUp (unbound : s.Unbound) : (s.lookUp request).Watchful := by
  unfold lookUp
  split
  · exact watchful_refuse (unbound.note _) _
  · exact watchful_await fun client watches => ⟨watches, fun _ => rfl⟩

theorem watchful_serve (request : Request) (unbound : s.Unbound) :
    (s.serve request).Watchful := by
  unfold serve
  split
  · split
    · exact watchful_connect _ _ unbound
    · exact watchful_lookUp unbound
  · exact watchful_refuse (unbound.note _) _

theorem watchful_resolved (watchful : s.Watchful) (roomy : s.Roomy)
    (absent : s.session.server = none) : (s.resolved request).Watchful := by
  unfold resolved
  split
  · exact watchful
  · rename_i lookup present
    split
    · exact watchful
    · rename_i found taken took
      have done : taken.taken = true := by
        unfold Lookup.take at took
        split at took <;> cases took
        rfl
      have unbound : (s.withLookup taken).Unbound :=
        ⟨(s.framed_withLookup taken).roomy roomy rfl, absent, done⟩
      split
      · exact watchful_refuse (unbound.note _) _
      · exact watchful_connect _ _ unbound

theorem watchful_connected {server : Endpoint} (roomy : s.Roomy)
    (taken : s.session.hasTaken = true) (bound : SocketAddress) :
    (s.connected request server bound).Watchful := by
  unfold connected
  split <;> rename_i asked
  · exact watchful_over rfl
  · refine watchful_staged (s := s.withServer (some _)) ⟨roomy.idle, roomy.room⟩
      fun client watches => ?_
    refine ⟨⟨watches, ?_⟩, fun _ => taken⟩
    intro e present
    cases present
    exact Endpoint.setInterest_granted asked

theorem watchful_settled (watchful : s.Watchful) (roomy : s.Roomy)
    (taken : s.session.hasTaken = true) (rest : Candidates) :
    (s.settled request rest).Watchful := by
  unfold settled
  split
  · exact watchful_over rfl
  · exact watchful
  · rename_i server attempt serves trying
    split
    · split
      · exact watchful_connected roomy taken _
      · exact watchful_connect _ _ ⟨s.framed_abandonServer.roomy roomy rfl, rfl, taken⟩
    · exact watchful

theorem watchful_check (unbound : s.Unbound) (credentials : Wire.Credentials) :
    (s.check credentials).Watchful := by
  have checked : ∀ question, (s.checking question).Unbound := fun question =>
    unbound.framed (s.framed_checking question) rfl rfl rfl
  unfold check
  dsimp only
  split
  · exact watchful_over rfl
  · exact watchful_say ((checked _).framed (framed_named _ _) rfl rfl rfl) (fun _ => id) rfl
  · exact watchful_say ((checked _).note _) (fun _ => id) rfl

theorem watchful_relay {relay : Relay} {server : Endpoint} {move : Relay.Move}
    (taken : s.session.hasTaken = true) (serves : s.session.server = some server)
    (registered : ((s.scene relay server).move move).2 = none →
      ((s.scene relay server).move move).1.Registered) :
    (s.relay relay (Relay.Scene.move move)).Watchful := by
  rw [Live.relay, serves]
  dsimp only
  split
  · exact watchful_over rfl
  · rename_i granted
    by_cases finished : ((s.scene relay server).move move).1.relay.isDone = true
    · rw [if_pos finished]
      exact watchful_over rfl
    · rw [if_neg finished]
      refine ⟨⟨registered granted .client, ?_⟩, fun _ => taken⟩
      intro e present
      cases present
      exact registered granted .server

theorem watchful_replied (taken : s.session.hasTaken = true) (status : Status) :
    (s.replied request status).Watchful := by
  let noted := s.note (.access s.session.client.address s.session.user request.command
    request.destination status)
  unfold replied
  dsimp only
  split
  · change (noted.relay (Relay.new (s.snifferFor request)) (Relay.Scene.move .start)).Watchful
    cases serves : noted.session.server with
    | none =>
        rw [Live.relay, serves]
        exact watchful_over rfl
    | some server =>
        exact watchful_relay taken serves fun granted =>
          Relay.Scene.start_registered (.inl granted)
  · exact watchful_over rfl

theorem watchful_act (act : s.Act after) (roomy : s.Roomy)
    (reaches : s.Reaches s.session.phase) (taken : s.session.hasTaken = true) :
    after.Watchful := by
  -- What is done on a message that was heard, is done by a session that has turned to reading.
  have turned : ∀ {phase : Phase} {x : Live} {buffer : Buffer} {heard : Heard},
      s.Turns phase x → phase.hear x.inbound = some (heard, buffer) →
        (x.withInbound buffer).Unbound := by
    intro phase x buffer heard turns hears
    obtain ⟨framed, still, absent⟩ := framed_turns turns roomy reaches
    have lookup : x.session.lookup = s.session.lookup := by cases turns <;> rfl
    have unbound : x.Unbound :=
      ⟨still, absent, (congrArg (Option.all Lookup.taken) lookup).trans taken⟩
    exact unbound.framed (framed_hear hears) rfl rfl rfl
  cases act with
  | unregistered refused => exact watchful_over rfl
  | waits turns hears =>
      have unbound := turned turns hears
      obtain ⟨-, reads⟩ := hear_more hears
      refine watchful_await fun client watches => ?_
      refine ⟨(Phase.watches_of_reads reads).mpr watches, fun _ => unbound.taken.trans ?_⟩
      exact (congrArg not (Phase.resolves_of_reads reads)).symm
  | leaves hears empty finished => exact watchful_over rfl
  | mistakes turns hears => exact watchful_over rfl
  | selects turns hears => exact watchful_say (turned turns hears) (fun _ => id) rfl
  | verifies turns hears => exact watchful_check (turned turns hears) _
  | serves turns hears => exact watchful_serve _ (turned turns hears)
  | dismisses told sent other =>
      obtain ⟨entry, -, ending⟩ := selected_other other
      rw [ending]
      exact watchful_over rfl
  | rejects told sent => exact watchful_over rfl
  | replied told sent => exact watchful_replied taken _

theorem Watchful.hasTaken (watchful : s.Watchful) (plain : s.session.phase.isPlain = true) :
    s.session.hasTaken = true := by
  rw [Phase.isPlain, Bool.and_eq_true, Bool.not_eq_true', Bool.not_eq_true'] at plain
  rw [watchful.taken plain.1, plain.2]
  rfl

theorem registered_scene {relay : Relay} {server : Endpoint} (watchful : s.Watchful)
    (relaying : s.session.phase = .relaying relay) (serves : s.session.server = some server) :
    (s.scene relay server).Registered := by
  have watches := watchful.watches
  rw [relaying] at watches
  intro side
  cases side with
  | client => exact watches.1
  | server => exact watches.2 server serves

theorem watchful_relaying {relay : Relay} (watchful : s.Watchful)
    (relaying : s.session.phase = .relaying relay) (move : Relay.Move) :
    (s.relay relay (Relay.Scene.move move)).Watchful := by
  have taken := watchful.hasTaken (by rw [relaying]; rfl)
  cases serves : s.session.server with
  | none =>
      rw [Live.relay, serves]
      exact watchful_over rfl
  | some server =>
      exact watchful_relay taken serves fun granted =>
        Relay.Scene.move_registered (registered_scene watchful relaying serves) (.inl granted)

theorem watchful_handle (provided : s.session.phase.Provided s)
    (size : Settings.leastBuffer ≤ s.outbound.capacity) (watchful : s.Watchful) (event : Event) :
    (s.handle event).Watchful := by
  have handled := s.handled event
  generalize s.handle event = after at handled
  cases handled with
  | nothing deaf => exact watchful
  | heard reads sound act =>
      have roomy := roomy_took size (unused_of_reads provided reads).2
      have reaches : s.Reaches s.session.phase := reaches_of_provided provided (Or.inl reads)
      exact watchful_act act roomy reaches
        (watchful.hasTaken (Phase.isPlain_of_reads reads))
  | unheard reads broken => exact watchful_over rfl
  | sent writes drained act =>
      have roomy := roomy_gave size (outbound_of_drained drained)
      have reaches : s.Reaches s.session.phase := reaches_of_provided provided (Or.inr writes)
      exact watchful_act act roomy reaches
        (watchful.hasTaken (Phase.isPlain_of_writes writes))
  | halted writes blocked =>
      have unmoved : s.Unmoved s.gave := unmoved_of_same rfl ⟨rfl, rfl⟩ rfl rfl
      exact unmoved.watchful watchful
  | unsent writes broken => exact watchful_over rfl
  | resumed asked =>
      rw [asked] at provided
      exact watchful_resolved watchful ⟨(Buffer.unused_iff _).mp provided.1, size⟩ provided.2
  | decided trying =>
      rw [trying] at provided
      exact watchful_settled watchful ⟨(Buffer.unused_iff _).mp provided.1, size⟩
        (watchful.hasTaken (by rw [trying]; rfl)) _
  | readable relaying => exact watchful_relaying watchful relaying _
  | writable relaying => exact watchful_relaying watchful relaying _

theorem unmoved_tellLookup (s : Live) : s.Unmoved s.tellLookup := by
  unfold tellLookup
  split
  · exact unmoved_of_same rfl ⟨rfl, rfl⟩ rfl rfl
  · rename_i lookup present
    have kept : lookup.tell.2.taken = lookup.taken := by
      unfold Lookup.tell
      split <;> rfl
    refine unmoved_of_same rfl ⟨rfl, rfl⟩ rfl ?_
    rw [Session.hasTaken, Session.hasTaken, present]
    exact kept

theorem unmoved_finishLookup (s : Live) : s.Unmoved s.finishLookup := by
  refine unmoved_of_same rfl ⟨rfl, rfl⟩ rfl ?_
  change (s.session.lookup.map Lookup.finish).all Lookup.taken = s.session.lookup.all Lookup.taken
  cases s.session.lookup with
  | none => rfl
  | some lookup => exact lookup.taken_finish

theorem unmoved_farMove (s : Live) (move : FarMove) (side : Side) :
    s.Unmoved (s.farMove move side) := by
  unfold farMove
  split
  · exact unmoved_of_same rfl ⟨rfl, rfl⟩ rfl rfl
  · rename_i server serves trying
    refine ⟨rfl, ⟨rfl, rfl⟩, ?_, rfl⟩
    intro e present
    cases present
    exact ⟨server, serves, rfl, rfl⟩
  · exact unmoved_of_same rfl ⟨rfl, rfl⟩ rfl rfl

theorem unmoved_withUsers {α : Type} {changed : Except UserError α} {update : α → Services} :
    s.Unmoved (s.withUsers (changed.map update)) := by
  cases changed <;> exact unmoved_of_same rfl ⟨rfl, rfl⟩ rfl rfl

theorem unmoved_move {move : Move} (ongoing : move.isOngoing = true)
    (world : ∀ event, move ≠ .event event) : s.Unmoved (s.move move) := by
  cases move with
  | start => cases ongoing
  | close => cases ongoing
  | event event => exact absurd rfl (world event)
  | settle => exact unmoved_of_same rfl ⟨rfl, rfl⟩ rfl rfl
  | finishLookup => exact unmoved_finishLookup s
  | tellLookup => exact unmoved_tellLookup s
  | setSniffing on => exact unmoved_of_same rfl ⟨rfl, rfl⟩ rfl rfl
  | addUser user => exact unmoved_withUsers
  | removeUser name => exact unmoved_withUsers
  | changePassword name password => exact unmoved_withUsers
  | far side move => exact unmoved_farMove s move side

theorem watchful_move (provided : s.session.phase.Provided s)
    (size : Settings.leastBuffer ≤ s.outbound.capacity) (watchful : s.Watchful) {move : Move}
    (ongoing : move.isOngoing = true) : (s.move move).Watchful := by
  rcases move.event_or_world with ⟨event, rfl⟩ | world
  · exact watchful_handle provided size watchful event
  · exact (unmoved_move ongoing world).watchful watchful

theorem watchful_run {holds : Registry → Prop} (kept : Registry.Kept holds) {services : Services}
    (equipped : s.Equipped holds services) (watchful : s.Watchful) (moves : List Move)
    (ongoing : ∀ move ∈ moves, move.isOngoing = true) : (s.run moves).Watchful :=
  (run_ongoing (P := fun s => s.Equipped holds services ∧ s.Watchful)
    (fun _ _ more ⟨equipped, watchful⟩ => ⟨equipped.move kept more,
      watchful_move equipped.provided equipped.size watchful more⟩)
    moves ongoing ⟨equipped, watchful⟩).2

theorem watchful_start (services : Services) (id : SessionId) (client : Socket)
    (address : SocketAddress) : (accepted services id client address).start.Watchful := by
  unfold start
  dsimp only
  split <;> rename_i asked
  · exact ⟨Endpoint.setInterest_granted asked, fun _ => rfl⟩
  · exact watchful_over rfl

/-- What is staged for the client is what it has not got of the message that was said last. -/
def HoldsRest (client : Socket) (s : Live) : Prop :=
  ∃ before message sent, s.said = before ++ [message] ∧ s.session.phase.Tells message ∧
    message.encode = sent ++ s.outbound.held ∧ s.outbound.held ≠ [] ∧
    s.session.client.socket.delivered = client.delivered ++ before.flatMap Message.encode ++ sent

/-- A session that is not over waits for what it acts on. -/
structure WaitsRightly (client : Socket) (s : Live) : Prop where
  reads : s.session.phase.reads = true →
    s.session.client.Watches .readOnly ∧ s.inbound.Unused
  writes : s.session.phase.writes = true →
    s.session.client.Watches .writeOnly ∧ s.HoldsRest client
  resolves : ∀ request, s.session.phase = .resolving request →
    s.session.client.Watches .none ∧ s.session.server = none ∧
      ∃ lookup, s.session.lookup = some lookup ∧ lookup.taken = false
  connects : ∀ request rest target, s.session.phase = .connecting request rest target →
    s.session.client.Watches .none ∧
      ∃ server, s.session.server = some server ∧ server.Watches .writeOnly
  replies : ∀ request status, s.session.phase = .replying request status →
    ∀ server, s.session.server = some server → server.Watches .none
  relays : ∀ relay, s.session.phase = .relaying relay →
    ∃ server, s.session.server = some server ∧
      ∀ side, ((s.scene relay server).ends.get side).Watches (relay.contexts.get side).interest
  asks : s.session.isFinished = false → s.relays = false →
    ∀ event, s.session.asksFor event = true ↔ s.session.phase.ActsOn event

/-- What was written of a message, and what was not, make up the message. -/
theorem holdsRest_of_sending {first : Speech} {client : Socket} {message : Message}
    (delivered : first.delivered = client.delivered) (tells : s.session.phase.Tells message)
    (sending : s.speech.Sending first message) : s.HoldsRest client := by
  obtain ⟨⟨talk, -⟩, ⟨before, last⟩, ⟨sent, rest⟩, left⟩ := sending
  refine ⟨before, message, sent, last, tells, rest.symm, left, ?_⟩
  rw [last, List.flatMap_append, List.flatMap_singleton, ← rest, delivered] at talk
  apply (List.append_left_inj s.outbound.held).mp
  simp only [List.append_assoc]
  exact talk

theorem asked_client {wanted : Interest} (watches : s.session.client.Watches wanted) :
    s.session.asked .client = wanted := watches.asked

theorem asked_server_of_none (absent : s.session.server = none) :
    s.session.asked .server = .none := by
  rw [Session.asked, absent]
  rfl

theorem asked_server {wanted : Interest}
    (watches : ∀ server, s.session.server = some server → server.Watches wanted)
    (present : wanted = .none ∨ s.session.server.isSome = true) :
    s.session.asked .server = wanted := by
  cases serves : s.session.server with
  | none =>
      rcases present with rfl | present
      · exact asked_server_of_none serves
      · rw [serves] at present
        cases present
  | some server =>
      rw [Session.asked, serves]
      exact (watches server serves).asked

theorem Watchful.asks (watchful : s.Watchful) (provided : s.session.phase.Provided s)
    (unfinished : s.session.isFinished = false) (unrelayed : s.relays = false) (event : Event) :
    s.session.asksFor event = true ↔ s.session.phase.ActsOn event := by
  have watches := watchful.watches
  have unrelayed : ∀ relay, s.session.phase ≠ .relaying relay := by
    intro relay relaying
    simp [relays, relaying] at unrelayed
  rw [Phase.actsOn_iff unrelayed, Bool.coe_iff_coe]
  rw [Session.asksFor, watchful.taken unfinished, Bool.not_not]
  cases here : s.session.phase <;> rw [here] at watches provided
  case greeting | credentials | request =>
    rw [asked_client watches, asked_server_of_none provided.2.2]
    rcases event with (_ | _) | (_ | _) | _ <;> rfl
  case selecting | verdict =>
    rw [asked_client watches, asked_server_of_none provided]
    rcases event with (_ | _) | (_ | _) | _ <;> rfl
  case resolving =>
    rw [asked_client watches, asked_server_of_none provided.2]
    rcases event with (_ | _) | (_ | _) | _ <;> rfl
  case connecting =>
    rw [asked_client watches.1, asked_server watches.2 (Or.inr provided.2)]
    rcases event with (_ | _) | (_ | _) | _ <;> rfl
  case replying =>
    rw [asked_client watches.1, asked_server watches.2 (Or.inl rfl)]
    rcases event with (_ | _) | (_ | _) | _ <;> rfl
  case relaying => exact absurd here (unrelayed _)
  case failed | done => simp [Session.isFinished, here, Phase.isFinished] at unfinished

theorem Watchful.waitsRightly {first : Speech} {client : Socket} (watchful : s.Watchful)
    (provided : s.session.phase.Provided s) (spoken : s.Spoken first)
    (delivered : first.delivered = client.delivered) : s.WaitsRightly client := by
  have watches := watchful.watches
  refine ⟨?_, ?_, ?_, ?_, ?_, ?_, watchful.asks provided⟩
  · intro reads
    exact ⟨(Phase.watches_of_reads reads).mp watches, (unused_of_reads provided reads).1⟩
  · intro writes
    obtain ⟨message, tells, sending⟩ := Phase.sending_of_writes writes spoken.converses
    refine ⟨?_, holdsRest_of_sending delivered tells sending⟩
    cases here : s.session.phase <;> rw [here] at writes watches <;>
      first | exact watches | exact watches.1 | cases writes
  · intro request asked
    have taken := watchful.taken (by rw [Session.isFinished, asked]; rfl)
    rw [asked] at watches provided taken
    obtain ⟨lookup, present⟩ : ∃ lookup, s.session.lookup = some lookup := by
      apply Option.ne_none_iff_exists'.mp
      intro absent
      rw [Session.hasTaken, absent] at taken
      cases taken
    rw [Session.hasTaken, present] at taken
    exact ⟨watches, provided.2, lookup, present, taken⟩
  · intro request rest target trying
    rw [trying] at watches provided
    obtain ⟨server, serves⟩ := Option.isSome_iff_exists.mp provided.2
    exact ⟨watches.1, server, serves, watches.2 server serves⟩
  · intro request status replying
    rw [replying] at watches
    exact watches.2
  · intro relay relaying
    rw [relaying] at provided
    obtain ⟨server, serves⟩ := Option.isSome_iff_exists.mp provided
    exact ⟨server, serves, registered_scene watchful relaying serves⟩

/-- At any time of a run a session that is not over waits for the right thing: its sockets are
registered for the event that its phase acts on, and what that event needs is there. -/
theorem session_waits_rightly (services : Services) (id : SessionId) (client : Socket)
    (address : SocketAddress) (moves : List Move)
    (size : Settings.leastBuffer ≤ services.bufferSize)
    (ongoing : ∀ move ∈ moves, move.isOngoing = true) :
    ((accepted services id client address).run (.start :: moves)).WaitsRightly client := by
  let first := accepted services id client address
  -- Whatever the registry answers, what it has refused ends the session.
  have kept : Registry.Kept fun _ => True := fun _ _ _ => trivial
  have begun : first.start.Equipped (fun _ => True) services :=
    equipped_start kept services id client address trivial (fun _ => trivial) size
  have equipped : (first.start.run moves).Equipped (fun _ => True) services :=
    begun.run kept moves ongoing
  have watchful : (first.start.run moves).Watchful :=
    watchful_run kept begun (watchful_start services id client address) moves ongoing
  have spoken : (first.start.run moves).Spoken first.speech :=
    spoken_run moves ongoing (spoken_start services id client address)
  exact watchful.waitsRightly equipped.provided spoken rfl

/-- A client that has got three octets of a reply is waited for until it takes the rest. -/
theorem session_waits_rightly_while_reply_waits :
    let services : Services := { Services.reaching .empty with bufferSize := 262 }
    let moves : List Move :=
      [.far .client (.send [5, 1, 0, 5, 1, 0, 1, 127, 0, 0, 1, 0, 80]), .event (.readable .client),
        .event (.writable .client), .settle, .far .client (.limit 3), .event (.writable .server),
        .event (.writable .client)]
    let s := (accepted services ⟨0⟩ .fresh (.ofIp .localhost 5000)).run (.start :: moves)
    Settings.leastBuffer ≤ services.bufferSize ∧ (∀ move ∈ moves, move.isOngoing = true) ∧
      s.outbound.held = [1, 127, 0, 0, 1, 0, 80] ∧ s.session.phase.writes = true ∧
      s.WaitsRightly .fresh := by
  intro services moves s
  have size : Settings.leastBuffer ≤ services.bufferSize := by decide
  have ongoing : ∀ move ∈ moves, move.isOngoing = true := by decide +kernel
  have held : s.outbound.held = [1, 127, 0, 0, 1, 0, 80] := by decide +kernel
  have writes : s.session.phase.writes = true := by decide +kernel
  exact ⟨size, ongoing, held, writes, session_waits_rightly services ⟨0⟩ .fresh
    (.ofIp .localhost 5000) moves size ongoing⟩

end Live

end SocksProxy
