import SocksProxy.Proofs.Relay.Unsniffed
import SocksProxy.Proofs.Session.Course

/-!
A session with the sniffer forgotten. Every step of it comes to the same without the sniffer, so
sessions that differ in nothing but what is sniffed go on side by side for ever.
-/

namespace SocksProxy

open Net (SocketAddress)
open Wire (Method Refusal Request Status)

namespace Services

def unsniffed (s : Services) : Services := { s with monitor := s.monitor.unsniffed }

theorem unsniffed_note {entry : Entry} (other : entry.ofSniffer = false) (s : Services) :
    s.unsniffed.note entry = (s.note entry).unsniffed := by
  simp only [note, unsniffed, Monitor.unsniffed_note other]

theorem unsniffed_notify (id : SessionId) (s : Services) :
    s.unsniffed.notify id = (s.notify id).unsniffed := by
  have same : s.unsniffed.notices = s.notices := rfl
  unfold notify
  rw [same]
  split
  · rfl
  · exact unsniffed_note rfl s

theorem unsniffed_users {entry : Entry} (other : entry.ofSniffer = false) (s : Services)
    (changed : Except UserError UserStore) :
    (changed.map fun users => { s.unsniffed with users }.note entry) =
      (changed.map fun users => { s with users }.note entry).map unsniffed := by
  cases changed with
  | error fault => rfl
  | ok users => exact congrArg Except.ok (unsniffed_note other { s with users })

end Services

/-- A phase holds nothing of the sniffer, unless it is the relay's. -/
def Phase.unsniffed : Phase → Phase
  | .relaying relay => .relaying relay.unsniffed
  | phase => phase

def Move.isSwitch : Move → Bool
  | .setSniffing _ => true
  | _ => false

namespace Live

def unsniffed (s : Live) : Live :=
  { services := s.services.unsniffed
    session := { s.session with phase := s.session.phase.unsniffed } }

/-- A step comes to the same without the sniffer. -/
def Heedless (step : Live → Live) : Prop := ∀ s : Live, step s.unsniffed = (step s).unsniffed

variable {request : Request}

theorem heedless_enter (phase : Phase) (plain : phase.unsniffed = phase) :
    Heedless (enter phase) := by
  intro s
  simp only [enter, unsniffed, plain]

theorem heedless_fail (cause : SessionError) : Heedless (fail cause) := heedless_enter _ rfl

theorem heedless_note (entry : Entry) (other : entry.ofSniffer = false) : Heedless (note entry) := by
  intro s
  exact congrArg (fun services => { s.unsniffed with services }) (s.services.unsniffed_note other)

theorem heedless_await (wanted : Interest) {next : Live → Live} (heedless : Heedless next) :
    Heedless (await wanted next) := by
  intro s
  have same : s.unsniffed.session.client = s.session.client := rfl
  unfold await
  rw [same]
  split
  · rename_i client registered
    exact heedless (s.withClient client)
  · rename_i client cause refused
    exact heedless_fail (.io cause) (s.withClient client)

theorem heedless_receive {next : Bool → Live → Live} (heedless : ∀ closed, Heedless (next closed)) :
    Heedless (receive next) := by
  intro s
  have same : s.unsniffed.incoming = s.incoming := rfl
  unfold receive
  rw [same]
  split
  · exact heedless false s.took
  · exact heedless false s.took
  · exact heedless true s.took
  · exact heedless_fail _ s.took

theorem heedless_flush {next : Live → Live} (heedless : Heedless next) : Heedless (flush next) := by
  intro s
  have same : s.unsniffed.outgoing = s.outgoing := rfl
  unfold flush
  rw [same]
  split
  · exact heedless s.gave
  · rfl
  · exact heedless_fail _ s.gave

theorem heedless_say (message : Message) {next : Live → Live} (heedless : Heedless next) :
    Heedless (say message next) := by
  intro s
  have same : s.unsniffed.outbound = s.outbound := rfl
  unfold say
  rw [same]
  split
  · rename_i buffer written
    exact heedless_await .writeOnly heedless (s.staged message buffer)
  · exact heedless_fail _ s

theorem heedless_needMore (closed : Bool) (phase : Phase) (plain : phase.unsniffed = phase) :
    Heedless (needMore closed phase) := by
  intro s
  cases closed with
  | true => exact heedless_fail _ s
  | false => exact heedless_await .readOnly (heedless_enter phase plain) s

theorem heedless_refuse (why : Refusal) : Heedless (refuse request why) :=
  heedless_say _ (heedless_enter _ rfl)

theorem heedless_noted_refuse (entry : Entry) (other : entry.ofSniffer = false) (why : Refusal) :
    Heedless fun s => (s.note entry).refuse request why := by
  intro s
  dsimp only
  rw [heedless_note entry other]
  exact heedless_refuse why _

theorem heedless_unreachable (last : Refusal) : Heedless (unreachable request last) := by
  intro s
  unfold unreachable
  split
  · exact heedless_refuse last s
  · exact heedless_noted_refuse (.problem s.session.id _) rfl _ s

theorem heedless_dial (rest : List SocketAddress) (target : SocketAddress) (outcome : Outcome) :
    Heedless (dial request rest target outcome) := by
  intro s
  have token : s.unsniffed.session.id = s.session.id := rfl
  have stream : s.unsniffed.stream = s.stream := rfl
  unfold dial
  rw [token, stream]
  dsimp only
  split
  · exact heedless_fail _ s
  · exact heedless_await .none (heedless_enter _ rfl) (s.dialling _ _)

theorem heedless_connect (targets : List SocketAddress) (last : Refusal) :
    Heedless (Live.connect request targets last) := by
  induction targets generalizing last with
  | nil => exact heedless_unreachable last
  | cons target rest ih =>
      intro s
      have route : s.unsniffed.services.route = s.services.route := rfl
      have record : s.unsniffed.session.record = s.session.record := rfl
      unfold Live.connect
      rw [route, record]
      split
      · exact ih _ (s.attempting target)
      · exact heedless_dial rest target _ (s.attempting target)

theorem heedless_lookUp : Heedless (lookUp request) := by
  intro s
  have same : s.unsniffed.services.workerFault = s.services.workerFault := rfl
  unfold lookUp
  rw [same]
  split
  · exact heedless_noted_refuse (.notLookedUp s.session.id _) rfl _ s
  · exact heedless_await .none (heedless_enter _ rfl) (s.asking request.address.host request.port)

theorem heedless_serve (request : Request) : Heedless (serve request) := by
  intro s
  unfold serve
  split
  · split
    · exact heedless_connect _ _ s
    · exact heedless_lookUp s
  · exact heedless_noted_refuse (.problem s.session.id _) rfl _ s

theorem heedless_resolved (request : Request) : Heedless (resolved request) := by
  intro s
  have same : s.unsniffed.session.lookup = s.session.lookup := rfl
  unfold resolved
  rw [same]
  split
  · rfl
  · split
    · rfl
    · split
      · exact heedless_noted_refuse (.problem s.session.id _) rfl _ (s.withLookup _)
      · exact heedless_connect _ _ (s.withLookup _)

theorem heedless_connected (server : Endpoint) (bound : SocketAddress) :
    Heedless (connected request server bound) := by
  intro s
  unfold connected
  split
  · rename_i idle cause refused
    exact heedless_fail (.io cause) (s.withServer (some idle))
  · rename_i idle registered
    have replying : Heedless fun replied => { replied with session := { replied.session with
        attempt := none, phase := .replying request .success } } := fun _ => rfl
    exact heedless_say _ replying (s.withServer (some idle))

theorem heedless_settled (request : Request) (rest : Candidates) :
    Heedless (settled request rest) := by
  intro s
  have server : s.unsniffed.session.server = s.session.server := rfl
  have attempt : s.unsniffed.session.attempt = s.session.attempt := rfl
  unfold settled
  rw [server, attempt]
  split
  · exact heedless_fail _ s
  · rfl
  · split
    · split
      · exact heedless_connected _ _ s
      · exact heedless_connect _ _ s.abandonServer
    · rfl

theorem heedless_parse {σ α : Type} (d : Wire.Decoder σ α) (absent : String) {again : σ → Phase}
    {next : α → Live → Live} (idle : ∀ place, (again place).unsniffed = again place)
    (heedless : ∀ message, Heedless (next message)) (state : σ) (closed : Bool) :
    Heedless (parse d absent again next state closed) := by
  intro s
  have same : s.unsniffed.inbound = s.inbound := rfl
  let read := s.withInbound (d.runOn state s.inbound).2.2
  unfold parse
  rw [same]
  dsimp only
  split
  · split
    · exact heedless _ read
    · exact heedless_fail _ read
  · exact heedless_fail _ read
  · exact heedless_needMore closed (again _) (idle _) read

theorem heedless_readRequest (state : Wire.Request.State) (closed : Bool) :
    Heedless (readRequest state closed) :=
  heedless_parse _ _ (fun _ => rfl) heedless_serve state closed

theorem heedless_beginRequest : Heedless beginRequest :=
  heedless_await .readOnly (heedless_readRequest .version false)

theorem heedless_check (credentials : Wire.Credentials) : Heedless (check credentials) := by
  intro s
  have same : s.unsniffed.services.authenticate credentials =
      s.services.authenticate credentials := rfl
  unfold check
  rw [same]
  dsimp only
  split
  · exact heedless_fail _ (s.checking _)
  · exact heedless_say _ (heedless_enter _ rfl) ((s.checking _).named credentials.name)
  · rename_i refused
    have noted := heedless_note (.problem s.session.id .badCredentials) rfl
      (s.checking ⟨credentials, (s.services.authenticate credentials).toOption⟩)
    have said := heedless_say (.verdict false) (heedless_enter (.verdict false) rfl)
      ((s.checking ⟨credentials, (s.services.authenticate credentials).toOption⟩).note
        (.problem s.session.id .badCredentials))
    rw [← noted] at said
    exact said

theorem heedless_readCredentials (state : Wire.Credentials.State) (closed : Bool) :
    Heedless (readCredentials state closed) :=
  heedless_parse _ _ (fun _ => rfl) heedless_check state closed

theorem heedless_readGreeting (acceptable : List Method) (state : Wire.Greeting.State)
    (closed : Bool) : Heedless (readGreeting acceptable state closed) :=
  heedless_parse _ _ (fun _ => rfl)
    (fun method => heedless_say (.selection method) (heedless_enter (.selecting method) rfl))
    state closed

theorem heedless_dismissed (entry : Entry) (other : entry.ofSniffer = false) :
    Heedless fun s => (s.note entry).enter .done := by
  intro s
  dsimp only
  rw [heedless_note entry other]
  exact heedless_enter _ rfl _

theorem heedless_selected (method : Method) : Heedless (selected method) := by
  intro s
  cases method with
  | noAuth => exact heedless_beginRequest s
  | userPass => exact heedless_await .readOnly (heedless_readCredentials .version false) s
  | gssapi => exact heedless_dismissed (.gssapiRefused s.session.id) rfl s
  | _ => exact heedless_dismissed (.noMethod s.session.id) rfl s

theorem heedless_judged (accepted : Bool) : Heedless (judged accepted) := by
  intro s
  cases accepted with
  | true => exact heedless_beginRequest s
  | false => exact heedless_enter _ rfl s

theorem unsniffed_relay (relay : Relay) {step : Relay.Scene → Relay.Scene × Option Net.IoError}
    (heedless : Relay.Scene.Heedless step) (s : Live) :
    s.unsniffed.relay relay.unsniffed step = (s.relay relay step).unsniffed := by
  have same : s.unsniffed.session.server = s.session.server := rfl
  unfold Live.relay
  rw [same]
  split
  · exact heedless_fail _ s
  · rename_i server serves
    have scene : s.unsniffed.scene relay.unsniffed server = (s.scene relay server).unsniffed := rfl
    rw [scene, heedless]
    generalize step (s.scene relay server) = result
    have done : result.1.unsniffed.relay.isDone = result.1.relay.isDone := rfl
    dsimp only
    rw [done]
    split
    · rfl
    · split <;> rfl

theorem heedless_replied (status : Status) : Heedless (replied request status) := by
  intro s
  let entry : Entry := .access s.session.client.address s.session.user request.command
    request.destination status
  have none : s.unsniffed.snifferFor request = none := if_neg fun both => by cases both.2
  have noted : s.unsniffed.note entry = (s.note entry).unsniffed := heedless_note entry rfl s
  unfold replied
  dsimp only
  rw [none]
  split
  · have began := unsniffed_relay (Relay.new (s.snifferFor request)) Relay.Scene.heedless_start
      (s.note entry)
    rw [← noted] at began
    exact began
  · have ended := heedless_enter .done rfl (s.note entry)
    rw [← noted] at ended
    exact ended

theorem heedless_handle (event : Event) : Heedless (handle event) := by
  intro s
  have here : s.unsniffed.session.phase = s.session.phase.unsniffed := rfl
  unfold handle
  rw [here]
  cases event with
  | resumed =>
      cases s.session.phase with
      | resolving request => exact heedless_resolved request s
      | _ => rfl
  | readable side =>
      cases s.session.phase with
      | relaying relay => exact unsniffed_relay relay (Relay.Scene.heedless_onRead side) s
      | greeting acceptable state =>
          cases side with
          | client => exact heedless_receive (heedless_readGreeting acceptable state) s
          | server => rfl
      | credentials state =>
          cases side with
          | client => exact heedless_receive (heedless_readCredentials state) s
          | server => rfl
      | request state =>
          cases side with
          | client => exact heedless_receive (heedless_readRequest state) s
          | server => rfl
      | _ => rfl
  | writable side =>
      cases s.session.phase with
      | relaying relay => exact unsniffed_relay relay (Relay.Scene.heedless_onWrite side) s
      | selecting method =>
          cases side with
          | client => exact heedless_flush (heedless_selected method) s
          | server => rfl
      | verdict accepted =>
          cases side with
          | client => exact heedless_flush (heedless_judged accepted) s
          | server => rfl
      | replying request status =>
          cases side with
          | client => exact heedless_flush (heedless_replied status) s
          | server => rfl
      | connecting request rest target =>
          cases side with
          | client => rfl
          | server => exact heedless_settled request rest s
      | _ => rfl

theorem heedless_start : Heedless start := by
  intro s
  have same : s.unsniffed.forgetLookup.session.client = s.forgetLookup.session.client := rfl
  unfold start
  dsimp only
  rw [same]
  split
  · rfl
  · rename_i client cause refused
    let asked := s.forgetLookup.withClient client
    have noted := heedless_note (.notRegistered s.session.id cause) rfl asked
    have failed := heedless_fail (.io cause) (asked.note (.notRegistered s.session.id cause))
    rw [← noted] at failed
    exact failed

theorem heedless_farMove (move : FarMove) (side : Side) : Heedless (farMove move side) := by
  intro s
  have server : s.unsniffed.session.server = s.session.server := rfl
  have attempt : s.unsniffed.session.attempt = s.session.attempt := rfl
  unfold farMove
  rw [server, attempt]
  split <;> rfl

theorem heedless_tellLookup : Heedless tellLookup := by
  intro s
  have same : s.unsniffed.session.lookup = s.session.lookup := rfl
  unfold tellLookup
  rw [same]
  split
  · rfl
  · rename_i lookup present
    have notified : s.unsniffed.services.notify s.unsniffed.session.id =
        (s.services.notify s.session.id).unsniffed := s.services.unsniffed_notify s.session.id
    dsimp only
    rw [notified]
    split <;> rfl

theorem heedless_withUsers {changed : Services → Except UserError Services}
    (same : ∀ services, changed services.unsniffed = (changed services).map Services.unsniffed) :
    Heedless fun s => s.withUsers (changed s.services) := by
  intro s
  have users : changed s.unsniffed.services = (changed s.services).map Services.unsniffed :=
    same s.services
  dsimp only
  rw [users]
  cases changed s.services <;> rfl

theorem heedless_move {move : Move} (other : move.isSwitch = false) : Heedless (Live.move move) := by
  cases move with
  | start => exact heedless_start
  | event event => exact heedless_handle event
  | tellLookup => exact heedless_tellLookup
  | setSniffing on => cases other
  | addUser user =>
      exact heedless_withUsers fun services => services.unsniffed_users rfl (services.users.add user)
  | removeUser name =>
      exact heedless_withUsers fun services =>
        services.unsniffed_users rfl (services.users.remove name)
  | changePassword name password =>
      exact heedless_withUsers fun services =>
        services.unsniffed_users rfl (services.users.changePassword name password)
  | far side move => exact heedless_farMove move side
  | close => exact fun s => rfl
  | settle => exact fun s => rfl
  | finishLookup => exact fun s => rfl

theorem unsniffed_switch {move : Move} (switch : move.isSwitch = true) (s : Live) :
    (s.move move).unsniffed = s.unsniffed := by
  cases move with
  | setSniffing on =>
      exact congrArg (fun monitor => { s.unsniffed with
        services := { s.unsniffed.services with monitor } })
        (s.services.monitor.unsniffed_setSniffing on)
  | _ => cases switch

/-- A run comes to the same without the sniffer, and without the moves of its switch. -/
theorem unsniffed_run (moves : List Move) (s : Live) :
    (s.run moves).unsniffed = s.unsniffed.run (moves.filter fun move => !move.isSwitch) :=
  forget_foldl (fun s _ other => heedless_move other s) (fun s _ switch => unsniffed_switch switch s)
    moves s

end Live

/-- Two scenes with the same sockets, buffers and contexts, and the same journal but for what the
sniffer has written into it. -/
structure Relay.Scene.Matches (s t : Relay.Scene) : Prop where
  contexts : s.relay.contexts = t.relay.contexts
  ends : s.ends = t.ends
  buffers : s.buffers = t.buffers
  bytesTransferred : s.monitor.stats.bytesTransferred = t.monitor.stats.bytesTransferred
  journal : s.monitor.journal.filter (fun entry => !entry.ofSniffer) =
    t.monitor.journal.filter fun entry => !entry.ofSniffer

/-- Two sessions in the same phase with the same sockets and buffers, which have said, asked and
tried the same; their relays differ in the sniffer at most. -/
structure Live.Matches (s t : Live) : Prop where
  phase : s.session.phase.unsniffed = t.session.phase.unsniffed
  client : s.session.client = t.session.client
  server : s.session.server = t.session.server
  buffers : s.session.buffers = t.session.buffers
  user : s.session.user = t.session.user
  lookup : s.session.lookup = t.session.lookup
  attempt : s.session.attempt = t.session.attempt
  record : s.session.record = t.session.record
  bytesTransferred : s.services.monitor.stats.bytesTransferred =
    t.services.monitor.stats.bytesTransferred
  journal : s.services.monitor.journal.filter (fun entry => !entry.ofSniffer) =
    t.services.monitor.journal.filter fun entry => !entry.ofSniffer

theorem Relay.Scene.matches_of_unsniffed {s t : Relay.Scene} (same : s.unsniffed = t.unsniffed) :
    s.Matches t where
  contexts := congrArg (fun s => s.relay.contexts) same
  ends := congrArg (fun s => s.ends) same
  buffers := congrArg (fun s => s.buffers) same
  bytesTransferred := congrArg (fun s => s.monitor.stats.bytesTransferred) same
  journal := congrArg (fun s => s.monitor.journal) same

theorem Live.matches_of_unsniffed {s t : Live} (same : s.unsniffed = t.unsniffed) : s.Matches t where
  phase := congrArg (fun s => s.session.phase) same
  client := congrArg (fun s => s.session.client) same
  server := congrArg (fun s => s.session.server) same
  buffers := congrArg (fun s => s.session.buffers) same
  user := congrArg (fun s => s.session.user) same
  lookup := congrArg (fun s => s.session.lookup) same
  attempt := congrArg (fun s => s.session.attempt) same
  record := congrArg (fun s => s.session.record) same
  bytesTransferred := congrArg (fun s => s.services.monitor.stats.bytesTransferred) same
  journal := congrArg (fun s => s.services.monitor.journal) same

theorem Relay.Scene.refusal_of_unsniffed {s t : Relay.Scene} (same : s.unsniffed = t.unsniffed)
    (move : Relay.Move) : (s.move move).2 = (t.move move).2 := by
  cases kind : move.isSwitch with
  | true => cases move <;> first | rfl | cases kind
  | false =>
      have first := congrArg Prod.snd (Relay.Scene.heedless_move kind s)
      have second := congrArg Prod.snd (Relay.Scene.heedless_move kind t)
      rw [same] at first
      exact first.symm.trans second

/-- Relays that differ in their sniffers, and sessions that differ in whether logins are looked for
when they begin, match each other whenever that is switched on or off: at any time the same has been
read, written, shut down, tried, refused and counted, and the same is waited for. -/
theorem sniffer_changes_nothing :
    (∀ (scene : Relay.Scene) (sniffer : Option Pop3.Sniffer) (on : Bool)
        (moves others : List Relay.Move),
      (moves.filter fun move => !move.isSwitch) = (others.filter fun move => !move.isSwitch) →
      let other : Relay.Scene :=
        { scene with
          relay := { scene.relay with sniffer }
          monitor := { scene.monitor with sniffing := on } }
      (scene.run moves).Matches (other.run others) ∧
        ∀ next, ((scene.run moves).move next).2 = ((other.run others).move next).2) ∧
    ∀ (services : Services) (on : Bool) (id : SessionId) (client : Socket) (address : SocketAddress)
        (moves others : List Move),
      (moves.filter fun move => !move.isSwitch) = (others.filter fun move => !move.isSwitch) →
      let other : Services := { services with monitor := { services.monitor with sniffing := on } }
      ((Live.accepted services id client address).run moves).Matches
        ((Live.accepted other id client address).run others) := by
  constructor
  · intro scene sniffer on moves others schedule other
    have same : (scene.run moves).unsniffed = (other.run others).unsniffed := by
      rw [Relay.Scene.unsniffed_run, Relay.Scene.unsniffed_run, schedule]
      rfl
    exact ⟨Relay.Scene.matches_of_unsniffed same, Relay.Scene.refusal_of_unsniffed same⟩
  · intro services on id client address moves others schedule other
    apply Live.matches_of_unsniffed
    rw [Live.unsniffed_run, Live.unsniffed_run, schedule]
    rfl

/-- A mail login that is seen in one run of a session, and missed in the other. -/
theorem sniffer_changes_nothing_when_login_seen :
    let services : Services := .reaching .empty
    let script : List Move :=
      [.start, .far .client (.send [5, 1, 0, 5, 1, 0, 1, 127, 0, 0, 1, 0, 110]),
        .event (.readable .client), .event (.writable .client), .settle, .event (.writable .server),
        .event (.writable .client), .far .server (.send "+OK\r\n".toUTF8.toList),
        .event (.readable .server), .far .client (.send "USER a\r\nPASS b\r\n".toUTF8.toList),
        .event (.readable .client), .far .server (.send "+OK\r\n-ERR\r\n".toUTF8.toList),
        .event (.readable .server)]
    let seen := (Live.accepted services ⟨0⟩ .fresh (.ofIp .localhost 5000)).run
      (.setSniffing true :: script)
    let missed := (Live.accepted services ⟨0⟩ .fresh (.ofIp .localhost 5000)).run
      (script ++ [.setSniffing true])
    (seen.services.monitor.stats.credentialsSniffed = 1 ∧
      missed.services.monitor.stats.credentialsSniffed = 0) ∧ seen.Matches missed := by
  intro services script seen missed
  have schedule : ((Move.setSniffing true :: script).filter fun move => !move.isSwitch) =
      ((script ++ [Move.setSniffing true]).filter fun move => !move.isSwitch) := by decide +kernel
  have counted : seen.services.monitor.stats.credentialsSniffed = 1 ∧
      missed.services.monitor.stats.credentialsSniffed = 0 := by decide +kernel
  exact ⟨counted, sniffer_changes_nothing.2 services false ⟨0⟩ .fresh (.ofIp .localhost 5000) _ _
    schedule⟩

end SocksProxy
