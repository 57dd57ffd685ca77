import SocksProxy.Proofs.Relay.Progress
import SocksProxy.Proofs.Session.Course
import SocksProxy.Proofs.Session.Handling
import SocksProxy.Settings

/-!
What a session has at hand in each phase. Before it reads a message both of its buffers are empty,
before it answers nothing is staged, and it has a destination exactly when it needs one. So in a
buffer of the least size every answer finds room, and a session does not fail for a reason of its
own.
-/

namespace SocksProxy

open Wire (Method Refusal Request Status)

/-- The longest message is a reply with a name of 255 octets. -/
theorem Message.encode_le (message : Message) : message.encode.length ≤ Settings.leastBuffer := by
  cases message with
  | selection method => exact (by decide : 2 ≤ Settings.leastBuffer)
  | verdict accepted => exact (by decide : 2 ≤ Settings.leastBuffer)
  | reply content =>
      change content.encode.length ≤ 262
      rw [content.encode_length, Wire.Reply.wireLength]
      have address : content.address.wireLength ≤ 256 := by
        cases content.address with
        | ip address => cases address <;> simp [Wire.Address.wireLength]
        | domain name =>
            have limit := name.property
            simp only [Wire.Address.wireLength]
            omega
      omega

namespace SessionError

/-- Failures that no client and no destination should be able to bring about. -/
def isInternal : SessionError → Bool
  | .bufferExhausted _ _ => true
  | .messageFormat what =>
      what ∈ ["no method selection", "no credentials", "no request", "no server socket"]
  | _ => false

theorem isInternal_invalid (fault : Wire.Invalid) :
    (SessionError.messageFormat fault.text).isInternal = false := by
  have head : fault.text.toList.head? = some 'i' := by
    simp [Wire.Invalid.text, String.toList_append]
  have other : ∀ text : String, text.toList.head? = some 'n' → fault.text ≠ text := by
    intro text starts same
    rw [same, starts] at head
    cases head
  have outside : fault.text ∉
      ["no method selection", "no credentials", "no request", "no server socket"] := by
    simp only [List.mem_cons, List.not_mem_nil, or_false, not_or]
    exact ⟨other _ rfl, other _ rfl, other _ rfl, other _ rfl⟩
  exact decide_eq_false outside

end SessionError

theorem Move.event_or_world (move : Move) :
    (∃ event, move = .event event) ∨ ∀ event, move ≠ .event event := by
  cases move <;> simp

/-- A rule may fail in any way that it likes; the store of users never does. -/
def Authority.FailsWith (cause : SessionError) : Authority → Prop
  | .users => False
  | .rule _ verdict => ∃ credentials, verdict credentials = .error cause

/-- What a session finds on its way to a destination; none of it changes while the proxy runs. -/
structure Conditions where
  authority : Authority
  resolve : String → UInt16 → Answer
  workerFault : Option Net.IoError
  route : List Net.SocketAddress → Net.SocketAddress → Route
  registry : List Net.SocketAddress → Registry

def Services.conditions (s : Services) : Conditions :=
  ⟨s.authority, s.resolve, s.workerFault, s.route, s.registry⟩

theorem Services.failsWith_of_authenticate {services : Services} {credentials : Wire.Credentials}
    {cause : SessionError} (failed : services.authenticate credentials = .error cause) :
    services.authority.FailsWith cause := by
  unfold Services.authenticate at failed
  cases authority : services.authority with
  | users =>
      rw [authority] at failed
      cases failed
  | rule methods verdict =>
      rw [authority] at failed
      exact ⟨credentials, failed⟩

/-- What a session has at hand in each phase, and what it can have failed for. -/
def Phase.Provided (s : Live) : Phase → Prop
  | .greeting _ _ | .credentials _ | .request _ =>
      s.inbound.Unused ∧ s.outbound.Unused ∧ s.session.server = none
  | .selecting _ | .verdict _ => s.session.server = none
  | .resolving _ => s.outbound.Unused ∧ s.session.server = none
  | .connecting _ _ _ => s.outbound.Unused ∧ s.session.server.isSome = true
  | .replying _ status => s.session.server.isSome = status.isSuccess
  | .relaying _ => s.session.server.isSome = true
  | .failed cause => cause.isInternal = true → s.services.authority.FailsWith cause
  | .done => True

namespace Live

def said (s : Live) : List Message := s.session.record.said

/-- This holds of the registries of all sockets that a session has, and of those that it may get. -/
structure Registries (holds : Registry → Prop) (s : Live) : Prop where
  client : holds s.session.client.registry
  server : ∀ server, s.session.server = some server → holds server.registry
  later : ∀ attempts, holds (s.services.registry attempts)

abbrev Able (s : Live) : Prop := s.Registries (· = .accepting)

structure Roomy (s : Live) : Prop where
  idle : s.outbound.held = []
  room : Settings.leastBuffer ≤ s.outbound.capacity

def Stages (s after : Live) : Prop :=
  after.said = s.said ∨ ∃ message, after.said = s.said ++ [message] ∧
    after.outbound.held = message.encode ∧ after.outbound.readCursor = 0

/-- From one state of a session to another nothing has changed that its provision rests on. -/
structure Framed (s after : Live) : Prop where
  conditions : after.services.conditions = s.services.conditions
  capacity : ∀ side, (after.session.buffers.get side).capacity =
    (s.session.buffers.get side).capacity
  registries : ∀ {holds}, Registry.Kept holds → s.Registries holds → after.Registries holds
  said : after.said = s.said

/-- A step has led to a session that has what it needs. -/
structure Proceeds (s after : Live) : Prop where
  conditions : after.services.conditions = s.services.conditions
  capacity : ∀ side, (after.session.buffers.get side).capacity =
    (s.session.buffers.get side).capacity
  registries : ∀ {holds}, Registry.Kept holds → s.Registries holds → after.Registries holds
  stages : s.Stages after
  provided : after.session.phase.Provided after

variable {s x after : Live} {request : Request} {holds : Registry → Prop}

theorem Framed.able (framed : s.Framed after) (able : s.Able) : after.Able :=
  framed.registries Registry.kept_accepting able

theorem Framed.proceeds (framed : s.Framed after)
    (provided : after.session.phase.Provided after) : s.Proceeds after :=
  ⟨framed.conditions, framed.capacity, framed.registries, Or.inl framed.said, provided⟩

theorem Framed.trans (framed : s.Framed x) (further : x.Framed after) : s.Framed after :=
  ⟨further.conditions.trans framed.conditions,
    fun side => (further.capacity side).trans (framed.capacity side),
    fun kept before => further.registries kept (framed.registries kept before),
    further.said.trans framed.said⟩

theorem Framed.andThen (framed : s.Framed x) (proceeds : x.Proceeds after) :
    s.Proceeds after := by
  have said : x.said = s.said := framed.said
  refine ⟨proceeds.conditions.trans framed.conditions,
    fun side => (proceeds.capacity side).trans (framed.capacity side),
    fun kept before => proceeds.registries kept (framed.registries kept before), ?_,
    proceeds.provided⟩
  rw [Stages, ← said]
  exact proceeds.stages

theorem Framed.roomy (framed : s.Framed x) (roomy : s.Roomy)
    (same : x.outbound.held = s.outbound.held) : x.Roomy :=
  ⟨same.trans roomy.idle, (framed.capacity .server).symm ▸ roomy.room⟩

/-- Sockets and buffers are the same, and nothing has been staged. -/
theorem framed_of_same (conditions : after.services.conditions = s.services.conditions)
    (buffers : after.session.buffers = s.session.buffers)
    (client : after.session.client = s.session.client)
    (server : after.session.server = s.session.server) (said : after.said = s.said) :
    s.Framed after := by
  refine ⟨conditions, fun side => by rw [buffers], fun _ before => ⟨?_, ?_, ?_⟩, said⟩
  · rw [client]
    exact before.client
  · rw [server]
    exact before.server
  · rw [show after.services.registry = s.services.registry from
      congrArg Conditions.registry conditions]
    exact before.later

theorem framed_refl (s : Live) : s.Framed s := framed_of_same rfl rfl rfl rfl rfl

theorem proceeds_enter {phase : Phase} (provided : phase.Provided (s.enter phase)) :
    s.Proceeds (s.enter phase) :=
  Framed.proceeds (framed_of_same rfl rfl rfl rfl rfl) provided

theorem framed_withClient (client : Endpoint)
    (same : ∀ {holds}, Registry.Kept holds → holds s.session.client.registry →
      holds client.registry) : s.Framed (s.withClient client) :=
  ⟨rfl, fun _ => rfl, fun kept before => ⟨same kept before.client, before.server, before.later⟩,
    rfl⟩

theorem framed_asked {wanted : Interest} {client : Endpoint} {refusal : Option Net.IoError}
    (asked : s.session.client.setInterest wanted = (client, refusal)) :
    s.Framed (s.withClient client) :=
  framed_withClient client fun kept => Endpoint.setInterest_kept kept asked

theorem framed_withInbound {buffer : Buffer} (same : buffer.capacity = s.inbound.capacity) :
    s.Framed (s.withInbound buffer) := by
  refine ⟨rfl, ?_, fun _ before => ⟨before.client, before.server, before.later⟩, rfl⟩
  intro side
  cases side with
  | client => exact same
  | server => rfl

theorem framed_withOutbound {buffer : Buffer} (same : buffer.capacity = s.outbound.capacity) :
    s.Framed (s.withOutbound buffer) := by
  refine ⟨rfl, ?_, fun _ before => ⟨before.client, before.server, before.later⟩, rfl⟩
  intro side
  cases side with
  | client => rfl
  | server => exact same

theorem framed_withServer {server later : Endpoint} (serves : s.session.server = some server)
    (same : ∀ {holds}, Registry.Kept holds → holds server.registry → holds later.registry) :
    s.Framed (s.withServer (some later)) := by
  refine ⟨rfl, fun _ => rfl, fun kept before => ⟨before.client, ?_, before.later⟩, rfl⟩
  intro present here
  cases here
  exact same kept (before.server server serves)

theorem framed_abandonServer (s : Live) : s.Framed s.abandonServer := by
  refine ⟨rfl, fun _ => rfl, fun _ before => ⟨before.client, ?_, before.later⟩, rfl⟩
  intro present absent
  cases absent

theorem framed_dialling (s : Live) {server : Endpoint} (attempt : Attempt)
    (fresh : ∀ {holds}, Registry.Kept holds →
      holds (s.services.registry s.session.record.attempts) → holds server.registry) :
    s.Framed (s.dialling server attempt) := by
  refine ⟨rfl, fun _ => rfl, fun kept before => ⟨before.client, ?_, before.later⟩, rfl⟩
  intro present here
  cases here
  exact fresh kept (before.later _)

theorem framed_note (s : Live) (entry : Entry) : s.Framed (s.note entry) :=
  framed_of_same rfl rfl rfl rfl rfl

theorem framed_withLookup (s : Live) (lookup : Lookup) : s.Framed (s.withLookup lookup) :=
  framed_of_same rfl rfl rfl rfl rfl

theorem framed_attempting (s : Live) (target : Net.SocketAddress) :
    s.Framed (s.attempting target) :=
  framed_of_same rfl rfl rfl rfl rfl

theorem framed_asking (s : Live) (host : String) (port : UInt16) :
    s.Framed (s.asking host port) :=
  framed_of_same rfl rfl rfl rfl rfl

theorem framed_checking (s : Live) (question : Check) : s.Framed (s.checking question) :=
  framed_of_same rfl rfl rfl rfl rfl

theorem framed_named (s : Live) (name : String) : s.Framed (s.named name) :=
  framed_of_same rfl rfl rfl rfl rfl

theorem framed_took (s : Live) : s.Framed s.took := by
  have client : s.Framed (s.withClientSocket s.incoming.socket) := framed_withClient _ fun _ => id
  exact client.trans (framed_withInbound (Buffer.put_capacity _ _))

theorem framed_gave (s : Live) : s.Framed s.gave := by
  have client : s.Framed (s.withClientSocket s.outgoing.socket) := framed_withClient _ fun _ => id
  exact client.trans (framed_withOutbound (Buffer.consume_capacity _ _))

theorem proceeds_fail (s : Live) {cause : SessionError} (outside : cause.isInternal = false) :
    s.Proceeds (s.fail cause) := by
  apply proceeds_enter
  intro inside
  rw [outside] at inside
  cases inside

theorem proceeds_await {wanted : Interest} {next : Live → Live}
    (ready : ∀ client, client.socket = s.session.client.socket →
      (s.withClient client).Proceeds (next (s.withClient client))) :
    s.Proceeds (s.await wanted next) := by
  apply await_cases
  · intro client registered
    exact (framed_asked registered).andThen (ready client (Endpoint.setInterest_socket registered))
  · intro client cause registered
    exact (framed_asked registered).andThen (proceeds_fail _ rfl)

theorem Roomy.write (roomy : s.Roomy) (message : Message) :
    message.write s.outbound = .ok (s.outbound.put message.encode) := by
  rw [Message.write_eq]
  apply Wire.writeExact_of_fits
  rw [Buffer.room_of_empty roomy.idle]
  exact Nat.le_trans message.encode_le roomy.room

theorem Roomy.put_held (roomy : s.Roomy) (message : Message) :
    (s.outbound.put message.encode).held = message.encode := by
  have room : s.outbound.free.length = s.outbound.capacity := Buffer.room_of_empty roomy.idle
  rw [Buffer.put_held, roomy.idle, room]
  exact List.take_of_length_le (Nat.le_trans message.encode_le roomy.room)

def watching (wanted : Interest) (s : Live) : Live :=
  s.withClient { s.session.client with interest := wanted, registered := !wanted.isEmpty }

theorem await_able (able : s.Able) (wanted : Interest) (next : Live → Live) :
    s.await wanted next = next (s.watching wanted) := by
  rw [await, Endpoint.setInterest_accepting wanted able.client]
  rfl

def heading (target : Net.SocketAddress) (s : Live) : Endpoint :=
  { Endpoint.new s.stream target (Token.ofSession s.session.id .server) with
    interest := .writeOnly, registered := true }

theorem dial_able (able : s.Able) (rest : List Net.SocketAddress) (target : Net.SocketAddress)
    (outcome : Outcome) :
    s.dial request rest target outcome =
      ((s.dialling (s.heading target) ⟨target, outcome, false⟩).watching .none).enter
        (.connecting request ⟨rest⟩ target) := by
  have dialling : (s.dialling (s.heading target) ⟨target, outcome, false⟩).Able :=
    (s.framed_dialling _ fun _ => id).able able
  have accepts : (Endpoint.new s.stream target (Token.ofSession s.session.id .server)).registry =
      .accepting := able.later _
  rw [dial, Endpoint.setInterest_accepting _ accepts]
  exact await_able dialling .none _

def resting (server : Endpoint) (s : Live) : Live :=
  s.withServer (some { server with interest := .none, registered := false })

theorem framed_resting {server : Endpoint} (serves : s.session.server = some server) :
    s.Framed (s.resting server) :=
  framed_withServer serves fun _ => id

theorem connected_able (able : s.Able) {server : Endpoint} (serves : s.session.server = some server)
    (bound : Net.SocketAddress) :
    s.connected request server bound =
      (s.resting server).say (.reply (.bound .success bound)) fun replied =>
        { replied with session := { replied.session with
            attempt := none, phase := .replying request .success } } := by
  rw [connected, Endpoint.setInterest_accepting _ (able.server server serves)]
  rfl

theorem say_able (able : s.Able) (roomy : s.Roomy) (message : Message) (next : Live → Live) :
    s.say message next =
      next ((s.staged message (s.outbound.put message.encode)).watching .writeOnly) := by
  have still : (s.staged message (s.outbound.put message.encode)).Able :=
    ⟨able.client, able.server, able.later⟩
  rw [say, roomy.write message]
  exact await_able still .writeOnly next

theorem proceeds_staged (message : Message) (roomy : s.Roomy)
    (conditions : after.services.conditions = s.services.conditions)
    (buffers : after.session.buffers = ⟨s.inbound, s.outbound.put message.encode⟩)
    (registries : ∀ {holds}, Registry.Kept holds → s.Registries holds → after.Registries holds)
    (said : after.said = s.said ++ [message])
    (provided : after.session.phase.Provided after) : s.Proceeds after := by
  have start : s.outbound.passed = [] := s.outbound.settled roomy.idle
  have outbound : after.outbound = s.outbound.put message.encode := congrArg Pair.server buffers
  refine ⟨conditions, ?_, registries, Or.inr ⟨message, said, ?_, ?_⟩, provided⟩
  · intro side
    rw [buffers]
    cases side with
    | client => rfl
    | server => exact Buffer.put_capacity _ _
  · rw [outbound]
    exact roomy.put_held message
  · rw [outbound]
    exact congrArg List.length start

theorem proceeds_say {message : Message} {next : Live → Live} (roomy : s.Roomy)
    (ready : ∀ client, (∀ {holds}, Registry.Kept holds → s.Registries holds →
        (s.withClient client).Registries holds) →
      s.Proceeds (next ((s.staged message (s.outbound.put message.encode)).withClient client))) :
    s.Proceeds (s.say message next) := by
  unfold say
  rw [roomy.write message]
  dsimp only
  apply await_cases
  · intro client registered
    have framed : s.Framed (s.withClient client) := framed_asked registered
    exact ready client framed.registries
  · intro client cause registered
    have framed : s.Framed (s.withClient client) := framed_asked registered
    refine proceeds_staged message roomy rfl rfl (fun kept before => ?_) rfl ?_
    · have after := framed.registries kept before
      exact ⟨after.client, after.server, after.later⟩
    · intro inside
      cases inside

theorem proceeds_say_enter {message : Message} {phase : Phase} (roomy : s.Roomy)
    (provided : ∀ staged : Live, staged.session.server = s.session.server →
      phase.Provided (staged.enter phase)) :
    s.Proceeds (s.say message (enter phase)) := by
  apply proceeds_say roomy
  intro client asked
  refine proceeds_staged message roomy rfl rfl (fun kept before => ?_) rfl (provided _ rfl)
  have after := asked kept before
  exact ⟨after.client, after.server, after.later⟩

theorem proceeds_refuse (roomy : s.Roomy) (absent : s.session.server = none) (why : Refusal) :
    s.Proceeds (s.refuse request why) := by
  apply proceeds_say_enter roomy
  intro staged same
  change staged.session.server.isSome = false
  rw [same, absent]
  rfl

theorem proceeds_noted_refuse (roomy : s.Roomy) (absent : s.session.server = none) (entry : Entry)
    (why : Refusal) : s.Proceeds ((s.note entry).refuse request why) := by
  have framed := s.framed_note entry
  exact framed.andThen (proceeds_refuse (framed.roomy roomy rfl) absent why)

theorem proceeds_unreachable (roomy : s.Roomy) (absent : s.session.server = none)
    (last : Refusal) : s.Proceeds (s.unreachable request last) := by
  unfold unreachable
  split
  · exact proceeds_refuse roomy absent last
  · exact proceeds_noted_refuse roomy absent _ _

theorem proceeds_dial (roomy : s.Roomy) (rest : List Net.SocketAddress)
    (target : Net.SocketAddress) (outcome : Outcome) :
    s.Proceeds (s.dial request rest target outcome) := by
  unfold dial
  dsimp only
  split
  · exact proceeds_fail s rfl
  · rename_i server registered
    apply (s.framed_dialling ⟨target, outcome, false⟩ fun kept =>
      Endpoint.setInterest_kept kept registered).andThen
    apply proceeds_await
    intro client same
    exact proceeds_enter ⟨(Buffer.unused_iff _).mpr roomy.idle, rfl⟩

theorem proceeds_connect (targets : List Net.SocketAddress) (last : Refusal) (roomy : s.Roomy)
    (absent : s.session.server = none) : s.Proceeds (s.connect request targets last) := by
  induction targets generalizing s last with
  | nil => exact proceeds_unreachable roomy absent last
  | cons target rest ih =>
      have framed := s.framed_attempting target
      have still : (s.attempting target).Roomy := framed.roomy roomy rfl
      unfold Live.connect
      split
      · rename_i why refused
        exact framed.andThen (ih why still absent)
      · rename_i outcome later
        exact framed.andThen (proceeds_dial still rest target outcome)

theorem proceeds_lookUp (roomy : s.Roomy) (absent : s.session.server = none) :
    s.Proceeds (s.lookUp request) := by
  unfold lookUp
  split
  · exact proceeds_noted_refuse roomy absent _ _
  · apply (s.framed_asking _ _).andThen
    apply proceeds_await
    intro client same
    exact proceeds_enter ⟨(Buffer.unused_iff _).mpr roomy.idle, absent⟩

theorem proceeds_serve (roomy : s.Roomy) (absent : s.session.server = none) :
    s.Proceeds (s.serve request) := by
  unfold serve
  split
  · split
    · exact proceeds_connect _ _ roomy absent
    · exact proceeds_lookUp roomy absent
  · exact proceeds_noted_refuse roomy absent _ _

theorem proceeds_resolved (here : s.session.phase.Provided s) (roomy : s.Roomy)
    (absent : s.session.server = none) : s.Proceeds (s.resolved request) := by
  have idle : s.Proceeds s := (framed_refl s).proceeds here
  have framed := s.framed_withLookup
  unfold resolved
  split
  · exact idle
  · split
    · exact idle
    · rename_i took
      split
      · exact (framed _).andThen (proceeds_noted_refuse ((framed _).roomy roomy rfl) absent _ _)
      · exact (framed _).andThen (proceeds_connect _ _ ((framed _).roomy roomy rfl) absent)

theorem proceeds_connected {server : Endpoint} (serves : s.session.server = some server)
    (roomy : s.Roomy) (bound : Net.SocketAddress) :
    s.Proceeds (s.connected request server bound) := by
  have framed : ∀ {idle refusal}, server.setInterest .none = (idle, refusal) →
      s.Framed (s.withServer (some idle)) := fun registered =>
    framed_withServer serves fun kept => Endpoint.setInterest_kept kept registered
  unfold connected
  split <;> rename_i registered
  · exact (framed registered).andThen (proceeds_fail _ rfl)
  · have still := (framed registered).roomy roomy rfl
    apply (framed registered).andThen
    apply proceeds_say still
    intro client asked
    refine proceeds_staged _ still rfl rfl (fun kept before => ?_) rfl rfl
    have after := asked kept before
    exact ⟨after.client, after.server, after.later⟩

theorem proceeds_settled (here : s.session.phase.Provided s) (roomy : s.Roomy)
    (present : s.session.server.isSome = true) (rest : Candidates) :
    s.Proceeds (s.settled request rest) := by
  have idle : s.Proceeds s := (framed_refl s).proceeds here
  unfold settled
  split
  · rename_i absent
    rw [absent] at present
    cases present
  · exact idle
  · rename_i server attempt serves trying
    split
    · split
      · exact proceeds_connected serves roomy _
      · have framed := s.framed_abandonServer
        exact framed.andThen (proceeds_connect _ _ (framed.roomy roomy rfl) rfl)
    · exact idle

theorem hear_capacity {phase : Phase} {b rest : Buffer} {heard : Heard}
    (hears : phase.hear b = some (heard, rest)) : rest.capacity = b.capacity := by
  cases phase <;> try cases hears
  all_goals
    rw [(Heard.news_of_byRunning hears).1]
    exact Buffer.consume_capacity _ _

theorem framed_hear {phase : Phase} {buffer : Buffer} {heard : Heard}
    (hears : phase.hear s.inbound = some (heard, buffer)) : s.Framed (s.withInbound buffer) :=
  framed_withInbound (hear_capacity hears)

/-- A message that is not complete leaves nothing in the buffer, and is waited for as before. -/
theorem hear_more {phase next : Phase} {b rest : Buffer}
    (hears : phase.hear b = some (.more next, rest)) : rest.held = [] ∧ next.reads = true := by
  cases phase <;> try cases hears
  all_goals
    obtain ⟨left, news, outcome, same⟩ := Heard.news_of_byRunning hears
    cases news <;> cases same
    rw [left]
    exact ⟨Wire.Decoder.runOn_drained (Wire.Decoder.news_needMore.mp outcome), rfl⟩

/-- A session has a destination exactly if it is about to tell its client so. -/
def Reaches (s : Live) : Phase → Prop
  | .replying _ status => s.session.server.isSome = status.isSuccess
  | _ => s.session.server = none

theorem absent_of_reads {phase : Phase} (reaches : s.Reaches phase) (reads : phase.reads = true) :
    s.session.server = none := by
  cases phase with
  | replying request status => cases reads
  | _ => exact reaches

theorem provided_of_reads {phase : Phase} (reads : phase.reads = true)
    (inbound : s.inbound.held = []) (outbound : s.outbound.held = [])
    (absent : s.session.server = none) : phase.Provided s := by
  have unused := And.intro ((Buffer.unused_iff _).mpr inbound)
    (And.intro ((Buffer.unused_iff _).mpr outbound) absent)
  cases phase with
  | greeting acceptable state => exact unused
  | credentials state => exact unused
  | request state => exact unused
  | _ => cases reads

theorem framed_turns {phase : Phase} (turns : s.Turns phase x) (roomy : s.Roomy)
    (reaches : s.Reaches s.session.phase) :
    s.Framed x ∧ x.Roomy ∧ x.session.server = none := by
  cases turns with
  | stays reads => exact ⟨framed_refl s, roomy, absent_of_reads reaches reads⟩
  | begins admitted sent registered =>
      refine ⟨framed_asked registered, ⟨sent, roomy.room⟩, ?_⟩
      rcases admitted with told | told <;> rw [told] at reaches <;> exact reaches
  | challenges asked sent registered =>
      rw [asked] at reaches
      exact ⟨framed_asked registered, ⟨sent, roomy.room⟩, reaches⟩

theorem proceeds_done (s : Live) : s.Proceeds (s.enter .done) :=
  proceeds_enter trivial

theorem proceeds_check (roomy : s.Roomy) (absent : s.session.server = none)
    (credentials : Wire.Credentials) : s.Proceeds (s.check credentials) := by
  have framed := s.framed_checking
  unfold check
  dsimp only
  split
  · rename_i cause answer
    exact (framed _).andThen
      (proceeds_enter fun _ => Services.failsWith_of_authenticate answer)
  · apply ((framed _).trans (framed_named _ credentials.name)).andThen
    exact proceeds_say_enter ⟨roomy.idle, roomy.room⟩ fun staged same => same.trans absent
  · apply ((framed _).trans (framed_note _ (.problem s.session.id .badCredentials))).andThen
    exact proceeds_say_enter ⟨roomy.idle, roomy.room⟩ fun staged same => same.trans absent

theorem registries_scene {server : Endpoint} (relay : Relay) (here : s.Registries holds)
    (serves : s.session.server = some server) : (s.scene relay server).Registries holds := by
  intro side
  cases side with
  | client => exact here.client
  | server => exact here.server server serves

theorem framed_withScene {relay : Relay} {server : Endpoint}
    (serves : s.session.server = some server) (move : Relay.Move) :
    s.Framed (s.withScene ((s.scene relay server).move move).1) := by
  refine ⟨rfl, ?_, ?_, rfl⟩
  · intro side
    exact Relay.Scene.move_keeps side
      (fun d => d.buffer.capacity = (s.session.buffers.get side).capacity)
      (fun kept _ => (Relay.Direction.after_capacity _ _).trans kept) move
      (s.scene relay server) rfl
  · intro holds kept before
    have after := Relay.Scene.move_registries kept (registries_scene relay before serves) move
    refine ⟨after .client, ?_, before.later⟩
    intro present same
    cases same
    exact after .server

theorem proceeds_relay {relay : Relay} (present : s.session.server.isSome = true)
    (move : Relay.Move) : s.Proceeds (s.relay relay (Relay.Scene.move move)) := by
  obtain ⟨server, serves⟩ := Option.isSome_iff_exists.mp present
  have framed : s.Framed (s.withScene ((s.scene relay server).move move).1) :=
    framed_withScene serves move
  apply relay_cases serves
  · intro cause
    exact framed.andThen (proceeds_fail _ rfl)
  · intro finished
    exact framed.andThen (proceeds_done _)
  · exact framed.andThen (proceeds_enter rfl)

theorem proceeds_replied {status : Status}
    (present : s.session.server.isSome = status.isSuccess) :
    s.Proceeds (s.replied request status) := by
  let noted := s.note (.access s.session.client.address s.session.user request.command
    request.destination status)
  have framed : s.Framed noted := s.framed_note _
  unfold replied
  dsimp only
  split
  · rename_i success
    have serves : noted.session.server.isSome = true := present.trans success
    apply framed.andThen
    change noted.Proceeds (noted.relay _ (Relay.Scene.move .start))
    exact proceeds_relay serves .start
  · exact framed.andThen (proceeds_done _)

theorem proceeds_act (act : s.Act after) (roomy : s.Roomy) (reaches : s.Reaches s.session.phase) :
    s.Proceeds after := by
  cases act with
  | unregistered refused => exact (framed_asked refused).andThen (proceeds_fail _ rfl)
  | waits turns hears =>
      obtain ⟨framed, still, absent⟩ := framed_turns turns roomy reaches
      obtain ⟨drained, reads⟩ := hear_more hears
      apply (framed.trans (framed_hear hears)).andThen
      apply proceeds_await
      intro client same
      exact proceeds_enter (provided_of_reads reads drained still.idle absent)
  | leaves hears empty finished => exact (framed_hear hears).andThen (proceeds_fail _ rfl)
  | mistakes turns hears =>
      obtain ⟨framed, still, absent⟩ := framed_turns turns roomy reaches
      exact (framed.trans (framed_hear hears)).andThen
        (proceeds_fail _ (SessionError.isInternal_invalid _))
  | selects turns hears =>
      obtain ⟨framed, still, absent⟩ := framed_turns turns roomy reaches
      exact (framed.trans (framed_hear hears)).andThen
        (proceeds_say_enter ((framed_hear hears).roomy still rfl)
          fun staged same => same.trans absent)
  | verifies turns hears =>
      obtain ⟨framed, still, absent⟩ := framed_turns turns roomy reaches
      exact (framed.trans (framed_hear hears)).andThen
        (proceeds_check ((framed_hear hears).roomy still rfl) absent _)
  | serves turns hears =>
      obtain ⟨framed, still, absent⟩ := framed_turns turns roomy reaches
      exact (framed.trans (framed_hear hears)).andThen
        (proceeds_serve ((framed_hear hears).roomy still rfl) absent)
  | dismisses told sent other =>
      obtain ⟨entry, silent, ending⟩ := selected_other other
      rw [ending]
      exact (s.framed_note _).andThen (proceeds_done _)
  | rejects told sent => exact proceeds_done s
  | replied told sent =>
      rw [told] at reaches
      exact proceeds_replied reaches

theorem reaches_of_provided {phase : Phase} (here : phase.Provided s)
    (talks : phase.reads = true ∨ phase.writes = true) : s.Reaches phase := by
  cases phase with
  | greeting acceptable state => exact here.2.2
  | selecting method => exact here
  | credentials state => exact here.2.2
  | verdict accepted => exact here
  | request state => exact here.2.2
  | replying request status => exact here
  | _ => rcases talks with reads | writes <;> contradiction

/-- In a phase that writes, what a session needs does not depend on what it has sent. -/
theorem provided_gave {phase : Phase} (here : phase.Provided s) (writes : phase.writes = true) :
    phase.Provided s.gave := by
  cases phase with
  | selecting method => exact here
  | verdict accepted => exact here
  | replying request status => exact here
  | _ => cases writes

theorem unused_of_reads {phase : Phase} (here : phase.Provided s) (reads : phase.reads = true) :
    s.inbound.Unused ∧ s.outbound.Unused := by
  cases phase with
  | greeting acceptable state => exact ⟨here.1, here.2.1⟩
  | credentials state => exact ⟨here.1, here.2.1⟩
  | request state => exact ⟨here.1, here.2.1⟩
  | _ => cases reads

theorem roomy_gave (size : Settings.leastBuffer ≤ s.outbound.capacity)
    (sent : s.gave.outbound.held = []) : s.gave.Roomy :=
  ⟨sent, (framed_gave s).capacity .server ▸ size⟩

theorem roomy_took (size : Settings.leastBuffer ≤ s.outbound.capacity)
    (unused : s.outbound.Unused) : s.took.Roomy :=
  ⟨(Buffer.unused_iff _).mp unused, size⟩

theorem proceeds_handle (here : s.session.phase.Provided s)
    (size : Settings.leastBuffer ≤ s.outbound.capacity) (event : Event) :
    s.Proceeds (s.handle event) := by
  have handled := s.handled event
  generalize s.handle event = after at handled
  cases handled with
  | nothing => exact (framed_refl s).proceeds here
  | heard reads sound act =>
      have roomy := roomy_took size (unused_of_reads here reads).2
      have reaches : s.Reaches s.session.phase := reaches_of_provided here (Or.inl reads)
      exact (framed_took s).andThen (proceeds_act act roomy reaches)
  | unheard reads broken => exact (framed_took s).andThen (proceeds_fail _ rfl)
  | sent writes drained act =>
      have roomy := roomy_gave size (outbound_of_drained drained)
      have reaches : s.Reaches s.session.phase := reaches_of_provided here (Or.inr writes)
      exact (framed_gave s).andThen (proceeds_act act roomy reaches)
  | halted writes blocked => exact (framed_gave s).proceeds (provided_gave here writes)
  | unsent writes broken => exact (framed_gave s).andThen (proceeds_fail _ rfl)
  | resumed asked =>
      have waits := here
      rw [asked] at here
      exact proceeds_resolved waits ⟨(Buffer.unused_iff _).mp here.1, size⟩ here.2
  | decided trying =>
      have waits := here
      rw [trying] at here
      exact proceeds_settled waits ⟨(Buffer.unused_iff _).mp here.1, size⟩ here.2 _
  | readable relaying =>
      rw [relaying] at here
      exact proceeds_relay here _
  | writable relaying =>
      rw [relaying] at here
      exact proceeds_relay here _

theorem provided_of_same {phase : Phase} (here : phase.Provided s)
    (buffers : after.session.buffers = s.session.buffers)
    (server : after.session.server.isSome = s.session.server.isSome)
    (conditions : after.services.conditions = s.services.conditions) : phase.Provided after := by
  have inbound : after.inbound = s.inbound := congrArg Pair.client buffers
  have outbound : after.outbound = s.outbound := congrArg Pair.server buffers
  have absent : s.session.server = none → after.session.server = none := by
    intro none
    rw [none] at server
    exact Option.isSome_eq_false_iff.mp server |> Option.isNone_iff_eq_none.mp
  cases phase with
  | greeting acceptable state => exact ⟨inbound ▸ here.1, outbound ▸ here.2.1, absent here.2.2⟩
  | selecting method => exact absent here
  | credentials state => exact ⟨inbound ▸ here.1, outbound ▸ here.2.1, absent here.2.2⟩
  | verdict accepted => exact absent here
  | request state => exact ⟨inbound ▸ here.1, outbound ▸ here.2.1, absent here.2.2⟩
  | resolving request => exact ⟨outbound ▸ here.1, absent here.2⟩
  | connecting request rest target => exact ⟨outbound ▸ here.1, server.trans here.2⟩
  | replying request status => exact server.trans here
  | relaying relay => exact server.trans here
  | failed cause =>
      intro inside
      have authority : after.services.authority = s.services.authority :=
        congrArg Conditions.authority conditions
      exact authority.symm ▸ here inside
  | done => trivial

/-- What the world does to a session changes neither its phase nor its buffers, and takes no
destination from it. -/
structure Aside (s after : Live) : Prop where
  framed : s.Framed after
  phase : after.session.phase = s.session.phase
  buffers : after.session.buffers = s.session.buffers
  server : after.session.server.isSome = s.session.server.isSome

theorem Aside.proceeds (aside : s.Aside after) (here : s.session.phase.Provided s) :
    s.Proceeds after := by
  apply aside.framed.proceeds
  rw [aside.phase]
  exact provided_of_same here aside.buffers aside.server aside.framed.conditions

theorem aside_of_services {services : Services}
    (conditions : services.conditions = s.services.conditions) : s.Aside { s with services } :=
  ⟨framed_of_same conditions rfl rfl rfl rfl, rfl, rfl, rfl⟩

theorem aside_withUsers {α : Type} {changed : Except UserError α} {update : α → Services}
    (same : ∀ users, (update users).conditions = s.services.conditions) :
    s.Aside (s.withUsers (changed.map update)) := by
  cases changed with
  | error fault => exact ⟨framed_refl s, rfl, rfl, rfl⟩
  | ok users => exact aside_of_services (same users)

theorem aside_tellLookup (s : Live) : s.Aside s.tellLookup := by
  have notified : (s.services.notify s.session.id).conditions = s.services.conditions := by
    unfold Services.notify
    split <;> rfl
  unfold tellLookup
  split
  · exact ⟨framed_refl s, rfl, rfl, rfl⟩
  · refine ⟨framed_of_same ?_ rfl rfl rfl rfl, rfl, rfl, rfl⟩
    dsimp only
    split
    · exact notified
    · rfl

theorem aside_farMove (s : Live) (move : FarMove) (side : Side) :
    s.Aside (s.farMove move side) := by
  cases side with
  | client => exact ⟨framed_withClient _ fun _ => id, rfl, rfl, rfl⟩
  | server =>
      unfold farMove
      split
      · rename_i impossible
        cases impossible
      · rename_i server _ serves trying
        refine ⟨framed_withServer serves fun _ => id, rfl, rfl, ?_⟩
        rw [serves]
        rfl
      · exact ⟨framed_of_same rfl rfl rfl rfl rfl, rfl, rfl, rfl⟩

theorem aside_move {move : Move} (ongoing : move.isOngoing = true)
    (world : ∀ event, move ≠ .event event) : s.Aside (s.move move) := by
  cases move with
  | start => cases ongoing
  | close => cases ongoing
  | event event => exact absurd rfl (world event)
  | settle | finishLookup =>
      exact ⟨framed_of_same rfl rfl rfl rfl rfl, rfl, rfl, rfl⟩
  | tellLookup => exact aside_tellLookup s
  | setSniffing on => exact aside_of_services rfl
  | addUser user => exact aside_withUsers fun users => rfl
  | removeUser name => exact aside_withUsers fun users => rfl
  | changePassword name password => exact aside_withUsers fun users => rfl
  | far side move => exact aside_farMove s move side

theorem proceeds_move (here : s.session.phase.Provided s)
    (size : Settings.leastBuffer ≤ s.outbound.capacity) {move : Move}
    (ongoing : move.isOngoing = true) : s.Proceeds (s.move move) := by
  rcases move.event_or_world with ⟨event, rfl⟩ | world
  · exact proceeds_handle here size event
  · exact (aside_move ongoing world).proceeds here

/-- What holds of a session at any time of its run. -/
structure Keeps (s after : Live) : Prop where
  conditions : after.services.conditions = s.services.conditions
  capacity : ∀ side, (after.session.buffers.get side).capacity =
    (s.session.buffers.get side).capacity
  registries : ∀ {holds}, Registry.Kept holds → s.Registries holds → after.Registries holds
  provided : after.session.phase.Provided after

theorem keeps_run (moves : List Move) (ongoing : ∀ move ∈ moves, move.isOngoing = true)
    (size : Settings.leastBuffer ≤ s.outbound.capacity) (here : s.session.phase.Provided s) :
    s.Keeps (s.run moves) := by
  induction moves generalizing s with
  | nil => exact ⟨rfl, fun _ => rfl, fun _ => id, here⟩
  | cons move rest ih =>
      have step := proceeds_move here size (ongoing move List.mem_cons_self)
      have later := ih (fun next member => ongoing next (List.mem_cons_of_mem move member))
        (step.capacity .server ▸ size) step.provided
      exact ⟨later.conditions.trans step.conditions,
        fun side => (later.capacity side).trans (step.capacity side),
        fun kept before => later.registries kept (step.registries kept before), later.provided⟩

/-- A session with buffers of the least size and all that it needs, and this of its registries. -/
structure Equipped (holds : Registry → Prop) (services : Services) (s : Live) : Prop where
  conditions : s.services.conditions = services.conditions
  registries : s.Registries holds
  size : Settings.leastBuffer ≤ s.outbound.capacity
  provided : s.session.phase.Provided s

abbrev Ready (services : Services) (s : Live) : Prop := s.Equipped (· = .accepting) services

theorem Ready.able {services : Services} (ready : s.Ready services) : s.Able := ready.registries

theorem Equipped.move {services : Services} (kept : Registry.Kept holds)
    (equipped : s.Equipped holds services) {move : Move} (ongoing : move.isOngoing = true) :
    (s.move move).Equipped holds services := by
  have step := proceeds_move equipped.provided equipped.size ongoing
  exact ⟨step.conditions.trans equipped.conditions, step.registries kept equipped.registries,
    step.capacity .server ▸ equipped.size, step.provided⟩

theorem Equipped.run {services : Services} (kept : Registry.Kept holds)
    (equipped : s.Equipped holds services) (moves : List Move)
    (ongoing : ∀ move ∈ moves, move.isOngoing = true) :
    (s.run moves).Equipped holds services := by
  have run := keeps_run moves ongoing equipped.size equipped.provided
  exact ⟨run.conditions.trans equipped.conditions, run.registries kept equipped.registries,
    run.capacity .server ▸ equipped.size, run.provided⟩

theorem ready_move {services : Services} (ready : s.Ready services) {move : Move}
    (ongoing : move.isOngoing = true) : (s.move move).Ready services :=
  ready.move Registry.kept_accepting ongoing

def approached (s : Live) : Live := s.withClient (s.session.client.answered .register)

section Start

variable (services : Services) (id : SessionId) {client : Socket} (address : Net.SocketAddress)

theorem start_granted (granted : client.registry.answer .register = none) :
    (accepted services id client address).start =
      ((accepted services id client address).approached.watching .readOnly).enter
        (.greeting services.acceptableMethods .version) := by
  have calls : (accepted services id client address).forgetLookup.session.client.call? .readOnly =
      some .register := rfl
  have asks := Endpoint.setInterest_of_granted calls granted
  simp only [start, asks]
  rfl

theorem start_refused {cause : Net.IoError}
    (refused : client.registry.answer .register = some cause) :
    (accepted services id client address).start =
      ((accepted services id client address).approached.note (.notRegistered id cause)).fail
        (.io cause) := by
  have calls : (accepted services id client address).forgetLookup.session.client.call? .readOnly =
      some .register := rfl
  have asks := Endpoint.setInterest_of_refused calls refused
  simp only [start, asks]
  rfl

end Start

theorem keeps_start (services : Services) (id : SessionId) (client : Socket)
    (address : Net.SocketAddress) :
    (accepted services id client address).Keeps (accepted services id client address).start := by
  have empty : ∀ capacity, (Buffer.new capacity).Unused := fun _ => ⟨rfl, rfl⟩
  have registries : ∀ {waiting refusal},
      (accepted services id client address).session.client.setInterest .readOnly =
        (waiting, refusal) → ∀ {holds : Registry → Prop}, Registry.Kept holds →
      (accepted services id client address).Registries holds →
        ((accepted services id client address).withClient waiting).Registries holds :=
    fun asked => (framed_asked asked).registries
  unfold start
  dsimp only
  split <;> rename_i asked
  · refine ⟨rfl, fun _ => rfl, fun kept before => ?_, empty _, empty _, rfl⟩
    have after := registries asked kept before
    exact ⟨after.client, after.server, after.later⟩
  · refine ⟨rfl, fun _ => rfl, fun kept before => ?_, ?_⟩
    · have after := registries asked kept before
      exact ⟨after.client, after.server, after.later⟩
    · intro inside
      cases inside

theorem equipped_start (kept : Registry.Kept holds) (services : Services) (id : SessionId)
    (client : Socket) (address : Net.SocketAddress) (first : holds client.registry)
    (later : ∀ attempts, holds (services.registry attempts))
    (size : Settings.leastBuffer ≤ services.bufferSize) :
    (accepted services id client address).start.Equipped holds services := by
  have start := keeps_start services id client address
  have capacity : (accepted services id client address).start.outbound.capacity =
      services.bufferSize := (start.capacity .server).trans (Buffer.new_capacity _)
  have before : (accepted services id client address).Registries holds :=
    ⟨first, fun server absent => (by cases absent), later⟩
  exact ⟨start.conditions, start.registries kept before, capacity ▸ size, start.provided⟩

end Live

end SocksProxy
