import SocksProxy.Proofs.Session.Dialogue
import SocksProxy.Proofs.Session.Serving

/-!
A session carries its dialogue on, whatever the buffers, the sockets and the events are like: what
it has said, asked and tried is what the dialogue has come to, and what it has not read yet is ahead
of both.
-/

namespace SocksProxy

open Net (SocketAddress)
open Wire (Method Refusal Request Status)

/-- The stage that a phase stands for. A connection on its way is known by what will come of it. -/
def Phase.stage? (attempt : Option Attempt) : Phase → Option Stage
  | .greeting acceptable state => some (.greeting acceptable state)
  | .selecting method => some (.selecting method)
  | .credentials state => some (.credentials state)
  | .verdict accepted => some (.verdict accepted)
  | .request state => some (.request state)
  | .resolving wanted => some (.resolving wanted)
  | .connecting wanted rest _ =>
      attempt.map fun attempt => .awaiting wanted rest.waiting attempt.outcome
  | .replying wanted status => some (.replying wanted status)
  | .relaying _ => some .relaying
  | .failed cause => some (.failed cause)
  | .done => some .done

namespace Phase

theorem stage_of_reads {phase : Phase} {attempt : Option Attempt} (reads : phase.reads = true) :
    phase.stage? attempt = phase.stage? none := by
  cases phase <;> first | rfl | cases reads

theorem stage_congr {phase : Phase} {one other : Option Attempt}
    (same : one.map (fun attempt => (attempt.target, attempt.outcome)) =
      other.map (fun attempt => (attempt.target, attempt.outcome))) :
    phase.stage? one = phase.stage? other := by
  cases phase with
  | connecting wanted rest target =>
      have awaiting := congrArg (Option.map fun coming =>
        Stage.awaiting wanted rest.waiting coming.2) same
      rwa [Option.map_map, Option.map_map] at awaiting
  | _ => rfl

theorem stage_isSome {phase : Phase} (reads : phase.reads = true) :
    ∃ stage, phase.stage? none = some stage := by
  cases phase <;> first | exact ⟨_, rfl⟩ | cases reads

theorem hear_nothing {phase : Phase} {b buffer : Buffer} {heard : Heard}
    (hears : phase.hear b = some (heard, buffer)) (nothing : b.held = []) :
    heard = .more phase ∧ buffer = b := by
  cases phase <;> simp only [hear, Heard.byRunning, Wire.Decoder.runOn_nothing nothing] at hears <;>
    cases hears <;> exact ⟨rfl, rfl⟩

end Phase

/-- A client that takes all that it is told, and ends its stream at most where it should, with these
octets still to be sent. -/
structure Setting.Allows (around : Setting) (unsent : Bytes) (users : UserStore)
    (address : SocketAddress) (client : Socket) : Prop where
  users : users = around.services.users
  address : address = around.address
  space : client.space = none
  tail : client.tail = .more ∨ client.tail = .finished ∧ around.ends = true ∧ unsent = []

namespace Dialogue

variable {around : Setting} {d : Dialogue}

def heed (services : Services) (d : Dialogue) : Heard → Dialogue
  | .more phase =>
      match phase.stage? none with
      | some stage => d.enter stage
      | none => d
  | .mistake fault => d.enter (.failed (.messageFormat fault.text))
  | .method method => d.say (.selection method) (.selecting method)
  | .credentials credentials => d.check services credentials
  | .request request => d.serve services request

/-- What a session hears in a buffer, a dialogue hears octet by octet. -/
theorem leads_hear {phase : Phase} {b buffer : Buffer} {heard : Heard} {beyond : Bytes}
    (hears : phase.hear b = some (heard, buffer)) (waiting : b.held ≠ [])
    (stage : phase.stage? none = some d.stage) (ahead : d.ahead = b.held ++ beyond) :
    ∃ stage, d.Leads around
      ({ d with stage, ahead := buffer.held ++ beyond }.heed around.services heard) := by
  cases phase <;> try cases hears
  all_goals
    obtain ⟨rfl, news, outcome, rfl⟩ := Heard.news_of_byRunning hears
  case greeting acceptable state =>
    obtain ⟨last, leads⟩ := leads_runOn (advance_greeting acceptable) waiting stage ahead outcome
    cases news <;> exact ⟨last, leads⟩
  case credentials state =>
    obtain ⟨last, leads⟩ := leads_runOn advance_credentials waiting stage ahead outcome
    cases news <;> exact ⟨last, leads⟩
  case request state =>
    obtain ⟨last, leads⟩ := leads_runOn advance_request waiting stage ahead outcome
    cases news <;> exact ⟨last, leads⟩

theorem advance_nothing {phase : Phase} (reads : phase.reads = true)
    (stage : phase.stage? none = some d.stage) (nothing : d.ahead = []) :
    d.advance around =
      if around.ends then some (d.enter (.failed (.peerClosed around.address))) else none := by
  cases phase <;> try cases reads
  · rw [advance_greeting _ _ d (Option.some.inj stage).symm, read, nothing]
  · rw [advance_credentials _ d (Option.some.inj stage).symm, read, nothing]
  · rw [advance_request _ d (Option.some.inj stage).symm, read, nothing]

end Dialogue

theorem Services.authenticate_congr {one other : Services}
    (conditions : one.conditions = other.conditions) (users : one.users = other.users)
    (credentials : Wire.Credentials) :
    one.authenticate credentials = other.authenticate credentials := by
  have authority : one.authority = other.authority := congrArg Conditions.authority conditions
  rw [authenticate, authenticate, authority, users]

namespace Live

/-- The session and the dialogue have come equally far, apart from the stage. -/
structure Agrees (around : Setting) (unsent : Bytes) (d : Dialogue) (s : Live) : Prop where
  conditions : s.services.conditions = around.services.conditions
  allows : around.Allows unsent s.services.users s.session.client.address s.session.client.socket
  ahead : d.ahead = s.inbound.held ++ (s.session.client.socket.inbox ++ unsent)
  told : d.told = s.session.client.socket.delivered ++ s.outbound.held
  user : d.user = s.session.user
  lookups : d.lookups = s.lookups
  attempts : d.attempts = s.attempts

/-- The session stands where the dialogue stands. -/
structure Mirrors (around : Setting) (unsent : Bytes) (d : Dialogue) (s : Live) : Prop where
  agrees : s.Agrees around unsent d
  stage : s.session.phase.stage? s.session.attempt = some d.stage
  asked : ∀ request, s.session.phase = .resolving request →
    s.Awaits (around.services.resolve request.address.host request.port)
  staged : s.session.phase.writes = true ∨ s.outbound.held = []

/-- The session has carried the dialogue on, or is where it can be carried on from. -/
def Continues (around : Setting) (unsent : Bytes) (d : Dialogue) (s : Live) : Prop :=
  ∃ next, d.Reaches around next ∧ s.Mirrors around unsent next

variable {around : Setting} {unsent : Bytes} {d next : Dialogue} {s x after : Live}
  {request : Request}

theorem Mirrors.continues (mirrors : s.Mirrors around unsent d) : s.Continues around unsent d :=
  ⟨d, .refl, mirrors⟩

theorem Continues.head (step : d.advance around = some next)
    (continues : s.Continues around unsent next) : s.Continues around unsent d := by
  obtain ⟨last, reaches, mirrors⟩ := continues
  exact ⟨last, .head step reaches, mirrors⟩

theorem Mirrors.stands {phase : Phase} {stage : Stage} (mirrors : s.Mirrors around unsent d)
    (here : s.session.phase = phase) (shows : phase.stage? s.session.attempt = some stage) :
    d.stage = stage := by
  have known := mirrors.stage
  rw [here, shows] at known
  exact (Option.some.inj known).symm

theorem Agrees.enter (agrees : s.Agrees around unsent d) (stage : Stage) :
    s.Agrees around unsent (d.enter stage) :=
  { agrees with }

/-- A session mirrors one dialogue at most. -/
theorem Mirrors.unique {other : Dialogue} (mirrors : s.Mirrors around unsent d)
    (others : x.Mirrors around unsent other) (same : x.session = s.session) : other = d := by
  obtain ⟨⟨-, -, ahead, told, user, lookups, attempts⟩, stage, -, -⟩ := mirrors
  obtain ⟨⟨-, -, ahead', told', user', lookups', attempts'⟩, stage', -, -⟩ := others
  simp only [inbound, outbound, Live.lookups, Live.attempts, same] at *
  exact Dialogue.ext (Option.some.inj (stage'.symm.trans stage)) (ahead'.trans ahead.symm)
    (told'.trans told.symm) (user'.trans user.symm) (lookups'.trans lookups.symm)
    (attempts'.trans attempts.symm)

structure Free (s : Live) : Prop where
  able : s.Able
  roomy : s.Roomy

theorem Free.framed (free : s.Free) (framed : s.Framed after)
    (idle : after.outbound.held = s.outbound.held) : after.Free :=
  ⟨framed.able free.able, framed.roomy free.roomy idle⟩

theorem mirrors_enter {phase : Phase} {stage : Stage} (agrees : s.Agrees around unsent d)
    (idle : s.outbound.held = []) (shows : phase.stage? s.session.attempt = some stage)
    (other : ∀ request, phase ≠ .resolving request) :
    (s.enter phase).Mirrors around unsent (d.enter stage) :=
  ⟨{ agrees with }, shows, fun request resolving => absurd resolving (other request), Or.inr idle⟩

theorem agrees_staged (message : Message) (stage : Stage) (free : s.Free)
    (agrees : s.Agrees around unsent d) :
    ((s.staged message (s.outbound.put message.encode)).watching .writeOnly).Agrees around unsent
      (d.say message stage) := by
  have told : (d.say message stage).told =
      s.session.client.socket.delivered ++ (s.outbound.put message.encode).held := by
    rw [free.roomy.put_held, Dialogue.say, agrees.told, free.roomy.idle, List.append_nil]
  exact ⟨agrees.conditions, agrees.allows, agrees.ahead, told, agrees.user, agrees.lookups,
    agrees.attempts⟩

theorem mirrors_say {message : Message} {phase : Phase} {stage : Stage} (free : s.Free)
    (agrees : s.Agrees around unsent d) (shows : phase.stage? s.session.attempt = some stage)
    (writes : phase.writes = true) :
    (s.say message (Live.enter phase)).Mirrors around unsent (d.say message stage) := by
  rw [say_able free.able free.roomy]
  refine ⟨{ agrees_staged message stage free agrees with }, shows, ?_, Or.inl writes⟩
  rintro request rfl
  cases writes

theorem agrees_note (agrees : s.Agrees around unsent d) (entry : Entry) :
    (s.note entry).Agrees around unsent d :=
  { agrees with }

theorem mirrors_refuse (request : Request) (why : Refusal) (free : s.Free)
    (agrees : s.Agrees around unsent d) :
    (s.refuse request why).Mirrors around unsent (d.refuse request why) :=
  mirrors_say free agrees rfl rfl

theorem mirrors_noted_refuse (request : Request) (why : Refusal) (entry : Entry) (free : s.Free)
    (agrees : s.Agrees around unsent d) :
    ((s.note entry).refuse request why).Mirrors around unsent (d.refuse request why) :=
  mirrors_refuse request why (free.framed (s.framed_note entry) rfl) (agrees_note agrees entry)

theorem mirrors_unreachable (last : Refusal) (free : s.Free) (agrees : s.Agrees around unsent d) :
    (s.unreachable request last).Mirrors around unsent
      (d.refuse request (request.blames last)) := by
  unfold unreachable Request.blames
  cases request.socketAddress? with
  | some address => exact mirrors_refuse request last free agrees
  | none => exact mirrors_noted_refuse request _ _ free agrees

theorem mirrors_dial {rest : List SocketAddress} {target : SocketAddress} {outcome : Outcome}
    (free : s.Free) (agrees : s.Agrees around unsent d) :
    (s.dial request rest target outcome).Mirrors around unsent
      (d.enter (.awaiting request rest outcome)) := by
  rw [dial_able free.able]
  exact ⟨{ agrees with }, rfl, fun _ impossible => (by cases impossible), Or.inr free.roomy.idle⟩

theorem continues_connect (targets : List SocketAddress) (last : Refusal) (free : s.Free)
    (agrees : s.Agrees around unsent d) :
    (s.connect request targets last).Continues around unsent
      (d.enter (.trying request targets last)) := by
  induction targets generalizing s d last with
  | nil => exact .head rfl (mirrors_unreachable last free agrees).continues
  | cons target rest ih =>
      have still : (s.attempting target).Free := free.framed (s.framed_attempting target) rfl
      have tried : (s.attempting target).Agrees around unsent
          { d with attempts := d.attempts ++ [target] } :=
        { agrees with attempts := congrArg (· ++ [target]) agrees.attempts }
      have same : s.services.route s.session.record.attempts target =
          around.services.route d.attempts target := by
        rw [show s.services.route = around.services.route from
          congrArg Conditions.route agrees.conditions, agrees.attempts]
        rfl
      have step : (d.enter (.trying request (target :: rest) last)).advance around =
          some (d.attempt around.services request target rest) := rfl
      refine .head step ?_
      unfold Live.connect Dialogue.attempt
      rw [same]
      cases around.services.route d.attempts target with
      | refused why => exact ih why still tried
      | later outcome => exact (mirrors_dial still tried).continues

theorem continues_serve (request : Request) (free : s.Free) (agrees : s.Agrees around unsent d) :
    (s.serve request).Continues around unsent (d.serve around.services request) := by
  unfold serve Dialogue.serve
  split
  · cases request.socketAddress? with
    | some address => exact continues_connect [address] _ free agrees
    | none =>
        dsimp only
        have worker : s.services.workerFault = around.services.workerFault :=
          congrArg Conditions.workerFault agrees.conditions
        unfold lookUp
        rw [worker]
        cases around.services.workerFault with
        | some cause => exact (mirrors_noted_refuse request _ _ free agrees).continues
        | none =>
            dsimp only
            rw [await_able ((s.framed_asking _ _).able free.able)]
            refine Mirrors.continues ⟨{ agrees with
              lookups := congrArg (· ++ [(request.address.host, request.port)]) agrees.lookups },
              rfl, ?_, Or.inr free.roomy.idle⟩
            rintro other same
            cases same
            refine ⟨_, rfl, ?_, rfl, ?_⟩
            · exact congrFun (congrFun (congrArg Conditions.resolve agrees.conditions) _) _
            · intro vanished
              cases vanished
  · exact (mirrors_noted_refuse request _ _ free agrees).continues

theorem mirrors_check (credentials : Wire.Credentials) (free : s.Free)
    (agrees : s.Agrees around unsent d) :
    (s.check credentials).Mirrors around unsent (d.check around.services credentials) := by
  have same : s.services.authenticate credentials = around.services.authenticate credentials :=
    Services.authenticate_congr agrees.conditions agrees.allows.users credentials
  have still : ∀ question, (s.checking question).Agrees around unsent d := fun _ => { agrees with }
  have quiet : ∀ question, (s.checking question).Free := fun _ =>
    free.framed (s.framed_checking _) rfl
  unfold check Dialogue.check
  dsimp only
  rw [same]
  cases around.services.authenticate credentials with
  | error cause => exact mirrors_enter (still _) free.roomy.idle rfl (by simp)
  | ok accepted =>
      cases accepted with
      | true =>
          have named : ∀ question, ((s.checking question).named credentials.name).Agrees around
              unsent { d with user := some credentials.name } := fun question =>
            { still question with user := rfl }
          exact mirrors_say ((quiet _).framed (framed_named _ _) rfl) (named _) rfl rfl
      | false =>
          exact mirrors_say ((quiet _).framed (framed_note _ _) rfl) (agrees_note (still _) _) rfl
            rfl

def Advances (around : Setting) (unsent : Bytes) (d : Dialogue) (s : Live) : Prop :=
  ∃ next, d.Leads around next ∧ s.Mirrors around unsent next

theorem Advances.of_leads (leads : d.Leads around next)
    (continues : s.Continues around unsent next) : s.Advances around unsent d := by
  obtain ⟨last, reaches, mirrors⟩ := continues
  exact ⟨last, .trans_left leads reaches, mirrors⟩

theorem Advances.of_step (step : d.advance around = some next)
    (continues : s.Continues around unsent next) : s.Advances around unsent d :=
  .of_leads (.single step) continues

theorem Advances.continues (advances : s.Advances around unsent d) :
    s.Continues around unsent d :=
  advances.imp fun _ far => ⟨far.1.to_reflTransGen, far.2⟩

theorem agrees_registered {wanted : Interest} {client : Endpoint}
    (agrees : s.Agrees around unsent d)
    (registered : s.session.client.setInterest wanted = (client, none)) :
    (s.withClient client).Agrees around unsent d := by
  have socket := Endpoint.setInterest_socket registered
  have address := Endpoint.setInterest_address registered
  obtain ⟨conditions, allows, ahead, told, user, lookups, attempts⟩ := agrees
  rw [← socket, ← address] at allows
  rw [← socket] at ahead told
  exact ⟨conditions, allows, ahead, told, user, lookups, attempts⟩

theorem turns_cases {phase : Phase} (mirrors : s.Mirrors around unsent d)
    (turns : s.Turns phase x) :
    (s.session.phase.reads = true ∧ phase = s.session.phase ∧ x = s) ∨
      ∃ next, d.advance around = some next ∧ x.Agrees around unsent next ∧
        phase.stage? none = some next.stage := by
  cases turns with
  | stays reads => exact Or.inl ⟨reads, rfl, rfl⟩
  | begins admitted sent registered =>
      have agrees := agrees_registered mirrors.agrees registered
      refine Or.inr ⟨d.enter (.request .version), ?_, agrees.enter _, rfl⟩
      rcases admitted with told | told <;> rw [Dialogue.advance, mirrors.stands told rfl]
  | challenges asked sent registered =>
      have agrees := agrees_registered mirrors.agrees registered
      refine Or.inr ⟨d.enter (.credentials .version), ?_, agrees.enter _, rfl⟩
      rw [Dialogue.advance, mirrors.stands asked rfl]

theorem leads_inbound {phase : Phase} {buffer : Buffer} {heard : Heard}
    (agrees : s.Agrees around unsent d) (stage : phase.stage? none = some d.stage)
    (hears : phase.hear s.inbound = some (heard, buffer)) (waiting : s.inbound.held ≠ []) :
    ∃ next, d.Leads around (next.heed around.services heard) ∧
      (s.withInbound buffer).Agrees around unsent next := by
  obtain ⟨last, leads⟩ := Dialogue.leads_hear hears waiting stage agrees.ahead
  exact ⟨_, leads, { agrees with ahead := rfl }⟩

theorem leads_heard {phase : Phase} {buffer : Buffer} {heard : Heard}
    (mirrors : s.Mirrors around unsent d) (turns : s.Turns phase x)
    (hears : phase.hear x.inbound = some (heard, buffer)) :
    (∃ next, d.Leads around (next.heed around.services heard) ∧
        (x.withInbound buffer).Agrees around unsent next) ∨
      (s.session.phase.reads = true ∧ s.inbound.held = [] ∧ heard = .more s.session.phase ∧
        x.withInbound buffer = s) := by
  rcases turns_cases mirrors turns with ⟨reads, rfl, rfl⟩ | ⟨next, step, agrees, stage⟩
  · by_cases nothing : x.inbound.held = []
    · obtain ⟨rfl, rfl⟩ := Phase.hear_nothing hears nothing
      exact Or.inr ⟨reads, nothing, rfl, rfl⟩
    · have stage := (Phase.stage_of_reads reads).symm.trans mirrors.stage
      exact Or.inl (leads_inbound mirrors.agrees stage hears nothing)
  · left
    by_cases nothing : x.inbound.held = []
    · obtain ⟨rfl, rfl⟩ := Phase.hear_nothing hears nothing
      refine ⟨next, ?_, agrees⟩
      rw [Dialogue.heed, stage]
      exact .single step
    · obtain ⟨later, leads, agrees⟩ := leads_inbound agrees stage hears nothing
      exact ⟨later, .head step leads, agrees⟩

theorem mirrors_waits {phase : Phase} (free : s.Free) (agrees : s.Agrees around unsent d)
    (reads : phase.reads = true) :
    (s.await .readOnly (Live.enter phase)).Mirrors around unsent
      (d.heed around.services (.more phase)) := by
  rw [await_able free.able]
  cases phase <;> try cases reads
  all_goals
    have still : (s.watching .readOnly).Agrees around unsent d := { agrees with }
    exact mirrors_enter still free.roomy.idle rfl (by simp)

theorem advances_leaves {phase : Phase} {buffer : Buffer} (mirrors : s.Mirrors around unsent d)
    (free : s.Free) (hears : s.session.phase.hear s.inbound = some (.more phase, buffer))
    (empty : s.session.client.socket.inbox = [])
    (finished : s.session.client.socket.tail = .finished) :
    ((s.withInbound buffer).fail (.peerClosed s.session.client.address)).Advances around unsent
      d := by
  have tail := mirrors.agrees.allows.tail
  rw [finished] at tail
  obtain ⟨ends, rfl⟩ : around.ends = true ∧ unsent = [] := by
    rcases tail with impossible | ⟨-, ends, nothing⟩
    · cases impossible
    · exact ⟨ends, nothing⟩
  obtain ⟨drained, reads⟩ := hear_more hears
  -- The dialogue stands before the end of the stream, with what has been heard or without any.
  obtain ⟨last, reaches, agrees, stage⟩ : ∃ last, d.Reaches around last ∧
      (s.withInbound buffer).Agrees around [] last ∧ phase.stage? none = some last.stage := by
    rcases leads_heard mirrors (.stays (Phase.reads_of_hear hears)) hears with
      ⟨next, leads, agrees⟩ | ⟨-, -, same, still⟩
    · obtain ⟨stage, shows⟩ := Phase.stage_isSome reads
      rw [Dialogue.heed, shows] at leads
      exact ⟨_, leads.to_reflTransGen, agrees.enter stage, shows⟩
    · cases same
      rw [still]
      exact ⟨d, .refl, mirrors.agrees, (Phase.stage_of_reads reads).symm.trans mirrors.stage⟩
  have nothing : last.ahead = [] := by
    rw [agrees.ahead]
    change buffer.held ++ (s.session.client.socket.inbox ++ []) = []
    rw [drained, empty]
    rfl
  have step : last.advance around =
      some (last.enter (.failed (.peerClosed s.session.client.address))) := by
    rw [Dialogue.advance_nothing reads stage nothing, if_pos ends, mirrors.agrees.allows.address]
  exact ⟨_, .tail' reaches step, mirrors_enter agrees free.roomy.idle rfl (by simp)⟩

theorem agrees_withScene {scene : Relay.Scene} (agrees : s.Agrees around unsent d)
    (buffers : scene.buffers = s.session.buffers)
    (socket : scene.ends.client.socket = s.session.client.socket)
    (address : scene.ends.client.address = s.session.client.address) :
    (s.withScene scene).Agrees around unsent d := by
  obtain ⟨conditions, allows, ahead, told, user, lookups, attempts⟩ := agrees
  rw [inbound, ← buffers, ← socket] at ahead
  rw [outbound, ← buffers, ← socket] at told
  rw [← socket, ← address] at allows
  exact ⟨conditions, allows, ahead, told, user, lookups, attempts⟩

theorem mirrors_replied {status : Status} (free : s.Free) (agrees : s.Agrees around unsent d)
    (present : s.session.server.isSome = status.isSuccess) :
    (s.replied request status).Mirrors around unsent
      (d.enter (if status.isSuccess then .relaying else .done)) := by
  unfold replied
  dsimp only
  split
  · rename_i success
    obtain ⟨server, serves⟩ := Option.isSome_iff_exists.mp (present.trans success)
    let noted := s.note (.access s.session.client.address s.session.user request.command
      request.destination status)
    let scene := noted.scene (Relay.new (s.snifferFor request)) server
    have accepts : scene.Accepting := registries_scene _ ((s.framed_note _).able free.able) serves
    obtain ⟨sound, buffers, relay, ends⟩ := Relay.Scene.start_accepting accepts
    obtain ⟨socket, address⟩ := ends .client
    have goes : scene.start.1.relay.isDone = false := by
      rw [relay]
      have allowed : scene.armed.relay.contexts.client.allowed = .both :=
        (Relay.Scene.armed_scene scene).2.2.2
      simp [Relay.isDone, allowed, Interest.isEmpty, Interest.both]
    change Mirrors around unsent _ (noted.relay _ Relay.Scene.start)
    have starts : noted.relay (Relay.new (s.snifferFor request)) Relay.Scene.start =
        (noted.withScene scene.start.1).enter (.relaying scene.start.1.relay) := by
      rw [Live.relay, show noted.session.server = some server from serves]
      dsimp only
      rw [sound]
      dsimp only
      rw [goes]
      rfl
    have moved : (noted.withScene scene.start.1).Agrees around unsent d :=
      agrees_withScene (agrees_note agrees _) buffers socket address
    have idle : (noted.withScene scene.start.1).outbound.held = [] := by
      rw [← free.roomy.idle]
      exact congrArg (fun buffers => buffers.server.held) buffers
    rw [starts]
    exact mirrors_enter moved idle rfl (by simp)
  · exact mirrors_enter (agrees_note agrees _) free.roomy.idle rfl (by simp)

/-- Once it has read, or has been heard, a session carries its dialogue on, unless nothing has
come. -/
theorem advances_act (mirrors : s.Mirrors around unsent d) (free : s.Free)
    (reaches : s.Reaches s.session.phase) (act : s.Act after) :
    after.Advances around unsent d ∨
      (s.session.phase.reads = true ∧ s.inbound.held = [] ∧ after.Mirrors around unsent d) := by
  have reading : ∀ {phase x buffer heard}, s.Turns phase x →
      phase.hear x.inbound = some (heard, buffer) → (x.withInbound buffer).Free := by
    intro phase x buffer heard turns hears
    obtain ⟨framed, still, -⟩ := framed_turns turns free.roomy reaches
    exact Free.framed ⟨framed.able free.able, still⟩ (framed_hear hears) rfl
  -- Only a message that is not complete can be heard in nothing.
  have complete : ∀ {phase x buffer heard}, s.Turns phase x →
      phase.hear x.inbound = some (heard, buffer) → (∀ phase, heard ≠ .more phase) →
      ∃ next, d.Leads around (next.heed around.services heard) ∧
        (x.withInbound buffer).Agrees around unsent next := by
    intro phase x buffer heard turns hears whole
    rcases leads_heard mirrors turns hears with leads | ⟨-, -, same, -⟩
    · exact leads
    · exact absurd same (whole _)
  cases act with
  | unregistered refused =>
      rw [Endpoint.setInterest_accepting _ free.able.client] at refused
      cases refused
  | waits turns hears =>
      obtain ⟨-, reads⟩ := hear_more hears
      rcases leads_heard mirrors turns hears with
        ⟨next, leads, agrees⟩ | ⟨reads, nothing, same, still⟩
      · exact Or.inl ⟨_, leads, mirrors_waits (reading turns hears) agrees reads⟩
      · refine Or.inr ⟨reads, nothing, ?_⟩
        cases same
        rw [still]
        have waits := mirrors_waits free mirrors.agrees reads
        rwa [Dialogue.heed, (Phase.stage_of_reads reads).symm.trans mirrors.stage] at waits
  | leaves hears empty finished => exact Or.inl (advances_leaves mirrors free hears empty finished)
  | mistakes turns hears =>
      obtain ⟨next, leads, agrees⟩ := complete turns hears (by simp)
      exact Or.inl ⟨_, leads,
        mirrors_enter agrees (reading turns hears).roomy.idle rfl (by simp)⟩
  | selects turns hears =>
      obtain ⟨next, leads, agrees⟩ := complete turns hears (by simp)
      exact Or.inl ⟨_, leads, mirrors_say (reading turns hears) agrees rfl rfl⟩
  | verifies turns hears =>
      obtain ⟨next, leads, agrees⟩ := complete turns hears (by simp)
      exact Or.inl ⟨_, leads, mirrors_check _ (reading turns hears) agrees⟩
  | serves turns hears =>
      obtain ⟨next, leads, agrees⟩ := complete turns hears (by simp)
      exact Or.inl (.of_leads leads (continues_serve _ (reading turns hears) agrees))
  | @dismisses method told sent other =>
      have step : d.advance around = some (d.enter .done) := by
        rw [Dialogue.advance, mirrors.stands told rfl]
        cases method with
        | noAuth => exact absurd rfl other.1
        | userPass => exact absurd rfl other.2
        | _ => rfl
      obtain ⟨entry, -, ending⟩ := selected_other other
      rw [ending]
      exact Or.inl (.of_step step
        (mirrors_enter (agrees_note mirrors.agrees _) sent rfl (by simp)).continues)
  | rejects told sent =>
      have step : d.advance around = some (d.enter .done) := by
        rw [Dialogue.advance, mirrors.stands told rfl]
      exact Or.inl (.of_step step (mirrors_enter mirrors.agrees sent rfl (by simp)).continues)
  | @replied _ status told sent =>
      have step : d.advance around =
          some (d.enter (if status.isSuccess then .relaying else .done)) := by
        rw [Dialogue.advance, mirrors.stands told rfl]
      rw [told] at reaches
      exact Or.inl (.of_step step (mirrors_replied free mirrors.agrees reaches).continues)

end Live

end SocksProxy
