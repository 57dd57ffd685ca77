import SocksProxy.Proofs.Session.Relaying

/-!
Where a session stands before it relays. Each phase goes with what the books must say in it; each
function of the handshake, given the books that it needs, leads to a phase with the books that go
with it.
-/

namespace SocksProxy

open Wire (Method Refusal Reply Request Status)

/-- What the books of a session that has not relayed say in each phase. -/
def Phase.Place (l first : Ledger) (acceptable : List Method) : Phase → Prop
  | .greeting methods state =>
      methods = acceptable ∧ Wire.Greeting.progress state = .needMore ∧
        ∃ heard, Wire.Greeting.Reads acceptable state heard ∧ l.Meeting first heard [] []
  | .selecting method =>
      ∃ codes : Counted, Wire.Greeting.settled acceptable codes.val = method ∧
        l.Meeting first (Wire.Greeting.encode codes.val) [.selection method] []
  | .credentials state =>
      Wire.Credentials.progress state = .needMore ∧
        ∃ (codes : Counted) (heard : Bytes),
          Wire.Greeting.settled acceptable codes.val = .userPass ∧
          Wire.Credentials.Reads state heard ∧
          l.Meeting first (Wire.Greeting.encode codes.val ++ heard) [.selection .userPass] []
  | .verdict accepted =>
      ∃ codes name password : Counted,
        Wire.Greeting.settled acceptable codes.val = .userPass ∧
          l.Meeting first
            (Wire.Greeting.encode codes.val ++ Wire.Credentials.encode name.val password.val)
            [.selection .userPass, .verdict accepted]
            [⟨.ofBytes name.val password.val, some accepted⟩]
  | .request state =>
      Wire.Request.progress state = .needMore ∧
        ∃ opening heard, Wire.Request.Reads state heard ∧
          l.Serving first acceptable opening heard []
  | .resolving wanted | .connecting wanted _ _ =>
      wanted.command = .connect ∧
        ∃ opening, l.Serving first acceptable opening wanted.encode []
  | .replying wanted status =>
      (status = .success → wanted.command = .connect) ∧
        ∃ opening reply, reply.status = status ∧
          l.Serving first acceptable opening wanted.encode [.reply reply]
  | .relaying _ => False
  | .failed _ | .done => l.Unserved first acceptable

def Phase.serves : Phase → Bool
  | .request _ | .resolving _ | .connecting _ _ _ | .replying _ _ | .relaying _ => true
  | .greeting _ _ | .selecting _ | .credentials _ | .verdict _ | .failed _ | .done => false

namespace Phase

variable {l first : Ledger} {acceptable : List Method} {phase : Phase}

/-- Before a session relays nothing has been exchanged, whatever phase it is in. -/
theorem Place.unserved (place : phase.Place l first acceptable) :
    l.Unserved first acceptable := by
  cases phase with
  | greeting methods state =>
      obtain ⟨same, pending, heard, reads, meeting⟩ := place
      exact meeting.unserved (Nat.zero_le _)
  | selecting method =>
      obtain ⟨codes, chosen, meeting⟩ := place
      exact meeting.unserved (Nat.zero_le _)
  | credentials state =>
      obtain ⟨pending, codes, heard, chosen, reads, meeting⟩ := place
      exact meeting.unserved (Nat.zero_le _)
  | verdict accepted =>
      obtain ⟨codes, name, password, chosen, meeting⟩ := place
      exact meeting.unserved (Nat.le_refl _)
  | request state =>
      obtain ⟨pending, opening, heard, reads, serving⟩ := place
      exact serving.unserved
  | resolving request =>
      obtain ⟨connect, opening, serving⟩ := place
      exact serving.unserved
  | connecting request rest target =>
      obtain ⟨connect, opening, serving⟩ := place
      exact serving.unserved
  | replying request status =>
      obtain ⟨command, opening, reply, same, serving⟩ := place
      exact serving.unserved
  | relaying relay => exact absurd place id
  | failed cause => exact place
  | done => exact place

theorem Place.admitted (place : phase.Place l first acceptable) (serves : phase.serves = true) :
    ∃ opening, l.Admitted first acceptable opening := by
  cases phase with
  | request state =>
      obtain ⟨pending, opening, heard, reads, serving⟩ := place
      exact ⟨opening, serving.admitted⟩
  | resolving request =>
      obtain ⟨connect, opening, serving⟩ := place
      exact ⟨opening, serving.admitted⟩
  | connecting request rest target =>
      obtain ⟨connect, opening, serving⟩ := place
      exact ⟨opening, serving.admitted⟩
  | replying request status =>
      obtain ⟨command, opening, reply, same, serving⟩ := place
      exact ⟨opening, serving.admitted⟩
  | relaying relay => exact absurd place id
  | _ => cases serves

end Phase

namespace Live

def relays (s : Live) : Bool :=
  match s.session.phase with
  | .relaying _ => true
  | _ => false

def Before (s : Live) (first : Ledger) (acceptable : List Method) : Prop :=
  s.session.phase.Place s.ledger first acceptable

def After (s : Live) (first : Ledger) (acceptable : List Method) : Prop :=
  (∃ opening request reply, s.ledger.Exchanged first acceptable opening request reply) ∧
    ∃ origin, s.Follows origin

def Begun (first : Ledger) (acceptable : List Method) (s : Live) : Prop :=
  s.Before first acceptable ∨ s.relays = true ∧ s.After first acceptable

variable {first : Ledger} {acceptable : List Method} {opening : Opening} {request : Request}
  {heard : Bytes} {said : List Message} {s : Live}

theorem begun_fail (unserved : s.ledger.Unserved first acceptable) (cause : SessionError) :
    (s.fail cause).Begun first acceptable := Or.inl unserved

theorem begun_done (unserved : s.ledger.Unserved first acceptable) :
    (s.enter .done).Begun first acceptable := Or.inl unserved

theorem begun_serving_fail (serving : s.ledger.Serving first acceptable opening heard said)
    (cause : SessionError) : (s.fail cause).Begun first acceptable :=
  begun_fail serving.unserved cause

theorem begun_say {message : Message} {next : Live → Live}
    (serving : s.ledger.Serving first acceptable opening heard said)
    (ready : ∀ staged : Live,
      staged.ledger.Serving first acceptable opening heard (said ++ [message]) →
      (next staged).Begun first acceptable) : (s.say message next).Begun first acceptable := by
  have spoken := serving.say message
  apply say_posts
  · intro staged posted
    exact ready staged (by rw [posted]; exact spoken)
  · intro cause
    exact begun_serving_fail serving cause
  · intro staged cause posted
    have after : staged.ledger.Serving first acceptable opening heard (said ++ [message]) := by
      rw [posted]
      exact spoken
    exact begun_serving_fail after cause

theorem begun_meeting_say {message : Message} {next : Live → Live} {asked : List Check}
    (meeting : s.ledger.Meeting first heard said asked) (once : asked.length ≤ 1)
    (early : ∀ reply, message ≠ .reply reply)
    (ready : ∀ staged : Live, staged.ledger.Meeting first heard (said ++ [message]) asked →
      (next staged).Begun first acceptable) : (s.say message next).Begun first acceptable := by
  have spoken := meeting.say early
  apply say_posts
  · intro staged posted
    exact ready staged (by rw [posted]; exact spoken)
  · intro cause
    exact begun_fail (meeting.unserved once) cause
  · intro staged cause posted
    have after : staged.ledger.Meeting first heard (said ++ [message]) asked := by
      rw [posted]
      exact spoken
    exact begun_fail (after.unserved once) cause

theorem begun_refuse (serving : s.ledger.Serving first acceptable opening request.encode [])
    (why : Refusal) : (s.refuse request why).Begun first acceptable := by
  apply begun_say serving
  intro staged answered
  refine Or.inl ⟨?_, opening, _, rfl, answered⟩
  intro success
  cases success

theorem begun_noted_refuse
    (serving : s.ledger.Serving first acceptable opening request.encode []) {entry : Entry}
    (silent : entry.accessUser? = none) (why : Refusal) :
    ((s.note entry).refuse request why).Begun first acceptable := by
  have noted : (s.note entry).ledger.Serving first acceptable opening request.encode [] :=
    serving.noteSilent silent
  exact begun_refuse noted why

theorem begun_unreachable
    (serving : s.ledger.Serving first acceptable opening request.encode []) (last : Refusal) :
    (s.unreachable request last).Begun first acceptable := by
  unfold unreachable
  split
  · exact begun_refuse serving last
  · exact begun_noted_refuse serving rfl _

theorem ledger_dialling {server : Endpoint} (attempt : Attempt) (fresh : server.socket = s.stream) :
    (s.dialling server attempt).ledger = s.ledger.dial := by
  have destinations : (s.dialling server attempt).session.destinations =
      s.session.destinations ++ [s.stream] := by
    simp [Session.destinations, dialling, Session.dropServer, Session.abandon, fresh]
  change { s.ledger with
    traffic := (s.dialling server attempt).session.destinations.map fun (socket : Socket) =>
      (socket.taken, socket.delivered) } = _
  rw [destinations, List.map_append]
  rfl

theorem begun_dial (connect : request.command = .connect)
    (serving : s.ledger.Serving first acceptable opening request.encode [])
    (rest : List Net.SocketAddress) (target : Net.SocketAddress) (outcome : Outcome) :
    (s.dial request rest target outcome).Begun first acceptable := by
  unfold dial
  dsimp only
  split
  · exact begun_serving_fail serving _
  · rename_i server registered
    have fresh : server.socket = s.stream := Endpoint.setInterest_socket registered
    have dialled : (s.dialling server ⟨target, outcome, false⟩).ledger.Serving first acceptable
        opening request.encode [] := by
      rw [ledger_dialling _ fresh]
      exact serving.dial
    apply await_posts
    · intro waiting same
      rw [← same] at dialled
      exact Or.inl ⟨connect, opening, dialled⟩
    · intro waiting cause same
      exact begun_serving_fail (same ▸ dialled) cause

theorem begun_connect (connect : request.command = .connect) (targets : List Net.SocketAddress)
    (last : Refusal) (serving : s.ledger.Serving first acceptable opening request.encode []) :
    (s.connect request targets last).Begun first acceptable := by
  induction targets generalizing s last with
  | nil => exact begun_unreachable serving last
  | cons target rest ih =>
      -- A refused address leaves its attempt behind, and the next one is tried from there.
      have tried : (s.attempting target).ledger.Serving first acceptable opening
          request.encode [] := serving.attempt target
      unfold Live.connect
      split
      · rename_i why refused
        exact ih why tried
      · rename_i outcome later
        exact begun_dial connect tried rest target outcome

theorem begun_lookUp (connect : request.command = .connect)
    (serving : s.ledger.Serving first acceptable opening request.encode []) :
    (s.lookUp request).Begun first acceptable := by
  unfold lookUp
  split
  · exact begun_noted_refuse serving rfl _
  · have asked : (s.asking request.address.host request.port).ledger.Serving first acceptable
        opening request.encode [] := serving.lookUp (request.address.host, request.port)
    apply await_posts
    · intro waiting same
      rw [← same] at asked
      exact Or.inl ⟨connect, opening, asked⟩
    · intro waiting cause same
      exact begun_serving_fail (same ▸ asked) cause

theorem begun_serve (serving : s.ledger.Serving first acceptable opening request.encode []) :
    (s.serve request).Begun first acceptable := by
  unfold serve
  by_cases connect : request.command = .connect
  · rw [if_pos connect]
    split
    · exact begun_connect connect _ _ serving
    · exact begun_lookUp connect serving
  · rw [if_neg connect]
    exact begun_noted_refuse serving rfl _

theorem begun_resolved (here : s.Begun first acceptable) (connect : request.command = .connect)
    (serving : s.ledger.Serving first acceptable opening request.encode []) :
    (s.resolved request).Begun first acceptable := by
  have took : ∀ lookup, (s.withLookup lookup).ledger.Serving first acceptable opening
      request.encode [] := fun _ => serving
  unfold resolved
  split
  · exact here
  · split
    · exact here
    · split
      · exact begun_noted_refuse (took _) rfl _
      · exact begun_connect connect _ _ (took _)

theorem ledger_withServer {before after : Endpoint} (serves : s.session.server = some before)
    (same : after.socket = before.socket) : (s.withServer (some after)).ledger = s.ledger := by
  have destinations : (s.withServer (some after)).session.destinations =
      s.session.destinations := by
    simp [Session.destinations, withServer, serves, same]
  change { s.ledger with
    traffic := (s.withServer (some after)).session.destinations.map fun (socket : Socket) =>
      (socket.taken, socket.delivered) } = _
  rw [destinations]
  rfl

theorem begun_connected {server : Endpoint} (serves : s.session.server = some server)
    (connect : request.command = .connect)
    (serving : s.ledger.Serving first acceptable opening request.encode [])
    (bound : Net.SocketAddress) : (s.connected request server bound).Begun first acceptable := by
  have kept : ∀ {idle refusal}, server.setInterest .none = (idle, refusal) →
      (s.withServer (some idle)).ledger.Serving first acceptable opening request.encode [] := by
    intro idle refusal registered
    rw [ledger_withServer serves (Endpoint.setInterest_socket registered)]
    exact serving
  unfold connected
  split <;> rename_i registered
  · exact begun_serving_fail (kept registered) _
  · apply begun_say (kept registered)
    intro staged answered
    exact Or.inl ⟨fun _ => connect, opening, _, rfl, answered⟩

theorem ledger_abandonServer : s.abandonServer.ledger = s.ledger := by
  have destinations : s.abandonServer.session.destinations = s.session.destinations := by
    simp [Session.destinations, abandonServer, Session.abandon]
  change { s.ledger with
    traffic := s.abandonServer.session.destinations.map fun (socket : Socket) =>
      (socket.taken, socket.delivered) } = _
  rw [destinations]
  rfl

theorem begun_settled (here : s.Begun first acceptable) (connect : request.command = .connect)
    (serving : s.ledger.Serving first acceptable opening request.encode []) (rest : Candidates) :
    (s.settled request rest).Begun first acceptable := by
  unfold settled
  split
  · exact begun_serving_fail serving _
  · exact here
  · rename_i server attempt serves trying
    split
    · split
      · exact begun_connected serves connect serving _
      · have left : s.abandonServer.ledger.Serving first acceptable opening request.encode [] := by
          rw [ledger_abandonServer]
          exact serving
        exact begun_connect connect _ _ left
    · exact here

theorem begun_readRequest {state : Wire.Request.State} {closed : Bool}
    (pending : Wire.Request.progress state = .needMore) (reads : Wire.Request.Reads state heard)
    (serving : s.ledger.Serving first acceptable opening heard []) :
    (s.readRequest state closed).Begun first acceptable := by
  have used : ∀ {taken buffer}, s.inbound.held = taken ++ buffer.held →
      (s.withInbound buffer).ledger.Serving first acceptable opening (heard ++ taken) [] :=
    fun split => serving.use split
  apply parse_posts Wire.Request.conclusive Wire.Request.tracks pending reads
  · intro taken buffer place split after waits
    apply needMore_posts
    · intro waiting same
      exact Or.inl ⟨waits, opening, _, after, same ▸ used split⟩
    · intro waiting cause same
      exact begun_serving_fail (same ▸ used split) cause
  · intro taken buffer place request split after given
    rw [Wire.Request.done_of_output given] at after
    have whole := used split
    rw [show heard ++ taken = request.encode from after] at whole
    exact begun_serve whole
  · intro taken buffer cause split
    exact begun_serving_fail (used split) cause

theorem begun_beginRequest (serving : s.ledger.Serving first acceptable opening [] []) :
    s.beginRequest.Begun first acceptable := by
  apply await_posts
  · intro waiting same
    rw [← same] at serving
    exact begun_readRequest rfl rfl serving
  · intro waiting cause same
    exact begun_serving_fail (same ▸ serving) cause

theorem begun_verdict {codes name password : Counted} {accepted : Bool}
    (chosen : Wire.Greeting.settled acceptable codes.val = .userPass)
    (meeting : s.ledger.Meeting first
      (Wire.Greeting.encode codes.val ++ Wire.Credentials.encode name.val password.val)
      [.selection .userPass] [⟨.ofBytes name.val password.val, some accepted⟩]) :
    (s.say (.verdict accepted) (enter (.verdict accepted))).Begun first acceptable := by
  apply begun_meeting_say meeting (Nat.le_refl _)
  · intro reply same
    cases same
  · intro staged told
    exact Or.inl ⟨codes, name, password, chosen, told⟩

/-- The authority is asked once, and whom it accepts is known by that name from then on. -/
theorem begun_check {codes : Counted} (name password : Counted)
    (chosen : Wire.Greeting.settled acceptable codes.val = .userPass)
    (meeting : s.ledger.Meeting first
      (Wire.Greeting.encode codes.val ++ Wire.Credentials.encode name.val password.val)
      [.selection .userPass] []) :
    (s.check (.ofBytes name.val password.val)).Begun first acceptable := by
  have stranger : s.ledger.user = none := meeting.user
  unfold check
  dsimp only
  cases answer : s.services.authenticate (.ofBytes name.val password.val) with
  | error cause =>
      -- An authority that gives no answer has been asked all the same.
      have asked := meeting.check ⟨.ofBytes name.val password.val, none⟩ stranger
      exact begun_fail (s := s.checking _) (asked.unserved (Nat.le_refl _)) cause
  | ok accepted =>
      cases accepted with
      | true => exact begun_verdict chosen (meeting.check _ rfl)
      | false =>
          have asked := meeting.check ⟨.ofBytes name.val password.val, some false⟩ stranger
          exact begun_verdict chosen (asked.note rfl)

theorem begun_readCredentials {state : Wire.Credentials.State} {closed : Bool} {codes : Counted}
    (chosen : Wire.Greeting.settled acceptable codes.val = .userPass)
    (pending : Wire.Credentials.progress state = .needMore)
    (reads : Wire.Credentials.Reads state heard)
    (meeting : s.ledger.Meeting first (Wire.Greeting.encode codes.val ++ heard)
      [.selection .userPass] []) :
    (s.readCredentials state closed).Begun first acceptable := by
  have used : ∀ {taken buffer}, s.inbound.held = taken ++ buffer.held →
      (s.withInbound buffer).ledger.Meeting first
        (Wire.Greeting.encode codes.val ++ (heard ++ taken)) [.selection .userPass] [] := by
    intro taken buffer split
    rw [← List.append_assoc]
    exact meeting.use split
  apply parse_posts Wire.Credentials.conclusive Wire.Credentials.tracks pending reads
  · intro taken buffer place split after waits
    apply needMore_posts
    · intro waiting same
      exact Or.inl ⟨waits, codes, _, chosen, after, same ▸ used split⟩
    · intro waiting cause same
      exact begun_fail (same ▸ (used split).unserved (Nat.zero_le _)) cause
  · intro taken buffer place credentials split after given
    obtain ⟨name, password, place, same⟩ := Wire.Credentials.done_of_output given
    rw [place] at after
    obtain ⟨nameFits, passwordFits, whole⟩ := after
    have complete := used split
    rw [whole] at complete
    rw [same]
    exact begun_check ⟨name, nameFits⟩ ⟨password, passwordFits⟩ chosen complete
  · intro taken buffer cause split
    exact begun_fail ((used split).unserved (Nat.zero_le _)) cause

theorem begun_readGreeting {state : Wire.Greeting.State} {closed : Bool}
    (pending : Wire.Greeting.progress state = .needMore)
    (reads : Wire.Greeting.Reads acceptable state heard)
    (meeting : s.ledger.Meeting first heard [] []) :
    (s.readGreeting acceptable state closed).Begun first acceptable := by
  have used : ∀ {taken buffer}, s.inbound.held = taken ++ buffer.held →
      (s.withInbound buffer).ledger.Meeting first (heard ++ taken) [] [] :=
    fun split => meeting.use split
  apply parse_posts (Wire.Greeting.conclusive acceptable) (Wire.Greeting.tracks acceptable) pending
    reads
  · intro taken buffer place split after waits
    apply needMore_posts
    · intro waiting same
      exact Or.inl ⟨rfl, waits, _, after, same ▸ used split⟩
    · intro waiting cause same
      exact begun_fail (same ▸ (used split).unserved (Nat.zero_le _)) cause
  · intro taken buffer place method split after given
    rw [Wire.Greeting.done_of_output given] at after
    obtain ⟨codes, fits, whole, chosen⟩ := after
    have complete := used split
    rw [whole] at complete
    apply begun_meeting_say complete (Nat.zero_le _)
    · intro reply same
      cases same
    · intro staged told
      exact Or.inl ⟨⟨codes, fits⟩, chosen.symm, told⟩
  · intro taken buffer cause split
    exact begun_fail ((used split).unserved (Nat.zero_le _)) cause

theorem begun_selected {codes : Counted} {method : Method}
    (chosen : Wire.Greeting.settled acceptable codes.val = method)
    (meeting : s.ledger.Meeting first (Wire.Greeting.encode codes.val) [.selection method] [])
    (sent : s.ledger.outbound = []) : (s.selected method).Begun first acceptable := by
  have ended : ∀ entry : Entry, entry.accessUser? = none →
      ((s.note entry).enter .done).Begun first acceptable := by
    intro entry silent
    have noted : (s.note entry).ledger.Meeting first (Wire.Greeting.encode codes.val)
        [.selection method] [] := meeting.note silent
    exact begun_done (noted.unserved (Nat.zero_le _))
  cases method with
  | noAuth =>
      have free : s.ledger.Meeting first (Opening.free codes).heard (Opening.free codes).said
          (Opening.free codes).checks := by
        rw [Opening.heard, Opening.proof, List.append_nil]
        exact meeting
      exact begun_beginRequest (free.letIn chosen sent)
  | userPass =>
      apply await_posts
      · intro waiting same
        have begins : Wire.Credentials.Reads .version [] := rfl
        rw [← same, ← List.append_nil (Wire.Greeting.encode codes.val)] at meeting
        exact begun_readCredentials chosen rfl begins meeting
      · intro waiting cause same
        exact begun_fail (same ▸ meeting.unserved (Nat.zero_le _)) cause
  | gssapi => exact ended _ rfl
  | assigned code => exact ended _ rfl
  | privateUse code => exact ended _ rfl
  | noMethods => exact ended _ rfl

theorem begun_judged {codes name password : Counted} {accepted : Bool}
    (chosen : Wire.Greeting.settled acceptable codes.val = .userPass)
    (meeting : s.ledger.Meeting first
      (Wire.Greeting.encode codes.val ++ Wire.Credentials.encode name.val password.val)
      [.selection .userPass, .verdict accepted] [⟨.ofBytes name.val password.val, some accepted⟩])
    (sent : s.ledger.outbound = []) : (s.judged accepted).Begun first acceptable := by
  cases accepted with
  | true =>
      have known : s.ledger.Meeting first (Opening.known codes name password).heard
          (Opening.known codes name password).said
          (Opening.known codes name password).checks := meeting
      exact begun_beginRequest (known.letIn chosen sent)
  | false => exact begun_done (meeting.unserved (Nat.le_refl _))

theorem traffic_started {relay : Relay} {server : Endpoint}
    (serves : s.session.server = some server) :
    (s.withScene ((s.scene relay server).move .start).1).ledger.traffic = s.ledger.traffic := by
  have started := fun way => Relay.Scene.direction_move (s.scene relay server) way .start
  have taken : ((s.scene relay server).move .start).1.ends.server.socket.taken =
      server.socket.taken := by
    refine (congrArg Relay.Direction.taken (started .server)).trans ?_
    exact (Relay.Direction.after_taken .start _).trans (List.append_nil _)
  have delivered : ((s.scene relay server).move .start).1.ends.server.socket.delivered =
      server.socket.delivered := by
    refine (congrArg Relay.Direction.delivered (started .client)).trans ?_
    exact Relay.Direction.start_delivered _
  have serves' : (s.withScene ((s.scene relay server).move .start).1).session.server =
      some ((s.scene relay server).move .start).1.ends.server := rfl
  rw [ledger_traffic serves', ledger_traffic serves, taken, delivered]
  rfl

theorem consistent_new (sniffer : Option Pop3.Sniffer) (server : Endpoint) (way : Side) :
    ((s.scene (.new sniffer) server).direction way).Consistent := by
  cases way <;> exact Relay.Direction.consistent_of_open rfl rfl

theorem begun_relay {reply : Reply} (sniffer : Option Pop3.Sniffer)
    (command : request.command = .connect) (status : reply.status = .success)
    (serving : s.ledger.Serving first acceptable opening request.encode [.reply reply]) :
    (s.relay (.new sniffer) Relay.Scene.start).Begun first acceptable := by
  cases serves : s.session.server with
  | none =>
      rw [Live.relay, serves]
      exact begun_serving_fail serving _
  | some server =>
      have consistent := fun way => s.consistent_new sniffer server way
      have leads := fun way => Relay.Scene.move_leads way .start (s.scene (.new sniffer) server)
        (consistent way)
      have quiet := Relay.Scene.quiet_move (s.scene (.new sniffer) server) .start
      have exchanged := exchanged_withScene serves leads quiet (serving.exchanged command status)
      -- A start that fails has passed nothing on, so its session ends as one that never relayed.
      have unserved : (s.withScene ((s.scene (.new sniffer) server).move
          .start).1).ledger.Unserved first acceptable := by
        refine .guest opening exchanged.admitted ?_
        rw [Ledger.Untouched, traffic_started serves]
        exact serving.untouched
      change (s.relay (.new sniffer) (Relay.Scene.move .start)).Begun first acceptable
      apply relay_cases serves
      · intro cause
        exact begun_fail unserved _
      · intro done
        exact begun_done unserved
      · have kept := fun way => Relay.Scene.move_keeps way _ Relay.Direction.after_consistent
          .start (s.scene (.new sniffer) server) (consistent way)
        exact Or.inr ⟨rfl, ⟨opening, request, reply, exchanged⟩, _, _, _, rfl, leads, kept, rfl⟩

theorem begun_replied {reply : Reply} {status : Status}
    (command : status = .success → request.command = .connect) (same : reply.status = status)
    (serving : s.ledger.Serving first acceptable opening request.encode [.reply reply]) :
    (s.replied request status).Begun first acceptable := by
  have noted : (s.note (.access s.session.client.address s.session.user request.command
      request.destination status)).ledger.Serving first acceptable opening request.encode
      [.reply reply] := serving.note fun who named => (Option.some.inj named).symm
  unfold replied
  dsimp only
  cases status with
  | success => exact begun_relay _ (command rfl) same noted
  | failure why => exact begun_done noted.unserved

end Live

end SocksProxy
