import SocksProxy.Proofs.Session.Relaying

/-!
What one event can do to a session, said once. A session that reads first takes what has come, one
that writes first gives what is staged; after that it acts at most once, on what it has heard or on
having been heard.
-/

namespace SocksProxy

open Wire (Method Request Status)

/-- What the octets that a session was waiting for amount to. -/
inductive Heard where
  -- Not enough yet; this is the phase to wait for the rest in.
  | more (phase : Phase)
  | mistake (fault : Wire.Invalid)
  | method (method : Method)
  | credentials (credentials : Wire.Credentials)
  | request (request : Request)

namespace Heard

variable {σ α : Type}

def ofNews (waiting : Phase) (told : α → Heard) : Wire.News α → Heard
  | .needMore => .more waiting
  | .failed fault => .mistake fault
  | .done message => told message

def byRunning (d : Wire.Decoder σ α) (again : σ → Phase) (told : α → Heard) (state : σ)
    (b : Buffer) : Option (Heard × Buffer) :=
  let result := d.runOn state b
  (d.news result.1 result.2.1).map fun news => (ofNews (again result.1) told news, result.2.2)

theorem byRunning_of_news {d : Wire.Decoder σ α} {again : σ → Phase} {told : α → Heard} {state : σ}
    {b : Buffer} {news : Wire.News α}
    (outcome : d.news (d.runOn state b).1 (d.runOn state b).2.1 = some news) :
    byRunning d again told state b =
      some (ofNews (again (d.runOn state b).1) told news, (d.runOn state b).2.2) := by
  simp only [byRunning, outcome, Option.map_some]

theorem news_of_byRunning {d : Wire.Decoder σ α} {again : σ → Phase} {told : α → Heard} {state : σ}
    {b rest : Buffer} {heard : Heard}
    (hears : byRunning d again told state b = some (heard, rest)) :
    rest = (d.runOn state b).2.2 ∧
      ∃ news, d.news (d.runOn state b).1 (d.runOn state b).2.1 = some news ∧
        heard = ofNews (again (d.runOn state b).1) told news := by
  simp only [byRunning, Option.map_eq_some_iff, Prod.mk.injEq] at hears
  obtain ⟨news, outcome, same, left⟩ := hears
  exact ⟨left.symm, news, outcome, same.symm⟩

end Heard

namespace Phase

def reads : Phase → Bool
  | .greeting _ _ | .credentials _ | .request _ => true
  | _ => false

def writes : Phase → Bool
  | .selecting _ | .verdict _ | .replying _ _ => true
  | _ => false

/-- The events that a phase acts on. -/
def heeds : Phase → Event → Bool
  | .greeting _ _, .readable .client | .credentials _, .readable .client
  | .request _, .readable .client => true
  | .selecting _, .writable .client | .verdict _, .writable .client
  | .replying _ _, .writable .client => true
  | .resolving _, .resumed | .connecting _ _ _, .writable .server => true
  | .relaying _, .readable _ | .relaying _, .writable _ => true
  | _, _ => false

/-- What a phase makes of what a buffer holds, and what it leaves there. -/
def hear (b : Buffer) : Phase → Option (Heard × Buffer)
  | .greeting acceptable state =>
      Heard.byRunning (Wire.Greeting.decoder acceptable) (.greeting acceptable) .method state b
  | .credentials state => Heard.byRunning Wire.Credentials.decoder .credentials .credentials state b
  | .request state => Heard.byRunning Wire.Request.decoder .request .request state b
  | _ => none

theorem reads_of_hear {phase : Phase} {b : Buffer} {news : Heard × Buffer}
    (hears : phase.hear b = some news) : phase.reads = true := by
  cases phase <;> first | rfl | cases hears

theorem not_reads_of_writes {phase : Phase} (writes : phase.writes = true) :
    ¬ phase.reads = true := by
  cases phase <;> first | exact Bool.false_ne_true | cases writes

theorem heeds_of_reads {phase : Phase} (reads : phase.reads = true) :
    phase.heeds (.readable .client) = true := by
  cases phase <;> first | rfl | cases reads

theorem heeds_of_writes {phase : Phase} (writes : phase.writes = true) :
    phase.heeds (.writable .client) = true := by
  cases phase <;> first | rfl | cases writes

end Phase

namespace Live

/-- A session reads in this phase, as it was or once it is registered for it: it goes on reading, or
the client has just learned that it may go on. -/
inductive Turns (s : Live) : Phase → Live → Prop where
  | stays (reads : s.session.phase.reads = true) : Turns s s.session.phase s
  | begins {client : Endpoint}
      (admitted : s.session.phase = .selecting .noAuth ∨ s.session.phase = .verdict true)
      (sent : s.outbound.held = [])
      (registered : s.session.client.setInterest .readOnly = (client, none)) :
      Turns s (.request .version) (s.withClient client)
  | challenges {client : Endpoint} (asked : s.session.phase = .selecting .userPass)
      (sent : s.outbound.held = [])
      (registered : s.session.client.setInterest .readOnly = (client, none)) :
      Turns s (.credentials .version) (s.withClient client)

/-- What a session does once it has read, or once all that was staged is sent. -/
inductive Act (s : Live) : Live → Prop where
  | unregistered {wanted : Interest} {client : Endpoint} {cause : Net.IoError}
      (refused : s.session.client.setInterest wanted = (client, some cause)) :
      Act s ((s.withClient client).fail (.io cause))
  | waits {phase next : Phase} {x : Live} {buffer : Buffer} (turns : s.Turns phase x)
      (heard : phase.hear x.inbound = some (.more next, buffer)) :
      Act s ((x.withInbound buffer).await .readOnly (enter next))
  | leaves {next : Phase} {buffer : Buffer}
      (heard : s.session.phase.hear s.inbound = some (.more next, buffer))
      (empty : s.session.client.socket.inbox = [])
      (finished : s.session.client.socket.tail = .finished) :
      Act s ((s.withInbound buffer).fail (.peerClosed s.session.client.address))
  | mistakes {phase : Phase} {x : Live} {buffer : Buffer} {fault : Wire.Invalid}
      (turns : s.Turns phase x) (heard : phase.hear x.inbound = some (.mistake fault, buffer)) :
      Act s ((x.withInbound buffer).fail (.messageFormat fault.text))
  | selects {phase : Phase} {x : Live} {buffer : Buffer} {method : Method}
      (turns : s.Turns phase x) (heard : phase.hear x.inbound = some (.method method, buffer)) :
      Act s ((x.withInbound buffer).say (.selection method) (enter (.selecting method)))
  | verifies {phase : Phase} {x : Live} {buffer : Buffer} {credentials : Wire.Credentials}
      (turns : s.Turns phase x)
      (heard : phase.hear x.inbound = some (.credentials credentials, buffer)) :
      Act s ((x.withInbound buffer).check credentials)
  | serves {phase : Phase} {x : Live} {buffer : Buffer} {request : Request}
      (turns : s.Turns phase x) (heard : phase.hear x.inbound = some (.request request, buffer)) :
      Act s ((x.withInbound buffer).serve request)
  | dismisses {method : Method} (told : s.session.phase = .selecting method)
      (sent : s.outbound.held = []) (other : method ≠ .noAuth ∧ method ≠ .userPass) :
      Act s (s.selected method)
  | rejects (told : s.session.phase = .verdict false) (sent : s.outbound.held = []) :
      Act s (s.enter .done)
  | replied {request : Request} {status : Status}
      (told : s.session.phase = .replying request status) (sent : s.outbound.held = []) :
      Act s (s.replied request status)

/-- What one event can lead to. -/
inductive Handled (s : Live) : Event → Live → Prop where
  | nothing {event : Event} (deaf : s.session.phase.heeds event = false) : Handled s event s
  | heard {after : Live} (reads : s.session.phase.reads = true)
      (sound : ∀ cause, s.incoming.ending ≠ .failed cause) (act : s.took.Act after) :
      Handled s (.readable .client) after
  | unheard {cause : Net.IoError} (reads : s.session.phase.reads = true)
      (broken : s.incoming.ending = .failed cause) :
      Handled s (.readable .client) (s.took.fail (.io cause))
  | sent {after : Live} (writes : s.session.phase.writes = true)
      (drained : s.outgoing.ending = .drained) (act : s.gave.Act after) :
      Handled s (.writable .client) after
  | halted (writes : s.session.phase.writes = true) (blocked : s.outgoing.ending = .blocked) :
      Handled s (.writable .client) s.gave
  | unsent {cause : Net.IoError} (writes : s.session.phase.writes = true)
      (broken : s.outgoing.ending = .failed cause) :
      Handled s (.writable .client) (s.gave.fail (.io cause))
  | resumed {request : Request} (asked : s.session.phase = .resolving request) :
      Handled s .resumed (s.resolved request)
  | decided {request : Request} {rest : Candidates} {target : Net.SocketAddress}
      (trying : s.session.phase = .connecting request rest target) :
      Handled s (.writable .server) (s.settled request rest)
  | readable {relay : Relay} {side : Side} (relaying : s.session.phase = .relaying relay) :
      Handled s (.readable side) (s.relay relay (Relay.Scene.move (.readable side)))
  | writable {relay : Relay} {side : Side} (relaying : s.session.phase = .relaying relay) :
      Handled s (.writable side) (s.relay relay (Relay.Scene.move (.writable side)))

variable {s : Live} {phase : Phase} {x : Live}

def Closing (s : Live) (closed : Bool) (phase : Phase) (x : Live) : Prop :=
  closed = true → x = s ∧ phase = s.session.phase ∧ s.session.client.socket.inbox = [] ∧
    s.session.client.socket.tail = .finished

theorem closing_false : s.Closing false phase x := fun impossible => by cases impossible

theorem act_needMore {next : Phase} {buffer : Buffer} {closed : Bool} (turns : s.Turns phase x)
    (closing : s.Closing closed phase x)
    (heard : phase.hear x.inbound = some (.more next, buffer)) :
    s.Act ((x.withInbound buffer).needMore closed next) := by
  cases closed with
  | true =>
      obtain ⟨rfl, rfl, empty, finished⟩ := closing rfl
      exact .leaves heard empty finished
  | false => exact .waits turns heard

theorem act_parse {σ α : Type} {d : Wire.Decoder σ α} (conclusive : d.Conclusive)
    {absent : String} {again : σ → Phase} {told : α → Heard} {next : α → Live → Live} {state : σ}
    {closed : Bool} (turns : s.Turns (again state) x) (closing : s.Closing closed (again state) x)
    (hears : ∀ b, (again state).hear b = Heard.byRunning d again told state b)
    (acts : ∀ message buffer, (again state).hear x.inbound = some (told message, buffer) →
      s.Act (next message (x.withInbound buffer))) :
    s.Act (x.parse d absent again next state closed) := by
  have heard : ∀ {news}, d.news (d.runOn state x.inbound).1 (d.runOn state x.inbound).2.1 =
      some news → (again state).hear x.inbound = some (Heard.ofNews
        (again (d.runOn state x.inbound).1) told news, (d.runOn state x.inbound).2.2) :=
    fun outcome => (hears x.inbound).trans (Heard.byRunning_of_news outcome)
  refine parse_cases conclusive (fun outcome => ?_) (fun message outcome => ?_)
    fun fault outcome => ?_
  · exact act_needMore turns closing (heard outcome)
  · exact acts message _ (heard outcome)
  · exact .mistakes turns (heard outcome)

theorem act_readGreeting {acceptable : List Method} {state : Wire.Greeting.State} {closed : Bool}
    (turns : s.Turns (.greeting acceptable state) x)
    (closing : s.Closing closed (.greeting acceptable state) x) :
    s.Act (x.readGreeting acceptable state closed) :=
  act_parse (Wire.Greeting.conclusive acceptable) turns closing (fun _ => rfl)
    fun _ _ heard => .selects turns heard

theorem act_readCredentials {state : Wire.Credentials.State} {closed : Bool}
    (turns : s.Turns (.credentials state) x) (closing : s.Closing closed (.credentials state) x) :
    s.Act (x.readCredentials state closed) :=
  act_parse Wire.Credentials.conclusive turns closing (fun _ => rfl)
    fun _ _ heard => .verifies turns heard

theorem act_readRequest {state : Wire.Request.State} {closed : Bool}
    (turns : s.Turns (.request state) x) (closing : s.Closing closed (.request state) x) :
    s.Act (x.readRequest state closed) :=
  act_parse Wire.Request.conclusive turns closing (fun _ => rfl)
    fun _ _ heard => .serves turns heard

theorem act_beginRequest
    (admitted : s.session.phase = .selecting .noAuth ∨ s.session.phase = .verdict true)
    (sent : s.outbound.held = []) : s.Act s.beginRequest := by
  unfold beginRequest await
  split <;> rename_i registered
  · exact act_readRequest (.begins admitted sent registered) closing_false
  · exact .unregistered registered

theorem act_selected {method : Method} (told : s.session.phase = .selecting method)
    (sent : s.outbound.held = []) : s.Act (s.selected method) := by
  cases method with
  | noAuth => exact act_beginRequest (Or.inl told) sent
  | userPass =>
      unfold selected await
      dsimp only
      split <;> rename_i registered
      · exact act_readCredentials (.challenges told sent registered) closing_false
      · exact .unregistered registered
  | _ => exact .dismisses told sent (by simp)

theorem act_judged {accepted : Bool} (told : s.session.phase = .verdict accepted)
    (sent : s.outbound.held = []) : s.Act (s.judged accepted) := by
  cases accepted with
  | true => exact act_beginRequest (Or.inr told) sent
  | false => exact .rejects told sent

theorem selected_other {method : Method} (other : method ≠ .noAuth ∧ method ≠ .userPass) :
    ∃ entry : Entry, entry.accessUser? = none ∧ s.selected method = (s.note entry).enter .done := by
  cases method with
  | noAuth => exact absurd rfl other.1
  | userPass => exact absurd rfl other.2
  | _ => exact ⟨_, rfl, rfl⟩

theorem handled_receive {next : Bool → Live → Live} (reads : s.session.phase.reads = true)
    (acts : ∀ closed, s.took.Closing closed s.session.phase s.took →
      s.took.Act (next closed s.took)) : s.Handled (.readable .client) (s.receive next) := by
  unfold receive
  split <;> rename_i ending
  · exact .heard reads (by simp [ending]) (acts false closing_false)
  · exact .heard reads (by simp [ending]) (acts false closing_false)
  · obtain ⟨empty, finished⟩ := Socket.receive_ended ending
    exact .heard reads (by simp [ending]) (acts true fun _ => ⟨rfl, rfl, empty, finished⟩)
  · exact .unheard reads ending

theorem handled_flush {next : Live → Live} (writes : s.session.phase.writes = true)
    (acts : s.gave.outbound.held = [] → s.gave.Act (next s.gave)) :
    s.Handled (.writable .client) (s.flush next) := by
  unfold flush
  split <;> rename_i ending
  · exact .sent writes ending (acts (outbound_of_drained ending))
  · exact .halted writes ending
  · exact .unsent writes ending

theorem handled (s : Live) (event : Event) : s.Handled event (s.handle event) := by
  have stays : ∀ {phase}, s.session.phase = phase → phase.reads = true →
      s.took.Turns phase s.took := by
    intro phase same reads
    rw [← same] at reads ⊢
    exact .stays reads
  unfold handle
  split
  · rename_i acceptable state phase
    have reads : s.session.phase.reads = true := by rw [phase]; rfl
    exact handled_receive reads fun closed closing =>
      act_readGreeting (stays phase rfl) (phase ▸ closing)
  · rename_i method phase
    exact handled_flush (by rw [phase]; rfl) fun sent => act_selected phase sent
  · rename_i state phase
    have reads : s.session.phase.reads = true := by rw [phase]; rfl
    exact handled_receive reads fun closed closing =>
      act_readCredentials (stays phase rfl) (phase ▸ closing)
  · rename_i accepted phase
    exact handled_flush (by rw [phase]; rfl) fun sent => act_judged phase sent
  · rename_i state phase
    have reads : s.session.phase.reads = true := by rw [phase]; rfl
    exact handled_receive reads fun closed closing =>
      act_readRequest (stays phase rfl) (phase ▸ closing)
  · rename_i request phase
    exact .resumed phase
  · rename_i request rest target phase
    exact .decided phase
  · rename_i request status phase
    exact handled_flush (by rw [phase]; rfl) fun sent => .replied phase sent
  · rename_i relay side phase
    exact .readable phase
  · rename_i relay side phase
    exact .writable phase
  · refine .nothing ?_
    unfold Phase.heeds
    split <;> simp_all

theorem handle_deaf {event : Event} (deaf : s.session.phase.heeds event = false) :
    s.handle event = s := by
  unfold handle
  split <;> rename_i phase <;> first
    | rfl
    | (rw [phase] at deaf; cases deaf)

end Live

end SocksProxy
