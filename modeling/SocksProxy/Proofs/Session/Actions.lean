import SocksProxy.Proofs.Session.Ledger

/-!
How the small actions of a session come out. An action that goes on with something else has one
rule: what holds of every way it can end holds of it. Beside each stands what it does to the books.
-/

namespace SocksProxy.Live

variable {P : Live → Prop} {s : Live}

theorem await_cases {wanted : Interest} {next : Live → Live}
    (ready : ∀ client, s.session.client.setInterest wanted = (client, none) →
      P (next (s.withClient client)))
    (refused : ∀ client cause, s.session.client.setInterest wanted = (client, some cause) →
      P ((s.withClient client).fail (.io cause))) : P (s.await wanted next) := by
  unfold await
  split
  · rename_i client registered
    exact ready client registered
  · rename_i client cause registered
    exact refused client cause registered

theorem ledger_withClient {client : Endpoint} (same : client.socket = s.session.client.socket) :
    (s.withClient client).ledger = s.ledger := by
  simp only [ledger, withClient, same, inbound, outbound, Session.destinations]

theorem await_posts {wanted : Interest} {next : Live → Live}
    (ready : ∀ waiting : Live, waiting.ledger = s.ledger → P (next waiting))
    (refused : ∀ (waiting : Live) cause, waiting.ledger = s.ledger → P (waiting.fail cause)) :
    P (s.await wanted next) := by
  apply await_cases
  · intro client registered
    exact ready _ (ledger_withClient (Endpoint.setInterest_socket registered))
  · intro client cause registered
    exact refused _ _ (ledger_withClient (Endpoint.setInterest_socket registered))

theorem needMore_posts {closed : Bool} {phase : Phase}
    (ready : ∀ waiting : Live, waiting.ledger = s.ledger → P (waiting.enter phase))
    (failed : ∀ (waiting : Live) cause, waiting.ledger = s.ledger → P (waiting.fail cause)) :
    P (s.needMore closed phase) := by
  unfold needMore
  split
  · exact failed s _ rfl
  · exact await_posts ready failed

theorem receive_cases {next : Bool → Live → Live} (arrived : ∀ closed, P (next closed s.took))
    (failed : ∀ cause, P (s.took.fail (.io cause))) : P (s.receive next) := by
  unfold receive
  split
  · exact arrived false
  · exact arrived false
  · exact arrived true
  · exact failed _

theorem ledger_took : s.took.ledger = s.ledger.receive s.incoming.bytes := by
  obtain ⟨inbox, tail, taken, own⟩ :=
    Socket.receive_socket s.inbound.room s.session.client.socket
  have delivered : s.incoming.socket.delivered = s.session.client.socket.delivered := by
    rw [incoming, own]
  have whole : s.incoming.bytes.take s.inbound.free.length = s.incoming.bytes :=
    List.take_of_length_le (Socket.receive_length _ _)
  have held : (s.inbound.put s.incoming.bytes).held = s.inbound.held ++ s.incoming.bytes := by
    rw [Buffer.put_held, whole]
  have taken : s.incoming.socket.taken = s.session.client.socket.taken ++ s.incoming.bytes :=
    Socket.receive_taken _ _
  change { s.ledger with
    taken := s.incoming.socket.taken
    delivered := s.incoming.socket.delivered
    inbound := (s.inbound.put s.incoming.bytes).held } = _
  rw [taken, delivered, held]
  rfl

theorem flush_cases {next : Live → Live} (drained : s.outgoing.ending = .drained → P (next s.gave))
    (blocked : P s.gave) (failed : ∀ cause, P (s.gave.fail (.io cause))) : P (s.flush next) := by
  unfold flush
  split
  · rename_i ending
    exact drained ending
  · exact blocked
  · exact failed _

theorem ledger_gave : s.gave.ledger = s.ledger.send s.outgoing.count := by
  obtain ⟨space, delivered, own⟩ :=
    Socket.transmit_socket s.outbound.held s.session.client.socket
  have taken : s.outgoing.socket.taken = s.session.client.socket.taken := by
    rw [outgoing, own]
  have delivered : s.outgoing.socket.delivered =
      s.session.client.socket.delivered ++ s.outbound.held.take s.outgoing.count :=
    Socket.transmit_delivered _ _
  change { s.ledger with
    taken := s.outgoing.socket.taken
    delivered := s.outgoing.socket.delivered
    outbound := (s.outbound.consume s.outgoing.count).held } = _
  rw [taken, delivered, Buffer.consume_held]
  rfl

theorem outbound_of_drained (drained : s.outgoing.ending = .drained) :
    s.gave.ledger.outbound = [] := by
  have all : s.outgoing.count = s.outbound.held.length := (Socket.transmit_drained _ _).mp drained
  rw [ledger_gave]
  change s.outbound.held.drop s.outgoing.count = []
  rw [all, List.drop_length]

/-- What a session does with a message depends on what it has heard, and it never lacks one. -/
theorem parse_cases {σ α : Type} {d : Wire.Decoder σ α} (conclusive : d.Conclusive)
    {absent : String} {again : σ → Phase} {next : α → Live → Live} {state : σ} {closed : Bool}
    (more : d.news (d.runOn state s.inbound).1 (d.runOn state s.inbound).2.1 = some .needMore →
      P ((s.withInbound (d.runOn state s.inbound).2.2).needMore closed
        (again (d.runOn state s.inbound).1)))
    (done : ∀ message,
      d.news (d.runOn state s.inbound).1 (d.runOn state s.inbound).2.1 = some (.done message) →
      P (next message (s.withInbound (d.runOn state s.inbound).2.2)))
    (failed : ∀ fault,
      d.news (d.runOn state s.inbound).1 (d.runOn state s.inbound).2.1 = some (.failed fault) →
      P ((s.withInbound (d.runOn state s.inbound).2.2).fail (.messageFormat fault.text))) :
    P (s.parse d absent again next state closed) := by
  obtain ⟨news, outcome⟩ := conclusive.news_of_run state s.inbound.held
  unfold parse
  cases news with
  | needMore =>
      have progress : (d.runOn state s.inbound).2.1 = .needMore :=
        Wire.Decoder.news_needMore.mp outcome
      simpa only [progress] using more outcome
  | done message =>
      obtain ⟨progress, output⟩ : (d.runOn state s.inbound).2.1 = .done ∧
          d.output (d.runOn state s.inbound).1 = some message :=
        Wire.Decoder.news_done.mp outcome
      simpa only [progress, output] using done message outcome
  | failed fault =>
      obtain ⟨progress, wrong⟩ : (d.runOn state s.inbound).2.1 = .failed ∧
          d.fault (d.runOn state s.inbound).1 = some fault :=
        Wire.Decoder.news_failed.mp outcome
      simpa only [progress, Wire.Decoder.reason_of_fault wrong] using failed fault outcome

theorem parse_posts {σ α : Type} {d : Wire.Decoder σ α} (conclusive : d.Conclusive)
    {reads : σ → Bytes → Prop} (tracks : d.Tracks reads) {absent : String} {again : σ → Phase}
    {next : α → Live → Live} {state : σ} {closed : Bool} {heard : Bytes}
    (pending : d.progress state = .needMore) (before : reads state heard)
    (more : ∀ taken buffer place, s.inbound.held = taken ++ buffer.held →
      reads place (heard ++ taken) → d.progress place = .needMore →
      P ((s.withInbound buffer).needMore closed (again place)))
    (done : ∀ taken buffer place message, s.inbound.held = taken ++ buffer.held →
      reads place (heard ++ taken) → d.output place = some message →
      P (next message (s.withInbound buffer)))
    (failed : ∀ taken buffer cause, s.inbound.held = taken ++ buffer.held →
      P ((s.withInbound buffer).fail cause)) :
    P (s.parse d absent again next state closed) := by
  obtain ⟨taken, split, after, report⟩ :=
    Wire.Decoder.runOn_tracks tracks s.inbound pending before
  refine parse_cases conclusive (fun outcome => ?_) (fun message outcome => ?_)
    fun fault outcome => ?_
  · exact more taken _ _ split after (report.symm.trans (Wire.Decoder.news_needMore.mp outcome))
  · exact done taken _ _ message split after (Wire.Decoder.news_done.mp outcome).2
  · exact failed taken _ _ split

theorem say_cases {message : Message} {next : Live → Live}
    (full : ∀ fault, P (s.fail (.ofWrite fault)))
    (refused : ∀ buffer client cause, message.write s.outbound = .ok buffer →
      s.session.client.setInterest .writeOnly = (client, some cause) →
      P (((s.staged message buffer).withClient client).fail (.io cause)))
    (ready : ∀ buffer client, message.write s.outbound = .ok buffer →
      s.session.client.setInterest .writeOnly = (client, none) →
      P (next ((s.staged message buffer).withClient client))) : P (s.say message next) := by
  unfold say
  cases written : message.write s.outbound with
  | error fault => exact full fault
  | ok buffer =>
      exact await_cases (fun client registered => ready buffer client written registered)
        fun client cause registered => refused buffer client cause written registered

theorem ledger_staged {message : Message} {buffer : Buffer}
    (written : message.write s.outbound = .ok buffer) :
    (s.staged message buffer).ledger = s.ledger.say message := by
  have held : buffer.held = s.outbound.held ++ message.encode := Message.write_held written
  change { s.ledger with
    outbound := buffer.held, said := s.session.record.said ++ [message] } = _
  rw [held]
  rfl

theorem say_posts {message : Message} {next : Live → Live}
    (ready : ∀ staged : Live, staged.ledger = s.ledger.say message → P (next staged))
    (refused : ∀ cause, P (s.fail cause))
    (failed : ∀ (staged : Live) cause, staged.ledger = s.ledger.say message →
      P (staged.fail cause)) : P (s.say message next) := by
  have staged : ∀ {buffer client refusal}, message.write s.outbound = .ok buffer →
      s.session.client.setInterest .writeOnly = (client, refusal) →
        ((s.staged message buffer).withClient client).ledger = s.ledger.say message := by
    intro buffer client refusal written registered
    have same : ((s.staged message buffer).withClient client).ledger =
        (s.staged message buffer).ledger :=
      ledger_withClient (Endpoint.setInterest_socket registered)
    exact same.trans (ledger_staged written)
  apply say_cases
  · intro fault
    exact refused _
  · intro buffer client cause written registered
    exact failed _ _ (staged written registered)
  · intro buffer client written registered
    exact ready _ (staged written registered)

end SocksProxy.Live
