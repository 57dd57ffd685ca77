import SocksProxy.Proofs.Session.Mirror

/-!
What an event brings about, the dialogue comes to as well. Where no event brings anything about, a
session that is not over is waiting for its client.
-/

namespace SocksProxy

open Net (SocketAddress)
open Wire (Refusal Request Status)

theorem Lookup.finish_ne {lookup : Lookup} (running : lookup.stage = .running) :
    lookup.finish ≠ lookup := by
  intro same
  have stage := congrArg Lookup.stage same
  unfold Lookup.finish at stage
  rw [running] at stage
  dsimp only at stage
  split at stage <;> cases stage

namespace Live

variable {around : Setting} {unsent : Bytes} {d : Dialogue} {s : Live}

/-- There is nothing that this event could bring about. -/
inductive Idles (s : Live) : Event → Prop where
  | deaf {event : Event} (deaf : s.session.phase.heeds event = false) : Idles s event
  | unread (reads : s.session.phase.reads = true) (nothing : s.took.inbound.held = []) :
      Idles s (.readable .client)
  | unresolved {lookup : Lookup} (asked : s.session.lookup = some lookup)
      (running : lookup.stage = .running) : Idles s .resumed
  | undecided {attempt : Attempt} (trying : s.session.attempt = some attempt)
      (waiting : attempt.settled = false) : Idles s (.writable .server)

theorem took_held (s : Live) : s.took.inbound.held = s.inbound.held ++ s.incoming.bytes := by
  change (s.inbound.put s.incoming.bytes).held = _
  rw [Buffer.put_held]
  exact congrArg (s.inbound.held ++ ·)
    (List.take_of_length_le (Socket.receive_length s.inbound.room _))

theorem mirrors_took (mirrors : s.Mirrors around unsent d) :
    s.took.Mirrors around unsent d ∧ ∀ cause, s.incoming.ending ≠ .failed cause := by
  obtain ⟨agrees, stage, asked, staged⟩ := mirrors
  obtain ⟨conditions, allows, ahead, told, user, lookups, attempts⟩ := agrees
  have sound : s.session.client.socket.tail ≠ .reset := by
    rcases allows.tail with same | ⟨same, -⟩ <;> simp [same]
  obtain ⟨⟨inbox, taken, own⟩, unbroken⟩ := Socket.receive_sound sound s.inbound.room
  refine ⟨⟨⟨conditions, ?_, ?_, ?_, user, lookups, attempts⟩, stage, asked, staged⟩, unbroken⟩
  · change around.Allows unsent _ _ (s.session.client.socket.receive s.inbound.room).socket
    rw [own]
    exact ⟨allows.users, allows.address, allows.space, allows.tail⟩
  · have split := Socket.receive_inbox s.inbound.room s.session.client.socket
    rw [took_held, ahead, ← split, List.append_assoc, List.append_assoc]
    rfl
  · change d.told = (s.session.client.socket.receive s.inbound.room).socket.delivered ++ _
    rw [own]
    exact told

theorem mirrors_gave (mirrors : s.Mirrors around unsent d) :
    s.gave.Mirrors around unsent d ∧ s.outgoing.ending = .drained := by
  obtain ⟨⟨conditions, allows, ahead, told, user, lookups, attempts⟩, stage, asked, -⟩ := mirrors
  have sent := Socket.transmit_free allows.space s.outbound.held
  have empty : s.gave.outbound.held = [] := by
    change (s.outbound.consume (s.session.client.socket.transmit s.outbound.held).count).held = []
    rw [sent, Buffer.consume_held, List.drop_length]
  refine ⟨⟨⟨conditions, ?_, ?_, ?_, user, lookups, attempts⟩, stage, asked, Or.inr empty⟩, ?_⟩
  · change around.Allows unsent _ _ (s.session.client.socket.transmit s.outbound.held).socket
    rw [sent]
    exact ⟨allows.users, allows.address, allows.space, allows.tail⟩
  · change d.ahead = s.inbound.held ++
      ((s.session.client.socket.transmit s.outbound.held).socket.inbox ++ unsent)
    rw [sent]
    exact ahead
  · change d.told = (s.session.client.socket.transmit s.outbound.held).socket.delivered ++
      s.gave.outbound.held
    rw [sent, empty, List.append_nil]
    exact told
  · exact congrArg Sent.ending sent

theorem advances_resolved {request : Request} (mirrors : s.Mirrors around unsent d) (free : s.Free)
    (asked : s.session.phase = .resolving request) :
    (s.resolved request).Advances around unsent d ∨
      s.resolved request = s ∧ s.Idles .resumed := by
  obtain ⟨lookup, present, pending⟩ := mirrors.asked request asked
  have step : d.advance around = some (d.enter (.trying request
      (around.services.resolve request.address.host request.port).found .hostUnreachable)) := by
    rw [Dialogue.advance, mirrors.stands asked rfl]
  rw [resolved, present]
  dsimp only
  rcases pending.outcome with nothing | found
  · right
    simp only [Lookup.take, nothing]
    exact ⟨trivial, .unresolved present (Lookup.running_of_outcome nothing)⟩
  · left
    simp only [Lookup.take, found]
    have still : (s.withLookup { lookup with taken := true }).Free :=
      free.framed (s.framed_withLookup _) rfl
    have agrees : (s.withLookup { lookup with taken := true }).Agrees around unsent d :=
      { mirrors.agrees with }
    apply Advances.of_step step
    split <;> rename_i addresses
    · rw [addresses]
      have blames : request.blames .hostUnreachable = .hostUnreachable := by
        unfold Request.blames
        split <;> rfl
      have refuses : (d.enter (.trying request [] .hostUnreachable)).advance around =
          some (d.refuse request .hostUnreachable) :=
        congrArg (fun why => some (d.refuse request why)) blames
      exact .head refuses (mirrors_noted_refuse request _ _ still agrees).continues
    · rw [addresses]
      exact continues_connect _ _ still agrees

theorem advances_settled {request : Request} {rest : Candidates} {target : SocketAddress}
    (mirrors : s.Mirrors around unsent d) (free : s.Free)
    (present : s.session.server.isSome = true)
    (trying : s.session.phase = .connecting request rest target) :
    (s.settled request rest).Advances around unsent d ∨
      s.settled request rest = s ∧ s.Idles (.writable .server) := by
  have stage := mirrors.stage
  rw [trying] at stage
  obtain ⟨attempt, trial, awaiting⟩ := Option.map_eq_some_iff.mp stage
  obtain ⟨server, serves⟩ := Option.isSome_iff_exists.mp present
  have step : d.advance around = match attempt.outcome with
      | .failed why => some (d.enter (.trying request rest.waiting why))
      | .connected bound =>
          some (d.say (.reply (.bound .success bound)) (.replying request .success)) := by
    rw [Dialogue.advance, ← awaiting]
    cases attempt.outcome <;> rfl
  rw [settled, serves, trial]
  dsimp only
  split <;> rename_i decided
  · left
    cases outcome : attempt.outcome <;> rw [outcome] at step <;> dsimp only
    case connected bound =>
      have still : (s.resting server).Free := free.framed (framed_resting serves) rfl
      have agrees : (s.resting server).Agrees around unsent d := { mirrors.agrees with }
      rw [connected_able free.able serves, say_able still.able still.roomy]
      refine .of_step step (Mirrors.continues ⟨{ agrees_staged (.reply (.bound .success bound))
        (.replying request .success) still agrees with }, rfl, ?_, Or.inl rfl⟩)
      intro other impossible
      cases impossible
    case failed why =>
      have still : s.abandonServer.Free := free.framed s.framed_abandonServer rfl
      have agrees : s.abandonServer.Agrees around unsent d := { mirrors.agrees with }
      exact .of_step step (continues_connect rest.waiting why still agrees)
  · exact Or.inr ⟨rfl, .undecided trial (Bool.eq_false_iff.mpr decided)⟩

/-- What an event brings about is carried out by the dialogue as well. -/
theorem advances_handle (ready : s.Ready around.services) (mirrors : s.Mirrors around unsent d)
    (unrelayed : s.relays = false) (event : Event) :
    (s.handle event).Advances around unsent d ∨
      (s.handle event).Mirrors around unsent d ∧ s.Idles event := by
  have provided := ready.provided
  have handled := s.handled event
  generalize s.handle event = after at handled
  cases handled with
  | nothing deaf => exact Or.inr ⟨mirrors, .deaf deaf⟩
  | heard reads sound act =>
      have free : s.took.Free := ⟨(framed_took s).able ready.able,
        roomy_took ready.size (unused_of_reads provided reads).2⟩
      have reaches : s.Reaches s.session.phase := reaches_of_provided provided (Or.inl reads)
      rcases advances_act (mirrors_took mirrors).1 free reaches act with
        onward | ⟨-, nothing, still⟩
      · exact Or.inl onward
      · exact Or.inr ⟨still, .unread reads nothing⟩
  | unheard reads broken => exact absurd broken ((mirrors_took mirrors).2 _)
  | sent writes drained act =>
      have free : s.gave.Free := ⟨(framed_gave s).able ready.able,
        roomy_gave ready.size (outbound_of_drained drained)⟩
      have reaches : s.Reaches s.session.phase := reaches_of_provided provided (Or.inr writes)
      rcases advances_act (mirrors_gave mirrors).1 free reaches act with onward | ⟨reads, -, -⟩
      · exact Or.inl onward
      · exact absurd reads (Phase.not_reads_of_writes writes)
  | halted writes blocked =>
      rw [(mirrors_gave mirrors).2] at blocked
      cases blocked
  | unsent writes broken =>
      rw [(mirrors_gave mirrors).2] at broken
      cases broken
  | resumed asked =>
      rw [asked] at provided
      have free : s.Free := ⟨ready.able, (Buffer.unused_iff _).mp provided.1, ready.size⟩
      rcases advances_resolved mirrors free asked with onward | ⟨same, idles⟩
      · exact Or.inl onward
      · exact Or.inr ⟨same.symm ▸ mirrors, idles⟩
  | decided trying =>
      rw [trying] at provided
      have free : s.Free := ⟨ready.able, (Buffer.unused_iff _).mp provided.1, ready.size⟩
      rcases advances_settled mirrors free provided.2 trying with onward | ⟨same, idles⟩
      · exact Or.inl onward
      · exact Or.inr ⟨same.symm ▸ mirrors, idles⟩
  | readable relaying => simp [relays, relaying] at unrelayed
  | writable relaying => simp [relays, relaying] at unrelayed

theorem handle_finished (finished : s.session.isFinished = true) (event : Event) :
    s.handle event = s := by
  unfold handle
  split <;> rename_i phase <;> first
    | rfl
    | simp [Session.isFinished, phase, Phase.isFinished] at finished

theorem handle_ended (reads : s.session.phase.reads = true) (nothing : s.took.inbound.held = [])
    (ended : s.incoming.ending = .ended) :
    (s.handle (.readable .client)).session.phase =
      .failed (.peerClosed s.session.client.address) := by
  cases here : s.session.phase <;> rw [here] at reads <;> try cases reads
  all_goals
    simp only [handle, here, receive, ended, readGreeting, readCredentials, readRequest, parse,
      Wire.Decoder.runOn_nothing nothing, needMore]
    rfl

/-- Where there is nothing to be done, a session that is not over is waiting to read. -/
theorem reads_of_idles (unrelayed : s.relays = false) (unfinished : s.session.isFinished = false)
    (settled : s.settle.session = s.session) (lookedUp : s.finishLookup.session = s.session)
    (idles : ∀ event, s.Idles event) : s.session.phase.reads = true := by
  have written : s.session.phase.writes = false := by
    apply Bool.eq_false_iff.mpr
    intro writes
    cases idles (.writable .client) with
    | deaf deaf =>
        rw [Phase.heeds_of_writes writes] at deaf
        cases deaf
  cases here : s.session.phase with
  | greeting acceptable state => rfl
  | credentials state => rfl
  | request state => rfl
  | selecting method => rw [here] at written; cases written
  | verdict accepted => rw [here] at written; cases written
  | replying request status => rw [here] at written; cases written
  | resolving request =>
      cases idles .resumed with
      | deaf deaf =>
          rw [here] at deaf
          cases deaf
      | unresolved asked running =>
          have same : s.session.lookup.map Lookup.finish = s.session.lookup :=
            congrArg Session.lookup lookedUp
          rw [asked] at same
          exact absurd (Option.some.inj same) (Lookup.finish_ne running)
  | connecting request rest target =>
      cases idles (.writable .server) with
      | deaf deaf =>
          rw [here] at deaf
          cases deaf
      | undecided trying waiting =>
          have same : s.session.attempt.map (fun attempt => { attempt with settled := true }) =
              s.session.attempt := congrArg Session.attempt settled
          rw [trying] at same
          have decided := congrArg Attempt.settled (Option.some.inj same)
          rw [waiting] at decided
          cases decided
  | relaying relay => simp [relays, here] at unrelayed
  | failed cause => simp [Session.isFinished, here, Phase.isFinished] at unfinished
  | done => simp [Session.isFinished, here, Phase.isFinished] at unfinished

end Live

end SocksProxy
