import SocksProxy.Proofs.Session.Advance
import SocksProxy.Proofs.Session.Speech

/-!
The order of a session. Its phases never go back, each kind of message is said at most once, and
the access line is written when the client has been told the outcome, and not before.
-/

namespace SocksProxy

open Net (SocketAddress)
open Wire (Method Refusal Reply Request Status)

namespace Speech

variable {first t after : Speech} {reply : Reply}

def replies (t : Speech) : List Reply := t.said.filterMap Message.reply?

/-- All that was said since the books began has been written. -/
def Told (t first : Speech) : Prop :=
  (first.delivered ++ t.said.flatMap Message.encode) <+: t.delivered

/-- Whatever was said has been written or waits to be, and no outcome has been noted. -/
structure Open (t first : Speech) : Prop where
  talk : t.delivered ++ t.held = first.delivered ++ t.said.flatMap Message.encode
  accesses : t.accesses = first.accesses

/-- This message was the last one said, and part of it waits to be written. -/
structure Sending (t first : Speech) (message : Message) : Prop where
  talk : t.Open first
  last : ∃ before, t.said = before ++ [message]
  rest : t.held <:+ message.encode
  left : t.held ≠ []

/-- A reply has been written, and its outcome noted. -/
structure Settled (t first : Speech) (reply : Reply) : Prop where
  replies : t.replies = [reply]
  told : t.Told first
  accesses : t.accesses = first.accesses ++ [reply.status]

structure Kept (t after : Speech) : Prop where
  said : after.said = t.said
  accesses : after.accesses = t.accesses
  delivered : t.delivered <+: after.delivered

theorem Open.told_iff (conversing : t.Open first) : t.Told first ↔ t.held = [] := by
  have talk := conversing.talk
  constructor
  · intro told
    have length := congrArg List.length talk
    have within := told.length_le
    rw [List.length_append] at length
    exact List.length_eq_zero_iff.mp (by omega)
  · intro nothing
    rw [nothing, List.append_nil] at talk
    exact ⟨[], (List.append_nil _).trans talk.symm⟩

theorem Open.say (conversing : t.Open first) (message : Message) : (t.say message).Open first := by
  refine ⟨?_, conversing.accesses⟩
  simp only [Speech.say, ← List.append_assoc, conversing.talk, List.flatMap_append,
    List.flatMap_singleton]

theorem Open.send (conversing : t.Open first) (count : Nat) : (t.send count).Open first := by
  refine ⟨?_, conversing.accesses⟩
  simp only [Speech.send, List.append_assoc, List.take_append_drop]
  exact conversing.talk

theorem Sending.send {message : Message} (sending : t.Sending first message) {count : Nat}
    (left : (t.send count).held ≠ []) : (t.send count).Sending first message :=
  ⟨sending.talk.send count, sending.last, (List.drop_suffix count t.held).trans sending.rest, left⟩

theorem Settled.kept (settled : t.Settled first reply) (kept : t.Kept after) :
    after.Settled first reply := by
  obtain ⟨said, accesses, delivered⟩ := kept
  refine ⟨?_, ?_, accesses.trans settled.accesses⟩
  · rw [Speech.replies, said]
    exact settled.replies
  · rw [Told, said]
    exact settled.told.trans delivered

end Speech

namespace Phase

variable {first t : Speech} {phase : Phase} {message : Message} {reply : Reply}

/-- Where a session stands in what it has to say. -/
def Converses (first t : Speech) : Phase → Prop
  | .greeting _ _ | .credentials _ | .request _ | .resolving _ | .connecting _ _ _ =>
      t.Open first ∧ t.held = []
  | .selecting method => t.Sending first (.selection method)
  | .verdict accepted => t.Sending first (.verdict accepted)
  | .replying _ status => ∃ content, content.status = status ∧ t.Sending first (.reply content)
  | .relaying _ => ∃ reply, t.Settled first reply ∧ reply.status = .success
  -- Either the client has not heard a reply to its end, or it has, and that was noted.
  | .failed _ | .done =>
      t.Open first ∧ (t.replies = [] ∨ t.held ≠ []) ∨ ∃ reply, t.Settled first reply

theorem converses_of_listens (listens : phase.listens = true) :
    phase.Converses first t ↔ t.Open first ∧ t.held = [] := by
  cases phase <;> first | exact Iff.rfl | cases listens

theorem converses_of_tells (tells : phase.Tells message) (sending : t.Sending first message) :
    phase.Converses first t := by
  cases phase with
  | selecting method | verdict accepted =>
      change message = _ at tells
      rw [tells] at sending
      exact sending
  | replying request status =>
      obtain ⟨content, same, rfl⟩ := tells
      exact ⟨content, same, sending⟩
  | _ => exact absurd tells id

theorem sending_of_writes (writes : phase.writes = true) (here : phase.Converses first t) :
    ∃ message, phase.Tells message ∧ t.Sending first message := by
  cases phase with
  | selecting method | verdict accepted => exact ⟨_, rfl, here⟩
  | replying request status =>
      obtain ⟨content, same, sending⟩ := here
      exact ⟨_, ⟨content, same, rfl⟩, sending⟩
  | _ => cases writes

theorem converses_of_finished (finished : phase.isFinished = true) :
    phase.Converses first t ↔
      t.Open first ∧ (t.replies = [] ∨ t.held ≠ []) ∨ ∃ reply, t.Settled first reply := by
  cases phase <;> first | exact Iff.rfl | cases finished

/-- Once the client has been told this, there is nothing more to do for it. -/
def Dismisses : Phase → Prop
  | .selecting method => method ≠ .noAuth ∧ method ≠ .userPass
  | .verdict accepted => accepted = false
  | .replying _ status => status.isSuccess = false
  | _ => False

end Phase

namespace Relay.Scene

theorem Quiet.accesses {s after : Scene} (quiet : Quiet s after) :
    after.monitor.accesses = s.monitor.accesses := by
  obtain ⟨noted, journal, silent⟩ := quiet
  have none : noted.filterMap Entry.status? = [] :=
    List.filterMap_eq_nil_iff.mpr fun entry member => Entry.status_of_silent (silent entry member)
  rw [Monitor.accesses, journal, List.filterMap_append, none, List.append_nil]
  rfl

end Relay.Scene

namespace Live

variable {first : Speech} {low : Nat} {event : Event} {s x after : Live}

/-- How a session responds to an event, as far as its client can hear it. -/
inductive Responds (s : Live) : Event → Live → Prop where
  | stays (event : Event) : Responds s event s
  | listened {event : Event} {x after : Live} (listens : s.session.phase.listens = true)
      (same : x.speech = s.speech) (onward : x.Onward s.session.phase.rank after) :
      Responds s event after
  | told {count : Nat} {x after : Live} (writes : s.session.phase.writes = true)
      (other : ∀ request status, s.session.phase ≠ .replying request status)
      (sent : x.speech = s.speech.send count) (all : x.speech.held = [])
      (onward : x.Onward s.session.phase.rank after) : Responds s (.writable .client) after
  -- Something is left to be written, for now or for ever.
  | partly {count : Nat} {after : Live} (writes : s.session.phase.writes = true)
      (sent : after.speech = s.speech.send count) (left : after.speech.held ≠ [])
      (phase : after.session.phase = s.session.phase ∨ after.session.phase.isFinished = true) :
      Responds s (.writable .client) after
  | replied {request : Request} {status : Status}
      (telling : s.session.phase = .replying request status)
      (drained : s.outgoing.ending = .drained) :
      Responds s (.writable .client) (s.gave.replied request status)
  | relayed {event : Event} {relay : Relay} (relaying : s.session.phase = .relaying relay)
      (move : Relay.Move) : Responds s event (s.relay relay (Relay.Scene.move move))

theorem speech_took (s : Live) : s.took.speech = s.speech := by
  rw [speech, ledger_took]
  rfl

theorem speech_gave (s : Live) : s.gave.speech = s.speech.send s.outgoing.count := by
  rw [speech, ledger_gave]
  rfl

theorem left_of_undrained (undrained : s.outgoing.ending ≠ .drained) : s.gave.speech.held ≠ [] := by
  have bound := Socket.transmit_count_le s.outbound.held s.session.client.socket
  have short : s.outgoing.count ≠ s.outbound.held.length := fun all =>
    undrained ((Socket.transmit_drained _ _).mpr all)
  rw [speech_gave]
  change s.outbound.held.drop s.outgoing.count ≠ []
  intro nothing
  have rest : s.outbound.held.length ≤ s.outgoing.count := List.drop_eq_nil_iff.mp nothing
  exact short (Nat.le_antisymm bound rest)

theorem handle_replying {request : Request} {status : Status}
    (telling : s.session.phase = .replying request status) :
    s.handle (.writable .client) = s.flush (replied request status) := by
  simp only [handle, telling]

/-- Whatever happens, a session responds in one of these ways. -/
theorem responds (s : Live) (event : Event) : s.Responds event (s.handle event) := by
  by_cases telling : event = .writable .client ∧
      ∃ request status, s.session.phase = .replying request status
  · obtain ⟨rfl, request, status, telling⟩ := telling
    have writes : s.session.phase.writes = true := by rw [telling]; rfl
    rw [handle_replying telling, flush]
    split <;> rename_i ending
    · exact .replied telling ending
    · exact .partly writes s.speech_gave (left_of_undrained (by simp [ending])) (Or.inl rfl)
    · exact .partly writes s.speech_gave (left_of_undrained (by simp [ending])) (Or.inr rfl)
  · have handled := s.handled event
    generalize s.handle event = after at handled
    cases handled with
    | nothing deaf => exact .stays event
    | heard reads sound act =>
        have early : ∀ request status, s.session.phase ≠ .replying request status := by
          intro request status replying
          rw [replying] at reads
          cases reads
        exact .listened (Phase.listens_of_reads reads) s.speech_took (onward_act act early)
    | unheard reads broken =>
        exact .listened (Phase.listens_of_reads reads) s.speech_took (onward_fail _ _)
    | sent writes drained act =>
        have other : ∀ request status, s.session.phase ≠ .replying request status :=
          fun request status replying => telling ⟨rfl, request, status, replying⟩
        exact .told writes other s.speech_gave (outbound_of_drained drained)
          (onward_act act other)
    | halted writes blocked =>
        exact .partly writes s.speech_gave (left_of_undrained (by simp [blocked])) (Or.inl rfl)
    | unsent writes broken =>
        exact .partly writes s.speech_gave (left_of_undrained (by simp [broken])) (Or.inr rfl)
    | resumed asked =>
        rename_i request
        rcases onward_resolved request s with same | onward
        · rw [same]
          exact .stays _
        · refine .listened (by rw [asked]; rfl) rfl (onward.from_earlier ?_)
          rw [asked]
          exact (by decide : 5 ≤ 6)
    | decided trying =>
        rename_i request rest target
        rcases onward_settled request rest s with same | onward
        · rw [same]
          exact .stays _
        · refine .listened (by rw [trying]; rfl) rfl (onward.from_earlier ?_)
          rw [trying]
          exact Nat.le_refl 6
    | readable relaying => exact .relayed relaying _
    | writable relaying => exact .relayed relaying _

theorem kept_relay (relay : Relay) (move : Relay.Move) (s : Live) :
    s.speech.Kept (s.relay relay (Relay.Scene.move move)).speech ∧
      ((s.relay relay (Relay.Scene.move move)).session.phase.isFinished = true ∨ ∃ relaying,
        (s.relay relay (Relay.Scene.move move)).session.phase = .relaying relaying) := by
  cases serves : s.session.server with
  | none =>
      rw [Live.relay, serves]
      exact ⟨⟨rfl, rfl, List.prefix_rfl⟩, Or.inl rfl⟩
  | some server =>
      let moved := ((s.scene relay server).move move).1
      have kept : s.speech.Kept (s.withScene moved).speech :=
        ⟨rfl, (Relay.Scene.quiet_move _ move).accesses,
          Relay.Scene.move_delivered (s.scene relay server) move .client⟩
      apply relay_cases (P := fun after => s.speech.Kept after.speech ∧
        (after.session.phase.isFinished = true ∨
          ∃ relaying, after.session.phase = .relaying relaying)) serves
      · exact fun cause => ⟨kept, Or.inl rfl⟩
      · exact fun done => ⟨kept, Or.inl rfl⟩
      · exact ⟨kept, Or.inr ⟨_, rfl⟩⟩

theorem over_replied (request : Request) (status : Status) (s : Live) :
    (s.replied request status).session.phase.isFinished = true ∨
      (∃ relay, (s.replied request status).session.phase = .relaying relay) ∧
        status = .success := by
  unfold replied
  dsimp only
  cases status with
  | success => exact (kept_relay _ .start _).2.imp_right fun relaying => ⟨relaying, rfl⟩
  | failure why => exact Or.inl rfl

/-- Messages have been said in their order, up to the place of the phase. -/
structure Spoken (first : Speech) (s : Live) : Prop where
  order : s.speech.said.Pairwise fun earlier later => earlier.rank < later.rank
  past : ∀ message ∈ s.speech.said, message.rank ≤ s.session.phase.rank
  converses : s.session.phase.Converses first s.speech

/-- Everything that was said has been written, no reply is among it, and it belongs to this place
in the order or before it. -/
structure Poised (first : Speech) (low : Nat) (s : Live) : Prop where
  talk : s.speech.Open first
  idle : s.speech.held = []
  order : s.speech.said.Pairwise fun earlier later => earlier.rank < later.rank
  past : ∀ message ∈ s.speech.said, message.rank ≤ low
  early : low ≤ 6

theorem replies_of_ranks {said : List Message} (past : ∀ message ∈ said, message.rank ≤ 6) :
    said.filterMap Message.reply? = [] := by
  apply List.filterMap_eq_nil_iff.mpr
  intro message member
  cases message with
  | selection method => rfl
  | verdict accepted => rfl
  | reply content => exact absurd (past _ member) (by decide : ¬ 7 ≤ 6)

theorem Poised.silent (poised : s.Poised first low) : s.speech.replies = [] :=
  replies_of_ranks fun message member => Nat.le_trans (poised.past message member) poised.early

theorem Poised.of_same (poised : s.Poised first low) (same : x.speech = s.speech) :
    x.Poised first low := by
  obtain ⟨talk, idle, order, past, early⟩ := poised
  rw [← same] at talk idle order past
  exact ⟨talk, idle, order, past, early⟩

theorem Spoken.onwards (spoken : s.Spoken first) (same : after.speech.said = s.speech.said)
    (later : s.session.phase.rank ≤ after.session.phase.rank)
    (converses : after.session.phase.Converses first after.speech) : after.Spoken first := by
  refine ⟨?_, ?_, converses⟩
  · rw [same]
    exact spoken.order
  · rw [same]
    exact fun message member => Nat.le_trans (spoken.past message member) later

theorem Poised.said (poised : s.Poised first low) {message : Message}
    (said : after.speech = s.speech.say message) (later : low < message.rank)
    (place : message.rank ≤ after.session.phase.rank)
    (converses : after.session.phase.Converses first after.speech) : after.Spoken first := by
  have sequence : after.speech.said = s.speech.said ++ [message] := congrArg Speech.said said
  refine ⟨?_, ?_, converses⟩
  · rw [sequence]
    refine List.pairwise_append.mpr ⟨poised.order, List.pairwise_singleton _ _, ?_⟩
    intro earlier member last only
    rw [List.mem_singleton.mp only]
    exact Nat.lt_of_le_of_lt (poised.past earlier member) later
  · rw [sequence]
    intro earlier member
    rcases List.mem_append.mp member with old | new
    · exact Nat.le_trans (poised.past earlier old) (Nat.le_trans (Nat.le_of_lt later) place)
    · rw [List.mem_singleton.mp new]
      exact place

theorem Poised.sending (poised : s.Poised first low) (message : Message) :
    (s.speech.say message).Sending first message := by
  have held : (s.speech.say message).held = message.encode :=
    congrArg (· ++ message.encode) poised.idle
  exact ⟨poised.talk.say message, ⟨_, rfl⟩, held ▸ List.suffix_rfl, held ▸ message.encode_ne_nil⟩

theorem Poised.onward (poised : s.Poised first low) (onward : s.Onward low after) :
    after.Spoken first := by
  cases onward with
  | listens same later listens =>
      have still := poised.of_same same
      exact ⟨still.order, fun message member => Nat.le_trans (still.past message member) later,
        (Phase.converses_of_listens listens).mpr ⟨still.talk, still.idle⟩⟩
  | ends same finished =>
      have still := poised.of_same same
      have within := Nat.le_trans poised.early (by decide : 6 ≤ 9)
      rw [← Phase.rank_of_finished finished] at within
      exact ⟨still.order, fun message member => Nat.le_trans (still.past message member) within,
        (Phase.converses_of_finished finished).mpr (Or.inl ⟨still.talk, Or.inl still.silent⟩)⟩
  | @speaks message said later tells =>
      exact poised.said said later (Nat.le_of_eq (Phase.rank_of_tells tells).symm)
        (Phase.converses_of_tells tells (said ▸ poised.sending message))
  | @breaks message said later finished =>
      have sending : after.speech.Sending first message := said ▸ poised.sending message
      have place : message.rank ≤ after.session.phase.rank := by
        rw [Phase.rank_of_finished finished]
        exact message.rank_le
      exact poised.said said later place ((Phase.converses_of_finished finished).mpr
        (Or.inl ⟨sending.talk, Or.inr sending.left⟩))

theorem Spoken.poised (spoken : s.Spoken first) (listens : s.session.phase.listens = true) :
    s.Poised first s.session.phase.rank := by
  obtain ⟨talk, idle⟩ := (Phase.converses_of_listens listens).mp spoken.converses
  exact ⟨talk, idle, spoken.order, spoken.past, Phase.rank_of_listens listens⟩

theorem Spoken.relaying (spoken : s.Spoken first) {relay : Relay}
    (relaying : s.session.phase = .relaying relay) :
    ∃ reply, s.speech.Settled first reply ∧ reply.status = .success := by
  have converses := spoken.converses
  rw [relaying] at converses
  exact converses

/-- Once an outcome is noted, a session that goes on relays, and that after a success only. -/
theorem Spoken.settled (spoken : s.Spoken first) {reply : Reply}
    (settled : after.speech.Settled first reply) (same : after.speech.said = s.speech.said)
    (early : s.session.phase.rank ≤ 8)
    (ending : after.session.phase.isFinished = true ∨
      (∃ relay, after.session.phase = .relaying relay) ∧ reply.status = .success) :
    after.Spoken first := by
  rcases ending with finished | ⟨⟨relay, relaying⟩, success⟩
  · refine spoken.onwards same ?_
      ((Phase.converses_of_finished finished).mpr (Or.inr ⟨reply, settled⟩))
    rw [Phase.rank_of_finished finished]
    exact Nat.le_succ_of_le early
  · refine spoken.onwards same ?_ ?_ <;> rw [relaying]
    · exact early
    · exact ⟨reply, settled, success⟩

theorem speech_access (s : Live) (client : SocketAddress) (user : Option String)
    (command : Wire.Command) (destination : Net.Destination) (status : Status) :
    (s.note (.access client user command destination status)).speech = s.speech.note status :=
  congrArg (Speech.mk s.said s.session.client.socket.delivered s.outbound.held)
    List.filterMap_append

theorem spoken_replied {request : Request} {status : Status} (spoken : s.Spoken first)
    (telling : s.session.phase = .replying request status)
    (drained : s.outgoing.ending = .drained) : (s.gave.replied request status).Spoken first := by
  have converses := spoken.converses
  rw [telling] at converses
  obtain ⟨content, same, ⟨talk, ⟨before, last⟩, -, -⟩⟩ := converses
  have early : s.session.phase.rank ≤ 8 := by
    rw [telling]
    exact (by decide : 7 ≤ 8)
  have replies : s.speech.replies = [content] := by
    have order := spoken.order
    rw [last] at order
    have earlier : before.filterMap Message.reply? = [] := by
      apply replies_of_ranks
      intro message member
      exact Nat.le_of_lt_succ ((List.pairwise_append.mp order).2.2 message member _
        (List.mem_singleton.mpr rfl))
    rw [Speech.replies, last, List.filterMap_append, earlier]
    rfl
  -- The books once the outcome is noted; a relay that starts then adds nothing to them.
  let noted := s.gave.note (.access s.gave.session.client.address s.gave.session.user
    request.command request.destination status)
  have speech : noted.speech = (s.speech.send s.outgoing.count).note status := by
    rw [speech_access, speech_gave]
  have settled : noted.speech.Settled first content := by
    rw [speech]
    refine ⟨replies, ?_, ?_⟩
    · exact (talk.send s.outgoing.count).told_iff.mpr
        (s.speech_gave ▸ outbound_of_drained drained)
    · rw [same]
      exact congrArg (· ++ [status]) talk.accesses
  have said : noted.speech.said = s.speech.said := by rw [speech]; rfl
  have kept : noted.speech.Kept (s.gave.replied request status).speech := by
    unfold replied
    dsimp only
    split
    · exact (kept_relay _ .start noted).1
    · exact ⟨rfl, rfl, List.prefix_rfl⟩
  exact spoken.settled (settled.kept kept) (kept.said.trans said) early
    ((s.gave.over_replied request status).imp_right fun relays => ⟨relays.1, same.trans relays.2⟩)

theorem spoken_handle (spoken : s.Spoken first) (event : Event) :
    (s.handle event).Spoken first := by
  have responds := s.responds event
  generalize s.handle event = after at responds
  cases responds with
  | stays => exact spoken
  | listened listens same onward => exact ((spoken.poised listens).of_same same).onward onward
  | @told count x _ writes other sent all onward =>
      obtain ⟨message, tells, sending⟩ := Phase.sending_of_writes writes spoken.converses
      have early : s.session.phase.rank ≤ 6 := by
        cases here : s.session.phase <;> simp_all [Phase.rank, Phase.writes]
      have said : x.speech.said = s.speech.said := by rw [sent]; rfl
      have poised : x.Poised first s.session.phase.rank :=
        ⟨sent ▸ sending.talk.send count, all, said ▸ spoken.order, said ▸ spoken.past, early⟩
      exact poised.onward onward
  | @partly count _ writes sent left phase =>
      obtain ⟨message, tells, sending⟩ := Phase.sending_of_writes writes spoken.converses
      have said : after.speech.said = s.speech.said := by rw [sent]; rfl
      rw [sent] at left
      rcases phase with same | finished
      · refine spoken.onwards said (Nat.le_of_eq (congrArg Phase.rank same.symm)) ?_
        rw [sent, same]
        exact Phase.converses_of_tells tells (sending.send left)
      · refine spoken.onwards said ?_ ((Phase.converses_of_finished finished).mpr (Or.inl ?_))
        · rw [Phase.rank_of_finished finished]
          exact Phase.rank_le _
        · rw [sent]
          exact ⟨sending.talk.send count, Or.inr left⟩
  | replied telling drained => exact spoken_replied spoken telling drained
  | @relayed _ relay relaying move =>
      obtain ⟨reply, settled, success⟩ := spoken.relaying relaying
      obtain ⟨kept, ending⟩ := kept_relay relay move s
      refine spoken.settled (settled.kept kept) kept.said ?_
        (ending.imp_right fun relays => ⟨relays, success⟩)
      rw [relaying]
      exact Nat.le_refl 8

/-- If a connection is on its way now, it is to one of these addresses, and all before it are given
up. -/
def Dials (request : Request) (targets : List SocketAddress) (after : Live) : Prop :=
  ∀ again left next, after.session.phase = .connecting again left next →
    again = request ∧ ∃ skipped, targets = skipped ++ next :: left.waiting

variable {request : Request} {targets : List SocketAddress}

theorem dials_say {message : Message} {next : Live → Live}
    (settles : ∀ staged : Live, (next staged).session.phase.rank = 7) :
    (s.say message next).Dials request targets := by
  have other : ∀ after : Live, after.session.phase.rank ≠ 6 → after.Dials request targets :=
    fun after elsewhere again left next connecting =>
      absurd (congrArg Phase.rank connecting) elsewhere
  apply say_posts
  · intro staged posted
    exact other _ (by rw [settles]; decide)
  · exact fun cause => other _ (by decide : 9 ≠ 6)
  · exact fun staged cause posted => other _ (by decide : 9 ≠ 6)

theorem dials_connect (request : Request) (last : Refusal) (s : Live) :
    (s.connect request targets last).Dials request targets := by
  induction targets generalizing s last with
  | nil =>
      change (s.unreachable request last).Dials request []
      unfold unreachable
      split <;> exact dials_say fun staged => rfl
  | cons target rest ih =>
      unfold Live.connect
      split
      · intro again left next connecting
        obtain ⟨same, skipped, split⟩ := ih _ _ again left next connecting
        exact ⟨same, target :: skipped, congrArg (target :: ·) split⟩
      · unfold dial
        dsimp only
        split
        · intro again left next connecting
          cases connecting
        · apply await_cases (P := fun after => after.Dials request (target :: rest))
          · intro client registered again left next connecting
            cases connecting
            exact ⟨rfl, [], rfl⟩
          · intro client cause refused again left next connecting
            cases connecting

theorem dials_settled (request : Request) (rest : Candidates) (s : Live) :
    s.settled request rest = s ∨ (s.settled request rest).Dials request rest.waiting := by
  unfold settled
  split
  · right
    intro again left next connecting
    cases connecting
  · exact Or.inl rfl
  · split
    · right
      split
      · unfold connected
        split
        · intro again left next connecting
          cases connecting
        · exact dials_say fun staged => rfl
      · exact dials_connect request _ _
    · exact Or.inl rfl

/-- A step keeps to the order of the phases. -/
structure Forward (s : Live) (move : Move) : Prop where
  rank : s.session.phase.rank ≤ (s.move move).session.phase.rank
  -- Whatever address is tried next, the one before it is given up for good.
  shortens : ∀ request rest target again left next,
    s.session.phase = .connecting request rest target →
      (s.move move).session.phase = .connecting again left next →
        (s.move move).session.phase = s.session.phase ∨
          again = request ∧ ∃ skipped, rest.waiting = skipped ++ next :: left.waiting
  relays : ∀ relay, (s.move move).session.phase = .relaying relay →
    s.relays = true ∨ move = .event (.writable .client) ∧ s.outgoing.ending = .drained ∧
      ∃ request, s.session.phase = .replying request .success
  dismisses : move = .event (.writable .client) → s.outgoing.ending = .drained →
    s.session.phase.Dismisses → (s.move move).session.phase = .done
  rests : s.session.isFinished = true → (s.move move).session.phase = s.session.phase ∧
    ∀ event, move = .event event → s.move move = s

theorem Responds.rank (responds : s.Responds event after) :
    s.session.phase.rank ≤ after.session.phase.rank := by
  have ends : s.session.phase.rank ≤ 8 → after.session.phase.isFinished = true ∨
      (∃ relay, after.session.phase = .relaying relay) →
      s.session.phase.rank ≤ after.session.phase.rank := by
    rintro early (finished | ⟨relay, relaying⟩)
    · rw [Phase.rank_of_finished finished]
      exact Nat.le_succ_of_le early
    · rw [relaying]
      exact early
  cases responds with
  | stays => exact Nat.le_refl _
  | listened listens same onward | told writes other sent all onward =>
      exact onward.rank (Phase.rank_le _)
  | partly writes sent left phase =>
      rcases phase with same | finished
      · exact Nat.le_of_eq (congrArg Phase.rank same.symm)
      · rw [Phase.rank_of_finished finished]
        exact Phase.rank_le _
  | replied telling drained =>
      refine ends ?_ ((s.gave.over_replied _ _).imp_right And.left)
      rw [telling]
      exact (by decide : 7 ≤ 8)
  | relayed relaying move =>
      refine ends ?_ (kept_relay _ move s).2
      rw [relaying]
      exact Nat.le_refl 8

theorem not_relaying_of_finished (finished : s.session.phase.isFinished = true) (relay : Relay) :
    s.session.phase ≠ .relaying relay := by
  intro relaying
  rw [relaying] at finished
  cases finished

theorem Onward.not_relaying (onward : s.Onward low after) (relay : Relay) :
    after.session.phase ≠ .relaying relay := by
  cases onward with
  | listens same later listens =>
      intro relaying
      rw [relaying] at listens
      cases listens
  | speaks said later tells =>
      intro relaying
      rw [relaying] at tells
      exact tells
  | ends same finished | breaks said later finished => exact not_relaying_of_finished finished relay

/-- A session that relays after an event stays as it was, takes a step of its relay, or has just
told its client of a success. -/
theorem Responds.origin (responds : s.Responds event after) {relay : Relay}
    (relaying : after.session.phase = .relaying relay) :
    after = s ∨
      (∃ earlier move, s.session.phase = .relaying earlier ∧
        after = s.relay earlier (Relay.Scene.move move)) ∨
      event = .writable .client ∧ s.outgoing.ending = .drained ∧
        ∃ request, s.session.phase = .replying request .success ∧
          after = s.gave.replied request .success := by
  cases responds with
  | stays => exact .inl rfl
  | listened listens same onward | told writes other sent all onward =>
      exact absurd relaying (onward.not_relaying relay)
  | partly writes sent left phase =>
      rcases phase with same | finished
      · rw [← same, relaying] at writes
        cases writes
      · exact absurd relaying (not_relaying_of_finished finished relay)
  | @replied request status telling drained =>
      rcases s.gave.over_replied request status with finished | ⟨-, rfl⟩
      · exact absurd relaying (not_relaying_of_finished finished relay)
      · exact .inr (.inr ⟨rfl, drained, request, telling, rfl⟩)
  | relayed earlier move => exact .inr (.inl ⟨_, move, earlier, rfl⟩)

theorem Responds.relays (responds : s.Responds event after) {relay : Relay}
    (relaying : after.session.phase = .relaying relay) :
    s.relays = true ∨ event = .writable .client ∧ s.outgoing.ending = .drained ∧
      ∃ request, s.session.phase = .replying request .success := by
  rcases responds.origin relaying with rfl | ⟨earlier, move, before, -⟩ |
    ⟨same, drained, request, telling, -⟩
  · exact .inl (by rw [Live.relays, relaying])
  · exact .inl (by rw [Live.relays, before])
  · exact .inr ⟨same, drained, request, telling⟩

theorem handle_dismisses (drained : s.outgoing.ending = .drained)
    (dismisses : s.session.phase.Dismisses) :
    (s.handle (.writable .client)).session.phase = .done := by
  cases here : s.session.phase <;> rw [here] at dismisses <;> try exact absurd dismisses id
  all_goals simp only [handle, here, flush, drained]
  case selecting method =>
    obtain ⟨entry, -, ending⟩ := selected_other dismisses
    rw [ending]
    rfl
  case verdict accepted =>
    change accepted = false at dismisses
    rw [dismisses]
    rfl
  case replying request status =>
    cases status with
    | success => cases dismisses
    | failure why => rfl

theorem handle_shortens (event : Event) {request again : Request} {rest left : Candidates}
    {target next : SocketAddress} (trying : s.session.phase = .connecting request rest target)
    (connecting : (s.handle event).session.phase = .connecting again left next) :
    (s.handle event).session.phase = s.session.phase ∨
      again = request ∧ ∃ skipped, rest.waiting = skipped ++ next :: left.waiting := by
  have handles : s.handle event = s ∨ s.handle event = s.settled request rest := by
    simp only [handle, trying]
    split <;> simp_all
  rcases handles with same | settles
  · exact Or.inl (congrArg (fun x => x.session.phase) same)
  · rw [settles] at connecting ⊢
    rcases dials_settled request rest s with same | dials
    · exact Or.inl (congrArg (fun x => x.session.phase) same)
    · exact Or.inr (dials again left next connecting)

theorem forward_move {move : Move} (ongoing : move.isOngoing = true) (s : Live) :
    s.Forward move := by
  rcases move.event_or_world with ⟨event, rfl⟩ | world
  · refine ⟨(s.responds event).rank, ?_, ?_, ?_, ?_⟩
    · exact fun request rest target again left next => handle_shortens event
    · intro relay relaying
      refine ((s.responds event).relays relaying).imp_right ?_
      exact fun ⟨same, more⟩ => ⟨congrArg Move.event same, more⟩
    · intro same drained dismisses
      cases same
      exact handle_dismisses drained dismisses
    · intro finished
      have same := handle_finished finished event
      exact ⟨congrArg (fun x => x.session.phase) same, fun _ _ => same⟩
  · have phase := (calm_move (s := s) ongoing world).phase
    refine ⟨Nat.le_of_eq (congrArg Phase.rank phase.symm), fun _ _ _ _ _ _ _ _ => Or.inl phase, ?_,
      ?_, ?_⟩
    · intro relay relaying
      exact Or.inl (by rw [Live.relays, ← phase, relaying])
    · exact fun same => absurd same (world _)
    · exact fun finished => ⟨phase, fun event same => absurd same (world event)⟩

theorem Calm.speech (calm : s.Calm after) : after.speech = s.speech := by
  rcases calm.ledger with same | ⟨entry, silent, more⟩
  · exact congrArg Ledger.speech same
  · exact (congrArg Ledger.speech more).trans
      (s.ledger.speech_note (Entry.status_of_silent silent))

theorem spoken_move (spoken : s.Spoken first) {move : Move} (ongoing : move.isOngoing = true) :
    (s.move move).Spoken first := by
  rcases move.event_or_world with ⟨event, rfl⟩ | world
  · exact spoken_handle spoken event
  · have calm : s.Calm (s.move move) := calm_move ongoing world
    refine spoken.onwards (congrArg Speech.said calm.speech)
      (Nat.le_of_eq (congrArg Phase.rank calm.phase.symm)) ?_
    rw [calm.speech, calm.phase]
    exact spoken.converses

theorem spoken_run (moves : List Move) (ongoing : ∀ move ∈ moves, move.isOngoing = true)
    (spoken : s.Spoken first) : (s.run moves).Spoken first :=
  run_ongoing (P := Spoken first) (fun _ _ more here => spoken_move here more) moves ongoing spoken

theorem spoken_start (services : Services) (id : SessionId) (client : Socket)
    (address : SocketAddress) :
    (accepted services id client address).start.Spoken
      (accepted services id client address).speech := by
  let first := accepted services id client address
  have poised : first.Poised first.speech 0 :=
    ⟨⟨rfl, rfl⟩, rfl, List.Pairwise.nil, fun message member => absurd member List.not_mem_nil,
      Nat.zero_le 6⟩
  apply poised.onward
  unfold start
  dsimp only
  split <;> rename_i asked
  · exact .listens (speech_asked asked) (Nat.zero_le _) rfl
  · exact .ends ((Ledger.speech_note _ rfl).trans (speech_asked asked)) rfl

/-- The client has been written all that was said to it, behind what it was written before. -/
def Told (client : Socket) (s : Live) : Prop :=
  (client.delivered ++ s.said.flatMap Message.encode) <+: s.session.client.socket.delivered

/-- What a session has said by now, and what its operator has been told of it. -/
structure InOrder (services : Services) (client : Socket) (s : Live) : Prop where
  -- So there is at most one message of each kind.
  messages : s.said.Pairwise fun earlier later => earlier.rank < later.rank
  noted : s.Told client →
    s.services.monitor.accesses = services.monitor.accesses ++ s.replies.map Reply.status
  unnoted : ¬ s.Told client → s.services.monitor.accesses = services.monitor.accesses
  waits : s.session.phase.writes = true → ¬ s.Told client
  relaying : s.relays = true → s.Told client ∧ s.replies.map Reply.status = [.success]

theorem inOrder_of_open {services : Services} {client : Socket}
    (delivered : first.delivered = client.delivered)
    (accesses : first.accesses = services.monitor.accesses) (spoken : s.Spoken first)
    (talk : s.speech.Open first) (untold : s.speech.replies = [] ∨ s.speech.held ≠ [])
    (unrelayed : s.relays = false) : s.InOrder services client := by
  have told : s.Told client ↔ s.speech.held = [] := by
    rw [← talk.told_iff, Speech.Told, delivered]
    rfl
  refine ⟨spoken.order, ?_, fun _ => talk.accesses.trans accesses, ?_, ?_⟩
  · intro all
    have silent : s.replies = [] := untold.resolve_right (fun left => left (told.mp all))
    rw [silent, List.map_nil, List.append_nil]
    exact talk.accesses.trans accesses
  · intro writes all
    obtain ⟨message, -, sending⟩ := Phase.sending_of_writes writes spoken.converses
    exact sending.left (told.mp all)
  · intro relays
    rw [unrelayed] at relays
    cases relays

theorem inOrder_of_settled {services : Services} {client : Socket} {reply : Reply}
    (delivered : first.delivered = client.delivered)
    (accesses : first.accesses = services.monitor.accesses) (spoken : s.Spoken first)
    (settled : s.speech.Settled first reply) (spoke : s.session.phase.writes = false)
    (success : s.relays = true → reply.status = .success) : s.InOrder services client := by
  have told : s.Told client := by
    rw [Told, ← delivered]
    exact settled.told
  have replies : s.replies.map Reply.status = [reply.status] :=
    congrArg (List.map Reply.status) settled.replies
  refine ⟨spoken.order, fun _ => ?_, fun untold => absurd told untold, ?_, ?_⟩
  · rw [replies, ← accesses]
    exact settled.accesses
  · intro writes
    rw [spoke] at writes
    cases writes
  · intro relays
    exact ⟨told, by rw [replies, success relays]⟩

theorem Spoken.inOrder {services : Services} {client : Socket} (spoken : s.Spoken first)
    (delivered : first.delivered = client.delivered)
    (accesses : first.accesses = services.monitor.accesses) : s.InOrder services client := by
  have unsettled := inOrder_of_open delivered accesses spoken
  have converses := spoken.converses
  cases here : s.session.phase <;> rw [here] at converses
  case greeting | credentials | request | resolving | connecting =>
    have poised := spoken.poised (by rw [here]; rfl)
    exact unsettled poised.talk (Or.inl poised.silent) (by rw [Live.relays, here])
  case selecting | verdict =>
    exact unsettled converses.talk (Or.inr converses.left) (by rw [Live.relays, here])
  case replying =>
    obtain ⟨content, -, sending⟩ := converses
    exact unsettled sending.talk (Or.inr sending.left) (by rw [Live.relays, here])
  case relaying =>
    obtain ⟨reply, settled, success⟩ := converses
    exact inOrder_of_settled delivered accesses spoken settled (by rw [here]; rfl) fun _ => success
  case failed | done =>
    have unrelayed : s.relays = false := by rw [Live.relays, here]
    rcases converses with ⟨talk, untold⟩ | ⟨reply, settled⟩
    · exact unsettled talk untold unrelayed
    · refine inOrder_of_settled delivered accesses spoken settled (by rw [here]; rfl) fun relays => ?_
      rw [unrelayed] at relays
      cases relays

/-- At any time of a run a session has said at most one message of each kind, and the access line
stands in the journal once the client has been told the outcome, with what it was told. From there
every step keeps to the order of the phases. -/
theorem phases_never_go_back (services : Services) (id : SessionId) (client : Socket)
    (address : SocketAddress) (moves : List Move)
    (ongoing : ∀ move ∈ moves, move.isOngoing = true) :
    let s := (accepted services id client address).run (.start :: moves)
    s.InOrder services client ∧ ∀ move : Move, move.isOngoing = true → s.Forward move := by
  intro s
  have spoken : s.Spoken (accepted services id client address).speech :=
    spoken_run moves ongoing (spoken_start services id client address)
  exact ⟨spoken.inOrder rfl rfl, fun move more => forward_move more s⟩

/-- A client that takes three octets at a time is told of its destination, and then relayed to. -/
theorem phases_never_go_back_while_reply_waits :
    let services := Services.reaching .empty
    let moves : List Move :=
      [.far .client (.send [5, 1, 0, 5, 1, 0, 1, 127, 0, 0, 1, 0, 80]), .event (.readable .client),
        .event (.writable .client), .settle, .far .client (.limit 3), .event (.writable .server),
        .event (.writable .client)]
    let s := (accepted services ⟨0⟩ .fresh (.ofIp .localhost 5000)).run (.start :: moves)
    let last : List Move := [.far .client .release, .event (.writable .client)]
    let relaying := (accepted services ⟨0⟩ .fresh (.ofIp .localhost 5000)).run
      (.start :: (moves ++ last))
    (∀ move ∈ moves ++ last, move.isOngoing = true) ∧
      s.services.monitor.accesses = [] ∧ s.InOrder services .fresh ∧
      relaying.services.monitor.accesses = [.success] ∧ relaying.InOrder services .fresh := by
  intro services moves s last relaying
  have ongoing : ∀ move ∈ moves ++ last, move.isOngoing = true := by decide +kernel
  have early : ∀ move ∈ moves, move.isOngoing = true := by decide +kernel
  have before : s.services.monitor.accesses = [] := by decide +kernel
  have after : relaying.services.monitor.accesses = [.success] := by decide +kernel
  exact ⟨ongoing, before,
    (phases_never_go_back services ⟨0⟩ .fresh (.ofIp .localhost 5000) moves early).1, after,
    (phases_never_go_back services ⟨0⟩ .fresh (.ofIp .localhost 5000) (moves ++ last) ongoing).1⟩

end Live

end SocksProxy
