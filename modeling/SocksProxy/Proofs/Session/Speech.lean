import SocksProxy.Proofs.Session.Attempts

/-!
What a session says to its client, and from where. Whatever place in the order of the phases a
session goes on from, it listens, it ends, or it says one thing that belongs further on; nothing is
taken back and nothing is said twice in one go.
-/

namespace SocksProxy

open Net (SocketAddress)
open Wire (Refusal Request Status)

/-- The place in the order of the phases that a message is sent from. -/
def Message.rank : Message → Nat
  | .selection _ => 1
  | .verdict _ => 3
  | .reply _ => 7

theorem Message.encode_ne_nil (message : Message) : message.encode ≠ [] := by
  cases message <;> exact List.cons_ne_nil _ _

theorem Message.rank_le (message : Message) : message.rank ≤ 9 := by
  cases message <;> simp [rank]

def Entry.status? : Entry → Option Status
  | .access _ _ _ _ status => some status
  | _ => none

theorem Entry.status_of_silent {entry : Entry} (silent : entry.accessUser? = none) :
    entry.status? = none := by
  cases entry <;> first | rfl | cases silent

def Monitor.accesses (m : Monitor) : List Status := m.journal.filterMap Entry.status?

namespace Phase

/-- The client has more to hear, and nothing is on its way to it. -/
def listens : Phase → Bool
  | .greeting _ _ | .credentials _ | .request _ | .resolving _ | .connecting _ _ _ => true
  | _ => false

def Tells : Phase → Message → Prop
  | .selecting method, message => message = .selection method
  | .verdict accepted, message => message = .verdict accepted
  | .replying _ status, message => ∃ content, content.status = status ∧ message = .reply content
  | _, _ => False

theorem listens_of_reads {phase : Phase} (reads : phase.reads = true) : phase.listens = true := by
  cases phase <;> first | rfl | cases reads

theorem rank_of_tells {phase : Phase} {message : Message} (tells : phase.Tells message) :
    phase.rank = message.rank := by
  cases phase with
  | selecting method | verdict accepted =>
      change message = _ at tells
      rw [tells]
      rfl
  | replying request status =>
      obtain ⟨content, -, rfl⟩ := tells
      rfl
  | _ => exact absurd tells id

theorem rank_of_listens {phase : Phase} (listens : phase.listens = true) : phase.rank ≤ 6 := by
  cases phase <;> simp_all [Phase.listens, rank]

theorem rank_of_finished {phase : Phase} (finished : phase.isFinished = true) : phase.rank = 9 := by
  cases phase <;> first | rfl | cases finished

theorem rank_le (phase : Phase) : phase.rank ≤ 9 := by
  cases phase <;> simp [rank]

end Phase

/-- What has been said to a client, how much of it is written, and what the operator was told. -/
structure Speech where
  said : List Message
  delivered : Bytes
  -- Staged and not written yet.
  held : Bytes
  accesses : List Status

namespace Speech

def say (message : Message) (t : Speech) : Speech :=
  { t with said := t.said ++ [message], held := t.held ++ message.encode }

def send (count : Nat) (t : Speech) : Speech :=
  { t with delivered := t.delivered ++ t.held.take count, held := t.held.drop count }

def note (status : Status) (t : Speech) : Speech :=
  { t with accesses := t.accesses ++ [status] }

end Speech

def Ledger.speech (l : Ledger) : Speech :=
  ⟨l.said, l.delivered, l.outbound, l.journal.filterMap Entry.status?⟩

theorem Ledger.speech_note (l : Ledger) {entry : Entry} (silent : entry.status? = none) :
    (l.note entry).speech = l.speech := by
  simp [speech, note, silent]

namespace Live

def speech (s : Live) : Speech := s.ledger.speech

/-- From a place in the order on, a session listens, says one thing, or ends. -/
inductive Onward (low : Nat) (s after : Live) : Prop where
  | listens (same : after.speech = s.speech) (later : low ≤ after.session.phase.rank)
      (listens : after.session.phase.listens = true)
  | ends (same : after.speech = s.speech) (finished : after.session.phase.isFinished = true)
  | speaks {message : Message} (said : after.speech = s.speech.say message)
      (later : low < message.rank) (tells : after.session.phase.Tells message)
  -- The client cannot be waited for any more.
  | breaks {message : Message} (said : after.speech = s.speech.say message)
      (later : low < message.rank) (finished : after.session.phase.isFinished = true)

variable {low : Nat} {request : Request} {s x after : Live}

theorem Onward.of_same (same : x.speech = s.speech) (onward : x.Onward low after) :
    s.Onward low after := by
  cases onward with
  | listens still later listens => exact .listens (still.trans same) later listens
  | ends still finished => exact .ends (still.trans same) finished
  | speaks said later tells => exact .speaks (same ▸ said) later tells
  | breaks said later finished => exact .breaks (same ▸ said) later finished

theorem Onward.from_earlier {early : Nat} (onward : s.Onward low after) (earlier : early ≤ low) :
    s.Onward early after := by
  cases onward with
  | listens same later listens => exact .listens same (Nat.le_trans earlier later) listens
  | ends same finished => exact .ends same finished
  | speaks said later tells => exact .speaks said (Nat.lt_of_le_of_lt earlier later) tells
  | breaks said later finished => exact .breaks said (Nat.lt_of_le_of_lt earlier later) finished

theorem Onward.rank (onward : s.Onward low after) (within : low ≤ 9) :
    low ≤ after.session.phase.rank := by
  cases onward with
  | listens same later listens => exact later
  | speaks said later tells =>
      rw [Phase.rank_of_tells tells]
      exact Nat.le_of_lt later
  | ends same finished | breaks said later finished =>
      rw [Phase.rank_of_finished finished]
      exact within

theorem onward_fail (s : Live) (cause : SessionError) : s.Onward low (s.fail cause) :=
  .ends rfl rfl

theorem onward_await {wanted : Interest} {next : Live → Live}
    (ready : ∀ waiting : Live, waiting.speech = s.speech → s.Onward low (next waiting)) :
    s.Onward low (s.await wanted next) :=
  await_posts (fun waiting same => ready waiting (congrArg Ledger.speech same))
    fun waiting cause same => .of_same (congrArg Ledger.speech same) (onward_fail waiting cause)

theorem onward_say {message : Message} {next : Live → Live} (later : low < message.rank)
    (ready : ∀ staged, (next staged).speech = staged.speech ∧
      (next staged).session.phase.Tells message) : s.Onward low (s.say message next) := by
  apply say_posts
  · intro staged posted
    obtain ⟨same, tells⟩ := ready staged
    exact .speaks (same.trans (congrArg Ledger.speech posted)) later tells
  · exact onward_fail s
  · intro staged cause posted
    exact .breaks (congrArg Ledger.speech posted) later rfl

theorem onward_say_enter {message : Message} {phase : Phase} (later : low < message.rank)
    (tells : phase.Tells message) : s.Onward low (s.say message (enter phase)) :=
  onward_say later fun _ => ⟨rfl, tells⟩

theorem speech_noteProblem (s : Live) (cause : SessionError) :
    (s.noteProblem cause).speech = s.speech :=
  s.ledger.speech_note rfl

theorem onward_refuse (request : Request) (why : Refusal) (s : Live) :
    s.Onward 6 (s.refuse request why) :=
  onward_say_enter (by decide : 6 < 7) ⟨_, rfl, rfl⟩

theorem onward_unreachable (request : Request) (last : Refusal) (s : Live) :
    s.Onward 6 (s.unreachable request last) := by
  unfold unreachable
  split
  · exact onward_refuse request last s
  · exact .of_same (s.speech_noteProblem _) (onward_refuse request _ _)

theorem onward_dial (request : Request) (rest : List SocketAddress) (target : SocketAddress)
    (outcome : Outcome) (s : Live) : s.Onward 6 (s.dial request rest target outcome) := by
  unfold dial
  dsimp only
  split
  · exact onward_fail s _
  · rename_i server registered
    exact .of_same (x := s.dialling server ⟨target, outcome, false⟩) rfl
      (onward_await fun waiting same => .listens same (Nat.le_refl 6) rfl)

theorem onward_connect (request : Request) (targets : List SocketAddress) (last : Refusal)
    (s : Live) : s.Onward 6 (s.connect request targets last) := by
  induction targets generalizing s last with
  | nil => exact onward_unreachable request last s
  | cons target rest ih =>
      unfold Live.connect
      split
      · exact .of_same (x := s.attempting target) rfl (ih _ _)
      · exact .of_same (x := s.attempting target) rfl (onward_dial request rest target _ _)

theorem onward_lookUp (request : Request) (s : Live) : s.Onward 5 (s.lookUp request) := by
  unfold lookUp
  split
  · rename_i cause fault
    have same : (s.note (.notLookedUp s.session.id (.io cause))).speech = s.speech :=
      s.ledger.speech_note rfl
    exact (Onward.of_same same (onward_refuse request _ _)).from_earlier (by decide)
  · exact .of_same (x := s.asking request.address.host request.port) rfl
      (onward_await fun waiting same => .listens same (Nat.le_refl 5) rfl)

theorem onward_serve (request : Request) (s : Live) : s.Onward 5 (s.serve request) := by
  unfold serve
  split
  · split
    · exact (onward_connect request _ _ s).from_earlier (by decide)
    · exact onward_lookUp request s
  · exact (Onward.of_same (s.speech_noteProblem _) (onward_refuse request _ _)).from_earlier
      (by decide)

theorem onward_resolved (request : Request) (s : Live) :
    s.resolved request = s ∨ s.Onward 6 (s.resolved request) := by
  unfold resolved
  split
  · exact Or.inl rfl
  · rename_i lookup present
    split
    · exact Or.inl rfl
    · rename_i taken took
      right
      refine Onward.of_same (x := s.withLookup taken) rfl ?_
      split
      · exact .of_same (speech_noteProblem _ _) (onward_refuse request _ _)
      · exact onward_connect request _ _ _

theorem onward_connected (request : Request) (server : Endpoint) (bound : SocketAddress)
    (s : Live) : s.Onward 6 (s.connected request server bound) := by
  unfold connected
  split
  · rename_i idle cause refused
    exact .of_same (x := s.withServer (some idle)) rfl (onward_fail _ _)
  · rename_i idle registered
    exact .of_same (x := s.withServer (some idle)) rfl
      (onward_say (by decide : 6 < 7) fun staged => ⟨rfl, _, rfl, rfl⟩)

theorem onward_settled (request : Request) (rest : Candidates) (s : Live) :
    s.settled request rest = s ∨ s.Onward 6 (s.settled request rest) := by
  unfold settled
  split
  · exact Or.inr (onward_fail s _)
  · exact Or.inl rfl
  · split
    · right
      split
      · exact onward_connected request _ _ s
      · exact .of_same (x := s.abandonServer) rfl (onward_connect request _ _ _)
    · exact Or.inl rfl

theorem onward_check (credentials : Wire.Credentials) (s : Live) :
    s.Onward 2 (s.check credentials) := by
  unfold check
  dsimp only
  split
  · exact .ends rfl rfl
  · exact .of_same (x := (s.checking _).named credentials.name) rfl
      (onward_say_enter (by decide : 2 < 3) rfl)
  · exact .of_same (x := (s.checking _).noteProblem .badCredentials)
      (speech_noteProblem (s.checking _) _) (onward_say_enter (by decide : 2 < 3) rfl)

theorem hear_rank {phase : Phase} {b rest : Buffer} {heard : Heard}
    (hears : phase.hear b = some (heard, rest)) :
    match heard with
    | .more next => next.rank = phase.rank
    | .mistake _ => True
    | .method _ => phase.rank = 0
    | .credentials _ => phase.rank = 2
    | .request _ => phase.rank = 4 := by
  cases phase <;> try cases hears
  all_goals
    obtain ⟨-, news, -, rfl⟩ := Heard.news_of_byRunning hears
    cases news <;> trivial

theorem speech_asked {wanted : Interest} {client : Endpoint} {refusal : Option Net.IoError}
    (asked : s.session.client.setInterest wanted = (client, refusal)) :
    (s.withClient client).speech = s.speech :=
  congrArg Ledger.speech (ledger_withClient (Endpoint.setInterest_socket asked))

theorem Turns.onward {phase : Phase} (turns : s.Turns phase x) :
    (∀ buffer, (x.withInbound buffer).speech = s.speech) ∧
      s.session.phase.rank ≤ phase.rank := by
  cases turns with
  | stays reads => exact ⟨fun _ => rfl, Nat.le_refl _⟩
  | begins admitted sent registered =>
      refine ⟨fun _ => speech_asked registered, ?_⟩
      rcases admitted with told | told <;> rw [told] <;> decide
  | challenges asked sent registered =>
      refine ⟨fun _ => speech_asked registered, ?_⟩
      rw [asked]
      decide

/-- Whatever a session does on what it has heard, it does from its place on. Only what is done for
a reply that has been heard is left to be said. -/
theorem onward_act (act : s.Act after)
    (early : ∀ request status, s.session.phase ≠ .replying request status) :
    s.Onward s.session.phase.rank after := by
  cases act with
  | unregistered refused => exact .of_same (speech_asked refused) (onward_fail _ _)
  | waits turns heard =>
      obtain ⟨same, later⟩ := turns.onward
      have still := hear_rank heard
      obtain ⟨-, reads⟩ := hear_more heard
      apply Onward.of_same (same _)
      apply onward_await
      intro waiting posted
      exact .listens posted (Nat.le_trans later (Nat.le_of_eq still.symm))
        (Phase.listens_of_reads reads)
  | leaves heard empty finished => exact .ends rfl rfl
  | mistakes turns heard => exact .of_same (turns.onward.1 _) (onward_fail _ _)
  | selects turns heard =>
      obtain ⟨same, later⟩ := turns.onward
      have place := hear_rank heard
      apply Onward.of_same (same _)
      apply onward_say_enter
      · exact Nat.lt_of_le_of_lt (place ▸ later) (by decide : 0 < 1)
      · rfl
  | verifies turns heard =>
      obtain ⟨same, later⟩ := turns.onward
      have place := hear_rank heard
      exact (Onward.of_same (same _) (onward_check _ _)).from_earlier (place ▸ later)
  | serves turns heard =>
      obtain ⟨same, later⟩ := turns.onward
      have place := hear_rank heard
      exact (Onward.of_same (same _) (onward_serve _ _)).from_earlier
        (Nat.le_trans (place ▸ later) (by decide : 4 ≤ 5))
  | dismisses told sent other =>
      obtain ⟨entry, silent, ending⟩ := selected_other other
      rw [ending]
      exact .ends (s.ledger.speech_note (Entry.status_of_silent silent)) rfl
  | rejects told sent => exact .ends rfl rfl
  | replied told sent => exact absurd told (early _ _)

end Live

end SocksProxy
