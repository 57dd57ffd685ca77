import SocksProxy.Proofs.Relay.Watched
import SocksProxy.Proofs.Session.Handling

/-!
Properties that the small actions of a session uphold. What each of them upholds is upheld by all
that is made of them: between a request and its reply, before the relay as long as the authority
is not asked, and in all that a session does before the relay. So it is with views in which the
small actions do not show: what a view does not show of them, it does not show of whatever is made
of them.
-/

namespace SocksProxy.Live

open Net (SocketAddress)
open Wire (Refusal Request Status)

/-- The actions between a request and its reply uphold this property. What they note is never about
a login that was seen. -/
structure Upheld (P : Live → Prop) : Prop where
  enter : ∀ phase s, P s → P (s.enter phase)
  withClient : ∀ {wanted client refusal s},
    s.session.client.setInterest wanted = (client, refusal) → P s → P (s.withClient client)
  withServer : ∀ {server asked refusal s}, s.session.server = some server →
    server.setInterest .none = (asked, refusal) → P s → P (s.withServer (some asked))
  withInbound : ∀ buffer s, P s → P (s.withInbound buffer)
  staged : ∀ message buffer s, P s → P (s.staged message buffer)
  note : ∀ entry, entry.isSighting = false → ∀ s, P s → P (s.note entry)
  attempting : ∀ target s, P s → P (s.attempting target)
  dialling : ∀ {target server s} attempt,
    (Endpoint.new s.stream target (Token.ofSession s.session.id .server)).setInterest .writeOnly =
      (server, none) → P s → P (s.dialling server attempt)
  abandonServer : ∀ s, P s → P s.abandonServer
  serving : ∀ request s, P s → P { s with session := { s.session with
    attempt := none, phase := .replying request .success } }

/-- So does all that a session does before it relays, but for a question to the authority. -/
structure Beforehand (P : Live → Prop) : Prop extends Upheld P where
  asking : ∀ host port s, P s → P (s.asking host port)
  withLookup : ∀ lookup s, P s → P (s.withLookup lookup)
  took : ∀ s, P s → P s.took
  gave : ∀ s, P s → P s.gave
  begins : ∀ relay s, P s → P (s.relay relay (Relay.Scene.move .start))

/-- So does a question to the authority, whatever the answer. -/
structure Throughout (P : Live → Prop) : Prop extends Beforehand P where
  checking : ∀ question s, P s → P (s.checking question)
  named : ∀ name s, P s → P (s.named name)

variable {P : Live → Prop} {next : Live → Live} {s after : Live}

namespace Upheld

theorem await (upheld : Upheld P) (wanted : Interest) (goesOn : ∀ s, P s → P (next s))
    (here : P s) : P (s.await wanted next) :=
  await_cases (fun _ registered => goesOn _ (upheld.withClient registered here))
    fun _ _ refused => upheld.enter _ _ (upheld.withClient refused here)

theorem say (upheld : Upheld P) (message : Message) (goesOn : ∀ s, P s → P (next s))
    (here : P s) : P (s.say message next) := by
  unfold Live.say
  split
  · exact upheld.await .writeOnly goesOn (upheld.staged message _ s here)
  · exact upheld.enter _ s here

theorem refuse (upheld : Upheld P) (request : Request) (why : Refusal) (here : P s) :
    P (s.refuse request why) :=
  upheld.say _ (upheld.enter _) here

theorem unreachable (upheld : Upheld P) (request : Request) (last : Refusal) (here : P s) :
    P (s.unreachable request last) := by
  unfold Live.unreachable
  split
  · exact upheld.refuse request last here
  · exact upheld.refuse request _ (upheld.note _ rfl s here)

theorem dial (upheld : Upheld P) (request : Request) (rest : List SocketAddress)
    (target : SocketAddress) (outcome : Outcome) (here : P s) :
    P (s.dial request rest target outcome) := by
  unfold Live.dial
  dsimp only
  split
  · exact upheld.enter _ s here
  · rename_i server registered
    exact upheld.await .none (upheld.enter _) (upheld.dialling _ registered here)

theorem connect (upheld : Upheld P) (request : Request) (targets : List SocketAddress)
    (last : Refusal) (here : P s) : P (Live.connect request targets last s) := by
  induction targets generalizing s last with
  | nil => exact upheld.unreachable request last here
  | cons target rest ih =>
      have trying := upheld.attempting target s here
      unfold Live.connect
      split
      · exact ih _ trying
      · exact upheld.dial request rest target _ trying

theorem connected (upheld : Upheld P) (request : Request) {server : Endpoint}
    (bound : SocketAddress) (serves : s.session.server = some server) (here : P s) :
    P (s.connected request server bound) := by
  unfold Live.connected
  split <;> rename_i asked
  · exact upheld.enter _ _ (upheld.withServer serves asked here)
  · exact upheld.say _ (upheld.serving request) (upheld.withServer serves asked here)

theorem settled (upheld : Upheld P) (request : Request) (rest : Candidates) (here : P s) :
    P (s.settled request rest) := by
  unfold Live.settled
  split
  · exact upheld.enter _ s here
  · exact here
  · rename_i server attempt serves trying
    split
    · split
      · exact upheld.connected request _ serves here
      · exact upheld.connect request _ _ (upheld.abandonServer s here)
    · exact here

end Upheld

namespace Beforehand

theorem lookUp (beforehand : Beforehand P) (request : Request) (here : P s) :
    P (s.lookUp request) := by
  unfold Live.lookUp
  split
  · exact beforehand.refuse _ _ (beforehand.note _ rfl s here)
  · exact beforehand.await .none (beforehand.enter _) (beforehand.asking _ _ s here)

theorem serve (beforehand : Beforehand P) (request : Request) (here : P s) :
    P (s.serve request) := by
  unfold Live.serve
  split
  · split
    · exact beforehand.connect _ _ _ here
    · exact beforehand.lookUp request here
  · exact beforehand.refuse _ _ (beforehand.note _ rfl s here)

theorem resolved (beforehand : Beforehand P) (request : Request) (here : P s) :
    P (s.resolved request) := by
  unfold Live.resolved
  split
  · exact here
  · split
    · exact here
    · rename_i found lookup taken
      have took := beforehand.withLookup lookup s here
      split
      · exact beforehand.refuse _ _ (beforehand.note _ rfl _ took)
      · exact beforehand.connect _ _ _ took

theorem replied (beforehand : Beforehand P) (request : Request) (status : Status) (here : P s) :
    P (s.replied request status) := by
  have noted := beforehand.note (.access s.session.client.address s.session.user request.command
    request.destination status) rfl s here
  unfold Live.replied
  dsimp only
  split
  · exact beforehand.begins _ _ noted
  · exact beforehand.enter _ _ noted

theorem turns (beforehand : Beforehand P) {phase : Phase} {x : Live} (turns : s.Turns phase x)
    (buffer : Buffer) (here : P s) : P (x.withInbound buffer) := by
  refine beforehand.withInbound buffer x ?_
  cases turns with
  | stays reads => exact here
  | begins admitted sent registered | challenges asked sent registered =>
      exact beforehand.withClient registered here

theorem act (beforehand : Beforehand P) (act : s.Act after) (here : P s) :
    P after ∨ ∃ x credentials, P x ∧ after = x.check credentials := by
  cases act with
  | unregistered refused => exact .inl (beforehand.enter _ _ (beforehand.withClient refused here))
  | waits turns heard =>
      exact .inl (beforehand.await .readOnly (beforehand.enter _) (beforehand.turns turns _ here))
  | leaves heard empty finished =>
      exact .inl (beforehand.enter _ _ (beforehand.withInbound _ s here))
  | mistakes turns heard => exact .inl (beforehand.enter _ _ (beforehand.turns turns _ here))
  | selects turns heard =>
      exact .inl (beforehand.say _ (beforehand.enter _) (beforehand.turns turns _ here))
  | verifies turns heard => exact .inr ⟨_, _, beforehand.turns turns _ here, rfl⟩
  | serves turns heard => exact .inl (beforehand.serve _ (beforehand.turns turns _ here))
  | @dismisses method told sent other =>
      cases method with
      | noAuth => exact absurd rfl other.1
      | userPass => exact absurd rfl other.2
      | _ => exact .inl (beforehand.enter _ _ (beforehand.note _ rfl s here))
  | rejects told sent => exact .inl (beforehand.enter _ s here)
  | replied told sent => exact .inl (beforehand.replied _ _ here)

theorem handle (beforehand : Beforehand P) (event : Event) (here : P s) :
    P (s.handle event) ∨ (∃ x credentials, P x ∧ s.handle event = x.check credentials) ∨
      ∃ relay move, s.session.phase = .relaying relay ∧
        s.handle event = s.relay relay (Relay.Scene.move move) := by
  have handled := s.handled event
  generalize s.handle event = after at handled ⊢
  cases handled with
  | nothing deaf => exact .inl here
  | heard reads sound act => exact (beforehand.act act (beforehand.took s here)).imp_right .inl
  | unheard reads broken => exact .inl (beforehand.enter _ _ (beforehand.took s here))
  | sent writes drained act => exact (beforehand.act act (beforehand.gave s here)).imp_right .inl
  | halted writes blocked => exact .inl (beforehand.gave s here)
  | unsent writes broken => exact .inl (beforehand.enter _ _ (beforehand.gave s here))
  | resumed asked => exact .inl (beforehand.resolved _ here)
  | decided trying => exact .inl (beforehand.settled _ _ here)
  | readable relaying => exact .inr (.inr ⟨_, _, relaying, rfl⟩)
  | writable relaying => exact .inr (.inr ⟨_, _, relaying, rfl⟩)

end Beforehand

namespace Throughout

theorem check (whole : Throughout P) (credentials : Wire.Credentials) (here : P s) :
    P (s.check credentials) := by
  have asked := fun question => whole.checking question s here
  unfold Live.check
  dsimp only
  split
  · exact whole.enter _ _ (asked _)
  · exact whole.say _ (whole.enter _) (whole.named _ _ (asked _))
  · exact whole.say _ (whole.enter _) (whole.note _ rfl _ (asked _))

theorem handle (whole : Throughout P) (event : Event) (here : P s) :
    P (s.handle event) ∨ ∃ relay move, s.session.phase = .relaying relay ∧
      s.handle event = s.relay relay (Relay.Scene.move move) := by
  rcases whole.toBeforehand.handle event here with
    kept | ⟨x, credentials, asked, checked⟩ | stepped
  · exact .inl kept
  · exact .inl (checked ▸ whole.check credentials asked)
  · exact .inr stepped

end Throughout

/-- None of the actions between a request and its reply shows in this view. What they note is never
about a login that was seen. -/
structure Overlooked {α : Type} (view : Live → α) : Prop where
  enter : ∀ phase s, view (s.enter phase) = view s
  withClient : ∀ client s, view (s.withClient client) = view s
  withServer : ∀ server s, view (s.withServer server) = view s
  withInbound : ∀ buffer s, view (s.withInbound buffer) = view s
  staged : ∀ message buffer s, view (s.staged message buffer) = view s
  note : ∀ entry, entry.isSighting = false → ∀ s, view (s.note entry) = view s
  attempting : ∀ target s, view (s.attempting target) = view s
  dialling : ∀ server attempt s, view (s.dialling server attempt) = view s
  abandonServer : ∀ s, view s.abandonServer = view s
  serving : ∀ request s, view { s with session := { s.session with
    attempt := none, phase := .replying request .success } } = view s

/-- Nor does a relay show in it, whatever comes of its steps. -/
structure Unseen {α : Type} (view : Live → α) : Prop extends Overlooked view where
  withScene : ∀ scene s, view (s.withScene scene) = view s

variable {α : Type} {view : Live → α} {next : Live → Live}

namespace Overlooked

theorem upheld (overlooked : Overlooked view) (shown : α) : Upheld fun s => view s = shown :=
  { enter := fun phase s => (overlooked.enter phase s).trans
    withClient := fun _ => (overlooked.withClient _ _).trans
    withServer := fun _ _ => (overlooked.withServer _ _).trans
    withInbound := fun buffer s => (overlooked.withInbound buffer s).trans
    staged := fun message buffer s => (overlooked.staged message buffer s).trans
    note := fun entry other s => (overlooked.note entry other s).trans
    attempting := fun target s => (overlooked.attempting target s).trans
    dialling := fun attempt _ => (overlooked.dialling _ attempt _).trans
    abandonServer := fun s => (overlooked.abandonServer s).trans
    serving := fun request s => (overlooked.serving request s).trans }

variable (overlooked : Overlooked view)

include overlooked

theorem await (wanted : Interest) (kept : ∀ s, view (next s) = view s) (s : Live) :
    view (s.await wanted next) = view s :=
  (overlooked.upheld _).await wanted (fun x => (kept x).trans) rfl

theorem say (message : Message) (kept : ∀ s, view (next s) = view s) (s : Live) :
    view (s.say message next) = view s :=
  (overlooked.upheld _).say message (fun x => (kept x).trans) rfl

theorem refuse (request : Request) (why : Refusal) (s : Live) :
    view (s.refuse request why) = view s :=
  (overlooked.upheld _).refuse request why rfl

theorem connect (request : Request) (targets : List SocketAddress) (last : Refusal) (s : Live) :
    view (Live.connect request targets last s) = view s :=
  (overlooked.upheld _).connect request targets last rfl

theorem settled (request : Request) (rest : Candidates) (s : Live) :
    view (s.settled request rest) = view s :=
  (overlooked.upheld _).settled request rest rfl

end Overlooked

namespace Unseen

theorem relay (unseen : Unseen view) (relay : Relay)
    (step : Relay.Scene → Relay.Scene × Option Net.IoError) (s : Live) :
    view (s.relay relay step) = view s := by
  unfold Live.relay
  split
  · exact unseen.enter _ s
  · dsimp only
    split <;> exact (unseen.enter _ _).trans (unseen.withScene _ s)

theorem replied (unseen : Unseen view) (request : Request) (status : Status) (s : Live) :
    view (s.replied request status) = view s := by
  unfold Live.replied
  dsimp only
  split
  · exact (unseen.relay _ _ _).trans (unseen.note _ rfl s)
  · exact (unseen.enter _ _).trans (unseen.note _ rfl s)

end Unseen

end SocksProxy.Live
