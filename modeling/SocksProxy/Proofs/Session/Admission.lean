import SocksProxy.Proofs.Session.Course
import SocksProxy.Proofs.Session.Upheld

/-!
Nobody is served without having been let in. The authority is asked in one place only, so whatever
is in the record of a run was answered so by the services as they were at some move of the run.
Where the authority does not let clients in without a question, a client that is served has told
its name and password, these were accepted, and it knows that they were; and every access line
names whoever was accepted.
-/

namespace SocksProxy

open Net (SocketAddress)
open Wire (Method Refusal Request Status)

namespace Live

def asked (s : Live) : List Check := s.session.record.checks

/-- Nothing is asked on the way. -/
def Unasking (next : Live → Live) : Prop := ∀ s, (next s).asked = s.asked

/-- At most one question is asked on the way, and answered as the authority answers now. -/
def Asks (s after : Live) : Prop :=
  after.asked = s.asked ∨ ∃ credentials,
    after.asked = s.asked ++ [⟨credentials, (s.services.authenticate credentials).toOption⟩]

variable {s : Live}

def questioning (s : Live) : List Check × (Wire.Credentials → Except SessionError Bool) :=
  (s.asked, s.services.authenticate)

theorem unseen_questioning : Unseen questioning :=
  { enter := fun _ _ => rfl
    withClient := fun _ _ => rfl
    withServer := fun _ _ => rfl
    withInbound := fun _ _ => rfl
    staged := fun _ _ _ => rfl
    note := fun _ _ _ => rfl
    attempting := fun _ _ => rfl
    dialling := fun _ _ _ => rfl
    abandonServer := fun _ => rfl
    serving := fun _ _ => rfl
    withScene := fun _ _ => rfl }

theorem beforehand_questioning
    (shown : List Check × (Wire.Credentials → Except SessionError Bool)) :
    Beforehand fun s => s.questioning = shown :=
  { toUpheld := unseen_questioning.upheld shown
    asking := fun _ _ _ => id
    withLookup := fun _ _ => id
    took := fun _ => id
    gave := fun _ => id
    begins := fun relay s => (unseen_questioning.relay relay _ s).trans }

theorem asked_check (credentials : Wire.Credentials) (s : Live) :
    (s.check credentials).asked =
      s.asked ++ [⟨credentials, (s.services.authenticate credentials).toOption⟩] := by
  have said : ∀ message phase (x : Live), (x.say message (enter phase)).asked = x.asked :=
    fun message phase x =>
      congrArg Prod.fst (unseen_questioning.say message (unseen_questioning.enter phase) x)
  unfold check
  dsimp only
  split <;> rename_i answer <;> rw [answer]
  · rfl
  · exact said _ _ ((s.checking _).named _)
  · exact said _ _ ((s.checking _).noteProblem _)

theorem asks_handle (event : Event) (s : Live) : s.Asks (s.handle event) := by
  rcases (beforehand_questioning s.questioning).handle event rfl with
    same | ⟨x, credentials, same, checked⟩ | ⟨relay, move, -, stepped⟩
  · exact .inl (Prod.mk.inj same).1
  · obtain ⟨before, answers⟩ := Prod.mk.inj same
    refine .inr ⟨credentials, ?_⟩
    rw [checked, asked_check, before, answers]
  · rw [stepped]
    exact .inl (congrArg Prod.fst (unseen_questioning.relay relay _ s))

theorem unasking_start : Unasking start := by
  intro s
  unfold start
  dsimp only
  split <;> rfl

theorem asks_move {move : Move} (ongoing : move.isOngoing = true) (s : Live) :
    s.Asks (s.move move) := by
  by_cases event : ∃ event, move = .event event
  · obtain ⟨event, rfl⟩ := event
    exact asks_handle event s
  · rcases (calm_move ongoing fun e same => event ⟨e, same⟩).ledger with same | ⟨entry, _, more⟩
    · exact Or.inl (congrArg Ledger.checks same)
    · exact Or.inl (congrArg Ledger.checks more)

theorem answered_run {question : Check} (moves : List Move)
    (ongoing : ∀ move ∈ moves, move.isOngoing = true) (member : question ∈ (s.run moves).asked) :
    question ∈ s.asked ∨ ∃ before after, moves = before ++ after ∧
      question.accepted =
        ((s.run before).services.authenticate question.credentials).toOption := by
  induction moves generalizing s with
  | nil => exact Or.inl member
  | cons move rest ih =>
      have later : ∀ move ∈ rest, move.isOngoing = true := fun next inRest =>
        ongoing next (List.mem_cons_of_mem move inRest)
      rcases ih later member with old | ⟨before, after, split, answer⟩
      · -- It is in the record after the first move: from before the run, or asked by that move.
        rcases asks_move (ongoing move List.mem_cons_self) s with same | ⟨credentials, more⟩
        · exact Or.inl (same ▸ old)
        · rw [more] at old
          rcases List.mem_append.mp old with older | now
          · exact Or.inl older
          · right
            refine ⟨[], move :: rest, rfl, ?_⟩
            rw [List.mem_singleton.mp now]
            rfl
      · exact Or.inr ⟨move :: before, after, congrArg (move :: ·) split, answer⟩

end Live

theorem UserStore.demands_iff (s : UserStore) :
    .noAuth ∉ s.acceptableMethods ↔ s.users ≠ [] := by
  unfold acceptableMethods needsAuth
  cases s.users <;> simp

namespace Live

/-- A name was looked up, an address tried or an outcome told, or it is about to come to that. -/
def Served (s : Live) : Prop :=
  s.session.record.lookups ≠ [] ∨ s.session.record.attempts ≠ [] ∨
    (∃ reply, .reply reply ∈ s.session.record.said) ∨ s.session.phase.serves = true

/-- The client has shown a name and a password, they were accepted, and it was told so to the last
octet. -/
structure Vouched (s : Live) (client : Socket) (codes name password : Counted) : Prop where
  heard : ∃ rest, s.session.client.socket.taken =
    client.taken ++ Wire.Greeting.encode codes.val ++
      Wire.Credentials.encode name.val password.val ++ rest
  told : ∃ rest, s.session.client.socket.delivered =
    client.delivered ++ Wire.Selection.encode ⟨Wire.version, .userPass⟩ ++
      Wire.Verdict.encode ⟨true⟩ ++ rest
  said : ∃ rest, s.session.record.said = .selection .userPass :: .verdict true :: rest
  checks : s.session.record.checks = [⟨.ofBytes name.val password.val, some true⟩]

variable {first : Ledger} {acceptable : List Method} {s : Live}

theorem not_served_of_stranger (stranger : s.ledger.Stranger first)
    (idle : s.session.phase.serves = false) : ¬ s.Served := by
  intro served
  rcases served with lookups | attempts | ⟨reply, told⟩ | serves
  · exact lookups stranger.untried.lookups
  · exact attempts stranger.untried.attempts
  · exact stranger.untried.replies reply told
  · rw [idle] at serves
    cases serves

theorem vouched_of_admitted {client : Socket} {codes name password : Counted}
    (taken : first.taken = client.taken) (delivered : first.delivered = client.delivered)
    (admitted : s.ledger.Admitted first acceptable (.known codes name password)) :
    s.Vouched client codes name password := by
  obtain ⟨heard, takenAfter⟩ := admitted.heard
  obtain ⟨told, deliveredAfter⟩ := admitted.told
  refine ⟨⟨heard, ?_⟩, ⟨told, ?_⟩, admitted.said, admitted.checks⟩
  · rw [taken, Opening.heard] at takenAfter
    simp only [List.append_assoc] at takenAfter ⊢
    exact takenAfter
  · rw [delivered, Opening.told_eq] at deliveredAfter
    simp only [List.append_assoc] at deliveredAfter ⊢
    exact deliveredAfter

theorem ok_of_toOption {ε α : Type} {result : Except ε α} {value : α}
    (present : result.toOption = some value) : result = .ok value := by
  cases result with
  | error cause => cases present
  | ok found => exact congrArg Except.ok (Option.some.inj present)

section Run

variable (services : Services) (id : SessionId) (client : Socket) (address : SocketAddress)
  {moves : List Move} (ongoing : ∀ move ∈ moves, move.isOngoing = true)

include ongoing

theorem run_standing :
    let first := accepted services id client address
    let s := first.run (.start :: moves)
    (s.ledger.Stranger first.ledger ∧ s.session.phase.serves = false) ∨
      ∃ opening, s.ledger.Admitted first.ledger services.acceptableMethods opening := by
  intro first s
  rcases run_begun moves ongoing (before_start services id client address) with
    ⟨_, ⟨opening, request, reply, exchanged⟩, _⟩ | ⟨_, before⟩
  · exact Or.inr ⟨opening, exchanged.admitted⟩
  · by_cases serves : s.session.phase.serves = true
    · exact Or.inr (before.admitted serves)
    · cases before.unserved with
      | stranger stranger => exact Or.inl ⟨stranger, Bool.eq_false_iff.mpr serves⟩
      | guest opening admitted untouched => exact Or.inr ⟨opening, admitted⟩

theorem run_checks :
    ((accepted services id client address).run
      (.start :: moves)).session.record.checks.length ≤ 1 := by
  rcases run_standing services id client address ongoing with
    ⟨stranger, _⟩ | ⟨opening, admitted⟩
  · exact stranger.once
  · have asked := congrArg List.length admitted.checks
    exact Nat.le_trans (Nat.le_of_eq asked) opening.checks_length

theorem run_accesses :
    let first := accepted services id client address
    let s := first.run (.start :: moves)
    s.ledger.Accesses first.ledger (· = acceptedName s.session.record.checks) := by
  intro first s
  rcases run_standing services id client address ongoing with
    ⟨stranger, _⟩ | ⟨opening, admitted⟩
  · obtain ⟨noted, journal, about⟩ := stranger.untried.accesses
    exact ⟨noted, journal, fun entry member who named => (about entry member who named).elim⟩
  · obtain ⟨noted, journal, about⟩ := admitted.accesses
    have name : acceptedName s.session.record.checks = opening.user? := by
      rw [← opening.acceptedName_checks, ← admitted.checks]
      rfl
    exact ⟨noted, journal, fun entry member who named =>
      (about entry member who named).trans name.symm⟩

/-- A question on record was answered at one of the moves. -/
theorem run_answered {question : Check}
    (member : question ∈
      ((accepted services id client address).run (.start :: moves)).session.record.checks) :
    ∃ before after, moves = before ++ after ∧ question.accepted =
      (((accepted services id client address).run (.start :: before)).services.authenticate
        question.credentials).toOption := by
  rcases answered_run (s := (accepted services id client address).start) moves ongoing member with
    old | later
  · rw [unasking_start] at old
    cases old
  · exact later

/-- Whoever is served although nobody is let in without a question has been vouched for. -/
theorem run_vouched (demands : .noAuth ∉ services.acceptableMethods)
    (served : ((accepted services id client address).run (.start :: moves)).Served) :
    ∃ codes name password,
      ((accepted services id client address).run (.start :: moves)).Vouched client codes name
        password := by
  rcases run_standing services id client address ongoing with
    ⟨stranger, idle⟩ | ⟨opening, admitted⟩
  · exact absurd served (not_served_of_stranger stranger idle)
  · cases opening with
    | free codes =>
        -- Whoever is let in without a question has settled on a method that is acceptable.
        have welcome : Method.noAuth ∈ services.acceptableMethods :=
          Wire.Greeting.settled_acceptable admitted.method (by decide)
        exact absurd welcome demands
    | known codes name password =>
        exact ⟨codes, name, password, vouched_of_admitted rfl rfl admitted⟩

end Run

/-- Where clients are not let in without a question, only those are served whose name and password
the authority accepted when it was asked, and who know it. It is asked once, and the access lines
name whom it accepted. -/
theorem no_service_without_proof (services : Services) (id : SessionId) (client : Socket)
    (address : SocketAddress) (moves : List Move)
    (ongoing : ∀ move ∈ moves, move.isOngoing = true) :
    let first := accepted services id client address
    let s := first.run (.start :: moves)
    (services.authority = .users →
      (.noAuth ∉ services.acceptableMethods ↔ services.users.users ≠ [])) ∧
      (.noAuth ∉ services.acceptableMethods → s.Served →
        ∃ codes name password, s.Vouched client codes name password ∧
          ∃ before after, moves = before ++ after ∧
            (first.run (.start :: before)).services.authenticate
              (.ofBytes name.val password.val) = .ok true) ∧
      s.session.record.checks.length ≤ 1 ∧
      ∃ noted, s.services.monitor.journal = services.monitor.journal ++ noted ∧
        ∀ peer user command destination status,
          .access peer user command destination status ∈ noted →
            user = acceptedName s.session.record.checks ∧
              (Entry.access peer user command destination status).text =
                "access: " ++ peer.text ++ " user=" ++
                  (acceptedName s.session.record.checks).getD "-" ++ " " ++ command.name ++ " " ++
                  destination.text ++ " => " ++ status.text := by
  intro first s
  refine ⟨?_, ?_, run_checks services id client address ongoing, ?_⟩
  · intro store
    rw [Services.acceptableMethods, store]
    exact UserStore.demands_iff services.users
  · intro demands served
    obtain ⟨codes, name, password, vouched⟩ :=
      run_vouched services id client address ongoing demands served
    have asked : ⟨.ofBytes name.val password.val, some true⟩ ∈ s.session.record.checks := by
      rw [vouched.checks]
      exact List.mem_singleton.mpr rfl
    obtain ⟨before, after, split, answer⟩ :=
      run_answered services id client address ongoing asked
    exact ⟨codes, name, password, vouched, before, after, split, ok_of_toOption answer.symm⟩
  · obtain ⟨noted, journal, about⟩ := run_accesses services id client address ongoing
    refine ⟨noted, journal, ?_⟩
    intro peer user command destination status member
    have named : user = acceptedName s.session.record.checks := about _ member user rfl
    exact ⟨named, by rw [named]; rfl⟩

/-- A client that sends everything at once is served for the name that it has told, although that
user is removed as soon as it has been accepted. -/
theorem no_service_without_proof_when_sent_at_once :
    let services : Services := .reaching ⟨[⟨"a", "b"⟩]⟩
    let moves : List Move :=
      [.far .client (.send [5, 1, 2, 1, 1, 97, 1, 98, 5, 1, 0, 1, 127, 0, 0, 1, 0, 80]),
        .event (.readable .client), .event (.writable .client), .removeUser "a",
        .event (.writable .client), .settle, .event (.writable .server),
        .event (.writable .client)]
    let s := (accepted services ⟨0⟩ .fresh (.ofIp .localhost 5000)).run (.start :: moves)
    (∀ move ∈ moves, move.isOngoing = true) ∧ .noAuth ∉ services.acceptableMethods ∧ s.Served ∧
      s.session.user = some "a" ∧ s.services.users.users = [] ∧
      ∃ codes name password, s.Vouched .fresh codes name password := by
  intro services moves s
  have ongoing : ∀ move ∈ moves, move.isOngoing = true := by decide
  have demands : Method.noAuth ∉ services.acceptableMethods := by decide
  have served : s.Served := Or.inr (Or.inr (Or.inr (by decide)))
  obtain ⟨codes, name, password, vouched, _⟩ :=
    (no_service_without_proof services ⟨0⟩ .fresh (.ofIp .localhost 5000) moves ongoing).2.1
      demands served
  exact ⟨ongoing, demands, served, by decide, by decide, codes, name, password, vouched⟩

end Live

end SocksProxy
