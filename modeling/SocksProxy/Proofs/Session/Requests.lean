import SocksProxy.Proofs.Session.Serving

/-!
Requests and what comes of them, over whole runs. A request that has been parsed is looked up if it
names a host, its addresses are tried one after the other as long as they fail, and the reply tells
how that went.
-/

namespace SocksProxy

open Net (SocketAddress)
open Wire (Refusal Reply Request Status)

namespace Live

/-- What one event may add: an address is tried only where none was, or where the latest has failed,
and another one in the same go only if that fails at once; success is told exactly where the current
attempt is found to have succeeded. -/
structure Orderly (s : Live) (event : Event) (after : Live) : Prop where
  tries : s.Tries after
  waits : after.attempts ≠ s.attempts → s.attempts = [] ∨
    ∃ target why, s.session.attempt = some ⟨target, .failed why, true⟩
  replies : after.replies = s.replies ∨ ∃ reply, after.replies = s.replies ++ [reply]
  success : (∃ reply, reply.status = .success ∧ after.replies = s.replies ++ [reply]) ↔
    s.Decides event
  bound : ∀ bound, s.Decides event → s.Reached bound →
    after.replies = s.replies ++ [.bound .success bound]

variable {services : Services} {request : Request} {s after : Live}

theorem Attending.standing (attending : s.Attending services request) :
    (∃ reply, s.Answers services request reply) ∨
      s.replies = [] ∧ request.command = .connect ∧
        (s.session.phase = .resolving request ∧ request.socketAddress? = none ∧ s.attempts = [] ∨
          ∃ rest target outcome tried, s.session.phase = .connecting request rest target ∧
            s.Trying services request rest.waiting target outcome tried) := by
  have attends := attending.attends
  cases phase : s.session.phase <;> rw [phase] at attends
  case resolving =>
    obtain ⟨rfl, connect, address, untried, silent, -⟩ := attends
    exact Or.inr ⟨silent, connect, Or.inl ⟨rfl, address, untried⟩⟩
  case connecting =>
    obtain ⟨rfl, connect, silent, outcome, tried, trying⟩ := attends
    exact Or.inr ⟨silent, connect, Or.inr ⟨_, _, outcome, tried, rfl, trying⟩⟩
  case replying => exact Or.inl (attends.2.imp fun reply told => told.2)
  case relaying | failed | done => exact Or.inl attends
  all_goals exact attends.elim

theorem Attending.inOrder (attending : s.Attending services request) :
    s.attempts <+: services.candidates request := by
  rcases attending.standing with
    ⟨reply, answers⟩ | ⟨-, -, ⟨-, -, untried⟩ | ⟨rest, target, outcome, tried, -, trying⟩⟩
  · exact answers.agreed.inOrder
  · rw [untried]
    exact List.nil_prefix
  · rw [trying.attempts, trying.candidates]
    exact ⟨rest.waiting, by rw [List.append_assoc]; rfl⟩

theorem Orderly.of_same {event : Event} (undecided : ¬ s.Decides event)
    (attempts : after.attempts = s.attempts) (replies : after.replies = s.replies) :
    s.Orderly event after where
  tries := .of_same attempts
  waits added := absurd attempts added
  replies := Or.inl replies
  success := by
    refine ⟨?_, fun decides => absurd decides undecided⟩
    rintro ⟨reply, success, told⟩
    rw [replies] at told
    simp at told
  bound _ decides := absurd decides undecided

theorem Leads.orderly {event : Event} (leads : s.Leads services request after)
    (undecided : ¬ s.Decides event)
    (free : s.attempts = [] ∨ ∃ target why, s.session.attempt = some ⟨target, .failed why, true⟩)
    (silent : s.replies = []) : s.Orderly event after where
  tries := leads.tries
  waits _ := free
  replies := by
    rw [silent]
    exact leads.reply.imp id fun ⟨why, told⟩ => ⟨_, told⟩
  success := by
    refine ⟨?_, fun decides => absurd decides undecided⟩
    rintro ⟨reply, success, told⟩
    rw [silent] at told
    rcases leads.reply with nothing | ⟨why, refused⟩
    · rw [nothing] at told
      cases told
    · rw [refused] at told
      cases told
      cases success
  bound _ decides := absurd decides undecided

theorem Connects.orderly {event : Event} {bound : SocketAddress}
    (connects : s.Connects services request bound after) (decides : s.Decides event)
    (reached : ∀ other, s.Reached other → other = bound) (silent : s.replies = []) :
    s.Orderly event after where
  tries := .of_same connects.attempts
  waits added := absurd connects.attempts added
  replies := by
    rw [silent]
    exact Or.inr ⟨_, connects.reply⟩
  success := by
    refine ⟨fun _ => decides, fun _ => ⟨.bound .success bound, rfl, ?_⟩⟩
    rw [silent]
    exact connects.reply
  bound other _ here := by
    rw [silent, reached other here]
    exact connects.reply

end Live

end SocksProxy
