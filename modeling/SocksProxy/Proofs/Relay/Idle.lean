import SocksProxy.Proofs.Relay.Progress
import SocksProxy.Proofs.Relay.Watched

/-!
Steps of a relay that find nothing to do. They leave everything as it is, but for one: a step of
reading into a full buffer no longer waits to read, if it still did.
-/

namespace SocksProxy

namespace Socket

variable {s : Socket}

theorem receive_idle {room : Nat} (idle : ¬ s.Readable ∨ room = 0) :
    s.receive room = ⟨[], if room = 0 then .full else .blocked, s⟩ := by
  by_cases none : room = 0
  · rw [if_pos none, none, receive_zero]
  · obtain ⟨empty, more⟩ := not_or.mp (idle.resolve_right none)
    have more : s.tail = .more := Decidable.not_not.mp more
    rw [if_neg none, receive_empty (Decidable.not_not.mp empty) (Nat.pos_of_ne_zero none), atEnd,
      more]

end Socket

/-- What has been registered can be registered anew, and be given up: a registry refuses that for
sockets that it does not know, and for no others. -/
structure Registry.Lasting (r : Registry) : Prop where
  reregister : r.reregister = []
  deregister : r.deregister = []

theorem Registry.kept_lasting : Registry.Kept Registry.Lasting := by
  intro r call lasting
  cases call with
  | register => exact ⟨lasting.reregister, lasting.deregister⟩
  | reregister => exact ⟨congrArg List.tail lasting.reregister, lasting.deregister⟩
  | deregister => exact ⟨lasting.reregister, congrArg List.tail lasting.deregister⟩

namespace CopyContext

variable {c : CopyContext}

end CopyContext

namespace Relay.Scene

def unread (side : Side) (s : Scene) : Scene :=
  (s.withContext side (·.disarm .readOnly)).withEnd side fun e =>
    { e with
      interest := e.interest.without .readOnly
      registered := !(e.interest.without .readOnly).isEmpty }

variable {s : Scene}

section Steps

variable (lasting : s.Registries Registry.Lasting) (registered : s.Registered)

include lasting registered

variable (attentive : ∀ way, (s.direction way).Attentive)

include attentive

end Steps

end Relay.Scene

end SocksProxy
