import SocksProxy.Proofs.Session.Order
import SocksProxy.Proofs.Session.Upheld

/-!
What a session does to the monitor of the process beside noting things. Whatever is counted or
reported about what passes through a session is counted and reported by its relay.
-/

namespace SocksProxy

/-- A view of a monitor in which nothing shows but what a relay does to it: neither entries that are
not about a login, nor whether logins are looked for. -/
structure Monitor.Discreet {α : Type} (view : Monitor → α) : Prop where
  note : ∀ entry, entry.isSighting = false → ∀ m, view (Monitor.note entry m) = view m
  switch : ∀ on m, view { m with sniffing := on } = view m

namespace Live

def viewed {α : Type} (view : Monitor → α) (s : Live) : α := view s.services.monitor

variable {α : Type} {view : Monitor → α} {s : Live}

theorem viewed_withUsers {changed : Except UserError UserStore} {update : UserStore → Services}
    (kept : ∀ users, view (update users).monitor = s.viewed view) :
    (s.withUsers (changed.map update)).viewed view = s.viewed view := by
  cases changed with
  | error fault => rfl
  | ok users => exact kept users

theorem overlooked_viewed (discreet : Monitor.Discreet view) : Overlooked (viewed view) :=
  { enter := fun _ _ => rfl
    withClient := fun _ _ => rfl
    withServer := fun _ _ => rfl
    withInbound := fun _ _ => rfl
    staged := fun _ _ _ => rfl
    note := fun entry other s => discreet.note entry other s.services.monitor
    attempting := fun _ _ => rfl
    dialling := fun _ _ _ => rfl
    abandonServer := fun _ => rfl
    serving := fun _ _ => rfl }

section Steps

theorem viewed_relay_start (relay : Relay) (s : Live) :
    (s.relay relay Relay.Scene.start).viewed view = s.viewed view := by
  cases serves : s.session.server with
  | none => rw [Live.relay, serves]; rfl
  | some server =>
      have still : (s.withScene ((s.scene relay server).move .start).1).viewed view =
          s.viewed view :=
        congrArg (fun w : Relay.Watch => view w.monitor) (s.scene relay server).watch_start
      change (s.relay relay (Relay.Scene.move .start)).viewed view = s.viewed view
      exact relay_cases (P := fun after => after.viewed view = s.viewed view) serves
        (fun _ => still) (fun _ => still) still

variable (discreet : Monitor.Discreet view)

include discreet

/-- Nothing shows of all that a session does before it relays. -/
theorem throughout_viewed (shown : α) : Throughout fun s => s.viewed view = shown :=
  { toUpheld := (overlooked_viewed discreet).upheld shown
    asking := fun _ _ _ => id
    withLookup := fun _ _ => id
    took := fun _ => id
    gave := fun _ => id
    begins := fun relay s => (viewed_relay_start relay s).trans
    checking := fun _ _ => id
    named := fun _ _ => id }

theorem viewed_handle (event : Event) (s : Live) :
    (s.handle event).viewed view = s.viewed view ∨
      ∃ relay move, s.session.phase = .relaying relay ∧
        s.handle event = s.relay relay (Relay.Scene.move move) :=
  (throughout_viewed discreet _).handle event rfl

theorem viewed_start (s : Live) : s.start.viewed view = s.viewed view := by
  unfold start
  dsimp only
  split
  · rfl
  · exact discreet.note _ rfl _

theorem viewed_tellLookup (s : Live) : s.tellLookup.viewed view = s.viewed view := by
  have notified : view (s.services.notify s.session.id).monitor = view s.services.monitor := by
    unfold Services.notify
    split
    · rfl
    · exact discreet.note _ rfl _
  unfold tellLookup
  split
  · rfl
  · dsimp only
    split
    · exact notified
    · rfl

theorem viewed_world {move : Move} (world : ∀ event, move ≠ .event event) :
    (s.move move).viewed view = s.viewed view := by
  cases move with
  | event event => exact absurd rfl (world event)
  | start => exact viewed_start discreet s
  | close | settle | finishLookup => rfl
  | setSniffing on =>
      exact (discreet.switch on _).trans (discreet.note (.sniffingSet on) rfl s.services.monitor)
  | tellLookup => exact viewed_tellLookup discreet s
  | addUser user | removeUser name | changePassword name password =>
      exact viewed_withUsers fun _ => discreet.note _ rfl _
  | far side far =>
      change (s.farMove far side).viewed view = s.viewed view
      unfold farMove
      split <;> rfl

end Steps

end Live

end SocksProxy
