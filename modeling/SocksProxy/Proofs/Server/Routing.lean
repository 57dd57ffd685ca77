import SocksProxy.Proofs.Server.Wakeups

/-!
What becomes ready is told to whom it belongs. A token of a session is a number from which its id
and its side can be read again, and no other token is. The sockets of a session have the tokens of
its id from the beginning to the end, whatever the session and its surroundings do. So in every
state that a server can be seen in, no two sockets have the same token, and an event on a socket
is told to the session that has it, as an event of that side, and to nobody else.
-/

namespace SocksProxy

namespace Token

def offset : Side → Nat
  | .client => 0
  | .server => 1

variable {id other : SessionId} {side way : Side} {token : Token}

end Token

namespace Session

def endpoint? (side : Side) (x : Session) : Option Endpoint :=
  match side with
  | .client => some x.client
  | .server => x.server

/-- Each socket has the token of the session's id and its side. -/
def Tagged (x : Session) : Prop :=
  ∀ side e, x.endpoint? side = some e → e.token = Token.ofSession x.id side

variable {x : Session}

theorem Tagged.client (tagged : x.Tagged) : x.client.token = Token.ofSession x.id .client :=
  tagged .client x.client rfl

theorem Tagged.server (tagged : x.Tagged) {e : Endpoint} (serves : x.server = some e) :
    e.token = Token.ofSession x.id .server :=
  tagged .server e serves

end Session

namespace Live

variable {s : Live}

end Live

namespace Server

open Net (SocketAddress)

variable {services : Services} {id : SessionId} {side way : Side} {e f : Endpoint} {x y : Session}
  {moved : Live} {signal : Signal} {s after : Server}

/-- Every session has an id of its own and this property. -/
structure Holds (Q : Session → Prop) (s : Server) : Prop where
  unique : s.Unique
  each : ∀ x ∈ s.sessions, Q x

/-- From its start on a session has this property, whatever it does and whatever happens around
it. -/
structure Lasting (Q : Session → Prop) : Prop where
  starts : ∀ services id client address, Q (Live.accepted services id client address).start.session
  handles : ∀ event (s : Live), Q s.session → Q (s.handle event).session
  moves : ∀ move (s : Live), isAround move = true → Q s.session → Q (s.move move).session

namespace Holds

variable {Q : Session → Prop}

theorem fewer (holds : s.Holds Q) (fewer : after.sessions.Sublist s.sessions) : after.Holds Q :=
  ⟨holds.unique.fewer fewer, fun x member => holds.each x (fewer.subset member)⟩

theorem store (holds : s.Holds Q) (here : Q moved.session) : (s.store moved).Holds Q := by
  refine ⟨holds.unique.store moved, fun x member => ?_⟩
  rcases mem_replace holds.unique member with rfl | ⟨there, -⟩
  · exact here
  · exact holds.each x there

theorem drive (holds : s.Holds Q) (lasting : Lasting Q) (id : SessionId)
    (events : List SocksProxy.Event) : (s.drive id events).Holds Q := by
  rcases drive_cases id events s with ⟨idle, -⟩ | ⟨x, member, -, driven⟩
  · rw [idle]
    exact holds
  · have kept : Q ((s.live x).driven events).session :=
      Live.driven_keeps (P := fun moved => Q moved.session) lasting.handles events
        (holds.each x member)
    rw [driven]
    exact (holds.store kept).fewer (reap_fewer _ _)

theorem resume (holds : s.Holds Q) (lasting : Lasting Q) (ids : List SessionId) :
    (s.resume ids).Holds Q := by
  induction ids generalizing s with
  | nil => exact holds
  | cons id rest ih => exact ih (holds.drive lasting id _)

theorem acceptAs (holds : s.Holds Q) (lasting : Lasting Q) (fresh : ∀ x ∈ s.sessions, x.id ≠ id)
    (socket : Socket) (address : SocketAddress) : (s.acceptAs id socket address).Holds Q := by
  let noted := (s.note (.accepted id address)).withStats Stats.opened
  let started := (Live.accepted noted.services id socket address).start
  have same : started.session.id = id :=
    (Live.of_calling (Live.start_of_new noted.services id socket address).1).1
  have stored : Holds Q
      { noted with services := started.services, sessions := s.sessions ++ [started.session] } := by
    refine ⟨holds.unique.append (same ▸ fresh), fun y member => ?_⟩
    rcases List.mem_append.mp member with there | new
    · exact holds.each y there
    · rw [List.mem_singleton.mp new]
      exact lasting.starts _ _ _ _
  exact stored.fewer (reap_fewer id _)

theorem wake (holds : s.Holds Q) (lasting : Lasting Q) (commands : List Command) :
    (s.wake commands).Holds Q := by
  have obeyed := holds.fewer (s.obey_keeps commands).1
  unfold Server.wake
  dsimp only
  split
  · refine Holds.resume ?_ lasting _
    exact obeyed.fewer (List.Sublist.refl _)
  · exact obeyed

theorem happen (holds : s.Holds Q) (lasting : Lasting Q) (happening : Happening) :
    (s.happen happening).Holds Q := by
  unfold Server.happen
  split
  · split
    · unfold accept
      split
      · exact holds.acceptAs lasting (fresh_of_freshId ‹_›) _ _
      · exact holds
    · exact holds
  · split
    · unfold readiness
      split
      · exact ⟨holds.unique, holds.each⟩
      · exact holds.drive lasting _ _
    · exact holds
  · split
    · exact holds.wake lasting _
    · exact holds
  · exact ⟨holds.unique, holds.each⟩
  · rename_i id move
    split
    · rename_i world
      rcases around_cases id (Live.move move) s with idle | ⟨x, member, -, moved⟩
      · rw [idle]
        exact holds
      · rw [moved]
        exact holds.store (lasting.moves move (s.live x) world (holds.each x member))
    · exact holds

end Holds

theorem Reached.holds {Q : Session → Prop} (lasting : Lasting Q) (reached : Reached services s) :
    s.Holds Q := by
  induction reached with
  | fresh => exact ⟨List.nodup_nil, fun x member => absurd member List.not_mem_nil⟩
  | happens before happening ih => exact ih.happen lasting happening
  | drives before id events ih => exact ih.drive lasting id events
  | resumes before next ih =>
      refine Holds.drive ?_ lasting _ _
      exact ih.fewer (List.Sublist.refl _)

theorem running_accept (caller : Caller) (s : Server) :
    (s.accept caller.drawn caller.socket caller.address).running = s.running := by
  unfold accept
  split
  · unfold acceptAs
    exact running_reap _ _
  · rfl

/-- A turn of the loop of a server that runs is made of things that can happen to it. -/
theorem Reached.turn (before : Reached services s) (running : s.running = true) (signal : Signal) :
    Reached services (s.turn signal) := by
  have accepts : ∀ (callers : List Caller) {s : Server}, Reached services s → s.running = true →
      Reached services
        (callers.foldl (fun s caller => s.accept caller.drawn caller.socket caller.address) s) := by
    intro callers
    induction callers with
    | nil => exact fun before _ => before
    | cons caller rest ih =>
        intro s before running
        have accepted := before.happens (.accepted caller.drawn caller.socket caller.address)
        rw [happen, if_pos running] at accepted
        exact ih accepted ((running_accept caller s).trans running)
  have woken := before.happens (.woken signal.commands)
  have told := before.happens (.ready signal.token signal.readiness)
  rw [happen, if_pos running] at woken
  rw [happen, if_pos running] at told
  unfold Server.turn
  split
  · exact accepts signal.callers before running
  · split
    · exact woken
    · exact told

end Server

end SocksProxy
