import SocksProxy.Proofs.Relay.Idle
import SocksProxy.Proofs.Session.Resuming

/-!
Events that find nothing to do. Readiness may be reported late, twice or for nothing; a session
that has nothing to do about it stays as it was, in everything that it holds. Only a relay whose
buffer is full takes the occasion to stop waiting for more.
-/

namespace SocksProxy

open Net (SocketAddress)
open Wire (Request)

namespace Live

/-- A relay at work is not done, and what it waits for is what it needs. -/
def Steady (s : Live) : Prop :=
  ∀ relay, s.session.phase = .relaying relay → relay.isDone = false ∧
    ∃ server, s.session.server = some server ∧
      ∀ way, ((s.scene relay server).direction way).Attentive

variable {s after : Live} {request : Request}

theorem steady_relay {relay : Relay} {move : Relay.Move}
    (attentive : ∀ server, s.session.server = some server →
      ∀ way, (((s.scene relay server).move move).1.direction way).Attentive) :
    (s.relay relay (Relay.Scene.move move)).Steady := by
  intro again relaying
  obtain ⟨server, serves, same, pending, moved⟩ := relay_relaying relaying
  refine ⟨pending, ((s.scene relay server).move move).1.ends.server, ?_, ?_⟩
  · rw [moved]
    rfl
  · rw [moved, ← same]
    exact attentive server serves

theorem steady_replied (request : Request) (s : Live) :
    (s.replied request .success).Steady := by
  let noted := s.note (.access s.session.client.address s.session.user request.command
    request.destination .success)
  change (noted.relay (Relay.new (s.snifferFor request)) (Relay.Scene.move .start)).Steady
  apply steady_relay
  intro server serves
  apply Relay.Scene.attentive_start
  rintro (_ | _) <;> rfl

theorem Steady.attentive (steady : s.Steady) {relay : Relay} {server : Endpoint}
    (relaying : s.session.phase = .relaying relay) (serves : s.session.server = some server)
    (way : Side) : ((s.scene relay server).direction way).Attentive := by
  obtain ⟨-, other, present, attentive⟩ := steady relay relaying
  rw [serves] at present
  cases present
  exact attentive way

theorem steady_handle (steady : s.Steady) (event : Event) : (s.handle event).Steady := by
  intro relay relaying
  rcases (s.responds event).origin relaying with same | ⟨earlier, move, before, steps⟩ |
    ⟨-, -, request, -, replies⟩
  · rw [same] at relaying ⊢
    exact steady relay relaying
  · rw [steps] at relaying ⊢
    refine steady_relay (fun server serves way => ?_) relay relaying
    exact Relay.Scene.move_keeps way _ Relay.Direction.after_attentive move _
      (steady.attentive before serves way)
  · rw [replies] at relaying ⊢
    exact steady_replied request s.gave relay relaying

theorem Calm.steady (calm : s.Calm after) (steady : s.Steady) : after.Steady := by
  intro relay relaying
  obtain ⟨pending, server, serves, attentive⟩ := steady relay (calm.phase.symm.trans relaying)
  obtain ⟨same, present, directions⟩ := calm.directions relay server serves
  refine ⟨pending, same, present, fun way => ?_⟩
  rw [directions]
  exact attentive way

theorem steady_move (steady : s.Steady) {move : Move} (ongoing : move.isOngoing = true) :
    (s.move move).Steady := by
  rcases move.event_or_world with ⟨event, rfl⟩ | world
  · exact steady_handle steady event
  · exact (calm_move ongoing world).steady steady

theorem receive_idle (nothing : ¬ s.session.client.socket.Readable ∨ s.inbound.room = 0)
    (next : Bool → Live → Live) : s.receive next = next false s := by
  have incoming : s.incoming = _ := Socket.receive_idle nothing
  have took : s.took = s := by
    rw [Live.took, incoming, Buffer.put_nil]
    rfl
  rw [receive, took, incoming]
  by_cases full : s.inbound.room = 0
  · rw [if_pos full]
  · rw [if_neg full]

theorem handle_unread (reads : s.session.phase.reads = true) (empty : s.inbound.held = [])
    (nothing : ¬ s.session.client.socket.Readable ∨ s.inbound.room = 0) :
    s.handle (.readable .client) = s.await .readOnly (enter s.session.phase) := by
  cases here : s.session.phase <;> rw [here] at reads <;> try cases reads
  all_goals
    simp only [handle, here, receive_idle nothing, readGreeting, readCredentials, readRequest,
      parse, Wire.Decoder.runOn_nothing empty]
    rfl

/-- If the registry does not renew the registration, the session is over, whatever has come. -/
theorem handle_unread_refused {client : Endpoint} {cause : Net.IoError}
    (refused : s.session.client.setInterest .readOnly = (client, some cause))
    (reads : s.session.phase.reads = true) (empty : s.inbound.held = [])
    (nothing : ¬ s.session.client.socket.Readable ∨ s.inbound.room = 0) :
    s.handle (.readable .client) = (s.withClient client).fail (.io cause) := by
  rw [handle_unread reads empty nothing, await, refused]

section Relays

variable {relay : Relay} {server : Endpoint} {side : Side}
  (lasting : s.Registries Registry.Lasting) (watchful : s.Watchful) (steady : s.Steady)
  (relaying : s.session.phase = .relaying relay) (serves : s.session.server = some server)

include lasting watchful steady relaying serves

end Relays

/-- What a session that is not over has kept up since its start. -/
structure Sound (services : Services) (first : Speech) (s : Live) : Prop where
  equipped : s.Equipped Registry.Lasting services
  watchful : s.Watchful
  spoken : s.Spoken first
  steady : s.Steady

variable {services : Services} {first : Speech}

theorem Sound.move (sound : s.Sound services first) {move : Move}
    (ongoing : move.isOngoing = true) : (s.move move).Sound services first :=
  ⟨sound.equipped.move Registry.kept_lasting ongoing,
    watchful_move sound.equipped.provided sound.equipped.size sound.watchful ongoing,
    spoken_move sound.spoken ongoing, steady_move sound.steady ongoing⟩

end Live

end SocksProxy
