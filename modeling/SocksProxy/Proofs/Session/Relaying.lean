import SocksProxy.Proofs.Relay.Flow
import SocksProxy.Proofs.Relay.Stroke
import SocksProxy.Proofs.Session.Actions
import SocksProxy.Proofs.Session.Opening

/-!
Sessions that relay. A session moves as its relay does, so what a relay keeps of its directions the
session keeps of its books.
-/

namespace SocksProxy

open Wire (Method Reply Request)

namespace Relay.Scene

def Quiet (before after : Scene) : Prop :=
  ∃ noted, after.monitor.journal = before.monitor.journal ++ noted ∧
    ∀ entry ∈ noted, entry.accessUser? = none

theorem Quiet.note {first s after : Scene} {entry : Entry} (quiet : Quiet first s)
    (more : after.monitor.journal = s.monitor.journal ++ [entry])
    (silent : entry.accessUser? = none) : Quiet first after := by
  obtain ⟨noted, journal, about⟩ := quiet
  refine ⟨noted ++ [entry], by rw [more, journal, List.append_assoc], ?_⟩
  intro other member
  rcases List.mem_append.mp member with old | new
  · exact about other old
  · rw [List.mem_singleton.mp new]
    exact silent

theorem Quiet.stroke {first s after : Scene} (stroke : Stroke s after) (quiet : Quiet first s) :
    Quiet first after := by
  cases stroke with
  | report login => exact quiet.note rfl rfl
  | setSniffing on => exact quiet.note rfl rfl
  | _ => exact quiet

theorem quiet_move (s : Scene) (move : Move) : Quiet s (s.move move).1 :=
  (move_strokes s move).keeps Quiet.stroke ⟨[], (List.append_nil _).symm, by simp⟩

end Relay.Scene

namespace Live

variable {first : Ledger} {acceptable : List Method} {opening : Opening} {request : Request}
  {reply : Reply} {s : Live} {server : Endpoint}

theorem ledger_traffic (serves : s.session.server = some server) :
    s.ledger.traffic = s.session.record.abandoned.map (fun socket =>
      (socket.taken, socket.delivered)) ++ [(server.socket.taken, server.socket.delivered)] := by
  simp [ledger, Session.destinations, serves]

theorem ledger_fetched (serves : s.session.server = some server) :
    s.ledger.fetched = s.session.record.abandoned.flatMap Socket.taken ++ server.socket.taken := by
  rw [Ledger.fetched, ledger_traffic serves, List.flatMap_append, List.flatMap_map,
    List.flatMap_singleton]

theorem ledger_forwarded (serves : s.session.server = some server) :
    s.ledger.forwarded =
      s.session.record.abandoned.flatMap Socket.delivered ++ server.socket.delivered := by
  rw [Ledger.forwarded, ledger_traffic serves, List.flatMap_append, List.flatMap_map,
    List.flatMap_singleton]

theorem grows_withScene {relay : Relay} {after : Relay.Scene}
    (leads : ∀ way, ((s.scene relay server).direction way).Leads (after.direction way))
    (quiet : (s.scene relay server).Quiet after) :
    s.ledger.Grows (s.withScene after).ledger := by
  obtain ⟨read, _, taken, _, _⟩ := (leads .client).carried
  obtain ⟨_, written, _, delivered, _⟩ := (leads .server).carried
  obtain ⟨noted, journal, about⟩ := quiet
  refine ⟨⟨read, taken⟩, ⟨written, delivered⟩, ⟨[], (List.append_nil _).symm⟩, rfl, rfl, noted,
    journal, ?_⟩
  intro entry member who named
  rw [about entry member] at named
  cases named

/-- Bytes leave a relay in the order in which they came, so the books stay balanced. -/
theorem exchanged_withScene {relay : Relay} {after : Relay.Scene}
    (serves : s.session.server = some server)
    (leads : ∀ way, ((s.scene relay server).direction way).Leads (after.direction way))
    (quiet : (s.scene relay server).Quiet after)
    (exchanged : s.ledger.Exchanged first acceptable opening request reply) :
    (s.withScene after).ledger.Exchanged first acceptable opening request reply := by
  obtain ⟨read, written, taken, delivered, balance⟩ := (leads .client).carried
  obtain ⟨fetched, passed, fetchedTaken, passedDelivered, fetchedBalance⟩ :=
    (leads .server).carried
  have serves' : (s.withScene after).session.server = some after.ends.server := rfl
  have forwarded : (s.withScene after).ledger.forwarded = s.ledger.forwarded ++ written := by
    rw [ledger_forwarded serves', ledger_forwarded serves, List.append_assoc]
    exact congrArg (s.session.record.abandoned.flatMap Socket.delivered ++ ·) delivered
  have returned : (s.withScene after).ledger.fetched = s.ledger.fetched ++ fetched := by
    rw [ledger_fetched serves', ledger_fetched serves, List.append_assoc]
    exact congrArg (s.session.record.abandoned.flatMap Socket.taken ++ ·) fetchedTaken
  have inbound : s.ledger.inbound ++ read = written ++ (s.withScene after).ledger.inbound := balance
  have outbound : s.ledger.outbound ++ fetched = passed ++ (s.withScene after).ledger.outbound :=
    fetchedBalance
  -- What the relay has read joins what is held, and what it has written leaves from there.
  refine ⟨exchanged.admitted.grow (grows_withScene leads quiet), exchanged.command,
    exchanged.status, ?_, ?_⟩
  · calc (s.withScene after).ledger.taken
        = s.ledger.taken ++ read := taken
      _ = first.taken ++ (opening.heard ++ (request.encode ++
            (s.ledger.forwarded ++ (s.ledger.inbound ++ read)))) := by
          rw [exchanged.taken]
          simp only [List.append_assoc]
      _ = first.taken ++ (opening.heard ++ (request.encode ++
            ((s.withScene after).ledger.forwarded ++ (s.withScene after).ledger.inbound))) := by
          rw [inbound, forwarded, List.append_assoc]
  · calc (s.withScene after).ledger.delivered ++ (s.withScene after).ledger.outbound
        = s.ledger.delivered ++ (passed ++ (s.withScene after).ledger.outbound) := by
          rw [← List.append_assoc]
          exact congrArg (· ++ _) passedDelivered
      _ = (s.ledger.delivered ++ s.ledger.outbound) ++ fetched := by
          rw [← outbound, List.append_assoc]
      _ = first.delivered ++ (opening.told ++ (reply.encode ++
            (s.withScene after).ledger.fetched)) := by
          rw [exchanged.delivered, returned]
          simp only [List.append_assoc]

theorem relay_cases {P : Live → Prop} {relay : Relay} {move : Relay.Move}
    (serves : s.session.server = some server)
    (failed : ∀ cause, P ((s.withScene ((s.scene relay server).move move).1).fail (.io cause)))
    (done : ((s.scene relay server).move move).1.relay.isDone = true →
      P ((s.withScene ((s.scene relay server).move move).1).enter .done))
    (pending : P ((s.withScene ((s.scene relay server).move move).1).enter
      (.relaying ((s.scene relay server).move move).1.relay))) :
    P (s.relay relay (Relay.Scene.move move)) := by
  rw [Live.relay, serves]
  dsimp only
  split
  · exact failed _
  · by_cases finished : ((s.scene relay server).move move).1.relay.isDone = true
    · rw [if_pos finished]
      exact done finished
    · rw [if_neg finished]
      exact pending

theorem relay_relaying {relay again : Relay} {move : Relay.Move}
    (relaying : (s.relay relay (Relay.Scene.move move)).session.phase = .relaying again) :
    ∃ server, s.session.server = some server ∧
      ((s.scene relay server).move move).1.relay = again ∧ again.isDone = false ∧
        s.relay relay (Relay.Scene.move move) =
          (s.withScene ((s.scene relay server).move move).1).enter (.relaying again) := by
  cases serves : s.session.server with
  | none =>
      rw [Live.relay, serves] at relaying
      cases relaying
  | some server =>
      refine ⟨server, rfl, ?_⟩
      rw [Live.relay, serves] at relaying ⊢
      dsimp only at relaying ⊢
      split at relaying
      · cases relaying
      · split at relaying
        · cases relaying
        · rename_i pending
          cases relaying
          exact ⟨rfl, Bool.eq_false_iff.mpr pending, by rw [if_neg pending]⟩

theorem exchanged_relay {relay : Relay} (serves : s.session.server = some server)
    (consistent : ∀ way, ((s.scene relay server).direction way).Consistent) (move : Relay.Move)
    (exchanged : s.ledger.Exchanged first acceptable opening request reply) :
    (s.relay relay (Relay.Scene.move move)).ledger.Exchanged first acceptable opening request
      reply := by
  have leads := fun way => Relay.Scene.move_leads way move (s.scene relay server) (consistent way)
  have quiet := Relay.Scene.quiet_move (s.scene relay server) move
  have balanced := exchanged_withScene serves leads quiet exchanged
  exact relay_cases (P := fun next => next.ledger.Exchanged first acceptable opening request reply)
    serves (fun _ => balanced) (fun _ => balanced) balanced

/-- A session that has relayed from a scene on: its relay has come from there, whether it still
works, has done all, or was given up. -/
def Follows (origin : Relay.Scene) (s : Live) : Prop :=
  ∃ relay server, s.session.server = some server ∧
    (∀ way, (origin.direction way).Leads ((s.scene relay server).direction way)) ∧
    (∀ way, ((s.scene relay server).direction way).Consistent) ∧
    match s.session.phase with
    | .relaying current => current = relay
    | .done => relay.isDone = true
    | .failed _ => True
    | _ => False

variable {origin : Relay.Scene}

theorem follows_relay {relay : Relay} (serves : s.session.server = some server)
    (leads : ∀ way, (origin.direction way).Leads ((s.scene relay server).direction way))
    (consistent : ∀ way, ((s.scene relay server).direction way).Consistent)
    (move : Relay.Move) : (s.relay relay (Relay.Scene.move move)).Follows origin := by
  have further := fun way =>
    (leads way).trans (Relay.Scene.move_leads way move (s.scene relay server) (consistent way))
  have kept := fun way => Relay.Scene.move_keeps way _ Relay.Direction.after_consistent move
    (s.scene relay server) (consistent way)
  apply relay_cases serves
  · intro cause
    exact ⟨_, _, rfl, further, kept, trivial⟩
  · intro done
    exact ⟨_, _, rfl, further, kept, done⟩
  · exact ⟨_, _, rfl, further, kept, rfl⟩

theorem handle_cases {P : Live → Prop} (follows : s.Follows origin) (event : Event) (stays : P s)
    (moved : ∀ relay server, s.session.server = some server →
      (∀ way, (origin.direction way).Leads ((s.scene relay server).direction way)) →
      (∀ way, ((s.scene relay server).direction way).Consistent) →
      ∀ move, P (s.relay relay (Relay.Scene.move move))) : P (s.handle event) := by
  obtain ⟨relay, server, serves, leads, consistent, place⟩ := follows
  unfold handle
  cases now : s.session.phase with
  | relaying current =>
      rw [now] at place
      change current = relay at place
      subst place
      cases event with
      | readable side => exact moved current server serves leads consistent (.readable side)
      | writable side => exact moved current server serves leads consistent (.writable side)
      | resumed => exact stays
  | done => exact stays
  | failed cause => exact stays
  | _ =>
      rw [now] at place
      exact absurd place id

theorem follows_handle (follows : s.Follows origin) (event : Event) :
    (s.handle event).Follows origin :=
  handle_cases follows event follows fun _ _ => follows_relay

/-- A session that has relayed and is done holds nothing back, either way. -/
theorem Follows.drained (follows : s.Follows origin) (done : s.session.phase = .done)
    (way : Side) : (s.session.buffers.get way).held = [] := by
  obtain ⟨relay, server, serves, leads, consistent, finished⟩ := follows
  rw [done] at finished
  exact ((Relay.Scene.isDone_iff _ consistent).mp finished way).2

end Live

end SocksProxy
