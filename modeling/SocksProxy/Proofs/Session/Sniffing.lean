import SocksProxy.Proofs.Relay.Sniffing
import SocksProxy.Proofs.Session.Noticed

/-!
When a session's relay has a sniffer: the client has just been told of a success, its request was
for the port of mail, and logins were looked for at that moment. Until then, and without one, no
login is ever reported.
-/

namespace SocksProxy

open Net (SocketAddress)
open Pop3 (Sniffer)
open Relay.Scene (Turn overheard saidBy)
open Wire (Request)

theorem Monitor.discreet_reports : Discreet reports :=
  { note := fun entry other m => m.reports_note entry other
    switch := fun _ _ => rfl }

namespace Live

def reports (s : Live) : Reports := s.services.monitor.reports

/-- Nobody listens to what is relayed, if anything is. -/
def Unobserved (s : Live) : Prop :=
  ∀ relay, s.session.phase = .relaying relay → relay.sniffer = none

/-- The client of a mail connection is told of a success while a sniffer is wanted, and a relay with
a new one begins. -/
structure Attends (request : Request) (s : Live) : Prop where
  telling : s.session.phase = .replying request .success
  mail : request.port = Pop3.port
  wanted : s.services.monitor.sniffing = true
  begins : ∃ relay, (s.handle (.writable .client)).session.phase = .relaying relay ∧
    relay.sniffer = some .new

variable {s : Live}

theorem unobserved_of_finished (finished : s.session.phase.isFinished = true) : s.Unobserved :=
  fun relay relaying => absurd relaying (not_relaying_of_finished finished relay)

theorem unobserved_relay {relay : Relay} (deaf : relay.sniffer = none) (move : Relay.Move)
    (s : Live) :
    (s.relay relay (Relay.Scene.move move)).Unobserved ∧
      (s.relay relay (Relay.Scene.move move)).reports = s.reports := by
  cases serves : s.session.server with
  | none =>
      rw [Live.relay, serves]
      exact ⟨unobserved_of_finished rfl, rfl⟩
  | some server =>
      obtain ⟨still, reports⟩ := Relay.Scene.watch_deaf (s := s.scene relay server) deaf move
      apply relay_cases (P := fun after => after.Unobserved ∧ after.reports = s.reports) serves
      · exact fun cause => ⟨unobserved_of_finished rfl, reports⟩
      · exact fun done => ⟨unobserved_of_finished rfl, reports⟩
      · refine ⟨fun again relaying => ?_, reports⟩
        cases relaying
        exact still

theorem replied_relaying {request : Request} {relay : Relay}
    (relaying : (s.replied request .success).session.phase = .relaying relay) :
    relay.sniffer = s.snifferFor request := by
  let noted := s.note (.access s.session.client.address s.session.user request.command
    request.destination .success)
  change (noted.relay (Relay.new (s.snifferFor request))
    (Relay.Scene.move .start)).session.phase = _ at relaying
  obtain ⟨server, -, same, -⟩ := relay_relaying relaying
  rw [← same]
  exact congrArg Relay.Watch.sniffer
    (noted.scene (Relay.new (s.snifferFor request)) server).watch_start

theorem reports_handle (unobserved : s.Unobserved) (event : Event) :
    (s.handle event).reports = s.reports := by
  rcases viewed_handle Monitor.discreet_reports event s with same | ⟨relay, move, relaying, steps⟩
  · exact same
  · rw [steps]
    exact (unobserved_relay (unobserved relay relaying) move s).2

theorem unobserved_handle (unobserved : s.Unobserved) (event : Event) :
    (s.handle event).Unobserved ∨ event = .writable .client ∧ ∃ request, s.Attends request := by
  by_cases relays : ∃ relay, (s.handle event).session.phase = .relaying relay
  · obtain ⟨relay, relaying⟩ := relays
    rcases (s.responds event).origin relaying with same | ⟨earlier, move, before, steps⟩ |
      ⟨rfl, -, request, telling, replies⟩
    · exact .inl (same.symm ▸ unobserved)
    · exact .inl (steps ▸ (unobserved_relay (unobserved earlier before) move s).1)
    · have sniffer : ∀ again, (s.handle (.writable .client)).session.phase = .relaying again →
          again.sniffer = s.snifferFor request := by
        intro again begins
        rw [replies] at begins
        exact replied_relaying (s := s.gave) begins
      by_cases wanted : request.port = Pop3.port ∧ s.services.monitor.sniffing = true
      · exact .inr ⟨rfl, request, telling, wanted.1, wanted.2, relay, relaying,
          (sniffer relay relaying).trans (if_pos wanted)⟩
      · exact .inl fun again begins => (sniffer again begins).trans (if_neg wanted)
  · exact .inl fun relay relaying => absurd ⟨relay, relaying⟩ relays

theorem unobserved_world (unobserved : s.Unobserved) {move : Move}
    (world : ∀ event, move ≠ .event event) : (s.move move).Unobserved := by
  by_cases ongoing : move.isOngoing = true
  · have phase := (calm_move (s := s) ongoing world).phase
    exact fun relay relaying => unobserved relay (phase.symm.trans relaying)
  · cases move with
    | start =>
        change s.start.Unobserved
        unfold start
        dsimp only
        split <;> rintro relay ⟨⟩
    | close => exact unobserved
    | _ => exact absurd rfl ongoing

theorem reports_move (unobserved : s.Unobserved) (move : Move) :
    (s.move move).reports = s.reports := by
  rcases move.event_or_world with ⟨event, rfl⟩ | world
  · exact reports_handle unobserved event
  · exact viewed_world Monitor.discreet_reports world

/-- Either nothing is reported, or there was a moment from which on a relay had a sniffer. -/
theorem run_reports (unobserved : s.Unobserved) (moves : List Move) :
    (s.run moves).reports = s.reports ∨
      ∃ before after request, moves = before ++ .event (.writable .client) :: after ∧
        (s.run before).Attends request ∧ (s.run before).reports = s.reports := by
  induction moves generalizing s with
  | nil => exact .inl rfl
  | cons move rest ih =>
      have now := reports_move unobserved move
      have next : (s.move move).Unobserved ∨
          move = .event (.writable .client) ∧ ∃ request, s.Attends request := by
        rcases move.event_or_world with ⟨event, rfl⟩ | world
        · exact (unobserved_handle unobserved event).imp_right
            fun ⟨same, attends⟩ => ⟨congrArg Move.event same, attends⟩
        · exact .inl (unobserved_world unobserved world)
      rcases next with still | ⟨rfl, request, attends⟩
      · rcases ih still with same | ⟨before, after, request, split, attends, same⟩
        · exact .inl (same.trans now)
        · exact .inr ⟨move :: before, after, request, congrArg (move :: ·) split, attends,
            same.trans now⟩
      · exact .inr ⟨[], rest, request, rfl, attends, rfl⟩

end Live

open Live (accepted)

/-- A relay's sniffer hears what is read while it is wanted, each octet once and in the order of
reading, whatever a relay's steps come to, and nothing else; and a session reports nothing unless it
began to relay a mail connection while the sniffer was wanted. -/
theorem sniffer_hears_what_is_relayed :
    (∀ ends buffers monitor turns,
      let first := Relay.Scene.mk (Relay.new (some Sniffer.new)) ends buffers monitor
      let last := first.runBy turns
      let heard := first.transcript turns
      last = first.run (turns.map Turn.move) ∧
        (∀ side, (last.ends.get side).socket.taken =
          (first.ends.get side).socket.taken ++ saidBy side heard) ∧
        last.monitor.reports = first.monitor.reports.tell ends.client.address ends.server.address
          (Sniffer.new.follow (overheard heard))) ∧
      ∀ services id client address moves,
        let first := accepted services id client address
        (first.run moves).services.monitor.reports = services.monitor.reports ∨
          ∃ before after request, moves = before ++ .event (.writable .client) :: after ∧
            (first.run before).Attends request ∧
            (first.run before).services.monitor.reports = services.monitor.reports := by
  constructor
  · intro ends buffers monitor turns first last heard
    have begins : first.Follows first .new [] :=
      ⟨⟨rfl, first.monitor.reports.tell_nil.symm⟩, fun _ => rfl⟩
    exact ⟨first.runBy_eq turns, first.taken_run turns, (begins.run turns).watch.reports⟩
  · intro services id client address moves first
    exact Live.run_reports (s := first) (Live.unobserved_of_finished rfl) moves

/-- A login that comes in pieces is reported, and the same login is not once nobody wants to know
of it. -/
example :
    let login : Bytes := Pop3.userWord ++ [32, 97, 10] ++ Pop3.passWord ++ [32, 98, 10]
    let answers : Bytes := Pop3.okMark ++ [10] ++ Pop3.okMark ++ [10]
    let ends : Pair Endpoint :=
      ⟨.new .fresh (.ofIp .localhost 5000) 0, .new .fresh (.ofIp .localhost 110) 1⟩
    let turns : List Turn := [⟨.start, []⟩, ⟨.far .client (.send login), []⟩,
      ⟨.readable .client, [.brings 8, .interrupted, .brings 10]⟩,
      ⟨.far .server (.send (Pop3.okMark ++ [10] ++ answers)), []⟩,
      ⟨.readable .server, [.brings 3, .brings 9]⟩,
      ⟨.setSniffing false, []⟩, ⟨.far .client (.send login), []⟩, ⟨.readable .client, []⟩,
      ⟨.far .server (.send answers), []⟩, ⟨.readable .server, []⟩]
    let first := Relay.Scene.mk (Relay.new (some .new)) ends ⟨.new 64, .new 64⟩ (.new true)
    (first.runBy turns).monitor.reports =
      ⟨1, [.sighted ends.client.address ends.server.address ⟨"a", "b", true⟩]⟩ := by
  decide

end SocksProxy
