import SocksProxy.Proofs.Relay.Accounting
import SocksProxy.Proofs.Session.Noticed
import SocksProxy.Proofs.Session.Transparency

/-!
What a session adds to the counters of the process. Nothing that is read or written before a session
relays is counted, so what is counted is what its relay has written: behind the handshake to the
client, and all that a destination was ever given.
-/

namespace SocksProxy

open Net (SocketAddress)
open Wire (Method Request Status)

def Services.connections (s : Services) : UInt64 × UInt64 :=
  (s.monitor.stats.currentConnections, s.monitor.stats.historicConnections)

namespace Live

def stats (s : Live) : Stats := s.services.monitor.stats

variable {first s x after : Live}

theorem discreet_stats : Monitor.Discreet Monitor.stats :=
  { note := fun _ _ _ => rfl
    switch := fun _ _ => rfl }

theorem stats_handle (event : Event) (s : Live) : (s.handle event).stats = s.stats ∨
    ∃ relay move, s.session.phase = .relaying relay ∧
      s.handle event = s.relay relay (Relay.Scene.move move) :=
  viewed_handle discreet_stats event s

theorem stats_world {move : Move} (world : ∀ event, move ≠ .event event) :
    (s.move move).stats = s.stats :=
  viewed_world discreet_stats world

def connections (s : Live) : UInt64 × UInt64 := s.services.connections

theorem connections_of_stats (same : after.stats = s.stats) :
    after.connections = s.connections :=
  congrArg (fun stats => (stats.currentConnections, stats.historicConnections)) same

theorem connections_relay (relay : Relay) (move : Relay.Move) (s : Live) :
    (s.relay relay (Relay.Scene.move move)).connections = s.connections := by
  cases serves : s.session.server with
  | none => rw [Live.relay, serves]; rfl
  | some server =>
      have still : (s.withScene ((s.scene relay server).move move).1).connections =
          s.connections := (s.scene relay server).move_connections move
      exact relay_cases (P := fun after => after.connections = s.connections) serves
        (fun _ => still) (fun _ => still) still

theorem connections_move (move : Move) (s : Live) :
    (s.move move).connections = s.connections := by
  rcases move.event_or_world with ⟨event, rfl⟩ | world
  · rcases stats_handle event s with same | ⟨relay, step, -, moved⟩
    · exact connections_of_stats same
    · change (s.handle event).connections = s.connections
      rw [moved]
      exact connections_relay relay step s
  · exact connections_of_stats (stats_world world)

/-- A step has written this to the client and this to a destination, has counted it, and has said
nothing. -/
structure Passes (s after : Live) (down up : Bytes) : Prop where
  said : after.session.record.said = s.session.record.said
  client : after.session.client.socket.delivered = s.session.client.socket.delivered ++ down
  server : after.session.forwarded = s.session.forwarded ++ up
  counted : after.stats.bytesTransferred =
    s.stats.bytesTransferred + UInt64.ofNat (down.length + up.length)

theorem passes_nothing {after : Live} (said : after.session.record.said = s.session.record.said)
    (client : after.session.client.socket.delivered = s.session.client.socket.delivered)
    (server : after.session.forwarded = s.session.forwarded) (stats : after.stats = s.stats) :
    s.Passes after [] [] :=
  ⟨said, client.trans (List.append_nil _).symm, server.trans (List.append_nil _).symm,
    (congrArg Stats.bytesTransferred stats).trans (UInt64.add_zero _).symm⟩

theorem passes_withScene (relay : Relay) {server : Endpoint}
    (serves : s.session.server = some server) (move : Relay.Move) :
    s.Passes (s.withScene ((s.scene relay server).move move).1)
      ((s.scene relay server).wrote .client move) ((s.scene relay server).wrote .server move) := by
  have client := (s.scene relay server).move_wrote .client move
  have upward := (s.scene relay server).move_wrote .server move
  refine ⟨rfl, client, ?_, (s.scene relay server).move_transferred move⟩
  have serves' : (s.withScene ((s.scene relay server).move move).1).session.server =
      some ((s.scene relay server).move move).1.ends.server := rfl
  rw [← forwarded_ledger, ← forwarded_ledger, ledger_forwarded serves', ledger_forwarded serves,
    List.append_assoc]
  exact congrArg (s.session.record.abandoned.flatMap Socket.delivered ++ ·) upward

theorem Passes.enter {down up : Bytes} (passes : s.Passes after down up) (phase : Phase) :
    s.Passes (after.enter phase) down up :=
  ⟨passes.said, passes.client, passes.server, passes.counted⟩

theorem passes_relay (relay : Relay) (move : Relay.Move) (s : Live) :
    ∃ down up, s.Passes (s.relay relay (Relay.Scene.move move)) down up := by
  cases serves : s.session.server with
  | none =>
      rw [Live.relay, serves]
      exact ⟨[], [], passes_nothing rfl rfl rfl rfl⟩
  | some server =>
      have passes := passes_withScene relay serves move
      exact relay_cases (P := fun after => ∃ down up, s.Passes after down up) serves
        (fun _ => ⟨_, _, passes.enter _⟩) (fun _ => ⟨_, _, passes.enter _⟩)
        ⟨_, _, passes.enter _⟩

theorem passes_relay_start (relay : Relay) (s : Live) :
    s.Passes (s.relay relay Relay.Scene.start) [] [] ∧
      (s.relay relay Relay.Scene.start).outbound.held = s.outbound.held := by
  cases serves : s.session.server with
  | none =>
      rw [Live.relay, serves]
      exact ⟨passes_nothing rfl rfl rfl rfl, rfl⟩
  | some server =>
      have passes : s.Passes (s.withScene ((s.scene relay server).move .start).1) [] [] :=
        passes_withScene relay serves .start
      have held : (s.withScene ((s.scene relay server).move .start).1).outbound.held =
          s.outbound.held := by
        have started := Relay.Scene.direction_move (s.scene relay server) .server .start
        refine (congrArg (fun d => d.buffer.held) started).trans ?_
        change ((s.scene relay server).direction .server).start.buffer.held = _
        unfold Relay.Direction.start
        split <;> rfl
      change s.Passes (s.relay relay (Relay.Scene.move .start)) [] [] ∧
        (s.relay relay (Relay.Scene.move .start)).outbound.held = s.outbound.held
      exact relay_cases (P := fun after => s.Passes after [] [] ∧
        after.outbound.held = s.outbound.held) serves (fun _ => ⟨passes.enter _, held⟩)
        (fun _ => ⟨passes.enter _, held⟩) ⟨passes.enter _, held⟩

theorem passes_replied (request : Request) (status : Status) (s : Live) :
    s.Passes (s.replied request status) [] [] ∧
      (s.replied request status).outbound.held = s.outbound.held := by
  unfold replied
  dsimp only
  split
  · let noted := s.note (.access s.session.client.address s.session.user request.command
      request.destination status)
    obtain ⟨passes, held⟩ := passes_relay_start (Relay.new (s.snifferFor request)) noted
    exact ⟨⟨passes.said, passes.client, passes.server, passes.counted⟩, held⟩
  · exact ⟨passes_nothing rfl rfl rfl rfl, rfl⟩

end Live

namespace Speech

variable {t first : Speech}

/-- Nothing has been written since the books began but the beginning of what was said; the rest of
it waits. -/
def Whole (t first : Speech) : Prop :=
  ∃ told, t.delivered = first.delivered ++ told ∧ t.said.flatMap Message.encode = told ++ t.held

theorem Whole.say (whole : t.Whole first) (message : Message) : (t.say message).Whole first := by
  obtain ⟨told, delivered, rest⟩ := whole
  refine ⟨told, delivered, ?_⟩
  simp only [Speech.say, List.flatMap_append, List.flatMap_singleton, rest, List.append_assoc]

theorem Whole.send (whole : t.Whole first) (count : Nat) : (t.send count).Whole first := by
  obtain ⟨told, delivered, rest⟩ := whole
  refine ⟨told ++ t.held.take count, ?_, ?_⟩
  · simp only [Speech.send, delivered, List.append_assoc]
  · simp only [Speech.send, rest, List.append_assoc, List.take_append_drop]

end Speech

namespace Live

variable {first s x after : Live} {acceptable : List Method}

theorem Onward.whole {low : Nat} {books : Speech} (onward : x.Onward low after)
    (whole : x.speech.Whole books) : after.speech.Whole books := by
  cases onward with
  | listens same later listens => exact same ▸ whole
  | ends same finished => exact same ▸ whole
  | speaks said later tells => exact said ▸ whole.say _
  | breaks said later finished => exact said ▸ whole.say _

theorem whole_replied (request : Request) (status : Status) {books : Speech}
    (whole : s.speech.Whole books) : (s.replied request status).speech.Whole books := by
  obtain ⟨passes, held⟩ := passes_replied request status s
  have delivered : (s.replied request status).speech.delivered = s.speech.delivered :=
    passes.client.trans (List.append_nil _)
  have same : (s.replied request status).speech.held = s.speech.held := held
  have said : (s.replied request status).speech.said = s.speech.said := passes.said
  rw [Speech.Whole, delivered, same, said]
  exact whole

/-- Nothing has been counted yet, and the client has been written nothing but what was said. -/
structure Unmetered (first s : Live) : Prop where
  whole : s.speech.Whole first.speech
  counted : s.stats.bytesTransferred = first.stats.bytesTransferred

theorem unmetered_handle (unmetered : Unmetered first s) (idle : s.relays = false)
    (event : Event) : Unmetered first (s.handle event) := by
  have elsewhere : ∀ {relay : Relay}, s.session.phase ≠ .relaying relay := by
    intro relay relaying
    rw [relays, relaying] at idle
    cases idle
  constructor
  · have responds := s.responds event
    generalize s.handle event = after at responds ⊢
    cases responds with
    | stays => exact unmetered.whole
    | listened listens same onward => exact onward.whole (same ▸ unmetered.whole)
    | told writes other sent all onward => exact onward.whole (sent ▸ unmetered.whole.send _)
    | partly writes sent left phase => exact sent ▸ unmetered.whole.send _
    | replied telling drained =>
        exact whole_replied _ _ (s.speech_gave ▸ unmetered.whole.send s.outgoing.count)
    | relayed relaying move => exact absurd relaying elsewhere
  · rcases stats_handle event s with same | ⟨relay, move, relaying, -⟩
    · rw [same]
      exact unmetered.counted
    · exact absurd relaying elsewhere

/-- The client has been told everything, and what was written to it behind that is counted, together
with all that a destination was given. -/
def Metered (first s : Live) : Prop :=
  ∃ relayed,
    s.session.client.socket.delivered = first.session.client.socket.delivered ++
      s.session.record.said.flatMap Message.encode ++ relayed ∧
    s.stats.bytesTransferred =
      first.stats.bytesTransferred + UInt64.ofNat (relayed.length + s.session.forwarded.length)

theorem Metered.passes {down up : Bytes} (metered : Metered first s)
    (passes : s.Passes after down up) : Metered first after := by
  obtain ⟨relayed, delivered, counted⟩ := metered
  refine ⟨relayed ++ down, ?_, ?_⟩
  · rw [passes.client, delivered, passes.said, List.append_assoc]
  · rw [passes.counted, counted, passes.server, UInt64.add_assoc, ← UInt64.ofNat_add]
    simp only [List.length_append]
    congr 2
    omega

/-- A session begins to relay when its client has been told everything, and has been given nothing
of a destination. -/
theorem metered_begins (here : s.Before first.ledger acceptable) (unmetered : Unmetered first s)
    (event : Event) (begins : (s.handle event).relays = true) :
    Metered first (s.handle event) := by
  have idle := relays_of_before here
  have later := unmetered_handle unmetered idle event
  obtain ⟨relay, relaying⟩ : ∃ relay, (s.handle event).session.phase = .relaying relay := by
    unfold relays at begins
    split at begins
    · rename_i relay relaying
      exact ⟨relay, relaying⟩
    · cases begins
  have ongoing : (Move.event event).isOngoing = true := rfl
  have forward := forward_move ongoing s
  rcases forward.relays relay relaying with earlier | ⟨same, drained, request, telling⟩
  · rw [idle] at earlier
    cases earlier
  · cases same
    have replies : s.handle (.writable .client) = s.gave.replied request .success := by
      rw [handle_replying telling, flush, drained]
    obtain ⟨passes, held⟩ := passes_replied request .success s.gave
    have told : (s.handle (.writable .client)).speech.held = [] := by
      rw [replies]
      exact held.trans (outbound_of_drained drained)
    have nothing : (s.handle (.writable .client)).session.forwarded = [] := by
      rw [replies, passes.server, List.append_nil]
      exact (forwarded_ledger s).symm.trans here.unserved.untouched.forwarded
    obtain ⟨written, delivered, rest⟩ := later.whole
    rw [told, List.append_nil] at rest
    refine ⟨[], ?_, ?_⟩
    · rw [List.append_nil]
      exact delivered.trans (congrArg (_ ++ ·) rest.symm)
    · rw [nothing]
      exact later.counted.trans (UInt64.add_zero _).symm

theorem metered_handle (relayed : s.After first.ledger acceptable) (metered : Metered first s)
    (event : Event) : Metered first (s.handle event) := by
  obtain ⟨-, origin, follows⟩ := relayed
  apply handle_cases (P := Metered first) follows event metered
  intro relay server serves leads consistent move
  obtain ⟨down, up, passes⟩ := passes_relay relay move s
  exact metered.passes passes

theorem Calm.passes (calm : s.Calm after) (same : after.stats = s.stats) :
    s.Passes after [] [] := by
  rcases calm.ledger with still | ⟨entry, -, more⟩
  · refine passes_nothing (congrArg Ledger.said still) (congrArg Ledger.delivered still) ?_ same
    rw [← forwarded_ledger, ← forwarded_ledger, still]
  · refine passes_nothing (congrArg Ledger.said more) (congrArg Ledger.delivered more) ?_ same
    rw [← forwarded_ledger, ← forwarded_ledger, more]
    rfl

theorem unmetered_move (here : s.Before first.ledger acceptable) (unmetered : Unmetered first s)
    {move : Move} (ongoing : move.isOngoing = true) : Unmetered first (s.move move) := by
  rcases move.event_or_world with ⟨event, rfl⟩ | world
  · exact unmetered_handle unmetered (relays_of_before here) event
  · have calm : s.Calm (s.move move) := calm_move ongoing world
    exact ⟨calm.speech ▸ unmetered.whole,
      (congrArg Stats.bytesTransferred (stats_world world)).trans unmetered.counted⟩

theorem metered_move (relayed : s.After first.ledger acceptable) (metered : Metered first s)
    {move : Move} (ongoing : move.isOngoing = true) : Metered first (s.move move) := by
  rcases move.event_or_world with ⟨event, rfl⟩ | world
  · exact metered_handle relayed metered event
  · exact metered.passes ((calm_move ongoing world).passes (stats_world world))

theorem metered_run (moves : List Move) (ongoing : ∀ move ∈ moves, move.isOngoing = true)
    (relayed : s.After first.ledger acceptable) (metered : Metered first s) :
    Metered first (s.run moves) :=
  (run_ongoing (P := fun s => s.After first.ledger acceptable ∧ Metered first s)
    (fun _ _ more here => ⟨after_move here.1 more, metered_move here.1 here.2 more⟩)
    moves ongoing ⟨relayed, metered⟩).2

/-- A whole run: nothing is counted until the session relays. -/
theorem run_metered (moves : List Move) (ongoing : ∀ move ∈ moves, move.isOngoing = true)
    (here : s.Before first.ledger acceptable) (unmetered : Unmetered first s) :
    s.everRelays moves = true ∧ Metered first (s.run moves) ∨
      s.everRelays moves = false ∧ Unmetered first (s.run moves) := by
  induction moves generalizing s with
  | nil => exact Or.inr ⟨relays_of_before here, unmetered⟩
  | cons move rest ih =>
      have later : ∀ move ∈ rest, move.isOngoing = true := fun next member =>
        ongoing next (List.mem_cons_of_mem move member)
      have now := ongoing move List.mem_cons_self
      rw [everRelays, relays_of_before here, Bool.false_or]
      rcases begun_move here now with still | ⟨relaying, relayed⟩
      · exact ih later still (unmetered_move here unmetered now)
      · -- Only an event makes a session relay, and what follows is counted.
        have metered : Metered first (s.move move) := by
          rcases move.event_or_world with ⟨event, rfl⟩ | world
          · exact metered_begins here unmetered event relaying
          · have phase := (calm_move (s := s) now world).phase
            have idle := relays_of_before here
            rw [relays, ← phase] at idle
            exact absurd relaying (Bool.eq_false_iff.mp idle)
        exact Or.inl ⟨everRelays_of_relays rest relaying,
          metered_run rest later relayed metered⟩

theorem unmetered_start (services : Services) (id : SessionId) (client : Socket)
    (address : SocketAddress) :
    Unmetered (accepted services id client address)
      (accepted services id client address).start := by
  have fresh : (accepted services id client address).speech.Whole
      (accepted services id client address).speech := ⟨[], (List.append_nil _).symm, rfl⟩
  refine ⟨?_, congrArg Stats.bytesTransferred (viewed_start discreet_stats _)⟩
  unfold start
  dsimp only
  split <;> rename_i asked
  all_goals
    have same := speech_asked (s := (accepted services id client address).forgetLookup) asked
    exact (show speech _ = _ from same) ▸ fresh

/-- How the counter stands after a session. What was written to its client is the beginning of what
the session said, and behind the whole of it what came from a destination; only the latter is
counted, and what was written to a destination. -/
structure Counts (services : Services) (client : Socket) (s : Live) (told relayed : Bytes) :
    Prop where
  said : told <+: s.session.record.said.flatMap Message.encode
  whole : relayed ≠ [] → told = s.session.record.said.flatMap Message.encode
  delivered : s.session.client.socket.delivered = client.delivered ++ told ++ relayed
  counted : s.stats.bytesTransferred = services.monitor.stats.bytesTransferred +
    UInt64.ofNat (relayed.length + s.session.forwarded.length)

theorem run_counts (services : Services) (id : SessionId) (client : Socket)
    (address : SocketAddress) (moves : List Move)
    (ongoing : ∀ move ∈ moves, move.isOngoing = true) :
    let first := accepted services id client address
    let s := first.run (.start :: moves)
    ∃ told relayed, s.Counts services client told relayed ∧
      (first.everRelays (.start :: moves) = false → relayed = [] ∧ s.session.forwarded = []) := by
  intro first s
  have same : first.everRelays (.start :: moves) = first.start.everRelays moves := rfl
  rcases run_metered moves ongoing (before_start services id client address)
      (unmetered_start services id client address) with
    ⟨relays, relayed, delivered, counted⟩ | ⟨never, ⟨told, delivered, rest⟩, counted⟩
  · refine ⟨_, relayed, ⟨List.prefix_rfl, fun _ => rfl, delivered, counted⟩, ?_⟩
    intro never
    rw [same, relays] at never
    cases never
  · have untouched := ((stream_transparency services id client address moves ongoing).2
      (same.trans never)).2
    refine ⟨told, [], ⟨⟨_, rest.symm⟩, fun some => absurd rfl some, ?_, ?_⟩,
      fun _ => ⟨rfl, untouched⟩⟩
    · rw [List.append_nil]
      exact delivered
    · rw [untouched]
      exact counted.trans (UInt64.add_zero _).symm

end Live

open Live (accepted)

/-- A relay passes on every byte in order and counts what it writes, however many of its steps fail
on the way; a session counts what its relay writes, and nothing of its handshake. -/
theorem relay_conserves_and_counts :
    (∀ sniffer ends buffers monitor moves,
      let first := Relay.Scene.mk (Relay.new sniffer) ends buffers monitor
      ∃ read written, first.Accounts (first.run moves) read written) ∧
      ∀ services id client address moves, (∀ move ∈ moves, move.isOngoing = true) →
        let first := accepted services id client address
        let s := first.run (.start :: moves)
        ∃ told relayed, s.Counts services client told relayed ∧
          (first.everRelays (.start :: moves) = false →
            relayed = [] ∧ s.session.forwarded = []) := by
  constructor
  · intro sniffer ends buffers monitor moves first
    exact first.run_accounts moves
      (Relay.Scene.new_consistent sniffer ends buffers monitor)
  · intro services id client address moves ongoing
    exact Live.run_counts services id client address moves ongoing

/-- A client leaves while it is being answered: the one byte that it still takes counts, together
with the two that the destination was given, and the twelve of the handshake do not. -/
theorem relay_conserves_and_counts_when_client_leaves :
    let services : Services := .reaching .empty
    let moves : List Move :=
      [.far .client (.send [5, 1, 0, 5, 1, 0, 1, 127, 0, 0, 1, 0, 80, 104, 105]),
        .event (.readable .client), .event (.writable .client), .settle,
        .event (.writable .server), .event (.writable .client), .event (.writable .server),
        .far .server (.send [111, 107]), .event (.readable .server), .far .client (.leave 1),
        .event (.writable .client)]
    let s := (accepted services ⟨0⟩ .fresh (.ofIp .localhost 5000)).run (.start :: moves)
    (∀ move ∈ moves, move.isOngoing = true) ∧ s.session.phase = .failed (.io .brokenPipe) ∧
      s.session.client.socket.delivered = [5, 0, 5, 0, 0, 1, 127, 0, 0, 1, 0, 80, 111] ∧
      s.session.forwarded = [104, 105] ∧ s.stats.bytesTransferred = 3 ∧
      ∃ told relayed, s.Counts services .fresh told relayed := by
  intro services moves s
  have ongoing : ∀ move ∈ moves, move.isOngoing = true := by decide
  obtain ⟨told, relayed, counts, -⟩ :=
    relay_conserves_and_counts.2 services ⟨0⟩ .fresh (.ofIp .localhost 5000) moves ongoing
  exact ⟨ongoing, by decide, by decide, by decide, by decide, told, relayed, counts⟩

end SocksProxy
