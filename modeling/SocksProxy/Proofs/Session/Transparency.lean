import SocksProxy.Proofs.Relay.HalfClose
import SocksProxy.Proofs.Session.Course

/-!
A session is transparent from end to end. Behind the greeting, the proof of who the client is and
the request, every byte that the client sends goes to the destination or waits to; behind the
answers to these, every byte of the destination goes to the client or waits to. A session that
never relays exchanges nothing with any destination. A relay closes its connection by halves, and
a session that relays is done only when both are closed; by then every byte of either end has been
passed on.
-/

namespace SocksProxy

open Live (accepted)
open Net (SocketAddress)
open Wire (Method Reply Request Selection)

namespace Live

theorem fetched_ledger (s : Live) : s.ledger.fetched = s.session.fetched := by
  simp only [Ledger.fetched, ledger, List.flatMap_map, Session.fetched]

theorem forwarded_ledger (s : Live) : s.ledger.forwarded = s.session.forwarded := by
  simp only [Ledger.forwarded, ledger, List.flatMap_map, Session.forwarded]

/-- Where the bytes of a session are that has relayed for a client. -/
structure Transparent (s : Live) (client : Socket) (acceptable : List Method) (opening : Opening)
    (request : Request) (reply : Reply) : Prop where
  chosen : Wire.Greeting.settled acceptable opening.codes.val = opening.method
  command : request.command = .connect
  status : reply.status = .success
  upstream : s.session.client.socket.taken =
    client.taken ++ Wire.Greeting.encode opening.codes.val ++ opening.proof ++ request.encode ++
      s.session.forwarded ++ s.inbound.held
  downstream : s.session.client.socket.delivered ++ s.outbound.held =
    client.delivered ++ Selection.encode ⟨Wire.version, opening.method⟩ ++ opening.welcome ++
      reply.encode ++ s.session.fetched

theorem transparent_of_exchanged {s : Live} {first : Ledger} {client : Socket}
    {acceptable : List Method} {opening : Opening} {request : Request} {reply : Reply}
    (taken : first.taken = client.taken) (delivered : first.delivered = client.delivered)
    (exchanged : s.ledger.Exchanged first acceptable opening request reply) :
    s.Transparent client acceptable opening request reply := by
  have upstream := exchanged.taken
  have downstream := exchanged.delivered
  rw [forwarded_ledger, taken, Opening.heard] at upstream
  rw [fetched_ledger, delivered, Opening.told_eq] at downstream
  refine ⟨exchanged.admitted.method, exchanged.command, exchanged.status, ?_, ?_⟩
  · simp only [List.append_assoc] at upstream ⊢
    exact upstream
  · simp only [List.append_assoc] at downstream ⊢
    exact downstream

/-- A session that has relayed has passed on, in order, all that followed the handshake, or still
holds it; a session that has not has exchanged nothing with any destination. -/
theorem stream_transparency (services : Services) (id : SessionId) (client : Socket)
    (address : SocketAddress) (moves : List Move)
    (ongoing : ∀ move ∈ moves, move.isOngoing = true) :
    let first := accepted services id client address
    let s := first.run (.start :: moves)
    (first.everRelays (.start :: moves) = true → ∃ opening request reply,
      s.Transparent client services.acceptableMethods opening request reply) ∧
      (first.everRelays (.start :: moves) = false →
        s.session.fetched = [] ∧ s.session.forwarded = []) := by
  intro first s
  have same : first.everRelays (.start :: moves) = first.start.everRelays moves := rfl
  rw [same]
  rcases run_begun moves ongoing (before_start services id client address) with
    ⟨relayed, ⟨opening, request, reply, exchanged⟩, _⟩ | ⟨never, before⟩
  · have transparent : s.Transparent client services.acceptableMethods opening request reply :=
      transparent_of_exchanged rfl rfl exchanged
    exact ⟨fun _ => ⟨opening, request, reply, transparent⟩,
      fun never => absurd relayed (Bool.eq_false_iff.mp never)⟩
  · have untouched := before.unserved.untouched
    have fetched : s.session.fetched = [] := by
      rw [← fetched_ledger]
      exact untouched.fetched
    have forwarded : s.session.forwarded = [] := by
      rw [← forwarded_ledger]
      exact untouched.forwarded
    exact ⟨fun relayed => absurd relayed (Bool.eq_false_iff.mp never),
      fun _ => ⟨fetched, forwarded⟩⟩

/-- Two bytes that a client sends together with its greeting and its request reach the destination,
and two bytes of the destination wait for the client. -/
theorem stream_transparency_when_sent_ahead :
    let services : Services := .reaching .empty
    let moves : List Move :=
      [.far .client (.send [5, 1, 0, 5, 1, 0, 1, 127, 0, 0, 1, 0, 80, 104, 105]),
        .event (.readable .client), .event (.writable .client), .settle,
        .event (.writable .server), .event (.writable .client), .far .server (.send [111, 107]),
        .event (.readable .server), .event (.writable .server)]
    let s := (accepted services ⟨0⟩ .fresh (.ofIp .localhost 5000)).run (.start :: moves)
    (∀ move ∈ moves, move.isOngoing = true) ∧ s.session.forwarded = [104, 105] ∧
      s.outbound.held = [111, 107] ∧
      ∃ opening request reply,
        s.Transparent .fresh services.acceptableMethods opening request reply := by
  intro services moves s
  have ongoing : ∀ move ∈ moves, move.isOngoing = true := by decide
  have relayed : (accepted services ⟨0⟩ .fresh (.ofIp .localhost 5000)).everRelays
      (.start :: moves) = true := by decide
  have facts :=
    stream_transparency services ⟨0⟩ .fresh (.ofIp .localhost 5000) moves ongoing
  exact ⟨ongoing, by decide, by decide, facts.1 relayed⟩

end Live

theorem Live.passed_on_of_done (services : Services) (id : SessionId) (client : Socket)
    (address : SocketAddress) (moves later : List Move)
    (ongoing : ∀ move ∈ moves ++ later, move.isOngoing = true)
    (relaying : ((accepted services id client address).run (.start :: moves)).relays = true)
    (done : (((accepted services id client address).run (.start :: moves)).run
      later).session.phase = .done) :
    let last := ((accepted services id client address).run (.start :: moves)).run later
    (∃ opening request reply,
      last.Transparent client services.acceptableMethods opening request reply) ∧
      last.inbound.held = [] ∧ last.outbound.held = [] := by
  intro last
  have begun := run_begun moves
    (fun move member => ongoing move (List.mem_append_left later member))
    (before_start services id client address)
  have copied : ((accepted services id client address).run (.start :: moves)).After
      (accepted services id client address).ledger services.acceptableMethods := by
    rcases begun with ⟨_, after⟩ | ⟨_, before⟩
    · exact after
    · have still := relays_of_before before
      exact absurd relaying (Bool.eq_false_iff.mp still)
  obtain ⟨⟨opening, request, reply, exchanged⟩, origin, follows⟩ :=
    after_run later (fun move member => ongoing move (List.mem_append_right moves member)) copied
  exact ⟨⟨opening, request, reply, transparent_of_exchanged rfl rfl exchanged⟩,
    follows.drained done .client, follows.drained done .server⟩

/-- Each way through a relay is closed source first, then sink: the source when its end is read,
the sink when nothing is left for it, once. So a session that is done after relaying has dropped
nothing. -/
theorem relay_closes_by_halves :
    (∀ sniffer ends buffers monitor moves,
      let first := Relay.Scene.mk (Relay.new sniffer) ends buffers monitor
      let s := first.run moves
      (∀ side, first.Closing s moves side) ∧
        (s.relay.isDone = true ↔
          ∀ side, first.Ended moves side ∧ (s.buffers.get side).held = [])) ∧
      ∀ services id client address moves later,
        (∀ move ∈ moves ++ later, move.isOngoing = true) →
        let copy := (accepted services id client address).run (.start :: moves)
        let last := copy.run later
        copy.relays = true → last.session.phase = .done →
          (∃ opening request reply,
            last.Transparent client services.acceptableMethods opening request reply) ∧
            last.inbound.held = [] ∧ last.outbound.held = [] := by
  constructor
  · intro sniffer ends buffers monitor moves first s
    exact ⟨Relay.Scene.run_closing sniffer ends buffers monitor moves,
      Relay.Scene.run_isDone sniffer ends buffers monitor moves⟩
  · intro services id client address moves later ongoing copy last relaying done
    exact Live.passed_on_of_done services id client address moves later ongoing relaying done

/-- A client that says all it has to say at once, and ends its stream, still gets its answer. -/
theorem relay_closes_by_halves_when_answered :
    let services : Services := .reaching .empty
    let moves : List Move :=
      [.far .client (.send [5, 1, 0, 5, 1, 0, 1, 127, 0, 0, 1, 0, 80, 104, 105]),
        .far .client .finish, .event (.readable .client), .event (.writable .client), .settle,
        .event (.writable .server), .event (.writable .client)]
    let later : List Move :=
      [.event (.readable .client), .event (.writable .server), .far .server (.send [111, 107]),
        .far .server .finish, .event (.readable .server), .event (.writable .client)]
    let copy := (accepted services ⟨0⟩ .fresh (.ofIp .localhost 5000)).run (.start :: moves)
    let last := copy.run later
    (∀ move ∈ moves ++ later, move.isOngoing = true) ∧ copy.relays = true ∧
      last.session.phase = .done ∧ last.session.forwarded = [104, 105] ∧
      last.session.fetched = [111, 107] ∧
      ∃ opening request reply,
        last.Transparent .fresh services.acceptableMethods opening request reply := by
  intro services moves later copy last
  have ongoing : ∀ move ∈ moves ++ later, move.isOngoing = true := by decide
  have relaying : copy.relays = true := by decide
  refine ⟨ongoing, relaying, by decide, by decide, by decide, ?_⟩
  exact (relay_closes_by_halves.2 services ⟨0⟩ .fresh (.ofIp .localhost 5000) moves later ongoing
    relaying (by decide)).1

end SocksProxy
