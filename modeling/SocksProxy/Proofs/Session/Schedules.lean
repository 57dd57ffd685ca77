import SocksProxy.Proofs.Session.Advance

/-!
Schedules. A client's octets come in pieces of any size, and events, completions and moves of the
destination come between them in any order. What a session makes of the octets does not depend on
this, nor on the size of its buffers.
-/

namespace SocksProxy

open Net (SocketAddress)
open Wire (Refusal Request Status)

/-- What may happen at any time, as far as the client's stream goes. -/
def Move.isBeside : Move → Bool
  | .event _ | .settle | .finishLookup | .tellLookup | .far .server _ => true
  | _ => false

theorem Move.isOngoing_of_isBeside {move : Move} (beside : move.isBeside = true) :
    move.isOngoing = true := by
  cases move <;> first | rfl | cases beside

/-- A schedule has the client send these octets, in pieces, up to the last ones, which are left. It
ends its stream only behind all of them, if at all. -/
inductive Schedule (ends : Bool) (left : Bytes) : Bytes → List Move → Prop where
  | done : Schedule ends left left []
  | sends {rest : Bytes} {moves : List Move} (piece : Bytes)
      (later : Schedule ends left rest moves) :
      Schedule ends left (piece ++ rest) (.far .client (.send piece) :: moves)
  | finishes {moves : List Move} (ended : ends = true) (later : Schedule ends left [] moves) :
      Schedule ends left [] (.far .client .finish :: moves)
  | happens {rest : Bytes} {move : Move} {moves : List Move} (beside : move.isBeside = true)
      (later : Schedule ends left rest moves) : Schedule ends left rest (move :: moves)

namespace Live

variable {around : Setting} {unsent : Bytes} {d next : Dialogue} {s after : Live}

theorem Mirrors.aside {rest : Bytes} (mirrors : s.Mirrors around unsent d) (aside : s.Aside after)
    (alongside : s.Alongside after) (user : after.session.user = s.session.user)
    (allows : around.Allows rest after.services.users after.session.client.address
      after.session.client.socket)
    (ahead : after.session.client.socket.inbox ++ rest = s.session.client.socket.inbox ++ unsent)
    (delivered : after.session.client.socket.delivered = s.session.client.socket.delivered) :
    after.Mirrors around rest d := by
  obtain ⟨agrees, stage, asked, staged⟩ := mirrors
  have inbound : after.inbound = s.inbound := congrArg Pair.client aside.buffers
  have outbound : after.outbound = s.outbound := congrArg Pair.server aside.buffers
  have record := alongside.record
  refine ⟨⟨aside.framed.conditions.trans agrees.conditions, allows, ?_, ?_,
    agrees.user.trans user.symm, agrees.lookups.trans (congrArg Record.lookups record).symm,
    agrees.attempts.trans (congrArg Record.attempts record).symm⟩, ?_, ?_, ?_⟩
  · rw [inbound, ahead]
    exact agrees.ahead
  · rw [outbound, delivered]
    exact agrees.told
  · rw [alongside.phase, ← stage]
    exact Phase.stage_congr alongside.attempt
  · intro request resolving
    rw [alongside.phase] at resolving
    exact alongside.awaits _ (asked request resolving)
  · rw [alongside.phase, outbound]
    exact staged

/-- All has been sent, and nothing that could happen changes the session. -/
structure Rests (ends : Bool) (left : Bytes) (s : Live) : Prop where
  sent : left = []
  ended : ends = true → s.session.client.socket.tail = .finished
  handled : ∀ event, (s.handle event).session = s.session
  settled : s.settle.session = s.session
  lookedUp : s.finishLookup.session = s.session

/-- A session has gone through a schedule until it relays, is finished or rests. -/
structure Plays (ends : Bool) (octets left : Bytes) (moves : List Move) (s : Live) : Prop where
  schedule : Schedule ends left octets moves
  goes : ∀ count < moves.length, (s.run (moves.take count)).relays = false
  ended : (s.run moves).relays = true ∨ (s.run moves).session.isFinished = true ∨
    (s.run moves).Rests ends left

theorem beside_keeps {move : Move} (beside : move.isBeside = true)
    (world : ∀ event, move ≠ .event event) :
    (s.move move).session.client = s.session.client ∧
      (s.move move).session.user = s.session.user ∧
      (s.move move).services.users = s.services.users := by
  cases move with
  | event event => exact absurd rfl (world event)
  | settle => exact ⟨rfl, rfl, rfl⟩
  | finishLookup => exact ⟨rfl, rfl, rfl⟩
  | tellLookup =>
      have users : (s.services.notify s.session.id).users = s.services.users := by
        unfold Services.notify
        split <;> rfl
      unfold move tellLookup
      dsimp only
      split
      · exact ⟨rfl, rfl, rfl⟩
      · refine ⟨rfl, rfl, ?_⟩
        dsimp only
        split
        · exact users
        · rfl
  | far side move =>
      cases side with
      | client => cases beside
      | server =>
          unfold Live.move farMove
          dsimp only
          split
          · rename_i impossible
            cases impossible
          · exact ⟨rfl, rfl, rfl⟩
          · exact ⟨rfl, rfl, rfl⟩
  | _ => cases beside

theorem mirrors_beside {move : Move} (mirrors : s.Mirrors around unsent d)
    (beside : move.isBeside = true) (world : ∀ event, move ≠ .event event) :
    (s.move move).Mirrors around unsent d := by
  have ongoing := Move.isOngoing_of_isBeside beside
  obtain ⟨client, user, users⟩ := s.beside_keeps beside world
  refine mirrors.aside (aside_move ongoing world) (alongside_move ongoing world) user ?_ ?_ ?_
  · rw [client, users]
    exact mirrors.agrees.allows
  · rw [client]
  · rw [client]

theorem mirrors_far {rest : Bytes} (mirrors : s.Mirrors around unsent d) (move : FarMove)
    (allows : around.Allows rest s.services.users s.session.client.address
      (s.session.client.socket.farMove move))
    (ahead : (s.session.client.socket.farMove move).inbox ++ rest =
      s.session.client.socket.inbox ++ unsent) :
    (s.move (.far .client move)).Mirrors around rest d := by
  have world : ∀ event, Move.far .client move ≠ .event event := by simp
  obtain ⟨inbox, tail, space, broken, gone, own⟩ :=
    Socket.farMove_socket move s.session.client.socket
  have delivered : (s.session.client.socket.farMove move).delivered =
      s.session.client.socket.delivered := by rw [own]
  exact mirrors.aside (aside_move rfl world) (alongside_move rfl world) rfl allows ahead delivered

theorem mirrors_send {piece rest : Bytes} (mirrors : s.Mirrors around (piece ++ rest) d) :
    (s.move (.far .client (.send piece))).Mirrors around rest d := by
  obtain ⟨users, address, space, tail⟩ := mirrors.agrees.allows
  rcases tail with more | ⟨finished, ends, nothing⟩
  · have sent : s.session.client.socket.farMove (.send piece) = { s.session.client.socket with
        inbox := s.session.client.socket.inbox ++ piece } := if_pos more
    apply mirrors_far mirrors <;> rw [sent]
    · exact ⟨users, address, space, Or.inl more⟩
    · exact List.append_assoc _ _ _
  · obtain ⟨rfl, rfl⟩ := List.append_eq_nil_iff.mp nothing
    have same : s.session.client.socket.farMove (.send []) = s.session.client.socket :=
      if_neg (by simp [finished])
    apply mirrors_far mirrors <;> rw [same]
    · exact ⟨users, address, space, Or.inr ⟨finished, ends, rfl⟩⟩
    · rfl

theorem mirrors_finish (mirrors : s.Mirrors around [] d) (ended : around.ends = true) :
    (s.move (.far .client .finish)).Mirrors around [] d := by
  obtain ⟨users, address, space, tail⟩ := mirrors.agrees.allows
  have own : s.session.client.socket.farMove .finish =
      { s.session.client.socket with tail := .finished } := by
    rcases tail with more | ⟨finished, -⟩
    · exact if_pos more
    · have same : s.session.client.socket.farMove .finish = s.session.client.socket :=
        if_neg (by simp [finished])
      rw [same, ← finished]
  apply mirrors_far mirrors <;> rw [own]
  exact ⟨users, address, space, Or.inr ⟨rfl, ended, rfl⟩⟩

/-- A session has carried a dialogue on, and is able to go on unless it is finished. -/
structure Underway (around : Setting) (unsent : Bytes) (d : Dialogue) (s : Live) : Prop where
  continues : s.Continues around unsent d
  usable : s.session.isFinished = true ∨ s.Ready around.services ∧ 0 < s.inbound.capacity

theorem underway_event (underway : s.Underway around unsent d) (unrelayed : s.relays = false)
    (event : Event) : (s.handle event).Underway around unsent d := by
  obtain ⟨⟨middle, reaches, mirrors⟩, usable⟩ := underway
  rcases usable with finished | ⟨ready, room⟩
  · rw [handle_finished finished]
    exact ⟨⟨middle, reaches, mirrors⟩, Or.inl finished⟩
  · have capacity := (proceeds_handle ready.provided ready.size event).capacity .client
    have still : (s.handle event).Continues around unsent middle := by
      rcases advances_handle ready mirrors unrelayed event with onward | ⟨still, -⟩
      · exact onward.continues
      · exact still.continues
    exact ⟨still.imp fun last far => ⟨reaches.trans far.1, far.2⟩,
      Or.inr ⟨ready_move (s := s) ready (by rfl : (Move.event event).isOngoing = true),
        capacity ▸ room⟩⟩

theorem underway_world {rest : Bytes} {move : Move} (underway : s.Underway around unsent d)
    (ongoing : move.isOngoing = true) (world : ∀ event, move ≠ .event event)
    (keeps : ∀ middle, s.Mirrors around unsent middle → (s.move move).Mirrors around rest middle) :
    (s.move move).Underway around rest d := by
  obtain ⟨⟨middle, reaches, mirrors⟩, usable⟩ := underway
  have aside : s.Aside (s.move move) := aside_move ongoing world
  refine ⟨⟨middle, reaches, keeps middle mirrors⟩, ?_⟩
  rcases usable with finished | ⟨ready, room⟩
  · left
    rw [Session.isFinished, aside.phase]
    exact finished
  · have capacity := aside.framed.capacity .client
    exact Or.inr ⟨ready_move ready ongoing, capacity ▸ room⟩

/-- Along a schedule a session carries its dialogue on until it relays. -/
theorem underway_run {left : Bytes} {moves : List Move}
    (schedule : Schedule around.ends left unsent moves) (underway : s.Underway around unsent d)
    (goes : ∀ count < moves.length, (s.run (moves.take count)).relays = false) :
    (s.run moves).Underway around left d := by
  induction schedule generalizing s with
  | done => exact underway
  | @sends rest moves piece later ih =>
      have next : (s.move (.far .client (.send piece))).Underway around rest d :=
        underway_world underway rfl (by simp) fun _ => mirrors_send
      exact ih next fun count within => goes (count + 1) (Nat.succ_lt_succ within)
  | finishes ended later ih =>
      have next : (s.move (.far .client .finish)).Underway around [] d :=
        underway_world underway rfl (by simp) fun _ mirrors => mirrors_finish mirrors ended
      exact ih next fun count within => goes (count + 1) (Nat.succ_lt_succ within)
  | @happens rest move moves beside later ih =>
      have next : (s.move move).Underway around rest d := by
        rcases move.event_or_world with ⟨event, rfl⟩ | world
        · exact underway_event underway (goes 0 (Nat.succ_pos _)) event
        · have ongoing := Move.isOngoing_of_isBeside beside
          exact underway_world underway ongoing world fun _ mirrors =>
            mirrors_beside mirrors beside world
      exact ih next fun count within => goes (count + 1) (Nat.succ_lt_succ within)

theorem advance_of_rests {left : Bytes} (ready : s.Ready around.services)
    (room : 0 < s.inbound.capacity) (mirrors : s.Mirrors around left d)
    (unrelayed : s.relays = false) (unfinished : s.session.isFinished = false)
    (rests : s.Rests around.ends left) :
    d.advance around = none ∧ s.session.phase.reads = true := by
  have idles : ∀ event, s.Idles event := by
    intro event
    rcases advances_handle ready mirrors unrelayed event with ⟨last, leads, after⟩ | ⟨-, idles⟩
    · have same : last = d := mirrors.unique after (rests.handled event)
      exact absurd (same ▸ leads) d.not_leads_self
    · exact idles
  have reads : s.session.phase.reads = true :=
    reads_of_idles unrelayed unfinished rests.settled rests.lookedUp idles
  have nothing : s.took.inbound.held = [] := by
    cases idles (.readable .client) with
    | deaf deaf =>
        rw [Phase.heeds_of_reads reads] at deaf
        cases deaf
    | unread reads nothing => exact nothing
  obtain ⟨held, bytes⟩ := List.append_eq_nil_iff.mp (s.took_held ▸ nothing)
  have some : 0 < s.inbound.room := by
    rw [Buffer.room_of_empty held]
    exact room
  have empty : s.session.client.socket.inbox = [] := by
    rw [incoming, Socket.receive_bytes, List.take_eq_nil_iff] at bytes
    exact bytes.resolve_left (Nat.ne_of_gt some)
  have ahead : d.ahead = [] := by
    rw [mirrors.agrees.ahead, held, empty, rests.sent]
    rfl
  refine ⟨?_, reads⟩
  rw [Dialogue.advance_nothing reads
    ((Phase.stage_of_reads reads).symm.trans mirrors.stage) ahead]
  split
  · rename_i ends
    have failed := handle_ended reads nothing
      (Socket.receive_finished (rests.ended ends) empty some)
    rw [rests.handled] at failed
    rw [failed] at reads
    cases reads
  · rfl

def Over (s : Live) : Prop :=
  s.relays = true ∨ s.session.isFinished = true ∨ s.session.phase.reads = true

theorem Over.written (stops : s.Over) : s.session.phase.writes = false := by
  cases here : s.session.phase <;> first
    | rfl
    | simp [Over, relays, Session.isFinished, here, Phase.isFinished, Phase.reads] at stops

/-- Two sessions have come to the same, as far as their client and their destinations can tell. -/
structure Alike (left : Bytes) (s : Live) (spare : Bytes) (other : Live) : Prop where
  phase : other.session.phase = s.session.phase ∨ s.relays = true ∧ other.relays = true
  delivered : other.session.client.socket.delivered = s.session.client.socket.delivered
  lookups : other.lookups = s.lookups
  attempts : other.attempts = s.attempts
  user : other.session.user = s.session.user
  unread : other.inbound.held ++ (other.session.client.socket.inbox ++ spare) =
    s.inbound.held ++ (s.session.client.socket.inbox ++ left)

theorem Mirrors.delivered (mirrors : s.Mirrors around unsent d) (stops : s.Over) :
    s.session.client.socket.delivered = d.told := by
  have idle : s.outbound.held = [] :=
    mirrors.staged.resolve_left (Bool.eq_false_iff.mp stops.written)
  rw [mirrors.agrees.told, idle, List.append_nil]

theorem phase_of_stage {other : Live} {spare : Bytes} (mirrors : s.Mirrors around unsent d)
    (others : other.Mirrors around spare d) (stops : s.Over) :
    other.session.phase = s.session.phase ∨ s.relays = true ∧ other.relays = true := by
  have same := others.stage.trans mirrors.stage.symm
  unfold Over relays Session.isFinished at stops
  unfold relays
  generalize s.session.phase = one at same stops ⊢
  generalize other.session.phase = two at same ⊢
  cases one <;> simp [Phase.isFinished, Phase.reads] at stops <;>
    cases two <;> simp_all [Phase.stage?]

/-- One dialogue that ends makes for one outcome. -/
theorem Mirrors.alike {other : Live} {spare : Bytes} (mirrors : s.Mirrors around unsent d)
    (others : other.Mirrors around spare d) (stops : s.Over) (ended : other.Over) :
    Alike unsent s spare other where
  phase := phase_of_stage mirrors others stops
  delivered := (others.delivered ended).trans (mirrors.delivered stops).symm
  lookups := others.agrees.lookups.symm.trans mirrors.agrees.lookups
  attempts := others.agrees.attempts.symm.trans mirrors.agrees.attempts
  user := others.agrees.user.symm.trans mirrors.agrees.user
  unread := others.agrees.ahead.symm.trans mirrors.agrees.ahead

/-- However a play goes, it ends where the dialogue ends. -/
theorem Plays.ending {octets left : Bytes} {moves : List Move}
    (plays : s.Plays around.ends octets left moves) (underway : s.Underway around octets d) :
    ∃ last, d.Reaches around last ∧ last.advance around = none ∧ (s.run moves).Over ∧
      (s.run moves).Mirrors around left last := by
  obtain ⟨⟨last, reaches, mirrors⟩, usable⟩ := underway_run plays.schedule underway plays.goes
  refine ⟨last, reaches, ?_⟩
  by_cases relays : (s.run moves).relays = true
  · refine ⟨?_, Or.inl relays, mirrors⟩
    unfold Live.relays at relays
    split at relays <;> rename_i here
    · rw [Dialogue.advance, mirrors.stands here rfl]
    · cases relays
  by_cases finished : (s.run moves).session.isFinished = true
  · refine ⟨?_, Or.inr (Or.inl finished), mirrors⟩
    unfold Session.isFinished Phase.isFinished at finished
    split at finished <;> rename_i here
    · rw [Dialogue.advance, mirrors.stands here rfl]
    · rw [Dialogue.advance, mirrors.stands here rfl]
    · cases finished
  · obtain ⟨ready, room⟩ := usable.resolve_left finished
    have rests := (plays.ended.resolve_left relays).resolve_left finished
    obtain ⟨ends, reads⟩ := advance_of_rests ready room mirrors (Bool.eq_false_iff.mpr relays)
      (Bool.eq_false_iff.mpr finished) rests
    exact ⟨ends, Or.inr (Or.inr reads), mirrors⟩

def opening (around : Setting) (client : Socket) (octets : Bytes) : Dialogue where
  stage :=
    match client.registry.answer .register with
    | none => .greeting around.services.acceptableMethods .version
    | some cause => .failed (.io cause)
  ahead := client.inbox ++ octets
  told := client.delivered
  user := none
  lookups := []
  attempts := []

theorem underway_start (around : Setting) (id : SessionId) (client : Socket) (octets : Bytes)
    (size : Nat) (enough : Settings.leastBuffer ≤ size) (more : client.tail = .more)
    (free : client.space = none) (accepts : client.registry.after .register = .accepting)
    (later : ∀ attempts, around.services.registry attempts = .accepting) :
    (accepted { around.services with bufferSize := size } id client around.address).start.Underway
      around octets (opening around client octets) := by
  let first := accepted { around.services with bufferSize := size } id client around.address
  have allows : around.Allows octets around.services.users around.address client :=
    ⟨rfl, rfl, free, Or.inl more⟩
  have agrees : first.Agrees around octets (opening around client octets) :=
    ⟨rfl, allows, rfl, (List.append_nil _).symm, rfl, rfl, rfl⟩
  cases refusal : client.registry.answer .register with
  | none =>
      have starts : first.start = _ := start_granted _ id around.address refusal
      have stage : (opening around client octets).stage =
          .greeting around.services.acceptableMethods .version := by
        simp only [opening, refusal]
      have start := keeps_start { around.services with bufferSize := size } id client around.address
      have able : first.start.Able := by
        rw [starts]
        exact ⟨accepts, fun server absent => (by cases absent), later⟩
      have capacity : ∀ side, (first.start.session.buffers.get side).capacity = size := fun side =>
        (start.capacity side).trans (by cases side <;> exact Buffer.new_capacity size)
      refine ⟨Mirrors.continues ?_, Or.inr
        ⟨⟨start.conditions, able, (capacity .server).symm ▸ enough, start.provided⟩, ?_⟩⟩
      · rw [starts]
        exact ⟨{ agrees with }, congrArg some stage.symm,
          fun _ impossible => (by cases impossible), Or.inr rfl⟩
      · rw [show first.start.inbound.capacity = size from capacity .client]
        exact Nat.lt_of_lt_of_le (by decide : 0 < Settings.leastBuffer) enough
  | some cause =>
      have starts : first.start = _ := start_refused _ id around.address refusal
      have stage : (opening around client octets).stage = .failed (.io cause) := by
        simp only [opening, refusal]
      rw [starts]
      exact ⟨Mirrors.continues ⟨{ agrees with }, congrArg some stage.symm,
        fun _ impossible => (by cases impossible), Or.inr rfl⟩, Or.inl rfl⟩

/-- What a session comes to depends on its client's octets and on what it finds, and neither on how
the octets come and what happens between them, nor on the size of its buffers, if the registry
refuses nothing once it knows the client. -/
theorem handshake_depends_on_octets (services : Services) (id : SessionId) (client : Socket)
    (address : SocketAddress) (ends : Bool) (octets left spare : Bytes) (moves others : List Move)
    (small large : Nat) (enough : Settings.leastBuffer ≤ small)
    (plenty : Settings.leastBuffer ≤ large) (more : client.tail = .more)
    (free : client.space = none) (accepts : client.registry.after .register = .accepting)
    (later : ∀ attempts, services.registry attempts = .accepting) :
    let one := (accepted { services with bufferSize := small } id client address).start
    let other := (accepted { services with bufferSize := large } id client address).start
    one.Plays ends octets left moves → other.Plays ends octets spare others →
      Alike left (one.run moves) spare (other.run others) := by
  intro one other plays replays
  let around : Setting := ⟨services, address, ends⟩
  have played : one.Plays around.ends octets left moves := plays
  have replayed : other.Plays around.ends octets spare others := replays
  obtain ⟨last, reaches, finishes, stops, mirrors⟩ := played.ending
    (underway_start around id client octets small enough more free accepts later)
  obtain ⟨final, arrives, concludes, halts, reflects⟩ := replayed.ending
    (underway_start around id client octets large plenty more free accepts later)
  have same : final = last := Dialogue.eq_of_reaches arrives reaches concludes finishes
  exact mirrors.alike (same ▸ reflects) stops halts

/-- A client that sends everything at once to a session with the smallest buffers, and one that
sends the same to a session with larger ones, in pieces that cut its messages and with idle events
between them. -/
theorem handshake_depends_on_octets_sent_bit_by_bit :
    let services : Services := .reaching .empty
    let octets : Bytes := [5, 1, 0, 5, 1, 0, 1, 127, 0, 0, 1, 0, 80, 104, 105]
    let moves : List Move :=
      [.far .client (.send octets), .event (.readable .client), .event (.writable .client), .settle,
        .event (.writable .server), .event (.writable .client)]
    let others : List Move :=
      [.far .client (.send [5, 1]), .event (.writable .server), .event (.readable .client),
        .far .client (.send [0, 5, 1, 0, 1]), .event (.readable .client), .event .resumed,
        .event (.writable .client), .far .client (.send [127, 0, 0, 1, 0, 80, 104]),
        .event (.readable .client), .event (.writable .server), .settle,
        .event (.writable .server), .far .server (.send [111]), .event (.writable .client)]
    let address : SocketAddress := .ofIp .localhost 5000
    let one := (accepted { services with bufferSize := 262 } ⟨0⟩ .fresh address).start
    let other := (accepted { services with bufferSize := 4096 } ⟨0⟩ .fresh address).start
    one.Plays false octets [] moves ∧ other.Plays false octets [105] others ∧
      Alike [] (one.run moves) [105] (other.run others) := by
  intro services octets moves others address one other
  have plays : one.Plays false octets [] moves :=
    ⟨.sends octets (.happens rfl (.happens rfl (.happens rfl (.happens rfl (.happens rfl .done))))),
      by decide +kernel, Or.inl (by decide +kernel)⟩
  have replays : other.Plays false octets [105] others := by
    refine ⟨.sends [5, 1] (.happens rfl (.happens rfl (.sends [0, 5, 1, 0, 1] (.happens rfl
      (.happens rfl (.happens rfl (.sends [127, 0, 0, 1, 0, 80, 104] ?_))))))), by decide +kernel,
      Or.inl (by decide +kernel)⟩
    exact .happens rfl (.happens rfl (.happens rfl (.happens rfl (.happens rfl
      (.happens rfl .done)))))
  exact ⟨plays, replays, handshake_depends_on_octets services ⟨0⟩ .fresh address false octets []
    [105] moves others 262 4096 (by decide) (by decide) rfl rfl rfl (fun _ => rfl) plays replays⟩

end Live

end SocksProxy
