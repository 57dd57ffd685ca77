import SocksProxy.Proofs.Relay.Interest
import SocksProxy.Proofs.Relay.Stroke

/-!
A relay that is not done can go on. Its sockets are registered for exactly what its sides wait for,
also after a write has failed, and what is waited for can be served: there is room for what is read,
and there is something to be written.
-/

namespace SocksProxy

theorem Interest.contains_iff (a b : Interest) :
    a.contains b = true ↔ (b.read = true → a.read = true) ∧ (b.write = true → a.write = true) := by
  cases a with
  | mk read write =>
      cases b with
      | mk wantsRead wantsWrite =>
          cases read <;> cases write <;> cases wantsRead <;> cases wantsWrite <;> decide

/-- Answers do not take this away. -/
def Registry.Kept (holds : Registry → Prop) : Prop := ∀ r call, holds r → holds (r.after call)

theorem Registry.kept_accepting : Registry.Kept (· = .accepting) := by
  rintro r call rfl
  exact after_accepting call

namespace Endpoint

variable {wanted : Interest} {before after : Endpoint} {refusal : Option Net.IoError}

theorem setInterest_kept {holds : Registry → Prop} (kept : Registry.Kept holds)
    (asked : before.setInterest wanted = (after, refusal)) (here : holds before.registry) :
    holds after.registry := by
  rcases setInterest_registry asked with same | ⟨call, left⟩
  · rwa [same]
  · rw [left]
    exact kept _ call here

end Endpoint

namespace Relay.Scene

def Registries (holds : Registry → Prop) (s : Scene) : Prop :=
  ∀ side, holds (s.ends.get side).registry

abbrev Accepting (s : Scene) : Prop := s.Registries (· = .accepting)

/-- Each socket is registered for what its side waits for, and for nothing else. -/
def Registered (s : Scene) : Prop :=
  ∀ side, (s.ends.get side).interest = (s.context side).interest ∧
    (s.ends.get side).registered = !(s.context side).interest.isEmpty

variable {holds : Registry → Prop} {s : Scene}

theorem Registries.stroke (kept : Registry.Kept holds) {s after : Scene} (stroke : Stroke s after)
    (before : s.Registries holds) : after.Registries holds := by
  have changed : ∀ side (f : Endpoint → Endpoint), holds (f (s.ends.get side)).registry →
      (s.withEnd side f).Registries holds := fun side f here way =>
    withEnd_keeps (fun e after => holds e.registry → holds after.registry) (fun _ => id)
      (fun _ => here) way (before way)
  cases stroke with
  | receive side room | transmit side message | shutdownRead side | shutdownWrite side
  | farMove side move => exact changed side _ (before side)
  | register side =>
      exact changed side (fun e => (e.setInterest (s.context side).interest).1)
        (Endpoint.setInterest_kept kept (Prod.eta _).symm (before side))
  | _ => exact before

theorem move_registries (kept : Registry.Kept holds) (before : s.Registries holds) (move : Move) :
    (s.move move).1.Registries holds :=
  (move_strokes s move).keeps (Registries.stroke kept) before

theorem Accepting.strokes {s after : Scene} (strokes : Strokes s after) (accepts : s.Accepting) :
    after.Accepting :=
  strokes.keeps (Registries.stroke Registry.kept_accepting) accepts

theorem register_accepting (accepts : s.Accepting) (side : Side) : (s.register side).2 = none :=
  congrArg Prod.snd (Endpoint.setInterest_accepting _ (accepts side))

theorem registerBoth_accepting (accepts : s.Accepting) (side : Side) :
    (s.registerBoth side).2 = none := by
  have first := register_accepting accepts side
  have later : (s.register side).1.Accepting :=
    Accepting.strokes (Strokes.none.next (.register s side)) accepts
  simp only [registerBoth, first]
  exact register_accepting later side.other

theorem registerBoth_registered {side : Side}
    (granted : (s.registerBoth side).2 = none ∨ s.Accepting) :
    (s.registerBoth side).1.Registered := by
  have granted := granted.elim id fun accepts => registerBoth_accepting accepts side
  unfold registerBoth at granted ⊢
  dsimp only at granted ⊢
  split at granted <;> rename_i first
  · rw [first] at granted
    cases granted
  · have one := Endpoint.setInterest_granted ((Prod.eta _).symm.trans (congrArg _ first))
    have two := Endpoint.setInterest_granted ((Prod.eta _).symm.trans (congrArg _ granted))
    intro way
    cases side <;> cases way <;> first | exact one | exact two

theorem start_registered (granted : s.start.2 = none ∨ s.Accepting) : s.start.1.Registered :=
  registerBoth_registered (granted.imp_right (Accepting.strokes Strokes.none.armed))

theorem armed_scene (s : Scene) : s.armed.ends = s.ends ∧ s.armed.buffers = s.buffers ∧
    s.armed.monitor = s.monitor ∧
    s.armed.relay.contexts.client.allowed = s.relay.contexts.client.allowed := by
  unfold armed
  dsimp only
  split <;> split <;> exact ⟨rfl, rfl, rfl, rfl⟩

theorem register_ends (s : Scene) (side way : Side) :
    ∃ interest registered registry,
      (s.register side).1.ends.get way =
        { s.ends.get way with interest, registered, registry } := by
  rcases way.eq_or_other side with rfl | rfl
  · obtain ⟨interest, registered, registry, own⟩ := Endpoint.setInterest_eq
      (Prod.eta ((s.ends.get way).setInterest (s.context way).interest)).symm
    exact ⟨interest, registered, registry, (Pair.get_set_same _ _ _).trans own⟩
  · exact ⟨_, _, _, Pair.get_set_other _ _ _⟩

theorem start_accepting (accepts : s.Accepting) :
    s.start.2 = none ∧ s.start.1.buffers = s.buffers ∧ s.start.1.relay = s.armed.relay ∧
      ∀ side, (s.start.1.ends.get side).socket = (s.ends.get side).socket ∧
        (s.start.1.ends.get side).address = (s.ends.get side).address := by
  obtain ⟨ends, buffers, -, -⟩ := armed_scene s
  have armed : s.armed.Accepting := accepts.strokes Strokes.none.armed
  have first := register_accepting armed .client
  have both : s.start.1 = ((s.armed.register .client).1.register .server).1 := by
    simp only [start, registerBoth, first]
    rfl
  refine ⟨registerBoth_accepting armed .client, ?_, ?_, ?_⟩
  · rw [both]
    exact buffers
  · rw [both]
    rfl
  · intro side
    obtain ⟨_, _, _, one⟩ := register_ends s.armed .client side
    obtain ⟨_, _, _, two⟩ := register_ends (s.armed.register .client).1 .server side
    rw [both, two, one, ends]
    exact ⟨rfl, rfl⟩

theorem onRead_registered (registered : s.Registered) {side : Side}
    (granted : (s.onRead side).2 = none ∨ s.Accepting) : (s.onRead side).1.Registered := by
  unfold onRead at granted ⊢
  split
  · rename_i may
    have stored := Strokes.none.took (s := s) side (s.buffers.get side).room
    rw [if_pos may] at granted
    refine registerBoth_registered (granted.imp_right (Accepting.strokes ?_))
    split
    · exact stored.sourceEnded side
    · exact stored.sourceOpen side
  · exact registered

theorem onWrite_registered (registered : s.Registered) {side : Side}
    (granted : (s.onWrite side).2 = none ∨ s.Accepting) : (s.onWrite side).1.Registered := by
  unfold onWrite at granted ⊢
  split
  · rename_i may
    have stored := Strokes.none.gave (s := s) side (s.buffers.get side.other).held
    rw [if_pos may] at granted
    dsimp only at granted ⊢
    split at granted
    · -- A failed write ends the step before anything is registered or waited for anew.
      intro way
      cases side <;> cases way <;> first | exact registered .client | exact registered .server
    all_goals
      exact registerBoth_registered
        (granted.imp_right (Accepting.strokes (stored.sinkServed side _)))
  · exact registered

/-- What both sockets are registered for is kept up by a step, if it comes to its end, and also by
one that fails, if it is not for a registration. -/
theorem move_registered (registered : s.Registered) {move : Move}
    (granted : (s.move move).2 = none ∨ s.Accepting) : (s.move move).1.Registered := by
  cases move with
  | start => exact start_registered granted
  | setSniffing on => exact registered
  | readable side => exact onRead_registered registered granted
  | writable side => exact onWrite_registered registered granted
  | far side move =>
      intro way
      cases side <;> cases way <;> first | exact registered .client | exact registered .server

/-- What one side waits for, and what it is registered for. -/
structure Waits (s : Scene) (side : Side) : Prop where
  allowed : (s.context side).allowed.contains (s.context side).interest = true
  writing : (s.context side).interest.write = true ↔ (s.buffers.get side.other).held ≠ []
  reading : (s.context side).allowed.read = true → (s.context side).interest.read = false →
    (s.buffers.get side).writeCursor = (s.buffers.get side).capacity ∧
      (s.buffers.get side).held ≠ [] ∧ (s.context side.other).interest.write = true
  registered : (s.ends.get side).interest = (s.context side).interest ∧
    (s.ends.get side).registered = !(s.context side).interest.isEmpty

/-- A step of reading takes something from a side, or finds that its stream has ended. -/
def ReadAdvances (s : Scene) (side : Side) : Prop :=
  (s.ends.get side).socket.taken.length < ((s.onRead side).1.ends.get side).socket.taken.length ∨
    ((s.onRead side).1.context side).allowed.read = false

def WriteAdvances (s : Scene) (side : Side) : Prop :=
  (s.ends.get side).socket.delivered.length <
      ((s.onWrite side).1.ends.get side).socket.delivered.length ∨
    (s.onWrite side).2.isSome = true

/-- No readiness that a side is registered for is in vain: its step advances, or stops waiting for
it. -/
structure Serves (s : Scene) (side : Side) : Prop where
  reading : (s.context side).interest.read = true → (s.ends.get side).socket.Readable →
    s.ReadAdvances side ∨ ((s.onRead side).1.context side).interest.read = false
  writing : (s.context side).interest.write = true → (s.ends.get side).socket.Writable →
    s.WriteAdvances side

def around (far : List (Side × FarMove)) (s : Scene) : Scene :=
  s.run (far.map fun move => .far move.1 move.2)

/-- A side is registered for something that advances as soon as its socket is ready for it. -/
def CanGoOn (s : Scene) (side : Side) : Prop :=
  (s.ends.get side).registered = true ∧
    ((s.ends.get side).interest.read = true ∧
        (∀ far, ((s.around far).ends.get side).socket.Readable → (s.around far).ReadAdvances side) ∨
      (s.ends.get side).interest.write = true ∧
        ∀ far, ((s.around far).ends.get side).socket.Writable →
          (s.around far).WriteAdvances side)

theorem direction_around (far : List (Side × FarMove)) (s : Scene) (way : Side) :
    (s.around far).direction way = s.direction way := by
  induction far generalizing s with
  | nil => rfl
  | cons move rest ih =>
      exact (ih (s.farMove move.2 move.1)).trans (direction_farMove s way move.2 move.1)

theorem onRead_advances {s : Scene} {way : Side} (may : (s.direction way).mayRead = true)
    (room : 0 < (s.direction way).buffer.room) (ready : (s.ends.get way).socket.Readable) :
    s.ReadAdvances way := by
  have read := direction_onRead s way may
  rcases Socket.receive_progress room ready with some | ended
  · left
    have taken := congrArg Direction.taken read
    have more := Direction.after_taken
      (.read ((s.ends.get way).socket.receive (s.buffers.get way).room)) (s.direction way)
    have grown : ((s.onRead way).1.ends.get way).socket.taken =
        (s.ends.get way).socket.taken ++
          ((s.ends.get way).socket.receive (s.buffers.get way).room).bytes := by
      refine taken.trans (more.trans ?_)
      simp [Round.received?, direction]
    rw [grown, List.length_append]
    have positive := List.length_pos_iff.mpr some
    have same : (s.direction way).buffer.room = (s.buffers.get way).room := rfl
    rw [same] at positive
    omega
  · right
    have closed := Direction.after_mayRead
      (.read ((s.ends.get way).socket.receive (s.buffers.get way).room)) (s.direction way)
    have same : (s.direction way).buffer.room = (s.buffers.get way).room := rfl
    rw [same] at ended
    refine (congrArg Direction.mayRead read).trans (closed.trans ?_)
    simp [Round.endsSource, ended]

theorem onRead_yields {s : Scene} {way : Side} (may : (s.direction way).mayRead = true)
    (full : (s.direction way).buffer.free = []) :
    ((s.onRead way).1.context way).interest.read = false := by
  have read := direction_onRead s way may
  have room : (s.buffers.get way).room = 0 := congrArg List.length full
  have nothing : ((s.ends.get way).socket.receive 0).bytes = [] := by
    rw [Socket.receive_bytes, List.take_zero]
  have ending : ((s.ends.get way).socket.receive 0).ending = .full := by
    rw [Socket.receive_full, nothing, List.length_nil]
  rw [room] at read
  have stored : ((s.direction way).store []).buffer.canWrite = false := by
    rw [Direction.store_buffer]
    simp [Buffer.canWrite, Buffer.put, Buffer.extend, full]
  refine (congrArg Direction.waitsRead read).trans ?_
  simp [Direction.read, ending, nothing, stored, ReadEnd.isClosed]

theorem onWrite_advances {s : Scene} {way : Side} (may : (s.direction way).mayWrite = true)
    (held : (s.direction way).buffer.held ≠ [])
    (ready : (s.ends.get way.other).socket.Writable) : s.WriteAdvances way.other := by
  rcases Socket.transmit_progress held ready with some | ⟨cause, failed⟩
  · left
    have written := congrArg Direction.delivered (direction_onWrite s way may)
    have passed : ((s.onWrite way.other).1.ends.get way.other).socket.delivered =
        (s.ends.get way.other).socket.delivered ++
          (s.buffers.get way).held.take
            ((s.ends.get way.other).socket.transmit (s.buffers.get way).held).count :=
      written.trans (Direction.write_delivered _ _)
    have most := Socket.transmit_count_le (s.buffers.get way).held (s.ends.get way.other).socket
    have same : (s.direction way).buffer.held = (s.buffers.get way).held := rfl
    rw [same] at some
    rw [passed, List.length_append, List.length_take]
    omega
  · right
    have allowed : (s.context way.other).allowed.write = true := may
    have ending : ((s.ends.get way.other).socket.transmit
        (s.buffers.get way.other.other).held).ending = .failed cause := by
      rw [Side.other_other]
      exact failed
    unfold onWrite
    rw [if_pos allowed]
    dsimp only
    rw [ending]
    rfl

/-- Everything that a relay keeps up after its start. -/
structure Awake (s : Scene) : Prop where
  accepting : s.Accepting
  registered : s.Registered
  attentive : ∀ way, (s.direction way).Attentive
  positive : ∀ way, 0 < (s.direction way).buffer.capacity

theorem attentive_start {s : Scene} (fresh : ∀ side, s.context side = CopyContext.new)
    (way : Side) : (s.start.1.direction way).Attentive := by
  have started : s.start.1.direction way = (s.direction way).start := direction_move s way .start
  have opened : (s.direction way).mayRead = true ∧ (s.direction way).mayWrite = true ∧
      (s.direction way).waitsWrite = false := by
    simp [direction, fresh, CopyContext.new, Interest.both, Interest.none]
  rw [started]
  have consistent := Direction.consistent_of_open opened.1 opened.2.1
  refine Direction.start_attentive consistent fun waits => ?_
  rw [opened.2.2] at waits
  cases waits

theorem awake_start {s : Scene} (accepts : s.Accepting)
    (fresh : ∀ side, s.context side = CopyContext.new)
    (positive : ∀ side, 0 < (s.buffers.get side).capacity) : s.start.1.Awake := by
  refine ⟨move_registries Registry.kept_accepting accepts .start, start_registered (.inr accepts),
    attentive_start fresh, ?_⟩
  intro way
  rw [show s.start.1.direction way = (s.direction way).after .start from direction_move s way .start,
    Direction.after_capacity]
  exact positive way

theorem Awake.run {s : Scene} (awake : s.Awake) (moves : List Move) : (s.run moves).Awake := by
  induction moves generalizing s with
  | nil => exact awake
  | cons move rest ih =>
      have registered : (s.move move).1.Registered :=
        move_registered awake.registered (.inr awake.accepting)
      have accepting := move_registries Registry.kept_accepting awake.accepting move
      refine ih ⟨accepting, registered, ?_, ?_⟩
      · intro way
        exact move_keeps way _ Direction.after_attentive move s (awake.attentive way)
      · intro way
        refine move_keeps way (fun d => 0 < d.buffer.capacity) ?_ move s (awake.positive way)
        intro round d before _
        rwa [Direction.after_capacity]

namespace Awake

variable {s : Scene} (awake : s.Awake)
include awake

theorem waits (side : Side) : s.Waits side := by
  have source := awake.attentive side
  have sink := awake.attentive side.other
  have writes : (s.direction side.other).waitsWrite = (s.context side).interest.write := by
    simp [direction]
  have mayWrite : (s.direction side.other).mayWrite = (s.context side).allowed.write := by
    simp [direction]
  constructor
  · rw [Interest.contains_iff, ← writes, ← mayWrite]
    exact ⟨source.consistent.source, sink.consistent.sink⟩
  · rw [← writes]
    exact sink.sink
  · intro may still
    have full := source.source may still
    have held := Buffer.held_of_full (awake.positive side) full
    exact ⟨Buffer.writeCursor_of_full full, held, source.sink.mpr held⟩
  · exact awake.registered side

theorem serves (side : Side) : s.Serves side := by
  constructor
  · intro waits ready
    have may := (awake.attentive side).consistent.source waits
    by_cases full : (s.direction side).buffer.free = []
    · exact Or.inr (onRead_yields may full)
    · exact Or.inl (onRead_advances may (List.length_pos_iff.mpr full) ready)
  · intro waits ready
    rcases Side.eq_or_other side side.other with same | same
    · exact absurd same.symm side.other_ne
    · rw [same] at waits ready ⊢
      have sink := awake.attentive side.other
      exact onWrite_advances (sink.consistent.sink waits) (sink.sink.mp waits) ready

/-- What is held is waited for by its sink; when nothing is held, a source that is still open is
waited for, and has room. -/
theorem canGoOn (pending : s.relay.isDone = false) : ∃ side, s.CanGoOn side := by
  by_cases waiting : ∃ way, (s.direction way).buffer.held ≠ []
  · obtain ⟨way, held⟩ := waiting
    have waits := (awake.attentive way).sink.mpr held
    have may := (awake.attentive way).consistent.sink waits
    have registered := awake.registered way.other
    have write : (s.context way.other).interest.write = true := waits
    refine ⟨way.other, ?_, Or.inr ⟨registered.1 ▸ write, ?_⟩⟩
    · rw [registered.2, Interest.isEmpty, write]
      simp
    · intro far ready
      have same := direction_around far s way
      exact onWrite_advances (by rw [same]; exact may) (by rw [same]; exact held) ready
  · have drained : ∀ way, (s.direction way).buffer.held = [] := by
      intro way
      by_cases held : (s.direction way).buffer.held = []
      · exact held
      · exact absurd ⟨way, held⟩ waiting
    have opened : ∃ way, (s.direction way).mayRead = true := by
      by_cases reading : ∃ way, (s.direction way).mayRead = true
      · exact reading
      · have done := (isDone_iff s fun way => (awake.attentive way).consistent).mpr fun way =>
          ⟨Bool.eq_false_iff.mpr fun may => reading ⟨way, may⟩, drained way⟩
        rw [done] at pending
        cases pending
    obtain ⟨way, may⟩ := opened
    have room : (s.direction way).buffer.free ≠ [] := fun full =>
      Buffer.held_of_full (awake.positive way) full (drained way)
    have read : (s.context way).interest.read = true := by
      cases waits : (s.context way).interest.read with
      | true => rfl
      | false => exact absurd ((awake.attentive way).source may waits) room
    have registered := awake.registered way
    refine ⟨way, ?_, Or.inl ⟨registered.1 ▸ read, ?_⟩⟩
    · rw [registered.2, Interest.isEmpty, read]
      rfl
    · intro far ready
      have same := direction_around far s way
      refine onRead_advances (by rw [same]; exact may) ?_ ready
      rw [same]
      exact List.length_pos_iff.mpr room

end Awake

/-- From its start on, a relay waits for exactly what it can serve, what it may still do never comes
back, and as long as it is not done one of its sockets is registered for something that lets it go
on. -/
theorem relay_never_stalls (sniffer : Option Pop3.Sniffer) (ends : Pair Endpoint)
    (buffers : Pair Buffer) (monitor : Monitor) (moves : List Move)
    (positive : ∀ side, 0 < (buffers.get side).capacity)
    (accepts : ∀ side, (ends.get side).registry = .accepting) :
    let s := (Scene.mk (Relay.new sniffer) ends buffers monitor).run (.start :: moves)
    (∀ side, s.Waits side ∧ s.Serves side) ∧
      (∀ more side, (s.context side).allowed.contains ((s.run more).context side).allowed = true) ∧
      (s.relay.isDone = false → ∃ side, s.CanGoOn side) := by
  intro s
  have started := awake_start (s := ⟨Relay.new sniffer, ends, buffers, monitor⟩) accepts
    (fun side => by cases side <;> rfl) positive
  have awake : s.Awake := started.run moves
  refine ⟨fun side => ⟨awake.waits side, awake.serves side⟩, ?_, awake.canGoOn⟩
  intro more side
  have leads := fun way => run_leads way more s (awake.attentive way).consistent
  rw [Interest.contains_iff]
  refine ⟨(leads side).reading, ?_⟩
  have writing := (leads side.other).writing
  simpa [direction] using writing

/-- A write that fails with one byte written of two leaves a relay that can go on. -/
theorem relay_never_stalls_at_broken_pipe :
    let ends : Pair Endpoint :=
      ⟨Endpoint.new .fresh (.ofIp .localhost 1080) 2, Endpoint.new .fresh (.ofIp .localhost 80) 3⟩
    let buffers : Pair Buffer := ⟨(Buffer.new 2).put [7], Buffer.new 1⟩
    let moves : List Move :=
      [.far .client (.send [1, 2, 3]), .readable .client, .far .server (.leave 1),
        .writable .server]
    let s := (Scene.mk (Relay.new none) ends buffers (Monitor.new false)).run (.start :: moves)
    (∀ side, 0 < (buffers.get side).capacity) ∧
      (∀ side, (ends.get side).registry = .accepting) ∧ s.relay.isDone = false ∧
      (∀ side, s.Waits side ∧ s.Serves side) ∧ ∃ side, s.CanGoOn side := by
  intro ends buffers moves s
  have positive : ∀ side, 0 < (buffers.get side).capacity := by
    intro side
    cases side <;> decide
  have accepts : ∀ side, (ends.get side).registry = .accepting := by
    intro side
    cases side <;> rfl
  have pending : s.relay.isDone = false := by decide
  have facts := relay_never_stalls none ends buffers (Monitor.new false) moves positive accepts
  exact ⟨positive, accepts, pending, facts.1, facts.2.2 pending⟩

end Relay.Scene

end SocksProxy
