import SocksProxy.Proofs.Relay.Flow

/-!
How the two ways through a relay are closed, one half of a connection after the other. A source is
given up with the round of reading that finds its end; the sink is closed when the source has been
given up and the buffer is drained, once, and with nothing left behind.
-/

namespace SocksProxy.Relay

namespace Scene

/-- Reading from a side now would find that its stream has ended, or has failed. -/
def FindsEnd (s : Scene) (side : Side) : Prop :=
  (s.context side).allowed.read = true ∧
    ((s.ends.get side).socket.receive (s.buffers.get side).room).ending.isClosed = true

def Ended (s : Scene) (moves : List Move) (side : Side) : Prop :=
  ∃ before after, moves = before ++ .readable side :: after ∧ (s.run before).FindsEnd side

variable {way : Side}

theorem round_endsSource {move : Move} {round : Round} {s : Scene}
    (happens : s.round? way move = some round) :
    round.endsSource = true ↔ move = .readable way ∧ s.FindsEnd way := by
  cases move with
  | start =>
      cases happens
      simp [Round.endsSource]
  | setSniffing on => cases happens
  | far side move => cases happens
  | writable side =>
      simp only [round?, Option.ite_none_right_eq_some, Option.some.injEq] at happens
      obtain ⟨_, rfl⟩ := happens
      simp [Round.endsSource]
  | readable side =>
      simp only [round?, Option.ite_none_right_eq_some, Option.some.injEq] at happens
      obtain ⟨⟨rfl, reading⟩, rfl⟩ := happens
      change (s.context side).allowed.read = true at reading
      simp [Round.endsSource, FindsEnd, reading]

theorem move_source (move : Move) (s : Scene) :
    ((s.move move).1.context way).allowed.read = false ↔
      (s.context way).allowed.read = false ∨ move = .readable way ∧ s.FindsEnd way := by
  have after := congrArg Direction.mayRead (direction_move s way move)
  change ((s.move move).1.context way).allowed.read = _ at after
  rw [after]
  cases happens : s.round? way move with
  | none =>
      constructor
      · exact Or.inl
      · rintro (closed | ⟨rfl, reading, finds⟩)
        · exact closed
        · -- A source that may be read is read when it is ready, so this move is a round.
          have may : (s.direction way).mayRead = true := reading
          simp [round?, may] at happens
  | some round =>
      have ends := round_endsSource happens
      change ((s.direction way).after round).mayRead = false ↔ _
      rw [Direction.after_mayRead, Bool.and_eq_false_iff, Bool.not_eq_false', ends]
      exact Iff.rfl

theorem ended_cons (move : Move) (rest : List Move) (s : Scene) :
    s.Ended (move :: rest) way ↔
      move = .readable way ∧ s.FindsEnd way ∨ (s.move move).1.Ended rest way := by
  constructor
  · rintro ⟨before, after, split, finds⟩
    cases before with
    | nil =>
        cases split
        exact Or.inl ⟨rfl, finds⟩
    | cons first before =>
        cases split
        exact Or.inr ⟨before, after, rfl, finds⟩
  · rintro (⟨rfl, finds⟩ | ⟨before, after, split, finds⟩)
    · exact ⟨[], rest, rfl, finds⟩
    · exact ⟨move :: before, after, congrArg (move :: ·) split, finds⟩

theorem run_source (moves : List Move) (s : Scene) :
    ((s.run moves).context way).allowed.read = false ↔
      (s.context way).allowed.read = false ∨ s.Ended moves way := by
  induction moves generalizing s with
  | nil => simp [run, Ended]
  | cons move rest ih =>
      change (((s.move move).1.run rest).context way).allowed.read = false ↔ _
      rw [ih, move_source, ended_cons, or_assoc]

theorem run_taken (moves : List Move) {s : Scene} (closed : (s.context way).allowed.read = false) :
    ((s.run moves).ends.get way).socket.taken = (s.ends.get way).socket.taken := by
  induction moves generalizing s with
  | nil => rfl
  | cons move rest ih =>
      have later : ((s.move move).1.context way).allowed.read = false :=
        (move_source move s).mpr (Or.inl closed)
      have same : ((s.move move).1.ends.get way).socket.taken =
          (s.ends.get way).socket.taken := by
        have after := congrArg Direction.taken (direction_move s way move)
        refine Eq.trans after ?_
        cases happens : s.round? way move with
        | none => rfl
        | some round =>
            have taken := Direction.after_taken round (s.direction way)
            cases round with
            | start => exact taken.trans (List.append_nil _)
            | write sent => exact taken.trans (List.append_nil _)
            | read received =>
                have reading : (s.context way).allowed.read = true := (round_fits happens).1
                rw [closed] at reading
                cases reading
      exact (ih later).trans same

/-- How far a run has closed the way that begins at a side. -/
structure Closing (first s : Scene) (moves : List Move) (side : Side) : Prop where
  -- The source is given up when its end has been found.
  source : (s.context side).allowed.read = false ↔ first.Ended moves side
  -- From then on it is not read any more.
  last : (s.context side).allowed.read = false → ∀ more,
    (s.run more).onRead side = (s.run more, none) ∧
      ((s.run more).ends.get side).socket.taken = (s.ends.get side).socket.taken
  sink : (s.context side.other).allowed.write = false ↔
    (s.context side).allowed.read = false ∧ (s.buffers.get side).held = []
  -- The sink is shut down when it is closed, and only then.
  once : (s.ends.get side.other).socket.writeShut =
    (first.ends.get side.other).socket.writeShut +
      if (s.context side.other).allowed.write then 0 else 1
  -- Everything that was there or was read has been written by then.
  whole : (s.context side.other).allowed.write = false → ∃ read,
    (s.ends.get side).socket.taken = (first.ends.get side).socket.taken ++ read ∧
      (s.ends.get side.other).socket.delivered =
        (first.ends.get side.other).socket.delivered ++ ((first.buffers.get side).held ++ read)

section New

variable (sniffer : Option Pop3.Sniffer) (ends : Pair Endpoint) (buffers : Pair Buffer)
  (monitor : Monitor) (moves : List Move)

theorem new_consistent (side : Side) :
    ((Scene.mk (Relay.new sniffer) ends buffers monitor).direction side).Consistent := by
  cases side <;> exact Direction.consistent_of_open rfl rfl

theorem run_closing (side : Side) :
    let first := Scene.mk (Relay.new sniffer) ends buffers monitor
    first.Closing (first.run moves) moves side := by
  intro first
  have fresh : ∀ place, first.context place = .new := by
    intro place
    cases place <;> rfl
  have consistent := new_consistent sniffer ends buffers monitor side
  have leads := run_leads side moves first consistent
  have kept := run_consistent side moves first consistent
  refine ⟨?_, ?_, kept.closed, ?_, ?_⟩
  · rw [run_source, fresh]
    simp [CopyContext.new, Interest.both]
  · intro closed more
    have later : (((first.run moves).run more).context side).allowed.read = false :=
      (run_source more _).mpr (Or.inl closed)
    refine ⟨onRead_refused _ side ?_, run_taken more closed⟩
    exact Bool.eq_false_iff.mp later
  · -- Shutting down and what is still allowed add up to what they did at first.
    have shut : ((first.run moves).ends.get side.other).socket.writeShut +
        ((first.run moves).context side.other).allowed.write.toNat =
        (first.ends.get side.other).socket.writeShut +
          (first.context side.other).allowed.write.toNat := leads.shut
    rw [fresh] at shut
    cases writing : ((first.run moves).context side.other).allowed.write with
    | true =>
        rw [writing] at shut
        exact Nat.add_right_cancel shut
    | false =>
        rw [writing] at shut
        exact shut
  · intro closed
    obtain ⟨read, written, taken, delivered, balance⟩ := leads.carried
    have drained : ((first.run moves).direction side).buffer.held = [] :=
      (kept.closed.mp closed).2
    rw [drained, List.append_nil] at balance
    exact ⟨read, taken, delivered.trans (congrArg (_ ++ ·) balance.symm)⟩

/-- A relay is done when both sources have been found to have ended, and both buffers are empty. -/
theorem run_isDone :
    let first := Scene.mk (Relay.new sniffer) ends buffers monitor
    (first.run moves).relay.isDone = true ↔
      ∀ side, first.Ended moves side ∧ ((first.run moves).buffers.get side).held = [] := by
  intro first
  have consistent : ∀ side, ((first.run moves).direction side).Consistent := fun side =>
    run_consistent side moves first (new_consistent sniffer ends buffers monitor side)
  rw [isDone_iff _ consistent]
  refine forall_congr' fun side => ?_
  have source := (run_closing sniffer ends buffers monitor moves side).source
  rw [← source]
  exact Iff.rfl

end New

end Scene

end SocksProxy.Relay
