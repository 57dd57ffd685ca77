import SocksProxy.Proofs.Relay.Direction

/-!
What flows through one direction of a relay. Bytes leave in the order in which they came, none is
lost and none is made up; reading stops for good with the first round that finds the end of the
source; the sink is closed once, when the source is closed and the buffer is drained.
-/

namespace SocksProxy.Relay

/-- A round that a direction allows: no more is read than there is room for, and no more is written
than is there. A round of writing that fails leaves something behind. -/
def Round.Fits (d : Direction) : Round → Prop
  | .start => True
  | .read received => d.mayRead = true ∧ received.bytes.length ≤ d.buffer.room
  | .write sent =>
      d.mayWrite = true ∧ sent.count ≤ d.buffer.held.length ∧
        (sent.ending = .drained ↔ sent.count = d.buffer.held.length)

def Round.endsSource : Round → Bool
  | .read received => received.ending.isClosed
  | .start | .write _ => false

def Round.received? : Round → Option Received
  | .read received => some received
  | .start | .write _ => none

theorem Scene.round_fits {s : Scene} {way : Side} {move : Move} {round : Round}
    (happens : s.round? way move = some round) : round.Fits (s.direction way) := by
  cases move with
  | start => cases happens; trivial
  | setSniffing on => cases happens
  | far side move => cases happens
  | readable side =>
      simp only [round?, Option.ite_none_right_eq_some, Option.some.injEq] at happens
      obtain ⟨allowed, rfl⟩ := happens
      exact ⟨allowed.2, Socket.receive_length _ _⟩
  | writable side =>
      simp only [round?, Option.ite_none_right_eq_some, Option.some.injEq] at happens
      obtain ⟨allowed, rfl⟩ := happens
      exact ⟨allowed.2, Socket.transmit_count_le _ _, Socket.transmit_drained _ _⟩

namespace Direction

/-- Nothing is waited for that is not allowed, and the sink is closed exactly when the source is and
nothing waits in the buffer. -/
structure Consistent (d : Direction) : Prop where
  source : d.waitsRead = true → d.mayRead = true
  sink : d.waitsWrite = true → d.mayWrite = true
  closed : d.mayWrite = false ↔ d.mayRead = false ∧ d.buffer.held = []

theorem Consistent.mayWrite {d : Direction} (consistent : d.Consistent)
    (may : d.mayRead = true) : d.mayWrite = true := by
  cases writing : d.mayWrite with
  | true => rfl
  | false =>
      have closed := (consistent.closed.mp writing).1
      rw [may] at closed
      cases closed

theorem Consistent.mayWrite_of_held {d : Direction} (consistent : d.Consistent)
    (waiting : d.buffer.held ≠ []) : d.mayWrite = true := by
  cases writing : d.mayWrite with
  | true => rfl
  | false => exact absurd (consistent.closed.mp writing).2 waiting

theorem armSource_waits {d : Direction} (source : d.waitsRead = true → d.mayRead = true) :
    d.armSource.waitsRead = true → d.armSource.mayRead = true := by
  intro waits
  rcases Bool.or_eq_true_iff.mp waits with before | now
  · exact source before
  · exact now

theorem Consistent.armSource {d : Direction} (consistent : d.Consistent) :
    d.armSource.Consistent :=
  ⟨armSource_waits consistent.source, consistent.sink, consistent.closed⟩

theorem Consistent.armSink {d : Direction} (consistent : d.Consistent) :
    d.armSink.Consistent := by
  refine ⟨consistent.source, ?_, consistent.closed⟩
  intro waits
  rcases Bool.or_eq_true_iff.mp waits with before | now
  · exact consistent.sink before
  · exact now

theorem consistent_of_open {d : Direction} (reading : d.mayRead = true)
    (writing : d.mayWrite = true) : d.Consistent :=
  ⟨fun _ => reading, fun _ => writing, by simp [reading, writing]⟩

theorem store_mayRead (bytes : Bytes) (d : Direction) : (d.store bytes).mayRead = d.mayRead := by
  unfold store
  dsimp only
  split <;> rfl

theorem store_mayWrite (bytes : Bytes) (d : Direction) :
    (d.store bytes).mayWrite = d.mayWrite := by
  unfold store
  dsimp only
  split <;> rfl

theorem store_buffer (bytes : Bytes) (d : Direction) :
    (d.store bytes).buffer = d.buffer.put bytes := by
  unfold store
  dsimp only
  split <;> rfl

theorem start_consistent {d : Direction} (consistent : d.Consistent) : d.start.Consistent := by
  unfold start
  split
  · exact consistent.armSource.armSink
  · exact consistent.armSource

theorem read_consistent {received : Received} {d : Direction} (consistent : d.Consistent)
    (fits : (Round.read received).Fits d) : (d.read received).Consistent := by
  have reading : (d.store received.bytes).mayRead = true :=
    (store_mayRead _ d).trans fits.1
  have writing : (d.store received.bytes).mayWrite = true :=
    (store_mayWrite _ d).trans (consistent.mayWrite fits.1)
  have opened := consistent_of_open reading writing
  unfold read
  dsimp only
  split
  · split
    · rename_i drained
      refine ⟨fun waits => absurd waits (by simp [endSink, endSource]),
        fun waits => absurd waits (by simp [endSink]), ?_⟩
      simpa [endSink, endSource, Buffer.isEmpty] using drained
    · rename_i waiting
      refine ⟨fun waits => absurd waits (by simp [endSource]), opened.sink, ?_⟩
      simpa [endSource, writing, Buffer.isEmpty] using waiting
  · split
    · exact opened.armSource
    · exact ⟨fun waits => absurd waits (by simp), opened.sink, opened.closed⟩

theorem settleSink_consistent {d : Direction} (source : d.waitsRead = true → d.mayRead = true)
    (writing : d.mayWrite = true) : d.settleSink.Consistent := by
  unfold settleSink
  split
  · rename_i drained
    split
    · rename_i reading
      exact ⟨source, fun waits => absurd waits (by simp), by simp [reading, writing]⟩
    · rename_i ended
      refine ⟨source, fun waits => absurd waits (by simp [endSink]), ?_⟩
      simpa [endSink, ended, Buffer.isEmpty] using drained
  · rename_i waiting
    refine ⟨source, fun _ => writing, ?_⟩
    have held : d.buffer.held ≠ [] := by simpa [Buffer.isEmpty] using waiting
    simp [armSink, writing, held]

theorem resume_consistent {count : Nat} {d : Direction}
    (source : d.waitsRead = true → d.mayRead = true) (writing : d.mayWrite = true) :
    (d.resume count).Consistent := by
  unfold resume
  split
  · exact settleSink_consistent (armSource_waits source) writing
  · exact settleSink_consistent source writing

theorem write_consistent {sent : Sent} {d : Direction} (consistent : d.Consistent)
    (fits : (Round.write sent).Fits d) : (d.write sent).Consistent := by
  obtain ⟨writing, most, drained⟩ := fits
  unfold write
  split
  · rename_i cause failed
    -- A round that fails leaves something behind, so there is nothing to close.
    have left : d.buffer.held.drop sent.count ≠ [] := by
      have short : sent.count ≠ d.buffer.held.length := by
        intro all
        have ending := drained.mpr all
        rw [failed] at ending
        cases ending
      rw [Ne, List.drop_eq_nil_iff]
      omega
    refine ⟨consistent.source, consistent.sink, ?_⟩
    simp [pass, writing, left]
  · exact resume_consistent consistent.source writing
  · exact resume_consistent consistent.source writing

theorem after_consistent {round : Round} {d : Direction} (consistent : d.Consistent)
    (fits : round.Fits d) : (d.after round).Consistent := by
  cases round with
  | start => exact start_consistent consistent
  | read received => exact read_consistent consistent fits
  | write sent => exact write_consistent consistent fits

/-- From one state of a direction to a later one: what was held and what has been read since is what
has been written since and what is held now, in this order. The sink's half was shut down once if it
is open no more, and nothing is allowed again. -/
structure Leads (before after : Direction) : Prop where
  carried : ∃ read written,
    after.taken = before.taken ++ read ∧ after.delivered = before.delivered ++ written ∧
      before.buffer.held ++ read = written ++ after.buffer.held
  shut : after.writeShut + after.mayWrite.toNat = before.writeShut + before.mayWrite.toNat
  reading : after.mayRead = true → before.mayRead = true
  writing : after.mayWrite = true → before.mayWrite = true

theorem Leads.refl (d : Direction) : Leads d d :=
  ⟨⟨[], [], by simp⟩, rfl, id, id⟩

theorem Leads.trans {first second third : Direction} (earlier : Leads first second)
    (later : Leads second third) : Leads first third := by
  obtain ⟨read, written, taken, delivered, balance⟩ := earlier.carried
  obtain ⟨readNext, writtenNext, takenNext, deliveredNext, balanceNext⟩ := later.carried
  refine ⟨⟨read ++ readNext, written ++ writtenNext, ?_, ?_, ?_⟩,
    later.shut.trans earlier.shut, earlier.reading ∘ later.reading,
    earlier.writing ∘ later.writing⟩
  · rw [takenNext, taken, List.append_assoc]
  · rw [deliveredNext, delivered, List.append_assoc]
  · calc first.buffer.held ++ (read ++ readNext)
        = (written ++ second.buffer.held) ++ readNext := by rw [← balance, List.append_assoc]
      _ = written ++ (writtenNext ++ third.buffer.held) := by
          rw [List.append_assoc, balanceNext]
      _ = (written ++ writtenNext) ++ third.buffer.held := by rw [List.append_assoc]

theorem leads_of_same {before after : Direction} (buffer : after.buffer = before.buffer)
    (taken : after.taken = before.taken) (delivered : after.delivered = before.delivered)
    (shut : after.writeShut + after.mayWrite.toNat = before.writeShut + before.mayWrite.toNat)
    (reading : after.mayRead = true → before.mayRead = true)
    (writing : after.mayWrite = true → before.mayWrite = true) : Leads before after :=
  ⟨⟨[], [], by simp [taken, delivered, buffer]⟩, shut, reading, writing⟩

theorem start_leads (d : Direction) : Leads d d.start := by
  unfold start
  split <;> exact leads_of_same rfl rfl rfl rfl id id

theorem store_leads {bytes : Bytes} {d : Direction} (fits : bytes.length ≤ d.buffer.room) :
    Leads d (d.store bytes) := by
  have whole : bytes.take d.buffer.free.length = bytes := List.take_of_length_le fits
  have passed : (d.store bytes).taken = d.taken ++ bytes ∧
      (d.store bytes).delivered = d.delivered ∧ (d.store bytes).writeShut = d.writeShut := by
    unfold store
    dsimp only
    split <;> exact ⟨rfl, rfl, rfl⟩
  refine ⟨⟨bytes, [], passed.1, by simp [passed.2.1], ?_⟩, ?_, ?_, ?_⟩
  · simp [store_buffer, whole]
  · rw [passed.2.2, store_mayWrite]
  · rw [store_mayRead]; exact id
  · rw [store_mayWrite]; exact id

theorem endSource_leads (d : Direction) : Leads d d.endSource :=
  leads_of_same rfl rfl rfl rfl (fun reading => absurd reading (by simp [endSource])) id

theorem endSink_leads {d : Direction} (writing : d.mayWrite = true) : Leads d d.endSink :=
  leads_of_same rfl rfl rfl (by simp [endSink, writing]) id fun _ => writing

theorem armSource_leads (d : Direction) : Leads d d.armSource :=
  leads_of_same rfl rfl rfl rfl id id

theorem armSink_leads (d : Direction) : Leads d d.armSink :=
  leads_of_same rfl rfl rfl rfl id id

theorem read_leads {received : Received} {d : Direction} (consistent : d.Consistent)
    (fits : (Round.read received).Fits d) : Leads d (d.read received) := by
  have stored := store_leads fits.2
  have writing : (d.store received.bytes).mayWrite = true :=
    (store_mayWrite _ d).trans (consistent.mayWrite fits.1)
  unfold read
  dsimp only
  split
  · split
    · exact (stored.trans (endSource_leads _)).trans (endSink_leads writing)
    · exact stored.trans (endSource_leads _)
  · split
    · exact stored.trans (armSource_leads _)
    · exact stored.trans (leads_of_same rfl rfl rfl rfl id id)

theorem pass_leads (count : Nat) (d : Direction) : Leads d (d.pass count) := by
  refine ⟨⟨[], d.buffer.held.take count, by simp [pass], rfl, ?_⟩, rfl, id, id⟩
  simp [pass, List.take_append_drop]

theorem settleSink_leads {d : Direction} (writing : d.mayWrite = true) :
    Leads d d.settleSink := by
  unfold settleSink
  split
  · split
    · exact leads_of_same rfl rfl rfl rfl id id
    · exact endSink_leads writing
  · exact armSink_leads d

theorem resume_leads {count : Nat} {d : Direction} (writing : d.mayWrite = true) :
    Leads d (d.resume count) := by
  unfold resume
  split
  · exact (armSource_leads d).trans (settleSink_leads writing)
  · exact settleSink_leads writing

theorem after_leads {round : Round} {d : Direction} (consistent : d.Consistent)
    (fits : round.Fits d) : Leads d (d.after round) := by
  cases round with
  | start => exact start_leads d
  | read received => exact read_leads consistent fits
  | write sent =>
      have passed := pass_leads sent.count d
      change Leads d (d.write sent)
      unfold write
      split
      · exact passed
      · exact passed.trans (resume_leads fits.1)
      · exact passed.trans (resume_leads fits.1)

theorem settleSink_mayRead (d : Direction) : d.settleSink.mayRead = d.mayRead := by
  unfold settleSink
  split
  · split <;> rfl
  · rfl

theorem resume_mayRead (count : Nat) (d : Direction) : (d.resume count).mayRead = d.mayRead := by
  unfold resume
  split
  · exact settleSink_mayRead _
  · exact settleSink_mayRead d

/-- Reading is given up by the rounds that find the end of the source, and by no other. -/
theorem after_mayRead (round : Round) (d : Direction) :
    (d.after round).mayRead = (d.mayRead && !round.endsSource) := by
  cases round with
  | start =>
      change d.start.mayRead = (d.mayRead && true)
      rw [Bool.and_true]
      unfold start
      split <;> rfl
  | read received =>
      change (d.read received).mayRead = (d.mayRead && !received.ending.isClosed)
      unfold read
      dsimp only
      by_cases closed : received.ending.isClosed = true
      · simp only [closed, ↓reduceIte, Bool.not_true, Bool.and_false]
        split <;> rfl
      · simp only [closed, Bool.false_eq_true, ↓reduceIte, Bool.not_false, Bool.and_true]
        split <;> exact store_mayRead _ d
  | write sent =>
      change (d.write sent).mayRead = (d.mayRead && true)
      rw [Bool.and_true]
      unfold write
      split
      · rfl
      · exact resume_mayRead _ _
      · exact resume_mayRead _ _

theorem start_delivered (d : Direction) : d.start.delivered = d.delivered := by
  unfold start
  split <;> rfl

theorem settleSink_taken (d : Direction) : d.settleSink.taken = d.taken := by
  unfold settleSink
  split
  · split <;> rfl
  · rfl

theorem after_taken (round : Round) (d : Direction) :
    (d.after round).taken =
      d.taken ++ (round.received?.toList.flatMap Received.bytes) := by
  cases round with
  | start =>
      change d.start.taken = d.taken ++ []
      rw [List.append_nil]
      unfold start
      split <;> rfl
  | read received =>
      have stored : (d.store received.bytes).taken = d.taken ++ received.bytes := by
        unfold store
        dsimp only
        split <;> rfl
      simp only [Round.received?, Option.toList_some, List.flatMap_singleton]
      change (d.read received).taken = d.taken ++ received.bytes
      unfold read
      dsimp only
      split
      · split <;> exact stored
      · split <;> exact stored
  | write sent =>
      change (d.write sent).taken = d.taken ++ []
      rw [List.append_nil]
      unfold write resume
      split
      · rfl
      · split <;> exact settleSink_taken _
      · split <;> exact settleSink_taken _

end Direction

namespace Scene

variable (way : Side)

/-- What every round that fits keeps of a direction, every move of a relay keeps. -/
theorem move_keeps (kept : Direction → Prop)
    (step : ∀ {round d}, kept d → round.Fits d → kept (d.after round)) (move : Move) (s : Scene)
    (before : kept (s.direction way)) : kept ((s.move move).1.direction way) := by
  rw [direction_move]
  cases happens : s.round? way move with
  | none => exact before
  | some round => exact step before (round_fits happens)

theorem run_keeps (kept : Direction → Prop)
    (step : ∀ {round d}, kept d → round.Fits d → kept (d.after round)) (moves : List Move)
    (s : Scene) (before : kept (s.direction way)) : kept ((s.run moves).direction way) := by
  induction moves generalizing s with
  | nil => exact before
  | cons move rest ih => exact ih (s.move move).1 (move_keeps way kept step move s before)

theorem run_consistent (moves : List Move) (s : Scene)
    (consistent : (s.direction way).Consistent) : ((s.run moves).direction way).Consistent :=
  run_keeps way _ Direction.after_consistent moves s consistent

theorem move_leads (move : Move) (s : Scene) (consistent : (s.direction way).Consistent) :
    (s.direction way).Leads ((s.move move).1.direction way) := by
  rw [direction_move]
  cases happens : s.round? way move with
  | none => exact Direction.Leads.refl _
  | some round => exact Direction.after_leads consistent (round_fits happens)

theorem run_leads (moves : List Move) (s : Scene) (consistent : (s.direction way).Consistent) :
    (s.direction way).Leads ((s.run moves).direction way) := by
  induction moves generalizing s with
  | nil => exact Direction.Leads.refl _
  | cons move rest ih =>
      exact (move_leads way move s consistent).trans
        (ih (s.move move).1 (move_keeps way _ Direction.after_consistent move s consistent))

theorem isDone_iff (s : Scene) (consistent : ∀ way, (s.direction way).Consistent) :
    s.relay.isDone = true ↔
      ∀ way, (s.direction way).mayRead = false ∧ (s.direction way).buffer.held = [] := by
  have finished : s.relay.isDone = true ↔
      ∀ way, (s.direction way).mayRead = false ∧ (s.direction way).waitsRead = false ∧
        (s.direction way).mayWrite = false ∧ (s.direction way).waitsWrite = false := by
    constructor
    · intro done way
      cases way <;> simp_all [isDone, Interest.isEmpty, direction, context, Pair.get, Side.other]
    · intro closed
      have client := closed .client
      have server := closed .server
      simp_all [isDone, Interest.isEmpty, direction, context, Pair.get, Side.other]
  rw [finished]
  constructor
  · intro closed way
    exact ((consistent way).closed.mp (closed way).2.2.1)
  · intro drained way
    have writing := (consistent way).closed.mpr (drained way)
    refine ⟨(drained way).1, ?_, writing, ?_⟩
    · exact Bool.eq_false_iff.mpr fun waits =>
        Bool.eq_false_iff.mp (drained way).1 ((consistent way).source waits)
    · exact Bool.eq_false_iff.mpr fun waits =>
        Bool.eq_false_iff.mp writing ((consistent way).sink waits)

end Scene

end SocksProxy.Relay
