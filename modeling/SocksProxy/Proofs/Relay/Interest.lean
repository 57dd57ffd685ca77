import SocksProxy.Proofs.Relay.Flow

/-!
What a relay waits for. A side waits to write exactly while there is something to write, and gives
up reading for a time only while its buffer is full. So a relay that is not done always waits for
something that lets it go on.
-/

namespace SocksProxy

namespace Socket

def Readable (s : Socket) : Prop := s.inbox ≠ [] ∨ s.tail ≠ .more

def Writable (s : Socket) : Prop := s.space ≠ some 0 ∨ s.broken = true

theorem receive_progress {room : Nat} {s : Socket} (some : 0 < room) (ready : s.Readable) :
    (s.receive room).bytes ≠ [] ∨ (s.receive room).ending.isClosed = true := by
  by_cases nothing : s.inbox = []
  · rcases ready with news | ending
    · exact absurd nothing news
    · right
      have short : ¬ room ≤ s.inbox.length := by
        rw [nothing, List.length_nil]
        omega
      rw [receive, if_neg short]
      cases tail : s.tail with
      | more => exact absurd tail ending
      | finished => simp [atEnd, ReadEnd.isClosed]
      | reset => simp [atEnd, ReadEnd.isClosed]
  · left
    rw [receive_bytes]
    intro none
    rcases List.take_eq_nil_iff.mp none with zero | empty
    · omega
    · exact nothing empty

theorem transmit_progress {message : Bytes} {s : Socket} (something : message ≠ [])
    (ready : s.Writable) :
    0 < (s.transmit message).count ∨ ∃ cause, (s.transmit message).ending = .failed cause := by
  have long : 0 < message.length := List.length_pos_iff.mpr something
  unfold transmit
  dsimp only
  by_cases all : message.length ≤ s.capacityFor message.length
  · rw [if_pos all]
    exact Or.inl (Nat.lt_of_lt_of_le long all)
  · rw [if_neg all]
    by_cases broken : s.broken = true
    · rw [if_pos broken]
      exact Or.inr ⟨_, rfl⟩
    · rw [if_neg broken]
      left
      cases space : s.space with
      | none => simp [capacityFor, space] at all
      | some left =>
          rcases ready with room | fault
          · have positive : left ≠ 0 := by
              intro zero
              exact room (by rw [space, zero])
            simp only [capacityFor, space]
            omega
          · exact absurd fault broken

end Socket

namespace Relay

namespace Direction

/-- The sink waits exactly while something is held, and an open source that does not wait has filled
the buffer. -/
structure Attentive (d : Direction) : Prop where
  consistent : d.Consistent
  sink : d.waitsWrite = true ↔ d.buffer.held ≠ []
  source : d.mayRead = true → d.waitsRead = false → d.buffer.free = []

theorem start_attentive {d : Direction} (consistent : d.Consistent)
    (idle : d.waitsWrite = true → d.buffer.held ≠ []) : d.start.Attentive := by
  have waits : d.start.mayRead = true → d.start.waitsRead = true := by
    intro may
    unfold start armSource armSink at *
    split at may <;> rename_i holds <;> simp_all
  refine ⟨start_consistent consistent, ?_, ?_⟩
  · unfold start
    by_cases holds : d.buffer.canRead = true
    · have waiting : d.buffer.held ≠ [] := by simpa [Buffer.canRead] using holds
      have writing := consistent.mayWrite_of_held waiting
      simp [holds, armSink, armSource, waiting, writing]
    · have nothing : d.buffer.held = [] := by simpa [Buffer.canRead] using holds
      have still : d.waitsWrite = false := by
        cases waits : d.waitsWrite with
        | false => rfl
        | true => exact absurd nothing (idle waits)
      simp [holds, armSource, nothing, still]
  · intro may still
    rw [waits may] at still
    cases still

theorem store_sink {bytes : Bytes} {d : Direction} (attentive : d.Attentive)
    (may : d.mayRead = true) (fits : bytes.length ≤ d.buffer.room) :
    (d.store bytes).waitsWrite = true ↔ (d.store bytes).buffer.held ≠ [] := by
  have whole : bytes.take d.buffer.free.length = bytes := List.take_of_length_le fits
  have writing := attentive.consistent.mayWrite may
  rw [store_buffer, Buffer.put_held, whole]
  unfold store
  by_cases nothing : bytes = []
  · subst nothing
    simpa using attentive.sink
  · simp [nothing, armSink, writing]

theorem read_attentive {received : Received} {d : Direction} (attentive : d.Attentive)
    (fits : (Round.read received).Fits d) : (d.read received).Attentive := by
  have stored := store_sink attentive fits.1 fits.2
  refine ⟨read_consistent attentive.consistent fits, ?_, ?_⟩
  · unfold read
    dsimp only
    split
    · split
      · rename_i drained
        have nothing : (d.store received.bytes).buffer.held = [] := by
          simpa [Buffer.isEmpty] using drained
        simp [endSink, endSource, nothing]
      · exact stored
    · split
      · exact stored
      · exact stored
  · unfold read
    dsimp only
    split
    · intro may
      split at may <;> cases may
    · split
      · intro may still
        have armed : ((d.store received.bytes).waitsRead ||
            (d.store received.bytes).mayRead) = true := by
          rw [show (d.store received.bytes).mayRead = true from may, Bool.or_true]
        exact absurd armed (by rw [show (_ || _) = false from still]; simp)
      · rename_i full
        intro _ _
        simpa [Buffer.canWrite] using full

theorem settleSink_sink {d : Direction} (writing : d.mayWrite = true) :
    d.settleSink.waitsWrite = true ↔ d.settleSink.buffer.held ≠ [] := by
  unfold settleSink
  split
  · rename_i drained
    have nothing : d.buffer.held = [] := by simpa [Buffer.isEmpty] using drained
    split <;> simp [endSink, nothing]
  · rename_i waiting
    have held : d.buffer.held ≠ [] := by simpa [Buffer.isEmpty] using waiting
    simp [armSink, held, writing]

theorem settleSink_source (d : Direction) :
    d.settleSink.waitsRead = d.waitsRead ∧ d.settleSink.buffer = d.buffer := by
  unfold settleSink
  split
  · split <;> exact ⟨rfl, rfl⟩
  · exact ⟨rfl, rfl⟩

/-- Whoever has written something lets the source go on; whoever has not has changed nothing. -/
theorem resume_attentive {count : Nat} {d : Direction} (attentive : d.Attentive)
    (consistent : ((d.pass count).resume count).Consistent) (writing : d.mayWrite = true) :
    ((d.pass count).resume count).Attentive := by
  refine ⟨consistent, ?_, ?_⟩
  · unfold resume
    split
    · exact settleSink_sink writing
    · exact settleSink_sink writing
  · rw [resume_mayRead]
    intro may
    unfold resume
    by_cases some : 0 < count
    · rw [if_pos some, (settleSink_source _).1]
      intro still
      have open' : d.mayRead = true := may
      simp [armSource, pass, open'] at still
    · have zero : count = 0 := by omega
      rw [if_neg some, (settleSink_source _).1, (settleSink_source _).2, zero]
      intro still
      simpa [pass, Buffer.consume_zero] using attentive.source may still

theorem write_attentive {sent : Sent} {d : Direction} (attentive : d.Attentive)
    (fits : (Round.write sent).Fits d) : (d.write sent).Attentive := by
  have consistent := write_consistent attentive.consistent fits
  obtain ⟨writing, most, drained⟩ := fits
  cases ending : sent.ending with
  | failed cause =>
      -- What is left behind keeps the sink waiting, and gives no room back.
      have left : d.buffer.held.drop sent.count ≠ [] := by
        have short : sent.count ≠ d.buffer.held.length := by
          intro all
          have finished := drained.mpr all
          rw [ending] at finished
          cases finished
        rw [Ne, List.drop_eq_nil_iff]
        omega
      have waiting : d.buffer.held ≠ [] := by
        intro nothing
        rw [nothing, List.drop_nil] at left
        exact left rfl
      rw [write, ending] at consistent ⊢
      refine ⟨consistent, ?_, ?_⟩
      · simpa [pass, left] using attentive.sink.mpr waiting
      · intro may still
        exact (Buffer.consume_free left).trans (attentive.source may still)
  | drained =>
      rw [write, ending] at consistent ⊢
      exact resume_attentive attentive consistent writing
  | blocked =>
      rw [write, ending] at consistent ⊢
      exact resume_attentive attentive consistent writing

theorem after_attentive {round : Round} {d : Direction} (attentive : d.Attentive)
    (fits : round.Fits d) : (d.after round).Attentive := by
  cases round with
  | start => exact start_attentive attentive.consistent attentive.sink.mp
  | read received => exact read_attentive attentive fits
  | write sent => exact write_attentive attentive fits

theorem write_delivered (sent : Sent) (d : Direction) :
    (d.write sent).delivered = d.delivered ++ d.buffer.held.take sent.count := by
  have settled : ∀ d : Direction, d.settleSink.delivered = d.delivered := by
    intro d
    unfold settleSink
    split
    · split <;> rfl
    · rfl
  unfold write resume
  split
  · rfl
  · split <;> exact settled _
  · split <;> exact settled _

theorem resume_buffer (count : Nat) (d : Direction) : (d.resume count).buffer = d.buffer := by
  unfold resume
  split
  · exact (settleSink_source _).2
  · exact (settleSink_source _).2

theorem after_capacity (round : Round) (d : Direction) :
    (d.after round).buffer.capacity = d.buffer.capacity := by
  cases round with
  | start =>
      change d.start.buffer.capacity = _
      unfold start
      split <;> rfl
  | read received =>
      have stored : (d.store received.bytes).buffer.capacity = d.buffer.capacity := by
        rw [store_buffer, Buffer.put_capacity]
      change (d.read received).buffer.capacity = _
      unfold read
      dsimp only
      split
      · split <;> exact stored
      · split <;> exact stored
  | write sent =>
      have passed : (d.pass sent.count).buffer.capacity = d.buffer.capacity :=
        Buffer.consume_capacity _ _
      change (d.write sent).buffer.capacity = _
      unfold write
      split
      · exact passed
      · rw [resume_buffer, passed]
      · rw [resume_buffer, passed]

end Direction

end Relay

end SocksProxy
