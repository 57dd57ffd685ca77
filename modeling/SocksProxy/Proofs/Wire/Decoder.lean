import SocksProxy.Wire.Decoder

/-!
What a decoder has read. Its place says which bytes have led there, so a complete message is known
by its bytes, however they came. A decoder that is run on one piece after the other, through an
empty buffer that each of them fits, comes to where it comes with all of them at once. A decoder
that follows another one byte by byte follows it through pieces as well.
-/

namespace SocksProxy.Wire

-- What there is to say about some bytes: they are not enough, they are a message, or one is wrong.
inductive News (α : Type) where
  | needMore
  | done (message : α)
  | failed (fault : Invalid)

namespace Decoder

variable {σ α : Type}

/-- What a run comes to, with what is asked for afterwards; nothing if the decoder owes it. -/
def news (d : Decoder σ α) (s : σ) : Progress → Option (News α)
  | .needMore => some .needMore
  | .done => (d.output s).map .done
  | .failed => (d.fault s).map .failed

def read (d : Decoder σ α) (s : σ) (input : Bytes) : Option (News α) × Bytes :=
  let result := d.run s input
  (d.news result.1 result.2.1, result.2.2)

/-- A decoder owes nothing: done it has a message, failed it has the byte that was wrong. -/
structure Conclusive (d : Decoder σ α) : Prop where
  output : ∀ s, d.progress s = .done → ∃ message, d.output s = some message
  fault : ∀ s, d.progress s = .failed → ∃ fault, d.fault s = some fault

theorem news_needMore {d : Decoder σ α} {s : σ} {progress : Progress} :
    d.news s progress = some .needMore ↔ progress = .needMore := by
  cases progress <;> simp [news]

theorem news_done {d : Decoder σ α} {s : σ} {progress : Progress} {message : α} :
    d.news s progress = some (.done message) ↔ progress = .done ∧ d.output s = some message := by
  cases progress <;> simp [news]

theorem news_failed {d : Decoder σ α} {s : σ} {progress : Progress} {fault : Invalid} :
    d.news s progress = some (.failed fault) ↔ progress = .failed ∧ d.fault s = some fault := by
  cases progress <;> simp [news]

theorem reason_of_fault {d : Decoder σ α} {s : σ} {fault : Invalid} (wrong : d.fault s = some fault) :
    d.reason s = fault.text := by
  rw [reason, wrong]

theorem run_of_more {d : Decoder σ α} {s : σ} {b : UInt8}
    (more : d.progress (d.feed s b) = .needMore) (rest : Bytes) :
    d.run s (b :: rest) = d.run (d.feed s b) rest := by
  simp only [run, more]

theorem run_of_news {d : Decoder σ α} {s : σ} {b : UInt8}
    (news : d.progress (d.feed s b) ≠ .needMore) (rest : Bytes) :
    d.run s (b :: rest) = (d.feed s b, d.progress (d.feed s b), rest) := by
  unfold run
  dsimp only
  split
  · rename_i more
    exact absurd more news
  · rfl

/-- A relation between places and the bytes that lead to them, kept by every byte that is fed. -/
def Tracks (d : Decoder σ α) (reads : σ → Bytes → Prop) : Prop :=
  ∀ {s read} (b : UInt8), d.progress s = .needMore → reads s read → reads (d.feed s b) (read ++ [b])

/-- A run takes bytes from the front of its input, stands where these lead, and reports it. -/
theorem run_tracks {d : Decoder σ α} {reads : σ → Bytes → Prop} (tracks : d.Tracks reads)
    (input : Bytes) {s : σ} {read : Bytes} (pending : d.progress s = .needMore)
    (before : reads s read) :
    ∃ taken, input = taken ++ (d.run s input).2.2 ∧ reads (d.run s input).1 (read ++ taken) ∧
      (d.run s input).2.1 = d.progress (d.run s input).1 := by
  induction input generalizing s read with
  | nil => exact ⟨[], rfl, by simpa [run] using before, pending.symm⟩
  | cons b rest ih =>
      have next := tracks b pending before
      by_cases more : d.progress (d.feed s b) = .needMore
      · obtain ⟨taken, split, after, report⟩ := ih more next
        rw [run_of_more more]
        refine ⟨b :: taken, congrArg (b :: ·) split, ?_, report⟩
        rw [List.append_assoc] at after
        exact after
      · rw [run_of_news more]
        exact ⟨[b], rfl, next, rfl⟩

theorem run_reports {d : Decoder σ α} (input : Bytes) {s : σ}
    (ended : (d.run s input).2.1 ≠ .needMore) :
    d.progress (d.run s input).1 = (d.run s input).2.1 := by
  induction input generalizing s with
  | nil => exact absurd rfl ended
  | cons b rest ih =>
      by_cases more : d.progress (d.feed s b) = .needMore
      · rw [run_of_more more] at ended ⊢
        exact ih ended
      · rw [run_of_news more]

theorem Conclusive.news_of_run {d : Decoder σ α} (conclusive : d.Conclusive) (s : σ)
    (input : Bytes) : ∃ news, d.news (d.run s input).1 (d.run s input).2.1 = some news := by
  cases outcome : (d.run s input).2.1 with
  | needMore => exact ⟨.needMore, rfl⟩
  | done =>
      have there := run_reports input (s := s) (d := d) (by simp [outcome])
      obtain ⟨message, given⟩ := conclusive.output _ (there.trans outcome)
      exact ⟨.done message, news_done.mpr ⟨rfl, given⟩⟩
  | failed =>
      have there := run_reports input (s := s) (d := d) (by simp [outcome])
      obtain ⟨fault, given⟩ := conclusive.fault _ (there.trans outcome)
      exact ⟨.failed fault, news_failed.mpr ⟨rfl, given⟩⟩

theorem run_split (d : Decoder σ α) (input : Bytes) (s : σ) :
    ∃ taken, input = taken ++ (d.run s input).2.2 := by
  induction input generalizing s with
  | nil => exact ⟨[], rfl⟩
  | cons b rest ih =>
      by_cases more : d.progress (d.feed s b) = .needMore
      · obtain ⟨taken, split⟩ := ih (d.feed s b)
        rw [run_of_more more]
        exact ⟨b :: taken, congrArg (b :: ·) split⟩
      · rw [run_of_news more]
        exact ⟨[b], rfl⟩

theorem runOn_held (d : Decoder σ α) (s : σ) (buffer : Buffer) :
    (d.runOn s buffer).2.2.held = (d.run s buffer.held).2.2 := by
  obtain ⟨taken, split⟩ := d.run_split buffer.held s
  have parts := congrArg List.length split
  rw [List.length_append] at parts
  have count : buffer.held.length - (d.run s buffer.held).2.2.length = taken.length := by omega
  change (buffer.consume _).held = _
  rw [Buffer.consume_held, count]
  calc buffer.held.drop taken.length
      = (taken ++ (d.run s buffer.held).2.2).drop taken.length := by rw [← split]
    _ = (d.run s buffer.held).2.2 := List.drop_left

theorem runOn_nothing {d : Decoder σ α} {s : σ} {buffer : Buffer} (nothing : buffer.held = []) :
    d.runOn s buffer = (s, .needMore, buffer) := by
  rw [runOn, nothing]
  exact congrArg (fun left => (s, Progress.needMore, left)) buffer.consume_zero

theorem run_drained {d : Decoder σ α} (input : Bytes) {s : σ}
    (pending : (d.run s input).2.1 = .needMore) : (d.run s input).2.2 = [] := by
  induction input generalizing s with
  | nil => rfl
  | cons b rest ih =>
      by_cases more : d.progress (d.feed s b) = .needMore
      · rw [run_of_more more] at pending ⊢
        exact ih pending
      · rw [run_of_news more] at pending
        exact absurd pending more

theorem runOn_drained {d : Decoder σ α} {s : σ} {buffer : Buffer}
    (pending : (d.runOn s buffer).2.1 = .needMore) : (d.runOn s buffer).2.2.held = [] := by
  rw [runOn_held]
  exact run_drained buffer.held pending

theorem runOn_tracks {d : Decoder σ α} {reads : σ → Bytes → Prop} (tracks : d.Tracks reads)
    (buffer : Buffer) {s : σ} {read : Bytes} (pending : d.progress s = .needMore)
    (before : reads s read) :
    ∃ taken, buffer.held = taken ++ (d.runOn s buffer).2.2.held ∧
      reads (d.runOn s buffer).1 (read ++ taken) ∧
      (d.runOn s buffer).2.1 = d.progress (d.runOn s buffer).1 := by
  obtain ⟨taken, split, after, report⟩ := run_tracks tracks buffer.held pending before
  rw [runOn_held]
  exact ⟨taken, split, after, report⟩

end Decoder

variable {σ τ α β : Type}

namespace Decoder

theorem more_or_news (d : Decoder σ α) (s : σ) (b : UInt8) :
    d.progress (d.feed s b) = .needMore ∨ d.progress (d.feed s b) ≠ .needMore :=
  Classical.em _

theorem run_progress (d : Decoder σ α) (s : σ) (input : Bytes)
    (pending : d.progress s = .needMore) : (d.run s input).2.1 = d.progress (d.run s input).1 := by
  induction input generalizing s with
  | nil => exact pending.symm
  | cons b rest ih =>
      rcases d.more_or_news s b with more | news
      · rw [run_of_more more]
        exact ih _ more
      · rw [run_of_news news]

/-- Places that stand for what has been gathered are gone through octet by octet, as long as
something is missing. -/
theorem run_gathering {d : Decoder σ α} {gathered : Bytes → σ} {length : Nat}
    (grows : ∀ {got : Bytes} (b : UInt8), got.length < length →
      d.feed (gathered got) b = gathered (got ++ [b]))
    (more : ∀ got, d.progress (gathered got) = .needMore) (octets rest : Bytes) {got : Bytes}
    (room : got.length + octets.length ≤ length) :
    d.run (gathered got) (octets ++ rest) = d.run (gathered (got ++ octets)) rest := by
  induction octets generalizing got with
  | nil => rw [List.nil_append, List.append_nil]
  | cons b others ih =>
      rw [List.length_cons] at room
      have next : d.feed (gathered got) b = gathered (got ++ [b]) := grows b (by omega)
      have shorter : (got ++ [b]).length + others.length ≤ length := by
        rw [List.length_append]
        change got.length + 1 + others.length ≤ length
        omega
      have onward : d.progress (d.feed (gathered got) b) = .needMore := by
        rw [next]
        exact more (got ++ [b])
      rw [List.cons_append, run_of_more onward, next, ih shorter, List.append_assoc,
        List.singleton_append]

theorem run_gathered {d : Decoder σ α} {gathered : Bytes → σ} {length : Nat}
    (grows : ∀ {got : Bytes} (b : UInt8), got.length < length →
      d.feed (gathered got) b = gathered (got ++ [b]))
    (more : ∀ got, d.progress (gathered got) = .needMore) {octets : Bytes}
    (fits : octets.length ≤ length) (rest : Bytes) :
    d.run (gathered []) (octets ++ rest) = d.run (gathered octets) rest := by
  have room : ([] : Bytes).length + octets.length ≤ length := by simpa using fits
  exact run_gathering grows more octets rest room

theorem run_append_of_more {d : Decoder σ α} (first : Bytes) {s : σ}
    (more : (d.run s first).2.1 = .needMore) (second : Bytes) :
    d.run s (first ++ second) = d.run (d.run s first).1 second := by
  induction first generalizing s with
  | nil => rfl
  | cons b rest ih =>
      rcases d.more_or_news s b with onward | news
      · rw [run_of_more onward] at more ⊢
        rw [List.cons_append, run_of_more onward]
        exact ih more
      · rw [run_of_news news] at more
        exact absurd more news

theorem run_append_of_news {d : Decoder σ α} (first : Bytes) {s : σ}
    (news : (d.run s first).2.1 ≠ .needMore) (second : Bytes) :
    d.run s (first ++ second) =
      ((d.run s first).1, (d.run s first).2.1, (d.run s first).2.2 ++ second) := by
  induction first generalizing s with
  | nil => exact absurd rfl news
  | cons b rest ih =>
      rcases d.more_or_news s b with more | last
      · rw [run_of_more more] at news ⊢
        rw [List.cons_append, run_of_more more]
        exact ih news
      · rw [List.cons_append, run_of_news last, run_of_news last]

theorem more_of_proper {d : Decoder σ α} {s : σ} {first second : Bytes}
    (whole : (d.run s (first ++ second)).2.2 = []) (proper : second ≠ []) :
    (d.run s first).2.1 = .needMore := by
  by_cases more : (d.run s first).2.1 = .needMore
  · exact more
  · rw [run_append_of_news first more] at whole
    exact absurd (List.append_eq_nil_iff.mp whole).2 proper

/-- Where a decoder has come with pieces of input. -/
structure Course (σ : Type) where
  state : σ
  progress : Progress
  buffer : Buffer
  -- The pieces that were not put into the buffer any more.
  left : List Bytes

/-- What the decoder has not taken: it waits in the buffer, or it was never put there. -/
def Course.untouched (course : Course σ) : Bytes := course.buffer.held ++ course.left.flatten

/-- Put one piece after the other into a buffer and run on it, until there is news. -/
def runPieces (d : Decoder σ α) : σ → Buffer → List Bytes → Course σ
  | s, buffer, [] => ⟨s, .needMore, buffer, []⟩
  | s, buffer, piece :: left =>
      let result := d.runOn s (buffer.put piece)
      match result.2.1 with
      | .needMore => runPieces d result.1 result.2.2 left
      | news => ⟨result.1, news, result.2.2, left⟩

theorem runPieces_of_more {d : Decoder σ α} {s : σ} {buffer : Buffer} {piece : Bytes}
    (more : (d.runOn s (buffer.put piece)).2.1 = .needMore) (left : List Bytes) :
    d.runPieces s buffer (piece :: left) =
      d.runPieces (d.runOn s (buffer.put piece)).1 (d.runOn s (buffer.put piece)).2.2 left := by
  simp only [runPieces, more]

theorem runPieces_of_news {d : Decoder σ α} {s : σ} {buffer : Buffer} {piece : Bytes}
    (news : (d.runOn s (buffer.put piece)).2.1 ≠ .needMore) (left : List Bytes) :
    d.runPieces s buffer (piece :: left) =
      ⟨(d.runOn s (buffer.put piece)).1, (d.runOn s (buffer.put piece)).2.1,
        (d.runOn s (buffer.put piece)).2.2, left⟩ := by
  unfold runPieces
  dsimp only
  split
  · rename_i more
    exact absurd more news
  · rfl

theorem runOn_capacity (d : Decoder σ α) (s : σ) (buffer : Buffer) :
    (d.runOn s buffer).2.2.capacity = buffer.capacity := Buffer.consume_capacity _ _

theorem held_of_put {buffer : Buffer} (nothing : buffer.held = []) {piece : Bytes}
    (fits : piece.length ≤ buffer.capacity) : (buffer.put piece).held = piece := by
  have room : piece.length ≤ buffer.free.length := by
    rw [← Buffer.room_of_empty nothing] at fits
    exact fits
  rw [Buffer.put_held, nothing, List.take_of_length_le room, List.nil_append]

/-- Pieces that fit the buffer are as good as all of the input at once. -/
theorem runPieces_flatten (d : Decoder σ α) (s : σ) (pieces : List Bytes) {buffer : Buffer}
    (nothing : buffer.held = []) (fit : ∀ piece ∈ pieces, piece.length ≤ buffer.capacity) :
    let course := d.runPieces s buffer pieces
    d.run s pieces.flatten = (course.state, course.progress, course.untouched) := by
  induction pieces generalizing s buffer with
  | nil =>
      change (s, Progress.needMore, []) = (s, Progress.needMore, buffer.held ++ [])
      rw [nothing]
      rfl
  | cons piece left ih =>
      have held : (buffer.put piece).held = piece :=
        held_of_put nothing (fit piece List.mem_cons_self)
      have here : (d.runOn s (buffer.put piece)).2.1 = (d.run s piece).2.1 := by
        change (d.run s (buffer.put piece).held).2.1 = _
        rw [held]
      have there : (d.runOn s (buffer.put piece)).1 = (d.run s piece).1 := by
        change (d.run s (buffer.put piece).held).1 = _
        rw [held]
      rw [List.flatten_cons]
      by_cases more : (d.runOn s (buffer.put piece)).2.1 = .needMore
      · have drained : (d.runOn s (buffer.put piece)).2.2.held = [] := runOn_drained more
        have fitting : ∀ p ∈ left, p.length ≤ (d.runOn s (buffer.put piece)).2.2.capacity := by
          intro p among
          rw [runOn_capacity, Buffer.put_capacity]
          exact fit p (List.mem_cons_of_mem piece among)
        rw [runPieces_of_more more, run_append_of_more piece (here ▸ more), ← there]
        exact ih _ drained fitting
      · rw [runPieces_of_news more, run_append_of_news piece (here ▸ more)]
        change _ = (_, _, (d.runOn s (buffer.put piece)).2.2.held ++ left.flatten)
        rw [runOn_held, held, here, there]

theorem runPieces_drained (d : Decoder σ α) (s : σ) (pieces : List Bytes) {buffer : Buffer}
    (nothing : buffer.held = [])
    (pending : (d.runPieces s buffer pieces).progress = .needMore) :
    (d.runPieces s buffer pieces).buffer.held = [] ∧ (d.runPieces s buffer pieces).left = [] := by
  induction pieces generalizing s buffer with
  | nil => exact ⟨nothing, rfl⟩
  | cons piece left ih =>
      by_cases more : (d.runOn s (buffer.put piece)).2.1 = .needMore
      · rw [runPieces_of_more more] at pending ⊢
        exact ih _ (runOn_drained more) pending
      · rw [runPieces_of_news more] at pending
        exact absurd pending more

/-- Whatever the first decoder takes, the second one takes as well, and it has the same news. -/
structure Shadows (d : Decoder σ α) (e : Decoder τ β) (f : α → β) (alike : σ → τ → Prop) : Prop where
  feed : ∀ {s t} (b : UInt8), d.progress s = .needMore → alike s t → alike (d.feed s b) (e.feed t b)
  news : ∀ {s t}, alike s t → e.progress t = d.progress s
  output : ∀ {s t}, alike s t → e.output t = (d.output s).map f
  fault : ∀ {s t}, alike s t → e.fault t = d.fault s

namespace Shadows

variable {d : Decoder σ α} {e : Decoder τ β} {f : α → β} {alike : σ → τ → Prop}

theorem run (shadows : d.Shadows e f alike) (input : Bytes) {s : σ} {t : τ}
    (pending : d.progress s = .needMore) (before : alike s t) :
    alike (d.run s input).1 (e.run t input).1 ∧ (e.run t input).2 = (d.run s input).2 := by
  induction input generalizing s t with
  | nil => exact ⟨before, rfl⟩
  | cons b rest ih =>
      have after := shadows.feed b pending before
      have same := shadows.news after
      rcases d.more_or_news s b with more | news
      · rw [run_of_more more, run_of_more (same.trans more)]
        exact ih more after
      · rw [run_of_news news, run_of_news (same ▸ news), same]
        exact ⟨after, rfl⟩

theorem runOn (shadows : d.Shadows e f alike) (buffer : Buffer) {s : σ} {t : τ}
    (pending : d.progress s = .needMore) (before : alike s t) :
    alike (d.runOn s buffer).1 (e.runOn t buffer).1 ∧
      (e.runOn t buffer).2 = (d.runOn s buffer).2 := by
  obtain ⟨after, same⟩ := shadows.run buffer.held pending before
  refine ⟨after, ?_⟩
  rw [Decoder.runOn, Decoder.runOn, same]

theorem runPieces (shadows : d.Shadows e f alike) (buffer : Buffer) (pieces : List Bytes) {s : σ}
    {t : τ} (pending : d.progress s = .needMore) (before : alike s t) :
    let course := d.runPieces s buffer pieces
    let other := e.runPieces t buffer pieces
    alike course.state other.state ∧ other.progress = course.progress ∧
      other.buffer = course.buffer ∧ other.left = course.left := by
  induction pieces generalizing s t buffer with
  | nil => exact ⟨before, rfl, rfl, rfl⟩
  | cons piece left ih =>
      obtain ⟨after, same⟩ := shadows.runOn (buffer.put piece) pending before
      have news : (e.runOn t (buffer.put piece)).2.1 =
          (d.runOn s (buffer.put piece)).2.1 := congrArg Prod.fst same
      have buffers : (e.runOn t (buffer.put piece)).2.2 =
          (d.runOn s (buffer.put piece)).2.2 := congrArg Prod.snd same
      by_cases more : (d.runOn s (buffer.put piece)).2.1 = .needMore
      · have onward : d.progress (d.runOn s (buffer.put piece)).1 = .needMore :=
          (d.run_progress s (buffer.put piece).held pending).symm.trans more
        rw [runPieces_of_more more, runPieces_of_more (news.trans more), buffers]
        exact ih _ onward after
      · rw [runPieces_of_news more, runPieces_of_news (news ▸ more)]
        exact ⟨after, news, buffers, rfl⟩

end Shadows

end Decoder

end SocksProxy.Wire
