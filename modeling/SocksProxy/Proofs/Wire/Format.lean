import SocksProxy.Proofs.Wire.Decoder

/-!
Formats, and decoders of a format. A string either begins with a whole message, or it goes wrong at
a byte that no message has in its place, or it is itself the beginning of a message. A decoder of
the format finds out which, whatever the pieces in which the string comes, and takes no byte too
many.
-/

namespace SocksProxy.Wire

variable {σ α β : Type}

structure Format (α : Type) where
  -- From the first byte to the last, this is a message.
  sentence : Bytes → α → Prop
  -- This could begin a message, but for its last byte.
  mistake : Bytes → Invalid → Prop

/-- What there is to say about a string by its format, and what is left of the string then. -/
inductive Format.Takes (format : Format α) (s : Bytes) : News α → Bytes → Prop
  | whole {m rest : Bytes} {message : α} (parts : s = m ++ rest)
      (sentence : format.sentence m message) : Takes format s (.done message) rest
  | wrong {m rest : Bytes} {fault : Invalid} (parts : s = m ++ rest)
      (mistake : format.mistake m fault) : Takes format s (.failed fault) rest
  | short {more : Bytes} {message : α} (missing : more ≠ [])
      (sentence : format.sentence (s ++ more) message) : Takes format s .needMore []

theorem Format.Takes.of_part {format : Format α} {s more m : Bytes} {message : α}
    (parts : m = s ++ more) (missing : more ≠ []) (sentence : format.sentence m message) :
    format.Takes s .needMore [] := by
  subst parts
  exact .short missing sentence

inductive WrongStart (expected : UInt8) (field : Field) : Bytes → Invalid → Prop
  | first {b : UInt8} (other : b ≠ expected) : WrongStart expected field [b] ⟨field, b⟩

theorem counted_cases (length : UInt8) (s : Bytes) :
    (∃ octets rest, octets.length = length.toNat ∧ s = octets ++ rest) ∨
      ∃ more, more ≠ [] ∧ (s ++ more).length = length.toNat := by
  by_cases enough : length.toNat ≤ s.length
  · refine .inl ⟨s.take length.toNat, s.drop length.toNat, ?_, (List.take_append_drop _ _).symm⟩
    rw [List.length_take, Nat.min_eq_left enough]
  · refine .inr ⟨List.replicate (length.toNat - s.length) 0, ?_, ?_⟩
    · intro nothing
      have none := congrArg List.length nothing
      rw [List.length_replicate, List.length_nil] at none
      omega
    · rw [List.length_append, List.length_replicate]
      omega

namespace Decoder

/-- A decoder reads messages to their end, stops at mistakes, and there is nothing else to meet. -/
structure Decodes (d : Decoder σ α) (start : σ) (format : Format α) : Prop where
  sentence : ∀ {m : Bytes} {message : α} (rest : Bytes), format.sentence m message →
    d.read start (m ++ rest) = (some (.done message), rest)
  mistake : ∀ {m : Bytes} {fault : Invalid} (rest : Bytes), format.mistake m fault →
    d.read start (m ++ rest) = (some (.failed fault), rest)
  total : ∀ s, ∃ news rest, format.Takes s news rest

variable {d : Decoder σ α} {start : σ} {format : Format α} {s : Bytes}

theorem Decodes.read_of_takes (decodes : d.Decodes start format) {news : News α} {rest : Bytes}
    (takes : format.Takes s news rest) : d.read start s = (some news, rest) := by
  cases takes with
  | whole parts sentence =>
      rw [parts]
      exact decodes.sentence rest sentence
  | wrong parts mistake =>
      rw [parts]
      exact decodes.mistake rest mistake
  | @short more message missing sentence =>
      have read := decodes.sentence [] sentence
      rw [List.append_nil] at read
      have whole : (d.run start (s ++ more)).2.2 = [] := congrArg Prod.snd read
      have pending := more_of_proper whole missing
      exact Prod.ext (news_needMore.mpr pending) (run_drained s pending)

/-- A run comes to what the format says, and the format says nothing else. -/
theorem Decodes.takes_iff (decodes : d.Decodes start format) {news : News α} {rest : Bytes} :
    format.Takes s news rest ↔ d.read start s = (some news, rest) := by
  constructor
  · exact decodes.read_of_takes
  · intro read
    obtain ⟨other, left, takes⟩ := decodes.total s
    cases read.symm.trans (decodes.read_of_takes takes)
    exact takes

/-- A course over pieces of a string that has come to what the format says about the string, stands
where it says so, and has drained its buffer if it waits for more. -/
structure Recognises (d : Decoder σ α) (format : Format α) (s : Bytes) (course : Course σ) :
    Prop where
  takes : ∀ news rest, format.Takes s news rest ↔
    d.news course.state course.progress = some news ∧ course.untouched = rest
  state : d.progress course.state = course.progress
  waits : course.progress = .needMore → course.buffer.held = [] ∧ course.left = []

theorem Decodes.recognises (decodes : d.Decodes start format)
    (pending : d.progress start = .needMore) (pieces : List Bytes) {b : Buffer}
    (nothing : b.held = []) (fit : ∀ piece ∈ pieces, piece.length ≤ b.capacity) :
    d.Recognises format pieces.flatten (d.runPieces start b pieces) := by
  have together := d.runPieces_flatten start pieces nothing fit
  have report := d.run_progress start pieces.flatten pending
  rw [together] at report
  refine ⟨fun news rest => ?_, report.symm, d.runPieces_drained start pieces nothing⟩
  rw [decodes.takes_iff, read, together, Prod.mk.injEq]

theorem read_failed {s : σ} {b : UInt8} {fault : Invalid}
    (failed : d.progress (d.feed s b) = .failed) (wrong : d.fault (d.feed s b) = some fault)
    (rest : Bytes) : d.read s (b :: rest) = (some (.failed fault), rest) := by
  have news : d.progress (d.feed s b) ≠ .needMore := by simp [failed]
  rw [read, run_of_news news]
  exact Prod.ext (news_failed.mpr ⟨failed, wrong⟩) rfl

def resume (d : Decoder σ α) (s : σ) (rest : Bytes) : σ × Progress × Bytes :=
  match d.progress s with
  | .needMore => d.run s rest
  | news => (s, news, rest)

theorem run_cons (d : Decoder σ α) (s : σ) (b : UInt8) (rest : Bytes) :
    d.run s (b :: rest) = d.resume (d.feed s b) rest := rfl

theorem resume_of_more {s : σ} (more : d.progress s = .needMore) (rest : Bytes) :
    d.resume s rest = d.run s rest := by
  simp only [resume, more]

variable {field : Nat → β → σ} {gather : β → UInt8 → β} {behind : β → σ}

/-- A field that is not empty is gathered byte by byte, and the last one leads on. -/
theorem run_gather
    (next : ∀ left got b, d.feed (field (left + 2) got) b = field (left + 1) (gather got b))
    (last : ∀ got b, d.feed (field 1 got) b = behind (gather got b))
    (more : ∀ left got, d.progress (field left got) = .needMore) (first : UInt8) (others : Bytes)
    (got : β) (rest : Bytes) :
    d.run (field (others.length + 1) got) (first :: others ++ rest) =
      d.resume (behind ((first :: others).foldl gather got)) rest := by
  induction others generalizing first got with
  | nil =>
      rw [List.cons_append, run_cons, List.length_nil, last]
      rfl
  | cons second others ih =>
      rw [List.cons_append, run_cons, List.length_cons, next, resume_of_more (more _ _)]
      exact ih second (gather got first)

theorem run_counted {before : σ} {fresh : β} (empty : d.feed before 0 = behind fresh)
    (filled : ∀ length, length ≠ 0 → d.feed before length = field length.toNat fresh)
    (next : ∀ left got b, d.feed (field (left + 2) got) b = field (left + 1) (gather got b))
    (last : ∀ got b, d.feed (field 1 got) b = behind (gather got b))
    (more : ∀ left got, d.progress (field left got) = .needMore) {length : UInt8} {octets : Bytes}
    (whole : octets.length = length.toNat) (rest : Bytes) :
    d.run before (length :: (octets ++ rest)) =
      d.resume (behind (octets.foldl gather fresh)) rest := by
  rw [run_cons]
  rcases octets with _ | ⟨first, others⟩
  · have none : length = 0 := UInt8.toNat_inj.mp whole.symm
    rw [none, empty]
    rfl
  · have some : length ≠ 0 := by
      rintro rfl
      cases whole
    rw [filled length some, ← whole, List.length_cons, resume_of_more (more _ _),
      run_gather next last more]

end Decoder

end SocksProxy.Wire
