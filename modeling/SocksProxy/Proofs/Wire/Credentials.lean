import SocksProxy.Proofs.Wire.Format

/-!
Names and passwords as bytes, and in pieces. Whatever the pieces are, the decoder takes exactly one
message, fails at once if the first byte is not the version, and waits in all other cases. The name
and the password are read as text when all of their octets are there, so no cut goes through a
character.
-/

namespace SocksProxy.Wire.Credentials

def encodeName (name : Bytes) : Bytes :=
  credentialsVersion :: UInt8.ofNat name.length :: name

def Reads : State → Bytes → Prop
  | .version, read => read = []
  | .nameLength, read => read = [credentialsVersion]
  | .name left got, read =>
      0 < left ∧ got.length + left ≤ 255 ∧
        read = credentialsVersion :: UInt8.ofNat (got.length + left) :: got
  | .passwordLength name, read => name.length ≤ 255 ∧ read = encodeName name
  | .password name left got, read =>
      name.length ≤ 255 ∧ 0 < left ∧ got.length + left ≤ 255 ∧
        read = encodeName name ++ UInt8.ofNat (got.length + left) :: got
  | .done name password, read =>
      name.length ≤ 255 ∧ password.length ≤ 255 ∧ read = encode name password
  | .failed _, _ => True

theorem reads_nameLength (b : UInt8) :
    Reads (feed .nameLength b) [credentialsVersion, b] := by
  have limit := b.toNat_lt
  by_cases none : b = 0
  · subst none
    exact ⟨by decide, rfl⟩
  · have some : b.toNat ≠ 0 := fun zero => none (UInt8.toNat_inj.mp zero)
    rw [feed, if_neg none]
    refine ⟨by omega, by simp; omega, ?_⟩
    simp

theorem reads_name {left : Nat} {got read : Bytes} (b : UInt8)
    (before : Reads (.name left got) read) : Reads (feed (.name left got) b) (read ++ [b]) := by
  obtain ⟨some, short, rfl⟩ := before
  rw [feed]
  split
  · have last : left = 1 := by omega
    subst last
    exact ⟨by simpa using short, by simp [encodeName]⟩
  · have count : got.length + left = (got ++ [b]).length + (left - 1) := by
      simp only [List.length_append, List.length_singleton]
      omega
    refine ⟨by omega, by simp; omega, ?_⟩
    simp only [List.cons_append, count]

theorem reads_passwordLength {name read : Bytes} (b : UInt8)
    (before : Reads (.passwordLength name) read) :
    Reads (feed (.passwordLength name) b) (read ++ [b]) := by
  obtain ⟨short, rfl⟩ := before
  have limit := b.toNat_lt
  by_cases none : b = 0
  · subst none
    exact ⟨short, by decide, rfl⟩
  · have some : b.toNat ≠ 0 := fun zero => none (UInt8.toNat_inj.mp zero)
    rw [feed, if_neg none]
    refine ⟨short, by omega, by simp; omega, ?_⟩
    simp

theorem reads_password {name got read : Bytes} {left : Nat} (b : UInt8)
    (before : Reads (.password name left got) read) :
    Reads (feed (.password name left got) b) (read ++ [b]) := by
  obtain ⟨fits, some, short, rfl⟩ := before
  rw [feed]
  split
  · have last : left = 1 := by omega
    subst last
    exact ⟨fits, by simpa using short, by simp [encodeName, encode]⟩
  · have count : got.length + left = (got ++ [b]).length + (left - 1) := by
      simp only [List.length_append, List.length_singleton]
      omega
    refine ⟨fits, by omega, by simp; omega, ?_⟩
    simp only [List.append_assoc, List.cons_append, count]

theorem tracks : decoder.Tracks Reads := by
  intro s read b pending before
  cases s with
  | version =>
      change read = [] at before
      change Reads (feed .version b) (read ++ [b])
      rw [before, feed]
      split
      · rename_i right
        rw [right]
        rfl
      · trivial
  | nameLength =>
      change read = [credentialsVersion] at before
      rw [before]
      exact reads_nameLength b
  | name left got => exact reads_name b before
  | passwordLength name => exact reads_passwordLength b before
  | password name left got => exact reads_password b before
  | done name password => cases pending
  | failed fault => cases pending

theorem done_of_output {s : State} {credentials : Wire.Credentials}
    (given : output s = some credentials) :
    ∃ name password, s = .done name password ∧ credentials = .ofBytes name password := by
  cases s <;> cases given
  exact ⟨_, _, rfl, rfl⟩

theorem conclusive : decoder.Conclusive where
  output s complete := by cases s <;> cases complete; exact ⟨_, rfl⟩
  fault s failed := by cases s <;> cases failed; exact ⟨_, rfl⟩

inductive Carries (name password : Bytes) : Bytes → Prop
  | message {nameLength passwordLength : UInt8} (named : name.length = nameLength.toNat)
      (secured : password.length = passwordLength.toNat) :
      Carries name password (1 :: nameLength :: (name ++ passwordLength :: password))

/-- Bytes that are a whole message, and the texts in it. -/
def Sentence (m : Bytes) (c : Credentials) : Prop :=
  ∃ name password, Carries name password m ∧ c = ⟨Text.lossy name, Text.lossy password⟩

def format : Format Credentials := ⟨Sentence, WrongStart 1 .credentialsVersion⟩

theorem sentence_of_carries {name password m : Bytes} (carries : Carries name password m) :
    Sentence m (ofBytes name password) := ⟨name, password, carries, rfl⟩

theorem takes_total (s : Bytes) : ∃ news rest, format.Takes s news rest := by
  have smallest : Carries [] [] [1, 0, 0] := .message rfl rfl
  rcases s with _ | ⟨b, s⟩
  · exact ⟨_, _, .short (List.cons_ne_nil 1 [0, 0]) (sentence_of_carries smallest)⟩
  by_cases other : b ≠ 1
  · exact ⟨_, s, .wrong rfl (.first other)⟩
  obtain rfl : b = 1 := Decidable.of_not_not other
  rcases s with _ | ⟨nameLength, s⟩
  · exact ⟨_, _, .short (List.cons_ne_nil 0 [0]) (sentence_of_carries smallest)⟩
  rcases counted_cases nameLength s with ⟨name, s, named, rfl⟩ | ⟨more, missing, named⟩
  · rcases s with _ | ⟨passwordLength, s⟩
    · have carries : Carries name [] (1 :: nameLength :: (name ++ [0])) := .message named rfl
      exact ⟨_, _, .of_part (by simp) (List.cons_ne_nil 0 []) (sentence_of_carries carries)⟩
    · rcases counted_cases passwordLength s with
        ⟨password, rest, secured, rfl⟩ | ⟨more, missing, secured⟩
      · exact ⟨_, rest, .whole (by simp) (sentence_of_carries (.message named secured))⟩
      · exact ⟨_, _, .of_part (by simp) missing (sentence_of_carries (.message named secured))⟩
  · have carries : Carries (s ++ more) [] (1 :: nameLength :: (s ++ more ++ [0])) :=
      .message named rfl
    have some : more ++ [0] ≠ [] := by simp
    exact ⟨_, _, .of_part (by simp) some (sentence_of_carries carries)⟩

theorem foldl_concat (octets got : Bytes) :
    octets.foldl (fun got b => got ++ [b]) got = got ++ octets := by
  rw [List.foldl_append_eq_append, ← List.flatMap_def, List.flatMap_singleton']

theorem run_name {nameLength : UInt8} {name : Bytes} (named : name.length = nameLength.toNat)
    (rest : Bytes) :
    decoder.run .nameLength (nameLength :: (name ++ rest)) =
      decoder.run (.passwordLength name) rest := by
  have empty : decoder.feed .nameLength 0 = .passwordLength [] := rfl
  have filled : ∀ length, length ≠ 0 → decoder.feed .nameLength length = .name length.toNat [] :=
    fun _ some => if_neg some
  have next : ∀ left got b, decoder.feed (.name (left + 2) got) b =
      .name (left + 1) (got ++ [b]) := fun _ _ _ => rfl
  have last : ∀ got b, decoder.feed (.name 1 got) b = .passwordLength (got ++ [b]) :=
    fun _ _ => rfl
  have more : ∀ left got, decoder.progress (.name left got) = .needMore := fun _ _ => rfl
  rw [Decoder.run_counted empty filled next last more named, foldl_concat, List.nil_append,
    Decoder.resume_of_more rfl]

theorem run_password (name : Bytes) {passwordLength : UInt8} {password : Bytes}
    (secured : password.length = passwordLength.toNat) (rest : Bytes) :
    decoder.run (.passwordLength name) (passwordLength :: (password ++ rest)) =
      (.done name password, .done, rest) := by
  have empty : decoder.feed (.passwordLength name) 0 = .done name [] := rfl
  have filled : ∀ length, length ≠ 0 →
      decoder.feed (.passwordLength name) length = .password name length.toNat [] :=
    fun _ some => if_neg some
  have next : ∀ left got b, decoder.feed (.password name (left + 2) got) b =
      .password name (left + 1) (got ++ [b]) := fun _ _ _ => rfl
  have last : ∀ got b, decoder.feed (.password name 1 got) b = .done name (got ++ [b]) :=
    fun _ _ => rfl
  have more : ∀ left got, decoder.progress (.password name left got) = .needMore := fun _ _ => rfl
  rw [Decoder.run_counted empty filled next last more secured, foldl_concat, List.nil_append]
  rfl

theorem run_carries {name password m : Bytes} (carries : Carries name password m) (rest : Bytes) :
    decoder.run .version (m ++ rest) =
      (.done name password, .done, rest) := by
  obtain ⟨named, secured⟩ := carries
  rename_i nameLength passwordLength
  calc decoder.run .version (1 :: nameLength :: (name ++ passwordLength :: password) ++ rest)
      = decoder.run .nameLength (nameLength :: (name ++ passwordLength :: (password ++ rest))) := by
        rw [List.cons_append, List.cons_append, List.append_assoc]
        rfl
    _ = decoder.run (.passwordLength name) (passwordLength :: (password ++ rest)) :=
        run_name named _
    _ = (.done name password, .done, rest) :=
        run_password name secured rest

theorem decodes : decoder.Decodes .version format where
  sentence := by
    intro m message rest sentence
    obtain ⟨name, password, carries, rfl⟩ := sentence
    rw [Decoder.read, run_carries carries]
    rfl
  mistake := by
    intro m fault rest mistake
    obtain ⟨other⟩ := mistake
    have wrong : decoder.feed .version _ = .failed _ := if_neg other
    exact Decoder.read_failed (congrArg progress wrong) (congrArg Credentials.fault wrong) rest
  total := takes_total

/-- However a string is cut into pieces that fit an empty buffer, the decoder takes the name and the
password in front of it and nothing behind, or fails at a first byte that is not the version, and
waits for more of what can still become a message. -/
theorem login_in_pieces (pieces : List Bytes) {b : Buffer} (nothing : b.held = [])
    (fit : ∀ piece ∈ pieces, piece.length ≤ b.capacity) :
    decoder.Recognises format pieces.flatten (decoder.runPieces .version b pieces) :=
  decodes.recognises rfl pieces nothing fit

/-- A letter of two octets is cut in the middle, and another message begins behind an empty
password. -/
theorem login_in_pieces_within_letter :
    let pieces : List Bytes := [[1, 2, 0xC3], [0xA9], [0, 1, 7]]
    let course := decoder.runPieces .version (Buffer.new 3) pieces
    (Buffer.new 3).held = [] ∧ (∀ piece ∈ pieces, piece.length ≤ (Buffer.new 3).capacity) ∧
      course.progress = .done ∧ decoder.output course.state = some ⟨"é", ""⟩ ∧
      course.untouched = [1, 7] := by
  intro pieces course
  have nothing : (Buffer.new 3).held = [] := rfl
  have fit : ∀ piece ∈ pieces, piece.length ≤ (Buffer.new 3).capacity := by decide
  have parts : pieces.flatten = [1, 2, 0xC3, 0xA9, 0] ++ [1, 7] := rfl
  have carries : Carries [0xC3, 0xA9] [] [1, 2, 0xC3, 0xA9, 0] :=
    @Carries.message [0xC3, 0xA9] [] 2 0 rfl rfl
  have text : (⟨"é", ""⟩ : Credentials) = ofBytes [0xC3, 0xA9] [] := by decide +kernel
  obtain ⟨news, untouched⟩ := ((login_in_pieces pieces nothing fit).takes _ _).mp
    (.whole parts (sentence_of_carries carries))
  obtain ⟨done, output⟩ := Decoder.news_done.mp news
  rw [text]
  exact ⟨nothing, fit, done, output, untouched⟩

end SocksProxy.Wire.Credentials
