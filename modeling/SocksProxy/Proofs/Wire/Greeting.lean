import SocksProxy.Proofs.Wire.Format

/-!
Greetings as bytes, and in pieces. Whatever the pieces are, the decoder takes exactly a greeting,
fails at once if the first byte is not the version, and waits in all other cases. It goes by the
best rank so far, code by code, and so settles on the first preferred method that is both offered
and acceptable; nothing but membership in the two lists counts for it.
-/

namespace SocksProxy.Wire.Greeting

def settled (acceptable : List Method) (codes : Bytes) : Method :=
  select (codes.foldl (offer acceptable) none)

def Reads (acceptable : List Method) : State → Bytes → Prop
  | .version, read => read = []
  | .count, read => read = [Wire.version]
  | .methods left best, read =>
      ∃ codes : Bytes, 0 < left ∧ codes.length + left ≤ 255 ∧
        read = Wire.version :: UInt8.ofNat (codes.length + left) :: codes ∧
        best = codes.foldl (offer acceptable) none
  | .done method, read =>
      ∃ codes : Bytes, codes.length ≤ 255 ∧ read = encode codes ∧ method = settled acceptable codes
  | .failed _, _ => True

theorem reads_count {acceptable : List Method} (b : UInt8) :
    Reads acceptable (feed acceptable .count b) [Wire.version, b] := by
  have limit := b.toNat_lt
  by_cases none : b = 0
  · subst none
    exact ⟨[], by decide, rfl, rfl⟩
  · have some : b.toNat ≠ 0 := fun zero => none (UInt8.toNat_inj.mp zero)
    rw [feed, if_neg none]
    refine ⟨[], by omega, by simp; omega, ?_, rfl⟩
    simp

theorem reads_methods {acceptable : List Method} {left : Nat} {best : Option Nat} {read : Bytes}
    (b : UInt8) (before : Reads acceptable (.methods left best) read) :
    Reads acceptable (feed acceptable (.methods left best) b) (read ++ [b]) := by
  obtain ⟨codes, some, short, rfl, rfl⟩ := before
  have offered : offer acceptable (codes.foldl (offer acceptable) none) b =
      (codes ++ [b]).foldl (offer acceptable) none := by
    rw [List.foldl_append]
    rfl
  rw [feed, offered]
  split
  · have last : left = 1 := by omega
    subst last
    exact ⟨codes ++ [b], by simpa using short, by simp [encode], rfl⟩
  · refine ⟨codes ++ [b], by omega, by simp; omega, ?_, rfl⟩
    have count : codes.length + left = (codes ++ [b]).length + (left - 1) := by
      simp only [List.length_append, List.length_singleton]
      omega
    simp only [List.cons_append, count]

theorem tracks (acceptable : List Method) : (decoder acceptable).Tracks (Reads acceptable) := by
  intro s read b pending before
  cases s with
  | version =>
      change read = [] at before
      change Reads acceptable (feed acceptable .version b) (read ++ [b])
      rw [before, feed]
      split
      · rename_i right
        rw [right]
        rfl
      · trivial
  | count =>
      change read = [Wire.version] at before
      rw [before]
      exact reads_count b
  | methods left best => exact reads_methods b before
  | done method => cases pending
  | failed fault => cases pending

theorem done_of_output {s : State} {method : Method} (given : output s = some method) :
    s = .done method := by
  cases s <;> cases given
  rfl

theorem conclusive (acceptable : List Method) : (decoder acceptable).Conclusive where
  output s complete := by cases s <;> cases complete; exact ⟨_, rfl⟩
  fault s failed := by cases s <;> cases failed; exact ⟨_, rfl⟩

theorem findIdx?_or {α : Type} (p q : α → Bool) (entries : List α) :
    entries.findIdx? (fun entry => p entry || q entry) =
      Option.merge min (entries.findIdx? p) (entries.findIdx? q) := by
  induction entries with
  | nil => rfl
  | cons entry rest ih =>
      simp only [List.findIdx?_cons, ih]
      cases p entry <;> cases q entry <;>
        cases rest.findIdx? p <;> cases rest.findIdx? q <;> simp [Option.merge]

def bestRank (acceptable : List Method) (codes : Bytes) : Option Nat :=
  Method.preference.findIdx? fun m => m ∈ acceptable && m ∈ codes.map Method.ofCode

theorem offer_eq_merge (acceptable : List Method) (best : Option Nat) (code : UInt8) :
    offer acceptable best code = Option.merge min best
      (Method.preference.findIdx? fun m => m ∈ acceptable && m == Method.ofCode code) := by
  unfold offer
  generalize Method.ofCode code = method
  by_cases welcome : method ∈ acceptable
  · have alone : (fun m => decide (m ∈ acceptable) && m == method) = (· == method) := by
      funext m
      by_cases same : m = method
      · simp [same, welcome]
      · simp [same]
    have ranks : Method.preference.findIdx? (· == method) = method.rank := rfl
    rw [alone, ranks, if_pos welcome]
    cases method.rank with
    | none => cases best <;> rfl
    | some rank => cases best <;> rfl
  · have nobody : Method.preference.findIdx? (fun m => decide (m ∈ acceptable) && m == method) =
        none := by
      rw [List.findIdx?_eq_none_iff]
      intro m member
      by_cases same : m = method
      · simp [same, welcome]
      · simp [same]
    rw [nobody, if_neg welcome]
    cases best <;> rfl

theorem foldl_offer (acceptable : List Method) (before codes : Bytes) :
    codes.foldl (offer acceptable) (bestRank acceptable before) =
      bestRank acceptable (before ++ codes) := by
  induction codes generalizing before with
  | nil => rw [List.foldl_nil, List.append_nil]
  | cons code rest ih =>
      have either : (fun m => decide (m ∈ acceptable) &&
            decide (m ∈ (before ++ [code]).map Method.ofCode)) =
          fun m => (decide (m ∈ acceptable) && decide (m ∈ before.map Method.ofCode)) ||
            (decide (m ∈ acceptable) && m == Method.ofCode code) := by
        funext m
        rw [List.map_append, ← Bool.and_or_distrib_left]
        simp [Bool.beq_eq_decide_eq]
      have next : offer acceptable (bestRank acceptable before) code =
          bestRank acceptable (before ++ [code]) := by
        rw [offer_eq_merge, bestRank, bestRank, either, findIdx?_or]
      rw [List.foldl_cons, next, ih, List.append_assoc, List.singleton_append]

/-- The best rank leads to the first preferred method in both lists. -/
theorem settled_eq_choose (acceptable : List Method) (codes : Bytes) :
    settled acceptable codes = choose acceptable codes := by
  have nothing : bestRank acceptable [] = none := by simp [bestRank]
  have best := foldl_offer acceptable [] codes
  rw [nothing, List.nil_append] at best
  rw [settled, best, choose, List.find?_eq_bind_findIdx?_getElem?]
  change select _ = ((bestRank acceptable codes).bind fun rank => Method.preference[rank]?).getD _
  cases bestRank acceptable codes <;> rfl

theorem choose_common {acceptable : List Method} {codes : Bytes} {m : Method}
    (chosen : choose acceptable codes = m) (leads : m ≠ .noMethods) :
    m ∈ acceptable ∧ ∃ code ∈ codes, Method.ofCode code = m := by
  unfold choose at chosen
  cases found : Method.preference.find? fun m =>
      decide (m ∈ acceptable) && decide (m ∈ codes.map Method.ofCode) with
  | none =>
      rw [found] at chosen
      exact absurd chosen.symm leads
  | some method =>
      rw [found] at chosen
      cases chosen
      have both := List.find?_some found
      rw [Bool.and_eq_true, decide_eq_true_eq, decide_eq_true_eq] at both
      exact ⟨both.1, List.mem_map.mp both.2⟩

/-- Neither list counts for more than its members. -/
theorem choose_congr {acceptable others : List Method} {codes again : Bytes}
    (methods : ∀ m, m ∈ others ↔ m ∈ acceptable) (offers : ∀ code, code ∈ again ↔ code ∈ codes) :
    choose others again = choose acceptable codes := by
  have same : (fun m => decide (m ∈ others) && decide (m ∈ again.map Method.ofCode)) =
      fun m => decide (m ∈ acceptable) && decide (m ∈ codes.map Method.ofCode) := by
    funext m
    simp only [List.mem_map, methods, offers]
  rw [choose, choose, same]

theorem settled_acceptable {acceptable : List Method} {codes : Bytes} {m : Method}
    (chosen : settled acceptable codes = m) (leads : m ≠ .noMethods) : m ∈ acceptable :=
  (choose_common ((settled_eq_choose acceptable codes).symm.trans chosen) leads).1

/-- Bytes that are a whole greeting, and the method that it leads to. -/
inductive Sentence (acceptable : List Method) : Bytes → Method → Prop
  | greeting {count : UInt8} {codes : Bytes} (whole : codes.length = count.toNat) :
      Sentence acceptable (5 :: count :: codes) (choose acceptable codes)

def format (acceptable : List Method) : Format Method :=
  ⟨Sentence acceptable, WrongStart 5 .version⟩

/-- A method that both sides have, if there is one, and that neither the order of the codes nor that
of the acceptable methods decides on, nor how often one of them is named. -/
structure Agreed (acceptable : List Method) (codes : Bytes) (m : Method) : Prop where
  common : m = .noMethods ∨ m ∈ acceptable ∧ ∃ code ∈ codes, Method.ofCode code = m
  alike : ∀ {others : List Method} {again : Bytes}, again.length ≤ 255 →
    (∀ method, method ∈ others ↔ method ∈ acceptable) → (∀ code, code ∈ again ↔ code ∈ codes) →
    (decoder others).read .version (encode again) = (some (.done m), [])

variable {acceptable : List Method}

theorem takes_total (acceptable : List Method) (s : Bytes) :
    ∃ news rest, (format acceptable).Takes s news rest := by
  have smallest : Sentence acceptable [5, 0] (choose acceptable []) := .greeting rfl
  rcases s with _ | ⟨b, s⟩
  · exact ⟨_, _, .short (List.cons_ne_nil 5 [0]) smallest⟩
  by_cases other : b ≠ 5
  · exact ⟨_, s, .wrong rfl (.first other)⟩
  obtain rfl : b = 5 := Decidable.of_not_not other
  rcases s with _ | ⟨count, s⟩
  · exact ⟨_, _, .short (List.cons_ne_nil 0 []) smallest⟩
  rcases counted_cases count s with ⟨codes, rest, whole, rfl⟩ | ⟨more, missing, whole⟩
  · exact ⟨_, rest, .whole rfl (.greeting whole)⟩
  · exact ⟨_, _, .short missing (.greeting whole)⟩

theorem run_greeting (acceptable : List Method) {count : UInt8} {codes : Bytes}
    (whole : codes.length = count.toNat) (rest : Bytes) :
    (decoder acceptable).run .version (5 :: count :: (codes ++ rest)) =
      (.done (settled acceptable codes), .done, rest) := by
  have empty : (decoder acceptable).feed .count 0 = .done (select none) := rfl
  have filled : ∀ count, count ≠ 0 →
      (decoder acceptable).feed .count count = .methods count.toNat none :=
    fun _ some => if_neg some
  have next : ∀ left best b, (decoder acceptable).feed (.methods (left + 2) best) b =
      .methods (left + 1) (offer acceptable best b) := fun _ _ _ => rfl
  have last : ∀ best b, (decoder acceptable).feed (.methods 1 best) b =
      .done (select (offer acceptable best b)) := fun _ _ => rfl
  have more : ∀ left best, (decoder acceptable).progress (.methods left best) = .needMore :=
    fun _ _ => rfl
  change (decoder acceptable).run .count (count :: (codes ++ rest)) = _
  rw [@Decoder.run_counted _ _ _ _ _ _ (fun best => .done (select best)) _ _ empty filled next last
    more _ _ whole]
  rfl

theorem decodes (acceptable : List Method) :
    (decoder acceptable).Decodes .version (format acceptable) where
  sentence := by
    intro m message rest sentence
    obtain ⟨whole⟩ := sentence
    rw [List.cons_append, List.cons_append, Decoder.read, run_greeting acceptable whole,
      settled_eq_choose]
    rfl
  mistake := by
    intro m fault rest mistake
    obtain ⟨other⟩ := mistake
    have wrong : (decoder acceptable).feed .version _ = .failed _ := if_neg other
    exact Decoder.read_failed (congrArg progress wrong) (congrArg fault wrong) rest
  total := takes_total acceptable

theorem agreed_choose (acceptable : List Method) (codes : Bytes) :
    Agreed acceptable codes (choose acceptable codes) where
  common := by
    by_cases leads : choose acceptable codes = .noMethods
    · exact .inl leads
    · exact .inr (choose_common rfl leads)
  alike := by
    intro others again short methods offers
    have whole : again.length = (UInt8.ofNat again.length).toNat := by
      rw [UInt8.toNat_ofNat']
      omega
    have run := run_greeting others whole []
    rw [List.append_nil, settled_eq_choose, choose_congr methods offers] at run
    exact congrArg (fun result => ((decoder others).news result.1 result.2.1, result.2.2)) run

/-- However a string is cut into pieces that fit an empty buffer, the decoder takes the greeting in
front of it and nothing behind, or fails at a first byte that is not the version, and waits for more
of what can still become a greeting. It is done with the first preferred method that is in both
lists, and with none if there is no such method. -/
theorem best_common_method_in_pieces (acceptable : List Method) (pieces : List Bytes) {b : Buffer}
    (nothing : b.held = []) (fit : ∀ piece ∈ pieces, piece.length ≤ b.capacity) :
    let course := (decoder acceptable).runPieces .version b pieces
    (decoder acceptable).Recognises (format acceptable) pieces.flatten course ∧
      ∀ m, course.progress = .done → (decoder acceptable).output course.state = some m →
        ∃ count codes, codes.length = count.toNat ∧
          pieces.flatten = 5 :: count :: (codes ++ course.untouched) ∧
          Agreed acceptable codes m := by
  intro course
  have recognised := (decodes acceptable).recognises rfl pieces nothing fit
  refine ⟨recognised, ?_⟩
  intro m done output
  have news : (decoder acceptable).news course.state course.progress = some (.done m) :=
    Decoder.news_done.mpr ⟨done, output⟩
  obtain ⟨parts, ⟨whole⟩⟩ := (recognised.takes (.done m) course.untouched).mpr ⟨news, rfl⟩
  exact ⟨_, _, whole, parts, agreed_choose acceptable _⟩

theorem best_common_method_in_two_pieces :
    let pieces : List Bytes := [[5, 3, 1], [2, 0x80, 5, 1]]
    let acceptable : List Method := [.gssapi, .userPass, .noAuth]
    let course := (decoder acceptable).runPieces .version (Buffer.new 4) pieces
    (Buffer.new 4).held = [] ∧ (∀ piece ∈ pieces, piece.length ≤ (Buffer.new 4).capacity) ∧
      course.progress = .done ∧ (decoder acceptable).output course.state = some .userPass ∧
      course.untouched = [5, 1] := by
  intro pieces acceptable course
  have nothing : (Buffer.new 4).held = [] := rfl
  have fit : ∀ piece ∈ pieces, piece.length ≤ (Buffer.new 4).capacity := by decide
  obtain ⟨recognised, -⟩ := best_common_method_in_pieces acceptable pieces nothing fit
  have parts : pieces.flatten = [5, 3, 1, 2, 0x80] ++ [5, 1] := rfl
  have sentence : Sentence acceptable [5, 3, 1, 2, 0x80] .userPass :=
    @Sentence.greeting acceptable 3 [1, 2, 0x80] rfl
  obtain ⟨news, untouched⟩ := (recognised.takes _ _).mp (.whole parts sentence)
  obtain ⟨done, output⟩ := Decoder.news_done.mp news
  exact ⟨nothing, fit, done, output, untouched⟩

end SocksProxy.Wire.Greeting
