import SocksProxy.Bytes

/-!
The lossy reader against the definition of UTF-8. What begins with the encoding of a character is
read as that character; what does not loses as many octets as could still have begun one, one octet
at least, to a replacement. This leaves no choice, so it says what the reader gives for all octets.
Text without the replacement character therefore only comes from the octets that encode it.
-/

namespace SocksProxy.Text.Lossy

def secondLow (a : UInt8) : Nat := if a = 0xE0 then 0xA0 else if a = 0xF0 then 0x90 else 0x80

def secondHigh (a : UInt8) : Nat := if a = 0xED then 0x9F else if a = 0xF4 then 0x8F else 0xBF

def push (value : Nat) (b : UInt8) : Nat := value * 64 + (b.toNat - 0x80)

/-- The table of well formed octets, and the value that they have. -/
inductive Encodes : Bytes → Nat → Prop
  | one {a : UInt8} {v : Nat} (first : a.toNat ≤ 0x7F) (value : v = a.toNat) : Encodes [a] v
  | two {a b : UInt8} {v : Nat} (first : 0xC2 ≤ a.toNat ∧ a.toNat ≤ 0xDF)
      (second : 0x80 ≤ b.toNat ∧ b.toNat ≤ 0xBF) (value : v = push (a.toNat - 0xC0) b) :
      Encodes [a, b] v
  | three {a b c : UInt8} {v : Nat} (first : 0xE0 ≤ a.toNat ∧ a.toNat ≤ 0xEF)
      (second : secondLow a ≤ b.toNat ∧ b.toNat ≤ secondHigh a)
      (third : 0x80 ≤ c.toNat ∧ c.toNat ≤ 0xBF) (value : v = push (push (a.toNat - 0xE0) b) c) :
      Encodes [a, b, c] v
  | four {a b c d : UInt8} {v : Nat} (first : 0xF0 ≤ a.toNat ∧ a.toNat ≤ 0xF4)
      (second : secondLow a ≤ b.toNat ∧ b.toNat ≤ secondHigh a)
      (third : 0x80 ≤ c.toNat ∧ c.toNat ≤ 0xBF) (fourth : 0x80 ≤ d.toNat ∧ d.toNat ≤ 0xBF)
      (value : v = push (push (push (a.toNat - 0xF0) b) c) d) : Encodes [a, b, c, d] v

theorem second_cases (a : UInt8) :
    ((a.toNat = 0xE0 ∧ secondLow a = 0xA0) ∨ (a.toNat = 0xF0 ∧ secondLow a = 0x90) ∨
      (a.toNat ≠ 0xE0 ∧ a.toNat ≠ 0xF0 ∧ secondLow a = 0x80)) ∧
    ((a.toNat = 0xED ∧ secondHigh a = 0x9F) ∨ (a.toNat = 0xF4 ∧ secondHigh a = 0x8F) ∨
      (a.toNat ≠ 0xED ∧ a.toNat ≠ 0xF4 ∧ secondHigh a = 0xBF)) := by
  simp only [secondLow, secondHigh, ← UInt8.toNat_inj]
  grind

theorem encodes_char (c : Char) : Encodes (String.utf8EncodeChar c) c.toNat := by
  have valid : c.val.toNat < 0xD800 ∨ 0xDFFF < c.val.toNat ∧ c.val.toNat < 0x110000 := c.valid
  change Encodes _ c.val.toNat
  unfold String.utf8EncodeChar
  dsimp only
  generalize c.val.toNat = v at valid
  -- Each octet goes on as a variable with its value: what is left is arithmetic.
  have octet : ∀ n, n < 256 → (UInt8.ofNat n).toNat = n := fun n small => by
    rw [UInt8.toNat_ofNat']
    exact Nat.mod_eq_of_lt small
  split
  · have first := octet v (by omega)
    generalize UInt8.ofNat v = a at first
    exact .one (by omega) first.symm
  split
  · have first := octet (v / 64 % 32 + 192) (by omega)
    have second := octet (v % 64 + 128) (by omega)
    generalize UInt8.ofNat (v / 64 % 32 + 192) = a at first
    generalize UInt8.ofNat (v % 64 + 128) = b at second
    exact .two (by omega) (by omega) (by unfold push; omega)
  split
  · have first := octet (v / 4096 % 16 + 224) (by omega)
    have second := octet (v / 64 % 64 + 128) (by omega)
    have third := octet (v % 64 + 128) (by omega)
    generalize UInt8.ofNat (v / 4096 % 16 + 224) = a at first
    generalize UInt8.ofNat (v / 64 % 64 + 128) = b at second
    generalize UInt8.ofNat (v % 64 + 128) = c at third
    have range := second_cases a
    exact .three (by omega) (by omega) (by omega) (by unfold push; omega)
  · have first := octet (v / 262144 % 8 + 240) (by omega)
    have second := octet (v / 4096 % 64 + 128) (by omega)
    have third := octet (v / 64 % 64 + 128) (by omega)
    have fourth := octet (v % 64 + 128) (by omega)
    generalize UInt8.ofNat (v / 262144 % 8 + 240) = a at first
    generalize UInt8.ofNat (v / 4096 % 64 + 128) = b at second
    generalize UInt8.ofNat (v / 64 % 64 + 128) = c at third
    generalize UInt8.ofNat (v % 64 + 128) = d at fourth
    have range := second_cases a
    exact .four (by omega) (by omega) (by omega) (by omega) (by unfold push; omega)

theorem Encodes.valid {m : Bytes} {v : Nat} (encodes : Encodes m v) :
    v < 0xD800 ∨ 0xDFFF < v ∧ v < 0x110000 := by
  cases encodes with
  | one first => omega
  | two first second value =>
      unfold push at value
      omega
  | @three a b c _ first second third value =>
      have range := second_cases a
      unfold push at value
      omega
  | @four a b c d _ first second third fourth value =>
      have range := second_cases a
      unfold push at value
      omega

theorem toNat_char {v : Nat} (valid : v < 0xD800 ∨ 0xDFFF < v ∧ v < 0x110000) :
    (Char.ofNat v).val.toNat = v := by
  have sound : v.isValidChar := valid
  rw [Char.ofNat, dif_pos sound]
  rfl

theorem eq_ofNat {a : UInt8} {v : Nat} (same : a.toNat = v % 256) : UInt8.ofNat v = a := by
  apply UInt8.toNat_inj.mp
  rw [UInt8.toNat_ofNat']
  exact same.symm

theorem encode_of_encodes {m : Bytes} {v : Nat} (encodes : Encodes m v) :
    String.utf8EncodeChar (Char.ofNat v) = m := by
  have sound := toNat_char encodes.valid
  unfold String.utf8EncodeChar
  dsimp only
  rw [sound]
  cases encodes with
  | one first value => rw [value, if_pos first, UInt8.ofNat_toNat]
  | two first second value =>
      unfold push at value
      rw [if_neg (by omega), if_pos (by omega)]
      simp only [List.cons.injEq, and_true]
      exact ⟨eq_ofNat (by omega), eq_ofNat (by omega)⟩
  | @three a b c _ first second third value =>
      have range := second_cases a
      unfold push at value
      rw [if_neg (by omega), if_neg (by omega), if_pos (by omega)]
      simp only [List.cons.injEq, and_true]
      exact ⟨eq_ofNat (by omega), eq_ofNat (by omega), eq_ofNat (by omega)⟩
  | @four a b c d _ first second third fourth value =>
      have range := second_cases a
      unfold push at value
      rw [if_neg (by omega), if_neg (by omega), if_neg (by omega)]
      simp only [List.cons.injEq, and_true]
      exact ⟨eq_ofNat (by omega), eq_ofNat (by omega), eq_ofNat (by omega), eq_ofNat (by omega)⟩

/-- No character begins with another one. -/
theorem encode_append_inj {c d : Char} {x y : Bytes}
    (same : String.utf8EncodeChar c ++ x = String.utf8EncodeChar d ++ y) : c = d ∧ x = y := by
  have char : some c = some d := by
    rw [← ByteArray.utf8DecodeChar?_utf8EncodeChar_append (b := x.toByteArray),
      ← ByteArray.utf8DecodeChar?_utf8EncodeChar_append (b := y.toByteArray),
      ← List.toByteArray_append, ← List.toByteArray_append, same]
  obtain rfl := Option.some.inj char
  exact ⟨rfl, List.append_cancel_left same⟩

/-- The first octets of a character, and the state in which the reader is behind them. -/
inductive Begun : Bytes → Open → Prop
  | two {a : UInt8} (first : 0xC2 ≤ a.toNat ∧ a.toNat ≤ 0xDF) :
      Begun [a] ⟨a.toNat - 0xC0, 1, 0x80, 0xBF⟩
  | three {a : UInt8} (first : 0xE0 ≤ a.toNat ∧ a.toNat ≤ 0xEF) :
      Begun [a] ⟨a.toNat - 0xE0, 2, secondLow a, secondHigh a⟩
  | four {a : UInt8} (first : 0xF0 ≤ a.toNat ∧ a.toNat ≤ 0xF4) :
      Begun [a] ⟨a.toNat - 0xF0, 3, secondLow a, secondHigh a⟩
  | twoOfThree {a b : UInt8} (first : 0xE0 ≤ a.toNat ∧ a.toNat ≤ 0xEF)
      (second : secondLow a ≤ b.toNat ∧ b.toNat ≤ secondHigh a) :
      Begun [a, b] ⟨push (a.toNat - 0xE0) b, 1, 0x80, 0xBF⟩
  | twoOfFour {a b : UInt8} (first : 0xF0 ≤ a.toNat ∧ a.toNat ≤ 0xF4)
      (second : secondLow a ≤ b.toNat ∧ b.toNat ≤ secondHigh a) :
      Begun [a, b] ⟨push (a.toNat - 0xF0) b, 2, 0x80, 0xBF⟩
  | threeOfFour {a b c : UInt8} (first : 0xF0 ≤ a.toNat ∧ a.toNat ≤ 0xF4)
      (second : secondLow a ≤ b.toNat ∧ b.toNat ≤ secondHigh a)
      (third : 0x80 ≤ c.toNat ∧ c.toNat ≤ 0xBF) :
      Begun [a, b, c] ⟨push (push (a.toNat - 0xF0) b) c, 1, 0x80, 0xBF⟩

def Open.Allows (o : Open) (b : UInt8) : Prop := o.low ≤ b.toNat ∧ b.toNat ≤ o.high

theorem lead_eq (a : UInt8) : lead a.toNat =
    if 0xC2 ≤ a.toNat ∧ a.toNat ≤ 0xDF then some ⟨a.toNat - 0xC0, 1, 0x80, 0xBF⟩
    else if 0xE0 ≤ a.toNat ∧ a.toNat ≤ 0xEF then
      some ⟨a.toNat - 0xE0, 2, secondLow a, secondHigh a⟩
    else if 0xF0 ≤ a.toNat ∧ a.toNat ≤ 0xF4 then
      some ⟨a.toNat - 0xF0, 3, secondLow a, secondHigh a⟩
    else none := by
  have range := second_cases a
  unfold lead
  grind

theorem lead_iff {a : UInt8} {o : Open} : lead a.toNat = some o ↔ Begun [a] o := by
  rw [lead_eq]
  constructor
  · intro found
    split at found
    · rename_i first
      exact Option.some.inj found ▸ .two first
    split at found
    · rename_i first
      exact Option.some.inj found ▸ .three first
    split at found
    · rename_i first
      exact Option.some.inj found ▸ .four first
    · cases found
  · intro begun
    cases begun with
    | two first => rw [if_pos first]
    | three first => rw [if_neg (by omega), if_pos first]
    | four first => rw [if_neg (by omega), if_neg (by omega), if_pos first]

theorem Begun.more {part : Bytes} {o : Open} {b : UInt8} (begun : Begun part o)
    (allowed : o.Allows b) (missing : 1 < o.missing) :
    Begun (part ++ [b]) ⟨push o.value b, o.missing - 1, 0x80, 0xBF⟩ := by
  cases begun with
  | two first => cases Nat.lt_irrefl 1 missing
  | three first => exact .twoOfThree first allowed
  | four first => exact .twoOfFour first allowed
  | twoOfThree first second => cases Nat.lt_irrefl 1 missing
  | twoOfFour first second => exact .threeOfFour first second allowed
  | threeOfFour first second third => cases Nat.lt_irrefl 1 missing

theorem Begun.complete {part : Bytes} {o : Open} {b : UInt8} (begun : Begun part o)
    (allowed : o.Allows b) (last : o.missing ≤ 1) : Encodes (part ++ [b]) (push o.value b) := by
  cases begun with
  | two first => exact .two first allowed rfl
  | three first => cases Nat.not_succ_le_self 1 last
  | four first => cases Nat.not_succ_le_self 1 (Nat.le_of_succ_le last)
  | twoOfThree first second => exact .three first second allowed rfl
  | twoOfFour first second => cases Nat.not_succ_le_self 1 last
  | threeOfFour first second third => exact .four first second third allowed rfl

theorem Begun.follow {part more : Bytes} {o : Open} {b : UInt8} {v : Nat} (begun : Begun part o)
    (encodes : Encodes (part ++ b :: more) v) : o.Allows b := by
  cases begun with
  | two first =>
      cases encodes with
      | two _ second => exact second
      | three other => omega
      | four other => omega
  | three first =>
      cases encodes with
      | two other => omega
      | three _ second => exact second
      | four other => omega
  | four first =>
      cases encodes with
      | two other => omega
      | three other => omega
      | four _ second => exact second
  | twoOfThree first =>
      cases encodes with
      | three _ _ third => exact third
      | four other => omega
  | twoOfFour first =>
      cases encodes with
      | three other => omega
      | four _ _ third => exact third
  | threeOfFour first =>
      cases encodes with
      | four _ _ _ fourth => exact fourth

theorem Encodes.begun {a : UInt8} {more : Bytes} {v : Nat} (encodes : Encodes (a :: more) v) :
    a.toNat ≤ 0x7F ∨ ∃ o, Begun [a] o := by
  cases encodes with
  | one first => exact .inl first
  | two first => exact .inr ⟨_, .two first⟩
  | three first => exact .inr ⟨_, .three first⟩
  | four first => exact .inr ⟨_, .four first⟩

theorem Begun.ne_nil {part : Bytes} {o : Open} (begun : Begun part o) : part ≠ [] := by
  cases begun <;> exact List.cons_ne_nil _ _

theorem Begun.range {part : Bytes} {o : Open} (begun : Begun part o) :
    o.low ≤ o.high ∧ o.high < 256 := by
  have second : ∀ a, secondLow a ≤ secondHigh a ∧ secondHigh a < 256 := by
    intro a
    have range := second_cases a
    omega
  have later : 0x80 ≤ 0xBF ∧ 0xBF < 256 := by decide
  cases begun with
  | two => exact later
  | three => exact second _
  | four => exact second _
  | twoOfThree => exact later
  | twoOfFour => exact later
  | threeOfFour => exact later

theorem Begun.allows {part : Bytes} {o : Open} (begun : Begun part o) : ∃ b, o.Allows b := by
  have range := begun.range
  refine ⟨.ofNat o.low, ?_⟩
  unfold Open.Allows
  rw [UInt8.toNat_ofNat']
  omega

/-- Some character begins so: any octets that are allowed complete it. -/
theorem Begun.ends (n : Nat) {part : Bytes} {o : Open} (begun : Begun part o)
    (left : o.missing ≤ n + 1) : ∃ more v, more ≠ [] ∧ Encodes (part ++ more) v := by
  induction n generalizing part o with
  | zero =>
      obtain ⟨b, allowed⟩ := begun.allows
      exact ⟨[b], _, List.cons_ne_nil b [], begun.complete allowed left⟩
  | succ n ih =>
      obtain ⟨b, allowed⟩ := begun.allows
      by_cases last : o.missing ≤ 1
      · exact ⟨[b], _, List.cons_ne_nil b [], begun.complete allowed last⟩
      · obtain ⟨more, v, -, encodes⟩ := ih (begun.more allowed (by omega)) (by dsimp only; omega)
        rw [List.append_assoc] at encodes
        exact ⟨b :: more, v, List.cons_ne_nil b more, encodes⟩

theorem Begun.not_whole {part : Bytes} {o : Open} (begun : Begun part o) (c : Char) :
    ¬ String.utf8EncodeChar c <+: part := by
  rintro ⟨x, rfl⟩
  obtain ⟨more, v, some, encodes⟩ := begun.ends o.missing (Nat.le_succ _)
  have same := encode_of_encodes encodes
  rw [List.append_assoc, ← List.append_nil (String.utf8EncodeChar _)] at same
  obtain ⟨-, none⟩ := encode_append_inj same
  exact some (List.append_eq_nil_iff.mp none.symm).2

def Starts (part : Bytes) : Prop := ∃ c, part <+: String.utf8EncodeChar c

/-- The octets that one replacement stands for, and what follows them. -/
structure Broken (part rest : Bytes) : Prop where
  none : ∀ c, ¬ String.utf8EncodeChar c <+: part ++ rest
  some : part ≠ []
  begun : Starts part ∨ part.length = 1
  -- With one octet more, no character begins so.
  longest : ∀ b more, rest = b :: more → ¬ Starts (part ++ [b])

/-- Octets and the text that is read from them. -/
inductive Reads : Bytes → List Char → Prop
  | nil : Reads [] []
  | char (c : Char) {rest : Bytes} {text : List Char} (later : Reads rest text) :
      Reads (String.utf8EncodeChar c ++ rest) (c :: text)
  | broken {part rest : Bytes} {text : List Char} (here : Broken part rest)
      (later : Reads rest text) : Reads (part ++ rest) (replacement :: text)

theorem Begun.broken {part rest : Bytes} {o : Open} (begun : Begun part o)
    (stuck : ∀ b more, rest = b :: more → ¬ o.Allows b) : Broken part rest where
  none := by
    intro c ahead
    rcases List.prefix_or_prefix_of_prefix ahead (List.prefix_append part rest) with whole | grown
    · exact begun.not_whole c whole
    obtain ⟨_ | ⟨b, more⟩, same⟩ := grown
    · rw [List.append_nil] at same
      exact begun.not_whole c (same ▸ List.prefix_refl part)
    · rw [← same, List.prefix_append_right_inj] at ahead
      obtain ⟨later, rest_eq⟩ := ahead
      have encodes := encodes_char c
      rw [← same] at encodes
      exact stuck b _ rest_eq.symm (begun.follow encodes)
  some := begun.ne_nil
  begun := by
    obtain ⟨more, v, -, encodes⟩ := begun.ends o.missing (Nat.le_succ _)
    exact .inl ⟨.ofNat v, more, (encode_of_encodes encodes).symm⟩
  longest := by
    rintro b more rfl ⟨c, later, same⟩
    have encodes := encodes_char c
    rw [← same, List.append_assoc] at encodes
    exact stuck b more rfl (begun.follow encodes)

theorem broken_of_lead {b : UInt8} (above : ¬ b.toNat < 0x80) (none : lead b.toNat = none)
    (rest : Bytes) : Broken [b] rest := by
  have never : ∀ c more, String.utf8EncodeChar c ≠ b :: more := by
    intro c more same
    have encodes := encodes_char c
    rw [same] at encodes
    rcases encodes.begun with single | ⟨o, begun⟩
    · omega
    · rw [lead_iff.mpr begun] at none
      cases none
  exact
    { none := by
        intro c ⟨later, same⟩
        obtain ⟨a, more, first⟩ := List.exists_cons_of_ne_nil (@String.utf8EncodeChar_ne_nil c)
        rw [first, List.cons_append] at same
        obtain ⟨rfl, -⟩ := List.cons.inj same
        exact never c more first
      some := List.cons_ne_nil b []
      begun := .inr rfl
      longest := by
        rintro next more - ⟨c, later, same⟩
        exact never c _ same.symm }

theorem Reads.of_encodes {m rest : Bytes} {v : Nat} {text : List Char} (encodes : Encodes m v)
    (later : Reads rest text) : Reads (m ++ rest) (.ofNat v :: text) := by
  rw [← encode_of_encodes encodes]
  exact .char _ later

/-- Outside a character the reader is right, and so it is behind the first octets of one. -/
theorem reads (bytes : Bytes) : Reads bytes (decodeFrom none bytes) ∧
    ∀ part o, Begun part o → Reads (part ++ bytes) (decodeFrom (some o) bytes) := by
  -- Both at once: an octet that does not continue the open character is read afresh.
  induction bytes with
  | nil => exact ⟨.nil, fun part o begun => .broken (begun.broken nofun) .nil⟩
  | cons b rest ih =>
      obtain ⟨fresh, within⟩ := ih
      have afresh : Reads (b :: rest) ((start b).1 ++ decodeFrom (start b).2 rest) := by
        unfold start
        by_cases single : b.toNat < 0x80
        · rw [if_pos single]
          exact .of_encodes (.one (by omega) rfl) fresh
        rw [if_neg single]
        cases found : lead b.toNat with
        | none => exact .broken (broken_of_lead single found rest) fresh
        | some o => exact within [b] o (lead_iff.mp found)
      refine ⟨afresh, fun part o begun => ?_⟩
      change Reads _ ((step (some o) b).1 ++ decodeFrom (step (some o) b).2 rest)
      unfold step
      by_cases allowed : o.low ≤ b.toNat ∧ b.toNat ≤ o.high
      · simp only [if_pos allowed]
        rw [List.append_cons]
        by_cases last : o.missing ≤ 1
        · rw [if_pos last]
          exact .of_encodes (begun.complete allowed last) fresh
        · rw [if_neg last]
          exact within _ _ (begun.more allowed (by omega))
      · simp only [if_neg allowed]
        refine .broken (begun.broken ?_) afresh
        rintro _ _ ⟨⟩
        exact allowed

theorem Starts.of_append {part more : Bytes} (starts : Starts (part ++ more)) : Starts part := by
  obtain ⟨c, ahead⟩ := starts
  exact ⟨c, (List.prefix_append part more).trans ahead⟩

theorem Broken.le {part rest part' rest' : Bytes} (here : Broken part rest)
    (there : Broken part' rest') (same : part ++ rest = part' ++ rest') :
    part'.length ≤ part.length := by
  refine Nat.le_of_not_lt fun shorter => ?_
  obtain ⟨_ | ⟨b, more⟩, rfl⟩ := List.prefix_of_prefix_length_le (List.prefix_append part rest)
    (same ▸ List.prefix_append part' rest') (Nat.le_of_lt shorter)
  · rw [List.append_nil] at shorter
    exact Nat.lt_irrefl _ shorter
  · rw [List.append_assoc] at same
    refine here.longest b _ (List.append_cancel_left same) ?_
    rcases there.begun with starts | single
    · rw [List.append_cons] at starts
      exact starts.of_append
    · have some := List.length_pos_iff.mpr here.some
      rw [List.length_append, List.length_cons] at single
      omega

theorem Broken.unique {part rest part' rest' : Bytes} (here : Broken part rest)
    (there : Broken part' rest') (same : part ++ rest = part' ++ rest') : rest = rest' :=
  (List.append_inj same (Nat.le_antisymm (there.le here same.symm) (here.le there same))).2

theorem Reads.unique {bytes bytes' : Bytes} {text text' : List Char} (one : Reads bytes text)
    (other : Reads bytes' text') (same : bytes = bytes') : text = text' := by
  induction one generalizing bytes' text' with
  | nil =>
      cases other with
      | nil => rfl
      | char c later =>
          exact absurd (List.append_eq_nil_iff.mp same.symm).1 String.utf8EncodeChar_ne_nil
      | broken here later => exact absurd (List.append_eq_nil_iff.mp same.symm).1 here.some
  | char c later ih =>
      cases other with
      | nil => exact absurd (List.append_eq_nil_iff.mp same).1 String.utf8EncodeChar_ne_nil
      | char d later' =>
          obtain ⟨rfl, left⟩ := encode_append_inj same
          rw [ih later' left]
      | broken here later' => exact absurd ⟨_, same⟩ (here.none c)
  | broken here later ih =>
      cases other with
      | nil => exact absurd (List.append_eq_nil_iff.mp same).1 here.some
      | char c later' => exact absurd ⟨_, same.symm⟩ (here.none c)
      | broken there later' => rw [ih later' (here.unique there same)]

theorem reads_iff {bytes : Bytes} {text : List Char} :
    Reads bytes text ↔ decodeFrom none bytes = text := by
  constructor
  · intro other
    exact (reads bytes).1.unique other rfl
  · rintro rfl
    exact (reads bytes).1

theorem reads_encoded (text : List Char) : Reads (text.flatMap String.utf8EncodeChar) text := by
  induction text with
  | nil => exact .nil
  | cons c text ih => exact .char c ih

theorem Reads.encoded {bytes : Bytes} {text : List Char} (reads : Reads bytes text)
    (plain : replacement ∉ text) : bytes = text.flatMap String.utf8EncodeChar := by
  induction reads with
  | nil => rfl
  | char c later ih => rw [List.flatMap_cons, ← ih (List.not_mem_of_not_mem_cons plain)]
  | broken here later ih => exact absurd (List.mem_cons_self ..) plain

end SocksProxy.Text.Lossy

namespace SocksProxy.Text

/-- The octets are the UTF-8 encoding of the text. -/
def Spells (octets : Bytes) (text : String) : Prop := octets.toByteArray = text.toUTF8

def Plain (text : String) : Prop := Lossy.replacement ∉ text.toList

theorem spells_iff {octets : Bytes} {text : String} :
    Spells octets text ↔ octets = text.toList.flatMap String.utf8EncodeChar := by
  unfold Spells
  rw [String.toUTF8_eq_toByteArray, ← String.utf8Encode_toList, List.utf8Encode,
    List.toByteArray_inj]

theorem lossy_eq_iff {octets : Bytes} {text : String} (plain : Plain text) :
    lossy octets = text ↔ Spells octets text := by
  have chars : lossy octets = text ↔ Lossy.Reads octets text.toList := by
    unfold lossy
    rw [Lossy.reads_iff, ← String.ofList_inj, String.ofList_toList]
  rw [chars, spells_iff]
  constructor
  · intro reads
    exact reads.encoded plain
  · intro octets_eq
    rw [octets_eq]
    exact Lossy.reads_encoded text.toList

theorem Spells.valid {octets : Bytes} {text : String} (spells : Spells octets text) :
    octets.toByteArray.IsValidUTF8 := by
  rw [spells]
  exact text.isValidUTF8

theorem Spells.unique {octets octets' : Bytes} {text : String} (one : Spells octets text)
    (other : Spells octets' text) : octets = octets' :=
  List.toByteArray_inj.mp (one.trans other.symm)

end SocksProxy.Text
