import SocksProxy.Proofs.Text.Lossy
import SocksProxy.Proofs.Wire.Credentials
import SocksProxy.Users

/-!
What authenticates is the octets. Names and passwords are compared as texts, and the octets of a
message become texts without ever failing, so that many octets may have one text. A user without the
replacement character in name and password is still only named by the octets that encode the two.
-/

namespace SocksProxy

open Wire Text

def User.Matches (u : User) (c : Credentials) : Prop := u.name = c.name ∧ u.password = c.password

def User.Spelled (u : User) (name password : Bytes) : Prop :=
  Spells name u.name ∧ Spells password u.password

def User.Plain (u : User) : Prop := Text.Plain u.name ∧ Text.Plain u.password

theorem User.matches_iff {u : User} (plain : u.Plain) {name password : Bytes} :
    u.Matches (.ofBytes name password) ↔ u.Spelled name password := by
  obtain ⟨plainName, plainPassword⟩ := plain
  exact and_congr (eq_comm.trans (lossy_eq_iff plainName))
    (eq_comm.trans (lossy_eq_iff plainPassword))

theorem User.Spelled.unique {u : User} {name password name' password' : Bytes}
    (one : u.Spelled name password) (other : u.Spelled name' password') :
    name = name' ∧ password = password' :=
  ⟨one.1.unique other.1, one.2.unique other.2⟩

/-- A message with a name and a password, the pieces in which it arrives at an empty buffer that
each of them fits, and what arrives behind it. -/
structure Arrival where
  name : Bytes
  password : Bytes
  message : Bytes
  behind : Bytes
  pieces : List Bytes
  buffer : Buffer
  carries : Credentials.Carries name password message
  parts : pieces.flatten = message ++ behind
  nothing : buffer.held = []
  fit : ∀ piece ∈ pieces, piece.length ≤ buffer.capacity

namespace Arrival

def course (arrival : Arrival) : Decoder.Course Credentials.State :=
  Credentials.decoder.runPieces .version arrival.buffer arrival.pieces

def Gives (arrival : Arrival) (c : Credentials) : Prop :=
  arrival.course.progress = .done ∧ Credentials.decoder.output arrival.course.state = some c

theorem gives (arrival : Arrival) : arrival.Gives (.ofBytes arrival.name arrival.password) := by
  have recognised := Credentials.decodes.recognises rfl arrival.pieces arrival.nothing arrival.fit
  have whole := Credentials.sentence_of_carries arrival.carries
  exact Decoder.news_done.mp ((recognised.takes _ _).mp (.whole arrival.parts whole)).1

/-- Both fields are UTF-8. -/
def WellFormed (arrival : Arrival) : Prop :=
  arrival.name.toByteArray.IsValidUTF8 ∧ arrival.password.toByteArray.IsValidUTF8

end Arrival

namespace UserStore

theorem authenticate_iff {store : UserStore} {c : Credentials} :
    store.authenticate c.name c.password = true ↔ ∃ u ∈ store.users, u.Matches c := by
  unfold authenticate User.Matches
  rw [List.any_eq_true]
  simp only [Bool.and_eq_true, beq_iff_eq]

/-- However a message is cut, it is read as credentials that exist for a user exactly if its fields
are the octets of his name and password, provided that these have no replacement character. Where
this holds of all users, a field that is not UTF-8 does not authenticate, and two messages that
authenticate as the same user have the same fields. -/
theorem authenticates_exact_octets (store : UserStore) (arrival : Arrival) :
    ∃ c, arrival.Gives c ∧
      (store.authenticate c.name c.password = true ↔ ∃ u ∈ store.users, u.Matches c) ∧
      (∀ u ∈ store.users, u.Plain → (u.Matches c ↔ u.Spelled arrival.name arrival.password)) ∧
      ((∀ u ∈ store.users, u.Plain) → ¬ arrival.WellFormed →
        store.authenticate c.name c.password = false) ∧
      ∀ other : Arrival, ∀ d, other.Gives d →
        ∀ u ∈ store.users, u.Plain → u.Matches c → u.Matches d →
          other.name = arrival.name ∧ other.password = arrival.password := by
  refine ⟨_, arrival.gives, authenticate_iff, fun u _ plain => User.matches_iff plain, ?_, ?_⟩
  · intro plain broken
    rw [Bool.eq_false_iff]
    intro authenticates
    obtain ⟨u, stored, same⟩ := authenticate_iff.mp authenticates
    obtain ⟨name, password⟩ := (User.matches_iff (plain u stored)).mp same
    exact broken ⟨name.valid, password.valid⟩
  · intro other d given u _ plain same sameOther
    obtain rfl := Option.some.inj (other.gives.2.symm.trans given.2)
    exact ((User.matches_iff plain).mp sameOther).unique ((User.matches_iff plain).mp same)

/-- A letter of two octets authenticates, cut in the middle; its first octet alone does not. -/
theorem authenticates_exact_octets_within_letter :
    let store : UserStore := ⟨[⟨"é", "ok"⟩]⟩
    let whole : Arrival :=
      { name := [0xC3, 0xA9]
        password := [0x6F, 0x6B]
        message := [1, 2, 0xC3, 0xA9, 2, 0x6F, 0x6B]
        behind := [5]
        pieces := [[1, 2, 0xC3], [0xA9, 2, 0x6F], [0x6B, 5]]
        buffer := Buffer.new 4
        carries := .message rfl rfl
        parts := rfl
        nothing := rfl
        fit := by decide }
    let half : Arrival :=
      { name := [0xC3]
        password := [0x6F, 0x6B]
        message := [1, 1, 0xC3, 2, 0x6F, 0x6B]
        behind := []
        pieces := [[1, 1, 0xC3, 2, 0x6F, 0x6B]]
        buffer := Buffer.new 8
        carries := .message rfl rfl
        parts := rfl
        nothing := rfl
        fit := by decide }
    (∃ c, whole.Gives c ∧ store.authenticate c.name c.password = true) ∧
      ∃ c, half.Gives c ∧ store.authenticate c.name c.password = false := by
  intro store whole half
  have plain : ∀ u ∈ store.users, u.Plain := by
    intro u stored
    obtain rfl := List.mem_singleton.mp stored
    unfold User.Plain Text.Plain
    decide
  have spelled : User.Spelled ⟨"é", "ok"⟩ whole.name whole.password := by
    unfold User.Spelled
    simp only [spells_iff]
    decide
  have broken : ¬ half.WellFormed := by
    unfold Arrival.WellFormed
    decide
  have stored : ⟨"é", "ok"⟩ ∈ store.users := List.mem_singleton.mpr rfl
  obtain ⟨c, done, authenticates, named, -, -⟩ := authenticates_exact_octets store whole
  obtain ⟨d, doneHalf, -, -, refused, -⟩ := authenticates_exact_octets store half
  have same := (named _ stored (plain _ stored)).mpr spelled
  exact ⟨⟨c, done, authenticates.mpr ⟨_, stored, same⟩⟩, d, doneHalf, refused plain broken⟩

end UserStore

end SocksProxy
