import Mathlib.Data.List.Forall2
import SocksProxy.Proofs.Pop3.Lines

/-!
Conversations in lockstep: the client says a line, and says the next one when the server has
answered it. Between two such rounds nothing waits for an answer, whatever the lines were. So a
login is reported for every password behind a name, with the answer to this password, and for
nothing else.
-/

namespace SocksProxy.Pop3

def EitherCase (letter capital : UInt8) : Prop := letter = capital ∨ letter = capital + 0x20

/-- A segment that is not too long is this word, a space and the argument, up to one carriage return
at its end. -/
structure Says (word segment argument : Bytes) : Prop where
  short : segment.length ≤ longestLine
  spelled : ∃ letters, List.Forall₂ EitherCase letters word ∧
    trimmed segment = letters ++ 0x20 :: argument

theorem upper_eq_iff {letter capital : UInt8} (range : 65 ≤ capital ∧ capital ≤ 90) :
    upper letter = capital ↔ EitherCase letter capital := by
  unfold upper EitherCase
  split <;> grind

theorem map_upper_iff {letters word : Bytes} (capitals : ∀ c ∈ word, 65 ≤ c ∧ c ≤ 90) :
    letters.map upper = word ↔ List.Forall₂ EitherCase letters word := by
  rw [← List.forall₂_eq_eq_eq, List.forall₂_map_left_iff]
  induction letters generalizing word with
  | nil => cases word <;> simp
  | cons letter letters ih =>
      cases word with
      | nil => simp
      | cons c word =>
          rw [List.forall₂_cons, List.forall₂_cons, upper_eq_iff (capitals c List.mem_cons_self),
            ih fun c member => capitals c (List.mem_cons_of_mem _ member)]

theorem keyword_iff {text word argument : Bytes} (four : word.length = 4) :
    (text[4]? = some 0x20 ∧ (text.take 4).map upper = word ∧ text.drop 5 = argument) ↔
      ∃ letters, letters.map upper = word ∧ text = letters ++ 0x20 :: argument := by
  constructor
  · rintro ⟨space, same, rfl⟩
    obtain ⟨inside, space⟩ := List.getElem?_eq_some_iff.mp space
    refine ⟨text.take 4, same, ?_⟩
    conv => lhs; rw [← List.take_append_drop 4 text]
    rw [List.drop_eq_getElem_cons inside, space]
  · rintro ⟨letters, same, rfl⟩
    have length : letters.length = 4 := by rw [← four, ← same, List.length_map]
    refine ⟨?_, ?_, ?_⟩
    · rw [List.getElem?_append_right (Nat.le_of_eq length), length]
      rfl
    · rw [List.take_append_of_le_length (Nat.le_of_eq length.symm),
        List.take_of_length_le (Nat.le_of_eq length), same]
    · rw [List.drop_append, length, List.drop_of_length_le (by omega)]
      rfl

theorem said_iff {word segment argument : Bytes} (four : word.length = 4)
    (capitals : ∀ c ∈ word, 65 ≤ c ∧ c ≤ 90) :
    Says word segment argument ↔ segment.length ≤ longestLine ∧
      (trimmed segment)[4]? = some 0x20 ∧ ((trimmed segment).take 4).map upper = word ∧
        (trimmed segment).drop 5 = argument := by
  rw [keyword_iff four]
  constructor
  · rintro ⟨short, letters, same, spelled⟩
    exact ⟨short, letters, (map_upper_iff capitals).mpr same, spelled⟩
  · rintro ⟨short, letters, same, spelled⟩
    exact ⟨short, letters, (map_upper_iff capitals).mp same, spelled⟩

theorem said_user_iff {segment argument : Bytes} :
    Says userWord segment argument ↔ segment.length ≤ longestLine ∧
      Command.ofLine (trimmed segment) = .user argument := by
  rw [said_iff rfl (by decide +kernel)]
  unfold Command.ofLine
  grind [userWord, passWord]

theorem said_pass_iff {segment argument : Bytes} :
    Says passWord segment argument ↔ segment.length ≤ longestLine ∧
      Command.ofLine (trimmed segment) = .pass argument := by
  rw [said_iff rfl (by decide +kernel)]
  unfold Command.ofLine
  grind [userWord, passWord]

/-- What a client says, and how the server answers it: with a status and any further lines. -/
structure Round where
  request : Bytes
  status : Bytes
  further : List Bytes
  deriving DecidableEq

def Round.lines (round : Round) : List Line :=
  ⟨.client, round.request⟩ :: ⟨.server, round.status⟩ :: round.further.map (Line.mk .server)

structure Round.Answered (round : Round) : Prop where
  short : round.status.length ≤ longestLine
  marked : okMark <+: round.status ∨ errorMark <+: round.status

/-- The name in the latest user command of these rounds. -/
inductive Known : List Round → Option String → Prop
  | nobody {rounds : List Round}
      (silent : ∀ round ∈ rounds, ∀ name, ¬ Says userWord round.request name) : Known rounds none
  | latest {earlier later : List Round} {round : Round} {name : Bytes}
      (said : Says userWord round.request name)
      (silent : ∀ round ∈ later, ∀ name, ¬ Says userWord round.request name) :
      Known (earlier ++ round :: later) (some (Text.lossy name))

/-- A password is said here, and a name was said before. -/
structure IsLogin (rounds : List Round) (place : Nat) : Prop where
  pass : ∃ round password, rounds[place]? = some round ∧ Says passWord round.request password
  user : ∃ round name, round ∈ rounds.take place ∧ Says userWord round.request name

/-- A report has the name and the password of the login at this place, and the answer to it. -/
structure Tells (rounds : List Round) (sighting : Sighting) (place : Nat) : Prop where
  pass : ∃ round password, rounds[place]? = some round ∧ Says passWord round.request password ∧
    sighting.pass = Text.lossy password ∧ (sighting.accepted = true ↔ okMark <+: round.status)
  user : Known (rounds.take place) (some sighting.user)

variable {before after rounds : List Round} {round : Round} {s : Sniffer} {name : Option String}

theorem Known.named {argument : Bytes} (said : Says userWord round.request argument) :
    Known (before ++ [round]) (some (Text.lossy argument)) :=
  .latest said nofun

theorem Known.other (known : Known before name)
    (silent : ∀ argument, ¬ Says userWord round.request argument) :
    Known (before ++ [round]) name := by
  cases known with
  | nobody before =>
      exact .nobody (List.forall_mem_append.mpr ⟨before, List.forall_mem_singleton.mpr silent⟩)
  | latest said since =>
      rw [List.append_assoc, List.cons_append]
      exact .latest said (List.forall_mem_append.mpr ⟨since, List.forall_mem_singleton.mpr silent⟩)

theorem Known.isSome_iff (known : Known before name) :
    name.isSome ↔ ∃ round argument, round ∈ before ∧ Says userWord round.request argument := by
  cases known with
  | nobody silent =>
      refine ⟨nofun, ?_⟩
      rintro ⟨round, argument, member, said⟩
      exact absurd said (silent round member argument)
  | @latest _ _ round argument said =>
      refine ⟨fun _ => ⟨round, argument, ?_, said⟩, fun _ => rfl⟩
      exact List.mem_append_right _ List.mem_cons_self

theorem prefix_trimmed {mark segment : Bytes} (clean : carriageReturn ∉ mark) :
    mark <+: trimmed segment ↔ mark <+: segment := by
  unfold trimmed
  split
  · rename_i cut
    obtain ⟨front, rfl⟩ := List.getLast?_eq_some_iff.mp cut
    rw [List.dropLast_concat, List.prefix_concat_iff]
    refine ⟨.inr, fun ahead => ahead.resolve_left ?_⟩
    rintro rfl
    exact clean (List.mem_append_right _ List.mem_cons_self)
  · exact Iff.rfl

theorem Round.Answered.verdict (answered : round.Answered) :
    ∃ accepted, answer? (trimmed round.status) = some accepted ∧
      (accepted = true ↔ okMark <+: round.status) := by
  have good := @prefix_trimmed okMark round.status (by decide)
  have bad := @prefix_trimmed errorMark round.status (by decide)
  unfold answer?
  by_cases ok : okMark <+: round.status
  · rw [if_pos (List.isPrefixOf_iff_prefix.mpr (good.mpr ok))]
    exact ⟨true, rfl, iff_of_true rfl ok⟩
  · have error := answered.marked.resolve_left ok
    rw [if_neg (fun ahead => ok (good.mp (List.isPrefixOf_iff_prefix.mp ahead))),
      if_pos (List.isPrefixOf_iff_prefix.mpr (bad.mpr error))]
    exact ⟨false, rfl, iff_of_false Bool.false_ne_true ok⟩

namespace Sniffer

/-- A sniffer sees the request if it is not too long, and then the status. -/
def exchange (s : Sniffer) (round : Round) : Option Sighting × Sniffer :=
  let asked := if round.request.length ≤ longestLine then s.command (trimmed round.request) else s
  asked.answer (trimmed round.status)

section Exchange

variable {accepted : Bool} (idle : s.pending = [])
  (verdict : answer? (trimmed round.status) = some accepted)

include idle verdict

theorem exchange_user {argument : Bytes} (said : Says userWord round.request argument) :
    s.exchange round =
      (none, { s with user := some (Text.lossy argument), pass := none, pending := [] }) := by
  obtain ⟨short, line⟩ := said_user_iff.mp said
  unfold exchange command answer
  rw [if_pos short, line, verdict, idle]
  rfl

theorem exchange_pass {password : Bytes} (said : Says passWord round.request password) :
    s.exchange round = (s.user.map (⟨·, Text.lossy password, accepted⟩),
      { s with pass := none, pending := [] }) := by
  obtain ⟨short, line⟩ := said_pass_iff.mp said
  unfold exchange command answer
  rw [if_pos short, line, verdict, idle]
  cases s.user <;> rfl

/-- A command of no interest comes and goes; a line that is too long is no command, and its answer
finds nothing that waits. -/
theorem exchange_other (noUser : ∀ argument, ¬ Says userWord round.request argument)
    (noPass : ∀ argument, ¬ Says passWord round.request argument) :
    s.exchange round = (none, s) := by
  unfold exchange
  by_cases short : round.request.length ≤ longestLine
  · have line : Command.ofLine (trimmed round.request) = .other := by
      cases line : Command.ofLine (trimmed round.request) with
      | user argument => exact absurd (said_user_iff.mpr ⟨short, line⟩) (noUser argument)
      | pass argument => exact absurd (said_pass_iff.mpr ⟨short, line⟩) (noPass argument)
      | other => rfl
    unfold command answer
    rw [if_pos short, line, verdict, idle]
    obtain ⟨client, server, pending, user, pass⟩ := s
    cases idle
    rfl
  · rw [if_neg short]
    exact answer_idle idle _

end Exchange

theorem attend_round (short : round.status.length ≤ longestLine)
    (idle : (s.exchange round).2.pending = []) (rest : List Line) :
    s.attend (round.lines.filter Line.isShort ++ rest) =
      (s.exchange round).1.toList ++ (s.exchange round).2.attend rest := by
  have server : ∀ line ∈ (round.further.map (Line.mk .server)).filter Line.isShort,
      line.side = .server := fun _ => side_of_short
  have status : (Line.mk .server round.status).isShort = true := decide_eq_true short
  -- Whatever the further lines look like, they meet an empty queue.
  rw [← attend_idle idle server rest]
  unfold exchange Round.lines
  by_cases seen : round.request.length ≤ longestLine
  · have request : (Line.mk .client round.request).isShort = true := decide_eq_true seen
    rw [if_pos seen, List.filter_cons_of_pos request, List.filter_cons_of_pos status]
    rfl
  · have request : ¬ (Line.mk .client round.request).isShort = true := by
      rw [Line.isShort, decide_eq_true_eq]
      exact seen
    rw [if_neg seen, List.filter_cons_of_neg request, List.filter_cons_of_pos status]
    rfl

end Sniffer

/-- Nothing waits for an answer, and the name is the latest one. -/
structure Settled (before : List Round) (s : Sniffer) : Prop where
  idle : s.pending = []
  known : Known before s.user

theorem settled_exchange (settled : Settled before s) (answered : round.Answered) :
    Settled (before ++ [round]) (s.exchange round).2 := by
  obtain ⟨idle, known⟩ := settled
  obtain ⟨accepted, verdict, -⟩ := answered.verdict
  by_cases named : ∃ argument, Says userWord round.request argument
  · obtain ⟨argument, said⟩ := named
    rw [Sniffer.exchange_user idle verdict said]
    exact ⟨rfl, .named said⟩
  have silent : ∀ argument, ¬ Says userWord round.request argument := not_exists.mp named
  by_cases secured : ∃ password, Says passWord round.request password
  · obtain ⟨password, said⟩ := secured
    rw [Sniffer.exchange_pass idle verdict said]
    exact ⟨rfl, known.other silent⟩
  · rw [Sniffer.exchange_other idle verdict silent (not_exists.mp secured)]
    exact ⟨idle, known.other silent⟩

theorem Tells.isLogin {sighting : Sighting} {place : Nat} (tells : Tells rounds sighting place) :
    IsLogin rounds place := by
  obtain ⟨⟨round, password, here, said, -⟩, known⟩ := tells
  exact ⟨⟨round, password, here, said⟩, known.isSome_iff.mp rfl⟩

theorem tells_exchange (settled : Settled before s) (answered : round.Answered)
    (whole : rounds = before ++ round :: after) :
    (∃ sighting, (s.exchange round).1 = some sighting ∧ Tells rounds sighting before.length) ∨
      ((s.exchange round).1 = none ∧ ¬ IsLogin rounds before.length) := by
  obtain ⟨idle, known⟩ := settled
  obtain ⟨accepted, verdict, good⟩ := answered.verdict
  have here : rounds[before.length]? = some round := by
    rw [whole, List.getElem?_append_right (Nat.le_refl _), Nat.sub_self]
    rfl
  have past : rounds.take before.length = before := by rw [whole, List.take_left]
  by_cases secured : ∃ password, Says passWord round.request password
  · obtain ⟨password, said⟩ := secured
    rw [Sniffer.exchange_pass idle verdict said]
    cases user : s.user with
    | some name =>
        refine .inl ⟨_, rfl, ⟨round, password, here, said, rfl, good⟩, ?_⟩
        rw [past, ← user]
        exact known
    | none =>
        refine .inr ⟨rfl, fun login => ?_⟩
        have some := known.isSome_iff.mpr (past ▸ login.user)
        rw [user] at some
        cases some
  · have noLogin : ¬ IsLogin rounds before.length := by
      rintro ⟨⟨other, password, there, said⟩, -⟩
      cases here.symm.trans there
      exact secured ⟨password, said⟩
    refine .inr ⟨?_, noLogin⟩
    by_cases named : ∃ argument, Says userWord round.request argument
    · obtain ⟨argument, said⟩ := named
      rw [Sniffer.exchange_user idle verdict said]
    · rw [Sniffer.exchange_other idle verdict (not_exists.mp named) (not_exists.mp secured)]

/-- From here on the logins are reported in turn. -/
theorem attend_rounds (settled : Settled before s) (answered : ∀ round ∈ after, round.Answered)
    (waiting : Option Bytes) (whole : rounds = before ++ after) :
    ∃ places : List Nat, places.Pairwise (· < ·) ∧
      (∀ place, place ∈ places ↔ before.length ≤ place ∧ IsLogin rounds place) ∧
      List.Forall₂ (Tells rounds) (s.attend ((after.flatMap Round.lines ++
        waiting.toList.map (Line.mk .client)).filter Line.isShort)) places := by
  -- On the rounds to come; those before are where a login finds its name.
  induction after generalizing before s with
  | nil =>
      refine ⟨[], .nil, fun place => iff_of_false List.not_mem_nil ?_, ?_⟩
      · rintro ⟨beyond, ⟨round, password, here, -⟩, -⟩
        rw [whole, List.append_nil, List.getElem?_eq_none beyond] at here
        cases here
      · have client : ∀ line ∈ (waiting.toList.map (Line.mk .client)).filter Line.isShort,
            line.side = .client := fun _ => side_of_short
        rw [List.flatMap_nil, List.nil_append,
          ← List.append_nil ((waiting.toList.map (Line.mk .client)).filter Line.isShort),
          Sniffer.attend_client client]
        exact .nil
  | cons round after ih =>
      have first := answered round List.mem_cons_self
      have next := settled_exchange settled first
      obtain ⟨places, inTurn, member, told⟩ := ih next
        (fun other among => answered other (List.mem_cons_of_mem _ among))
        (by rw [whole, List.append_assoc]; rfl)
      have onward : ∀ place, place ∈ places ↔ before.length < place ∧ IsLogin rounds place := by
        intro place
        rw [member, List.length_append]
        exact Iff.rfl
      rw [List.flatMap_cons, List.append_assoc, List.filter_append,
        Sniffer.attend_round first.short next.idle]
      rcases tells_exchange settled first whole with ⟨sighting, seen, tells⟩ | ⟨seen, noLogin⟩
      · refine ⟨before.length :: places, ?_, fun place => ?_, ?_⟩
        · exact List.pairwise_cons.mpr ⟨fun place among => ((onward place).mp among).1, inTurn⟩
        · rw [List.mem_cons, onward, Nat.le_iff_lt_or_eq]
          have login := tells.isLogin
          constructor
          · rintro (rfl | ⟨later, isLogin⟩)
            · exact ⟨.inr rfl, login⟩
            · exact ⟨.inl later, isLogin⟩
          · rintro ⟨later | rfl, isLogin⟩
            · exact .inr ⟨later, isLogin⟩
            · exact .inl rfl
        · rw [seen]
          exact .cons tells told
      · refine ⟨places, inTurn, fun place => ?_, ?_⟩
        · rw [onward, Nat.le_iff_lt_or_eq]
          constructor
          · rintro ⟨later, isLogin⟩
            exact ⟨.inl later, isLogin⟩
          · rintro ⟨later | rfl, isLogin⟩
            · exact ⟨later, isLogin⟩
            · exact absurd isLogin noLogin
        · rw [seen]
          exact told

theorem settled_new : Settled [] Sniffer.new := ⟨rfl, .nobody nofun⟩

/-- However a conversation is cut into chunks, a sniffer reports its logins in turn, each one with
the latest name, the password, and the answer to this password. -/
theorem logins_of_lockstep (chunks : List Chunk) (opening : List Bytes) (rounds : List Round)
    (waiting : Option Bytes) (answered : ∀ round ∈ rounds, round.Answered)
    (whole : lines ⟨[], []⟩ chunks = opening.map (Line.mk .server) ++
      (rounds.flatMap Round.lines ++ waiting.toList.map (Line.mk .client))) :
    ∃ places : List Nat, places.Pairwise (· < ·) ∧
      (∀ place, place ∈ places ↔ IsLogin rounds place) ∧
      List.Forall₂ (Tells rounds) (Sniffer.new.follow chunks) places := by
  have greeting : ∀ line ∈ (opening.map (Line.mk .server)).filter Line.isShort,
      line.side = .server := fun _ => side_of_short
  obtain ⟨places, inTurn, member, told⟩ := attend_rounds settled_new answered waiting rfl
  refine ⟨places, inTurn, fun place => ?_, ?_⟩
  · rw [member]
    exact and_iff_right (Nat.zero_le place)
  · rw [Sniffer.follow_eq chunks ⟨[], []⟩ rfl rfl, whole, List.filter_append,
      Sniffer.attend_idle rfl greeting]
    exact told

/-- A name, a line that is too long, and a password in small letters that is refused whatever the
server adds. The chunks end anywhere, and the last line is not answered. -/
theorem logins_of_lockstep_refused :
    let long : Bytes := List.replicate 513 120
    let chunks : List Chunk := [⟨.client, [0x55, 0x53]⟩, ⟨.server, [0x2B, 0x4F, 0x4B, 0x0A]⟩,
      ⟨.client, [0x45, 0x52, 0x20, 97, 0x0D, 0x0A]⟩, ⟨.server, [0x2B, 0x4F, 0x4B, 0x0A]⟩,
      ⟨.client, long ++ [0x0A, 0x70]⟩, ⟨.server, [0x2D, 0x45, 0x52, 0x52, 0x0A]⟩,
      ⟨.client, [0x61, 0x73, 0x73, 0x20, 98, 0x0A]⟩,
      ⟨.server, [0x2D, 0x45, 0x52, 0x52, 0x0A, 0x2B, 0x4F]⟩, ⟨.server, [0x4B, 0x0A]⟩,
      ⟨.client, [0x70, 0x61, 0x73, 0x73, 0x20, 98, 0x0A]⟩]
    let rounds : List Round :=
      [⟨[0x55, 0x53, 0x45, 0x52, 0x20, 97, 0x0D], [0x2B, 0x4F, 0x4B], []⟩,
        ⟨long, [0x2D, 0x45, 0x52, 0x52], []⟩,
        ⟨[0x70, 0x61, 0x73, 0x73, 0x20, 98], [0x2D, 0x45, 0x52, 0x52], [[0x2B, 0x4F, 0x4B]]⟩]
    Sniffer.new.follow chunks = [⟨"a", "b", false⟩] ∧
      ∃ places : List Nat, places.Pairwise (· < ·) ∧
        (∀ place, place ∈ places ↔ IsLogin rounds place) ∧
        List.Forall₂ (Tells rounds) (Sniffer.new.follow chunks) places := by
  intro long chunks rounds
  have answered : ∀ round ∈ rounds, round.Answered := by
    intro round member
    have facts : ∀ round ∈ rounds, round.status.length ≤ longestLine ∧
        (okMark <+: round.status ∨ errorMark <+: round.status) := by decide +kernel
    exact ⟨(facts round member).1, (facts round member).2⟩
  have whole : lines ⟨[], []⟩ chunks = [[0x2B, 0x4F, 0x4B]].map (Line.mk .server) ++
      (rounds.flatMap Round.lines ++
        (some [0x70, 0x61, 0x73, 0x73, 0x20, 98]).toList.map (Line.mk .client)) := by
    decide +kernel
  exact ⟨by decide +kernel, logins_of_lockstep chunks _ rounds _ answered whole⟩

end SocksProxy.Pop3
