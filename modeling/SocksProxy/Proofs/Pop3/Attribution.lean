import Mathlib.Data.List.Forall2
import Mathlib.Data.List.Infix
import SocksProxy.Proofs.Pop3.Lines
import SocksProxy.Proofs.Pop3.Queue

/-!
Whose password an answer is about. A client may send commands before earlier ones are answered. The
queue knows which command an answer belongs to, but there is one name and one password only, those
that were sent last. So a report tells the answer to one password with the name and the password of
another one, if that was sent before the answer came.
-/

namespace SocksProxy.Pop3

def Command.kind : Command → Pending
  | .user _ => .user
  | .pass _ => .pass
  | .other => .other 1

def Command.user? : Command → Option Bytes
  | .user argument => some argument
  | _ => none

def Command.isPass : Command → Bool
  | .pass _ => true
  | _ => false

def commands (said : List Line) : List Command :=
  said.filterMap fun line =>
    match line.side with
    | .client => some (Command.ofLine line.text)
    | .server => none

def verdicts (said : List Line) : List Bool :=
  said.filterMap fun line =>
    match line.side with
    | .client => none
    | .server => answer? line.text

def unanswered (said : List Line) : List Command :=
  (commands said).drop (verdicts said).length

def queued (said : List Line) : List Pending :=
  Pending.runs ((unanswered said).map Command.kind)

def latestUser (commands : List Command) : Option Bytes :=
  (commands.filterMap Command.user?).getLast?

/-- The server speaks first. Then each of its answers is to the next command, which has come before,
and at no time more commands wait than a queue can hold. -/
structure Orderly (opening said : List Line) : Prop where
  greeting : ∀ line ∈ opening, line.side = .server
  inOrder : ∀ before ∈ said.inits, (verdicts before).length ≤ (commands before).length
  bounded : ∀ before ∈ said.inits, (queued before).length ≤ Pending.most
  countable : said.length ≤ Pending.longestRun

/-- A report has the password of this command, and the name in the latest user command before it. -/
structure Belongs (said : List Line) (place : Nat) (sighting : Sighting) : Prop where
  pass : ∃ argument, (commands said)[place]? = some (.pass argument) ∧
    sighting.pass = Text.lossy argument
  user : ∃ argument, latestUser ((commands said).take place) = some argument ∧
    sighting.user = Text.lossy argument

/-- A report tells how one password was answered, and has another one that was sent last by then. -/
structure Reports (said : List Line) (sighting : Sighting) (answered sent : Nat) : Prop where
  verdict : (verdicts said)[answered]? = some sighting.accepted
  asked : ∃ argument, (commands said)[answered]? = some (.pass argument)
  belongs : Belongs said sent sighting
  later : answered ≤ sent
  -- The command was sent before the answer came.
  ahead : ∃ before ∈ said.inits, (verdicts before).length = answered ∧
    sent < (commands before).length

theorem commands_concat (said : List Line) (line : Line) :
    commands (said ++ [line]) = commands said ++ commands [line] := List.filterMap_append

theorem verdicts_concat (said : List Line) (line : Line) :
    verdicts (said ++ [line]) = verdicts said ++ verdicts [line] := List.filterMap_append

theorem commands_mono {early late : List Line} (so : early <+: late) :
    commands early <+: commands late := so.filterMap _

theorem verdicts_mono {early late : List Line} (so : early <+: late) :
    verdicts early <+: verdicts late := so.filterMap _

theorem isSingle_kind (command : Command) : Pending.IsSingle command.kind := by
  intro count same
  cases command <;> cases same
  rfl

theorem singles (sent : List Command) :
    ∀ command ∈ sent.map Command.kind, Pending.IsSingle command := by
  intro command member
  obtain ⟨source, -, rfl⟩ := List.mem_map.mp member
  exact isSingle_kind source

theorem unanswered_length_le (said : List Line) : (unanswered said).length ≤ said.length := by
  have all : (commands said).length ≤ said.length := List.length_filterMap_le _ _
  rw [unanswered, List.length_drop]
  omega

structure Latest (commands : List Command) (place : Nat) (argument : Bytes) : Prop where
  pass : commands[place]? = some (.pass argument)
  beyond : ∀ later, place < later → later < commands.length → commands[later]? = some .other

/-- What a sniffer knows when so much has been said, and these reports have been made. -/
structure Stands (said : List Line) (reports : List (Nat × Nat)) (s : Sniffer) : Prop where
  pending : s.pending = queued said
  user : s.user = (latestUser (commands said)).map Text.lossy
  pass : ∀ known, s.pass = some known → ∃ place argument,
    Latest (commands said) place argument ∧ known = Text.lossy argument ∧
      ∀ report ∈ reports, report.2 < place
  reported : ∀ report ∈ reports,
    report.1 < (verdicts said).length ∧ report.2 < (commands said).length
  inTurn : reports.Pairwise fun one next => one.1 < next.1 ∧ one.2 < next.2

variable {opening said before : List Line} {line : Line} {reports : List (Nat × Nat)} {s : Sniffer}

theorem Latest.concat {sent : List Command} {place : Nat} {argument : Bytes}
    (latest : Latest sent place argument) : Latest (sent ++ [.other]) place argument := by
  obtain ⟨inside, -⟩ := List.getElem?_eq_some_iff.mp latest.pass
  refine ⟨(List.getElem?_append_left inside).trans latest.pass, ?_⟩
  intro later beyond within
  rcases Nat.lt_or_ge later sent.length with old | new
  · exact (List.getElem?_append_left old).trans (latest.beyond later beyond old)
  · have last : later = sent.length := by
      rw [List.length_append, List.length_singleton] at within
      omega
    rw [last, List.getElem?_concat_length]

theorem latest_concat (sent : List Command) (argument : Bytes) :
    Latest (sent ++ [.pass argument]) sent.length argument := by
  refine ⟨List.getElem?_concat_length, ?_⟩
  intro later beyond within
  rw [List.length_append, List.length_singleton] at within
  omega

section Questions

variable (client : line.side = .client)

include client

theorem commands_client :
    commands (before ++ [line]) = commands before ++ [Command.ofLine line.text] := by
  rw [commands_concat]
  simp only [commands, List.filterMap_cons, client, List.filterMap_nil]

theorem verdicts_client : verdicts (before ++ [line]) = verdicts before := by
  rw [verdicts_concat]
  simp only [verdicts, List.filterMap_cons, client, List.filterMap_nil, List.append_nil]

theorem unanswered_client (inOrder : (verdicts before).length ≤ (commands before).length) :
    unanswered (before ++ [line]) = unanswered before ++ [Command.ofLine line.text] := by
  rw [unanswered, commands_client client, verdicts_client client,
    List.drop_append_of_le_length inOrder]
  rfl

theorem queued_client (inOrder : (verdicts before).length ≤ (commands before).length)
    (bounded : (queued (before ++ [line])).length ≤ Pending.most)
    (countable : (before ++ [line]).length ≤ Pending.longestRun) :
    Pending.push (queued before) (Command.ofLine line.text).kind = queued (before ++ [line]) := by
  have kinds : (unanswered (before ++ [line])).map Command.kind =
      (unanswered before).map Command.kind ++ [(Command.ofLine line.text).kind] := by
    rw [unanswered_client client inOrder, List.map_append]
    rfl
  have single := singles (unanswered (before ++ [line]))
  have short : (unanswered (before ++ [line])).length ≤ Pending.longestRun :=
    Nat.le_trans (unanswered_length_le _) countable
  rw [← List.length_map Command.kind, kinds] at short
  rw [kinds] at single
  rw [queued, kinds] at bounded
  rw [queued, queued, kinds]
  exact Pending.push_runs single bounded short

theorem reported_client (stands : Stands before reports s) :
    ∀ report ∈ reports, report.1 < (verdicts (before ++ [line])).length ∧
      report.2 < (commands (before ++ [line])).length := by
  intro report member
  obtain ⟨answered, told⟩ := stands.reported report member
  rw [commands_client client, verdicts_client client, List.length_append]
  exact ⟨answered, by omega⟩

theorem stands_client (stands : Stands before reports s)
    (inOrder : (verdicts before).length ≤ (commands before).length)
    (bounded : (queued (before ++ [line])).length ≤ Pending.most)
    (countable : (before ++ [line]).length ≤ Pending.longestRun) :
    Stands (before ++ [line]) reports (s.command line.text) := by
  have sent : commands (before ++ [line]) = commands before ++ [Command.ofLine line.text] :=
    commands_client client
  have still := reported_client client stands
  have grows : Pending.push s.pending (Command.ofLine line.text).kind =
      queued (before ++ [line]) := by
    rw [stands.pending]
    exact queued_client client inOrder bounded countable
  obtain ⟨-, user, pass, reported, inTurn⟩ := stands
  unfold Sniffer.command
  generalize Command.ofLine line.text = command at grows sent
  cases command with
  | user argument =>
      refine ⟨grows, ?_, fun _ impossible => (by cases impossible), still, inTurn⟩
      rw [sent, latestUser, List.filterMap_append]
      exact (congrArg (Option.map Text.lossy) List.getLast?_concat).symm
  | pass argument =>
      refine ⟨grows, ?_, ?_, still, inTurn⟩
      · rw [sent, latestUser, List.filterMap_append, user]
        exact congrArg (fun users => users.getLast?.map Text.lossy) (List.append_nil _).symm
      · intro known same
        cases same
        rw [sent]
        exact ⟨_, argument, latest_concat _ argument, rfl,
          fun report member => (reported report member).2⟩
  | other =>
      refine ⟨grows, ?_, ?_, still, inTurn⟩
      · rw [sent, latestUser, List.filterMap_append, user]
        exact congrArg (fun users => users.getLast?.map Text.lossy) (List.append_nil _).symm
      · intro known same
        obtain ⟨place, argument, latest, meaning, later⟩ := pass known same
        rw [sent]
        exact ⟨place, argument, latest.concat, meaning, later⟩

end Questions

theorem commands_server (server : line.side = .server) :
    commands (before ++ [line]) = commands before := by
  rw [commands_concat]
  simp only [commands, List.filterMap_cons, server, List.filterMap_nil, List.append_nil]

theorem verdicts_server (server : line.side = .server) :
    verdicts (before ++ [line]) = verdicts before ++ (answer? line.text).toList := by
  rw [verdicts_concat]
  cases verdict : answer? line.text <;>
    simp only [verdicts, List.filterMap_cons, server, verdict, List.filterMap_nil, Option.toList]

theorem stands_silent (server : line.side = .server) (silent : answer? line.text = none)
    (stands : Stands before reports s) :
    s.answer line.text = (none, s) ∧ Stands (before ++ [line]) reports s := by
  have heard : verdicts (before ++ [line]) = verdicts before := by
    rw [verdicts_server server, silent]
    exact List.append_nil _
  obtain ⟨pending, user, pass, reported, inTurn⟩ := stands
  have sent : commands (before ++ [line]) = commands before := commands_server server
  have waits : unanswered (before ++ [line]) = unanswered before := by
    rw [unanswered, sent, heard]
    rfl
  refine ⟨by rw [Sniffer.answer, silent], ?_, ?_, ?_, ?_, inTurn⟩
  · rw [queued, waits]
    exact pending
  · rw [sent]
    exact user
  · rw [sent]
    exact pass
  · rw [sent, heard]
    exact reported

theorem Latest.user {sent : List Command} {place : Nat} {argument : Bytes}
    (latest : Latest sent place argument) : latestUser (sent.take place) = latestUser sent := by
  have nobody : (sent.drop place).filterMap Command.user? = [] := by
    rw [List.filterMap_eq_nil_iff]
    intro command member
    obtain ⟨offset, same⟩ := List.mem_iff_getElem?.mp member
    rw [List.getElem?_drop] at same
    obtain ⟨inside, -⟩ := List.getElem?_eq_some_iff.mp same
    cases offset with
    | zero =>
        cases same.symm.trans latest.pass
        rfl
    | succ beyond =>
        cases same.symm.trans (latest.beyond _ (Nat.lt_add_of_pos_right (Nat.succ_pos _)) inside)
        rfl
  have split : sent.filterMap Command.user? = (sent.take place).filterMap Command.user? := by
    conv => lhs; rw [← List.take_append_drop place sent]
    rw [List.filterMap_append, nobody, List.append_nil]
  rw [latestUser, latestUser, split]

theorem getElem?_mono {α : Type} {early late : List α} {place : Nat} {entry : α}
    (so : early <+: late) (here : early[place]? = some entry) : late[place]? = some entry := by
  obtain ⟨after, rfl⟩ := so
  obtain ⟨inside, -⟩ := List.getElem?_eq_some_iff.mp here
  exact (List.getElem?_append_left inside).trans here

theorem belongs_of_latest {place : Nat} {argument name : Bytes} {sighting : Sighting}
    (so : before <+: said) (latest : Latest (commands before) place argument)
    (named : latestUser (commands before) = some name) (user : sighting.user = Text.lossy name)
    (pass : sighting.pass = Text.lossy argument) : Belongs said place sighting := by
  obtain ⟨inside, -⟩ := List.getElem?_eq_some_iff.mp latest.pass
  have sent : commands before <+: commands said := commands_mono so
  refine ⟨⟨argument, getElem?_mono sent latest.pass, pass⟩, name, ?_, user⟩
  obtain ⟨after, further⟩ := sent
  rw [← further, List.take_append_of_le_length (Nat.le_of_lt inside), latest.user]
  exact named

section Answers

variable {accepted : Bool} (server : line.side = .server)
  (answers : answer? line.text = some accepted)

include server answers

theorem verdicts_answer : verdicts (before ++ [line]) = verdicts before ++ [accepted] := by
  rw [verdicts_server server, answers]
  rfl

theorem unanswered_answer (inOrder : (verdicts before).length < (commands before).length) :
    ∃ command, (commands before)[(verdicts before).length]? = some command ∧
      unanswered before = command :: unanswered (before ++ [line]) := by
  refine ⟨_, List.getElem?_eq_getElem inOrder, ?_⟩
  rw [unanswered, unanswered, commands_server server, verdicts_answer server answers,
    List.length_append, List.length_singleton]
  exact List.drop_eq_getElem_cons inOrder

theorem reported_answer (stands : Stands before reports s) :
    ∀ report ∈ reports, report.1 < (verdicts (before ++ [line])).length ∧
      report.2 < (commands (before ++ [line])).length := by
  intro report member
  obtain ⟨answered, told⟩ := stands.reported report member
  rw [commands_server server, verdicts_answer server answers, List.length_append]
  exact ⟨by omega, told⟩

/-- Without a report, a password is forgotten at most. -/
theorem stands_unreported (stands : Stands before reports s) (left : Option String)
    (same : ∀ known, left = some known → s.pass = some known) :
    Stands (before ++ [line]) reports
      { s with pending := queued (before ++ [line]), pass := left } := by
  refine ⟨rfl, ?_, ?_, reported_answer server answers stands, stands.inTurn⟩
  · rw [commands_server server]
    exact stands.user
  · rw [commands_server server]
    exact fun known here => stands.pass known (same known here)

/-- The answer to a password is reported with the latest one, which is not an earlier one. -/
theorem stands_login {argument : Bytes} {name known : String} (stands : Stands before reports s)
    (so : before ++ [line] <+: said)
    (asked : (commands before)[(verdicts before).length]? = some (.pass argument))
    (named : s.user = some name) (here : s.pass = some known) :
    ∃ place, Reports said ⟨name, known, accepted⟩ (verdicts before).length place ∧
      Stands (before ++ [line]) (reports ++ [((verdicts before).length, place)])
        { s with pending := queued (before ++ [line]), pass := none } := by
  obtain ⟨place, last, latest, meaning, later⟩ := stands.pass known here
  obtain ⟨told, latestName, rfl⟩ := Option.map_eq_some_iff.mp (stands.user.symm.trans named)
  obtain ⟨inside, -⟩ := List.getElem?_eq_some_iff.mp latest.pass
  obtain ⟨inOrder, -⟩ := List.getElem?_eq_some_iff.mp asked
  have heard : verdicts (before ++ [line]) = verdicts before ++ [accepted] :=
    verdicts_answer server answers
  have order : (verdicts before).length ≤ place := by
    refine Nat.le_of_not_lt fun earlier => ?_
    cases asked.symm.trans (latest.beyond _ earlier inOrder)
  have front : before <+: said := (List.prefix_append before [line]).trans so
  have verdict : (verdicts said)[(verdicts before).length]? = some accepted := by
    apply getElem?_mono (verdicts_mono so)
    rw [heard]
    exact List.getElem?_concat_length
  have first : (commands said)[(verdicts before).length]? = some (.pass argument) :=
    getElem?_mono (commands_mono front) asked
  have silent := stands_unreported server answers stands none fun _ impossible => by
    cases impossible
  refine ⟨place, ⟨verdict, ⟨argument, first⟩, belongs_of_latest front latest latestName rfl meaning,
    order, before, (List.mem_inits _ _).mpr front, rfl, inside⟩, silent.pending, silent.user,
    fun _ impossible => (by cases impossible), ?_, ?_⟩
  · intro report member
    rcases List.mem_append.mp member with old | new
    · exact silent.reported report old
    · rw [List.mem_singleton.mp new, heard, commands_server server, List.length_append]
      exact ⟨Nat.lt_succ_self _, inside⟩
  · rw [List.pairwise_append]
    refine ⟨stands.inTurn, List.pairwise_singleton _ _, ?_⟩
    intro report member new single
    rw [List.mem_singleton.mp single]
    exact ⟨(stands.reported report member).1, later report member⟩

theorem stands_answer (stands : Stands before reports s) (so : before ++ [line] <+: said)
    (inOrder : (verdicts (before ++ [line])).length ≤ (commands (before ++ [line])).length) :
    ∃ more : List (Nat × Nat),
      List.Forall₂ (fun sighting report => Reports said sighting report.1 report.2)
        (s.answer line.text).1.toList more ∧
      Stands (before ++ [line]) (reports ++ more) (s.answer line.text).2 := by
  rw [commands_server server, verdicts_answer server answers, List.length_append,
    List.length_singleton] at inOrder
  obtain ⟨command, asked, waits⟩ := unanswered_answer server answers inOrder
  have popped : Pending.pop s.pending = (some command.kind, queued (before ++ [line])) := by
    rw [stands.pending, queued, waits]
    exact Pending.pop_runs (singles (command :: unanswered (before ++ [line])))
  have silent : ∀ left : Option String, (∀ known, left = some known → s.pass = some known) →
      Stands (before ++ [line]) (reports ++ [])
        { s with pending := queued (before ++ [line]), pass := left } := by
    rw [List.append_nil]
    exact stands_unreported server answers stands
  unfold Sniffer.answer
  rw [answers]
  dsimp only
  rw [popped]
  cases command with
  | user argument => exact ⟨[], .nil, silent s.pass fun _ => id⟩
  | other => exact ⟨[], .nil, silent s.pass fun _ => id⟩
  | pass argument =>
      dsimp only [Command.kind]
      split
      · rename_i name known named here
        obtain ⟨place, report, next⟩ := stands_login server answers stands so asked named here
        exact ⟨[((verdicts before).length, place)], .cons report .nil, next⟩
      · exact ⟨[], .nil, silent none fun _ impossible => by cases impossible⟩

end Answers

/-- Every line either waits for its answer, is passed over, or answers the next command. -/
theorem stands_line (stands : Stands before reports s) (so : before ++ [line] <+: said)
    (orderly : Orderly opening said) :
    ∃ seen : List Sighting, ∃ more : List (Nat × Nat), ∃ next : Sniffer,
      (∀ rest, s.attend (line :: rest) = seen ++ next.attend rest) ∧
      List.Forall₂ (fun sighting report => Reports said sighting report.1 report.2) seen more ∧
      Stands (before ++ [line]) (reports ++ more) next := by
  have front : before <+: said := (List.prefix_append before [line]).trans so
  have member : before ++ [line] ∈ said.inits := (List.mem_inits _ _).mpr so
  cases side : line.side with
  | client =>
      have inOrder := orderly.inOrder before ((List.mem_inits _ _).mpr front)
      have countable : (before ++ [line]).length ≤ Pending.longestRun :=
        Nat.le_trans so.length_le orderly.countable
      have next := stands_client side stands inOrder (orderly.bounded _ member) countable
      refine ⟨[], [], _, ?_, .nil, (List.append_nil reports).symm ▸ next⟩
      intro rest
      rw [Sniffer.attend, side]
      rfl
  | server =>
      have attends : ∀ rest, s.attend (line :: rest) =
          (s.answer line.text).1.toList ++ (s.answer line.text).2.attend rest := by
        intro rest
        rw [Sniffer.attend, side]
      cases verdict : answer? line.text with
      | none =>
          obtain ⟨same, next⟩ := stands_silent side verdict stands
          rw [same] at attends
          exact ⟨[], [], s, attends, .nil, (List.append_nil reports).symm ▸ next⟩
      | some accepted =>
          obtain ⟨more, seen, next⟩ :=
            stands_answer side verdict stands so (orderly.inOrder _ member)
          exact ⟨_, more, _, attends, seen, next⟩

theorem reports_attend (rest : List Line) (stands : Stands before reports s)
    (whole : said = before ++ rest) (orderly : Orderly opening said) :
    ∃ more : List (Nat × Nat),
      List.Forall₂ (fun sighting report => Reports said sighting report.1 report.2)
        (s.attend rest) more ∧
      (reports ++ more).Pairwise fun one next => one.1 < next.1 ∧ one.2 < next.2 := by
  induction rest generalizing before reports s with
  | nil => exact ⟨[], .nil, (List.append_nil reports).symm ▸ stands.inTurn⟩
  | cons line rest ih =>
      have split : said = (before ++ [line]) ++ rest := by
        rw [whole, List.append_assoc]
        rfl
      obtain ⟨seen, first, next, attends, reported, onward⟩ :=
        stands_line stands ⟨rest, split.symm⟩ orderly
      obtain ⟨later, told, inTurn⟩ := ih onward split
      rw [attends]
      exact ⟨first ++ later, List.rel_append reported told, (List.append_assoc _ _ _) ▸ inTurn⟩

theorem attend_greeting (greeting : ∀ line ∈ opening, line.side = .server) (rest : List Line) :
    Sniffer.new.attend (opening ++ rest) = Sniffer.new.attend rest :=
  Sniffer.attend_idle rfl greeting rest

theorem stands_new : Stands [] [] Sniffer.new :=
  ⟨rfl, rfl, fun _ impossible => (by cases impossible), by simp, .nil⟩

/-- A password that is answered while no other one waits is reported with its own answer. -/
theorem Reports.same {sighting : Sighting} {answered sent : Nat}
    (reports : Reports said sighting answered sent)
    (alone : ∀ before ∈ said.inits, (unanswered before).countP Command.isPass ≤ 1) :
    answered = sent := by
  obtain ⟨before, member, here, ahead⟩ := reports.ahead
  obtain ⟨argument, first⟩ := reports.asked
  obtain ⟨other, second, -⟩ := reports.belongs.pass
  refine Nat.le_antisymm reports.later (Nat.le_of_not_lt fun earlier => ?_)
  obtain ⟨after, further⟩ := commands_mono ((List.mem_inits _ _).mp member)
  have inside : answered < (commands before).length := Nat.lt_trans earlier ahead
  rw [← further, List.getElem?_append_left inside] at first
  rw [← further, List.getElem?_append_left ahead] at second
  have waits : unanswered before =
      .pass argument :: (commands before).drop (answered + 1) := by
    obtain ⟨within, same⟩ := List.getElem?_eq_some_iff.mp first
    rw [unanswered, here, List.drop_eq_getElem_cons within, same]
  have too : .pass other ∈ (commands before).drop (answered + 1) := by
    refine List.mem_iff_getElem?.mpr ⟨sent - (answered + 1), ?_⟩
    rw [List.getElem?_drop, Nat.add_sub_cancel' earlier]
    exact second
  have one := alone before member
  have more : 0 < ((commands before).drop (answered + 1)).countP Command.isPass :=
    List.countP_pos_iff.mpr ⟨_, too, rfl⟩
  rw [waits, List.countP_cons_of_pos rfl] at one
  omega

/-- Every report has the password and the name of one login, and the answer to a password that was
sent no later. Both move on from report to report. They are the same login, so that every report is
right, if the client never sends a password while another one waits for its answer. -/
theorem reports_of_pipelined_logins (chunks : List Chunk) (opening said : List Line)
    (whole : lines ⟨[], []⟩ chunks = opening ++ said)
    (short : ∀ line ∈ opening ++ said, line.isShort = true) (orderly : Orderly opening said) :
    (∃ reports : List (Nat × Nat),
      List.Forall₂ (fun sighting report => Reports said sighting report.1 report.2)
        (Sniffer.new.follow chunks) reports ∧
      reports.Pairwise fun one next => one.1 < next.1 ∧ one.2 < next.2) ∧
    ((∀ before ∈ said.inits, (unanswered before).countP Command.isPass ≤ 1) →
      ∃ places : List Nat,
        List.Forall₂ (fun sighting place => Belongs said place sighting ∧
          (verdicts said)[place]? = some sighting.accepted) (Sniffer.new.follow chunks) places ∧
        places.Pairwise (· < ·)) := by
  have follows : Sniffer.new.follow chunks = Sniffer.new.attend said := by
    rw [Sniffer.follow_eq chunks ⟨[], []⟩ rfl rfl, whole, List.filter_eq_self.mpr short,
      attend_greeting orderly.greeting]
  obtain ⟨reports, told, inTurn⟩ := reports_attend said stands_new rfl orderly
  rw [follows]
  refine ⟨⟨reports, told, inTurn⟩, fun alone => ⟨reports.map Prod.snd, ?_, ?_⟩⟩
  · rw [List.forall₂_map_right_iff]
    refine told.imp fun sighting report facts => ⟨facts.belongs, ?_⟩
    rw [← facts.same alone]
    exact facts.verdict
  · rw [List.pairwise_map]
    exact inTurn.imp And.right

/-- Two logins are sent at once. The first one is refused, and the second one is reported for it. -/
theorem reports_of_pipelined_logins_mistaken :
    let user (name : UInt8) : Bytes := [0x55, 0x53, 0x45, 0x52, 0x20, name, 0x0D, 0x0A]
    let pass (word : UInt8) : Bytes := [0x50, 0x41, 0x53, 0x53, 0x20, word, 0x0D, 0x0A]
    let good : Bytes := [0x2B, 0x4F, 0x4B, 0x0D, 0x0A]
    let bad : Bytes := [0x2D, 0x45, 0x52, 0x52, 0x0D, 0x0A]
    let chunks : List Chunk := [⟨.server, good⟩,
      ⟨.client, user 97 ++ pass 120 ++ user 98 ++ pass 121⟩, ⟨.server, good ++ bad ++ good ++ good⟩]
    let opening := (lines ⟨[], []⟩ chunks).take 1
    let said := (lines ⟨[], []⟩ chunks).drop 1
    (∀ line ∈ opening ++ said, line.isShort = true) ∧ Orderly opening said ∧
      Sniffer.new.follow chunks = [⟨"b", "y", false⟩] ∧
      ¬ ∃ places : List Nat,
        List.Forall₂ (fun sighting place => Belongs said place sighting ∧
          (verdicts said)[place]? = some sighting.accepted) (Sniffer.new.follow chunks) places := by
  intro user pass good bad chunks opening said
  have short : ∀ line ∈ opening ++ said, line.isShort = true := by decide +kernel
  have orderly : Orderly opening said :=
    ⟨by decide +kernel, by decide +kernel, by decide +kernel, by decide +kernel⟩
  have reported : Sniffer.new.follow chunks = [⟨"b", "y", false⟩] := by decide +kernel
  have answers : verdicts said = [true, false, true, true] := by decide +kernel
  have refused : (commands said)[1]? = some (.pass [120]) := by decide +kernel
  have other : "y" ≠ Text.lossy [120] := by decide +kernel
  refine ⟨short, orderly, reported, ?_⟩
  rintro ⟨places, matched⟩
  rw [reported] at matched
  obtain ⟨place, -, ⟨belongs, verdict⟩, -, -⟩ := List.forall₂_cons_left_iff.mp matched
  rw [answers] at verdict
  -- Only the second answer is a refusal, and it is to the other password.
  have second : place = 1 := by
    rcases place with _ | _ | _ | _ | place <;> simp at verdict ⊢
  obtain ⟨argument, sent, same⟩ := belongs.pass
  rw [second, refused] at sent
  cases sent
  exact other same

/-- A login whose password is sent ahead together with other commands. -/
theorem reports_of_pipelined_logins_in_turn :
    let chunks : List Chunk := [⟨.server, [0x2B, 0x4F, 0x4B, 0x0A]⟩,
      ⟨.client, [0x55, 0x53, 0x45, 0x52, 0x20, 97, 0x0A, 0x50, 0x41, 0x53]⟩,
      ⟨.client, [0x53, 0x20, 120, 0x0A, 0x53, 0x54, 0x41, 0x54, 0x0A]⟩,
      ⟨.server, [0x2B, 0x4F, 0x4B, 0x0A, 0x2D, 0x45, 0x52]⟩, ⟨.server, [0x52, 0x0A]⟩]
    let opening := (lines ⟨[], []⟩ chunks).take 1
    let said := (lines ⟨[], []⟩ chunks).drop 1
    (∀ line ∈ opening ++ said, line.isShort = true) ∧ Orderly opening said ∧
      Sniffer.new.follow chunks = [⟨"a", "x", false⟩] ∧
      ∃ places : List Nat,
        List.Forall₂ (fun sighting place => Belongs said place sighting ∧
          (verdicts said)[place]? = some sighting.accepted) (Sniffer.new.follow chunks) places ∧
        places.Pairwise (· < ·) := by
  intro chunks opening said
  have short : ∀ line ∈ opening ++ said, line.isShort = true := by decide +kernel
  have orderly : Orderly opening said :=
    ⟨by decide +kernel, by decide +kernel, by decide +kernel, by decide +kernel⟩
  have whole : lines ⟨[], []⟩ chunks = opening ++ said := (List.take_append_drop _ _).symm
  have alone : ∀ before ∈ said.inits, (unanswered before).countP Command.isPass ≤ 1 := by
    decide +kernel
  exact ⟨short, orderly, by decide +kernel,
    (reports_of_pipelined_logins chunks opening said whole short orderly).2 alone⟩

end SocksProxy.Pop3
