import Mathlib.Data.List.Chain
import SocksProxy.Pop3

/-!
The queue of commands without an answer is a first-in first-out queue of single commands, written in
runs. As long as nothing is pushed out, what is pushed behind does not change what is popped in
front. Through any pushes and pops it is a plain queue once its runs are written out. Only when
sixteen entries are there and a command goes into none of them is the oldest entry pushed out.
-/

namespace SocksProxy.Pop3.Pending

def add (queue : List Pending) (command : Pending) : List Pending :=
  match command, queue.getLast? with
  | .other more, some (.other count) => queue.dropLast ++ [.other (count + more)]
  | _, _ => queue ++ [command]

/-- Single commands, with those of no interest drawn together. -/
def runs (commands : List Pending) : List Pending := commands.foldl add []

def Proper (queue : List Pending) : Prop := ∀ count, .other count ∈ queue → 0 < count

def IsSingle (command : Pending) : Prop := ∀ count, command = .other count → count = 1

section Runs

variable {queue : List Pending} {command : Pending}

theorem add_ne_nil (queue : List Pending) (command : Pending) : add queue command ≠ [] := by
  unfold add
  split <;> simp

theorem add_cons (first : Pending) (more : queue ≠ []) :
    add (first :: queue) command = first :: add queue command := by
  have last : (first :: queue).getLast? = queue.getLast? := by
    obtain ⟨next, rest, rfl⟩ := List.exists_cons_of_ne_nil more
    exact List.getLast?_cons_cons
  unfold add
  rw [last]
  split
  · rw [List.dropLast_cons_of_ne_nil more]
    rfl
  · rfl

theorem proper_add (proper : Proper queue) (single : IsSingle command) :
    Proper (add queue command) := by
  intro count member
  unfold add at member
  split at member
  · rename_i more before _
    rcases List.mem_append.mp member with old | new
    · exact proper count (List.dropLast_subset _ old)
    · cases List.mem_singleton.mp new
      have one : more = 1 := single more rfl
      omega
  · rcases List.mem_append.mp member with old | new
    · exact proper count old
    · have one : count = 1 := single count (List.mem_singleton.mp new).symm
      omega

theorem pop_add (proper : Proper queue) (single : IsSingle command) (waiting : queue ≠ []) :
    pop (add queue command) = ((pop queue).1, add (pop queue).2 command) := by
  obtain ⟨first, rest, rfl⟩ := List.exists_cons_of_ne_nil waiting
  by_cases alone : rest = []
  · subst alone
    cases first with
    | user => cases command <;> rfl
    | pass => cases command <;> rfl
    | other count =>
        have positive : 0 < count := proper count List.mem_cons_self
        by_cases long : 1 < count
        · cases command with
          | user => simp [add, pop, long]
          | pass => simp [add, pop, long]
          | other more =>
              cases single more rfl
              have back : count - 1 + 1 = count := by omega
              simp [add, pop, long, positive, back]
        · have one : count = 1 := by omega
          subst one
          cases command with
          | user => rfl
          | pass => rfl
          | other more =>
              cases single more rfl
              rfl
  · rw [add_cons first alone]
    cases first with
    | user => rfl
    | pass => rfl
    | other count => by_cases long : 1 < count <;> simp [pop, long, add_cons _ alone]

theorem pop_foldl {commands : List Pending} (proper : Proper queue) (waiting : queue ≠ [])
    (singles : ∀ command ∈ commands, IsSingle command) :
    pop (commands.foldl add queue) = ((pop queue).1, commands.foldl add (pop queue).2) := by
  induction commands generalizing queue with
  | nil => rfl
  | cons command rest ih =>
      have single := singles command List.mem_cons_self
      have later : ∀ next ∈ rest, IsSingle next := fun next member =>
        singles next (List.mem_cons_of_mem command member)
      have popped := pop_add proper single waiting
      rw [List.foldl_cons, ih (proper_add proper single) (add_ne_nil queue command) later, popped]
      rfl

theorem pop_runs {commands : List Pending}
    (singles : ∀ next ∈ command :: commands, IsSingle next) :
    pop (runs (command :: commands)) = (some command, runs commands) := by
  have single := singles command List.mem_cons_self
  have proper : Proper [command] := by
    intro count member
    have one : count = 1 := single count (List.mem_singleton.mp member).symm
    omega
  have alone : pop [command] = (some command, []) := by
    cases command with
    | user => rfl
    | pass => rfl
    | other count =>
        cases single count rfl
        rfl
  have later : ∀ next ∈ commands, IsSingle next := fun next member =>
    singles next (List.mem_cons_of_mem command member)
  have first : add [] command = [command] := by cases command <;> rfl
  rw [runs, List.foldl_cons, first, pop_foldl proper (List.cons_ne_nil command []) later, alone]
  rfl

theorem count_le_of_add {bound count : Nat} (single : IsSingle command)
    (before : ∀ count, .other count ∈ queue → count ≤ bound)
    (member : .other count ∈ add queue command) : count ≤ bound + 1 := by
  unfold add at member
  split at member
  · rename_i more run last
    have run := before run (List.mem_of_getLast? last)
    rcases List.mem_append.mp member with old | new
    · exact Nat.le_succ_of_le (before count (List.dropLast_subset _ old))
    · cases List.mem_singleton.mp new
      have one : more = 1 := single more rfl
      omega
  · rcases List.mem_append.mp member with old | new
    · exact Nat.le_succ_of_le (before count old)
    · have one : count = 1 := single count (List.mem_singleton.mp new).symm
      omega

theorem count_le_of_runs {commands : List Pending} {bound count : Nat}
    (singles : ∀ command ∈ commands, IsSingle command)
    (before : ∀ count, .other count ∈ queue → count ≤ bound)
    (member : .other count ∈ commands.foldl add queue) : count ≤ bound + commands.length := by
  induction commands generalizing queue bound with
  | nil => exact before count member
  | cons command rest ih =>
      have later : ∀ next ∈ rest, IsSingle next := fun next member =>
        singles next (List.mem_cons_of_mem command member)
      have more := ih later (fun _ => count_le_of_add (singles command List.mem_cons_self) before)
        member
      rw [List.length_cons]
      omega

/-- With an entry to spare, and no run too long to be counted, nothing is lost. -/
theorem push_eq_add (spare : (add queue command).length ≤ most)
    (countable : ∀ count, .other count ∈ add queue command → count ≤ longestRun) :
    push queue command = add queue command := by
  unfold add at spare countable ⊢
  split at spare
  · rename_i more count last
    have short : count + more ≤ longestRun := by
      apply countable
      rw [last]
      exact List.mem_append_right _ List.mem_cons_self
    unfold push
    rw [last]
    dsimp only
    rw [Nat.min_eq_left short]
  · rename_i other
    have full : queue.length ≠ most := by
      rw [List.length_append, List.length_singleton] at spare
      omega
    unfold push
    simp only [if_neg full]

theorem runs_concat (commands : List Pending) (command : Pending) :
    runs (commands ++ [command]) = add (runs commands) command := by
  rw [runs, List.foldl_append]
  rfl

theorem push_runs {commands : List Pending}
    (singles : ∀ next ∈ commands ++ [command], IsSingle next)
    (few : (runs (commands ++ [command])).length ≤ most)
    (countable : (commands ++ [command]).length ≤ longestRun) :
    push (runs commands) command = runs (commands ++ [command]) := by
  have short : ∀ count, .other count ∈ runs (commands ++ [command]) → count ≤ longestRun := by
    intro count member
    have none : ∀ count, Pending.other count ∈ ([] : List Pending) → count ≤ 0 := by simp
    have bound := count_le_of_runs singles none member
    omega
  rw [runs_concat] at few short ⊢
  exact push_eq_add few short

end Runs

/-- A single command, as far as a sniffer tells commands apart. -/
inductive Command where
  | user
  | pass
  | other
  deriving DecidableEq, Repr

def Command.entry : Command → Pending
  | .user => .user
  | .pass => .pass
  | .other => .other 1

inductive Call where
  | push (command : Command)
  | pop
  deriving DecidableEq, Repr

def perform : Call → List Pending → Option Pending × List Pending
  | .push command, queue => (none, push queue command.entry)
  | .pop, queue => pop queue

def merges (queue : List Pending) (command : Command) : Bool :=
  match command, queue.getLast? with
  | .other, some (.other _) => true
  | _, _ => false

/-- The oldest entry has to go. -/
def overflows (queue : List Pending) (command : Command) : Bool :=
  queue.length = 16 && !merges queue command

structure Exchange where
  before : List Pending
  call : Call
  answer : Option Pending
  after : List Pending

namespace Exchange

def came (e : Exchange) : List Pending :=
  match e.call with
  | .push command => [command.entry]
  | .pop => []

def lost (e : Exchange) : List Pending :=
  match e.call with
  | .push command => if overflows e.before command then e.before.take 1 else []
  | .pop => []

/-- With the runs written out, a command goes behind the others, and is taken from the front. -/
def Plain (e : Exchange) : Prop :=
  match e.call with
  | .push command =>
      e.answer = none ∧
        expand e.after =
          expand (if overflows e.before command then e.before.tail else e.before) ++ [command.entry]
  | .pop =>
      e.answer = (expand e.before).head? ∧ expand e.after = (expand e.before).tail ∧
        (e.answer = none ↔ e.before = [])

end Exchange

def exchange (call : Call) (queue : List Pending) : Exchange :=
  ⟨queue, call, (perform call queue).1, (perform call queue).2⟩

def run (calls : List Call) (queue : List Pending) : List Pending :=
  calls.foldl (fun queue call => (perform call queue).2) queue

def history : List Call → List Pending → List Exchange
  | [], _ => []
  | call :: rest, queue => exchange call queue :: history rest (perform call queue).2

def pushed (calls : List Call) : List Pending :=
  calls.flatMap fun
    | .push command => [command.entry]
    | .pop => []

def IsRun (entry : Pending) : Prop := ∃ count, entry = .other count

/-- Runs are as long as can be, none is empty, and none counts more commands than there were. -/
structure Compact (commands : Nat) (queue : List Pending) : Prop where
  apart : queue.IsChain fun first second => ¬ (first.IsRun ∧ second.IsRun)
  counted : ∀ count, .other count ∈ queue → 0 < count ∧ count ≤ commands
  bounded : queue.length ≤ 16

variable {queue front back : List Pending} {command : Command} {entry : Pending}
  {commands count : Nat}

theorem expand_append (front back : List Pending) :
    expand (front ++ back) = expand front ++ expand back := List.flatMap_append

theorem expand_cons (entry : Pending) (queue : List Pending) :
    expand (entry :: queue) = expand [entry] ++ expand queue := expand_append [entry] queue

theorem expand_run (count : Nat) : expand [.other count] = List.replicate count (.other 1) :=
  List.append_nil _

theorem expand_entry (command : Command) : expand [command.entry] = [command.entry] := by
  cases command <;> rfl

theorem Compact.nil : Compact 0 [] := ⟨.nil, nofun, Nat.zero_le 16⟩

/-- What there is to a push. -/
inductive Pushed (queue : List Pending) : Command → List Pending → Prop where
  | merged {front : List Pending} {count : Nat} (last : queue = front ++ [.other count]) :
      Pushed queue .other (front ++ [.other (min (count + 1) longestRun)])
  | appended {command : Command} (room : queue.length ≠ 16) (apart : merges queue command = false) :
      Pushed queue command (queue ++ [command.entry])
  | overflowed {command : Command} (full : queue.length = 16)
      (apart : merges queue command = false) :
      Pushed queue command (queue.tail ++ [command.entry])

theorem pushed_push (queue : List Pending) (command : Command) :
    Pushed queue command (push queue command.entry) := by
  unfold push
  split
  · rename_i more count single last
    have front : queue = queue.dropLast ++ [.other count] :=
      (List.dropLast_append_getLast? _ last).symm
    cases command with
    | user | pass => cases single
    | other =>
        cases single
        exact .merged front
  · rename_i unmerged
    have apart : merges queue command = false := by
      unfold merges
      split
      · rename_i count last
        exact absurd last (unmerged 1 count rfl)
      · rfl
    by_cases full : queue.length = most
    · rw [if_pos full, List.drop_one]
      exact .overflowed full apart
    · rw [if_neg full]
      exact .appended full apart

theorem apart_of_merges (apart : merges queue command = false) (last : entry ∈ queue.getLast?) :
    ¬ (entry.IsRun ∧ command.entry.IsRun) := by
  rintro ⟨⟨count, rfl⟩, ⟨one, single⟩⟩
  cases command with
  | user | pass => cases single
  | other =>
      unfold merges at apart
      rw [Option.mem_def.mp last] at apart
      cases apart

theorem merges_tail (full : queue.length = 16) :
    merges queue.tail command = merges queue command := by
  have last : queue.tail.getLast? = queue.getLast? := by
    obtain ⟨first, second, rest, rfl⟩ : ∃ first second rest, queue = first :: second :: rest := by
      match queue, full with
      | first :: second :: rest, _ => exact ⟨first, second, rest, rfl⟩
    exact List.getLast?_cons_cons.symm
  unfold merges
  rw [last]

theorem Compact.concat (compact : Compact commands queue) (room : queue.length < 16)
    (apart : merges queue command = false) : Compact (commands + 1) (queue ++ [command.entry]) where
  apart := by
    refine compact.apart.append (.singleton _) fun last ends next begins => ?_
    cases begins
    exact apart_of_merges apart ends
  counted count member := by
    rcases List.mem_append.mp member with old | new
    · obtain ⟨positive, few⟩ := compact.counted count old
      exact ⟨positive, Nat.le_succ_of_le few⟩
    · cases command with
      | user | pass => cases List.mem_singleton.mp new
      | other =>
          cases List.mem_singleton.mp new
          exact ⟨Nat.one_pos, Nat.le_add_left 1 commands⟩
  bounded := by
    rw [List.length_append]
    exact room

theorem Compact.tail (compact : Compact commands queue) : Compact commands queue.tail where
  apart := compact.apart.tail
  counted count member := compact.counted count (List.mem_of_mem_tail member)
  bounded := by
    rw [List.length_tail]
    exact Nat.le_trans (Nat.sub_le _ 1) compact.bounded

theorem Compact.merge (compact : Compact commands (front ++ [.other count])) :
    Compact (commands + 1) (front ++ [.other (count + 1)]) where
  apart := by
    refine compact.apart.left_of_append.append (.singleton _) fun last ends next begins both => ?_
    cases begins
    have apart := (List.isChain_append.mp compact.apart).2.2 last ends (.other count) rfl
    exact apart ⟨both.1, count, rfl⟩
  counted total member := by
    rcases List.mem_append.mp member with old | new
    · obtain ⟨positive, few⟩ := compact.counted total (List.mem_append_left _ old)
      exact ⟨positive, Nat.le_succ_of_le few⟩
    · cases List.mem_singleton.mp new
      have few := (compact.counted count (List.mem_append_right front List.mem_cons_self)).2
      exact ⟨Nat.succ_pos count, Nat.succ_le_succ few⟩
  bounded := by
    have bounded := compact.bounded
    rw [List.length_append] at bounded ⊢
    exact bounded

theorem Compact.push (compact : Compact commands queue) (few : commands < longestRun)
    (command : Command) : Compact (commands + 1) (push queue command.entry) := by
  have done := pushed_push queue command
  generalize Pending.push queue command.entry = after at done ⊢
  cases done with
  | merged last =>
      subst last
      rename_i front count
      have counted := (compact.counted count (List.mem_append_right front List.mem_cons_self)).2
      rw [Nat.min_eq_left (by omega)]
      exact compact.merge
  | appended room apart => exact compact.concat (Nat.lt_of_le_of_ne compact.bounded room) apart
  | overflowed full apart =>
      refine compact.tail.concat ?_ ((merges_tail full).trans apart)
      rw [List.length_tail, full]
      decide

theorem plain_push (compact : Compact commands queue) (few : commands < longestRun)
    (command : Command) : (exchange (.push command) queue).Plain := by
  refine ⟨rfl, ?_⟩
  have done := pushed_push queue command
  change expand (Pending.push queue command.entry) =
    expand (if overflows queue command then queue.tail else queue) ++ [command.entry]
  generalize Pending.push queue command.entry = after at done ⊢
  cases done with
  | merged last =>
      subst last
      rename_i front count
      have counted := (compact.counted count (List.mem_append_right front List.mem_cons_self)).2
      have stays : overflows (front ++ [.other count]) .other = false := by
        unfold overflows merges
        rw [List.getLast?_concat]
        exact Bool.and_false _
      rw [stays, Nat.min_eq_left (by omega), expand_append, expand_run, List.replicate_succ',
        if_neg Bool.false_ne_true, expand_append, expand_run, List.append_assoc]
      rfl
  | appended room apart =>
      have stays : overflows queue command = false := by
        rw [overflows, decide_eq_false room]
        rfl
      rw [stays, expand_append, expand_entry]
      rfl
  | overflowed full apart =>
      have goes : overflows queue command = true := by
        rw [overflows, decide_eq_true full, apart]
        rfl
      rw [goes, expand_append, expand_entry]
      rfl

/-- What there is to a pop. -/
inductive Popped : List Pending → Option Pending → List Pending → Prop where
  | nothing : Popped [] none []
  | entry (command : Command) (rest : List Pending) :
      Popped (command.entry :: rest) (some command.entry) rest
  | shortened {count : Nat} (rest : List Pending) :
      Popped (.other (count + 2) :: rest) (some (.other 1)) (.other (count + 1) :: rest)

theorem popped_pop (compact : Compact commands queue) :
    Popped queue (pop queue).1 (pop queue).2 := by
  match queue, compact with
  | [], _ => exact .nothing
  | .user :: rest, _ => exact .entry .user rest
  | .pass :: rest, _ => exact .entry .pass rest
  | .other 0 :: rest, compact =>
      exact absurd (compact.counted 0 List.mem_cons_self).1 (Nat.lt_irrefl 0)
  | .other 1 :: rest, _ => exact .entry .other rest
  | .other (count + 2) :: rest, _ =>
      have long : 1 < count + 2 := Nat.lt_add_left count (Nat.lt_succ_self 1)
      rw [pop, if_pos long]
      exact .shortened rest

theorem Compact.pop (compact : Compact commands queue) : Compact commands (pop queue).2 := by
  have done := popped_pop compact
  generalize (Pending.pop queue).2 = after at done ⊢
  generalize (Pending.pop queue).1 = answer at done
  cases done with
  | nothing => exact compact
  | entry command rest => exact compact.tail
  | shortened rest =>
      rename_i count
      obtain ⟨apart, behind⟩ := List.isChain_cons.mp compact.apart
      have whole := compact.counted (count + 2) List.mem_cons_self
      refine ⟨List.isChain_cons.mpr ⟨fun next begins both => ?_, behind⟩, ?_, compact.bounded⟩
      · exact apart next begins ⟨⟨count + 2, rfl⟩, both.2⟩
      · intro total member
        rcases List.mem_cons.mp member with first | later
        · cases first
          exact ⟨Nat.succ_pos count, Nat.le_of_succ_le whole.2⟩
        · exact compact.counted total (List.mem_cons_of_mem _ later)

theorem plain_pop (compact : Compact commands queue) : (exchange .pop queue).Plain := by
  have done := popped_pop compact
  change (Pending.pop queue).1 = (expand queue).head? ∧
    expand (Pending.pop queue).2 = (expand queue).tail ∧ ((Pending.pop queue).1 = none ↔ queue = [])
  generalize (Pending.pop queue).2 = after at done ⊢
  generalize (Pending.pop queue).1 = answer at done ⊢
  cases done with
  | nothing => exact ⟨rfl, rfl, iff_of_true rfl rfl⟩
  | entry command rest =>
      rw [expand_cons, expand_entry]
      exact ⟨rfl, rfl, iff_of_false (Option.some_ne_none _) (List.cons_ne_nil _ _)⟩
  | shortened rest =>
      rw [expand_cons, expand_run, expand_cons, expand_run]
      exact ⟨rfl, rfl, iff_of_false (Option.some_ne_none _) (List.cons_ne_nil _ _)⟩

theorem expand_lost (queue : List Pending) (command : Command) :
    expand (exchange (.push command) queue).lost ++
      expand (if overflows queue command then queue.tail else queue) = expand queue := by
  change expand (if overflows queue command then queue.take 1 else []) ++ _ = _
  cases overflows queue command with
  | false => rfl
  | true => exact (expand_append _ _).symm.trans (congrArg expand (by cases queue <;> rfl))

/-- What goes out in front and what remains are what was there and what comes in behind. -/
theorem conserved {call : Call} (plain : (exchange call queue).Plain) :
    expand (exchange call queue).lost ++ (exchange call queue).answer.toList ++
      expand (perform call queue).2 = expand queue ++ (exchange call queue).came := by
  cases call with
  | push command =>
      have behind : expand (perform (.push command) queue).2 = _ := plain.2
      rw [behind, ← List.append_assoc]
      change expand (exchange (.push command) queue).lost ++ [] ++ _ ++ _ = _
      rw [List.append_nil]
      exact congrArg (· ++ [command.entry]) (expand_lost queue command)
  | pop =>
      have front : (exchange .pop queue).answer = (expand queue).head? := plain.1
      have rest : expand (perform .pop queue).2 = (expand queue).tail := plain.2.1
      have split : (expand queue).head?.toList ++ (expand queue).tail = expand queue := by
        cases expand queue <;> rfl
      rw [front, rest]
      exact split.trans (List.append_nil (expand queue)).symm

theorem pushed_cons (call : Call) (rest : List Call) (queue : List Pending) :
    pushed (call :: rest) = (exchange call queue).came ++ pushed rest := by
  cases call <;> rfl

theorem compact_perform {call : Call} (compact : Compact commands queue)
    (few : commands + (exchange call queue).came.length < UInt64.size) :
    Compact (commands + (exchange call queue).came.length) (perform call queue).2 ∧
      (exchange call queue).Plain := by
  cases call with
  | push command =>
      have countable : commands < longestRun := Nat.lt_pred_of_succ_lt few
      exact ⟨compact.push countable command, plain_push compact countable command⟩
  | pop => exact ⟨compact.pop, plain_pop compact⟩

theorem compact_run (calls : List Call) (compact : Compact commands queue)
    (few : commands + (pushed calls).length < UInt64.size) :
    Compact (commands + (pushed calls).length) (run calls queue) ∧
      (∀ e ∈ history calls queue, e.Plain) ∧
      (history calls queue).flatMap (fun e => expand e.lost ++ e.answer.toList) ++
        expand (run calls queue) = expand queue ++ pushed calls := by
  induction calls generalizing queue commands with
  | nil => exact ⟨compact, nofun, (List.append_nil (expand queue)).symm⟩
  | cons call rest ih =>
      rw [pushed_cons call rest queue, List.length_append, ← Nat.add_assoc] at few ⊢
      have first := Nat.lt_of_le_of_lt (Nat.le_add_right _ _) few
      obtain ⟨next, plain⟩ := compact_perform compact first
      obtain ⟨last, plainly, order⟩ := ih next few
      refine ⟨last, List.forall_mem_cons.mpr ⟨plain, plainly⟩, ?_⟩
      rw [history, List.flatMap_cons, List.append_assoc, ← List.append_assoc (expand queue),
        ← conserved plain, List.append_assoc _ (expand _), ← order]
      rfl

/-- As long as fewer than 2^64 commands are pushed, a queue never has more than sixteen entries, two
runs in a row or an empty run. Every push and every pop is one of a plain queue of single commands,
but for the entries that are pushed out. What has left the queue, followed by what it holds, is what
was pushed; so with no entry pushed out, commands are popped as they were pushed. -/
theorem fifo_of_runs (calls : List Call) (few : (pushed calls).length < UInt64.size) :
    Compact (pushed calls).length (run calls []) ∧
      (∀ e ∈ history calls [], e.Plain) ∧
      (history calls []).flatMap (fun e => expand e.lost ++ e.answer.toList) ++
        expand (run calls []) = pushed calls ∧
      ((∀ e ∈ history calls [], e.lost = []) →
        (history calls []).filterMap Exchange.answer ++ expand (run calls []) = pushed calls) := by
  have fewer : 0 + (pushed calls).length < UInt64.size := by
    rw [Nat.zero_add]
    exact few
  have whole := compact_run calls Compact.nil fewer
  rw [Nat.zero_add] at whole
  obtain ⟨compact, plainly, order⟩ := whole
  refine ⟨compact, plainly, order, fun kept => ?_⟩
  have popped : (history calls []).flatMap (fun e => expand e.lost ++ e.answer.toList) =
      (history calls []).filterMap Exchange.answer := by
    rw [List.filterMap_eq_flatMap_toList]
    refine List.flatMap_congr fun e member => ?_
    rw [kept e member]
    rfl
  rw [← popped]
  exact order

/-- Eight names, each with two commands of no interest behind it, and one command more than there
are entries for. -/
def crowd : List Call :=
  (List.replicate 8 [.push .user, .push .other, .push .other]).flatten ++ [.push .pass, .pop, .pop]

theorem fifo_of_runs_crowd :
    (pushed crowd).length < UInt64.size ∧
      (history crowd []).flatMap (fun e => expand e.lost ++ e.answer.toList) ++
        expand (run crowd []) = pushed crowd ∧
      (history crowd []).map Exchange.lost = List.replicate 24 [] ++ [[.user], [], []] ∧
      (history crowd []).filterMap Exchange.answer = [.other 1, .other 1] :=
  ⟨by decide, (fifo_of_runs crowd (by decide)).2.2.1, by decide, by decide⟩

end SocksProxy.Pop3.Pending
