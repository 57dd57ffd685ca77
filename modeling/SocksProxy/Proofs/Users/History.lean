import Mathlib.Data.List.Induction
import SocksProxy.Users

/-!
What is in the store is what its history says. The calls on a store are kept with their answers, and
names, their order and the passwords are read off the last exchanges that bear on them; the list of
users is never asked. A name that was removed and added again counts from its last addition, and a
call that was refused or only asked bears on nothing.
-/

namespace SocksProxy

open Wire (Method)

namespace UserStore

inductive Call where
  | add (user : User)
  | remove (name : String)
  | changePassword (name password : String)
  | authenticate (name password : String)
  deriving DecidableEq, Repr

inductive Answer where
  | done
  | refused (fault : UserError)
  | verdict (accepted : Bool)
  deriving DecidableEq, Repr

structure Exchange where
  call : Call
  answer : Answer
  deriving DecidableEq, Repr

def settle (s : UserStore) : Except UserError UserStore → Answer × UserStore
  | .ok changed => (.done, changed)
  | .error fault => (.refused fault, s)

def perform (s : UserStore) : Call → Answer × UserStore
  | .add user => s.settle (s.add user)
  | .remove name => s.settle (s.remove name)
  | .changePassword name password => s.settle (s.changePassword name password)
  | .authenticate name password => (.verdict (s.authenticate name password), s)

def run : List Call → UserStore → UserStore
  | [], s => s
  | call :: rest, s => run rest (s.perform call).2

def history : List Call → UserStore → List Exchange
  | [], _ => []
  | call :: rest, s => ⟨call, (s.perform call).1⟩ :: history rest (s.perform call).2

namespace Exchange

def Adds (name : String) (e : Exchange) : Prop := ∃ password, e = ⟨.add ⟨name, password⟩, .done⟩

def Removes (name : String) (e : Exchange) : Prop := e = ⟨.remove name, .done⟩

def Gives (name password : String) (e : Exchange) : Prop :=
  e = ⟨.add ⟨name, password⟩, .done⟩ ∨ e = ⟨.changePassword name password, .done⟩

end Exchange

/-! The last exchange of a kind. -/

section Last

variable {kind other : Exchange → Prop} {h before before' : List Exchange} {e e' latest : Exchange}

/-- An exchange of a kind with those before it, and none of the kind behind it. -/
def Last (kind : Exchange → Prop) (h before : List Exchange) (e : Exchange) : Prop :=
  kind e ∧ ∃ after, h = before ++ e :: after ∧ ∀ later ∈ after, ¬ kind later

theorem not_last_nil : ¬ Last kind [] before e := by
  rintro ⟨-, after, cut, -⟩
  exact List.append_ne_nil_of_right_ne_nil before (List.cons_ne_nil e after) cut.symm

theorem last_concat (is : kind latest) :
    Last kind (h ++ [latest]) before e ↔ before = h ∧ e = latest := by
  constructor
  · rintro ⟨-, after, cut, none⟩
    rcases List.eq_nil_or_concat after with rfl | ⟨rest, final, rfl⟩
    · obtain ⟨rfl, same⟩ := List.append_inj' cut rfl
      exact ⟨rfl, (List.head_eq_of_cons_eq same).symm⟩
    · rw [List.concat_eq_append] at none cut
      rw [← List.cons_append, ← List.append_assoc] at cut
      obtain ⟨-, same⟩ := List.append_inj' cut rfl
      obtain rfl := List.head_eq_of_cons_eq same
      exact absurd is (none _ (List.mem_append_right rest List.mem_cons_self))
  · rintro ⟨rfl, rfl⟩
    exact ⟨is, [], rfl, fun later member => absurd member List.not_mem_nil⟩

theorem last_concat_of_not (isNot : ¬ kind latest) :
    Last kind (h ++ [latest]) before e ↔ Last kind h before e := by
  constructor
  · rintro ⟨is, after, cut, none⟩
    rcases List.eq_nil_or_concat after with rfl | ⟨rest, final, rfl⟩
    · obtain ⟨-, same⟩ := List.append_inj' cut rfl
      obtain rfl := List.head_eq_of_cons_eq same
      exact absurd is isNot
    · rw [List.concat_eq_append] at none cut
      rw [← List.cons_append, ← List.append_assoc] at cut
      obtain ⟨whole, -⟩ := List.append_inj' cut rfl
      exact ⟨is, rest, whole, fun later member => none later (List.mem_append_left _ member)⟩
  · rintro ⟨is, after, rfl, none⟩
    refine ⟨is, after ++ [latest], by rw [List.append_assoc, List.cons_append], ?_⟩
    intro later member
    rcases List.mem_append.mp member with earlier | final
    · exact none later earlier
    · rwa [List.mem_singleton.mp final]

theorem Last.unique (one : Last kind h before e) (two : Last kind h before' e') :
    before = before' ∧ e = e' := by
  induction h using List.reverseRecOn with
  | nil => exact absurd one not_last_nil
  | append_singleton rest latest ih =>
      by_cases is : kind latest
      · obtain ⟨rfl, rfl⟩ := (last_concat is).mp one
        obtain ⟨rfl, rfl⟩ := (last_concat is).mp two
        exact ⟨rfl, rfl⟩
      · exact ih ((last_concat_of_not is).mp one) ((last_concat_of_not is).mp two)

theorem Last.narrow (last : Last kind h before e) (narrower : ∀ x, other x → kind x)
    (is : other e) : Last other h before e := by
  obtain ⟨-, after, cut, none⟩ := last
  exact ⟨is, after, cut, fun later member is => none later member (narrower later is)⟩

theorem Last.before_lt (last : Last kind h before e) : before.length < h.length := by
  obtain ⟨-, after, rfl, -⟩ := last
  rw [List.length_append, List.length_cons]
  omega

def LastIs (kind such : Exchange → Prop) (h : List Exchange) : Prop :=
  ∃ before e, Last kind h before e ∧ such e

theorem lastIs_concat {such : Exchange → Prop} (within : ∀ x, such x → kind x) :
    LastIs kind such (h ++ [latest]) ↔ such latest ∨ ¬ kind latest ∧ LastIs kind such h := by
  unfold LastIs
  by_cases is : kind latest
  · simp only [last_concat is, is, not_true, false_and, or_false]
    constructor
    · rintro ⟨_, _, ⟨rfl, rfl⟩, such⟩
      exact such
    · intro such
      exact ⟨h, latest, ⟨rfl, rfl⟩, such⟩
  · have isNot : ¬ such latest := fun such => is (within latest such)
    simp only [last_concat_of_not is, is, isNot, not_false_eq_true, true_and, false_or]

end Last

/-! What a history says of a name. -/

variable {h : List Exchange} {e : Exchange} {s t : UserStore} {name other password : String}

/-- The last time the name was added or removed, it was added. -/
def Present (h : List Exchange) (name : String) : Prop :=
  LastIs (fun e => e.Adds name ∨ e.Removes name) (Exchange.Adds name) h

/-- The last time the name was given a password, it was that one. -/
def Given (h : List Exchange) (name password : String) : Prop :=
  LastIs (fun e => ∃ any, e.Gives name any) (Exchange.Gives name password) h

def AddedBefore (h : List Exchange) (one other : String) : Prop :=
  ∃ before e before' e', Last (Exchange.Adds one) h before e ∧
    Last (Exchange.Adds other) h before' e' ∧ before.length < before'.length

theorem Exchange.Gives.unique {other : String} (one : e.Gives name password)
    (two : e.Gives name other) : password = other := by
  unfold Gives at one two
  rcases one with rfl | rfl <;> simpa using two

theorem Given.unique {other : String} (one : Given h name password) (two : Given h name other) :
    password = other := by
  obtain ⟨before, e, last, gives⟩ := one
  obtain ⟨before', e', last', gives'⟩ := two
  obtain ⟨-, rfl⟩ := last.unique last'
  exact gives.unique gives'

theorem present_concat :
    Present (h ++ [e]) name ↔ e.Adds name ∨ ¬ e.Removes name ∧ Present h name := by
  have within : ∀ x : Exchange, x.Adds name → x.Adds name ∨ x.Removes name := fun _ => .inl
  refine (lastIs_concat within).trans ?_
  by_cases adds : e.Adds name
  · simp only [adds, true_or]
  · simp only [adds, false_or]
    rfl

theorem given_concat :
    Given (h ++ [e]) name password ↔
      e.Gives name password ∨ (¬ ∃ any, e.Gives name any) ∧ Given h name password :=
  lastIs_concat fun _ gives => ⟨password, gives⟩

theorem AddedBefore.concat {one : String} (before : AddedBefore h one other)
    (notOne : ¬ e.Adds one) (notOther : ¬ e.Adds other) : AddedBefore (h ++ [e]) one other := by
  obtain ⟨b, x, b', x', last, last', lt⟩ := before
  exact ⟨b, x, b', x', (last_concat_of_not notOne).mpr last,
    (last_concat_of_not notOther).mpr last', lt⟩

theorem Present.addedBefore (present : Present h other) (notOther : ¬ e.Adds other)
    (adds : e.Adds name) : AddedBefore (h ++ [e]) other name := by
  obtain ⟨before, x, last, added⟩ := present
  have only : Last (Exchange.Adds other) h before x := last.narrow (fun _ => .inl) added
  exact ⟨before, x, h, e, (last_concat_of_not notOther).mpr only,
    (last_concat adds).mpr ⟨rfl, rfl⟩, only.before_lt⟩

/-! What a call can do. -/

theorem has_iff : s.has name = true ↔ name ∈ s.names := by
  unfold has names
  simp [List.any_eq_true, List.mem_map]

theorem names_remove {users : List User} :
    (users.eraseP fun u => u.name == name).map User.name = (users.map User.name).erase name := by
  rw [List.erase_eq_eraseP, List.eraseP_map]
  congr 2
  funext u
  exact Bool.beq_comm

theorem names_replacePassword {users : List User} :
    (replacePassword name password users).map User.name = users.map User.name := by
  induction users with
  | nil => rfl
  | cons u rest ih =>
      unfold replacePassword
      split
      · rfl
      · rw [List.map_cons, List.map_cons, ih]

theorem mem_replacePassword {users : List User} (distinct : (users.map User.name).Nodup)
    {u : User} (member : u ∈ replacePassword name password users) :
    u.name = name ∧ u.password = password ∨ u.name ≠ name ∧ u ∈ users := by
  induction users with
  | nil => exact absurd member List.not_mem_nil
  | cons first rest ih =>
      obtain ⟨fresh, distinct⟩ := List.nodup_cons.mp distinct
      unfold replacePassword at member
      split at member
      case isTrue same =>
        rcases List.mem_cons.mp member with rfl | later
        · exact .inl ⟨same, rfl⟩
        · refine .inr ⟨fun again => fresh ?_, List.mem_cons_of_mem first later⟩
          exact same.trans again.symm ▸ List.mem_map_of_mem later
      case isFalse differs =>
        rcases List.mem_cons.mp member with rfl | later
        · exact .inr ⟨differs, List.mem_cons_self⟩
        · exact (ih distinct later).imp_right fun kept =>
            ⟨kept.1, List.mem_cons_of_mem first kept.2⟩

/-- All that a call can do: only granted changes change the store. -/
inductive Performed (s : UserStore) : Exchange → UserStore → Prop where
  | unchanged {e : Exchange} (notDone : e.answer ≠ .done) : Performed s e s
  | added (user : User) (fresh : user.name ∉ s.names) (room : s.users.length < mostUsers) :
      Performed s ⟨.add user, .done⟩ ⟨s.users ++ [user]⟩
  | removed (name : String) (stored : name ∈ s.names) :
      Performed s ⟨.remove name, .done⟩ ⟨s.users.eraseP fun u => u.name == name⟩
  | changed (name password : String) (stored : name ∈ s.names) :
      Performed s ⟨.changePassword name password, .done⟩
        ⟨replacePassword name password s.users⟩

theorem performed (s : UserStore) (call : Call) :
    s.Performed ⟨call, (s.perform call).1⟩ (s.perform call).2 := by
  cases call with
  | add user =>
      simp only [perform, add, has_iff]
      split
      case isTrue => exact .unchanged nofun
      case isFalse fresh =>
        split
        case isTrue => exact .unchanged nofun
        case isFalse room => exact .added user fresh (Nat.lt_of_not_le room)
  | remove name =>
      simp only [perform, remove, has_iff]
      split
      case isTrue stored => exact .removed name stored
      case isFalse => exact .unchanged nofun
  | changePassword name password =>
      simp only [perform, changePassword, has_iff]
      split
      case isTrue stored => exact .changed name password stored
      case isFalse => exact .unchanged nofun
  | authenticate name password => exact .unchanged nofun

/-! The store is what its history says. -/

structure Recounted (h : List Exchange) (s : UserStore) : Prop where
  distinct : s.names.Nodup
  few : s.names.length ≤ mostUsers
  present : ∀ name, name ∈ s.names ↔ Present h name
  inOrder : s.names.Pairwise (AddedBefore h)
  given : ∀ u ∈ s.users, Given h u.name u.password

theorem Recounted.new : Recounted [] empty where
  distinct := List.nodup_nil
  few := Nat.zero_le mostUsers
  present := fun _ => iff_of_false List.not_mem_nil fun ⟨_, _, last, _⟩ => not_last_nil last
  inOrder := List.Pairwise.nil
  given := fun _ member => absurd member List.not_mem_nil

namespace Recounted

theorem unchanged (recounted : Recounted h s) (notDone : e.answer ≠ .done) :
    Recounted (h ++ [e]) s := by
  have notAdds : ∀ name, ¬ e.Adds name := by
    rintro name ⟨password, rfl⟩
    exact notDone rfl
  have notRemoves : ∀ name, ¬ e.Removes name := by
    rintro name rfl
    exact notDone rfl
  have notGives : ∀ name password, ¬ e.Gives name password := by
    rintro name password (rfl | rfl) <;> exact notDone rfl
  refine ⟨recounted.distinct, recounted.few, fun name => ?_, ?_, fun u stored => ?_⟩
  · rw [present_concat, recounted.present]
    simp only [notAdds, notRemoves, not_false_eq_true, true_and, false_or]
  · exact recounted.inOrder.imp fun before => before.concat (notAdds _) (notAdds _)
  · exact given_concat.mpr (.inr ⟨fun ⟨_, gives⟩ => notGives _ _ gives, recounted.given u stored⟩)

theorem added {user : User} (recounted : Recounted h s) (fresh : user.name ∉ s.names)
    (room : s.users.length < mostUsers) :
    Recounted (h ++ [⟨.add user, .done⟩]) ⟨s.users ++ [user]⟩ := by
  have adds : ∀ name, Exchange.Adds name ⟨.add user, .done⟩ ↔ name = user.name := by
    intro name
    constructor
    · rintro ⟨password, same⟩
      cases same
      rfl
    · rintro rfl
      exact ⟨user.password, rfl⟩
  have notAdds : ∀ name ∈ s.names, ¬ Exchange.Adds name ⟨.add user, .done⟩ := by
    intro name stored again
    exact fresh ((adds name).mp again ▸ stored)
  have names : UserStore.names ⟨s.users ++ [user]⟩ = s.names ++ [user.name] := List.map_append
  refine ⟨?_, ?_, fun name => ?_, ?_, fun u stored => ?_⟩
  · rw [names, List.nodup_append]
    refine ⟨recounted.distinct, List.nodup_cons.mpr ⟨List.not_mem_nil, List.nodup_nil⟩, ?_⟩
    rintro name stored _ last rfl
    exact fresh (List.mem_singleton.mp last ▸ stored)
  · rw [names, List.length_append]
    unfold UserStore.names
    rw [List.length_map]
    exact room
  · rw [names, present_concat, adds, List.mem_append, List.mem_singleton, recounted.present,
      or_comm]
    simp [Exchange.Removes]
  · rw [names, List.pairwise_append]
    refine ⟨?_, List.pairwise_singleton _ _, ?_⟩
    · exact recounted.inOrder.imp_of_mem fun one other before =>
        before.concat (notAdds _ one) (notAdds _ other)
    · intro name stored _ last
      obtain rfl := List.mem_singleton.mp last
      exact ((recounted.present name).mp stored).addedBefore (notAdds name stored)
        ((adds _).mpr rfl)
  · rw [given_concat]
    rcases List.mem_append.mp stored with earlier | last
    · refine .inr ⟨?_, recounted.given u earlier⟩
      rintro ⟨password, gives⟩
      refine notAdds u.name (List.mem_map_of_mem earlier) ⟨password, ?_⟩
      exact gives.resolve_right nofun
    · obtain rfl := List.mem_singleton.mp last
      exact .inl (.inl rfl)

theorem removed (recounted : Recounted h s) :
    Recounted (h ++ [⟨.remove name, .done⟩]) ⟨s.users.eraseP fun u => u.name == name⟩ := by
  have notAdds : ∀ other, ¬ Exchange.Adds other ⟨.remove name, .done⟩ := by
    rintro other ⟨password, same⟩
    cases same
  have names : UserStore.names ⟨s.users.eraseP fun u => u.name == name⟩ = s.names.erase name :=
    names_remove
  refine ⟨?_, ?_, fun other => ?_, ?_, fun u stored => ?_⟩
  · rw [names]
    exact recounted.distinct.erase name
  · rw [names]
    exact Nat.le_trans List.length_erase_le recounted.few
  · rw [names, recounted.distinct.mem_erase_iff, present_concat, recounted.present]
    simp [notAdds, Exchange.Removes, eq_comm]
  · rw [names]
    exact (recounted.inOrder.sublist List.erase_sublist).imp fun before =>
      before.concat (notAdds _) (notAdds _)
  · refine given_concat.mpr (.inr ⟨?_, recounted.given u (List.mem_of_mem_eraseP stored)⟩)
    rintro ⟨_, gives | gives⟩ <;> cases gives

theorem changed (recounted : Recounted h s) :
    Recounted (h ++ [⟨.changePassword name password, .done⟩])
      ⟨replacePassword name password s.users⟩ := by
  have notAdds : ∀ other, ¬ Exchange.Adds other ⟨.changePassword name password, .done⟩ := by
    rintro other ⟨any, same⟩
    cases same
  have names : UserStore.names ⟨replacePassword name password s.users⟩ = s.names :=
    names_replacePassword
  refine ⟨?_, ?_, fun other => ?_, ?_, fun u stored => ?_⟩
  · exact names ▸ recounted.distinct
  · exact names ▸ recounted.few
  · rw [names, present_concat, recounted.present]
    simp [notAdds, Exchange.Removes]
  · rw [names]
    exact recounted.inOrder.imp fun before => before.concat (notAdds _) (notAdds _)
  · rw [given_concat]
    rcases mem_replacePassword recounted.distinct stored with ⟨rfl, rfl⟩ | ⟨differs, kept⟩
    · exact .inl (.inr rfl)
    · refine .inr ⟨?_, recounted.given u kept⟩
      rintro ⟨any, gives | gives⟩
      · cases gives
      · cases gives
        exact differs rfl

theorem step (recounted : Recounted h s) (performed : s.Performed e t) :
    Recounted (h ++ [e]) t := by
  cases performed with
  | unchanged notDone => exact recounted.unchanged notDone
  | added user fresh room => exact recounted.added fresh room
  | removed name stored => exact recounted.removed
  | changed name password stored => exact recounted.changed

theorem run (recounted : Recounted h s) (calls : List Call) :
    Recounted (h ++ history calls s) (s.run calls) := by
  induction calls generalizing h s with
  | nil => rwa [history, List.append_nil]
  | cons call rest ih =>
      have whole := ih (recounted.step (performed s call))
      rwa [List.append_assoc, List.singleton_append] at whole

theorem authenticate_iff (recounted : Recounted h s) :
    s.authenticate name password = true ↔ Present h name ∧ Given h name password := by
  rw [← recounted.present]
  simp only [authenticate, List.any_eq_true, Bool.and_eq_true, beq_iff_eq]
  constructor
  · rintro ⟨u, stored, rfl, rfl⟩
    exact ⟨List.mem_map_of_mem stored, recounted.given u stored⟩
  · rintro ⟨present, given⟩
    obtain ⟨u, stored, rfl⟩ := List.mem_map.mp present
    exact ⟨u, stored, rfl, (recounted.given u stored).unique given⟩

end Recounted

/-! What is refused, and why. -/

def Fits (users : List User) : Prop :=
  (users.map User.name).Nodup ∧ users.length ≤ mostUsers

def Misfit (users : List User) (user : User) (fault : UserError) : Prop :=
  user.name ∈ users.map User.name ∧ fault = .alreadyExists user.name ∨
    user.name ∉ users.map User.name ∧ users.length = mostUsers ∧ fault = .tooMany mostUsers

section Fits

variable {users : List User} {user : User} {fault : UserError}

theorem Recounted.fits (recounted : Recounted h s) : Fits s.users :=
  ⟨recounted.distinct, List.length_map User.name ▸ recounted.few⟩

theorem fits_concat (fits : Fits users) :
    Fits (users ++ [user]) ↔ user.name ∉ users.map User.name ∧ users.length < mostUsers := by
  unfold Fits
  rw [List.map_append, List.nodup_append, List.length_append]
  simp only [List.map_cons, List.map_nil, List.mem_singleton, List.length_singleton,
    List.nodup_cons, List.not_mem_nil, not_false_eq_true, List.nodup_nil, and_true, fits.1,
    true_and, Nat.succ_le_iff]
  refine and_congr_left' ?_
  constructor
  · intro apart stored
    exact apart _ stored _ rfl rfl
  · rintro fresh name stored _ rfl rfl
    exact fresh stored

theorem Fits.of_append {rest : List User} (fits : Fits (users ++ rest)) : Fits users := by
  obtain ⟨distinct, few⟩ := fits
  rw [List.map_append] at distinct
  rw [List.length_append] at few
  exact ⟨(List.nodup_append.mp distinct).1, Nat.le_of_add_right_le few⟩

theorem add_eq_ok_iff (fits : Fits s.users) :
    s.add user = .ok t ↔ Fits (s.users ++ [user]) ∧ t = ⟨s.users ++ [user]⟩ := by
  rw [fits_concat fits]
  unfold add
  simp only [has_iff]
  split
  case isTrue stored => exact iff_of_false nofun fun both => both.1.1 stored
  case isFalse fresh =>
    split
    case isTrue full => exact iff_of_false nofun fun both => Nat.not_lt_of_le full both.1.2
    case isFalse room =>
      rw [Except.ok.injEq, eq_comm]
      exact (and_iff_right ⟨fresh, Nat.lt_of_not_le room⟩).symm

theorem add_eq_error_iff (fits : Fits s.users) :
    s.add user = .error fault ↔ Misfit s.users user fault := by
  unfold add Misfit
  simp only [has_iff, names]
  split
  case isTrue stored => simp [stored, eq_comm]
  case isFalse fresh =>
    split
    case isTrue full => simp [fresh, Nat.le_antisymm fits.2 full, eq_comm]
    case isFalse room =>
      have notFull : s.users.length ≠ mostUsers := fun full => room (Nat.le_of_eq full.symm)
      simp [fresh, notFull]

theorem addAll_cons (user : User) (rest : List User) (fits : Fits s.users) :
    Fits (s.users ++ [user]) ∧ addAll (user :: rest) s = addAll rest ⟨s.users ++ [user]⟩ ∨
      ∃ cause, Misfit s.users user cause ∧ ¬ Fits (s.users ++ [user]) ∧
        addAll (user :: rest) s = .error cause := by
  rw [addAll.eq_2]
  cases outcome : s.add user with
  | ok grown =>
      obtain ⟨grownFits, rfl⟩ := (add_eq_ok_iff fits).mp outcome
      exact .inl ⟨grownFits, rfl⟩
  | error cause =>
      refine .inr ⟨cause, (add_eq_error_iff fits).mp outcome, fun grownFits => ?_, rfl⟩
      cases outcome.symm.trans ((add_eq_ok_iff fits).mpr ⟨grownFits, rfl⟩)

theorem Fits.not_misfit (fits : Fits (users ++ [user])) : ¬ Misfit users user fault := by
  obtain ⟨fresh, room⟩ := (fits_concat fits.of_append).mp fits
  rintro (⟨stored, -⟩ | ⟨-, full, -⟩)
  · exact fresh stored
  · exact Nat.ne_of_lt room full

theorem Misfit.unique {cause : UserError} (one : Misfit users user cause)
    (two : Misfit users user fault) : cause = fault := by
  rcases one with ⟨stored, rfl⟩ | ⟨fresh, -, rfl⟩ <;>
    rcases two with ⟨again, rfl⟩ | ⟨other, -, rfl⟩
  · rfl
  · exact absurd stored other
  · exact absurd again fresh
  · rfl

theorem addAll_eq_ok_iff {rest : List User} (fits : Fits s.users) :
    addAll rest s = .ok t ↔ Fits (s.users ++ rest) ∧ t.users = s.users ++ rest := by
  induction rest generalizing s with
  | nil =>
      rw [addAll, List.append_nil, Except.ok.injEq, and_iff_right fits]
      constructor
      · rintro rfl
        rfl
      · intro same
        cases s
        cases t
        cases same
        rfl
  | cons user rest ih =>
      rw [List.append_cons]
      rcases addAll_cons user rest fits with
        ⟨grownFits, added⟩ | ⟨cause, -, tooMuch, refused⟩
      · rw [added]
        exact ih grownFits
      · rw [refused]
        exact iff_of_false nofun fun both => tooMuch both.1.of_append

theorem addAll_eq_error_iff {rest : List User} (fits : Fits s.users) :
    addAll rest s = .error fault ↔
      ∃ before user after, rest = before ++ user :: after ∧
        Fits (s.users ++ before) ∧ Misfit (s.users ++ before) user fault := by
  induction rest generalizing s with
  | nil =>
      refine iff_of_false nofun ?_
      rintro ⟨before, user, after, cut, -⟩
      exact List.append_ne_nil_of_right_ne_nil before (List.cons_ne_nil user after) cut.symm
  | cons first rest ih =>
      rcases addAll_cons first rest fits with
        ⟨grownFits, added⟩ | ⟨cause, misfit, tooMuch, refused⟩
      · rw [added, ih grownFits]
        constructor
        · rintro ⟨before, user, after, rfl, beforeFits, misfit⟩
          rw [← List.append_cons] at beforeFits misfit
          exact ⟨first :: before, user, after, rfl, beforeFits, misfit⟩
        · rintro ⟨before, user, after, cut, beforeFits, misfit⟩
          cases before with
          | nil =>
              cases cut
              rw [List.append_nil] at misfit
              exact absurd misfit grownFits.not_misfit
          | cons _ before =>
              cases cut
              rw [List.append_cons] at beforeFits misfit
              exact ⟨before, user, after, rfl, beforeFits, misfit⟩
      · rw [refused, Except.error.injEq]
        constructor
        · rintro rfl
          exact ⟨[], first, rest, rfl, by rwa [List.append_nil], by rwa [List.append_nil]⟩
        · rintro ⟨before, user, after, cut, beforeFits, other⟩
          cases before with
          | nil =>
              cases cut
              rw [List.append_nil] at other
              exact misfit.unique other
          | cons _ before =>
              cases cut
              rw [List.append_cons] at beforeFits
              exact absurd beforeFits.of_append tooMuch

end Fits

/-- What is refused is refused for that cause alone, and nothing changes unless it is granted; a
password is changed in its place. -/
structure Refuses (s : UserStore) : Prop where
  add : ∀ user fault, s.add user = .error fault ↔ Misfit s.users user fault
  remove : ∀ name fault, s.remove name = .error fault ↔ name ∉ s.names ∧ fault = .notFound name
  changePassword : ∀ name password fault,
    s.changePassword name password = .error fault ↔ name ∉ s.names ∧ fault = .notFound name
  unchanged : ∀ call, (s.perform call).1 ≠ .done → (s.perform call).2 = s
  inPlace : ∀ name password, (s.perform (.changePassword name password)).2.names = s.names

theorem remove_eq_error_iff {fault : UserError} :
    s.remove name = .error fault ↔ name ∉ s.names ∧ fault = .notFound name := by
  unfold remove
  simp only [has_iff]
  split
  case isTrue stored => exact iff_of_false nofun fun both => both.1 stored
  case isFalse missing => rw [Except.error.injEq, eq_comm, and_iff_right missing]

theorem changePassword_eq_error_iff {fault : UserError} :
    s.changePassword name password = .error fault ↔ name ∉ s.names ∧ fault = .notFound name := by
  unfold changePassword
  simp only [has_iff]
  split
  case isTrue stored => exact iff_of_false nofun fun both => both.1 stored
  case isFalse missing => rw [Except.error.injEq, eq_comm, and_iff_right missing]

theorem Performed.refused (performed : s.Performed e t) (notDone : e.answer ≠ .done) : t = s := by
  cases performed with
  | unchanged => rfl
  | added | removed | changed => exact absurd rfl notDone

theorem Performed.inPlace (performed : s.Performed e t)
    (changes : e.call = .changePassword name password) : t.names = s.names := by
  cases performed with
  | unchanged => rfl
  | added | removed => cases changes
  | changed => exact names_replacePassword

theorem Fits.refuses (fits : Fits s.users) : s.Refuses where
  add := fun _ _ => add_eq_error_iff fits
  remove := fun _ _ => remove_eq_error_iff
  changePassword := fun _ _ _ => changePassword_eq_error_iff
  unchanged := fun call notDone => (performed s call).refused notDone
  inPlace := fun _ _ => (performed s _).inPlace rfl

theorem mem_acceptableMethods :
    (.noAuth ∈ s.acceptableMethods ↔ s.users = []) ∧
      (.userPass ∈ s.acceptableMethods ↔ s.users ≠ []) := by
  unfold acceptableMethods needsAuth
  cases s.users <;> simp

/-- After any calls on a new store the store is what their history says, and it goes on as a map of
at most ten names does. A store made of a list is made of the whole list if it fits, and fails with
the first user who does not. -/
theorem recounts_every_history :
    (∀ calls : List Call,
      let s := empty.run calls
      let h := history calls empty
      Recounted h s ∧
        (∀ name password,
          s.authenticate name password = true ↔ Present h name ∧ Given h name password) ∧
        s.Refuses ∧
        (.noAuth ∈ s.acceptableMethods ↔ s.users = []) ∧
        (.userPass ∈ s.acceptableMethods ↔ s.users ≠ [])) ∧
      ∀ users : List User,
        (∀ s, ofUsers users = .ok s ↔ Fits users ∧ s.users = users) ∧
          ∀ fault, ofUsers users = .error fault ↔
            ∃ before user after, users = before ++ user :: after ∧
              Fits before ∧ Misfit before user fault := by
  have noneFit : Fits empty.users := Recounted.new.fits
  refine ⟨fun calls => ?_, fun users => ⟨fun s => ?_, fun fault => ?_⟩⟩
  · have recounted : Recounted (history calls empty) (empty.run calls) := Recounted.new.run calls
    exact ⟨recounted, fun _ _ => recounted.authenticate_iff, recounted.fits.refuses,
      mem_acceptableMethods⟩
  · exact addAll_eq_ok_iff noneFit
  · exact addAll_eq_error_iff noneFit

/-- A name that was removed and added again counts from there. -/
example :
    (empty.run [.add ⟨"a", "1"⟩, .add ⟨"b", "2"⟩, .remove "a", .add ⟨"a", "3"⟩,
      .changePassword "b" "4"]).users = [⟨"b", "4"⟩, ⟨"a", "3"⟩] := by
  decide

end UserStore

end SocksProxy
