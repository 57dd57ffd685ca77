import Mathlib.Data.List.Nodup
import SocksProxy.Server

/-!
The table of sessions at work, in which every session has an id of its own. Whatever is done for one
id is done for the session that has it, and the other sessions stay as they are.
-/

namespace SocksProxy

open Net (SocketAddress)

/-- Events that one session is told together, as long as it goes on. -/
def Live.driven (events : List Event) (s : Live) : Live :=
  events.foldl (fun live event => if live.session.isFinished then live else live.handle event) s

theorem Live.driven_keeps {P : Live → Prop} (handled : ∀ event s, P s → P (s.handle event))
    (events : List Event) {s : Live} (here : P s) : P (s.driven events) := by
  induction events generalizing s with
  | nil => exact here
  | cons event rest ih =>
      apply ih
      dsimp only
      split
      · exact here
      · exact handled event s here

namespace Server

def store (moved : Live) (s : Server) : Server :=
  { s with services := moved.services, sessions := replace moved.session s.sessions }

def Unique (s : Server) : Prop := (s.sessions.map Session.id).Nodup

variable {id other : SessionId} {session x y : Session} {sessions : List Session} {moved : Live}
  {events : List SocksProxy.Event} {s after : Server}

theorem ids_replace (session : Session) (sessions : List Session) :
    (replace session sessions).map Session.id = sessions.map Session.id := by
  induction sessions with
  | nil => rfl
  | cons first rest ih =>
      unfold replace
      split
      · rename_i same
        simp [same]
      · simp [ih]

theorem mem_replace (unique : (sessions.map Session.id).Nodup)
    (member : y ∈ replace session sessions) :
    y = session ∨ y ∈ sessions ∧ y.id ≠ session.id := by
  induction sessions with
  | nil => cases member
  | cons first rest ih =>
      obtain ⟨alone, unique⟩ := List.nodup_cons.mp unique
      unfold replace at member
      split at member
      · rename_i same
        rcases List.mem_cons.mp member with here | later
        · exact Or.inl here
        · refine Or.inr ⟨List.mem_cons_of_mem _ later, fun again => alone ?_⟩
          rw [same, ← again]
          exact List.mem_map_of_mem later
      · rename_i different
        rcases List.mem_cons.mp member with rfl | later
        · exact Or.inr ⟨List.mem_cons_self, different⟩
        · exact (ih unique later).imp_right fun ⟨there, distinct⟩ =>
            ⟨List.mem_cons_of_mem _ there, distinct⟩

theorem without_sublist (id : SessionId) (sessions : List Session) :
    (without id sessions).Sublist sessions :=
  List.filter_sublist

theorem Unique.fewer (unique : s.Unique) (fewer : after.sessions.Sublist s.sessions) :
    after.Unique :=
  List.Nodup.sublist (fewer.map Session.id) unique

theorem Unique.store (unique : s.Unique) (moved : Live) : (s.store moved).Unique := by
  rw [Unique, Server.store, ids_replace]
  exact unique

theorem Unique.eq_of_id (unique : s.Unique) (here : x ∈ s.sessions) (there : y ∈ s.sessions)
    (same : x.id = y.id) : x = y :=
  List.inj_on_of_nodup_map unique here there same

theorem find?_cases (id : SessionId) (s : Server) :
    (s.find? id = none ∧ ∀ x ∈ s.sessions, x.id ≠ id) ∨
      ∃ x ∈ s.sessions, x.id = id ∧ s.find? id = some x := by
  cases found : s.find? id with
  | none =>
      refine Or.inl ⟨rfl, fun x member same => ?_⟩
      have differs := List.find?_eq_none.mp found x member
      simp [same] at differs
  | some x =>
      refine Or.inr ⟨x, List.mem_of_find?_eq_some found, ?_, rfl⟩
      simpa using List.find?_some found

theorem reap_fewer (id : SessionId) (s : Server) : (s.reap id).sessions.Sublist s.sessions := by
  unfold reap
  split
  · exact List.Sublist.refl _
  · split
    · exact without_sublist _ s.sessions
    · exact List.Sublist.refl _

theorem reap_notices (id : SessionId) (s : Server) :
    (s.reap id).services.notices = s.services.notices := by
  unfold reap
  split
  · rfl
  · split <;> rfl

theorem running_reap (id : SessionId) (s : Server) : (s.reap id).running = s.running := by
  unfold reap
  split
  · rfl
  · split <;> rfl

theorem drive_cases (id : SessionId) (events : List SocksProxy.Event) (s : Server) :
    (s.drive id events = s ∧ ∀ x ∈ s.sessions, x.id ≠ id) ∨
      ∃ x ∈ s.sessions, x.id = id ∧
        s.drive id events = (s.store ((s.live x).driven events)).reap id := by
  unfold drive
  rcases find?_cases id s with ⟨absent, nobody⟩ | ⟨x, member, same, found⟩
  · rw [absent]
    exact Or.inl ⟨rfl, nobody⟩
  · rw [found]
    exact Or.inr ⟨x, member, same, rfl⟩

theorem around_cases (id : SessionId) (move : Live → Live) (s : Server) :
    s.around id move = s ∨
      ∃ x ∈ s.sessions, x.id = id ∧ s.around id move = s.store (move (s.live x)) := by
  unfold around
  rcases find?_cases id s with ⟨absent, nobody⟩ | ⟨x, member, same, found⟩
  · rw [absent]
    exact Or.inl rfl
  · rw [found]
    exact Or.inr ⟨x, member, same, rfl⟩

/-- Sessions that are in the table after one was driven are that one and those with other ids. -/
theorem mem_drive (unique : s.Unique)
    (same : ∀ x ∈ s.sessions, ((s.live x).driven events).session.id = x.id)
    (member : y ∈ (s.drive id events).sessions) :
    (y ∈ s.sessions ∧ y.id ≠ id) ∨
      ∃ x ∈ s.sessions, x.id = id ∧ y = ((s.live x).driven events).session := by
  rcases drive_cases id events s with ⟨idle, nobody⟩ | ⟨x, here, rfl, driven⟩
  · rw [idle] at member
    exact Or.inl ⟨member, nobody y member⟩
  · rw [driven] at member
    have stored := (reap_fewer _ _).subset member
    rcases mem_replace unique stored with rfl | ⟨there, distinct⟩
    · exact Or.inr ⟨x, here, rfl, rfl⟩
    · rw [same x here] at distinct
      exact Or.inl ⟨there, distinct⟩

theorem Unique.drive (unique : s.Unique) (id : SessionId) (events : List SocksProxy.Event) :
    (s.drive id events).Unique := by
  rcases drive_cases id events s with ⟨idle, -⟩ | ⟨x, -, -, driven⟩
  · rw [idle]
    exact unique
  · rw [driven]
    exact (unique.store _).fewer (reap_fewer _ _)

theorem fresh_of_freshId {drawn : List SessionId} (found : s.freshId? drawn = some id) :
    ∀ x ∈ s.sessions, x.id ≠ id := by
  have free := List.find?_some found
  intro x member same
  have taken : s.has id = true := List.any_eq_true.mpr ⟨x, member, by simpa using same⟩
  rw [taken] at free
  cases free

theorem Unique.append (unique : s.Unique) (fresh : ∀ y ∈ s.sessions, y.id ≠ x.id) :
    ((s.sessions ++ [x]).map Session.id).Nodup := by
  rw [List.map_append, List.map_singleton]
  refine List.Nodup.append unique (List.nodup_singleton x.id) ?_
  intro other taken free
  obtain ⟨y, member, rfl⟩ := List.mem_map.mp taken
  exact fresh y member (List.mem_singleton.mp free)

theorem shutdown_keeps (s : Server) :
    s.shutdown.sessions.Sublist s.sessions ∧
      s.shutdown.services.notices = s.services.notices := by
  have retires : ∀ (leaving : List Session) (s : Server),
      (leaving.foldl (fun s session => s.retire session) s).sessions.Sublist s.sessions ∧
        (leaving.foldl (fun s session => s.retire session) s).services.notices =
          s.services.notices := by
    intro leaving
    induction leaving with
    | nil => exact fun s => ⟨List.Sublist.refl _, rfl⟩
    | cons session rest ih =>
        intro s
        obtain ⟨fewer, notices⟩ := ih (s.retire session)
        exact ⟨fewer.trans (without_sublist _ s.sessions), notices⟩
  exact retires s.sessions s

theorem obey_keeps (commands : List Command) (s : Server) :
    (s.obey commands).sessions.Sublist s.sessions ∧
      (s.obey commands).services.notices = s.services.notices ∧
      ((s.obey commands).running = true → (s.obey commands).sessions = s.sessions) := by
  induction commands generalizing s with
  | nil => exact ⟨List.Sublist.refl _, rfl, fun _ => rfl⟩
  | cons command rest ih =>
      cases command with
      | setSniffing on => exact ih _
      | terminate =>
          obtain ⟨fewer, notices⟩ := (s.note (.commanded .terminate)).shutdown_keeps
          exact ⟨fewer, notices, fun running => nomatch running⟩

end Server

end SocksProxy
