import SocksProxy.Proofs.Relay.Flow
import SocksProxy.Proofs.Relay.Reading
import SocksProxy.Proofs.Relay.Stroke

/-!
What a relay's sniffer hears along a run: of all that is read, read by read and in this order, that
which is read while the sniffer is wanted. Whatever it reports is what a new sniffer reports of this
conversation.
-/

namespace SocksProxy.Relay

open Net (SocketAddress)
open Pop3 (Chunk Sighting Sniffer)

/-- The watch is that of a sniffer which has heard this conversation, and has reported all that it
made of it. -/
structure Watch.Follows (client server : SocketAddress) (origin : Sniffer) (before : Reports)
    (heard : List Chunk) (w : Watch) : Prop where
  sniffer : w.sniffer = some (origin.after heard)
  reports : w.monitor.reports = before.tell client server (origin.follow heard)

namespace Watch.Follows

variable {client server : SocketAddress} {origin : Sniffer} {before : Reports}
  {heard : List Chunk} {w : Watch}

theorem hear (follows : w.Follows client server origin before heard) (chunk : Chunk) :
    (w.hear client server chunk).Follows client server origin before (heard ++ [chunk]) := by
  obtain ⟨sniffer, reports⟩ := follows
  unfold Watch.hear
  rw [sniffer]
  constructor
  · simp only [Sniffer.after, List.foldl_append, List.foldl_cons, List.foldl_nil]
  · rw [Monitor.reports_foldl, reports, ← Reports.tell_append, Sniffer.follow_append,
      Sniffer.follow_singleton]

theorem hears (follows : w.Follows client server origin before heard) (side : Side)
    (reads : List Bytes) :
    (w.hear client server ⟨side, reads.flatten⟩).Follows client server origin before
      (heard ++ reads.map (Chunk.mk side)) := by
  induction reads generalizing w heard with
  | nil =>
      rw [List.flatten_nil, hear_nil, List.map_nil, List.append_nil]
      exact follows
  | cons chunk rest ih =>
      rw [List.flatten_cons, hear_append, List.map_cons, List.append_cons]
      exact ih (follows.hear ⟨side, chunk⟩)

theorem of_same {later : Watch} (follows : w.Follows client server origin before heard)
    (sniffer : later.sniffer = w.sniffer) (reports : later.monitor.reports = w.monitor.reports) :
    later.Follows client server origin before heard :=
  ⟨sniffer.trans follows.sniffer, reports.trans follows.reports⟩

end Watch.Follows

namespace Scene

/-- A move with the attempts to read that it is made of, if it is one of reading. -/
structure Turn where
  move : Move
  attempts : List Attempt

structure Heard where
  wanted : Bool
  chunk : Chunk

def runBy (turns : List Turn) (s : Scene) : Scene :=
  turns.foldl (fun s turn => (s.moveBy turn.attempts turn.move).1) s

def spoken (turn : Turn) (s : Scene) : List Heard :=
  match turn.move with
  | .readable side =>
      (s.readsBy turn.attempts side).map fun octets => ⟨s.monitor.sniffing, ⟨side, octets⟩⟩
  | _ => []

def transcript : List Turn → Scene → List Heard
  | [], _ => []
  | turn :: rest, s => s.spoken turn ++ transcript rest (s.moveBy turn.attempts turn.move).1

/-- The part that the sniffer was wanted for. -/
def overheard (heard : List Heard) : List Chunk := (heard.filter Heard.wanted).map Heard.chunk

def saidBy (side : Side) (heard : List Heard) : Bytes :=
  heard.flatMap fun h => if h.chunk.side = side then h.chunk.octets else []

theorem overheard_nil : overheard [] = [] := rfl

theorem overheard_append (first second : List Heard) :
    overheard (first ++ second) = overheard first ++ overheard second := by
  rw [overheard, List.filter_append, List.map_append]
  rfl

theorem runBy_eq (turns : List Turn) (s : Scene) : s.runBy turns = s.run (turns.map Turn.move) := by
  induction turns generalizing s with
  | nil => rfl
  | cons turn rest ih =>
      have moved := congrArg Prod.fst (s.moveBy_eq turn.attempts turn.move)
      exact (ih _).trans (congrArg (run (rest.map Turn.move)) moved)

variable {first s : Scene}

theorem saidBy_reads (way side : Side) (wanted : Bool) (reads : List Bytes) :
    saidBy way (reads.map fun octets => ⟨wanted, ⟨side, octets⟩⟩) =
      if side = way then reads.flatten else [] := by
  by_cases here : side = way
  · simp [saidBy, here, List.flatMap_map, List.flatMap_id']
  · simp [saidBy, here, List.flatMap_map]

theorem taken_move (move : Move) (s : Scene) (way : Side) :
    ((s.move move).1.ends.get way).socket.taken = (s.ends.get way).socket.taken ++
      match move with
      | .readable side => if side = way then s.brought side else []
      | _ => [] := by
  have after := congrArg Direction.taken (direction_move s way move)
  refine Eq.trans after ?_
  cases happens : s.round? way move with
  | none =>
      cases move with
      | readable side =>
          by_cases here : side = way
          · subst here
            have refused : ¬ (s.context side).allowed.read = true := by
              simpa [round?, direction] using happens
            simp [brought, refused, direction]
          · simp [here, direction]
      | _ => exact (List.append_nil _).symm
  | some round =>
      refine (Direction.after_taken round (s.direction way)).trans ?_
      cases move with
      | readable side =>
          simp only [round?, Option.ite_none_right_eq_some, Option.some.injEq] at happens
          obtain ⟨⟨rfl, allowed⟩, rfl⟩ := happens
          have may : (s.context side).allowed.read = true := allowed
          simp [brought, may, Round.received?, direction]
      | start =>
          cases happens
          rfl
      | writable side =>
          simp only [round?, Option.ite_none_right_eq_some, Option.some.injEq] at happens
          obtain ⟨-, rfl⟩ := happens
          rfl
      | setSniffing on | far side move => cases happens

theorem taken_moveBy (turn : Turn) (s : Scene) (way : Side) :
    ((s.moveBy turn.attempts turn.move).1.ends.get way).socket.taken =
      (s.ends.get way).socket.taken ++ saidBy way (s.spoken turn) := by
  rw [moveBy_eq, taken_move]
  congr 1
  unfold spoken
  cases turn.move with
  | readable side =>
      dsimp only
      rw [saidBy_reads, readsBy_flatten]
  | _ => rfl

theorem taken_run (turns : List Turn) (s : Scene) (way : Side) :
    ((s.runBy turns).ends.get way).socket.taken =
      (s.ends.get way).socket.taken ++ saidBy way (s.transcript turns) := by
  induction turns generalizing s with
  | nil => exact (List.append_nil _).symm
  | cons turn rest ih =>
      refine (ih _).trans ?_
      rw [taken_moveBy, List.append_assoc]
      exact congrArg (_ ++ ·) List.flatMap_append.symm

/-- The watch follows what was overheard, and both ends are where they were. -/
structure Follows (s first : Scene) (origin : Sniffer) (heard : List Chunk) : Prop where
  watch : s.watch.Follows first.ends.client.address first.ends.server.address origin
    first.monitor.reports heard
  addresses : ∀ way, (s.ends.get way).address = (first.ends.get way).address

variable {origin : Sniffer} {heard : List Chunk}

theorem overheard_reads (wanted : Bool) (side : Side) (reads : List Bytes) :
    overheard (reads.map fun octets => ⟨wanted, ⟨side, octets⟩⟩) =
      if wanted then reads.map (Chunk.mk side) else [] := by
  cases wanted with
  | false => simp [overheard, List.filter_map, Function.comp_def]
  | true =>
      have all : ∀ h ∈ reads.map fun octets => Heard.mk true ⟨side, octets⟩, h.wanted = true := by
        intro h member
        obtain ⟨octets, -, rfl⟩ := List.mem_map.mp member
        rfl
      rw [overheard, List.filter_eq_self.mpr all, List.map_map]
      rfl

theorem watch_unread {move : Move} (other : ∀ side, move ≠ .readable side) (s : Scene) :
    (s.move move).1.relay.sniffer = s.relay.sniffer ∧
      (s.move move).1.monitor.reports = s.monitor.reports := by
  have of_watch : ∀ {after : Scene}, after.watch = s.watch →
      after.relay.sniffer = s.relay.sniffer ∧ after.monitor.reports = s.monitor.reports :=
    fun same => ⟨congrArg Watch.sniffer same,
      congrArg (fun w : Watch => w.monitor.reports) same⟩
  cases move with
  | readable side => exact absurd rfl (other side)
  | start => exact of_watch s.watch_start
  | setSniffing on => exact ⟨rfl, Monitor.reports_setSniffing _ on⟩
  | far side move => exact ⟨rfl, rfl⟩
  | writable side =>
      by_cases may : (s.context side).allowed.write = true
      · have served := s.watch_onWrite side may
        exact ⟨congrArg Watch.sniffer served,
          congrArg (fun w : Watch => w.monitor.reports) served⟩
      · change (s.onWrite side).1.relay.sniffer = _ ∧ (s.onWrite side).1.monitor.reports = _
        rw [onWrite, if_neg may]
        exact ⟨rfl, rfl⟩

theorem watch_deaf (deaf : s.relay.sniffer = none) (move : Move) :
    (s.move move).1.relay.sniffer = none ∧
      (s.move move).1.monitor.reports = s.monitor.reports := by
  by_cases reads : ∃ side, move = .readable side
  · obtain ⟨side, rfl⟩ := reads
    have same : (s.onRead side).1.watch = s.watch := by
      rw [watch_onRead, hearing, Watch.hear_deaf deaf, ite_self]
    exact ⟨(congrArg Watch.sniffer same).trans deaf,
      congrArg (fun w : Watch => w.monitor.reports) same⟩
  · obtain ⟨sniffer, reports⟩ := watch_unread (not_exists.mp reads) s
    exact ⟨sniffer.trans deaf, reports⟩

theorem spoken_unread {turn : Turn} (other : ∀ side, turn.move ≠ .readable side) (s : Scene) :
    s.spoken turn = [] := by
  unfold spoken
  split
  · rename_i side reads
    exact absurd reads (other side)
  · rfl

theorem Follows.move (follows : s.Follows first origin heard) (turn : Turn) :
    (s.moveBy turn.attempts turn.move).1.Follows first origin
      (heard ++ overheard (s.spoken turn)) := by
  rw [moveBy_eq]
  refine ⟨?_, fun way => (s.move_address turn.move way).trans (follows.addresses way)⟩
  by_cases reads : ∃ side, turn.move = .readable side
  · obtain ⟨side, reads⟩ := reads
    rw [spoken, reads]
    dsimp only
    rw [overheard_reads]
    change (s.onRead side).1.watch.Follows _ _ _ _ _
    rw [watch_onRead, ← readsBy_flatten turn.attempts]
    split
    · have client : s.ends.client.address = first.ends.client.address := follows.addresses .client
      have server : s.ends.server.address = first.ends.server.address := follows.addresses .server
      rw [hearing, client, server]
      exact follows.watch.hears side (s.readsBy turn.attempts side)
    · rw [List.append_nil]
      exact follows.watch
  · obtain ⟨sniffer, reports⟩ := watch_unread (not_exists.mp reads) s
    rw [spoken_unread (not_exists.mp reads), overheard_nil, List.append_nil]
    exact follows.watch.of_same sniffer reports

theorem Follows.run (follows : s.Follows first origin heard) (turns : List Turn) :
    (s.runBy turns).Follows first origin (heard ++ overheard (s.transcript turns)) := by
  induction turns generalizing s heard with
  | nil => exact (List.append_nil heard).symm ▸ follows
  | cons turn rest ih =>
      rw [transcript, overheard_append, ← List.append_assoc]
      exact ih (follows.move turn)

end Scene

end SocksProxy.Relay
