import SocksProxy.Proofs.Pop3.Lines
import SocksProxy.Relay.Reading

/-!
What watches a relay: its sniffer, if it has one, and the monitor that logins are reported to. A
relay shows the one what it has read and tells the other how much it has written; nothing else
that it does is noticed.
-/

namespace SocksProxy

open Net (SocketAddress)

def Entry.isSighting : Entry → Bool
  | .sighted _ _ _ => true
  | _ => false

/-- What has been made known of logins: how many there were, and each of them. -/
structure Reports where
  count : UInt64
  entries : List Entry
  deriving DecidableEq

def Reports.tell (client server : SocketAddress) (logins : List Pop3.Sighting) (r : Reports) :
    Reports :=
  ⟨r.count + UInt64.ofNat logins.length, r.entries ++ logins.map (Entry.sighted client server)⟩

namespace Reports

variable {client server : SocketAddress} (r : Reports)

theorem tell_nil : r.tell client server [] = r := by
  simp [tell]

theorem tell_append (first second : List Pop3.Sighting) :
    r.tell client server (first ++ second) =
      (r.tell client server first).tell client server second := by
  simp only [tell, List.length_append, UInt64.ofNat_add, List.map_append, List.append_assoc,
    UInt64.add_assoc]

end Reports

namespace Monitor

def reports (m : Monitor) : Reports :=
  ⟨m.stats.credentialsSniffed, m.journal.filter Entry.isSighting⟩

variable (m : Monitor)

theorem reports_note (entry : Entry) (other : entry.isSighting = false) :
    (m.note entry).reports = m.reports := by
  simp [reports, note, other]

theorem reports_sighted (client server : SocketAddress) (login : Pop3.Sighting) :
    (m.sighted client server login).reports = m.reports.tell client server [login] := by
  simp [reports, sighted, note, Reports.tell, Stats.sniffed, Entry.isSighting]

theorem reports_foldl (client server : SocketAddress) (logins : List Pop3.Sighting) :
    (logins.foldl (fun m login => m.sighted client server login) m).reports =
      m.reports.tell client server logins := by
  induction logins generalizing m with
  | nil => exact m.reports.tell_nil.symm
  | cons login rest ih =>
      rw [List.foldl_cons, ih, reports_sighted, ← Reports.tell_append, List.singleton_append]

theorem reports_setSniffing (on : Bool) : (m.setSniffing on).reports = m.reports :=
  m.reports_note (.sniffingSet on) rfl

end Monitor

namespace Relay

structure Watch where
  sniffer : Option Pop3.Sniffer
  monitor : Monitor

def Watch.hear (client server : SocketAddress) (chunk : Pop3.Chunk) (w : Watch) : Watch :=
  match w.sniffer with
  | none => w
  | some sniffer =>
      ⟨some (sniffer.heard chunk).2,
        (sniffer.heard chunk).1.foldl (fun m login => m.sighted client server login) w.monitor⟩

namespace Watch

variable {client server : SocketAddress} (w : Watch)

theorem hear_deaf {w : Watch} (deaf : w.sniffer = none) (chunk : Pop3.Chunk) :
    w.hear client server chunk = w := by
  rw [hear, deaf]

theorem hear_nil (side : Side) : w.hear client server ⟨side, []⟩ = w := by
  obtain ⟨_ | sniffer, monitor⟩ := w
  · rfl
  · simp only [hear, sniffer.heard_nil]
    rfl

/-- To hear octets in two chunks is to hear them in one. -/
theorem hear_append (side : Side) (first second : Bytes) :
    w.hear client server ⟨side, first ++ second⟩ =
      (w.hear client server ⟨side, first⟩).hear client server ⟨side, second⟩ := by
  obtain ⟨_ | sniffer, monitor⟩ := w
  · rfl
  · simp only [hear, sniffer.heard_append, List.foldl_append]

end Watch

namespace Scene

def watch (s : Scene) : Watch := ⟨s.relay.sniffer, s.monitor⟩

def withWatch (w : Watch) (s : Scene) : Scene :=
  { s with relay := { s.relay with sniffer := w.sniffer }, monitor := w.monitor }

/-- The watch, once it has heard a chunk that comes from one of the two ends. -/
def hearing (s : Scene) (chunk : Pop3.Chunk) : Watch :=
  s.watch.hear s.ends.client.address s.ends.server.address chunk

variable (s : Scene) (side : Side)

theorem foldl_report (logins : List Pop3.Sighting) :
    logins.foldl report s = { s with
      monitor := logins.foldl
        (fun m login => m.sighted s.ends.client.address s.ends.server.address login)
        s.monitor } := by
  induction logins generalizing s with
  | nil => rfl
  | cons login rest ih =>
      rw [List.foldl_cons, ih]
      rfl

theorem shown_eq (chunk : Bytes) : s.shown side chunk = s.withWatch (s.hearing ⟨side, chunk⟩) := by
  obtain ⟨⟨contexts, sniffer⟩, ends, buffers, monitor⟩ := s
  cases sniffer with
  | none => rfl
  | some sniffer =>
      cases side with
      | client => rfl
      | server => exact foldl_report _ _

theorem sniff_eq (chunk : Bytes) :
    s.sniff side chunk =
      if s.monitor.sniffing then s.withWatch (s.hearing ⟨side, chunk⟩) else s := by
  rw [← shown_eq]
  rfl

theorem watch_gave (sent : Sent) :
    (s.gave side sent).watch = ⟨s.relay.sniffer, s.monitor.countBytes sent.count⟩ := rfl

@[simp] theorem watch_registerBoth : (s.registerBoth side).1.watch = s.watch := by
  unfold registerBoth
  dsimp only
  split <;> rfl

@[simp] theorem watch_armed : s.armed.watch = s.watch := by
  unfold armed
  dsimp only
  cases s.buffers.client.canRead <;> cases s.buffers.server.canRead <;> rfl

theorem watch_start : s.start.1.watch = s.watch :=
  (s.armed.watch_registerBoth .client).trans s.watch_armed

@[simp] theorem watch_sourceEnded : (s.sourceEnded side).watch = s.watch := by
  unfold sourceEnded
  dsimp only
  split <;> rfl

@[simp] theorem watch_sourceOpen : (s.sourceOpen side).watch = s.watch := by
  unfold sourceOpen
  split <;> rfl

theorem watch_sinkDrained : (s.sinkDrained side).watch = s.watch := by
  unfold sinkDrained
  dsimp only
  split <;> rfl

@[simp] theorem watch_sinkServed (count : Nat) : (s.sinkServed side count).watch = s.watch := by
  unfold sinkServed
  by_cases some : 0 < count
  · simp only [some, ↓reduceIte]
    split
    · exact watch_sinkDrained _ side
    · rfl
  · simp only [some, ↓reduceIte]
    split
    · exact s.watch_sinkDrained side
    · rfl

theorem watch_took (received : Received) :
    (s.took side received).watch =
      if s.monitor.sniffing then s.hearing ⟨side, received.bytes⟩ else s.watch := by
  have seen : ∀ stored : Scene, (stored.sniff side received.bytes).watch =
      if stored.monitor.sniffing then stored.hearing ⟨side, received.bytes⟩ else stored.watch := by
    intro stored
    rw [sniff_eq]
    split <;> rfl
  have stored := seen ((s.withSocket side received.socket).withBuffer side
    ((s.buffers.get side).put received.bytes))
  unfold took
  dsimp only
  cases side <;> split <;> exact stored

def brought (s : Scene) : Bytes :=
  if (s.context side).allowed.read then
    ((s.ends.get side).socket.receive (s.buffers.get side).room).bytes
  else []

theorem hearing_nil : s.hearing ⟨side, []⟩ = s.watch := s.watch.hear_nil side

theorem watch_onRead :
    (s.onRead side).1.watch =
      if s.monitor.sniffing then s.hearing ⟨side, s.brought side⟩ else s.watch := by
  unfold onRead brought
  split
  · dsimp only
    split <;> simp only [watch_registerBoth, watch_sourceEnded, watch_sourceOpen, watch_took]
  · rw [hearing_nil, ite_self]

theorem watch_onWrite (may : (s.context side).allowed.write = true) :
    (s.onWrite side).1.watch = ⟨s.relay.sniffer, s.monitor.countBytes
      ((s.ends.get side).socket.transmit (s.buffers.get side.other).held).count⟩ := by
  unfold onWrite
  rw [if_pos may]
  dsimp only
  split <;> simp only [watch_registerBoth, watch_sinkServed, watch_gave]

end Scene

end Relay

end SocksProxy
