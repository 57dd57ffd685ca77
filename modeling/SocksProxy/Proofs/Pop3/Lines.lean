import SocksProxy.Pop3
import SocksProxy.Side

/-!
A conversation comes in chunks from either side, which end lines wherever they do. What a sniffer
does with the chunks is what it does with the lines, in the order in which they are ended; chunks of
one side that follow each other are one chunk. A stream divides in one way only into segments that
line feeds end and a tail that none ends. However it is cut into chunks, the lines are the segments
that are not too long, and what is kept between two chunks is the beginning of the tail.
-/

namespace SocksProxy.Pop3

/-- The segments that a line feed ends, the first one behind what came before. -/
def segments (before : Bytes) : Bytes → List Bytes
  | [] => []
  | octet :: rest =>
      if octet = lineFeed then before :: segments [] rest else segments (before ++ [octet]) rest

def remainder (before : Bytes) : Bytes → Bytes
  | [] => before
  | octet :: rest =>
      if octet = lineFeed then remainder [] rest else remainder (before ++ [octet]) rest

def trimmed (segment : Bytes) : Bytes :=
  if segment.getLast? = some carriageReturn then segment.dropLast else segment

def kept? (segment : Bytes) : Option Bytes :=
  if segment.length ≤ longestLine then some (trimmed segment) else none

namespace LineBuffer

/-- The state in the middle of a line, when so much of it has come. -/
def holding (begun : Bytes) : LineBuffer :=
  ⟨(begun.take longestLine).reverse, longestLine - begun.length, longestLine < begun.length⟩

theorem line_holding {begun : Bytes} (short : begun.length ≤ longestLine) :
    (holding begun).line = trimmed begun := by
  have whole : begun.take longestLine = begun := List.take_of_length_le short
  rw [line, holding, whole]
  rcases List.eq_nil_or_concat begun with rfl | ⟨front, last, rfl⟩
  · rfl
  · rw [List.concat_eq_append, List.reverse_append, trimmed, List.getLast?_concat,
      List.dropLast_concat]
    by_cases cut : last = carriageReturn <;> simp [cut]

theorem step_lineFeed (begun : Bytes) :
    (holding begun).step lineFeed = (kept? begun, holding []) := by
  unfold step kept?
  rw [if_pos rfl]
  by_cases short : begun.length ≤ longestLine
  · have fits : (holding begun).overlong = false := decide_eq_false (Nat.not_lt.mpr short)
    rw [fits, if_pos short, line_holding short]
    rfl
  · have tooLong : (holding begun).overlong = true := decide_eq_true (Nat.lt_of_not_le short)
    rw [tooLong, if_neg short]
    rfl

theorem step_other (begun : Bytes) {octet : UInt8} (other : octet ≠ lineFeed) :
    (holding begun).step octet = (none, holding (begun ++ [octet])) := by
  unfold step
  rw [if_neg other]
  by_cases room : begun.length < longestLine
  · obtain ⟨left, more⟩ : ∃ left, longestLine - begun.length = left + 1 :=
      ⟨longestLine - begun.length - 1, by omega⟩
    have latest : ((begun ++ [octet]).take longestLine).reverse =
        octet :: (begun.take longestLine).reverse := by
      have fits : (begun ++ [octet]).length ≤ longestLine := by
        rw [List.length_append]
        exact room
      rw [List.take_of_length_le (Nat.le_of_lt room), List.take_of_length_le fits,
        List.reverse_append]
      rfl
    have fits : decide (longestLine < begun.length) =
        decide (longestLine < (begun ++ [octet]).length) := by
      rw [decide_eq_decide, List.length_append, List.length_singleton]
      omega
    have rest : longestLine - (begun ++ [octet]).length = left := by
      rw [List.length_append, List.length_singleton]
      omega
    simp only [holding, more, latest, fits, rest]
  · have nothing : longestLine - begun.length = 0 := by omega
    have latest : (begun ++ [octet]).take longestLine = begun.take longestLine :=
      List.take_append_of_le_length (Nat.le_of_not_lt room)
    have tooLong : decide (longestLine < (begun ++ [octet]).length) = true := by
      rw [decide_eq_true_eq, List.length_append, List.length_singleton]
      omega
    have rest : longestLine - (begun ++ [octet]).length = 0 := by
      rw [List.length_append, List.length_singleton]
      omega
    simp only [holding, nothing, latest, tooLong, rest]

theorem foldl_holding (begun chunk : Bytes) (finished : List Bytes) :
    chunk.foldl advance (finished, holding begun) =
      (((segments begun chunk).filterMap kept?).reverse ++ finished,
        holding (remainder begun chunk)) := by
  induction chunk generalizing begun finished with
  | nil => rfl
  | cons octet rest ih =>
      by_cases ends : octet = lineFeed
      · subst ends
        simp only [List.foldl_cons, advance, step_lineFeed, segments, remainder, if_pos]
        cases keeps : kept? begun with
        | none => rw [ih, List.filterMap_cons_none keeps]
        | some text =>
            rw [ih, List.filterMap_cons_some keeps, List.reverse_cons, List.append_assoc]
            rfl
      · simp only [List.foldl_cons, advance, step_other begun ends, segments, remainder,
          if_neg ends]
        exact ih (begun ++ [octet]) finished

theorem feed_holding (begun chunk : Bytes) :
    (holding begun).feed chunk =
      ((segments begun chunk).filterMap kept?, holding (remainder begun chunk)) := by
  rw [feed, foldl_holding, List.append_nil, List.reverse_reverse]

end LineBuffer

structure Chunk where
  side : Side
  octets : Bytes
  deriving DecidableEq

structure Line where
  side : Side
  octets : Bytes
  deriving DecidableEq

def Line.text (line : Line) : Bytes := trimmed line.octets

def Line.isShort (line : Line) : Bool := line.octets.length ≤ longestLine

/-- The lines of a conversation in the order in which they are ended, when so much of one has come
from each side. -/
def lines (begun : Pair Bytes) : List Chunk → List Line
  | [] => []
  | chunk :: rest =>
      (segments (begun.get chunk.side) chunk.octets).map (Line.mk chunk.side) ++
        lines (begun.set chunk.side (remainder (begun.get chunk.side) chunk.octets)) rest

theorem texts_short (side : Side) (found : List Bytes) :
    ((found.map (Line.mk side)).filter Line.isShort).map Line.text = found.filterMap kept? := by
  induction found with
  | nil => rfl
  | cons segment rest ih =>
      by_cases short : segment.length ≤ longestLine <;>
        simp [Line.isShort, Line.text, kept?, short, ← ih]

theorem side_of_short {side : Side} {found : List Bytes} {line : Line}
    (member : line ∈ (found.map (Line.mk side)).filter Line.isShort) : line.side = side := by
  obtain ⟨octets, -, rfl⟩ := List.mem_map.mp (List.mem_filter.mp member).1
  rfl

namespace Sniffer

/-- The logins that a sniffer reports while a conversation comes in chunks. -/
def follow : List Chunk → Sniffer → List Sighting
  | [], _ => []
  | ⟨.client, octets⟩ :: rest, s => follow rest (s.clientBytes octets)
  | ⟨.server, octets⟩ :: rest, s =>
      (s.serverBytes octets).1 ++ follow rest (s.serverBytes octets).2

def attend : List Line → Sniffer → List Sighting
  | [], _ => []
  | line :: rest, s =>
      match line.side with
      | .client => attend rest (s.command line.text)
      | .server => (s.answer line.text).1.toList ++ attend rest (s.answer line.text).2

variable {s : Sniffer}

theorem hear_eq (reported : List Sighting) (s : Sniffer) (text : Bytes) :
    hear (reported, s) text = ((s.answer text).1.toList ++ reported, (s.answer text).2) := by
  unfold hear
  split <;> rename_i next answer <;> rw [answer] <;> rfl

theorem foldl_hear (texts : List Bytes) (reported : List Sighting) (s : Sniffer) :
    texts.foldl hear (reported, s) =
      ((texts.foldl hear ([], s)).1 ++ reported, (texts.foldl hear ([], s)).2) := by
  induction texts generalizing reported s with
  | nil => rfl
  | cons text rest ih =>
      rw [List.foldl_cons, List.foldl_cons, hear_eq, hear_eq, ih, ih (_ ++ []), List.append_nil,
        List.append_assoc]

theorem answers_cons (s : Sniffer) (text : Bytes) (rest : List Bytes) :
    s.answers (text :: rest) =
      ((s.answer text).1.toList ++ ((s.answer text).2.answers rest).1,
        ((s.answer text).2.answers rest).2) := by
  have one : (s.answer text).1.toList.reverse = (s.answer text).1.toList := by
    cases (s.answer text).1 <;> rfl
  rw [answers, List.foldl_cons, hear_eq, foldl_hear, List.append_nil, answers]
  simp only [List.reverse_append, one]

theorem command_withBuffers (s : Sniffer) (text : Bytes) (client server : LineBuffer) :
    command { s with client, server } text = { s.command text with client, server } := by
  unfold command
  split <;> rfl

theorem answer_withBuffers (s : Sniffer) (text : Bytes) (client server : LineBuffer) :
    answer { s with client, server } text =
      ((s.answer text).1, { (s.answer text).2 with client, server }) := by
  unfold answer
  dsimp only
  split
  · rfl
  · split
    · split <;> rfl
    · rfl

theorem attend_withBuffers (lines : List Line) (s : Sniffer) (client server : LineBuffer) :
    attend lines { s with client, server } = attend lines s := by
  induction lines generalizing s with
  | nil => rfl
  | cons line rest ih =>
      unfold attend
      cases line.side with
      | client => rw [command_withBuffers, ih]
      | server => rw [answer_withBuffers, ih]

theorem commands_withBuffers (texts : List Bytes) (s : Sniffer) (client server : LineBuffer) :
    commands { s with client, server } texts = { s.commands texts with client, server } := by
  induction texts generalizing s with
  | nil => rfl
  | cons text rest ih =>
      have one := s.command_withBuffers text client server
      rw [commands, List.foldl_cons, one]
      exact ih _

theorem answers_withBuffers (texts : List Bytes) (s : Sniffer) (client server : LineBuffer) :
    answers { s with client, server } texts =
      ((s.answers texts).1, { (s.answers texts).2 with client, server }) := by
  induction texts generalizing s with
  | nil => rfl
  | cons text rest ih => rw [answers_cons, answer_withBuffers, ih, answers_cons]

theorem clientBytes_eq {begun : Bytes} (client : s.client = .holding begun) (octets : Bytes) :
    s.clientBytes octets = { s.commands ((segments begun octets).filterMap kept?) with
      client := .holding (remainder begun octets), server := s.server } := by
  rw [clientBytes, client, LineBuffer.feed_holding]
  exact commands_withBuffers _ s _ s.server

theorem serverBytes_eq {begun : Bytes} (server : s.server = .holding begun) (octets : Bytes) :
    s.serverBytes octets = ((s.answers ((segments begun octets).filterMap kept?)).1,
      { (s.answers ((segments begun octets).filterMap kept?)).2 with
        client := s.client, server := .holding (remainder begun octets) }) := by
  rw [serverBytes, server, LineBuffer.feed_holding]
  exact answers_withBuffers _ s s.client _

theorem attend_client {said : List Line} (client : ∀ line ∈ said, line.side = .client)
    (rest : List Line) (s : Sniffer) :
    attend (said ++ rest) s = attend rest (s.commands (said.map Line.text)) := by
  induction said generalizing s with
  | nil => rfl
  | cons line more ih =>
      have later := ih fun next member => client next (List.mem_cons_of_mem line member)
      rw [List.cons_append, attend, client line List.mem_cons_self]
      exact later _

theorem attend_server {said : List Line} (server : ∀ line ∈ said, line.side = .server)
    (rest : List Line) (s : Sniffer) :
    attend (said ++ rest) s =
      (s.answers (said.map Line.text)).1 ++ attend rest (s.answers (said.map Line.text)).2 := by
  induction said generalizing s with
  | nil => rfl
  | cons line more ih =>
      have later := ih fun next member => server next (List.mem_cons_of_mem line member)
      rw [List.cons_append, attend, server line List.mem_cons_self, List.map_cons, answers_cons]
      dsimp only
      rw [later, List.append_assoc]

theorem answer_idle (idle : s.pending = []) (text : Bytes) : s.answer text = (none, s) := by
  unfold answer
  split
  · rfl
  · rw [idle]
    obtain ⟨client, server, pending, user, pass⟩ := s
    cases idle
    rfl

theorem attend_idle (idle : s.pending = []) {said : List Line}
    (server : ∀ line ∈ said, line.side = .server) (rest : List Line) :
    s.attend (said ++ rest) = s.attend rest := by
  induction said with
  | nil => rfl
  | cons line more ih =>
      rw [List.cons_append, attend, server line List.mem_cons_self, answer_idle idle]
      exact ih fun next member => server next (List.mem_cons_of_mem line member)

/-- However a conversation is cut into chunks, a sniffer follows its lines. -/
theorem follow_eq (chunks : List Chunk) (begun : Pair Bytes)
    (client : s.client = .holding begun.client) (server : s.server = .holding begun.server) :
    follow chunks s = attend ((lines begun chunks).filter Line.isShort) s := by
  induction chunks generalizing s begun with
  | nil => rfl
  | cons chunk rest ih =>
      obtain ⟨side, octets⟩ := chunk
      have texts := texts_short side (segments (begun.get side) octets)
      have sides : ∀ line ∈ ((segments (begun.get side) octets).map (Line.mk side)).filter
          Line.isShort, line.side = side := fun _ => side_of_short
      rw [lines, List.filter_append]
      cases side with
      | client =>
          rw [attend_client sides, texts, follow, clientBytes_eq client]
          refine Eq.trans (ih (begun.set .client (remainder begun.client octets)) ?_ ?_)
            (attend_withBuffers _ _ _ _)
          · rfl
          · exact server
      | server =>
          rw [attend_server sides, texts, follow, serverBytes_eq server]
          apply congrArg (List.append _)
          refine Eq.trans (ih (begun.set .server (remainder begun.server octets)) ?_ ?_)
            (attend_withBuffers _ _ _ _)
          · exact client
          · rfl

end Sniffer

namespace LineBuffer

theorem advance_eq (finished : List Bytes) (b : LineBuffer) (octet : UInt8) :
    advance (finished, b) octet = ((b.step octet).1.toList ++ finished, (b.step octet).2) := by
  unfold advance
  split <;> rename_i next ends <;> rw [ends] <;> rfl

theorem foldl_advance (chunk : Bytes) (finished : List Bytes) (b : LineBuffer) :
    chunk.foldl advance (finished, b) =
      ((chunk.foldl advance ([], b)).1 ++ finished, (chunk.foldl advance ([], b)).2) := by
  induction chunk generalizing finished b with
  | nil => rfl
  | cons octet rest ih =>
      rw [List.foldl_cons, List.foldl_cons, advance_eq, advance_eq, ih, ih (_ ++ []),
        List.append_nil, List.append_assoc]

theorem feed_append (first second : Bytes) (b : LineBuffer) :
    b.feed (first ++ second) =
      ((b.feed first).1 ++ ((b.feed first).2.feed second).1, ((b.feed first).2.feed second).2) := by
  unfold feed
  dsimp only
  rw [List.foldl_append, foldl_advance second, List.reverse_append]

end LineBuffer

namespace Sniffer

variable (s : Sniffer)

theorem clientBytes_withBuffers (client server : LineBuffer) (chunk : Bytes) :
    clientBytes { s with client, server } chunk = { s.commands (client.feed chunk).1 with
      client := (client.feed chunk).2, server } :=
  commands_withBuffers _ s _ server

theorem serverBytes_withBuffers (client server : LineBuffer) (chunk : Bytes) :
    serverBytes { s with client, server } chunk = ((s.answers (server.feed chunk).1).1,
      { (s.answers (server.feed chunk).1).2 with client, server := (server.feed chunk).2 }) :=
  answers_withBuffers _ s client _

theorem commands_append (first second : List Bytes) :
    s.commands (first ++ second) = (s.commands first).commands second := List.foldl_append

theorem answers_append (first second : List Bytes) :
    s.answers (first ++ second) =
      ((s.answers first).1 ++ ((s.answers first).2.answers second).1,
        ((s.answers first).2.answers second).2) := by
  induction first generalizing s with
  | nil => rfl
  | cons text rest ih =>
      rw [List.cons_append, answers_cons, ih, answers_cons]
      simp only [List.append_assoc]

theorem clientBytes_append (first second : Bytes) :
    s.clientBytes (first ++ second) = (s.clientBytes first).clientBytes second := by
  rw [s.clientBytes_withBuffers s.client s.server first,
    s.clientBytes_withBuffers s.client s.server (first ++ second), clientBytes_withBuffers,
    LineBuffer.feed_append, commands_append]

theorem serverBytes_append (first second : Bytes) :
    s.serverBytes (first ++ second) =
      ((s.serverBytes first).1 ++ ((s.serverBytes first).2.serverBytes second).1,
        ((s.serverBytes first).2.serverBytes second).2) := by
  rw [s.serverBytes_withBuffers s.client s.server first,
    s.serverBytes_withBuffers s.client s.server (first ++ second), serverBytes_withBuffers,
    LineBuffer.feed_append, answers_append]

def heard : Chunk → List Sighting × Sniffer
  | ⟨.client, octets⟩ => ([], s.clientBytes octets)
  | ⟨.server, octets⟩ => s.serverBytes octets

def after (chunks : List Chunk) : Sniffer := chunks.foldl (fun s chunk => (s.heard chunk).2) s

theorem heard_append (side : Side) (first second : Bytes) :
    s.heard ⟨side, first ++ second⟩ =
      ((s.heard ⟨side, first⟩).1 ++ ((s.heard ⟨side, first⟩).2.heard ⟨side, second⟩).1,
        ((s.heard ⟨side, first⟩).2.heard ⟨side, second⟩).2) := by
  cases side with
  | client => exact congrArg (Prod.mk []) (s.clientBytes_append first second)
  | server => exact s.serverBytes_append first second

theorem heard_nil (side : Side) : s.heard ⟨side, []⟩ = ([], s) := by
  cases side <;> rfl

theorem follow_cons (chunk : Chunk) (rest : List Chunk) :
    follow (chunk :: rest) s = (s.heard chunk).1 ++ follow rest (s.heard chunk).2 := by
  obtain ⟨_ | _, octets⟩ := chunk <;> rfl

theorem follow_append (first second : List Chunk) :
    follow (first ++ second) s = follow first s ++ follow second (s.after first) := by
  induction first generalizing s with
  | nil => rfl
  | cons chunk rest ih =>
      rw [List.cons_append, follow_cons, ih, follow_cons, List.append_assoc]
      rfl

theorem follow_singleton (chunk : Chunk) : follow [chunk] s = (s.heard chunk).1 := by
  rw [follow_cons]
  exact List.append_nil _

end Sniffer

/-- A stream is these segments, each with a line feed behind it, and a tail. -/
structure Divides (found : List Bytes) (tail stream : Bytes) : Prop where
  whole : found.flatMap (· ++ [lineFeed]) ++ tail = stream
  ended : ∀ segment ∈ found, lineFeed ∉ segment
  unended : lineFeed ∉ tail

variable {tail stream : Bytes} {found : List Bytes}

theorem segments_append (before : Bytes) (unended : lineFeed ∉ tail) (rest : Bytes) :
    segments before (tail ++ rest) = segments (before ++ tail) rest ∧
      remainder before (tail ++ rest) = remainder (before ++ tail) rest := by
  induction tail generalizing before with
  | nil => rw [List.append_nil, List.nil_append]; exact ⟨rfl, rfl⟩
  | cons octet more ih =>
      have other : octet ≠ lineFeed := fun same => unended (same ▸ List.mem_cons_self)
      have later : lineFeed ∉ more := fun member => unended (List.mem_cons_of_mem octet member)
      rw [List.cons_append, segments, remainder, if_neg other, if_neg other]
      have behind := ih (before ++ [octet]) later
      rw [List.append_assoc] at behind
      exact behind

theorem Divides.segments_eq (divided : Divides found tail stream) :
    segments [] stream = found ∧ remainder [] stream = tail := by
  obtain ⟨rfl, ended, unended⟩ := divided
  induction found with
  | nil =>
      have all := segments_append [] unended []
      rw [List.append_nil] at all
      exact all
  | cons segment rest ih =>
      have first := segments_append [] (ended segment List.mem_cons_self)
        (lineFeed :: (rest.flatMap (· ++ [lineFeed]) ++ tail))
      obtain ⟨later, left⟩ := ih fun next member => ended next (List.mem_cons_of_mem segment member)
      rw [segments, remainder, if_pos rfl, if_pos rfl, later, left] at first
      rw [List.flatMap_cons, List.append_assoc, List.append_assoc]
      exact first

theorem divides {before : Bytes} (unended : lineFeed ∉ before) (stream : Bytes) :
    Divides (segments before stream) (remainder before stream) (before ++ stream) := by
  induction stream generalizing before with
  | nil => exact ⟨(List.append_nil before).symm, nofun, unended⟩
  | cons octet rest ih =>
      rw [segments, remainder]
      by_cases ends : octet = lineFeed
      · have later := ih (List.not_mem_nil : lineFeed ∉ [])
        rw [if_pos ends, if_pos ends]
        refine ⟨?_, List.forall_mem_cons.mpr ⟨unended, later.ended⟩, later.unended⟩
        rw [List.flatMap_cons, List.append_assoc, later.whole, ends, List.append_assoc]
        rfl
      · have still : lineFeed ∉ before ++ [octet] := by
          rw [List.mem_append, List.mem_singleton]
          exact fun either => either.elim unended (fun same => ends same.symm)
        have later := ih still
        rw [List.append_assoc] at later
        rw [if_neg ends, if_neg ends]
        exact later

namespace LineBuffer

/-- The lines that chunks end one after the other. -/
def feedAll : List Bytes → LineBuffer → List Bytes × LineBuffer
  | [], b => ([], b)
  | chunk :: rest, b =>
      let fed := b.feed chunk
      let later := feedAll rest fed.2
      (fed.1 ++ later.1, later.2)

/-- Where a stream is cut makes no difference. -/
theorem feedAll_eq (chunks : List Bytes) (b : LineBuffer) :
    b.feedAll chunks = b.feed chunks.flatten := by
  induction chunks generalizing b with
  | nil => rfl
  | cons chunk rest ih => rw [feedAll, ih, List.flatten_cons, feed_append]

theorem filterMap_kept? (found : List Bytes) :
    found.filterMap kept? = (found.filter fun segment => segment.length ≤ 512).map trimmed := by
  induction found with
  | nil => rfl
  | cons segment rest ih =>
      by_cases short : segment.length ≤ 512 <;> simp [kept?, longestLine, short, ih]

theorem holding_length (tail : Bytes) :
    (holding tail).latest.length ≤ 512 ∧
      (holding tail).room = 512 - (holding tail).latest.length := by
  have kept : (holding tail).latest.length = min 512 tail.length := by
    rw [holding, List.length_reverse, List.length_take, longestLine]
  rw [kept]
  refine ⟨Nat.min_le_left _ _, ?_⟩
  change 512 - tail.length = _
  omega

/-- However a stream is cut into chunks, a new line buffer brings, in order, the segments of its one
division that have no more than 512 octets, without one carriage return at their end. It keeps the
first 512 octets of the tail, and whether the tail has more. -/
theorem lines_of_stream (chunks : List Bytes) :
    ∃ found tail, Divides found tail chunks.flatten ∧
      (∀ others rest, Divides others rest chunks.flatten → others = found ∧ rest = tail) ∧
      let fed := empty.feedAll chunks
      fed.1 = (found.filter fun segment => segment.length ≤ 512).map trimmed ∧
        fed.2.latest.reverse = tail.take 512 ∧ fed.2.latest.length ≤ 512 ∧
        fed.2.room = 512 - fed.2.latest.length ∧ fed.2.overlong = decide (512 < tail.length) := by
  have divided := divides (List.not_mem_nil : lineFeed ∉ []) chunks.flatten
  have fed : empty.feedAll chunks =
      (((segments [] chunks.flatten).filter fun segment => segment.length ≤ 512).map trimmed,
        holding (remainder [] chunks.flatten)) := by
    rw [feedAll_eq, ← filterMap_kept?]
    exact feed_holding [] chunks.flatten
  refine ⟨_, _, divided, fun others rest other => ?_, ?_⟩
  · obtain ⟨same, left⟩ := other.segments_eq
    exact ⟨same.symm, left.symm⟩
  · rw [fed]
    obtain ⟨short, room⟩ := holding_length (remainder [] chunks.flatten)
    exact ⟨rfl, List.reverse_reverse _, short, room, rfl⟩

end LineBuffer

end SocksProxy.Pop3
