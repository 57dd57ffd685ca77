import SocksProxy.Proofs.Wire.Grammar
import SocksProxy.Proofs.Wire.Scratch

/-!
Requests in pieces. Whatever the pieces are, the decoder recognises exactly the requests of the
grammar, stops at the first byte that no request has in its place, and waits for more in all other
cases. In fixed memory the same happens, and no write goes outside of its array.
-/

namespace SocksProxy.Wire.Request

/-- What a run with these bytes has to come to, by the grammar. -/
structure Recognised (s : Bytes) (course : Decoder.Course State) : Prop where
  whole : ∀ {m rest : Bytes} {r : Request}, s = m ++ rest → Sentence m r →
    course.state = .done r ∧ course.progress = .done ∧ decoder.output course.state = some r ∧
      course.untouched = rest
  wrong : ∀ {m rest : Bytes} {fault : Invalid}, s = m ++ rest → Mistake m fault →
    course.progress = .failed ∧ decoder.fault course.state = some fault ∧
      decoder.reason course.state = fault.text ∧ course.untouched = rest
  short : (∀ m r, Sentence m r → ¬ m <+: s) → (∀ m fault, Mistake m fault → ¬ m <+: s) →
    progress course.state = .needMore ∧ course.progress = .needMore ∧
      course.buffer.held = [] ∧ course.left = []

/-- Fixed memory that was enough: it is still there, there is a cell for the next octet, the run
went as the other one did, and a request in it has the same command, address and port, a name with
a zero behind it. -/
structure Confined (course : Decoder.Course State)
    (kept : Decoder.Course (Option Scratch)) : Prop where
  intact : kept.state.isSome
  within : Scratch.Within course.state
  progress : kept.progress = course.progress
  output : Scratch.decoder.output kept.state = (decoder.output course.state).map laid
  fault : Scratch.decoder.fault kept.state = decoder.fault course.state
  buffer : kept.buffer = course.buffer
  left : kept.left = course.left
  message : ∀ {raw : RawRequest}, Scratch.decoder.output kept.state = some raw →
    ∃ r, decoder.output course.state = some r ∧ raw.command = r.command ∧
      raw.address.bytes = r.address.bytes ∧ raw.port.val = Port.bytes r.port
  ended : ∀ {raw : RawRequest} {name : Octets 256} {length : UInt8},
    Scratch.decoder.output kept.state = some raw → raw.address = .domain name length →
      name.val[length.toNat]? = some 0

variable {s : Bytes} {course : Decoder.Course State}

theorem recognised_of_run
    (together : decoder.run .version s = (course.state, course.progress, course.untouched))
    (drained : course.progress = .needMore → course.buffer.held = [] ∧ course.left = []) :
    Recognised s course where
  whole := by
    intro m rest r parts sentence
    rw [parts, encode_of_sentence sentence, run_encode, Prod.mk.injEq, Prod.mk.injEq] at together
    obtain ⟨state, news, untouched⟩ := together
    rw [← state]
    exact ⟨rfl, news.symm, rfl, untouched.symm⟩
  wrong := by
    intro m rest fault parts mistake
    rw [parts, run_mistake mistake, Prod.mk.injEq, Prod.mk.injEq] at together
    obtain ⟨state, news, untouched⟩ := together
    rw [← state]
    exact ⟨news.symm, rfl, rfl, untouched.symm⟩
  short := by
    intro unspoken unmistaken
    obtain ⟨taken, front, -, sentence, mistake⟩ := run_taken s
    obtain ⟨news, given⟩ := conclusive.news_of_run .version s
    rw [together] at sentence mistake given
    have more : course.progress = .needMore := by
      cases news with
      | needMore => exact Decoder.news_needMore.mp given
      | done r =>
          have output := (Decoder.news_done.mp given).2
          exact absurd front (unspoken taken r (sentence r output))
      | failed fault =>
          have wrong := (Decoder.news_failed.mp given).2
          exact absurd front (unmistaken taken fault (mistake fault wrong))
    have report := decoder.run_progress .version s rfl
    rw [together] at report
    exact ⟨report.symm.trans more, more, drained more⟩

theorem confined_runPieces (pieces : List Bytes) (b : Buffer) :
    Confined (decoder.runPieces .version b pieces)
      (Scratch.decoder.runPieces (some .fresh) b pieces) := by
  have before : Scratch.Alike .version (some .fresh) := .lies trivial
  obtain ⟨after, progress, buffer, left⟩ := Scratch.shadows.runPieces b pieces rfl before
  have output := Scratch.shadows.output after
  refine ⟨after.isSome, after.within, progress, output, Scratch.shadows.fault after, buffer, left,
    ?_, ?_⟩
  · intro raw given
    obtain ⟨r, other, rfl⟩ := Option.map_eq_some_iff.mp (output.symm.trans given)
    exact ⟨r, other, rfl, r.address.laid_bytes, rfl⟩
  · intro raw name length given lies
    obtain ⟨r, -, rfl⟩ := Option.map_eq_some_iff.mp (output.symm.trans given)
    exact Address.laid_ended lies

/-- However a string is cut into pieces that fit an empty buffer, a decoder that is run on one piece
after the other recognises the request in front of it, or the first wrong byte, and takes nothing
behind; without either it has taken all of it and waits. Memory of fixed size is enough for that. -/
theorem recognised_in_pieces (pieces : List Bytes) {b : Buffer} (nothing : b.held = [])
    (fit : ∀ piece ∈ pieces, piece.length ≤ b.capacity) :
    Recognised pieces.flatten (decoder.runPieces .version b pieces) ∧
      Confined (decoder.runPieces .version b pieces)
        (Scratch.decoder.runPieces (some .fresh) b pieces) := by
  have together := decoder.runPieces_flatten .version pieces nothing fit
  have drained := decoder.runPieces_drained .version pieces nothing
  exact ⟨recognised_of_run together drained, confined_runPieces pieces b⟩

theorem recognised_name_in_three_pieces :
    let pieces : List Bytes := [[5, 1, 0], [3, 2, 97], [98, 0, 80, 170]]
    let course := decoder.runPieces .version (Buffer.new 4) pieces
    (Buffer.new 4).held = [] ∧ (∀ piece ∈ pieces, piece.length ≤ (Buffer.new 4).capacity) ∧
      course.progress = .done ∧
      decoder.output course.state = some ⟨.connect, .domain ⟨[97, 98], by decide⟩, 80⟩ ∧
      course.untouched = [170] ∧
      (Scratch.decoder.runPieces (some .fresh) (Buffer.new 4) pieces).state.isSome := by
  intro pieces course
  have nothing : (Buffer.new 4).held = [] := rfl
  have fit : ∀ piece ∈ pieces, piece.length ≤ (Buffer.new 4).capacity := by decide
  obtain ⟨recognised, confined⟩ := recognised_in_pieces pieces nothing fit
  have parts : pieces.flatten = [5, 1, 0, 3, 2, 97, 98, 0, 80] ++ [170] := rfl
  have sentence : Sentence [5, 1, 0, 3, 2, 97, 98, 0, 80]
      ⟨.connect, .domain ⟨[97, 98], by decide⟩, 80⟩ := sentence_iff.mpr rfl
  obtain ⟨-, done, output, untouched⟩ := recognised.whole parts sentence
  exact ⟨nothing, fit, done, output, untouched, confined.intact⟩

end SocksProxy.Wire.Request
