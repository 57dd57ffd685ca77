import SocksProxy.Proofs.Wire.Grammar
import SocksProxy.Wire.Reply

/-!
Replies and requests have one layout. A reply with a command in place of its status is a request for
the same address, and a request with a status in place of its command is the reply that sends its
address back.
-/

namespace SocksProxy.Wire

/-- Bytes that a new decoder reads as this request, all of them, and not before the last one. -/
structure Request.ReadAs (m : Bytes) (r : Request) : Prop where
  whole : decoder.run .version m = (.done r, .done, [])
  output : decoder.output (decoder.run .version m).1 = some r
  last : ∀ {first second : Bytes}, m = first ++ second → second ≠ [] →
    (decoder.run .version first).2.1 = .needMore

theorem Request.readAs_encode (r : Request) : ReadAs r.encode r := by
  have run := run_encode r []
  rw [List.append_nil] at run
  refine ⟨run, ?_, fun parts proper => run_part parts proper⟩
  rw [run]
  rfl

theorem Request.encode_of_read {m : Bytes} {r : Request}
    (read : decoder.read .version m = (some (.done r), [])) : m = r.encode := by
  obtain ⟨taken, -, parts, sentence, -⟩ := run_taken m
  obtain ⟨news, rest⟩ := Prod.mk.inj read
  rw [rest, List.append_nil] at parts
  rw [parts]
  exact encode_of_sentence (sentence r (Decoder.news_done.mp news).2)

namespace Reply

theorem write_of_fits {r : Reply} {b : Buffer} (fits : r.wireLength ≤ b.room) :
    ∃ after, r.write b = .ok after ∧ after.held = b.held ++ r.encode := by
  have room : r.encode.length ≤ b.free.length := by
    rw [encode_length]
    exact fits
  have written : r.write b = .ok (b.put r.encode) := by
    rw [write, ← encode_length]
    exact writeExact_of_fits room
  refine ⟨b.put r.encode, written, ?_⟩
  rw [Buffer.put_held, List.take_of_length_le room]

theorem encode_with_command (r : Reply) (command : Command) :
    r.encode.set 1 command.code = Request.encode ⟨command, r.address, r.port⟩ := rfl

theorem encode_echo (request : Request) (status : Status) :
    (echo request status).encode = request.encode.set 1 status.code := rfl

/-- Writing replies and reading requests are inverse on their common layout, up to the second
byte. -/
theorem replies_mirror_requests :
    (∀ (r : Reply) (b : Buffer), r.wireLength ≤ b.room →
      ∃ after appended, r.write b = .ok after ∧ after.held = b.held ++ appended ∧
        appended.length = r.wireLength ∧
        ∀ code command, Command.Numbered code command →
          Request.ReadAs (appended.set 1 code) ⟨command, r.address, r.port⟩) ∧
    (∀ (m : Bytes) (request : Request),
      Request.decoder.read .version m = (some (.done request), []) →
      ∀ (status : Status) (b : Buffer), (echo request status).wireLength ≤ b.room →
        ∃ after, (echo request status).write b = .ok after ∧
          after.held = b.held ++ m.set 1 status.code) := by
  constructor
  · intro r b fits
    obtain ⟨after, written, held⟩ := write_of_fits fits
    refine ⟨after, r.encode, written, held, r.encode_length, ?_⟩
    intro code command numbered
    rw [Command.numbered_iff.mp numbered, encode_with_command]
    exact Request.readAs_encode ⟨command, r.address, r.port⟩
  · intro m request read status b fits
    obtain ⟨after, written, held⟩ := write_of_fits fits
    refine ⟨after, written, ?_⟩
    rw [held, encode_echo, Request.encode_of_read read]

theorem replies_mirror_requests_without_name :
    let r : Reply := ⟨.failure .hostUnreachable, .domain ⟨[], by decide⟩, 80⟩
    r.wireLength ≤ (Buffer.new 7).room ∧
      (∃ appended : Bytes, appended.length = 7 ∧
        Request.ReadAs (appended.set 1 1) ⟨.connect, r.address, r.port⟩) ∧
      Request.decoder.read .version [5, 1, 0, 3, 0, 0, 80] =
        (some (.done ⟨.connect, r.address, r.port⟩), []) ∧
      ∃ after, r.write (Buffer.new 7) = .ok after ∧ after.held = [5, 4, 0, 3, 0, 0, 80] := by
  intro r
  have fits : r.wireLength ≤ (Buffer.new 7).room := by decide
  have read : Request.decoder.read .version [5, 1, 0, 3, 0, 0, 80] =
      (some (.done ⟨.connect, r.address, r.port⟩), []) := rfl
  obtain ⟨after, appended, -, -, length, reads⟩ := replies_mirror_requests.1 r (Buffer.new 7) fits
  have echoed := replies_mirror_requests.2 [5, 1, 0, 3, 0, 0, 80] _ read
    (.failure .hostUnreachable) (Buffer.new 7) fits
  exact ⟨fits, ⟨appended, length, reads 1 .connect .connect⟩, read, echoed⟩

end Reply

end SocksProxy.Wire
