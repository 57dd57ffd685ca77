import SocksProxy.Proofs.Wire.Request

/-!
The grammar of requests, written down apart from the decoder. A request of the grammar is read to
its last byte, a mistake is found with the first wrong byte, and what a decoder has taken when it
has news is the one or the other.
-/

namespace SocksProxy.Wire

inductive Command.Numbered : UInt8 → Command → Prop
  | connect : Numbered 1 .connect
  | bind : Numbered 2 .bind
  | udpAssociate : Numbered 3 .udpAssociate

theorem Command.numbered_iff {code : UInt8} {command : Command} :
    Numbered code command ↔ code = command.code := by
  constructor
  · intro numbered
    cases numbered <;> rfl
  · rintro rfl
    cases command
    · exact .connect
    · exact .bind
    · exact .udpAssociate

namespace Request

/-- Bytes that are a whole request. -/
inductive Sentence : Bytes → Request → Prop
  | v4 {code high low : UInt8} {command : Command} (numbered : Command.Numbered code command)
      (octets : Octets 4) :
      Sentence (5 :: code :: 0 :: 1 :: (octets.val ++ [high, low]))
        ⟨command, .ip (.v4 octets), Port.ofBytes high low⟩
  | v6 {code high low : UInt8} {command : Command} (numbered : Command.Numbered code command)
      (octets : Octets 16) :
      Sentence (5 :: code :: 0 :: 4 :: (octets.val ++ [high, low]))
        ⟨command, .ip (.v6 octets), Port.ofBytes high low⟩
  | domain {code length high low : UInt8} {command : Command}
      (numbered : Command.Numbered code command) {name : Bytes}
      (whole : name.length = length.toNat) :
      Sentence (5 :: code :: 0 :: 3 :: length :: (name ++ [high, low]))
        ⟨command, .domain ⟨name, length_le_of_octet whole⟩, Port.ofBytes high low⟩

/-- Bytes that might begin a request but for the last one, and what is wrong with that one. -/
inductive Mistake : Bytes → Invalid → Prop
  | version {b : UInt8} (other : b ≠ 5) : Mistake [b] ⟨.version, b⟩
  | command {b : UInt8} (unknown : ∀ command, ¬ Command.Numbered b command) :
      Mistake [5, b] ⟨.command, b⟩
  | reserved {code b : UInt8} {command : Command} (numbered : Command.Numbered code command)
      (other : b ≠ 0) : Mistake [5, code, b] ⟨.reserved, b⟩
  | addressKind {code b : UInt8} {command : Command} (numbered : Command.Numbered code command)
      (unknown : b ≠ 1 ∧ b ≠ 3 ∧ b ≠ 4) : Mistake [5, code, 0, b] ⟨.addressKind, b⟩

theorem encode_of_sentence {m : Bytes} {r : Request} (sentence : Sentence m r) : m = r.encode := by
  cases sentence with
  | v4 numbered octets =>
      rw [encode_opening, Port.bytes_ofBytes, Command.numbered_iff.mp numbered]
      rfl
  | v6 numbered octets =>
      rw [encode_opening, Port.bytes_ofBytes, Command.numbered_iff.mp numbered]
      rfl
  | @domain code length high low command numbered name whole =>
      have announced : UInt8.ofNat name.length = length := by rw [whole, UInt8.ofNat_toNat]
      rw [encode_opening, Port.bytes_ofBytes, Command.numbered_iff.mp numbered, Address.encode,
        announced]
      rfl

theorem sentence_encode (r : Request) : Sentence r.encode r := by
  obtain ⟨command, (octets | octets) | name, port⟩ := r
  all_goals have numbered : Command.Numbered command.code command := Command.numbered_iff.mpr rfl
  · have sentence := @Sentence.v4 _ (UInt8.ofNat (port.toNat / 256)) (UInt8.ofNat (port.toNat % 256))
      _ numbered octets
    rw [Port.ofBytes_bytes] at sentence
    exact sentence
  · have sentence := @Sentence.v6 _ (UInt8.ofNat (port.toNat / 256)) (UInt8.ofNat (port.toNat % 256))
      _ numbered octets
    rw [Port.ofBytes_bytes] at sentence
    exact sentence
  · have sentence := @Sentence.domain _ _ (UInt8.ofNat (port.toNat / 256))
      (UInt8.ofNat (port.toNat % 256)) _ numbered name.val (length_of_name name).symm
    rw [Port.ofBytes_bytes] at sentence
    exact sentence

/-- The bytes of the grammar are those that the encoder writes. -/
theorem sentence_iff {m : Bytes} {r : Request} : Sentence m r ↔ m = r.encode := by
  constructor
  · exact encode_of_sentence
  · rintro rfl
    exact sentence_encode r

def start (command : Command) : AddressKind → State
  | .v4 => readOctets4 command []
  | .v6 => readOctets16 command []
  | .domain => .nameLength command

theorem run_opening (command : Command) (kind : AddressKind) (rest : Bytes) :
    decoder.run .version (opening command kind ++ rest) = decoder.run (start command kind) rest := by
  cases command <;> cases kind <;> rfl

theorem pending_readOctets4 (command : Command) (got : Bytes) :
    progress (readOctets4 command got) = .needMore := by
  unfold readOctets4
  split <;> rfl

theorem pending_readOctets16 (command : Command) (got : Bytes) :
    progress (readOctets16 command got) = .needMore := by
  unfold readOctets16
  split <;> rfl

theorem pending_readName (command : Command) (length : UInt8) (got : Bytes) :
    progress (readName command length got) = .needMore := by
  unfold readName
  split <;> rfl

theorem run_octets4 (command : Command) (octets : Octets 4) (rest : Bytes) :
    decoder.run (start command .v4) (octets.val ++ rest) =
      decoder.run (.portHigh command (.ip (.v4 octets))) rest := by
  have grows : ∀ {got : Bytes} (b : UInt8), got.length < 4 →
      feed (readOctets4 command got) b = readOctets4 command (got ++ [b]) := by
    intro got b room
    rw [readOctets4, dif_neg (Nat.ne_of_lt room)]
    rfl
  have full : readOctets4 command octets.val = .portHigh command (.ip (.v4 octets)) :=
    dif_pos octets.property
  have fits : octets.val.length ≤ 4 := Nat.le_of_eq octets.property
  rw [start, Decoder.run_gathered grows (pending_readOctets4 command) fits, full]

theorem run_octets16 (command : Command) (octets : Octets 16) (rest : Bytes) :
    decoder.run (start command .v6) (octets.val ++ rest) =
      decoder.run (.portHigh command (.ip (.v6 octets))) rest := by
  have grows : ∀ {got : Bytes} (b : UInt8), got.length < 16 →
      feed (readOctets16 command got) b = readOctets16 command (got ++ [b]) := by
    intro got b room
    rw [readOctets16, dif_neg (Nat.ne_of_lt room)]
    rfl
  have full : readOctets16 command octets.val = .portHigh command (.ip (.v6 octets)) :=
    dif_pos octets.property
  have fits : octets.val.length ≤ 16 := Nat.le_of_eq octets.property
  rw [start, Decoder.run_gathered grows (pending_readOctets16 command) fits, full]

theorem run_name (command : Command) (name : DomainName) (rest : Bytes) :
    decoder.run (start command .domain) (UInt8.ofNat name.val.length :: (name.val ++ rest)) =
      decoder.run (.portHigh command (.domain name)) rest := by
  have length := length_of_name name
  generalize UInt8.ofNat name.val.length = announced at length ⊢
  have grows : ∀ {got : Bytes} (b : UInt8), got.length < name.val.length →
      feed (readName command announced got) b = readName command announced (got ++ [b]) := by
    intro got b room
    rw [readName, dif_neg (by omega)]
    rfl
  have full : readName command announced name.val = .portHigh command (.domain name) :=
    dif_pos length.symm
  have first : decoder.feed (start command .domain) announced = readName command announced [] := rfl
  have onward : decoder.progress (decoder.feed (start command .domain) announced) = .needMore := by
    rw [first]
    exact pending_readName command announced []
  rw [Decoder.run_of_more onward, first,
    Decoder.run_gathered grows (pending_readName command announced) (Nat.le_refl _), full]

theorem run_address (command : Command) (address : Address) (rest : Bytes) :
    decoder.run (start command address.kind) (address.encode ++ rest) =
      decoder.run (.portHigh command address) rest := by
  rcases address with (octets | octets) | name
  · exact run_octets4 command octets rest
  · exact run_octets16 command octets rest
  · exact run_name command name rest

theorem run_encode (r : Request) (rest : Bytes) :
    decoder.run .version (r.encode ++ rest) = (.done r, .done, rest) := by
  have port := Port.ofBytes_bytes r.port
  calc decoder.run .version (r.encode ++ rest)
      = decoder.run .version
          (opening r.command r.address.kind ++
            (r.address.encode ++ (Port.bytes r.port ++ rest))) := by
        rw [encode_opening, List.append_assoc, List.append_assoc]
    _ = decoder.run (.portHigh r.command r.address) (Port.bytes r.port ++ rest) := by
        rw [run_opening, run_address]
    _ = (.done ⟨r.command, r.address, Port.ofBytes _ _⟩, .done, rest) := rfl
    _ = (.done r, .done, rest) := by rw [port]

theorem run_part {r : Request} {first second : Bytes} (parts : r.encode = first ++ second)
    (proper : second ≠ []) : (decoder.run .version first).2.1 = .needMore := by
  have whole : (decoder.run .version (first ++ second)).2.2 = [] := by
    have read := run_encode r []
    rw [List.append_nil, parts] at read
    rw [read]
  exact Decoder.more_of_proper whole proper

theorem feed_command_unknown {b : UInt8} (unknown : ∀ command, ¬ Command.Numbered b command) :
    feed .command b = .failed ⟨.command, b⟩ := by
  rw [feed]
  cases known : Command.ofCode? b with
  | error fault => rfl
  | ok command =>
      have numbered := Command.numbered_iff.mpr (Command.code_of_ofCode? known).symm
      exact absurd numbered (unknown command)

theorem feed_addressKind_unknown {command : Command} {b : UInt8}
    (unknown : b ≠ 1 ∧ b ≠ 3 ∧ b ≠ 4) :
    feed (.addressKind command) b = .failed ⟨.addressKind, b⟩ := by
  rw [feed, AddressKind.ofCode?, if_neg unknown.1, if_neg unknown.2.1, if_neg unknown.2.2]

theorem run_failing {s : State} {b : UInt8} {fault : Invalid} (wrong : feed s b = .failed fault)
    (rest : Bytes) : decoder.run s (b :: rest) = (.failed fault, .failed, rest) := by
  have fed : decoder.feed s b = .failed fault := wrong
  have news : decoder.progress (decoder.feed s b) ≠ .needMore := by
    rw [fed]
    exact nofun
  rw [Decoder.run_of_news news, fed]
  rfl

theorem run_mistake {m : Bytes} {fault : Invalid} (mistake : Mistake m fault) (rest : Bytes) :
    decoder.run .version (m ++ rest) = (.failed fault, .failed, rest) := by
  cases mistake with
  | @version b other =>
      have wrong : feed .version b = .failed ⟨.version, b⟩ := if_neg other
      exact run_failing wrong rest
  | @command b unknown =>
      change decoder.run .command (b :: rest) = _
      exact run_failing (feed_command_unknown unknown) rest
  | @reserved code b command numbered other =>
      have before : decoder.run .version (5 :: code :: b :: rest) =
          decoder.run (.reserved command) (b :: rest) := by
        cases numbered <;> rfl
      have wrong : feed (.reserved command) b = .failed ⟨.reserved, b⟩ := if_neg other
      exact before.trans (run_failing wrong rest)
  | @addressKind code b command numbered unknown =>
      have before : decoder.run .version (5 :: code :: 0 :: b :: rest) =
          decoder.run (.addressKind command) (b :: rest) := by
        cases numbered <;> rfl
      exact before.trans (run_failing (feed_addressKind_unknown unknown) rest)

/-- A failed decoder has read a mistake. -/
def Blames : State → Bytes → Prop
  | .failed fault, read => Mistake read fault
  | _, _ => True

theorem blames_of_pending {s : State} (pending : progress s = .needMore) (read : Bytes) :
    Blames s read := by
  cases s with
  | failed fault => cases pending
  | _ => trivial

theorem blames_command (b : UInt8) : Blames (feed .command b) [5, b] := by
  rw [feed]
  cases known : Command.ofCode? b with
  | ok command => trivial
  | error fault =>
      refine .command ?_
      intro command numbered
      cases numbered <;> cases known

theorem blames_addressKind (command : Command) (b : UInt8) :
    Blames (feed (.addressKind command) b) [5, command.code, 0, b] := by
  rw [feed]
  cases known : AddressKind.ofCode? b with
  | ok kind => cases kind <;> trivial
  | error fault =>
      refine .addressKind (Command.numbered_iff.mpr rfl) ⟨?_, ?_, ?_⟩
      all_goals
        rintro rfl
        cases known

/-- The bytes that lead a decoder to its place, to a failure as well. -/
def Explains (s : State) (read : Bytes) : Prop := Reads s read ∧ Blames s read

theorem tracks_mistakes : decoder.Tracks Explains := by
  intro s read b pending before
  obtain ⟨reads, -⟩ := before
  refine ⟨tracks b pending reads, ?_⟩
  change Blames (feed s b) (read ++ [b])
  cases s with
  | version =>
      change read = [] at reads
      rw [reads, feed]
      split
      · trivial
      · rename_i other
        exact .version other
  | command =>
      change read = [Wire.version] at reads
      rw [reads]
      exact blames_command b
  | reserved command =>
      change read = [Wire.version, command.code] at reads
      rw [reads, feed]
      split
      · trivial
      · rename_i other
        exact .reserved (Command.numbered_iff.mpr rfl) other
  | addressKind command =>
      change read = [Wire.version, command.code, Wire.reserved] at reads
      rw [reads]
      exact blames_addressKind command b
  | octets4 command got => exact blames_of_pending (pending_readOctets4 command _) _
  | octets16 command got => exact blames_of_pending (pending_readOctets16 command _) _
  | nameLength command => exact blames_of_pending (pending_readName command b []) _
  | name command length got => exact blames_of_pending (pending_readName command length _) _
  | portHigh command address => trivial
  | portLow command address high => trivial
  | done request => cases pending
  | failed fault => cases pending

theorem failed_of_fault {s : State} {fault : Invalid} (wrong : decoder.fault s = some fault) :
    s = .failed fault := by
  cases s <;> cases wrong
  rfl

/-- What a run has taken says what it reports, if it reports anything. -/
theorem run_taken (s : Bytes) :
    ∃ taken, taken <+: s ∧ s = taken ++ (decoder.run .version s).2.2 ∧
      (∀ r, decoder.output (decoder.run .version s).1 = some r → Sentence taken r) ∧
      ∀ fault, decoder.fault (decoder.run .version s).1 = some fault → Mistake taken fault := by
  have fresh : Explains .version [] := ⟨rfl, trivial⟩
  obtain ⟨taken, split, ⟨reads, blames⟩, -⟩ :=
    Decoder.run_tracks tracks_mistakes s rfl fresh
  rw [List.nil_append] at reads blames
  refine ⟨taken, ⟨_, split.symm⟩, split, ?_, ?_⟩
  · intro r given
    rw [done_of_output given] at reads
    exact sentence_iff.mpr reads
  · intro fault wrong
    rw [failed_of_fault wrong] at blames
    exact blames

end Request

end SocksProxy.Wire
