import SocksProxy.Proofs.Wire.Request
import SocksProxy.Wire.Scratch

/-!
The request decoder in fixed memory does what the request decoder does. Its arrays hold what has
come and zeros behind, its counters say how much that is, and no write goes outside of its array.
-/

namespace SocksProxy

namespace Octets

/-- The octets that have come, with zeros behind them. -/
def laid (n : Nat) (read : Bytes) : Octets n :=
  ⟨(read ++ List.replicate n 0).take n, by simp⟩

variable {n : Nat} {read : Bytes}

theorem laid_val (fits : read.length ≤ n) :
    (laid n read).val = read ++ List.replicate (n - read.length) 0 := by
  change (read ++ List.replicate n 0).take n = _
  rw [List.take_append, List.take_of_length_le fits, List.take_replicate,
    Nat.min_eq_left (Nat.sub_le _ _)]

theorem laid_nothing : laid n [] = zeros n := by
  apply Subtype.ext
  rw [laid_val (Nat.zero_le _)]
  rfl

theorem laid_all (octets : Octets n) : laid n octets.val = octets := by
  apply Subtype.ext
  rw [laid_val (Nat.le_of_eq octets.property), octets.property, Nat.sub_self]
  exact List.append_nil _

/-- Behind what has come there is a zero, unless all cells are filled. -/
theorem laid_behind (room : read.length < n) :
    (laid n read).val = read ++ 0 :: List.replicate (n - read.length - 1) 0 := by
  rw [laid_val (Nat.le_of_lt room), ← List.replicate_succ]
  congr 2
  omega

theorem write_laid (room : read.length < n) (b : UInt8) :
    (laid n read).write? read.length b = some (laid n (read ++ [b])) := by
  rw [write?, if_pos room, Option.some.injEq]
  apply Subtype.ext
  have fits : (read ++ [b]).length ≤ n := by
    rw [List.length_append]
    exact room
  change (laid n read).val.set read.length b = _
  rw [laid_behind room, laid_val fits, List.set_append_right _ _ (Nat.le_refl _), Nat.sub_self,
    List.set_cons_zero, List.append_assoc, List.length_append]
  rfl

theorem write_end (room : read.length < n) :
    (laid n read).write? read.length 0 = some (laid n read) := by
  rw [write?, if_pos room, Option.some.injEq]
  apply Subtype.ext
  change (laid n read).val.set read.length 0 = _
  rw [laid_behind room, List.set_append_right _ _ (Nat.le_refl _), Nat.sub_self, List.set_cons_zero]

end Octets

namespace Wire

def Address.laid : Address → RawAddress
  | .ip (.v4 octets) => .v4 octets
  | .ip (.v6 octets) => .v6 octets
  | .domain name => .domain (.laid 256 name.val) (UInt8.ofNat name.val.length)

theorem Address.laid_bytes (a : Address) : a.laid.bytes = a.bytes := by
  rcases a with (octets | octets) | name
  · rfl
  · rfl
  · change (Octets.laid 256 name.val).val.take _ = name.val
    rw [length_of_name, Octets.laid_val (Nat.le_succ_of_le name.property), List.take_left]

theorem Address.laid_ended {a : Address} {name : Octets 256} {length : UInt8}
    (lies : a.laid = .domain name length) : name.val[length.toNat]? = some 0 := by
  rcases a with (octets | octets) | name
  · cases lies
  · cases lies
  · cases lies
    have room : name.val.length < 256 := Nat.lt_succ_of_le name.property
    rw [length_of_name, Octets.laid_behind room, List.getElem?_append_right (Nat.le_refl _),
      Nat.sub_self]
    rfl

def Request.laid (r : Request) : RawRequest := ⟨r.command, r.address.laid, ⟨Port.bytes r.port, rfl⟩⟩

namespace Scratch

open Request (State readOctets4 readOctets16 readName length_le_of_octet)

def gathered (command : Command) (address : Address) : Scratch :=
  match address with
  | .ip (.v4 octets) => { fresh with command, kind := .v4, octets := .laid 16 octets.val }
  | .ip (.v6 octets) => { fresh with command, kind := .v6, octets := .laid 16 octets.val }
  | .domain name =>
      { fresh with
        command
        kind := .domain
        name := .laid 256 name.val
        nameLength := name.val.length }

/-- What lies in memory at each place of the request decoder. -/
def image : State → Scratch
  | .version => fresh
  | .command => { fresh with place := .command }
  | .reserved command => { fresh with place := .reserved, command }
  | .addressKind command => { fresh with place := .addressKind, command }
  | .octets4 command read =>
      { fresh with place := .ip read.length, command, kind := .v4, octets := .laid 16 read }
  | .octets16 command read =>
      { fresh with place := .ip read.length, command, kind := .v6, octets := .laid 16 read }
  | .nameLength command => { fresh with place := .nameLength, command, kind := .domain }
  | .name command length read =>
      { fresh with
        place := .name read.length
        command
        kind := .domain
        name := .laid 256 read
        nameLength := length.toNat }
  | .portHigh command address => { gathered command address with place := .port 0 }
  | .portLow command address high =>
      { gathered command address with place := .port 1, port := .laid 2 [high] }
  | .done r =>
      { gathered r.command r.address with place := .done, port := .laid 2 (Port.bytes r.port) }
  | .failed fault => { fresh with place := .failed fault }

def Within : State → Prop
  | .octets4 _ read => read.length < 4
  | .octets16 _ read => read.length < 16
  | .name _ length read => read.length < length.toNat
  | _ => True

/-- Memory that lies as the place says. What a failure has left behind does not matter. -/
inductive Alike : State → Option Scratch → Prop
  | lies {s : State} (within : Within s) : Alike s (some (image s))
  | failed {m : Scratch} {fault : Invalid} (there : m.place = .failed fault) :
      Alike (.failed fault) (some m)

theorem Alike.isSome {s : State} {memory : Option Scratch} (alike : Alike s memory) :
    memory.isSome := by
  cases alike <;> rfl

theorem Alike.within {s : State} {memory : Option Scratch} (alike : Alike s memory) : Within s := by
  cases alike with
  | lies within => exact within
  | failed there => trivial

theorem Alike.of_image {s : State} {m : Scratch} (within : Within s) (lies : image s = m) :
    Alike s (some m) := by
  rw [← lies]
  exact .lies within

variable {command : Command} {read : Bytes}

theorem feed_ip {m : Scratch} {length : Nat} (there : m.place = .ip read.length)
    (lies : m.octets = .laid 16 read) (awaited : m.ipLength = length) (room : read.length < 16)
    (b : UInt8) :
    m.feed b = some { m with
      octets := .laid 16 (read ++ [b])
      place := if (read ++ [b]).length = length then .port 0 else .ip (read ++ [b]).length } := by
  have written : m.octets.write? read.length b = some (.laid 16 (read ++ [b])) := by
    rw [lies]
    exact Octets.write_laid room b
  unfold feed
  rw [there]
  dsimp only
  rw [written, awaited, List.length_append]
  rfl

theorem feed_port {m : Scratch} {filled : Nat} {b : UInt8} {port : Octets 2}
    (there : m.place = .port filled) (written : m.port.write? filled b = some port) :
    m.feed b = some { m with port, place := if filled = 1 then .done else .port 1 } := by
  unfold feed
  rw [there]
  dsimp only
  rw [written]
  rfl

theorem alike_octets4 (within : read.length < 4) (b : UInt8) :
    Alike (readOctets4 command (read ++ [b])) ((image (.octets4 command read)).feed b) := by
  have room : read.length < 16 := by omega
  have awaited : (image (.octets4 command read)).ipLength = 4 := rfl
  rw [feed_ip rfl rfl awaited room, readOctets4]
  split
  · exact .lies trivial
  · refine .lies ?_
    have length : (read ++ [b]).length = read.length + 1 := List.length_append
    change (read ++ [b]).length < 4
    omega

theorem alike_octets16 (within : read.length < 16) (b : UInt8) :
    Alike (readOctets16 command (read ++ [b])) ((image (.octets16 command read)).feed b) := by
  have awaited : (image (.octets16 command read)).ipLength = 16 := rfl
  rw [feed_ip rfl rfl awaited within, readOctets16]
  split
  · exact .lies trivial
  · refine .lies ?_
    have length : (read ++ [b]).length = read.length + 1 := List.length_append
    change (read ++ [b]).length < 16
    omega

theorem alike_name {length : UInt8} (within : read.length < length.toNat) (b : UInt8) :
    Alike (readName command length (read ++ [b])) ((image (.name command length read)).feed b) := by
  have limit := length.toNat_lt
  have grown : (read ++ [b]).length = read.length + 1 := List.length_append
  have room : read.length < 256 := by omega
  change Alike _ (feedName read.length b (image (.name command length read)))
  have written : (image (.name command length read)).name.write? read.length b =
      some (.laid 256 (read ++ [b])) := Octets.write_laid room b
  unfold feedName
  rw [written, readName, ← grown]
  dsimp only [Option.bind_eq_bind, Option.bind_some]
  split
  · rename_i full
    have behind : (Octets.laid 256 (read ++ [b])).write? length.toNat 0 =
        some (.laid 256 (read ++ [b])) := by
      rw [← full]
      exact Octets.write_end (by omega)
    have lies : image (.portHigh command (.domain ⟨read ++ [b], length_le_of_octet full⟩)) =
        { image (.name command length read) with
          name := .laid 256 (read ++ [b])
          place := .port 0 } := by
      simp only [image, gathered, full]
    have there : (read ++ [b]).length = (image (.name command length read)).nameLength := full
    rw [if_pos there]
    change Alike _ ((Octets.write? _ length.toNat 0).bind _)
    rw [behind]
    exact .of_image trivial lies
  · rename_i short
    have there : (read ++ [b]).length ≠ (image (.name command length read)).nameLength := short
    rw [if_neg there]
    refine .lies ?_
    change (read ++ [b]).length < length.toNat
    omega

theorem alike_nameLength (length : UInt8) :
    Alike (readName command length []) ((image (.nameLength command)).feed length) := by
  change Alike _ (some { image (.nameLength command) with
    nameLength := length.toNat
    place := if length = 0 then .port 0 else .name 0 })
  rw [readName]
  split
  · rename_i none
    have zero : length = 0 := UInt8.toNat_inj.mp none.symm
    have lies : image (.portHigh command (.domain ⟨[], length_le_of_octet none⟩)) =
        { image (.nameLength command) with nameLength := length.toNat, place := .port 0 } := by
      simp only [image, gathered, zero, Octets.laid_nothing]
      rfl
    rw [if_pos zero]
    exact .of_image trivial lies
  · rename_i some
    have positive : length ≠ 0 := fun zero => some (zero ▸ rfl)
    have lies : image (.name command length []) =
        { image (.nameLength command) with nameLength := length.toNat, place := .name 0 } := by
      simp only [image, Octets.laid_nothing]
      rfl
    rw [if_neg positive]
    refine .of_image ?_ lies
    change 0 < length.toNat
    exact Nat.pos_of_ne_zero fun zero => some zero.symm

theorem alike_version (b : UInt8) : Alike (Request.feed .version b) ((image .version).feed b) := by
  change Alike _ (some { image .version with
    place := if b = Wire.version then .command else .failed ⟨.version, b⟩ })
  rw [Request.feed]
  split
  · exact .lies trivial
  · exact .failed rfl

theorem alike_reserved (b : UInt8) :
    Alike (Request.feed (.reserved command) b) ((image (.reserved command)).feed b) := by
  change Alike _ (some { image (.reserved command) with
    place := if b = Wire.reserved then .addressKind else .failed ⟨.reserved, b⟩ })
  rw [Request.feed]
  split
  · exact .lies trivial
  · exact .failed rfl

theorem alike_command (b : UInt8) : Alike (Request.feed .command b) ((image .command).feed b) := by
  rw [Request.feed, feed]
  cases Command.ofCode? b with
  | ok command => exact .lies trivial
  | error unknown => exact .failed rfl

theorem alike_addressKind (b : UInt8) :
    Alike (Request.feed (.addressKind command) b) ((image (.addressKind command)).feed b) := by
  rw [Request.feed, feed]
  cases AddressKind.ofCode? b with
  | error unknown => exact .failed rfl
  | ok kind =>
      cases kind with
      | v4 =>
          have lies : image (.octets4 command []) =
              { image (.addressKind command) with place := .ip 0, kind := .v4 } := by
            simp only [image, Octets.laid_nothing]
            rfl
          exact .of_image (Nat.zero_lt_succ 3) lies
      | v6 =>
          have lies : image (.octets16 command []) =
              { image (.addressKind command) with place := .ip 0, kind := .v6 } := by
            simp only [image, Octets.laid_nothing]
            rfl
          exact .of_image (Nat.zero_lt_succ 15) lies
      | domain => exact .lies trivial

theorem gathered_port (command : Command) (address : Address) :
    (gathered command address).port = .laid 2 [] := by
  rw [Octets.laid_nothing]
  rcases address with (octets | octets) | name <;> rfl

theorem alike_portHigh {address : Address} (high : UInt8) :
    Alike (.portLow command address high) ((image (.portHigh command address)).feed high) := by
  have written : (image (.portHigh command address)).port.write? 0 high = some (.laid 2 [high]) := by
    change (gathered command address).port.write? 0 high = _
    rw [gathered_port]
    exact Octets.write_laid (Nat.zero_lt_succ 1) high
  rw [feed_port rfl written]
  exact .lies trivial

theorem alike_portLow {address : Address} {high : UInt8} (low : UInt8) :
    Alike (.done ⟨command, address, Port.ofBytes high low⟩)
      ((image (.portLow command address high)).feed low) := by
  have written : (image (.portLow command address high)).port.write? 1 low =
      some (.laid 2 (Port.bytes (Port.ofBytes high low))) := by
    rw [Port.bytes_ofBytes]
    exact Octets.write_laid (Nat.lt_succ_self 1) low
  rw [feed_port rfl written]
  exact .lies trivial

theorem message_image (r : Request) : (image (.done r)).message = r.laid := by
  have port : Octets.laid 2 (Port.bytes r.port) = ⟨Port.bytes r.port, rfl⟩ :=
    Octets.laid_all (⟨Port.bytes r.port, rfl⟩ : Octets 2)
  obtain ⟨command, (octets | octets) | name, number⟩ := r
  · have whole : (Octets.laid 16 octets.val).val.take 4 = octets.val := by
      have fits : octets.val.length ≤ 16 := by rw [octets.property]; decide
      rw [Octets.laid_val fits, List.take_left' octets.property]
    simp only [message, address, image, gathered, Request.laid, Address.laid, whole, port]
  · simp only [message, address, image, gathered, Request.laid, Address.laid, port, Octets.laid_all]
  · simp only [message, address, image, gathered, Request.laid, Address.laid, port]

theorem progress_image (s : State) : (image s).progress = Request.progress s := by
  cases s <;> rfl

theorem output_image (s : State) : (image s).output = (Request.output s).map Request.laid := by
  cases s with
  | done r => exact congrArg some (message_image r)
  | _ => rfl

theorem fault_image (s : State) : (image s).fault = Request.fault s := by
  cases s <;> rfl

theorem shadows : Request.decoder.Shadows decoder Request.laid Alike where
  feed := by
    intro s memory b pending before
    cases before with
    | failed there => cases pending
    | lies within =>
        change Alike (Request.feed s b) ((image s).feed b)
        cases s with
        | version => exact alike_version b
        | command => exact alike_command b
        | reserved command => exact alike_reserved b
        | addressKind command => exact alike_addressKind b
        | octets4 command read => exact alike_octets4 within b
        | octets16 command read => exact alike_octets16 within b
        | nameLength command => exact alike_nameLength b
        | name command length read => exact alike_name within b
        | portHigh command address => exact alike_portHigh b
        | portLow command address high => exact alike_portLow b
        | done r => cases pending
        | failed fault => cases pending
  news := by
    intro s memory same
    cases same with
    | lies within => exact progress_image s
    | failed there => simp [decoder, Request.decoder, progress, Request.progress, there]
  output := by
    intro s memory same
    cases same with
    | lies within => exact output_image s
    | failed there => simp [decoder, Request.decoder, output, Request.output, there]
  fault := by
    intro s memory same
    cases same with
    | lies within => exact fault_image s
    | failed there => simp [decoder, Request.decoder, fault, Request.fault, there]

end Scratch

end Wire

end SocksProxy
