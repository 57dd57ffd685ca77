import SocksProxy.Proofs.Wire.Decoder
import SocksProxy.Wire.Request

/-!
Requests as bytes. A decoder that is done has read exactly one request, the one that it gives.
-/

namespace SocksProxy.Wire

theorem Command.code_of_ofCode? {code : UInt8} {command : Command}
    (known : Command.ofCode? code = .ok command) : command.code = code := by
  unfold Command.ofCode? at known
  by_cases one : code = 1
  · rw [if_pos one] at known
    cases known
    exact one.symm
  · rw [if_neg one] at known
    by_cases two : code = 2
    · rw [if_pos two] at known
      cases known
      exact two.symm
    · rw [if_neg two] at known
      by_cases three : code = 3
      · rw [if_pos three] at known
        cases known
        exact three.symm
      · rw [if_neg three] at known
        cases known

theorem AddressKind.code_of_ofCode? {code : UInt8} {kind : AddressKind}
    (known : AddressKind.ofCode? code = .ok kind) : kind.code = code := by
  unfold AddressKind.ofCode? at known
  by_cases one : code = 1
  · rw [if_pos one] at known
    cases known
    exact one.symm
  · rw [if_neg one] at known
    by_cases three : code = 3
    · rw [if_pos three] at known
      cases known
      exact three.symm
    · rw [if_neg three] at known
      by_cases four : code = 4
      · rw [if_pos four] at known
        cases known
        exact four.symm
      · rw [if_neg four] at known
        cases known

theorem length_of_name (name : DomainName) :
    (UInt8.ofNat name.val.length).toNat = name.val.length := by
  have limit := name.property
  rw [UInt8.toNat_ofNat']
  omega

namespace Request

def opening (command : Command) (kind : AddressKind) : Bytes :=
  [Wire.version, command.code, Wire.reserved, kind.code]

theorem encode_opening (r : Request) :
    r.encode = opening r.command r.address.kind ++ r.address.encode ++ Port.bytes r.port := rfl

def Reads : State → Bytes → Prop
  | .version, read => read = []
  | .command, read => read = [Wire.version]
  | .reserved command, read => read = [Wire.version, command.code]
  | .addressKind command, read => read = [Wire.version, command.code, Wire.reserved]
  | .octets4 command got, read => read = opening command .v4 ++ got
  | .octets16 command got, read => read = opening command .v6 ++ got
  | .nameLength command, read => read = opening command .domain
  | .name command length got, read => read = opening command .domain ++ length :: got
  | .portHigh command address, read => read = opening command address.kind ++ address.encode
  | .portLow command address high, read =>
      read = opening command address.kind ++ address.encode ++ [high]
  | .done request, read => read = request.encode
  | .failed _, _ => True

theorem reads_readOctets4 (command : Command) (got : Bytes) :
    Reads (readOctets4 command got) (opening command .v4 ++ got) := by
  unfold readOctets4
  split <;> rfl

theorem reads_readOctets16 (command : Command) (got : Bytes) :
    Reads (readOctets16 command got) (opening command .v6 ++ got) := by
  unfold readOctets16
  split <;> rfl

theorem reads_readName (command : Command) (length : UInt8) (got : Bytes) :
    Reads (readName command length got) (opening command .domain ++ length :: got) := by
  unfold readName
  split
  · rename_i full
    have same : UInt8.ofNat got.length = length := by rw [full, UInt8.ofNat_toNat]
    change _ = opening command .domain ++ UInt8.ofNat got.length :: got
    rw [same]
  · rfl

theorem reads_command (b : UInt8) : Reads (feed .command b) [Wire.version, b] := by
  rw [feed]
  cases known : Command.ofCode? b with
  | ok command =>
      change [Wire.version, b] = [Wire.version, command.code]
      rw [Command.code_of_ofCode? known]
  | error fault => trivial

theorem reads_addressKind (command : Command) (b : UInt8) :
    Reads (feed (.addressKind command) b) [Wire.version, command.code, Wire.reserved, b] := by
  rw [feed]
  cases known : AddressKind.ofCode? b with
  | error fault => trivial
  | ok kind =>
      have code : [Wire.version, command.code, Wire.reserved, b] = opening command kind := by
        rw [opening, AddressKind.code_of_ofCode? known]
      rw [code]
      cases kind with
      | v4 => exact (List.append_nil _).symm
      | v6 => exact (List.append_nil _).symm
      | domain => rfl

theorem tracks : decoder.Tracks Reads := by
  intro s read b pending before
  change Reads (feed s b) (read ++ [b])
  cases s with
  | version =>
      change read = [] at before
      rw [before, feed]
      split
      · rename_i right
        rw [right]
        rfl
      · trivial
  | command =>
      change read = [Wire.version] at before
      rw [before]
      exact reads_command b
  | reserved command =>
      change read = [Wire.version, command.code] at before
      rw [before, feed]
      split
      · rename_i right
        rw [right]
        rfl
      · trivial
  | addressKind command =>
      change read = [Wire.version, command.code, Wire.reserved] at before
      rw [before]
      exact reads_addressKind command b
  | octets4 command got =>
      change read = opening command .v4 ++ got at before
      rw [before, List.append_assoc]
      exact reads_readOctets4 command (got ++ [b])
  | octets16 command got =>
      change read = opening command .v6 ++ got at before
      rw [before, List.append_assoc]
      exact reads_readOctets16 command (got ++ [b])
  | nameLength command =>
      change read = opening command .domain at before
      rw [before]
      exact reads_readName command b []
  | name command length got =>
      change read = opening command .domain ++ length :: got at before
      rw [before, List.append_assoc]
      exact reads_readName command length (got ++ [b])
  | portHigh command address =>
      change read = opening command address.kind ++ address.encode at before
      rw [before]
      rfl
  | portLow command address high =>
      change read = opening command address.kind ++ address.encode ++ [high] at before
      change read ++ [b] = encode _
      rw [before, encode_opening, Port.bytes_ofBytes, List.append_assoc]
      rfl
  | done request => cases pending
  | failed fault => cases pending

theorem done_of_output {s : State} {request : Request} (given : output s = some request) :
    s = .done request := by
  cases s <;> cases given
  rfl

theorem conclusive : decoder.Conclusive where
  output s complete := by cases s <;> cases complete; exact ⟨_, rfl⟩
  fault s failed := by cases s <;> cases failed; exact ⟨_, rfl⟩

end Request

end SocksProxy.Wire
