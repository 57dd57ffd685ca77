/-!
Octet strings, and what they are written as. The two octets of a port number stand high one first;
writing a port and reading it back is the identity, in both directions. Read as UTF-8 octets never
fail: what is well formed becomes its characters, and each maximal prefix of a character that breaks
off becomes one replacement character. The reader works octet by octet and keeps only the character
it is in the middle of, so it can be cut anywhere.
-/

namespace SocksProxy

abbrev Bytes := List UInt8

/-- Octet strings of one length, as fixed size addresses are. -/
abbrev Octets (n : Nat) := { bytes : Bytes // bytes.length = n }

namespace Port

/-- High octet first. -/
def bytes (port : UInt16) : Bytes :=
  [UInt8.ofNat (port.toNat / 256), UInt8.ofNat (port.toNat % 256)]

def ofBytes (high low : UInt8) : UInt16 :=
  UInt16.ofNat (high.toNat * 256 + low.toNat)

theorem ofBytes_bytes (port : UInt16) :
    ofBytes (UInt8.ofNat (port.toNat / 256)) (UInt8.ofNat (port.toNat % 256)) = port := by
  have limit := port.toNat_lt
  apply UInt16.toNat_inj.mp
  simp only [ofBytes, UInt8.toNat_ofNat', UInt16.toNat_ofNat']
  omega

theorem bytes_ofBytes (high low : UInt8) : bytes (ofBytes high low) = [high, low] := by
  have highLimit := high.toNat_lt
  have lowLimit := low.toNat_lt
  have value : (high.toNat * 256 + low.toNat) % 2 ^ 16 = high.toNat * 256 + low.toNat := by omega
  simp only [bytes, ofBytes, UInt16.toNat_ofNat', value, List.cons.injEq, and_true]
  constructor
  · apply UInt8.toNat_inj.mp
    simp only [UInt8.toNat_ofNat']
    omega
  · apply UInt8.toNat_inj.mp
    simp only [UInt8.toNat_ofNat']
    omega

end Port

end SocksProxy

namespace SocksProxy.Text

/-- Lower case digits, as few as the number needs. -/
def hexLower (n : Nat) : String :=
  String.ofList (Nat.toDigits 16 n)

/-- Upper case digits, as few as the number needs. -/
def hexUpper (n : Nat) : String :=
  String.ofList ((Nat.toDigits 16 n).map Char.toUpper)

/-- Two lower case digits: an octet always takes the same room. -/
def hexOctet (b : UInt8) : String :=
  if b.toNat < 16 then "0" ++ hexLower b.toNat else hexLower b.toNat

end SocksProxy.Text

namespace SocksProxy.Text.Lossy

/-- Stands for octets that are no character. -/
def replacement : Char := '\uFFFD'

/-- A character that has begun: its value so far, the octets still missing (at least one), and the
range in which the next one must lie. -/
structure Open where
  value : Nat
  missing : Nat
  low : Nat
  high : Nat
  deriving DecidableEq, Repr

/-- What an octet above the single octet range begins. The narrower ranges after `E0`, `ED`, `F0`
and `F4` shut out overlong forms, surrogates and values beyond the last character. -/
def lead (b : Nat) : Option Open :=
  if 0xC2 ≤ b ∧ b ≤ 0xDF then some ⟨b - 0xC0, 1, 0x80, 0xBF⟩
  else if b = 0xE0 then some ⟨0, 2, 0xA0, 0xBF⟩
  else if b = 0xED then some ⟨0xD, 2, 0x80, 0x9F⟩
  else if 0xE1 ≤ b ∧ b ≤ 0xEF then some ⟨b - 0xE0, 2, 0x80, 0xBF⟩
  else if b = 0xF0 then some ⟨0, 3, 0x90, 0xBF⟩
  else if 0xF1 ≤ b ∧ b ≤ 0xF3 then some ⟨b - 0xF0, 3, 0x80, 0xBF⟩
  else if b = 0xF4 then some ⟨4, 3, 0x80, 0x8F⟩
  else none

/-- An octet outside any character: it is one, begins one, or is replaced. -/
def start (b : UInt8) : List Char × Option Open :=
  if b.toNat < 0x80 then ([Char.ofNat b.toNat], none)
  else match lead b.toNat with
    | some begun => ([], some begun)
    | none => ([replacement], none)

/-- One octet: the characters it completes, and the character it leaves open. An octet that does not
continue the open character ends it as a replacement and is then read afresh. -/
def step : Option Open → UInt8 → List Char × Option Open
  | none, b => start b
  | some begun, b =>
      if begun.low ≤ b.toNat ∧ b.toNat ≤ begun.high then
        let value := begun.value * 64 + (b.toNat - 0x80)
        if begun.missing ≤ 1 then ([Char.ofNat value], none)
        else ([], some ⟨value, begun.missing - 1, 0x80, 0xBF⟩)
      else
        let afresh := start b
        (replacement :: afresh.1, afresh.2)

def decodeFrom : Option Open → Bytes → List Char
  | none, [] => []
  | some _, [] => [replacement]
  | state, b :: rest => (step state b).1 ++ decodeFrom (step state b).2 rest

end SocksProxy.Text.Lossy

namespace SocksProxy.Text

/-- The text of any octets. -/
def lossy (bytes : Bytes) : String :=
  String.ofList (Lossy.decodeFrom none bytes)

end SocksProxy.Text
