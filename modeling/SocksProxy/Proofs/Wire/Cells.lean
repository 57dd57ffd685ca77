import SocksProxy.Wire.Cells

/-!
What a message announces is what its pieces add up to, so that a message that fits is written
whole and one that does not is not begun. The messages written in place and those put into a
buffer at once are the same, for every address and wherever the cursors stand.
-/

namespace SocksProxy

structure Buffer.Appended (message : Bytes) (before after : Buffer) : Prop where
  held : after.held = before.held ++ message
  memory : after.memory = before.passed ++ before.held ++ message ++ before.free.drop message.length
  capacity : after.capacity = before.capacity
  readCursor : after.readCursor = before.readCursor

theorem Buffer.appended_put {message : Bytes} {b : Buffer} (fits : message.length ≤ b.room) :
    b.Appended message (b.put message) := by
  have whole : message.take b.free.length = message := List.take_of_length_le fits
  refine ⟨?_, ?_, b.put_capacity message, rfl⟩
  · rw [put_held, whole]
  · rw [memory, put_held, whole, ← List.append_assoc]
    rfl

theorem Port.bytes_ofOctets (port : Octets 2) : bytes (ofOctets port) = port.val := by
  obtain ⟨_ | ⟨high, _ | ⟨low, _ | ⟨more, rest⟩⟩⟩, two⟩ := port
  · cases two
  · cases two
  · exact bytes_ofBytes high low
  · cases two

namespace Wire

theorem Cells.writeAll_of_fits {pieces : List Bytes} {c : Cells}
    (fits : pieces.flatten.length ≤ c.left.length) :
    writeAll pieces c =
      (true, ⟨c.filled ++ pieces.flatten, c.left.drop pieces.flatten.length⟩) := by
  induction pieces generalizing c with
  | nil => simp [writeAll]
  | cons piece rest ih =>
      rw [List.flatten_cons, List.length_append] at fits
      have first : piece.length ≤ c.left.length := Nat.le_of_add_right_le fits
      have others : rest.flatten.length ≤ (c.write piece).left.length := by
        rw [write, List.length_drop]
        exact Nat.le_sub_of_add_le' fits
      rw [writeAll, if_pos first, ih others, write, List.take_of_length_le first]
      simp only [List.flatten_cons, List.append_assoc, List.drop_drop, List.length_append]

namespace Draft

/-- The pieces are as long as announced. -/
def Honest (d : Draft) : Prop := d.announced = d.pieces.flatten.length

variable {d : Draft} {b : Buffer}

theorem Honest.writeTo_of_fits (honest : d.Honest) (fits : d.announced ≤ b.room) :
    d.writeTo b = (.written, b.put d.pieces.flatten) := by
  have inside : d.announced ≤ b.free.length := fits
  have region : (b.free.take d.announced).length = d.pieces.flatten.length := by
    rw [List.length_take, Nat.min_eq_left inside, honest]
  have filled : Cells.writeAll d.pieces ⟨[], b.free.take d.announced⟩ =
      (true, ⟨d.pieces.flatten, []⟩) := by
    rw [Cells.writeAll_of_fits (Nat.le_of_eq region.symm), ← region, List.drop_length]
    rfl
  have moved : (b.store d.pieces.flatten).advanceWrite d.announced =
      .ok (b.put d.pieces.flatten) := by
    rw [honest]
    exact Buffer.advanceWrite_store (honest ▸ fits)
  rw [writeTo, if_neg (Nat.not_lt_of_le fits), filled]
  simp only [List.append_nil, moved]
  rfl

theorem writeTo_of_short (short : b.room < d.announced) :
    d.writeTo b = (.exhausted d.announced b.room, b) := if_pos short

end Draft

theorem writeExact_of_short {message : Bytes} {required : Nat} {b : Buffer}
    (short : b.room < required) :
    writeExact required message b = .error (.exhausted required b.room) := if_pos short

namespace RawAddress

theorem length_take_name (name : Octets 256) (length : UInt8) :
    (name.val.take length.toNat).length = length.toNat := by
  rw [List.length_take, name.property]
  exact Nat.min_eq_left (Nat.le_of_lt length.toNat_lt)

theorem pieces_flatten (a : RawAddress) : a.pieces.flatten = a.address.encode := by
  cases a with
  | v4 octets => exact List.append_nil _
  | v6 octets => exact List.append_nil _
  | domain name length =>
      have whole : UInt8.ofNat (name.val.take length.toNat).length = length := by
        rw [length_take_name, UInt8.ofNat_toNat]
      change length :: (name.val.take length.toNat ++ []) =
        UInt8.ofNat (name.val.take length.toNat).length :: name.val.take length.toNat
      rw [whole, List.append_nil]

theorem wireLength_eq (a : RawAddress) : a.wireLength = a.pieces.flatten.length := by
  cases a with
  | v4 octets => simp [wireLength, pieces]
  | v6 octets => simp [wireLength, pieces]
  | domain name length =>
      change 1 + length.toNat = (length :: (name.val.take length.toNat ++ [])).length
      rw [List.append_nil, List.length_cons, length_take_name, Nat.add_comm]

theorem kind_address (a : RawAddress) : a.address.kind = a.kind := by
  cases a <;> rfl

end RawAddress

namespace RawMessage

theorem draft_flatten (m : RawMessage) : m.draft.pieces.flatten = m.layout := by
  cases m with
  | selection content => rfl
  | verdict content => rfl
  | reply content =>
      simp [draft, RawReply.draft, layout, Reply.encode, RawReply.reply, Port.bytes_ofOctets,
        RawAddress.pieces_flatten, RawAddress.kind_address]

theorem draft_honest (m : RawMessage) : m.draft.Honest := by
  cases m with
  | selection content => rfl
  | verdict content => rfl
  | reply content =>
      simp only [draft, RawReply.draft, Draft.Honest, RawAddress.wireLength_eq]
      simp [content.port.property]
      omega

theorem write_eq (m : RawMessage) (b : Buffer) :
    m.write b = writeExact m.layout.length m.layout b := by
  cases m with
  | selection content => rfl
  | verdict content => rfl
  | reply content =>
      change writeExact content.reply.wireLength _ b = _
      rw [← Reply.encode_length]
      rfl

/-- A message with room enough is put behind what is held, and one without is not begun: nothing
else can come of it, whether it is written in place or put into the buffer at once. The length it
announces is that of its layout. -/
theorem written_whole_or_not_begun (m : RawMessage) (b : Buffer) :
    m.draft.announced = m.layout.length ∧ m.draft.pieces.flatten = m.layout ∧
      ((m.layout.length ≤ b.room ∧
          ∃ after, m.draft.writeTo b = (.written, after) ∧ m.write b = .ok after ∧
            b.Appended m.layout after) ∨
        (b.room < m.layout.length ∧
          m.draft.writeTo b = (.exhausted m.layout.length b.room, b) ∧
          m.write b = .error (.exhausted m.layout.length b.room))) := by
  have honest : m.draft.Honest := m.draft_honest
  have announced : m.draft.announced = m.layout.length := by
    rw [honest, draft_flatten]
  refine ⟨announced, m.draft_flatten, ?_⟩
  rcases Nat.lt_or_ge b.room m.layout.length with short | fits
  · refine .inr ⟨short, ?_, ?_⟩
    · rw [Draft.writeTo_of_short (announced ▸ short), announced]
    · rw [write_eq, writeExact_of_short short]
  · refine .inl ⟨fits, b.put m.layout, ?_, ?_, Buffer.appended_put fits⟩
    · rw [honest.writeTo_of_fits (announced ▸ fits), draft_flatten]
    · rw [write_eq, writeExact_of_fits fits]

end RawMessage

/-- Whatever stands behind the name in memory is not sent. -/
example :
    let name : Octets 256 := ⟨List.replicate 256 0x61, List.length_replicate⟩
    let r : RawReply := ⟨.failure .hostUnreachable, .domain name 2, ⟨[0, 80], rfl⟩⟩
    (RawMessage.reply r).layout = [5, 4, 0, 3, 2, 0x61, 0x61, 0, 80] := rfl

end Wire

end SocksProxy
