import PackageDepot.Proofs.Text.Decoding

namespace PackageDepot.Utf8

namespace State

variable {bits low high value : Nat}

theorem step_two (long : 2 ≤ bits) (short : bits < 0x20) :
    boundary.step (UInt8.ofNat (bits + 0xc0)) = ([], .inside 0x80 0xbf 0 bits) := by
  have octet : (UInt8.ofNat (bits + 0xc0)).toNat = bits + 0xc0 := Nat.mod_eq_of_lt (by omega)
  rw [step, octet]
  grind [begin]

/-- The first octet of three. The second one is bounded so that no shorter form and no surrogate
comes about. -/
theorem step_three (short : bits < 0x10) : boundary.step (UInt8.ofNat (bits + 0xe0)) =
    ([], .inside (if bits = 0 then 0xa0 else 0x80) (if bits = 0xd then 0x9f else 0xbf) 1 bits) := by
  have octet : (UInt8.ofNat (bits + 0xe0)).toNat = bits + 0xe0 := Nat.mod_eq_of_lt (by omega)
  rw [step, octet]
  grind [begin]

/-- The first octet of four. The second one is bounded so that no shorter form and nothing past the
last code point comes about. -/
theorem step_four (short : bits < 5) : boundary.step (UInt8.ofNat (bits + 0xf0)) =
    ([], .inside (if bits = 0 then 0x90 else 0x80) (if bits = 4 then 0x8f else 0xbf) 2 bits) := by
  have octet : (UInt8.ofNat (bits + 0xf0)).toNat = bits + 0xf0 := Nat.mod_eq_of_lt (by omega)
  rw [step, octet]
  grind [begin]

theorem step_last (short : bits < 0x40) (least : low ≤ bits + 0x80) (most : bits + 0x80 ≤ high) :
    (inside low high 0 value).step (UInt8.ofNat (bits + 0x80)) =
      ([Char.ofNat (value * 64 + bits)], .boundary) := by
  have octet : (bits + 0x80) % 256 = bits + 0x80 := Nat.mod_eq_of_lt (by omega)
  simp [step, octet, least, most]

theorem step_more {more : Nat} (short : bits < 0x40) (least : low ≤ bits + 0x80)
    (most : bits + 0x80 ≤ high) :
    (inside low high (more + 1) value).step (UInt8.ofNat (bits + 0x80)) =
      ([], .inside 0x80 0xbf more (value * 64 + bits)) := by
  have octet : (bits + 0x80) % 256 = bits + 0x80 := Nat.mod_eq_of_lt (by omega)
  simp [step, octet, least, most]

theorem run_utf8EncodeChar (c : Char) (rest : Bytes) :
    boundary.run (String.utf8EncodeChar c ++ rest) = c :: boundary.run rest := by
  have valid : c.toNat < 0xd800 ∨ 0xdfff < c.toNat ∧ c.toNat < 0x110000 := c.valid
  have code : c.val.toNat = c.toNat := rfl
  have same (n : Nat) (equal : n = c.toNat) : Char.ofNat n = c := by rw [equal, Char.ofNat_toNat]
  simp only [String.utf8EncodeChar, code]
  split
  · rename_i one
    have octet : c.toNat % 256 = c.toNat := Nat.mod_eq_of_lt (by omega)
    have ascii : c.toNat < 0x80 := by omega
    simp [run, step, begin, octet, ascii]
  split
  · rw [List.cons_append, List.cons_append, run, step_two (by omega) (by omega), run,
      step_last (by omega) (by omega) (by omega), same _ (by omega)]
    rfl
  split
  · rw [List.cons_append, List.cons_append, List.cons_append, run, step_three (by omega), run,
      step_more (by omega) (by split <;> omega) (by split <;> omega), run,
      step_last (by omega) (by omega) (by omega), same _ (by omega)]
    rfl
  · rw [List.cons_append, List.cons_append, List.cons_append, List.cons_append, run,
      step_four (by omega), run,
      step_more (by omega) (by split <;> omega) (by split <;> omega), run,
      step_more (by omega) (by omega) (by omega), run,
      step_last (by omega) (by omega) (by omega), same _ (by omega)]
    rfl

end State

theorem decode_encode (text : List Char) : decode (encode text) = text := by
  induction text with
  | nil => rfl
  | cons c rest ih =>
    rw [encode, List.flatMap_cons, decode, State.run_utf8EncodeChar]
    exact congrArg (c :: ·) ih

theorem text_octets (text : String) : Utf8.text (octets text) = text := by
  rw [Utf8.text, octets, decode_encode, String.ofList_toList]

theorem octets_injective {text other : String} (same : octets text = octets other) :
    text = other := by
  rw [← text_octets text, same, text_octets]

theorem octets_eq_nil_iff {text : String} : octets text = [] ↔ text = "" := by
  rw [← text_eq_empty_iff, text_octets]

/-- An ASCII octet in what is written stands for a character of its own. -/
theorem mem_of_mem_encode {octet : UInt8} {text : List Char} (ascii : octet.toNat < 0x80)
    (member : octet ∈ encode text) : Char.ofNat octet.toNat ∈ text := by
  obtain ⟨front, rest, written⟩ := List.append_of_mem member
  have read := decode_append_ascii ascii front rest
  rw [← written, decode_encode] at read
  simp [read]

end PackageDepot.Utf8
