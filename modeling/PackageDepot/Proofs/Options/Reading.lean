import PackageDepot.Options.Setting
import PackageDepot.Proofs.Text.Encoding

namespace PackageDepot

namespace Decimal

variable {n : Nat} {c : Char}

theorem isDigit_of_mem_digits (member : c ∈ digits n) : c.isDigit = true :=
  Nat.isDigit_of_mem_toDigits (by decide) (by decide) member

theorem readNatural?_text (n : Nat) : readNatural? (text n).toList = some n := by
  unfold readNatural?
  split
  · rename_i rest signed
    rw [text, String.toList_ofList] at signed
    exact absurd (isDigit_of_mem_digits (signed ▸ List.mem_cons_self)) (by decide)
  · exact read?_text n

theorem readInteger?_text (n : Nat) : readInteger? (text n).toList = some (n : Int) := by
  unfold readInteger?
  split
  · rename_i rest signed
    rw [text, String.toList_ofList] at signed
    exact absurd (isDigit_of_mem_digits (signed ▸ List.mem_cons_self)) (by decide)
  · simp [readNatural?_text]

end Decimal

theorem Utf8.strict?_octets (text : String) : strict? (octets text) = some text := by
  rw [strict?, octets, decode_encode, if_pos rfl, ← octets, text_octets]

namespace Setting

theorem readText_octets (text : String) : readText (Utf8.octets text) = .ok text := by
  rw [readText, Utf8.strict?_octets]

theorem readPort_text (n : UInt16) : readPort (Utf8.octets (Decimal.text n.toNat)) = .ok n := by
  have small : (n.toNat : Int) < UInt16.size := Int.ofNat_lt.mpr n.toNat_lt
  simp only [readPort, readText_octets, bind, Except.bind, Decimal.readInteger?_text]
  rw [if_pos ⟨Int.natCast_nonneg _, small⟩, Int.toNat_natCast, UInt16.ofNat_toNat]

theorem readWord_text (n : UInt64) : readWord (Utf8.octets (Decimal.text n.toNat)) = .ok n := by
  simp only [readWord, readText_octets, bind, Except.bind, Decimal.readNatural?_text]
  rw [if_pos n.toNat_lt, UInt64.ofNat_toNat]

theorem readBackend_choiceWord (kind : SourceKind) :
    readBackend (Utf8.octets (choiceWord kind)) = .ok kind := by
  cases kind with
  | directory => rfl
  | catalog => rfl

/-- Whether a value is no empty path. -/
def Filled : (setting : Setting) → setting.Value → Prop
  | packageRoot, path => path ≠ []
  | catalogFile, path => path ≠ []
  | _, _ => True

/-- A value is read back as it was written. -/
theorem read_write {setting : Setting} {value : setting.Value} (filled : setting.Filled value) :
    setting.read (setting.write value) = .ok value := by
  cases setting with
  | host => exact readText_octets value
  | port => exact readPort_text value
  | backend => exact readBackend_choiceWord value
  | packageRoot => exact if_neg filled
  | catalogFile => exact if_neg filled
  | requestBytes => exact readWord_text value
  | chunkBytes => exact readWord_text value
  | readTimeout => exact readWord_text value
  | logLevel => exact readText_octets value

end Setting

end PackageDepot
