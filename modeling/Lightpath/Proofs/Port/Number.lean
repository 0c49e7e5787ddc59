import Lightpath.Port
import Lightpath.Proofs.Text.Digits

/-!
# Port numbers and their texts

The text that is shown for a port number reads back as the number, so that different numbers have
different texts.
-/

namespace Lightpath.PortNumber

theorem toList_display (p : PortNumber) : p.display.toList = Nat.toDigits 10 p.value.toNat := by
  rw [display, Nat.toString_eq_ofList_toDigits, String.toList_ofList]

theorem read_display (p : PortNumber) : read p.display = .ok p := by
  have solid : ∀ c ∈ Nat.toDigits 10 p.value.toNat, Text.isBlank c = false := by
    intro c member
    exact Text.isBlank_of_isDigit (Text.isDigit_of_mem_toDigits member)
  have fits : p.value.toNat < UInt64.size := p.value.toNat_lt
  rw [read, toList_display, Text.trimChars_of_no_blank solid, Text.word?_toDigits fits]
  dsimp only
  rw [UInt64.ofNat_toNat]

theorem display_injective {p q : PortNumber} (same : p.display = q.display) : p = q := by
  have read_same := congrArg read same
  rw [read_display, read_display] at read_same
  exact Except.ok.inj read_same

end Lightpath.PortNumber
