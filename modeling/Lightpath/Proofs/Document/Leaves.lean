import Lightpath.Document.Printer
import Lightpath.Document.Reader
import Lightpath.Proofs.Text.Ends

/-!
# Blanks, and texts between quotes

Blanks are passed over wherever a value, a comma or a bracket may stand. A text that is put between
quotes is read as that text, whatever characters it has.
-/

namespace Lightpath.Document

/-- A character that is passed over between the parts of a document. -/
def Blank (c : Char) : Prop := c = ' ' ∨ c = '\t' ∨ c = '\n' ∨ c = '\r'

instance (c : Char) : Decidable (Blank c) := inferInstanceAs (Decidable (_ ∨ _))

theorem skipBlanks_of_not_blank {c : Char} (solid : ¬ Blank c) (rest : List Char) :
    skipBlanks (c :: rest) = c :: rest :=
  List.dropWhile_cons_of_neg (by simpa [Blank, and_assoc] using solid)

theorem skipBlanks_append {gap : List Char} (blank : ∀ c ∈ gap, Blank c) (rest : List Char) :
    skipBlanks (gap ++ rest) = skipBlanks rest := by
  refine List.dropWhile_append_of_pos fun c member => ?_
  rcases blank c member with rfl | rfl | rfl | rfl <;> rfl

/-- What may stand behind a value: nothing, a blank, or what goes on with or closes the list or
    object that the value is in. -/
def Closes (rest : List Char) : Prop := ∀ c ∈ rest.head?, c = ',' ∨ c = ']' ∨ c = '}' ∨ Blank c

theorem closes_nil : Closes [] := fun _ member => absurd member (by simp)

theorem closes_cons {c : Char} (rest : List Char) (mark : c = ',' ∨ c = ']' ∨ c = '}' ∨ Blank c) :
    Closes (c :: rest) := fun _ member => Option.some.inj member ▸ mark

theorem closes_append {gap rest : List Char} (blank : ∀ c ∈ gap, Blank c) (closes : Closes rest) :
    Closes (gap ++ rest) := by
  cases gap with
  | nil => exact closes
  | cons c gap => exact closes_cons _ (.inr (.inr (.inr (blank c List.mem_cons_self))))

/-! ## Texts -/

theorem readQuoted_of_plain {c : Char} (quote : c ≠ '"') (slash : c ≠ '\\')
    (high : ¬ c.toNat < 0x20) (seen : List Nat) (rest : List Char) :
    readQuoted seen (c :: rest) = readQuoted (c.toNat :: seen) rest := by
  rw [readQuoted]
  · simp [quote, slash, high]
  · intro a b c d rest same
    exact absurd same slash
  · intro letter rest same
    exact absurd same slash

/-- The digits of the code of a control character spell it. -/
theorem code?_hexCode :
    ∀ n < 0x20, (match hexCode n with | [a, b, c, d] => code? a b c d | _ => none) = some n := by
  decide +kernel

theorem readQuoted_hexCode {n : Nat} (low : n < 0x20) (seen : List Nat) (rest : List Char) :
    readQuoted seen ('\\' :: 'u' :: hexCode n ++ rest) = readQuoted (n :: seen) rest := by
  have spelled := code?_hexCode n low
  split at spelled
  · next a b c d written =>
    rw [written]
    simp [readQuoted, spelled]
  · cases spelled

/-- An escaped character is read as the character. -/
theorem readQuoted_escape (c : Char) (seen : List Nat) (rest : List Char) :
    readQuoted seen (escape c ++ rest) = readQuoted (c.toNat :: seen) rest := by
  by_cases quote : c = '"'
  · subst quote; rfl
  by_cases slash : c = '\\'
  · subst slash; rfl
  by_cases back : c = '\x08'
  · subst back; rfl
  by_cases feed : c = '\x0c'
  · subst feed; rfl
  by_cases line : c = '\n'
  · subst line; rfl
  by_cases turn : c = '\r'
  · subst turn; rfl
  by_cases tab : c = '\t'
  · subst tab; rfl
  by_cases low : c.toNat < 0x20
  · simp only [escape, quote, slash, back, feed, line, turn, tab, low, if_true, if_false]
    exact readQuoted_hexCode low seen rest
  · simp only [escape, quote, slash, back, feed, line, turn, tab, low, if_false]
    exact readQuoted_of_plain quote slash low seen rest

theorem readQuoted_flatMap_escape (cs : List Char) (seen : List Nat) (rest : List Char) :
    readQuoted seen (cs.flatMap escape ++ '"' :: rest) =
      some ((cs.map Char.toNat).reverse ++ seen, rest) := by
  induction cs generalizing seen with
  | nil => rfl
  | cons c cs ih => simp [readQuoted_escape, ih]

/-- No character is one half of a character. -/
theorem not_surrogate (c : Char) :
    isHighSurrogate c.toNat = false ∧ isLowSurrogate c.toNat = false := by
  have valid : c.toNat < 0xd800 ∨ 0xdfff < c.toNat ∧ c.toNat < 0x110000 := c.valid
  simp only [isHighSurrogate, isLowSurrogate, Bool.and_eq_false_iff, decide_eq_false_iff_not]
  omega

theorem charactersOf?_toNat (cs : List Char) : charactersOf? (cs.map Char.toNat) = some cs := by
  induction cs with
  | nil => rfl
  | cons c cs ih =>
    obtain ⟨high, low⟩ := not_surrogate c
    rw [List.map_cons, charactersOf?.eq_def]
    simp [high, low, ih]

theorem toList_quote (s : String) :
    (quote s).toList = '"' :: (s.toList.flatMap escape ++ ['"']) := by
  rw [quote, String.toList_ofList, List.cons_append]

/-- What is written between quotes is read, up to the closing quote. -/
theorem readText?_quoted (s : String) (rest : List Char) :
    readText? (s.toList.flatMap escape ++ '"' :: rest) = some (some s, rest) := by
  rw [readText?, readQuoted_flatMap_escape]
  simp [charactersOf?_toNat, String.ofList_toList]

end Lightpath.Document
