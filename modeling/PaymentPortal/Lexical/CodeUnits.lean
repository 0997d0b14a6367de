import Mathlib.Data.List.Lex
import Mathlib.Data.List.Sort

/-!
# The order of texts

The language compares texts by their UTF-16 code units.  The encoding is
injective, so a list of texts is sorted in one way only; and texts with the same
beginning are in the order of what comes after it.
-/

namespace PaymentPortal.Lexical

/-! ## Code units -/

/-- The UTF-16 code units of a character. -/
def unitsOf (char : Char) : List Nat :=
  if char.toNat < 0x10000 then [char.toNat]
  else [0xD800 + (char.toNat - 0x10000) / 0x400,
    0xDC00 + (char.toNat - 0x10000) % 0x400]

/-- The UTF-16 code units of a text. -/
def codeUnits (text : String) : List Nat :=
  text.toList.flatMap unitsOf

theorem codeUnits_append (first second : String) :
    codeUnits (first ++ second) = codeUnits first ++ codeUnits second := by
  rw [codeUnits, String.toList_append, List.flatMap_append, codeUnits, codeUnits]

/-- A character is no surrogate, and there are not more than the planes. -/
theorem toNat_range (char : Char) :
    char.toNat < 0xD800 ∨ (0xDFFF < char.toNat ∧ char.toNat < 0x110000) :=
  char.valid

/-- The units tell where a character ends. -/
theorem unitsOf_append_inj {first second : Char} {rest others : List Nat}
    (same : unitsOf first ++ rest = unitsOf second ++ others) :
    first = second ∧ rest = others := by
  have firstRange := toNat_range first
  have secondRange := toNat_range second
  rw [unitsOf, unitsOf] at same
  split at same <;> split at same <;>
    simp only [List.cons_append, List.nil_append, List.cons.injEq] at same
  · exact ⟨Char.toNat_inj.mp same.1, same.2⟩
  · omega
  · omega
  · exact ⟨Char.toNat_inj.mp (by omega), same.2.2⟩

theorem unitsOf_ne_nil (char : Char) : unitsOf char ≠ [] := by
  rw [unitsOf]
  split <;> simp

theorem codeUnits_injective : Function.Injective codeUnits := by
  suffices ∀ first second : List Char,
      first.flatMap unitsOf = second.flatMap unitsOf → first = second from
    fun first second same => String.toList_injective (this _ _ same)
  intro first
  induction first with
  | nil =>
      rintro (_ | ⟨char, second⟩) same
      · rfl
      · exact absurd (List.append_eq_nil_iff.mp same.symm).1
          (unitsOf_ne_nil char)
  | cons head first ih =>
      rintro (_ | ⟨char, second⟩) same
      · exact absurd (List.append_eq_nil_iff.mp same).1 (unitsOf_ne_nil head)
      · obtain ⟨rfl, rest⟩ := unitsOf_append_inj same
        rw [ih second rest]

/-! ## Sorting -/

/-- `first <= second`. -/
def textLe (first second : String) : Prop :=
  codeUnits first ≤ codeUnits second

instance : DecidableRel textLe := fun first second =>
  inferInstanceAs (Decidable (codeUnits first ≤ codeUnits second))

theorem textLe_antisymm {first second : String}
    (before : textLe first second) (after : textLe second first) :
    first = second :=
  codeUnits_injective (le_antisymm before after)

instance : Std.Total textLe where
  total first second := le_total (codeUnits first) (codeUnits second)

instance : IsTrans String textLe where
  trans _ _ _ before after := le_trans before after

theorem textLe_append_left (beginning : String) {first second : String}
    (before : textLe first second) :
    textLe (beginning ++ first) (beginning ++ second) := by
  rw [textLe, codeUnits_append, codeUnits_append]
  rcases lt_or_eq_of_le before with less | same
  · exact le_of_lt (List.Lex.append_left _ less _)
  · rw [same]

/-- `texts.sort()`. -/
def sortTexts (texts : List String) : List String :=
  texts.insertionSort textLe

theorem sortTexts_perm (texts : List String) :
    (sortTexts texts).Perm texts :=
  List.perm_insertionSort textLe texts

theorem pairwise_sortTexts (texts : List String) :
    (sortTexts texts).Pairwise textLe :=
  List.pairwise_insertionSort textLe texts

end PaymentPortal.Lexical
