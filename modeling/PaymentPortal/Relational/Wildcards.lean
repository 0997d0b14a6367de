import Mathlib.Data.List.Infix

/-!
# Patterns with wildcards

A pattern is a list of wildcards and of letters that stand for themselves.  A
word between two wildcards for any text matches the texts that contain it.
-/

namespace PaymentPortal.Relational

/-- One sign of a pattern. -/
inductive PatternSign (Letter : Type) where
  | anyText
  | anyLetter
  | letter (literal : Letter)
  deriving DecidableEq, Repr

variable {Letter : Type}

/-- The texts that a pattern matches. -/
def Matches : List (PatternSign Letter) → List Letter → Prop
  | [], text => text = []
  | .anyText :: pattern, text => ∃ rest, rest <:+ text ∧ Matches pattern rest
  | .anyLetter :: pattern, text =>
    ∃ head rest, text = head :: rest ∧ Matches pattern rest
  | .letter literal :: pattern, text =>
    ∃ rest, text = literal :: rest ∧ Matches pattern rest

@[simp]
theorem matches_nil (text : List Letter) :
    Matches [] text ↔ text = [] := Iff.rfl

/-- A word in front of a pattern is the beginning of the text. -/
theorem matches_word_append (word text : List Letter)
    (pattern : List (PatternSign Letter)) :
    Matches (word.map .letter ++ pattern) text ↔
      ∃ rest, text = word ++ rest ∧ Matches pattern rest := by
  induction word generalizing text with
  | nil =>
      constructor
      · exact fun found => ⟨text, rfl, found⟩
      · rintro ⟨rest, rfl, found⟩
        exact found
  | cons head word ih =>
      simp only [List.map_cons, List.cons_append, Matches, ih]
      constructor
      · rintro ⟨tail, rfl, rest, rfl, found⟩
        exact ⟨rest, rfl, found⟩
      · rintro ⟨rest, rfl, found⟩
        exact ⟨word ++ rest, rfl, rest, rfl, found⟩

theorem matches_anyText (text : List Letter) :
    Matches [.anyText] text := ⟨[], List.nil_suffix, rfl⟩

/-- A word with any text around it matches the texts that contain it. -/
theorem matches_contains (word text : List Letter) :
    Matches (.anyText :: word.map .letter ++ [.anyText]) text ↔
      word <:+: text := by
  simp only [List.cons_append, Matches, matches_word_append]
  constructor
  · rintro ⟨_, ⟨before, split⟩, rest, rfl, -⟩
    exact ⟨before, rest, by rw [List.append_assoc]; exact split⟩
  · rintro ⟨before, rest, split⟩
    refine ⟨word ++ rest, ⟨before, ?_⟩, rest, rfl, matches_anyText rest⟩
    rw [← List.append_assoc]
    exact split

end PaymentPortal.Relational
