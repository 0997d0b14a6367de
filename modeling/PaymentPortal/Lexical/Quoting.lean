import Mathlib.Data.List.Basic

/-!
# Quoting by doubling

A text is quoted by putting a mark around it and doubling the mark inside.
Reading takes the first mark that is not doubled as the end.  Reading what has
been quoted gives back the text and what follows, whatever the text contains:
nothing in a text can end its quotation early.
-/

namespace PaymentPortal.Lexical

variable {Letter : Type} [DecidableEq Letter] {mark : Letter}

/-- Every mark of the text twice. -/
def doubled (mark : Letter) : List Letter → List Letter
  | [] => []
  | letter :: rest =>
      if letter = mark then mark :: mark :: doubled mark rest
      else letter :: doubled mark rest

/-- The text in marks. -/
def quoted (mark : Letter) (text : List Letter) : List Letter :=
  mark :: (doubled mark text ++ [mark])

/-- The text up to the end of its quotation, and what follows. -/
def readDoubled (mark : Letter) :
    List Letter → Option (List Letter × List Letter)
  | [] => none
  | [letter] => if letter = mark then some ([], []) else none
  | letter :: next :: rest =>
      if letter = mark then
        if next = mark then
          (readDoubled mark rest).map fun read => (mark :: read.1, read.2)
        else some ([], next :: rest)
      else
        (readDoubled mark (next :: rest)).map fun read =>
          (letter :: read.1, read.2)

/-- The mark is the end when no other mark follows it. -/
theorem readDoubled_end {rest : List Letter}
    (ended : rest.head? ≠ some mark) :
    readDoubled mark (mark :: rest) = some ([], rest) := by
  cases rest with
  | nil => rw [readDoubled, if_pos rfl]
  | cons next rest =>
      have other : next ≠ mark := fun same => ended (congrArg some same)
      rw [readDoubled, if_pos rfl, if_neg other]

/-- A letter that is not the mark is read as it is. -/
theorem readDoubled_letter {letter : Letter} (other : letter ≠ mark)
    {text : List Letter} (more : text ≠ []) :
    readDoubled mark (letter :: text) =
      (readDoubled mark text).map fun read => (letter :: read.1, read.2) := by
  cases text with
  | nil => exact absurd rfl more
  | cons next rest => rw [readDoubled, if_neg other]

/-- Reading inverts quoting, whatever the text is. -/
theorem readDoubled_doubled (text : List Letter) {rest : List Letter}
    (ended : rest.head? ≠ some mark) :
    readDoubled mark (doubled mark text ++ mark :: rest) =
      some (text, rest) := by
  induction text with
  | nil => exact readDoubled_end ended
  | cons letter text ih =>
      by_cases isMark : letter = mark
      · rw [doubled, if_pos isMark, List.cons_append, List.cons_append,
          readDoubled, if_pos rfl, if_pos rfl, ih, isMark]
        rfl
      · rw [doubled, if_neg isMark, List.cons_append,
          readDoubled_letter isMark (by simp), ih]
        rfl

/-- Doubling marks adds no other letters. -/
theorem mem_doubled {letter : Letter} {text : List Letter} :
    letter ∈ doubled mark text ↔ letter ∈ text := by
  induction text with
  | nil => rfl
  | cons first rest ih =>
      rw [doubled]
      split
      · next isMark => simp [ih, isMark]
      · simp [ih]

end PaymentPortal.Lexical
