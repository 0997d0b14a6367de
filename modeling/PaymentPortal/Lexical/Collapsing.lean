import PaymentPortal.Lexical.Phrases

/-!
# White space collapsed and trimmed

`text.replace(/\s+/g, " ").trim()` changes no sign of a text.
-/

namespace PaymentPortal.Lexical

/-! ## Trimming -/

theorem signs_dropWhile_isSpace (text : List Char) :
    signs (text.dropWhile isSpace) = signs text := by
  obtain ⟨spaces, rest, rfl, all, noSpace⟩ := exists_spaces text
  rw [dropWhile_isSpace all noSpace, signs_spaces all]

/-- White space at the end leaves no sign either. -/
theorem signs_append_spaces {spaces : List Char} (text : List Char)
    (all : ∀ char ∈ spaces, isSpace char = true) :
    signs (text ++ spaces) = signs text := by
  have none : signs spaces = [] := by
    rw [← List.append_nil spaces, signs_spaces all]
    rfl
  rw [signs_append, none, List.append_nil]
  cases spaces with
  | nil => exact .inr rfl
  | cons char spaces =>
      exact .inr (isWordChar_false_of_isSpace (all char List.mem_cons_self))

theorem signs_trim (text : List Char) : signs (trim text) = signs text := by
  rw [trim, ← signs_dropWhile_isSpace text]
  obtain ⟨spaces, rest, parts, all, noSpace⟩ :=
    exists_spaces (text.dropWhile isSpace).reverse
  have forward : text.dropWhile isSpace = rest.reverse ++ spaces.reverse := by
    rw [← List.reverse_append, ← parts, List.reverse_reverse]
  rw [parts, dropWhile_isSpace all noSpace, forward, signs_append_spaces]
  exact fun char among => all char (List.mem_reverse.mp among)

/-! ## Collapsing -/

namespace Regex

variable {previous : Option Char}

theorem head?_repetitions {test : Char → Bool} {run rest : List Char}
    (passes : ∀ char ∈ run, test char = true)
    (stops : rest.head?.any test = false) :
    (repetitions test previous (run ++ rest)).head? =
      some ⟨lastOf previous run, rest⟩ := by
  induction run generalizing previous with
  | nil =>
      cases rest with
      | nil => rfl
      | cons char rest =>
          have fails : test char = false := stops
          rw [List.nil_append, repetitions, fails,
            if_neg Bool.false_ne_true]
          rfl
  | cons char run ih =>
      obtain ⟨pass, others⟩ := List.forall_mem_cons.mp passes
      rw [List.cons_append, repetitions, if_pos pass, List.head?_append,
        ih others]
      rfl

/-- All the white space in one place is one separator. -/
theorem splitFrom_spaces {run rest : List Char} (nonempty : run ≠ [])
    (all : ∀ char ∈ run, isSpace char = true)
    (noSpace : leadsWithSpace rest = false) :
    splitFrom spaces 0 previous (run ++ rest) =
      [] :: splitFrom spaces 0 (lastOf previous run) rest := by
  cases run with
  | nil => exact absurd rfl nonempty
  | cons char run =>
      obtain ⟨space, others⟩ := List.forall_mem_cons.mp all
      have first : (spaces.ends ⟨previous, char :: (run ++ rest)⟩).head? =
          some ⟨lastOf (some char) run, rest⟩ := by
        simp only [spaces, ends_seq, ends_one_cons, ends_many, space, if_pos,
          List.flatMap_singleton]
        exact head?_repetitions others noSpace
      have length : (run ++ rest).length - rest.length = run.length := by
        rw [List.length_append, Nat.add_sub_cancel]
      rw [List.cons_append, splitFrom, first]
      simp only [length, splitFrom_skip, lastOf_cons]

theorem splitFrom_spaces_keep {char : Char} (noSpace : isSpace char = false)
    (text : List Char) :
    splitFrom spaces 0 previous (char :: text) =
      (splitFrom spaces 0 (some char) text).modifyHead (char :: ·) := by
  have noEnd : spaces.ends ⟨previous, char :: text⟩ = [] := by
    simp [spaces, noSpace]
  rw [splitFrom, noEnd]
  rfl

theorem splitFrom_ne_nil (regex : Regex) (previous : Option Char)
    (text : List Char) : regex.splitFrom 0 previous text ≠ [] := by
  induction text generalizing previous with
  | nil => exact List.cons_ne_nil _ _
  | cons char text ih =>
      rw [splitFrom]
      split
      · rw [ne_eq, List.modifyHead_eq_nil_iff]
        exact ih _
      · exact List.cons_ne_nil _ _

end Regex

/-- The text with white space collapsed, from a place on. -/
def collapsed (previous : Option Char) (text : List Char) : List Char :=
  [' '].intercalate (Regex.spaces.splitFrom 0 previous text)

section Collapsed

variable {previous : Option Char}

theorem collapsed_keep {char : Char} (noSpace : isSpace char = false)
    (text : List Char) :
    collapsed previous (char :: text) =
      char :: collapsed (some char) text := by
  rw [collapsed, Regex.splitFrom_spaces_keep noSpace, collapsed]
  obtain ⟨part, parts, split⟩ := List.exists_cons_of_ne_nil
    (Regex.splitFrom_ne_nil Regex.spaces (some char) text)
  rw [split, List.modifyHead_cons]
  cases parts with
  | nil => rfl
  | cons next parts => rfl

theorem collapsed_space (previous : Option Char) {char : Char}
    (space : isSpace char = true) (text : List Char) :
    ∃ run rest, text = run ++ rest ∧ (∀ other ∈ run, isSpace other = true) ∧
      collapsed previous (char :: text) =
        ' ' :: collapsed (lastOf (some char) run) rest := by
  obtain ⟨run, rest, rfl, all, noSpace⟩ := exists_spaces text
  refine ⟨run, rest, rfl, all, ?_⟩
  rw [collapsed, ← List.cons_append, Regex.splitFrom_spaces
      (List.cons_ne_nil char run) (List.forall_mem_cons.mpr ⟨space, all⟩)
      noSpace,
    List.intercalate_cons_of_ne_nil (Regex.splitFrom_ne_nil _ _ _)]
  rfl

theorem isWordAt_collapsed (text : List Char) :
    isWordAt (collapsed previous text).head? = isWordAt text.head? := by
  cases text with
  | nil => rfl
  | cons char text =>
      cases space : isSpace char with
      | true =>
          obtain ⟨run, rest, -, -, collapse⟩ :=
            collapsed_space previous space text
          rw [collapse]
          exact (isWordChar_false_of_isSpace space).symm
      | false => rw [collapsed_keep space]; rfl

/-- Collapsing white space changes no sign. -/
theorem signs_collapsed (text : List Char) :
    signs (collapsed previous text) = signs text := by
  induction text using suffix_induction generalizing previous with
  | nil => rfl
  | cons char text ih =>
      cases space : isSpace char with
      | true =>
          obtain ⟨run, rest, rfl, all, collapse⟩ :=
            collapsed_space previous space text
          rw [collapse, signs_space rfl, signs_space space, signs_spaces all,
            ih rest (List.suffix_append run rest)]
      | false =>
          rw [collapsed_keep space, signs, signs, ih text List.suffix_rfl,
            isWordAt_collapsed]

end Collapsed

end PaymentPortal.Lexical
