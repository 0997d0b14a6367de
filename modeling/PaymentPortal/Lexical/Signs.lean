import Mathlib.Data.List.TakeWhile
import PaymentPortal.Lexical.Regex

/-!
# Words and marks of a text

The signs of a text are its words, in lower case, and its other characters; the
white space is left out, so two words in a row have white space between them.
Phrases of keywords are found in a text if and only if their words stand side by
side among its signs.
-/

namespace PaymentPortal.Lexical

/-- A word or a character that is neither part of one nor white space. -/
inductive Sign where
  | word (letters : List Char)
  | mark (char : Char)
  deriving DecidableEq, Repr

/-- A letter in front of the signs, where a word begins or none does. -/
def extendWord (letter : Char) : List Sign → List Sign
  | .word letters :: rest => .word (letter :: letters) :: rest
  | signs => .word [letter] :: signs

/-- The signs of a text. -/
def signs : List Char → List Sign
  | [] => []
  | char :: text =>
    if isWordChar char then
      if isWordAt text.head? then extendWord char.toLower (signs text)
      else .word [char.toLower] :: signs text
    else if isSpace char then signs text
    else .mark char :: signs text

theorem isWordChar_false_of_isSpace {char : Char}
    (space : isSpace char = true) : isWordChar char = false := by
  have listed := List.contains_iff_mem.mp space
  have noWord : ∀ code ∈ [9, 10, 11, 12, 13, 32, 160, 5760, 8192, 8193, 8194,
      8195, 8196, 8197, 8198, 8199, 8200, 8201, 8202, 8232, 8233, 8239, 8287,
      12288, 65279], isWordChar (Char.ofNat code) = false := by decide
  rw [← Char.ofNat_toNat char]
  exact noWord _ listed

/-- A word character in front of another one. -/
theorem signs_inside {char : Char} {text : List Char}
    (isWord : isWordChar char = true) (goesOn : isWordAt text.head? = true) :
    signs (char :: text) = extendWord char.toLower (signs text) := by
  rw [signs, if_pos isWord, if_pos goesOn]

/-- A word character with which the word ends. -/
theorem signs_last {char : Char} {text : List Char}
    (isWord : isWordChar char = true) (ends : isWordAt text.head? = false) :
    signs (char :: text) = .word [char.toLower] :: signs text := by
  rw [signs, if_pos isWord, if_neg (by rw [ends]; exact Bool.false_ne_true)]

/-- A text whose first character is part of a word. -/
theorem signs_word {word rest : List Char} (nonempty : word ≠ [])
    (letters : ∀ char ∈ word, isWordChar char = true)
    (ends : isWordAt rest.head? = false) :
    signs (word ++ rest) = .word (word.map Char.toLower) :: signs rest := by
  induction word with
  | nil => exact absurd rfl nonempty
  | cons char word ih =>
      have isWord := letters char List.mem_cons_self
      cases word with
      | nil => exact signs_last isWord ends
      | cons next word =>
          have later := ih (List.cons_ne_nil next word) fun other among =>
            letters other (List.mem_cons_of_mem _ among)
          have goesOn : isWordAt (next :: word ++ rest).head? = true :=
            letters next (by simp)
          rw [List.cons_append, signs_inside isWord goesOn, later]
          rfl

/-- White space leaves no sign. -/
theorem signs_space {char : Char} (space : isSpace char = true)
    (text : List Char) : signs (char :: text) = signs text := by
  rw [signs, isWordChar_false_of_isSpace space, if_neg Bool.false_ne_true,
    if_pos space]

theorem signs_spaces {run : List Char} (spaces : ∀ char ∈ run, isSpace char)
    (text : List Char) : signs (run ++ text) = signs text := by
  induction run with
  | nil => rfl
  | cons char run ih =>
      rw [List.cons_append, signs_space (spaces char List.mem_cons_self),
        ih fun other among => spaces other (List.mem_cons_of_mem _ among)]

theorem signs_mark {char : Char} (notWord : isWordChar char = false)
    (noSpace : isSpace char = false) (text : List Char) :
    signs (char :: text) = .mark char :: signs text := by
  rw [signs, notWord, if_neg Bool.false_ne_true, noSpace,
    if_neg Bool.false_ne_true]

/-! ## Letter case -/

theorem toLower_of_not_isUpper {char : Char}
    (notUpper : char.isUpper = false) : char.toLower = char := by
  unfold Char.toLower
  rw [dif_neg]
  intro upper
  cases notUpper.symm.trans (decide_eq_true upper)

theorem isLower_toLower {char : Char} (upper : char.isUpper = true) :
    char.toLower.isLower = true := by
  have bounds : 'A'.val ≤ char.val ∧ char.val ≤ 'Z'.val := of_decide_eq_true upper
  unfold Char.toLower Char.isLower
  rw [dif_pos bounds]
  simp [UInt32.le_iff_toNat_le, UInt32.toNat_add] at bounds ⊢
  omega

theorem isWordChar_of_isUpper {char : Char} (upper : char.isUpper = true) :
    isWordChar char = true := by
  unfold isWordChar Char.isAlphanum Char.isAlpha
  rw [upper]
  rfl

theorem toLower_of_not_isWordChar {char : Char}
    (notWord : isWordChar char = false) : char.toLower = char := by
  cases upper : char.isUpper with
  | true => cases notWord.symm.trans (isWordChar_of_isUpper upper)
  | false => exact toLower_of_not_isUpper upper

@[simp]
theorem isWordChar_toLower (char : Char) :
    isWordChar char.toLower = isWordChar char := by
  cases upper : char.isUpper with
  | true =>
      rw [isWordChar_of_isUpper upper]
      unfold isWordChar Char.isAlphanum Char.isAlpha
      rw [isLower_toLower upper, Bool.or_true]
      rfl
  | false => rw [toLower_of_not_isUpper upper]

@[simp]
theorem toLower_toLower (char : Char) : char.toLower.toLower = char.toLower := by
  cases upper : char.isUpper with
  | true =>
      refine toLower_of_not_isUpper ?_
      have lower := isLower_toLower upper
      unfold Char.isLower at lower
      unfold Char.isUpper
      simp [UInt32.le_iff_toNat_le] at lower ⊢
      omega
  | false => rw [toLower_of_not_isUpper upper, toLower_of_not_isUpper upper]

/-- Letter case makes no difference to the signs. -/
theorem signs_map_toLower (text : List Char) :
    signs (text.map Char.toLower) = signs text := by
  induction text with
  | nil => rfl
  | cons char text ih =>
      have head : isWordAt (text.map Char.toLower).head? =
          isWordAt text.head? := by
        cases text with
        | nil => rfl
        | cons next text => exact isWordChar_toLower next
      rw [List.map_cons, signs, signs, isWordChar_toLower, head, ih,
        toLower_toLower]
      cases isWord : isWordChar char with
      | true => rfl
      | false => rw [toLower_of_not_isWordChar isWord]

/-! ## White space in front -/

/-- White space at the begin of a text. -/
def leadsWithSpace (text : List Char) : Bool :=
  text.head?.any isSpace

theorem leadsWithSpace_of_begins {text : List Char}
    (begins : isWordAt text.head? = true) : leadsWithSpace text = false := by
  cases text with
  | nil => rfl
  | cons char text =>
      by_contra space
      rw [Bool.not_eq_false] at space
      cases (isWordChar_false_of_isSpace space).symm.trans begins

theorem dropWhile_isSpace {spaces text : List Char}
    (all : ∀ char ∈ spaces, isSpace char = true)
    (noSpace : leadsWithSpace text = false) :
    (spaces ++ text).dropWhile isSpace = text := by
  rw [List.dropWhile_append_of_pos all]
  cases text with
  | nil => rfl
  | cons char text =>
      have fails : isSpace char = false := noSpace
      rw [List.dropWhile_cons_of_neg (Bool.eq_false_iff.mp fails)]

/-- Every text is white space and a text that does not begin with any. -/
theorem exists_spaces (text : List Char) :
    ∃ spaces rest, text = spaces ++ rest ∧
      (∀ char ∈ spaces, isSpace char = true) ∧ leadsWithSpace rest = false := by
  refine ⟨text.takeWhile isSpace, text.dropWhile isSpace,
    List.takeWhile_append_dropWhile.symm,
    fun char among => List.mem_takeWhile_imp among, ?_⟩
  have fails := List.head?_dropWhile_not isSpace text
  cases later : (text.dropWhile isSpace).head? with
  | none => rw [leadsWithSpace, later]; rfl
  | some char => simpa [leadsWithSpace, later] using fails

/-! ## Words in front -/

/-- A text that begins with a word character begins with a word. -/
theorem exists_run {text : List Char} (begins : isWordAt text.head? = true) :
    ∃ run rest, text = run ++ rest ∧ run ≠ [] ∧
      (∀ char ∈ run, isWordChar char = true) ∧ isWordAt rest.head? = false := by
  refine ⟨text.takeWhile isWordChar, text.dropWhile isWordChar,
    (List.takeWhile_append_dropWhile).symm, ?_, ?_, ?_⟩
  · cases text with
    | nil => cases begins
    | cons char text =>
        have isWord : isWordChar char = true := begins
        rw [List.takeWhile_cons_of_pos isWord]
        exact List.cons_ne_nil _ _
  · exact fun char among => List.mem_takeWhile_imp among
  · cases rest : text.dropWhile isWordChar with
    | nil => rfl
    | cons char rest =>
        have fails := List.head?_dropWhile_not isWordChar text
        rw [rest] at fails
        simpa [isWordAt] using fails

/-- Texts that do not run into each other have their own signs. -/
theorem signs_append (first second : List Char)
    (apart : isWordAt (lastOf none first) = false ∨
      isWordAt second.head? = false) :
    signs (first ++ second) = signs first ++ signs second := by
  induction first with
  | nil => rfl
  | cons char first ih =>
      have later : signs (first ++ second) = signs first ++ signs second := by
        cases first with
        | nil => rfl
        | cons next first => exact ih apart
      rw [List.cons_append]
      by_cases isWord : isWordChar char = true
      · cases goesOn : isWordAt (first ++ second).head? with
        | false =>
            rw [signs_last isWord goesOn, later, signs_last isWord]
            · rfl
            · cases first with
              | nil => rfl
              | cons next first => exact goesOn
        | true =>
            cases first with
            | nil =>
                rcases apart with noLast | noHead
                · cases noLast.symm.trans isWord
                · cases noHead.symm.trans goesOn
            | cons next first =>
                have inside : isWordAt (next :: first).head? = true := goesOn
                obtain ⟨own, others, ownParts, ownNonempty, ownLetters,
                  ownEnds⟩ := exists_run inside
                rw [signs_inside isWord goesOn, later,
                  signs_inside isWord inside, ownParts,
                  signs_word ownNonempty ownLetters ownEnds]
                rfl
      · rw [Bool.not_eq_true] at isWord
        by_cases space : isSpace char = true
        · rw [signs_space space, signs_space space, later]
        · rw [Bool.not_eq_true] at space
          rw [signs_mark isWord space, signs_mark isWord space, later]
          rfl

end PaymentPortal.Lexical
