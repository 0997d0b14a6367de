import PaymentPortal.Lexical.Signs

/-!
# Lexemes and the texts they are written as

A statement is a list of lexemes: keywords, which may be written in any letter
case, and texts that stand as they are.  White space may be put before each of
them and has to be where two of them would otherwise be read as one name.  The
signs of every text that is written so are the signs of the lexemes.
-/

namespace PaymentPortal.Lexical

/-- A keyword, or a name, a mark or an expression as it is written. -/
inductive Lexeme where
  | keyword (letters : String)
  | text (characters : String)
  deriving DecidableEq, Repr

/-- White space between the lexemes of a statement. -/
def isBlank (char : Char) : Bool :=
  [9, 10, 11, 12, 13, 32].contains char.toNat

/-- A character that a name without quotes may contain. -/
def isNameChar (char : Char) : Bool :=
  isWordChar char || char == '$' || 128 ≤ char.toNat

namespace Lexeme

/-- The lexeme is written as this text. -/
def Spells : Lexeme → List Char → Prop
  | keyword letters, spelled =>
    spelled.map Char.toLower = letters.toList.map Char.toLower
  | text characters, spelled => spelled = characters.toList

/-- A keyword is written in any letter case. -/
theorem spells_keyword {letters : String} {spelled : List Char}
    (same : spelled.map Char.toLower = letters.toList.map Char.toLower) :
    (keyword letters).Spells spelled :=
  same

/-- The signs of the lexeme. -/
def signs : Lexeme → List Sign
  | keyword letters => Lexical.signs letters.toList
  | text characters => Lexical.signs characters.toList

end Lexeme

/-- The lexemes are written as this text after the character before it. -/
inductive RendersFrom : Option Char → List Lexeme → List Char → Prop where
  | done {previous : Option Char} {gap : List Char}
      (blank : ∀ char ∈ gap, isBlank char = true) :
      RendersFrom previous [] gap
  | next {previous : Option Char} {lexeme : Lexeme} {lexemes : List Lexeme}
      {gap spelled rest : List Char}
      (blank : ∀ char ∈ gap, isBlank char = true)
      (spells : lexeme.Spells spelled)
      (apart : gap = [] → previous.any isNameChar = true →
        spelled.head?.any isNameChar = false)
      (others : RendersFrom (lastOf previous (gap ++ spelled)) lexemes rest) :
      RendersFrom previous (lexeme :: lexemes) (gap ++ (spelled ++ rest))

/-- The lexemes are written as this text. -/
def Renders (lexemes : List Lexeme) (text : List Char) : Prop :=
  RendersFrom none lexemes text

/-! ## One way to write them -/

/-- The characters of the lexeme. -/
def Lexeme.characters : Lexeme → List Char
  | keyword letters => letters.toList
  | text characters => characters.toList

/-- Each lexeme after a blank. -/
def spaced (lexemes : List Lexeme) : List Char :=
  lexemes.flatMap fun lexeme => ' ' :: lexeme.characters

/-- Every list of lexemes can be written. -/
theorem renders_spaced (lexemes : List Lexeme) :
    Renders lexemes (spaced lexemes) := by
  have renders : ∀ previous, RendersFrom previous lexemes (spaced lexemes) := by
    induction lexemes with
    | nil => exact fun previous => .done nofun
    | cons lexeme lexemes ih =>
        intro previous
        have spells : lexeme.Spells lexeme.characters := by
          cases lexeme with
          | keyword letters => rfl
          | text characters => rfl
        have blank : ∀ char ∈ [' '], isBlank char = true := by decide
        exact .next blank spells nofun (ih _)
  exact renders none

/-! ## Signs of written lexemes -/

theorem Lexeme.signs_of_spells {lexeme : Lexeme} {text : List Char}
    (spells : lexeme.Spells text) : Lexical.signs text = lexeme.signs := by
  cases lexeme with
  | keyword letters =>
      have same : text.map Char.toLower = letters.toList.map Char.toLower :=
        spells
      rw [← signs_map_toLower text, same, signs_map_toLower, Lexeme.signs]
  | text characters =>
      have same : text = characters.toList := spells
      rw [same, Lexeme.signs]

theorem isSpace_of_isBlank {char : Char} (blank : isBlank char = true) :
    isSpace char = true := by
  have listed := List.contains_iff_mem.mp blank
  have space : ∀ code ∈ [9, 10, 11, 12, 13, 32],
      isSpace (Char.ofNat code) = true := by decide
  rw [← Char.ofNat_toNat char]
  exact space _ listed

theorem isNameChar_of_isWordChar {char : Char}
    (isWord : isWordChar char = true) : isNameChar char = true := by
  rw [isNameChar, isWord]
  rfl

theorem any_isNameChar_of_isWordAt {char : Option Char}
    (isWord : isWordAt char = true) : char.any isNameChar = true := by
  cases char with
  | none => cases isWord
  | some char => exact isNameChar_of_isWordChar isWord

section Renders

variable {previous : Option Char} {lexemes : List Lexeme} {text : List Char}

/-- A text that follows a name does not go on with it. -/
theorem RendersFrom.apart (renders : RendersFrom previous lexemes text)
    (name : previous.any isNameChar = true) : isWordAt text.head? = false := by
  have blankHead : ∀ {gap : List Char}, gap ≠ [] →
      (∀ char ∈ gap, isBlank char = true) → ∀ rest : List Char,
        isWordAt (gap ++ rest).head? = false := by
    intro gap nonempty blank rest
    cases gap with
    | nil => exact absurd rfl nonempty
    | cons char gap =>
        exact isWordChar_false_of_isSpace
          (isSpace_of_isBlank (blank char List.mem_cons_self))
  induction renders with
  | @done previous gap blank =>
      cases gap with
      | nil => rfl
      | cons char gap =>
          exact List.append_nil (char :: gap) ▸
            blankHead (List.cons_ne_nil char gap) blank []
  | @next previous lexeme lexemes gap spelled rest blank spells apart others
      ih =>
      cases gap with
      | cons char gap => exact blankHead (List.cons_ne_nil char gap) blank _
      | nil =>
          cases spelled with
          | nil => exact ih name
          | cons char spelled =>
              have noName : isNameChar char = false := apart rfl name
              by_contra isWord
              rw [Bool.not_eq_false] at isWord
              cases noName.symm.trans (isNameChar_of_isWordChar isWord)

/-- The signs of written lexemes are the signs of the lexemes. -/
theorem RendersFrom.signs (renders : RendersFrom previous lexemes text) :
    signs text = lexemes.flatMap Lexeme.signs := by
  induction renders with
  | @done previous gap blank =>
      rw [← List.append_nil gap, signs_spaces fun char among =>
        isSpace_of_isBlank (blank char among)]
      rfl
  | @next previous lexeme lexemes gap spelled rest blank spells apart others
      ih =>
      rw [signs_spaces fun char among => isSpace_of_isBlank (blank char among),
        signs_append, Lexeme.signs_of_spells spells, ih, List.flatMap_cons]
      cases ends : isWordAt (lastOf none spelled) with
      | false => exact .inl rfl
      | true =>
          refine .inr (others.apart ?_)
          rw [lastOf_append]
          cases spelled with
          | nil => cases ends
          | cons char spelled =>
              exact any_isNameChar_of_isWordAt ends

theorem Renders.signs (renders : Renders lexemes text) :
    Lexical.signs text = lexemes.flatMap Lexeme.signs :=
  RendersFrom.signs renders

end Renders

end PaymentPortal.Lexical
