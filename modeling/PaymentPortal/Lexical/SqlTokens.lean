import PaymentPortal.Lexical.Quoting
import PaymentPortal.Lexical.Rendering

/-!
# SQL tokens

How the server cuts a statement into tokens: words, identifiers in double
quotes, literals in single quotes and other characters.  Backslashes have no
meaning in a literal (`standard_conforming_strings`).  `lexSql_pieces` says
how a text that is put together from such pieces is read.
-/

namespace PaymentPortal.Lexical

/-- One token of a statement. -/
inductive SqlToken where
  | word (letters : List Char)
  | identifier (name : List Char)
  | literal (text : List Char)
  | symbol (char : Char)
  deriving DecidableEq, Repr

/-- Cut a text into tokens, in at most `fuel` steps. -/
def lexFrom : Nat → List Char → Option (List SqlToken)
  | _, [] => some []
  | 0, _ :: _ => none
  | fuel + 1, char :: rest =>
      if isBlank char then lexFrom fuel rest
      else if char = '"' then
        (readDoubled '"' rest).bind fun read =>
          (lexFrom fuel read.2).map (SqlToken.identifier read.1 :: ·)
      else if char = '\'' then
        (readDoubled '\'' rest).bind fun read =>
          (lexFrom fuel read.2).map (SqlToken.literal read.1 :: ·)
      else if isNameChar char then
        (lexFrom fuel (rest.dropWhile isNameChar)).map
          (SqlToken.word (char :: rest.takeWhile isNameChar) :: ·)
      else (lexFrom fuel rest).map (SqlToken.symbol char :: ·)

/-- The tokens of a text; each step takes a character at least. -/
def lexSql (text : List Char) : Option (List SqlToken) :=
  lexFrom text.length text

/-- Steps that are not needed do no harm. -/
theorem lexFrom_mono {fuel more : Nat} {text : List Char}
    {tokens : List SqlToken} (lexed : lexFrom fuel text = some tokens)
    (le : fuel ≤ more) : lexFrom more text = some tokens := by
  induction fuel generalizing more text tokens with
  | zero =>
      cases text with
      | nil =>
          rw [lexFrom] at lexed
          rw [lexFrom, lexed]
      | cons char rest => exact absurd lexed (by simp [lexFrom])
  | succ fuel ih =>
      cases text with
      | nil =>
          rw [lexFrom] at lexed
          rw [lexFrom, lexed]
      | cons char rest =>
          obtain ⟨more, rfl⟩ : ∃ less, more = less + 1 := ⟨more - 1, by omega⟩
          have fewer : fuel ≤ more := by omega
          have mapped : ∀ {text : List Char} {token : SqlToken}
              {tokens : List SqlToken},
              (lexFrom fuel text).map (token :: ·) = some tokens →
                (lexFrom more text).map (token :: ·) = some tokens := by
            intro text token tokens found
            obtain ⟨others, read, rfl⟩ := Option.map_eq_some_iff.mp found
            rw [ih read fewer, Option.map_some]
          rw [lexFrom] at lexed ⊢
          split at lexed
          · next blank =>
              rw [if_pos blank]
              exact ih lexed fewer
          · next unblank =>
              rw [if_neg unblank]
              split at lexed
              · next opens =>
                  rw [if_pos opens]
                  obtain ⟨read, isRead, found⟩ :=
                    Option.bind_eq_some_iff.mp lexed
                  rw [isRead, Option.bind_some]
                  exact mapped found
              · next unopened =>
                  rw [if_neg unopened]
                  split at lexed
                  · next opens =>
                      rw [if_pos opens]
                      obtain ⟨read, isRead, found⟩ :=
                        Option.bind_eq_some_iff.mp lexed
                      rw [isRead, Option.bind_some]
                      exact mapped found
                  · next unquoted =>
                      rw [if_neg unquoted]
                      split at lexed
                      · next named =>
                          rw [if_pos named]
                          exact mapped lexed
                      · next unnamed =>
                          rw [if_neg unnamed]
                          exact mapped lexed

/-! ## Texts in pieces -/

/-- A piece of a statement as a program writes it. -/
inductive SqlPiece where
  | word (letters : List Char)
  | identifier (name : List Char)
  | literal (text : List Char)
  deriving DecidableEq, Repr

namespace SqlPiece

/-- How the piece is written. -/
def written : SqlPiece → List Char
  | word letters => letters
  | identifier name => quoted '"' name
  | literal text => quoted '\'' text

/-- How the piece is to be read. -/
def token : SqlPiece → SqlToken
  | word letters => .word letters
  | identifier name => .identifier name
  | literal text => .literal text

/-- A word is one: a name without quotes. -/
def WellFormed : SqlPiece → Prop
  | word letters => letters ≠ [] ∧ ∀ char ∈ letters, isNameChar char = true
  | _ => True

instance : (piece : SqlPiece) → Decidable piece.WellFormed
  | word _ => inferInstanceAs (Decidable (_ ∧ _))
  | identifier _ => inferInstanceAs (Decidable True)
  | literal _ => inferInstanceAs (Decidable True)

end SqlPiece

/-- The pieces with one blank between them. -/
def joined : List SqlPiece → List Char
  | [] => []
  | [piece] => piece.written
  | piece :: next :: rest => piece.written ++ ' ' :: joined (next :: rest)

/-- A character of a name neither separates nor quotes. -/
theorem plain_of_isNameChar {char : Char} (named : isNameChar char = true) :
    isBlank char = false ∧ char ≠ '"' ∧ char ≠ '\'' := by
  refine ⟨Bool.eq_false_iff.mpr fun blank => ?_, ?_, ?_⟩
  · have notWord := isWordChar_false_of_isSpace (isSpace_of_isBlank blank)
    have low : char.toNat ≤ 32 := by
      have listed := List.contains_iff_mem.mp blank
      simp only [List.mem_cons, List.not_mem_nil, or_false] at listed
      omega
    simp only [isNameChar, notWord, Bool.false_or, Bool.or_eq_true, beq_iff_eq,
      decide_eq_true_eq] at named
    rcases named with rfl | high
    · exact absurd low (by decide)
    · omega
  · rintro rfl
    exact absurd named (by decide)
  · rintro rfl
    exact absurd named (by decide)

section Pieces

variable {fuel : Nat} {rest : List Char} {tokens : List SqlToken}

/-- What may follow a piece: nothing, or a blank. -/
def Apart (rest : List Char) : Prop :=
  rest.head?.all isBlank = true

theorem Apart.ne {char : Char} (apart : Apart rest)
    (unblank : isBlank char = false) : rest.head? ≠ some char := by
  intro first
  rw [Apart, first] at apart
  exact absurd apart (by simp [unblank])

/-- A word ends where a blank follows it. -/
theorem lexFrom_word {letters : List Char} (apart : Apart rest)
    (wellFormed : (SqlPiece.word letters).WellFormed)
    (lexed : lexFrom fuel rest = some tokens) :
    lexFrom (fuel + 1) (letters ++ rest) =
      some (.word letters :: tokens) := by
  obtain ⟨nonempty, named⟩ := wellFormed
  cases letters with
  | nil => exact absurd rfl nonempty
  | cons char letters =>
      obtain ⟨unblank, unquoted, unticked⟩ :=
        plain_of_isNameChar (named char List.mem_cons_self)
      have others : ∀ other ∈ letters, isNameChar other = true :=
        fun other member => named other (List.mem_cons_of_mem _ member)
      have ends : rest.takeWhile isNameChar = [] ∧
          rest.dropWhile isNameChar = rest := by
        cases rest with
        | nil => exact ⟨rfl, rfl⟩
        | cons next rest =>
            have blank : isBlank next = true := by simpa [Apart] using apart
            have unnamed : ¬ isNameChar next = true := fun isNamed =>
              absurd (plain_of_isNameChar isNamed).1 (by simp [blank])
            exact ⟨List.takeWhile_cons_of_neg unnamed,
              List.dropWhile_cons_of_neg unnamed⟩
      rw [List.cons_append, lexFrom, if_neg (by simp [unblank]),
        if_neg unquoted, if_neg unticked,
        if_pos (named char List.mem_cons_self),
        List.takeWhile_append_of_pos others, List.dropWhile_append_of_pos others,
        ends.1, ends.2, lexed, List.append_nil]
      rfl

/-- A piece with a blank after it is read as its token. -/
theorem lexFrom_piece {piece : SqlPiece} (apart : Apart rest)
    (wellFormed : piece.WellFormed)
    (lexed : lexFrom fuel rest = some tokens) :
    lexFrom (fuel + 1) (piece.written ++ rest) =
      some (piece.token :: tokens) := by
  cases piece with
  | word letters => exact lexFrom_word apart wellFormed lexed
  | identifier name =>
      rw [SqlPiece.written, quoted, List.cons_append, lexFrom,
        if_neg (by decide), if_pos rfl, List.append_assoc,
        List.singleton_append, readDoubled_doubled name (apart.ne (by decide)),
        Option.bind_some, lexed]
      rfl
  | literal text =>
      rw [SqlPiece.written, quoted, List.cons_append, lexFrom,
        if_neg (by decide), if_neg (by decide), if_pos rfl, List.append_assoc,
        List.singleton_append, readDoubled_doubled text (apart.ne (by decide)),
        Option.bind_some, lexed]
      rfl

theorem apart_blank (rest : List Char) : Apart (' ' :: rest) := by
  rw [Apart, List.head?_cons]
  decide

/-- Pieces in a row are read as their tokens. -/
theorem lexFrom_joined {pieces : List SqlPiece}
    (wellFormed : ∀ piece ∈ pieces, piece.WellFormed) :
    lexFrom (2 * pieces.length - 1) (joined pieces) =
      some (pieces.map SqlPiece.token) := by
  induction pieces with
  | nil => rfl
  | cons piece others ih =>
      have here := wellFormed piece List.mem_cons_self
      have later := ih fun other member =>
        wellFormed other (List.mem_cons_of_mem _ member)
      cases others with
      | nil =>
          rw [joined, ← List.append_nil piece.written]
          exact lexFrom_piece rfl here rfl
      | cons next rest =>
          have steps : 2 * (piece :: next :: rest).length - 1 =
              2 * (next :: rest).length - 1 + 1 + 1 := by
            simp only [List.length_cons]
            omega
          rw [steps]
          refine lexFrom_piece (apart_blank _) here ?_
          rw [lexFrom, if_pos (by decide)]
          exact later

theorem length_written {piece : SqlPiece}
    (wellFormed : piece.WellFormed) : 1 ≤ piece.written.length := by
  cases piece with
  | word letters => exact List.length_pos_iff.mpr wellFormed.1
  | identifier name => simp [SqlPiece.written, quoted]
  | literal text => simp [SqlPiece.written, quoted]

/-- Every piece and every blank takes a character. -/
theorem length_joined {pieces : List SqlPiece}
    (wellFormed : ∀ piece ∈ pieces, piece.WellFormed) :
    2 * pieces.length - 1 ≤ (joined pieces).length := by
  induction pieces with
  | nil => simp
  | cons piece others ih =>
      have here := length_written (wellFormed piece List.mem_cons_self)
      have later := ih fun other member =>
        wellFormed other (List.mem_cons_of_mem _ member)
      cases others with
      | nil =>
          rw [joined, List.length_singleton]
          omega
      | cons next rest =>
          rw [joined, List.length_append, List.length_cons]
          simp only [List.length_cons] at *
          omega

/-- A text that is put together from pieces is read as their tokens. -/
theorem lexSql_joined {pieces : List SqlPiece}
    (wellFormed : ∀ piece ∈ pieces, piece.WellFormed) :
    lexSql (joined pieces) = some (pieces.map SqlPiece.token) :=
  lexFrom_mono (lexFrom_joined wellFormed) (length_joined wellFormed)

end Pieces

end PaymentPortal.Lexical
