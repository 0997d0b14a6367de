import Mathlib.Data.List.Basic

/-!
# Regular expressions

Regular expressions without groups that capture, as the language runs them: a
match is looked for from left to right, alternatives and repetitions are tried
in order, and the first way to match counts.  `Spans` says what an expression
matches, between the character before and the text after it.
-/

namespace PaymentPortal.Lexical

/-! ## Characters -/

/-- A text is checked character by character. -/
instance decidableForallMemText (text : List Char) (test : Char → Prop)
    [DecidablePred test] : Decidable (∀ char ∈ text, test char) :=
  List.decidableBAll test text

/-- `\w`. -/
def isWordChar (char : Char) : Bool :=
  char.isAlphanum || char == '_'

/-- `\s`: white space and line terminators. -/
def isSpace (char : Char) : Bool :=
  [9, 10, 11, 12, 13, 32, 160, 5760, 8192, 8193, 8194, 8195, 8196, 8197, 8198,
    8199, 8200, 8201, 8202, 8232, 8233, 8239, 8287, 12288, 65279].contains
      char.toNat

/-- The character stands for the letter in any case; only ASCII is folded. -/
def sameLetter (letter char : Char) : Bool :=
  char.toLower == letter.toLower

/--
What holds of a text as soon as it holds of all that comes after its first
character.
-/
theorem suffix_induction {motive : List Char → Prop} (nil : motive [])
    (cons : ∀ char text, (∀ rest, rest <:+ text → motive rest) →
      motive (char :: text)) (text : List Char) : motive text := by
  suffices all : ∀ rest, rest <:+ text → motive rest from
    all text List.suffix_rfl
  induction text with
  | nil =>
      intro rest suffix
      rw [List.suffix_nil.mp suffix]
      exact nil
  | cons char text ih =>
      intro rest suffix
      rcases List.suffix_cons_iff.mp suffix with rfl | later
      · exact cons char text ih
      · exact ih rest later

/-- What comes after a part of a text comes after its first character. -/
theorem suffix_of_cons_eq {char : Char} {text run rest : List Char}
    (parts : char :: text = run ++ rest) (nonempty : run ≠ []) :
    rest <:+ text := by
  obtain ⟨head, run, rfl⟩ := List.exists_cons_of_ne_nil nonempty
  exact ⟨run, (List.cons.inj parts).2.symm⟩

/-! ## Expressions -/

/-- A regular expression. -/
inductive Regex where
  | empty
  | one (test : Char → Bool)
  | many (test : Char → Bool)
  | boundary
  | ahead (inner : Regex)
  | seq (first second : Regex)
  | alt (first second : Regex)

/-- A place in a text: the character before it and what comes after it. -/
structure Cursor where
  previous : Option Char
  rest : List Char

/-- A place next to a word character. -/
def isWordAt (char : Option Char) : Bool :=
  char.any isWordChar

/-- Where a repetition may end, the longest one first. -/
def repetitions (test : Char → Bool) : Option Char → List Char → List Cursor
  | previous, [] => [⟨previous, []⟩]
  | previous, char :: rest =>
    if test char then repetitions test (some char) rest ++
      [⟨previous, char :: rest⟩]
    else [⟨previous, char :: rest⟩]

namespace Regex

/-- Where a match may end, in the order in which the ends are tried. -/
def ends : Regex → Cursor → List Cursor
  | empty, cursor => [cursor]
  | one test, cursor =>
    match cursor.rest with
    | [] => []
    | char :: rest => if test char then [⟨some char, rest⟩] else []
  | many test, cursor => repetitions test cursor.previous cursor.rest
  | boundary, cursor =>
    if isWordAt cursor.previous != isWordAt cursor.rest.head? then [cursor]
    else []
  | ahead inner, cursor =>
    if (inner.ends cursor).isEmpty then [] else [cursor]
  | seq first second, cursor => (first.ends cursor).flatMap second.ends
  | alt first second, cursor => first.ends cursor ++ second.ends cursor

/-- `regex.test(text)`, from a place on. -/
def testFrom (regex : Regex) : Option Char → List Char → Bool
  | previous, [] => !(regex.ends ⟨previous, []⟩).isEmpty
  | previous, char :: rest =>
    !(regex.ends ⟨previous, char :: rest⟩).isEmpty ||
      testFrom regex (some char) rest

/-- `regex.test(text)`. -/
def test (regex : Regex) (text : List Char) : Bool :=
  regex.testFrom none text

/--
`text.split(regex)` from a place on, for an expression that matches no empty
text; `skip` characters still belong to the separator that was found last.
-/
def splitFrom (regex : Regex) :
    Nat → Option Char → List Char → List (List Char)
  | _, _, [] => [[]]
  | skip + 1, _, char :: rest => splitFrom regex skip (some char) rest
  | 0, previous, char :: rest =>
    match (regex.ends ⟨previous, char :: rest⟩).head? with
    | none => (splitFrom regex 0 (some char) rest).modifyHead (char :: ·)
    | some cursor =>
      [] :: splitFrom regex (rest.length - cursor.rest.length) (some char) rest

/-- `text.split(regex)`. -/
def split (regex : Regex) (text : List Char) : List (List Char) :=
  regex.splitFrom 0 none text

/-- `text.replace(regex, replacement)` with the flag `g`. -/
def replaceAll (regex : Regex) (replacement text : List Char) : List Char :=
  replacement.intercalate (regex.split text)

/-- A keyword, in any letter case. -/
def keyword : List Char → Regex
  | [] => empty
  | letter :: letters => seq (one (sameLetter letter)) (keyword letters)

/-- `\s+`. -/
def spaces : Regex :=
  seq (one isSpace) (many isSpace)

end Regex

/-- `text.trim()`. -/
def trim (text : List Char) : List Char :=
  ((text.dropWhile isSpace).reverse.dropWhile isSpace).reverse

/-! ## What an expression matches -/

/-- The last character of a text, or the one before it. -/
def lastOf : Option Char → List Char → Option Char
  | previous, [] => previous
  | _, char :: text => lastOf (some char) text

@[simp]
theorem lastOf_nil (previous : Option Char) : lastOf previous [] = previous :=
  rfl

@[simp]
theorem lastOf_cons (previous : Option Char) (char : Char) (text : List Char) :
    lastOf previous (char :: text) = lastOf (some char) text :=
  rfl

@[simp]
theorem lastOf_append (previous : Option Char) (first second : List Char) :
    lastOf previous (first ++ second) =
      lastOf (lastOf previous first) second := by
  induction first generalizing previous with
  | nil => rfl
  | cons char first ih => exact ih (some char)

theorem mem_repetitions {test : Char → Bool} {previous : Option Char}
    {text : List Char} {cursor : Cursor} :
    cursor ∈ repetitions test previous text ↔
      ∃ run after, text = run ++ after ∧ (∀ char ∈ run, test char = true) ∧
        cursor = ⟨lastOf previous run, after⟩ := by
  induction text generalizing previous with
  | nil =>
      rw [repetitions, List.mem_singleton]
      constructor
      · rintro rfl
        exact ⟨[], [], rfl, by simp, rfl⟩
      · rintro ⟨run, after, split, -, rfl⟩
        obtain ⟨rfl, rfl⟩ := List.append_eq_nil_iff.mp split.symm
        rfl
  | cons char text ih =>
      have stop : (⟨previous, char :: text⟩ : Cursor) =
          ⟨lastOf previous [], char :: text⟩ := rfl
      rw [repetitions]
      split
      · next passes =>
        rw [List.mem_append, ih, List.mem_singleton]
        constructor
        · rintro (⟨run, after, rfl, all, rfl⟩ | rfl)
          · exact ⟨char :: run, after, rfl,
              List.forall_mem_cons.mpr ⟨passes, all⟩, rfl⟩
          · exact ⟨[], char :: text, rfl, by simp, stop⟩
        · rintro ⟨run, after, parts, all, rfl⟩
          cases run with
          | nil => exact .inr (by rw [stop, ← List.nil_append after, parts])
          | cons head run =>
              obtain ⟨rfl, rfl⟩ := List.cons.inj parts
              exact .inl ⟨run, after, rfl,
                fun other among => all other (List.mem_cons_of_mem _ among),
                rfl⟩
      · next fails =>
        rw [List.mem_singleton]
        constructor
        · rintro rfl
          exact ⟨[], char :: text, rfl, by simp, stop⟩
        · rintro ⟨run, after, parts, all, rfl⟩
          cases run with
          | nil => rw [stop, ← List.nil_append after, parts]
          | cons head run =>
              obtain ⟨rfl, rfl⟩ := List.cons.inj parts
              exact absurd (all char List.mem_cons_self) fails

namespace Regex

section Ends

variable {test : Char → Bool} {previous : Option Char} {cursor : Cursor}
variable {first second : Regex}

@[simp]
theorem ends_empty : empty.ends cursor = [cursor] :=
  rfl

@[simp]
theorem ends_one_cons {char : Char} {rest : List Char} :
    (one test).ends ⟨previous, char :: rest⟩ =
      if test char then [⟨some char, rest⟩] else [] :=
  rfl

@[simp]
theorem ends_many :
    (many test).ends cursor = repetitions test cursor.previous cursor.rest :=
  rfl

theorem ends_boundary :
    boundary.ends cursor =
      if isWordAt cursor.previous != isWordAt cursor.rest.head? then [cursor]
      else [] :=
  rfl

theorem ends_ahead :
    (ahead first).ends cursor =
      if (first.ends cursor).isEmpty then [] else [cursor] :=
  rfl

@[simp]
theorem ends_seq :
    (seq first second).ends cursor =
      (first.ends cursor).flatMap second.ends :=
  rfl

end Ends

/-- A match ends after some part of the text. -/
theorem exists_of_mem_ends {regex : Regex} {cursor finish : Cursor}
    (found : finish ∈ regex.ends cursor) :
    ∃ run, cursor.rest = run ++ finish.rest ∧
      finish.previous = lastOf cursor.previous run := by
  induction regex generalizing cursor finish with
  | empty =>
      obtain rfl := List.mem_singleton.mp found
      exact ⟨[], rfl, rfl⟩
  | one test =>
      obtain ⟨previous, text⟩ := cursor
      cases text with
      | nil => cases found
      | cons char rest =>
          rw [ends_one_cons] at found
          split at found
          · obtain rfl := List.mem_singleton.mp found
            exact ⟨[char], rfl, rfl⟩
          · cases found
  | many test =>
      obtain ⟨run, after, same, -, rfl⟩ := mem_repetitions.mp found
      exact ⟨run, same, rfl⟩
  | boundary =>
      rw [ends_boundary] at found
      split at found
      · obtain rfl := List.mem_singleton.mp found
        exact ⟨[], rfl, rfl⟩
      · cases found
  | ahead inner _ =>
      rw [ends_ahead] at found
      split at found
      · cases found
      · obtain rfl := List.mem_singleton.mp found
        exact ⟨[], rfl, rfl⟩
  | seq first second ihFirst ihSecond =>
      obtain ⟨middle, toMiddle, toFinish⟩ := List.mem_flatMap.mp found
      obtain ⟨before, before_eq, middle_eq⟩ := ihFirst toMiddle
      obtain ⟨after, after_eq, finish_eq⟩ := ihSecond toFinish
      refine ⟨before ++ after, ?_, ?_⟩
      · rw [before_eq, after_eq, List.append_assoc]
      · rw [finish_eq, middle_eq, lastOf_append]
  | alt first second ihFirst ihSecond =>
      rcases List.mem_append.mp found with left | right
      · exact ihFirst left
      · exact ihSecond right

/-- The expression matches the text where this is what surrounds it. -/
def Spans (regex : Regex) (previous : Option Char) (text after : List Char) :
    Prop :=
  ⟨lastOf previous text, after⟩ ∈ regex.ends ⟨previous, text ++ after⟩

/-- The ends of matches are where the matched texts end. -/
theorem mem_ends_iff {regex : Regex} {previous : Option Char}
    {text : List Char} {finish : Cursor} :
    finish ∈ regex.ends ⟨previous, text⟩ ↔
      ∃ run after, text = run ++ after ∧ finish = ⟨lastOf previous run, after⟩ ∧
        regex.Spans previous run after := by
  constructor
  · intro found
    obtain ⟨run, parts, last⟩ := exists_of_mem_ends found
    obtain ⟨before, after⟩ := finish
    simp only at parts last
    subst parts last
    exact ⟨run, after, rfl, rfl, found⟩
  · rintro ⟨run, after, rfl, rfl, spans⟩
    exact spans

section Spans

variable {previous : Option Char} {text after : List Char}

@[simp]
theorem spans_empty : Spans empty previous text after ↔ text = [] := by
  rw [Spans, ends_empty, List.mem_singleton]
  constructor
  · intro same
    have rest : after = text ++ after := congrArg Cursor.rest same
    exact List.append_left_eq_self.mp rest.symm
  · rintro rfl
    rfl

@[simp]
theorem spans_one {test : Char → Bool} :
    Spans (one test) previous text after ↔
      ∃ char, text = [char] ∧ test char = true := by
  cases text with
  | nil =>
      constructor
      · intro found
        rw [Spans, List.nil_append] at found
        cases after with
        | nil => cases found
        | cons char others =>
            rw [ends_one_cons] at found
            split at found
            · have shorter : char :: others = others :=
                congrArg Cursor.rest (List.mem_singleton.mp found)
              exact absurd shorter (List.cons_ne_self char others)
            · cases found
      · rintro ⟨char, same, -⟩
        cases same
  | cons char text =>
      rw [Spans, List.cons_append, ends_one_cons, lastOf_cons]
      split
      · next passes =>
        rw [List.mem_singleton]
        constructor
        · intro same
          have rest : after = text ++ after := congrArg Cursor.rest same
          obtain rfl := List.append_left_eq_self.mp rest.symm
          exact ⟨char, rfl, passes⟩
        · rintro ⟨other, same, -⟩
          obtain ⟨rfl, rfl⟩ := List.cons.inj same
          rfl
      · next fails =>
        constructor
        · exact nofun
        · rintro ⟨other, same, passes⟩
          obtain ⟨rfl, -⟩ := List.cons.inj same
          exact absurd passes fails

@[simp]
theorem spans_many {test : Char → Bool} :
    Spans (many test) previous text after ↔
      ∀ char ∈ text, test char = true := by
  rw [Spans, ends_many, mem_repetitions]
  constructor
  · rintro ⟨run, rest, parts, all, same⟩
    obtain rfl : after = rest := congrArg Cursor.rest same
    rw [List.append_cancel_right parts]
    exact all
  · exact fun all => ⟨text, after, rfl, all, rfl⟩

@[simp]
theorem spans_boundary :
    Spans boundary previous text after ↔
      text = [] ∧ isWordAt previous ≠ isWordAt after.head? := by
  rw [Spans, ends_boundary]
  split
  · next differs =>
    rw [List.mem_singleton]
    constructor
    · intro same
      have rest : after = text ++ after := congrArg Cursor.rest same
      obtain rfl := List.append_left_eq_self.mp rest.symm
      exact ⟨rfl, by simpa using differs⟩
    · rintro ⟨rfl, -⟩
      rfl
  · next same =>
    constructor
    · exact nofun
    · rintro ⟨rfl, differs⟩
      exact absurd (by simpa using differs) same

theorem spans_ahead {inner : Regex} :
    Spans (ahead inner) previous text after ↔
      text = [] ∧ ∃ run rest, after = run ++ rest ∧
        Spans inner previous run rest := by
  rw [Spans, ends_ahead]
  split
  · next nothing =>
    constructor
    · exact nofun
    · rintro ⟨rfl, run, rest, rfl, spans⟩
      rw [List.isEmpty_iff, List.nil_append] at nothing
      rw [Spans, nothing] at spans
      cases spans
  · next something =>
    rw [List.mem_singleton]
    constructor
    · intro same
      have rest : after = text ++ after := congrArg Cursor.rest same
      obtain rfl := List.append_left_eq_self.mp rest.symm
      rw [List.isEmpty_iff] at something
      obtain ⟨finish, found⟩ := List.exists_mem_of_ne_nil _ something
      obtain ⟨run, others, parts, -, spans⟩ := mem_ends_iff.mp found
      exact ⟨rfl, run, others, parts, spans⟩
    · rintro ⟨rfl, -⟩
      rfl

theorem spans_seq {first second : Regex} :
    Spans (seq first second) previous text after ↔
      ∃ left right, text = left ++ right ∧
        Spans first previous left (right ++ after) ∧
          Spans second (lastOf previous left) right after := by
  rw [Spans, ends_seq, List.mem_flatMap]
  constructor
  · rintro ⟨middle, toMiddle, toEnd⟩
    obtain ⟨left, others, parts, rfl, spansLeft⟩ := mem_ends_iff.mp toMiddle
    obtain ⟨right, rest, otherParts, same, spansRight⟩ :=
      mem_ends_iff.mp toEnd
    obtain rfl : after = rest := congrArg Cursor.rest same
    subst otherParts
    rw [← List.append_assoc] at parts
    exact ⟨left, right, List.append_cancel_right parts, spansLeft, spansRight⟩
  · rintro ⟨left, right, rfl, spansLeft, spansRight⟩
    refine ⟨⟨lastOf previous left, right ++ after⟩, ?_, ?_⟩
    · rw [List.append_assoc]
      exact spansLeft
    · rw [lastOf_append]
      exact spansRight

theorem spans_alt {first second : Regex} :
    Spans (alt first second) previous text after ↔
      Spans first previous text after ∨ Spans second previous text after :=
  List.mem_append

end Spans

/-- `test` finds a match anywhere. -/
theorem testFrom_iff {regex : Regex} {previous : Option Char}
    {text : List Char} :
    regex.testFrom previous text = true ↔
      ∃ before run after, text = before ++ (run ++ after) ∧
        regex.Spans (lastOf previous before) run after := by
  have here : ∀ {text : List Char} {previous : Option Char},
      (!(regex.ends ⟨previous, text⟩).isEmpty) = true ↔
        ∃ run after, text = run ++ after ∧ regex.Spans previous run after := by
    intro text previous
    rw [Bool.not_eq_true', ← Bool.not_eq_true, List.isEmpty_iff]
    constructor
    · intro something
      obtain ⟨finish, found⟩ := List.exists_mem_of_ne_nil _ something
      obtain ⟨run, after, parts, -, spans⟩ := mem_ends_iff.mp found
      exact ⟨run, after, parts, spans⟩
    · rintro ⟨run, after, rfl, spans⟩ nothing
      rw [Spans, nothing] at spans
      cases spans
  induction text generalizing previous with
  | nil =>
      rw [testFrom, here]
      constructor
      · rintro ⟨run, after, parts, spans⟩
        exact ⟨[], run, after, parts, spans⟩
      · rintro ⟨before, run, after, parts, spans⟩
        obtain ⟨rfl, rest⟩ := List.append_eq_nil_iff.mp parts.symm
        exact ⟨run, after, rest.symm, spans⟩
  | cons char text ih =>
      rw [testFrom, Bool.or_eq_true]
      refine (or_congr here (@ih (some char))).trans ?_
      constructor
      · rintro (⟨run, after, parts, spans⟩ | ⟨before, run, after, rfl, spans⟩)
        · exact ⟨[], run, after, parts, spans⟩
        · exact ⟨char :: before, run, after, rfl, spans⟩
      · rintro ⟨before, run, after, parts, spans⟩
        cases before with
        | nil => exact .inl ⟨run, after, parts, spans⟩
        | cons head before =>
            obtain ⟨rfl, rfl⟩ := List.cons.inj parts
            exact .inr ⟨before, run, after, rfl, spans⟩

/-- What belongs to a separator goes to no part. -/
theorem splitFrom_skip (regex : Regex) (previous : Option Char)
    (run rest : List Char) :
    regex.splitFrom run.length previous (run ++ rest) =
      regex.splitFrom 0 (lastOf previous run) rest := by
  induction run generalizing previous with
  | nil => rfl
  | cons char run ih => exact ih (some char)

end Regex

end PaymentPortal.Lexical
