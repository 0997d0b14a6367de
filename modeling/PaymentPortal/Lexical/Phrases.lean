import PaymentPortal.Lexical.Signs

/-!
# Phrases of keywords

A phrase is an expression for keywords with white space between them, as in
`/\bSET\s+NOT\s+NULL\b/i`.  It is found in a text if and only if the words stand
side by side among the signs of the text, whatever their case is and whatever
white space there is.
-/

namespace PaymentPortal.Lexical

/-- Letters that make a word. -/
structure IsWord (letters : List Char) : Prop where
  nonempty : letters ≠ []
  wordChars : ∀ char ∈ letters, isWordChar char = true

instance (letters : List Char) : Decidable (IsWord letters) :=
  decidable_of_iff (letters ≠ [] ∧ ∀ char ∈ letters, isWordChar char = true)
    ⟨fun ⟨nonempty, wordChars⟩ => ⟨nonempty, wordChars⟩,
      fun isWord => ⟨isWord.nonempty, isWord.wordChars⟩⟩

/-- The sign of a keyword. -/
def keywordSign (letters : List Char) : Sign :=
  .word (letters.map Char.toLower)

namespace Regex

/-- `\s+KEYWORD` for each keyword, and `\b`. -/
def following : List (List Char) → Regex
  | [] => boundary
  | word :: words => seq spaces (seq (keyword word) (following words))

/-- `KEYWORD\s+…\b`. -/
def adjacent (word : List Char) (words : List (List Char)) : Regex :=
  seq (keyword word) (following words)

/-- `\bKEYWORD\s+…\b`. -/
def phrase (word : List Char) (words : List (List Char)) : Regex :=
  seq boundary (adjacent word words)

section Spans

variable {previous : Option Char} {text after : List Char}

theorem spans_keyword {letters : List Char} :
    Spans (keyword letters) previous text after ↔
      text.map Char.toLower = letters.map Char.toLower := by
  induction letters generalizing previous text with
  | nil => simp [keyword]
  | cons letter letters ih =>
      simp only [keyword, spans_seq, spans_one, ih, sameLetter, beq_iff_eq]
      constructor
      · rintro ⟨left, right, rfl, ⟨char, rfl, same⟩, rest⟩
        simp [same, rest]
      · intro same
        cases text with
        | nil => cases same
        | cons char text =>
            obtain ⟨head, tail⟩ := List.cons.inj same
            exact ⟨[char], text, rfl, ⟨char, rfl, head⟩, tail⟩

theorem spans_spaces :
    Spans spaces previous text after ↔
      text ≠ [] ∧ ∀ char ∈ text, isSpace char = true := by
  simp only [spaces, spans_seq, spans_one, spans_many]
  constructor
  · rintro ⟨left, right, rfl, ⟨char, rfl, space⟩, rest⟩
    exact ⟨List.cons_ne_nil _ _, List.forall_mem_cons.mpr ⟨space, rest⟩⟩
  · rintro ⟨nonempty, all⟩
    cases text with
    | nil => exact absurd rfl nonempty
    | cons char text =>
        obtain ⟨space, rest⟩ := List.forall_mem_cons.mp all
        exact ⟨[char], text, rfl, ⟨char, rfl, space⟩, rest⟩

end Spans

end Regex

/-! ## Keywords as words -/

/-- A word in another case is a word. -/
theorem IsWord.of_toLower_eq {letters text : List Char}
    (isWord : IsWord letters)
    (same : text.map Char.toLower = letters.map Char.toLower) :
    IsWord text where
  nonempty := by
    rintro rfl
    exact isWord.nonempty (List.map_eq_nil_iff.mp same.symm)
  wordChars := by
    intro char among
    have lowered : char.toLower ∈ letters.map Char.toLower :=
      same ▸ List.mem_map_of_mem among
    obtain ⟨letter, inLetters, letter_eq⟩ := List.mem_map.mp lowered
    rw [← isWordChar_toLower, ← letter_eq, isWordChar_toLower]
    exact isWord.wordChars letter inLetters

theorem IsWord.head {letters : List Char} (isWord : IsWord letters)
    (rest : List Char) : isWordAt (letters ++ rest).head? = true := by
  cases letters with
  | nil => exact absurd rfl isWord.nonempty
  | cons letter letters => exact isWord.wordChars letter List.mem_cons_self

theorem IsWord.last {letters : List Char} (isWord : IsWord letters)
    (previous : Option Char) : isWordAt (lastOf previous letters) = true := by
  obtain ⟨nonempty, wordChars⟩ := isWord
  induction letters generalizing previous with
  | nil => exact absurd rfl nonempty
  | cons letter letters ih =>
      cases letters with
      | nil => exact wordChars letter List.mem_cons_self
      | cons next letters =>
          exact ih (some letter) (List.cons_ne_nil _ _) fun char among =>
            wordChars char (List.mem_cons_of_mem _ among)

/-! ## Phrases and signs -/

/-- Where a text begins with a phrase, its signs begin with its words. -/
theorem signs_of_adjacent {word : List Char} {words : List (List Char)}
    (isWord : IsWord word) (areWords : ∀ other ∈ words, IsWord other)
    {previous : Option Char} {run after : List Char}
    (spans : Regex.Spans (.adjacent word words) previous run after) :
    isWordAt (run ++ after).head? = true ∧
      (word :: words).map keywordSign <+: signs (run ++ after) := by
  induction words generalizing word previous run with
  | nil =>
      rw [Regex.adjacent, Regex.spans_seq] at spans
      obtain ⟨left, right, rfl, isKeyword, ends⟩ := spans
      obtain ⟨rfl, differs⟩ := Regex.spans_boundary.mp ends
      have same := Regex.spans_keyword.mp isKeyword
      have own := isWord.of_toLower_eq same
      rw [own.last] at differs
      rw [List.append_nil]
      refine ⟨own.head after, ?_⟩
      rw [signs_word own.nonempty own.wordChars
        ((Bool.eq_false_or_eq_true _).resolve_left differs.symm), same]
      exact ⟨signs after, rfl⟩
  | cons next words ih =>
      rw [Regex.adjacent, Regex.spans_seq] at spans
      obtain ⟨left, right, rfl, isKeyword, rest⟩ := spans
      rw [Regex.following, Regex.spans_seq] at rest
      obtain ⟨gap, right, rfl, isGap, later⟩ := rest
      obtain ⟨nonempty, spaces⟩ := Regex.spans_spaces.mp isGap
      have same := Regex.spans_keyword.mp isKeyword
      have own := isWord.of_toLower_eq same
      obtain ⟨-, others⟩ := ih (areWords next List.mem_cons_self)
        (fun other among => areWords other (List.mem_cons_of_mem _ among)) later
      have ends : isWordAt (gap ++ (right ++ after)).head? = false := by
        cases gap with
        | nil => exact absurd rfl nonempty
        | cons char gap =>
            exact isWordChar_false_of_isSpace (spaces char List.mem_cons_self)
      rw [List.append_assoc, List.append_assoc]
      refine ⟨own.head _, ?_⟩
      rw [signs_word own.nonempty own.wordChars ends, signs_spaces spaces, same,
        List.map_cons]
      exact (List.prefix_cons_inj _).mpr others

/-- Where the signs begin with a word, so does the text. -/
theorem begins_of_signs {text : List Char} {letters : List Char}
    {rest : List Sign} (noSpace : leadsWithSpace text = false)
    (found : signs text = .word letters :: rest) :
    isWordAt text.head? = true := by
  cases text with
  | nil => cases found
  | cons char text =>
      by_contra notWord
      rw [Bool.not_eq_true] at notWord
      rw [signs_mark notWord noSpace] at found
      cases found

/-- Where the signs begin with the words of a phrase, so does the text. -/
theorem adjacent_of_signs {word : List Char} {words : List (List Char)}
    {text : List Char} (noSpace : leadsWithSpace text = false)
    (begins : (word :: words).map keywordSign <+: signs text)
    (previous : Option Char) :
    ∃ run after, text = run ++ after ∧
      Regex.Spans (.adjacent word words) previous run after := by
  induction words generalizing word previous text with
  | nil =>
      obtain ⟨others, signs_eq⟩ := begins
      obtain ⟨run, rest, rfl, nonempty, letters, ends⟩ :=
        exists_run (begins_of_signs noSpace signs_eq.symm)
      rw [signs_word nonempty letters ends] at signs_eq
      have same := Sign.word.inj (List.cons.inj signs_eq).1
      refine ⟨run, rest, rfl, ?_⟩
      rw [Regex.adjacent, Regex.spans_seq]
      refine ⟨run, [], (List.append_nil run).symm,
        Regex.spans_keyword.mpr same.symm, ?_⟩
      refine Regex.spans_boundary.mpr ⟨rfl, ?_⟩
      rw [(IsWord.mk nonempty letters).last, ends]
      exact Bool.noConfusion
  | cons next words ih =>
      obtain ⟨others, signs_eq⟩ := begins
      obtain ⟨run, rest, rfl, nonempty, letters, ends⟩ :=
        exists_run (begins_of_signs noSpace signs_eq.symm)
      rw [signs_word nonempty letters ends] at signs_eq
      obtain ⟨same, rest_eq⟩ := List.cons.inj signs_eq
      obtain ⟨gap, text, rfl, spaces, noSpaceLater⟩ := exists_spaces rest
      rw [signs_spaces spaces] at rest_eq
      have nonempty : gap ≠ [] := by
        rintro rfl
        rw [List.nil_append,
          begins_of_signs noSpaceLater rest_eq.symm] at ends
        cases ends
      obtain ⟨laterRun, after, rfl, spans⟩ := ih noSpaceLater
        ⟨others, rest_eq⟩ (lastOf (lastOf previous run) gap)
      refine ⟨run ++ (gap ++ laterRun), after, ?_, ?_⟩
      · rw [List.append_assoc, List.append_assoc]
      · rw [Regex.adjacent, Regex.spans_seq]
        refine ⟨run, gap ++ laterRun, rfl,
          Regex.spans_keyword.mpr (Sign.word.inj same).symm, ?_⟩
        rw [Regex.following, Regex.spans_seq]
        exact ⟨gap, laterRun, rfl,
          Regex.spans_spaces.mpr ⟨nonempty, spaces⟩, spans⟩

/-- What ends a text does not depend on what stands before it. -/
theorem isWordAt_lastOf {text : List Char} {first second : Option Char}
    (same : isWordAt first = isWordAt second) :
    isWordAt (lastOf first text) = isWordAt (lastOf second text) := by
  cases text with
  | nil => exact same
  | cons char text => rfl

/-- A word among the signs of a text is found where a word begins. -/
theorem exists_split_of_signs {text : List Char} {before rest : List Sign}
    {letters : List Char} (found : signs text = before ++ .word letters :: rest) :
    ∃ first second, text = first ++ second ∧
      isWordAt (lastOf none first) = false ∧
        isWordAt second.head? = true ∧ signs second = .word letters :: rest := by
  induction text using suffix_induction generalizing before with
  | nil => exact absurd found (by simp [signs])
  | cons char text ih =>
      by_cases isWord : isWordChar char = true
      · have begins : isWordAt (char :: text).head? = true := isWord
        obtain ⟨run, others, parts, nonempty, areLetters, ends⟩ :=
          exists_run begins
        cases before with
        | nil => exact ⟨[], char :: text, rfl, rfl, isWord, found⟩
        | cons sign before =>
            rw [parts, signs_word nonempty areLetters ends] at found
            obtain ⟨first, second, rfl, apart, begins, signs_eq⟩ :=
              ih others (suffix_of_cons_eq parts nonempty)
                (List.cons.inj found).2
            refine ⟨run ++ first, second, ?_, ?_, begins, signs_eq⟩
            · rw [parts, List.append_assoc]
            · cases first with
              | nil => cases begins.symm.trans ends
              | cons head first => rw [lastOf_append]; exact apart
      · rw [Bool.not_eq_true] at isWord
        -- Neither white space nor a mark is the word that is looked for.
        have later : ∃ before, signs text = before ++ .word letters :: rest := by
          by_cases space : isSpace char = true
          · exact ⟨before, signs_space space text ▸ found⟩
          · rw [signs_mark isWord (Bool.eq_false_iff.mpr space)] at found
            cases before with
            | nil => cases found
            | cons sign before => exact ⟨before, (List.cons.inj found).2⟩
        obtain ⟨before, found⟩ := later
        obtain ⟨first, second, rfl, apart, begins, signs_eq⟩ :=
          ih text List.suffix_rfl found
        refine ⟨char :: first, second, rfl, ?_, begins, signs_eq⟩
        have noWord : isWordAt (some char) = isWordAt none := isWord
        rw [lastOf_cons, isWordAt_lastOf noWord]
        exact apart

/-- A phrase is found where its words stand side by side among the signs. -/
theorem test_phrase {word : List Char} {words : List (List Char)}
    (isWord : IsWord word) (areWords : ∀ other ∈ words, IsWord other)
    (text : List Char) :
    (Regex.phrase word words).test text = true ↔
      (word :: words).map keywordSign <:+: signs text := by
  rw [Regex.test, Regex.testFrom_iff]
  constructor
  · rintro ⟨before, run, after, rfl, spans⟩
    rw [Regex.phrase, Regex.spans_seq] at spans
    obtain ⟨left, right, rfl, starts, spans⟩ := spans
    obtain ⟨rfl, differs⟩ := Regex.spans_boundary.mp starts
    obtain ⟨begins, words⟩ := signs_of_adjacent isWord areWords spans
    rw [begins] at differs
    rw [List.nil_append, signs_append before (right ++ after)
      (.inl (Bool.eq_false_iff.mpr differs))]
    exact words.isInfix.trans (List.suffix_append _ _).isInfix
  · rintro ⟨before, rest, signs_eq⟩
    rw [List.append_assoc] at signs_eq
    obtain ⟨first, second, rfl, apart, begins, found⟩ :=
      exists_split_of_signs signs_eq.symm
    obtain ⟨run, after, rfl, spans⟩ := adjacent_of_signs
      (leadsWithSpace_of_begins begins) ⟨rest, found.symm⟩ (lastOf none first)
    refine ⟨first, run, after, rfl, ?_⟩
    rw [Regex.phrase, Regex.spans_seq]
    refine ⟨[], run, rfl, Regex.spans_boundary.mpr ⟨rfl, ?_⟩, spans⟩
    rw [apart, begins]
    exact Bool.noConfusion

end PaymentPortal.Lexical
