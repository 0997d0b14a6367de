import PaymentPortal.Lexical.Phrases

/-!
# Texts split in front of phrases

A text is split at a mark when a phrase follows, as in `/,\s*(?=ADD\s+COLUMN\b)/i`.
The signs of the parts are the stretches into which the same rule splits the
signs of the text.
-/

namespace PaymentPortal.Lexical

/-- The signs up to the next mark that something follows, and so on. -/
def stretches (mark : Char) (follows : List Sign → Bool) :
    List Sign → List (List Sign)
  | [] => [[]]
  | sign :: rest =>
    if sign = .mark mark ∧ follows rest = true then
      [] :: stretches mark follows rest
    else (stretches mark follows rest).modifyHead (sign :: ·)

theorem stretches_split {mark : Char} {follows : List Sign → Bool}
    {rest : List Sign} (next : follows rest = true) :
    stretches mark follows (.mark mark :: rest) =
      [] :: stretches mark follows rest := by
  rw [stretches, if_pos ⟨rfl, next⟩]

theorem stretches_keep {mark : Char} {follows : List Sign → Bool}
    {sign : Sign} {rest : List Sign}
    (keep : ¬(sign = .mark mark ∧ follows rest = true)) :
    stretches mark follows (sign :: rest) =
      (stretches mark follows rest).modifyHead (sign :: ·) := by
  rw [stretches, if_neg keep]

@[simp]
theorem stretches_word {mark : Char} {follows : List Sign → Bool}
    {letters : List Char} {rest : List Sign} :
    stretches mark follows (.word letters :: rest) =
      (stretches mark follows rest).modifyHead (.word letters :: ·) :=
  stretches_keep fun stops => Sign.noConfusion stops.1

theorem stretches_ne_nil {mark : Char} {follows : List Sign → Bool}
    (text : List Sign) : stretches mark follows text ≠ [] := by
  induction text with
  | nil => exact List.cons_ne_nil _ _
  | cons sign text ih =>
      rw [stretches]
      split
      · exact List.cons_ne_nil _ _
      · rwa [ne_eq, List.modifyHead_eq_nil_iff]

/-- A text is split where it is put together with the mark. -/
theorem stretches_append {mark : Char} {follows : List Sign → Bool}
    (stable : ∀ text rest, follows (text ++ .mark mark :: rest) = follows text)
    {first second : List Sign} (next : follows second = true) :
    stretches mark follows (first ++ .mark mark :: second) =
      stretches mark follows first ++ stretches mark follows second := by
  induction first with
  | nil => exact stretches_split next
  | cons sign first ih =>
      rw [List.cons_append, stretches, stretches, stable, ih]
      split
      · rfl
      · cases parts : stretches mark follows first with
        | nil => exact absurd parts (stretches_ne_nil first)
        | cons part parts => rfl

theorem map_modifyHead {α β : Type*} {read : α → β} {change : α → α}
    {changed : β → β} {parts : List α}
    (commutes : ∀ part ∈ parts.head?,
      read (change part) = changed (read part)) :
    (parts.modifyHead change).map read =
      (parts.map read).modifyHead changed := by
  cases parts with
  | nil => rfl
  | cons part parts =>
      rw [List.modifyHead_cons, List.map_cons, commutes part rfl]
      rfl

theorem isWordAt_of_begins {part text : List Char} (begins : part <+: text)
    (ends : isWordAt text.head? = false) : isWordAt part.head? = false := by
  cases part with
  | nil => rfl
  | cons char part =>
      obtain ⟨after, rfl⟩ := begins
      exact ends

/-- An expression that matches where the signs begin in a certain way. -/
def Recognizes (regex : Regex) (begins : List Sign → Bool) : Prop :=
  ∀ previous text,
    (∃ run after, text = run ++ after ∧ regex.Spans previous run after) ↔
      leadsWithSpace text = false ∧ begins (signs text) = true

/-- Whether the signs begin with the words of a phrase. -/
def beginsWith (words : List (List Char)) (text : List Sign) : Bool :=
  (words.map keywordSign).isPrefixOf text

/-- A mark is in no phrase. -/
theorem beginsWith_append_mark (words : List (List Char)) (mark : Char)
    (text rest : List Sign) :
    beginsWith words (text ++ .mark mark :: rest) = beginsWith words text := by
  induction words generalizing text with
  | nil => simp [beginsWith]
  | cons word words ih =>
      cases text with
      | nil => rfl
      | cons sign text =>
          simp only [beginsWith, List.map_cons, List.cons_append,
            List.isPrefixOf_cons_cons]
          exact congrArg _ (ih text)

theorem recognizes_adjacent {word : List Char} {words : List (List Char)}
    (isWord : IsWord word) (areWords : ∀ other ∈ words, IsWord other) :
    Recognizes (.adjacent word words) (beginsWith (word :: words)) := by
  intro previous text
  rw [beginsWith, List.isPrefixOf_iff_prefix]
  constructor
  · rintro ⟨run, after, rfl, spans⟩
    obtain ⟨begins, found⟩ := signs_of_adjacent isWord areWords spans
    exact ⟨leadsWithSpace_of_begins begins, found⟩
  · rintro ⟨noSpace, found⟩
    exact adjacent_of_signs noSpace found previous

theorem recognizes_alt {first second : Regex}
    {beginsFirst beginsSecond : List Sign → Bool}
    (left : Recognizes first beginsFirst)
    (right : Recognizes second beginsSecond) :
    Recognizes (.alt first second)
      fun text => beginsFirst text || beginsSecond text := by
  intro previous text
  simp only [Regex.spans_alt, Bool.or_eq_true, and_or_left, exists_or,
    left previous text, right previous text]

namespace Regex

/-- `mark\s*(?=…)`. -/
def markBefore (mark : Char) (next : Regex) : Regex :=
  seq (one (· == mark)) (seq (many isSpace) (ahead next))

section MarkBefore

variable {mark : Char} {next : Regex} {follows : List Sign → Bool}
  {previous : Option Char}

/-- The separator is the mark and the white space after it. -/
theorem spans_markBefore (recognizes : Recognizes next follows)
    {run after : List Char} :
    Spans (markBefore mark next) previous run after ↔
      ∃ spaces, run = mark :: spaces ∧
        (∀ char ∈ spaces, isSpace char = true) ∧
          leadsWithSpace after = false ∧ follows (signs after) = true := by
  simp only [markBefore, spans_seq, spans_one, spans_many, spans_ahead,
    recognizes _ _, beq_iff_eq]
  constructor
  · rintro ⟨_, _, rfl, ⟨_, rfl, rfl⟩, spaces, _, rfl, all, rfl, found⟩
    rw [List.append_nil]
    exact ⟨spaces, rfl, all, found⟩
  · rintro ⟨spaces, rfl, all, found⟩
    exact ⟨[mark], spaces, rfl, ⟨mark, rfl, rfl⟩, spaces, [],
      (List.append_nil spaces).symm, all, rfl, found⟩

/-- Any other character belongs to the part. -/
theorem splitFrom_other {char : Char} (other : char ≠ mark)
    (text : List Char) :
    splitFrom (markBefore mark next) 0 previous (char :: text) =
      (splitFrom (markBefore mark next) 0 (some char) text).modifyHead
        (char :: ·) := by
  have noEnd : (markBefore mark next).ends ⟨previous, char :: text⟩ = [] := by
    simp [markBefore, other]
  rw [splitFrom, noEnd]
  rfl

/-- The mark belongs to the part when nothing to split at follows. -/
theorem splitFrom_keep (recognizes : Recognizes next follows)
    {text : List Char} (keep : follows (signs text) = false) :
    splitFrom (markBefore mark next) 0 previous (mark :: text) =
      (splitFrom (markBefore mark next) 0 (some mark) text).modifyHead
        (mark :: ·) := by
  have noEnd : (markBefore mark next).ends ⟨previous, mark :: text⟩ = [] := by
    by_contra something
    obtain ⟨finish, found⟩ := List.exists_mem_of_ne_nil _ something
    obtain ⟨run, after, parts, -, spans⟩ := mem_ends_iff.mp found
    obtain ⟨spaces, rfl, all, -, follow⟩ :=
      (spans_markBefore recognizes).mp spans
    have split : text = spaces ++ after := (List.cons.inj parts).2
    rw [split, signs_spaces all, follow] at keep
    cases keep
  rw [splitFrom, noEnd]
  rfl

/-- The text is split at a mark when the right thing follows. -/
theorem splitFrom_split (recognizes : Recognizes next follows)
    {spaces text : List Char} (all : ∀ char ∈ spaces, isSpace char = true)
    (noSpace : leadsWithSpace text = false)
    (follow : follows (signs text) = true) :
    splitFrom (markBefore mark next) 0 previous (mark :: (spaces ++ text)) =
      [] :: splitFrom (markBefore mark next) 0 (lastOf (some mark) spaces)
        text := by
  have only : ∀ finish ∈ (markBefore mark next).ends
      ⟨previous, mark :: (spaces ++ text)⟩, finish.rest = text := by
    intro finish found
    obtain ⟨run, after, parts, rfl, spans⟩ := mem_ends_iff.mp found
    obtain ⟨others, rfl, othersAll, otherNoSpace, -⟩ :=
      (spans_markBefore recognizes).mp spans
    have same : spaces ++ text = others ++ after := (List.cons.inj parts).2
    have dropped := congrArg (List.dropWhile isSpace) same
    rw [dropWhile_isSpace all noSpace,
      dropWhile_isSpace othersAll otherNoSpace] at dropped
    exact dropped.symm
  have spans : Spans (markBefore mark next) previous (mark :: spaces) text :=
    (spans_markBefore recognizes).mpr ⟨spaces, rfl, all, noSpace, follow⟩
  have first : ∃ finish, ((markBefore mark next).ends
      ⟨previous, mark :: (spaces ++ text)⟩).head? = some finish ∧
        finish.rest = text := by
    cases found : ((markBefore mark next).ends
        ⟨previous, mark :: (spaces ++ text)⟩).head? with
    | none =>
        rw [Spans, List.cons_append, List.head?_eq_none_iff.mp found] at spans
        cases spans
    | some finish =>
        exact ⟨finish, rfl, only finish (List.mem_of_head? found)⟩
  obtain ⟨finish, found, rest⟩ := first
  have length : (spaces ++ text).length - text.length = spaces.length := by
    rw [List.length_append, Nat.add_sub_cancel]
  rw [splitFrom, found]
  simp only [rest, length, splitFrom_skip]

/-- The first part is what the text begins with. -/
theorem splitFrom_head {regex : Regex} {text part : List Char}
    (first : part ∈ (regex.splitFrom 0 previous text).head?) :
    part <+: text := by
  induction text generalizing previous part with
  | nil =>
      obtain rfl := Option.mem_some.mp first
      exact List.prefix_rfl
  | cons char text ih =>
      rw [splitFrom] at first
      split at first
      · rw [List.head?_modifyHead, Option.mem_def,
          Option.map_eq_some_iff] at first
        obtain ⟨part, found, rfl⟩ := first
        exact (List.prefix_cons_inj char).mpr (ih found)
      · obtain rfl := Option.mem_some.mp first
        exact List.nil_prefix

/-- A text without the mark belongs to the first part. -/
theorem splitFrom_run {run : List Char} (others : ∀ char ∈ run, char ≠ mark)
    (text : List Char) :
    splitFrom (markBefore mark next) 0 previous (run ++ text) =
      (splitFrom (markBefore mark next) 0 (lastOf previous run)
        text).modifyHead (run ++ ·) := by
  induction run generalizing previous with
  | nil => exact (List.modifyHead_id).symm ▸ rfl
  | cons char run ih =>
      obtain ⟨other, rest⟩ := List.forall_mem_cons.mp others
      rw [List.cons_append, splitFrom_other other, ih rest,
        List.modifyHead_modifyHead]
      rfl

/-- The parts of a text have the stretches of its signs as their signs. -/
theorem map_signs_splitFrom (recognizes : Recognizes next follows)
    (notWord : isWordChar mark = false) (notSpace : isSpace mark = false)
    (text : List Char) :
    (splitFrom (markBefore mark next) 0 previous text).map signs =
      stretches mark follows (signs text) := by
  induction text using suffix_induction generalizing previous with
  | nil => rfl
  | cons char text ih =>
      have later := @ih text List.suffix_rfl
      cases isWord : isWordChar char with
      | true =>
          have begins : isWordAt (char :: text).head? = true := isWord
          obtain ⟨run, rest, parts, nonempty, letters, ends⟩ :=
            exists_run begins
          have noMark : ∀ other ∈ run, other ≠ mark := by
            rintro other among rfl
            cases notWord.symm.trans (letters other among)
          rw [parts, splitFrom_run noMark, signs_word nonempty letters ends,
            stretches_word, ← ih rest (suffix_of_cons_eq parts nonempty)]
          refine map_modifyHead fun part first => ?_
          exact signs_word nonempty letters
            (isWordAt_of_begins (splitFrom_head first) ends)
      | false =>
          cases space : isSpace char with
          | true =>
              have other : char ≠ mark := by
                rintro rfl
                cases notSpace.symm.trans space
              have own (part : List Char) :
                  signs (char :: part) = id (signs part) :=
                signs_space space part
              rw [splitFrom_other other, signs_space space, ← later,
                map_modifyHead fun part _ => own part]
              exact congrFun List.modifyHead_id _
          | false =>
              have own := signs_mark isWord space
              rw [own]
              by_cases other : char ≠ mark
              · rw [splitFrom_other other, stretches_keep, ← later]
                · exact map_modifyHead fun part _ => own part
                · exact fun stops => other (Sign.mark.inj stops.1)
              · obtain rfl := not_ne_iff.mp other
                cases follow : follows (signs text) with
                | false =>
                    rw [splitFrom_keep recognizes follow, stretches_keep,
                      ← later]
                    · exact map_modifyHead fun part _ => own part
                    · rintro ⟨-, goesOn⟩
                      cases follow.symm.trans goesOn
                | true =>
                    obtain ⟨spaces, rest, rfl, all, noSpace⟩ :=
                      exists_spaces text
                    rw [signs_spaces all] at follow ⊢
                    rw [splitFrom_split recognizes all noSpace follow,
                      stretches_split follow, List.map_cons,
                      ih rest (List.suffix_append spaces rest)]
                    rfl

end MarkBefore

end Regex

end PaymentPortal.Lexical
