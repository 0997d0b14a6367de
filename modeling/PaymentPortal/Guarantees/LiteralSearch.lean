import PaymentPortal.Guarantees.LogPages
import PaymentPortal.Relational.Wildcards

/-!
# Searching the metadata

The search value is escaped, so that each of its characters stands for itself:
a transaction is found if and only if the metadata contains the value, up to
the case of the letters.
-/

namespace PaymentPortal.Guarantees

open PaymentPortal.Model
open PaymentPortal.Relational

/-! ## Patterns as signs -/

/--
The signs of a `LIKE` pattern with backslash as the escape character.  A pattern
that ends in an escape without a character is not valid.
-/
def likeSigns : List Char → Option (List (PatternSign Char))
  | [] => some []
  | '%' :: pattern => (likeSigns pattern).map (.anyText :: ·)
  | '_' :: pattern => (likeSigns pattern).map (.anyLetter :: ·)
  | ['\\'] => none
  | '\\' :: escaped :: pattern =>
    (likeSigns pattern).map (.letter escaped :: ·)
  | literal :: pattern => (likeSigns pattern).map (.letter literal :: ·)

/-- The characters with a meaning of their own in a pattern. -/
def IsSpecial (char : Char) : Prop :=
  char = '\\' ∨ char = '%' ∨ char = '_'

instance (char : Char) : Decidable (IsSpecial char) :=
  inferInstanceAs (Decidable (_ ∨ _ ∨ _))

theorem likeSigns_plain {char : Char} (plain : ¬ IsSpecial char)
    (pattern : List Char) : likeSigns (char :: pattern) =
      (likeSigns pattern).map (.letter char :: ·) := by
  have notEscape : char ≠ '\\' := fun same => plain (.inl same)
  rw [likeSigns]
  · exact fun same => plain (.inr (.inl same))
  · exact fun same => plain (.inr (.inr same))
  · exact fun same _ => notEscape same
  · exact fun _ _ same _ => notEscape same

/-- The pattern is a valid one. -/
def ValidLike (pattern : List Char) : Prop :=
  (likeSigns pattern).isSome

/-- A valid pattern matches what its signs match. -/
theorem likeMatch_iff {pattern text : List Char}
    {signs : List (PatternSign Char)} (valid : likeSigns pattern = some signs) :
    likeMatch pattern text = true ↔ Matches signs text := by
  induction pattern using likeSigns.induct generalizing signs text with
  | case1 =>
      cases valid
      simp [likeMatch]
  | case2 pattern ih =>
      obtain ⟨rest, found, rfl⟩ := Option.map_eq_some_iff.mp valid
      simp only [likeMatch, Matches, List.any_eq_true, List.mem_tails, ih found]
  | case3 pattern ih =>
      obtain ⟨rest, found, rfl⟩ := Option.map_eq_some_iff.mp valid
      cases text <;> simp [likeMatch, Matches, ih found]
  | case4 => cases valid
  | case5 escaped pattern ih =>
      obtain ⟨rest, found, rfl⟩ := Option.map_eq_some_iff.mp valid
      cases text <;> simp [likeMatch, Matches, ih found]
  | case6 literal pattern percent underscore single escape ih =>
      have plain : ¬ IsSpecial literal := by
        rintro (rfl | rfl | rfl)
        · cases pattern with
          | nil => exact single rfl rfl
          | cons escaped rest => exact escape escaped rest rfl rfl
        · exact percent rfl
        · exact underscore rfl
      rw [likeSigns_plain plain] at valid
      obtain ⟨rest, found, rfl⟩ := Option.map_eq_some_iff.mp valid
      cases text <;> simp [likeMatch, Matches, ih found]

/-! ## Escaping -/

theorem escapeLike_nil : escapeLike [] = [] := rfl

theorem escapeLike_special {char : Char} (special : IsSpecial char)
    (value : List Char) :
    escapeLike (char :: value) = '\\' :: char :: escapeLike value := by
  rw [IsSpecial] at special
  simp only [escapeLike, List.flatMap_cons, if_pos special]
  rfl

theorem escapeLike_plain {char : Char} (plain : ¬ IsSpecial char)
    (value : List Char) :
    escapeLike (char :: value) = char :: escapeLike value := by
  rw [IsSpecial] at plain
  simp only [escapeLike, List.flatMap_cons, if_neg plain]
  rfl

theorem escapeLike_append (value rest : List Char) :
    escapeLike (value ++ rest) = escapeLike value ++ escapeLike rest :=
  List.flatMap_append

/-- Without special characters there is nothing to escape. -/
theorem escapeLike_of_plain {value : List Char}
    (plain : ∀ char ∈ value, ¬ IsSpecial char) : escapeLike value = value := by
  induction value with
  | nil => rfl
  | cons char value ih =>
      rw [escapeLike_plain (plain char List.mem_cons_self),
        ih fun other among => plain other (List.mem_cons_of_mem _ among)]

/-- An escaped value consists of letters. -/
theorem likeSigns_escapeLike (value rest : List Char) :
    likeSigns (escapeLike value ++ rest) =
      (likeSigns rest).map (value.map .letter ++ ·) := by
  induction value with
  | nil => simp [escapeLike_nil]
  | cons char value ih =>
      by_cases special : IsSpecial char
      · rw [escapeLike_special special, List.cons_append, List.cons_append,
          likeSigns, ih, Option.map_map]
        rfl
      · rw [escapeLike_plain special, List.cons_append,
          likeSigns_plain special, ih, Option.map_map]
        rfl

/-! ## Letter case -/

/--
Lower case, as far as patterns go: a special character separates what stands
before it from what stands after it, stays as it is, and comes from no other
character.
-/
structure LowersAroundSpecials (lower : String → String) : Prop where
  empty : lower "" = ""
  split : ∀ before after char, IsSpecial char →
    (lower (.ofList (before ++ char :: after))).toList =
      (lower (.ofList before)).toList ++
        char :: (lower (.ofList after)).toList
  plain : ∀ value : List Char, (∀ char ∈ value, ¬ IsSpecial char) →
    ∀ char ∈ (lower (.ofList value)).toList, ¬ IsSpecial char

section Lower

variable {lower : String → String}

/-- Lowering an escaped value is escaping the lowered one. -/
theorem LowersAroundSpecials.escapeLike (lowers : LowersAroundSpecials lower)
    (before value : List Char) (plain : ∀ char ∈ before, ¬ IsSpecial char) :
    (lower (.ofList (before ++ Model.escapeLike value))).toList =
      Model.escapeLike (lower (.ofList (before ++ value))).toList := by
  induction value generalizing before with
  | nil =>
      rw [escapeLike_nil, List.append_nil,
        escapeLike_of_plain (lowers.plain before plain)]
  | cons char value ih =>
      by_cases special : IsSpecial char
      · have rest := ih [] (by simp)
        have nothing : (lower (.ofList [])).toList = [] := by
          simp [lowers.empty]
        rw [List.nil_append, List.nil_append] at rest
        rw [escapeLike_special special, lowers.split _ _ _ (.inl rfl),
          ← List.nil_append (char :: _), lowers.split _ _ _ special,
          lowers.split _ _ _ special, escapeLike_append,
          escapeLike_special special, nothing, rest,
          escapeLike_of_plain (lowers.plain before plain)]
        rfl
      · have longer : ∀ other ∈ before ++ [char], ¬ IsSpecial other := by
          intro other among
          rcases List.mem_append.mp among with old | new
          · exact plain other old
          · rw [List.mem_singleton.mp new]
            exact special
        have shifted := ih (before ++ [char]) longer
        rw [List.append_assoc, List.append_assoc] at shifted
        rw [escapeLike_plain special]
        exact shifted

/-- Lowering letter by letter, as long as it keeps to the letters. -/
theorem lowersAroundSpecials_map {letter : Char → Char}
    (kept : ∀ char, IsSpecial char → letter char = char)
    (plain : ∀ char, ¬ IsSpecial char → ¬ IsSpecial (letter char)) :
    LowersAroundSpecials fun text => .ofList (text.toList.map letter) where
  empty := rfl
  split before after char special := by simp [kept char special]
  plain value free char among := by
    rw [String.toList_ofList, String.toList_ofList] at among
    obtain ⟨other, member, rfl⟩ := List.mem_map.mp among
    exact plain other (free other member)

end Lower

/-! ## The guarantee -/

/-- The pattern that `queryLog` passes to the database. -/
def metadataPattern (value : String) : String :=
  .ofList ('%' :: escapeLike value.toList ++ ['%'])

/-- A search value is looked for as it is. -/
def MatchesLiterally (locale : LocaleRules) (search : MetadataSearch)
    (row : Transaction) (text : String) : Prop :=
  ValidLike (metadataPattern search.value).toList ∧
    ValidLike (locale.lower (metadataPattern search.value)).toList ∧
      (matchesMetadata locale search row = true ↔
        (locale.lower search.value).toList <:+: (locale.lower text).toList)

theorem likeSigns_contains (value : List Char) :
    likeSigns ('%' :: escapeLike value ++ ['%']) =
      some (.anyText :: value.map .letter ++ [.anyText]) := by
  rw [List.cons_append, likeSigns, likeSigns_escapeLike]
  rfl

/-- The lowered pattern is the pattern of the lowered value. -/
theorem LowersAroundSpecials.pattern {lower : String → String}
    (lowers : LowersAroundSpecials lower) (value : String) :
    (lower (metadataPattern value)).toList =
      '%' :: Model.escapeLike (lower value).toList ++ ['%'] := by
  have escaped := lowers.escapeLike [] value.toList (by simp)
  have nothing : (lower (.ofList [])).toList = [] := by simp [lowers.empty]
  rw [List.nil_append, List.nil_append, String.ofList_toList] at escaped
  rw [metadataPattern, List.cons_append, ← List.nil_append ('%' :: _),
    lowers.split _ _ _ (.inr (.inl rfl)), lowers.split _ _ _ (.inr (.inl rfl)),
    nothing, escaped]
  rfl

/-- A search finds the metadata that contains its value, and only that. -/
theorem queryLog_matches_literally (locale : LocaleRules)
    (lowers : LowersAroundSpecials locale.lower) (search : MetadataSearch)
    (row : Transaction) (metadata : List (String × String)) (text : String)
    (present : row.metadata = some metadata)
    (found : metadata.lookup search.key.text = some text) :
    MatchesLiterally locale search row text := by
  refine ⟨?_, ?_, ?_⟩
  · rw [ValidLike, metadataPattern, String.toList_ofList, likeSigns_contains]
    rfl
  · rw [ValidLike, lowers.pattern, likeSigns_contains]
    rfl
  · have pattern := lowers.pattern search.value
    rw [metadataPattern] at pattern
    simp only [matchesMetadata, present, Option.bind_some, found, pattern]
    rw [likeMatch_iff (likeSigns_contains _), matches_contains]

theorem plainRules_lowers : LowersAroundSpecials plainRules.lower := by
  have letterwise : plainRules.lower =
      fun text => .ofList (text.toList.map Char.toLower) := by
    funext text
    rw [← String.toList_map, String.ofList_toList]
    rfl
  rw [letterwise]
  apply lowersAroundSpecials_map
  · rintro char (rfl | rfl | rfl) <;> rfl
  · intro char plain special
    unfold Char.toLower at special
    split at special
    · next upper =>
      rcases special with same | same | same <;>
        · have value := congrArg (fun other => other.val.toNat) same
          have lowest := UInt32.le_iff_toNat_le.mp upper.1
          have highest := UInt32.le_iff_toNat_le.mp upper.2
          simp [UInt32.toNat_add] at value lowest highest
          omega
    · exact plain special

/-- A docket number with an underscore is no pattern. -/
theorem queryLog_matches_literally_sample :
    MatchesLiterally plainRules ⟨.docketNumber, "3_2\\"⟩
      (sampleReceived "A1") "123-26" :=
  queryLog_matches_literally plainRules plainRules_lowers _ _ _ _ rfl rfl

end PaymentPortal.Guarantees
