import PaymentPortal.Model.Logger

/-!
# What a log line reveals

Redaction is the mask of the sensitive keys.  So what stands under such a key
does not matter for the result, all the rest is where it was, and nothing is
left to redact.
-/

namespace PaymentPortal.Guarantees

open PaymentPortal.Model
open PaymentPortal.Nested

/-! ## Sensitive keys -/

/-- The names of what must not be logged. -/
def sensitiveNames : List String :=
  ["authorization", "token", "password", "secret", "certPassphrase"]

/-- The key is one of the names, in any letter case. -/
def SensitiveKey (letters : LetterCase) (key : String) : Prop :=
  ∃ name ∈ sensitiveNames,
    letters.toLowerCase key = letters.toLowerCase name

theorem toLowerCase_sensitiveNames (letters : LetterCase) :
    sensitiveNames.map letters.toLowerCase = SENSITIVE_KEYS := by
  have lowered : ∀ name ∈ sensitiveNames,
      letters.toLowerCase name =
        .ofList (name.toList.map Char.toLower) := by
    intro name among
    have ascii : ∀ name ∈ sensitiveNames,
        name.toList.all (·.toNat < 128) = true := by decide
    apply letters.ascii
    simpa using ascii name among
  rw [List.map_congr_left lowered]
  decide

theorem isSensitive_iff (letters : LetterCase) (key : String) :
    isSensitive letters key = true ↔ SensitiveKey letters key := by
  rw [isSensitive, ← toLowerCase_sensitiveNames letters, List.contains_iff_mem,
    List.mem_map]
  constructor
  · rintro ⟨name, among, same⟩
    exact ⟨name, among, same.symm⟩
  · rintro ⟨name, among, same⟩
    exact ⟨name, among, same.symm⟩

instance (letters : LetterCase) (key : String) :
    Decidable (SensitiveKey letters key) :=
  decidable_of_iff _ (isSensitive_iff letters key)

variable {Other : Type}

/-! ## Redaction is a mask -/

/-- Entries with distinct keys stay as they are. -/
theorem foldl_setProperty (present entries : List (String × LogValue Other))
    (distinct : ((present ++ entries).map Prod.fst).Nodup) :
    entries.foldl setProperty present = present ++ entries := by
  induction entries generalizing present with
  | nil => simp
  | cons entry rest ih =>
      have absent : ¬ present.any (fun member => member.1 == entry.1) := by
        simp only [List.map_append, List.map_cons, List.nodup_append] at distinct
        rw [List.any_eq_true]
        rintro ⟨member, among, same⟩
        exact distinct.2.2 _ (List.mem_map_of_mem among) _ List.mem_cons_self
          (eq_of_beq same)
      rw [List.foldl_cons, setProperty, if_neg absent, ih]
      · simp
      · simpa using distinct

theorem fromEntries_eq {entries : List (String × LogValue Other)}
    (distinct : (entries.map Prod.fst).Nodup) :
    fromEntries entries = .object entries := by
  rw [fromEntries, foldl_setProperty [] entries distinct, List.nil_append]

section Masks

variable (letters : LetterCase)

mutual

/-- The mask that redaction is. -/
theorem redactSensitiveFields_eq_mask : (value : LogValue Other) →
    DistinctKeys value → redactSensitiveFields letters value =
      mask (isSensitive letters) (.text "[Redacted]") value
  | .leaf _, _ => rfl
  | .array items, distinct => by
      rw [redactSensitiveFields, mask, redactItems_eq_mask items distinct]
  | .object members, distinct => by
      have entries := redactEntries_eq_mask members distinct.2
      rw [redactSensitiveFields, mask, entries]
      exact fromEntries_eq (by rw [keys_maskMembers]; exact distinct.1)

theorem redactItems_eq_mask : (items : List (LogValue Other)) →
    DistinctItems items → redactItems letters items =
      maskItems (isSensitive letters) (.text "[Redacted]") items
  | [], _ => rfl
  | item :: rest, distinct => by
      rw [redactItems, maskItems, redactSensitiveFields_eq_mask item distinct.1,
        redactItems_eq_mask rest distinct.2]

theorem redactEntries_eq_mask : (members : List (String × LogValue Other)) →
    DistinctMembers members → redactEntries letters members =
      maskMembers (isSensitive letters) (.text "[Redacted]") members
  | [], _ => rfl
  | (key, value) :: rest, distinct => by
      rw [redactEntries, maskMembers, redactEntries_eq_mask rest distinct.2,
        redactSensitiveFields_eq_mask value distinct.1]
      split <;> rfl

end

mutual

/-- Redaction keeps the keys of every object distinct. -/
theorem distinctKeys_mask {hidden : String → Bool} {censor : LogLeaf Other} :
    (value : LogValue Other) → DistinctKeys value →
      DistinctKeys (mask hidden censor value)
  | .leaf _, _ => trivial
  | .array items, distinct => distinctItems_mask items distinct
  | .object members, distinct => by
      refine ⟨?_, distinctMembers_mask members distinct.2⟩
      rw [keys_maskMembers]
      exact distinct.1

theorem distinctItems_mask {hidden : String → Bool} {censor : LogLeaf Other} :
    (items : List (LogValue Other)) → DistinctItems items →
      DistinctItems (maskItems hidden censor items)
  | [], _ => trivial
  | item :: rest, distinct =>
      ⟨distinctKeys_mask item distinct.1, distinctItems_mask rest distinct.2⟩

theorem distinctMembers_mask {hidden : String → Bool}
    {censor : LogLeaf Other} :
    (members : List (String × LogValue Other)) → DistinctMembers members →
      DistinctMembers (maskMembers hidden censor members)
  | [], _ => trivial
  | (key, value) :: rest, distinct => by
      refine ⟨?_, distinctMembers_mask rest distinct.2⟩
      split
      · exact trivial
      · exact distinctKeys_mask value distinct.1

end

/-- Redaction of a value that the language can build is another one. -/
def redacted (value : PlainValue Other) : PlainValue Other where
  value := redactSensitiveFields letters value.value
  distinct := by
    rw [redactSensitiveFields_eq_mask letters _ value.distinct]
    exact distinctKeys_mask _ value.distinct

theorem redacted_value (value : PlainValue Other) :
    (redacted letters value).value =
      mask (isSensitive letters) (.text "[Redacted]") value.value :=
  redactSensitiveFields_eq_mask letters _ value.distinct

end Masks

/-! ## The guarantee -/

/-- The values differ only in what stands under sensitive keys. -/
def DifferUnderSensitive (letters : LetterCase)
    (first second : PlainValue Other) : Prop :=
  Agree (fun key => decide (SensitiveKey letters key)) first.value second.value

/-- A path that passes no sensitive key. -/
def Unsensitive (letters : LetterCase) (path : List (Step String)) : Prop :=
  Clear (fun key => decide (SensitiveKey letters key)) path

theorem decide_sensitiveKey (letters : LetterCase) :
    (fun key => decide (SensitiveKey letters key)) = isSensitive letters := by
  funext key
  rw [Bool.eq_iff_iff, decide_eq_true_iff, isSensitive_iff]

/-- Redaction hides exactly what stands under sensitive keys. -/
theorem redactSensitiveFields_eq_iff (letters : LetterCase)
    (first second : PlainValue Other) :
    redactSensitiveFields letters first.value =
        redactSensitiveFields letters second.value ↔
      DifferUnderSensitive letters first second := by
  rw [DifferUnderSensitive, decide_sensitiveKey,
    redactSensitiveFields_eq_mask letters _ first.distinct,
    redactSensitiveFields_eq_mask letters _ second.distinct]
  exact mask_eq_iff

/-- What a logging call passes on does not depend on the secrets. -/
theorem logMethod_eq (letters : LetterCase)
    {first second : List (PlainValue Other)}
    (differ : List.Forall₂ (DifferUnderSensitive letters) first second) :
    logMethod letters (first.map PlainValue.value) =
      logMethod letters (second.map PlainValue.value) := by
  induction differ with
  | nil => rfl
  | cons head _ ih =>
      rw [logMethod, logMethod] at ih ⊢
      simp only [List.map_cons, ih,
        (redactSensitiveFields_eq_iff letters _ _).mpr head]

/--
Redaction is the same for values that differ only under sensitive keys, keeps
everything else in its place, and is done after one time.
-/
theorem redactSensitiveFields_noninterfering (letters : LetterCase) :
    (∀ first second : PlainValue Other,
      DifferUnderSensitive letters first second →
        redactSensitiveFields letters first.value =
          redactSensitiveFields letters second.value) ∧
    (∀ (value : PlainValue Other) (path : List (Step String)),
      Unsensitive letters path →
        ((redactSensitiveFields letters value.value).at? path).map
            Value.outline =
          (value.value.at? path).map Value.outline) ∧
    ∀ value : PlainValue Other,
      redactSensitiveFields letters
          (redactSensitiveFields letters value.value) =
        redactSensitiveFields letters value.value := by
  refine ⟨?_, ?_, ?_⟩
  · intro first second differ
    exact (redactSensitiveFields_eq_iff letters first second).mpr differ
  · intro value path unsensitive
    rw [Unsensitive, decide_sensitiveKey] at unsensitive
    rw [redactSensitiveFields_eq_mask letters _ value.distinct]
    exact outline_at?_mask unsensitive value.value
  · intro value
    have again := redacted_value letters (redacted letters value)
    rw [redacted_value letters value, mask_mask] at again
    exact again.trans (redacted_value letters value).symm

/-- The letters of ASCII; all others stay as they are. -/
def asciiLetters : LetterCase where
  toLowerCase text := .ofList (text.toList.map Char.toLower)
  ascii _ _ := rfl

/-- A request that was logged, with what its header holds. -/
def loggedRequest (header : LogValue Unit)
    (distinct : DistinctKeys header) : PlainValue Unit where
  value := .object [("path", .leaf (.text "/init")),
    ("calls", .array [.object [("Authorization", header)]])]
  distinct := by simpa [DistinctKeys, DistinctItems, DistinctMembers]

theorem redactSensitiveFields_noninterfering_header :
    redactSensitiveFields asciiLetters
        (loggedRequest (.leaf (.text "Bearer 1")) trivial).value =
      redactSensitiveFields asciiLetters
        (loggedRequest (.array []) trivial).value := by
  have sensitive :
      decide (SensitiveKey asciiLetters "Authorization") = true := by decide
  exact (redactSensitiveFields_noninterfering asciiLetters).1 _ _
    (.object (.visible (.leaf _) (.visible (.array (.cons
      (.object (.secret sensitive .nil)) .nil)) .nil)))

end PaymentPortal.Guarantees
