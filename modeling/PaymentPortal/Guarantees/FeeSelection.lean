import PaymentPortal.Guarantees.StatusPairs
import PaymentPortal.Guarantees.LogPages
import PaymentPortal.Relational.Latest

/-!
# Selection of the fee version

Of a well-formed configuration the version with the greatest activation date not
after the date is selected, whatever the order of the versions, and a missing
version is reported as such.  A key that every object inherits is the exception:
it is not configured, yet reported as a faulty configuration.
-/

namespace PaymentPortal.Guarantees

open PaymentPortal.Model PaymentPortal.Relational

/-- Applications, activation dates and fixed amounts are there. -/
structure WellFormedFees (config : Config) : Prop where
  application : ∀ entry ∈ config.staticFees, entry.2.tcsAppId ≠ ""
  parseable : ∀ entry ∈ config.staticFees, ∀ version ∈ entry.2.versions,
    config.dateParse version.activationDate ≠ none
  amount : ∀ entry ∈ config.staticFees, ∀ version ∈ entry.2.versions,
    version.isVariable = false → version.amount ≠ none

/-- The versions of one fee replaced. -/
def withVersions (config : Config) (fee : String) (versions : List FeeVersion) :
    Config :=
  { config with
    staticFees := config.staticFees.map fun entry =>
      if entry.1 = fee then (entry.1, { entry.2 with versions := versions })
      else entry }

/-- Nothing to select: no date, no definition, or no version by the date. -/
def HasNoVersion (config : Config) (fee : String) (date : Option Int) : Prop :=
  date = none ∨ config.staticFees.lookup fee = none ∨
    ∃ dateMs definition, date = some dateMs ∧
      config.staticFees.lookup fee = some definition ∧
      ∀ version ∈ definition.versions, ∀ activation,
        config.dateParse version.activationDate = some activation →
        dateMs < activation

/-- A version whose activation date is the greatest one not after the date. -/
def IsActiveAt (config : Config) (definition : FeeDefinition) (dateMs : Int)
    (version : FeeVersion) : Prop :=
  version ∈ definition.versions ∧
    ∃ activation, config.dateParse version.activationDate = some activation ∧
      activation ≤ dateMs ∧
      ∀ other ∈ definition.versions, ∀ otherActivation,
        config.dateParse other.activationDate = some otherActivation →
        otherActivation ≤ dateMs → otherActivation ≤ activation

/-- What a version of a definition resolves to. -/
def resolvedFee (fee : String) (definition : FeeDefinition)
    (version : FeeVersion) : ActiveFee where
  fee := fee
  name := definition.name
  tcsAppId := definition.tcsAppId
  description := definition.description
  isVariable := version.isVariable
  amount := version.amount
  activationDate := version.activationDate

/-- `getActiveFee` selects by the greatest activation date, and no order of the
versions, later date or later version disturbs it. -/
structure SelectsVersion (config : Config) (fee : String) (date : Option Int) :
    Prop where
  notFound : getActiveFee config fee date = .error (.feeNotFound fee) ↔
    HasNoVersion config fee date
  selected : ¬HasNoVersion config fee date →
    ∃ dateMs definition version, date = some dateMs ∧
      config.staticFees.lookup fee = some definition ∧
      IsActiveAt config definition dateMs version ∧
      getActiveFee config fee date = .ok (resolvedFee fee definition version)
  permuted : ∀ definition versions,
    config.staticFees.lookup fee = some definition →
    versions.Perm definition.versions →
    (definition.versions.map fun version =>
      config.dateParse version.activationDate).Nodup →
    getActiveFee (withVersions config fee versions) fee date =
      getActiveFee config fee date
  later : ∀ first last active, date = some first → first ≤ last →
    getActiveFee config fee date = .ok active →
    ∃ activeLater activation activationLater,
      getActiveFee config fee (some last) = .ok activeLater ∧
      config.dateParse active.activationDate = some activation ∧
      config.dateParse activeLater.activationDate = some activationLater ∧
      activation ≤ activationLater
  extended : ∀ definition before after version dateMs activation,
    config.staticFees.lookup fee = some definition →
    definition.versions = before ++ after → date = some dateMs →
    config.dateParse version.activationDate = some activation →
    dateMs < activation →
    getActiveFee (withVersions config fee (before ++ version :: after)) fee
        date = getActiveFee config fee date

variable {config : Config} {fee : String}

/-! ## Lookup -/

theorem mem_of_lookup_fee {entries : StaticFees} {definition : FeeDefinition}
    (found : entries.lookup fee = some definition) :
    (fee, definition) ∈ entries := by
  induction entries with
  | nil => cases found
  | cons entry rest ih =>
      rw [List.lookup_cons] at found
      split at found
      · rename_i same
        cases found
        rw [eq_of_beq same]
        exact List.mem_cons_self
      · exact List.mem_cons_of_mem entry (ih found)

theorem lookup_withVersions {versions : List FeeVersion}
    {definition : FeeDefinition}
    (found : config.staticFees.lookup fee = some definition) :
    (withVersions config fee versions).staticFees.lookup fee =
      some { definition with versions := versions } := by
  simp only [withVersions]
  generalize config.staticFees = entries at found
  induction entries with
  | nil => cases found
  | cons entry rest ih =>
      rw [List.lookup_cons] at found
      rw [List.map_cons]
      by_cases same : entry.1 = fee
      · simp only [same, beq_self_eq_true] at found
        cases found
        simp [same]
      · have differ : (fee == entry.1) = false := by
          simpa using fun equal => same equal.symm
        simp only [differ] at found
        rw [if_neg same, List.lookup_cons, differ]
        exact ih found

/-! ## Selection -/

/-- The activation date of a version, where it parses. -/
def activationMs (config : Config) (version : FeeVersion) : Int :=
  (config.dateParse version.activationDate).getD 0

/-- What is needed of the versions of a definition: their dates parse, and the
fixed ones in force have amounts. -/
def SoundVersions (config : Config) (versions : List FeeVersion)
    (dateMs : Int) : Prop :=
  ∀ version ∈ versions,
    config.dateParse version.activationDate =
        some (activationMs config version) ∧
      (activationMs config version ≤ dateMs → version.isVariable = false →
        version.amount ≠ none)

/-- Over sound versions `activeVersion` is the latest one by the date. -/
theorem activeVersion_eq {definition : FeeDefinition} {dateMs : Int}
    (sound : SoundVersions config definition.versions dateMs) :
    activeVersion config fee definition dateMs =
      (latest? (activationMs config) dateMs definition.versions).elim
        (.error (.feeNotFound fee)) .ok := by
  have parsed : definition.versions.mapM (parseVersion config fee) =
      .ok (definition.versions.map fun version =>
        (version, activationMs config version)) := by
    apply mapM_eq_ok
    intro version member
    rw [parseVersion, (sound version member).1]
  let dated := fun version => (version, activationMs config version)
  have first : (((definition.versions.map dated).filter fun version =>
        version.2 ≤ dateMs).insertionSort latestFirst).head? =
      (latest? (activationMs config) dateMs definition.versions).map dated :=
    latest?_map dated dateMs definition.versions
  rw [activeVersion, parsed]
  simp only [bind, Except.bind, first, dated]
  cases found : latest? (activationMs config) dateMs definition.versions with
  | none => rfl
  | some version =>
      obtain ⟨⟨member, within⟩, -⟩ := latest?_spec found
      simp only [Option.map_some, Option.elim_some]
      rw [if_neg fun fixed =>
        (sound version member).2 within fixed.1 fixed.2]

/-- What `getActiveFee` returns for a configured fee. -/
theorem getActiveFee_eq {definition : FeeDefinition} {dateMs : Int}
    (found : config.staticFees.lookup fee = some definition)
    (application : definition.tcsAppId ≠ "")
    (sound : SoundVersions config definition.versions dateMs) :
    getActiveFee config fee (some dateMs) =
      (latest? (activationMs config) dateMs definition.versions).elim
        (.error (.feeNotFound fee))
        fun version => .ok (resolvedFee fee definition version) := by
  have defined : feeDefinition config fee = .ok definition := by
    simp only [feeDefinition, found, if_neg application]
  simp only [getActiveFee, defined, activeVersion_eq sound, bind, Except.bind]
  cases latest? (activationMs config) dateMs definition.versions <;> rfl

section Configured

variable (wellFormed : WellFormedFees config) {definition : FeeDefinition}
  (found : config.staticFees.lookup fee = some definition)
include wellFormed found

theorem application_of_lookup : definition.tcsAppId ≠ "" :=
  wellFormed.application _ (mem_of_lookup_fee found)

theorem dateParse_of_mem {version : FeeVersion}
    (member : version ∈ definition.versions) :
    config.dateParse version.activationDate =
      some (activationMs config version) := by
  cases parsed : config.dateParse version.activationDate with
  | none =>
      exact absurd parsed (wellFormed.parseable _ (mem_of_lookup_fee found)
        version member)
  | some activation => rw [activationMs, parsed, Option.getD_some]

theorem activation_eq_iff {version : FeeVersion}
    (member : version ∈ definition.versions) (activation : Int) :
    config.dateParse version.activationDate = some activation ↔
      activationMs config version = activation := by
  rw [dateParse_of_mem wellFormed found member, Option.some.injEq]

theorem soundVersions (dateMs : Int) :
    SoundVersions config definition.versions dateMs :=
  fun version member => ⟨dateParse_of_mem wellFormed found member,
    fun _ => wellFormed.amount _ (mem_of_lookup_fee found) version member⟩

variable (dateMs : Int)

theorem hasNoVersion_iff :
    HasNoVersion config fee (some dateMs) ↔
      latest? (activationMs config) dateMs definition.versions = none := by
  rw [latest?_eq_none]
  constructor
  · rintro (none_ | unknown | ⟨_, other, date, same, late⟩) version member
    · cases none_
    · rw [found] at unknown
      cases unknown
    · rw [found] at same
      cases same
      cases date
      exact late version member _
        ((activation_eq_iff wellFormed found member _).mpr rfl)
  · intro late
    refine .inr (.inr ⟨dateMs, definition, rfl, found,
      fun version member activation parsed => ?_⟩)
    rw [activation_eq_iff wellFormed found member] at parsed
    exact parsed ▸ late version member

theorem isActiveAt_of_latest {version : FeeVersion}
    (latest : latest? (activationMs config) dateMs definition.versions =
      some version) : IsActiveAt config definition dateMs version := by
  obtain ⟨⟨member, within⟩, greatest⟩ := latest?_spec latest
  refine ⟨member, activationMs config version,
    (activation_eq_iff wellFormed found member _).mpr rfl, within,
    fun other otherMember otherActivation parsed notAfter => ?_⟩
  rw [activation_eq_iff wellFormed found otherMember] at parsed
  exact parsed ▸ greatest other otherMember (parsed.symm ▸ notAfter)

theorem getActiveFee_configured :
    getActiveFee config fee (some dateMs) =
      (latest? (activationMs config) dateMs definition.versions).elim
        (.error (.feeNotFound fee))
        fun version => .ok (resolvedFee fee definition version) :=
  getActiveFee_eq found (application_of_lookup wellFormed found)
    (soundVersions wellFormed found dateMs)

/-- With other versions the same definition is resolved among those. -/
theorem getActiveFee_withVersions {versions : List FeeVersion}
    (sound : SoundVersions config versions dateMs) :
    getActiveFee (withVersions config fee versions) fee (some dateMs) =
      (latest? (activationMs config) dateMs versions).elim
        (.error (.feeNotFound fee))
        fun version => .ok (resolvedFee fee definition version) :=
  have application := application_of_lookup wellFormed found
  getActiveFee_eq (lookup_withVersions found) application sound

theorem getActiveFee_permuted {versions : List FeeVersion}
    (perm : versions.Perm definition.versions)
    (distinct : (definition.versions.map fun version =>
      config.dateParse version.activationDate).Nodup) :
    getActiveFee (withVersions config fee versions) fee (some dateMs) =
      getActiveFee config fee (some dateMs) := by
  have dates : (definition.versions.map fun version =>
      config.dateParse version.activationDate) =
      (definition.versions.map (activationMs config)).map some := by
    rw [List.map_map]
    exact List.map_congr_left fun version member =>
      dateParse_of_mem wellFormed found member
  rw [dates] at distinct
  rw [getActiveFee_configured wellFormed found dateMs,
    getActiveFee_withVersions wellFormed found dateMs fun version member =>
      soundVersions wellFormed found dateMs version (perm.mem_iff.mp member),
    latest?_perm perm distinct.of_map]

theorem getActiveFee_later {last : Int} {active : ActiveFee}
    (notAfter : dateMs ≤ last)
    (resolved : getActiveFee config fee (some dateMs) = .ok active) :
    ∃ activeLater activation activationLater,
      getActiveFee config fee (some last) = .ok activeLater ∧
      config.dateParse active.activationDate = some activation ∧
      config.dateParse activeLater.activationDate = some activationLater ∧
      activation ≤ activationLater := by
  rw [getActiveFee_configured wellFormed found] at resolved
  cases latest : latest? (activationMs config) dateMs definition.versions with
  | none => simp [latest] at resolved
  | some version =>
      simp only [latest, Option.elim_some, Except.ok.injEq] at resolved
      obtain ⟨next, nextLatest, ordered⟩ := latest?_mono notAfter latest
      refine ⟨resolvedFee fee definition next, activationMs config version,
        activationMs config next, ?_, ?_, ?_, ordered⟩
      · rw [getActiveFee_configured wellFormed found, nextLatest,
          Option.elim_some]
      · rw [← resolved]
        exact dateParse_of_mem wellFormed found (latest?_spec latest).1.1
      · exact dateParse_of_mem wellFormed found (latest?_spec nextLatest).1.1

theorem getActiveFee_extended {before after : List FeeVersion}
    {version : FeeVersion} {activation : Int}
    (split : definition.versions = before ++ after)
    (parsed : config.dateParse version.activationDate = some activation)
    (late : dateMs < activation) :
    getActiveFee (withVersions config fee (before ++ version :: after)) fee
        (some dateMs) = getActiveFee config fee (some dateMs) := by
  have activates : activationMs config version = activation := by
    rw [activationMs, parsed, Option.getD_some]
  have sound : SoundVersions config (before ++ version :: after) dateMs := by
    intro other member
    by_cases isNew : other = version
    · rw [isNew, activates]
      exact ⟨parsed, fun within => absurd within (Int.not_le.mpr late)⟩
    · refine soundVersions wellFormed found dateMs other ?_
      rw [split]
      simpa [isNew] using member
  rw [getActiveFee_configured wellFormed found,
    getActiveFee_withVersions wellFormed found dateMs sound, split,
    latest?_insert (activates.symm ▸ late)]

/-- A configured fee is selected by its greatest activation date. -/
theorem selectsVersion_of_lookup :
    SelectsVersion config fee (some dateMs) := by
  have here := getActiveFee_configured wellFormed found dateMs
  refine ⟨?_, ?_, ?_, ?_, ?_⟩
  · rw [hasNoVersion_iff wellFormed found, here]
    cases latest? (activationMs config) dateMs definition.versions <;> simp
  · intro available
    rw [hasNoVersion_iff wellFormed found] at available
    obtain ⟨version, latest⟩ := Option.ne_none_iff_exists'.mp available
    refine ⟨dateMs, definition, version, rfl, found,
      isActiveAt_of_latest wellFormed found dateMs latest, ?_⟩
    rw [here, latest, Option.elim_some]
  · intro other versions same perm distinct
    cases found.symm.trans same
    exact getActiveFee_permuted wellFormed found dateMs perm distinct
  · intro first last active date notAfter resolved
    cases date
    exact getActiveFee_later wellFormed found dateMs notAfter resolved
  · intro other before after version _ activation same split date parsed late
    cases found.symm.trans same
    cases date
    exact getActiveFee_extended wellFormed found dateMs split parsed late

end Configured

/-! ## Keys without a definition -/

theorem selectsVersion_of_no_date : SelectsVersion config fee none where
  notFound := ⟨fun _ => .inl rfl, fun _ => rfl⟩
  selected := fun available => absurd (.inl rfl) available
  permuted := fun _ _ _ _ _ => rfl
  later := fun _ _ _ date => by cases date
  extended := fun _ _ _ _ _ _ _ _ date => by cases date

/-- A key that is not configured is selected properly unless every object
inherits it. -/
theorem selectsVersion_of_no_lookup {dateMs : Int}
    (unknown : config.staticFees.lookup fee = none) :
    SelectsVersion config fee (some dateMs) ↔
      OBJECT_PROTOTYPE_KEYS.contains fee = false := by
  have noVersion : HasNoVersion config fee (some dateMs) := .inr (.inl unknown)
  constructor
  · intro selects
    have raised := selects.notFound.mpr noVersion
    by_contra inherited
    rw [Bool.not_eq_false] at inherited
    simp only [getActiveFee, feeDefinition, unknown, inherited, if_true, bind,
      Except.bind] at raised
    cases raised
  · intro own
    have raised : getActiveFee config fee (some dateMs) =
        .error (.feeNotFound fee) := by
      simp only [getActiveFee, feeDefinition, unknown, own, bind, Except.bind,
        Bool.false_eq_true, if_false]
    refine ⟨⟨fun _ => noVersion, fun _ => raised⟩,
      fun available => absurd noVersion available, ?_, ?_, ?_⟩
    · intro definition _ found
      rw [unknown] at found
      cases found
    · intro _ _ _ _ _ resolved
      rw [raised] at resolved
      cases resolved
    · intro definition _ _ _ _ _ found
      rw [unknown] at found
      cases found

/-! ## The selection -/

/-- Of a well-formed configuration `getActiveFee` selects the version by its
activation date, exactly where the key is configured or not one that every
object inherits, or the date does not parse. -/
theorem selectsVersion_iff (wellFormed : WellFormedFees config) (fee : String)
    (date : FeeDate) (now : Int) :
    SelectsVersion config fee (date.dateMs config now) ↔
      config.staticFees.lookup fee ≠ none ∨
        OBJECT_PROTOTYPE_KEYS.contains fee = false ∨
        date.dateMs config now = none := by
  cases parsed : date.dateMs config now with
  | none => simp [selectsVersion_of_no_date]
  | some dateMs =>
      cases found : config.staticFees.lookup fee with
      | none => simp [selectsVersion_of_no_lookup found]
      | some definition =>
          simp [selectsVersion_of_lookup wellFormed found dateMs]

theorem wellFormed_sampleConfig : WellFormedFees sampleConfig where
  application := by decide
  parseable := by decide
  amount := by decide

/-- The petition fee on the day it takes effect. -/
theorem selectsVersion_iff_sample :
    SelectsVersion sampleConfig "PETITION_FILING_FEE"
      ((FeeDate.date (some 1727740800000)).dateMs sampleConfig 0) :=
  (selectsVersion_iff wellFormed_sampleConfig "PETITION_FILING_FEE"
    (.date (some 1727740800000)) 0).mpr (.inl (by decide))

/-- `constructor` is no configured fee, yet is not reported as missing. -/
theorem constructor_not_missing :
    ¬∀ (config : Config) (fee : String) (date : FeeDate) (now : Int),
      WellFormedFees config →
      SelectsVersion config fee (date.dateMs config now) := by
  intro selects
  have raised := (selects sampleConfig "constructor" (.date (some sampleNow)) 0
    wellFormed_sampleConfig).notFound.mpr (.inr (.inl (by decide)))
  revert raised
  decide

end PaymentPortal.Guarantees
