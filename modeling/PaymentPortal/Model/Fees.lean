import Mathlib.Algebra.Order.Floor.Ring
import Mathlib.Data.List.Sort
import Mathlib.Data.Rat.Floor
import Mathlib.Tactic.Linarith
import PaymentPortal.Model.Errors

/-!
# Fees and permissions

`config/fees.ts` and `authorizeClient.ts`.  `Date.parse` belongs to the
language and is a field of the configuration; so are what the parser of XML
makes of a text, the fee table, which the source fixes as `staticFees`, and the
redirect URL of the environment.
-/

namespace PaymentPortal.Model

/-- A dollar amount: the decimal that the number prints as. -/
abbrev Amount := Rat

/-- `Math.round`. -/
def mathRound (value : Rat) : Int :=
  (value + 1 / 2).floor

/-- A number that is less than a half away from an integer is rounded to it. -/
theorem mathRound_eq_of_near {value : Rat} {whole : Int}
    (near : |value - whole| < 1 / 2) : mathRound value = whole := by
  obtain ⟨above, below⟩ := abs_lt.mp near
  change ⌊value + 1 / 2⌋ = whole
  rw [Int.floor_eq_iff]
  constructor <;> linarith

structure FeeVersion where
  isVariable : Bool
  amount : Option Amount
  activationDate : String
  deriving DecidableEq, Repr

structure FeeDefinition where
  name : String
  tcsAppId : String
  description : Option String
  versions : List FeeVersion
  deriving DecidableEq, Repr

/-- The fee definitions by fee key, in the order they are declared. -/
abbrev StaticFees := List (String × FeeDefinition)

/-- The fee resolved for one point in time. -/
structure ActiveFee where
  fee : String
  name : String
  tcsAppId : String
  description : Option String
  isVariable : Bool
  amount : Option Amount
  activationDate : String
  deriving DecidableEq, Repr

/-- What the process reads from its configuration and from the language. -/
structure Config where
  staticFees : StaticFees
  dateParse : String → Option Int
  xmlFormats : XmlFormats
  paymentUrl : String

/-- `staticFees`. -/
def staticFees : StaticFees := [
  ("PETITION_FILING_FEE", {
    name := "Petition Filing Fee"
    tcsAppId := "USTAXCOURTPETITION"
    description :=
      some "Fee charged for filing a petition with the U.S. Tax Court."
    versions := [{
      isVariable := false
      amount := some 60
      activationDate := "2024-10-01T00:00:00Z" }] }),
  ("NONATTORNEY_EXAM_REGISTRATION_FEE", {
    name := "Non-Attorney Exam Registration Fee"
    tcsAppId := "TCSUSTAXCOURTANAEF"
    description := some
      "Fee for non-attorneys to register for an examination with the U.S. Tax Court."
    versions := [{
      isVariable := false
      amount := some 250
      activationDate := "2024-10-01T00:00:00Z" }] })]

/--
The keys that every object literal inherits.  Indexing `staticFees` with one of
them yields an inherited value, which has no `tcsAppId`.
-/
def OBJECT_PROTOTYPE_KEYS : List String := [
  "constructor", "__proto__", "__defineGetter__", "__defineSetter__",
  "__lookupGetter__", "__lookupSetter__", "hasOwnProperty", "isPrototypeOf",
  "propertyIsEnumerable", "toLocaleString", "toString", "valueOf"]

/-- One version with its parsed activation date. -/
def parseVersion (config : Config) (fee : String) (version : FeeVersion) :
    Except PortalError (FeeVersion × Int) :=
  match config.dateParse version.activationDate with
  | some activationMs => .ok (version, activationMs)
  | none => .error (.feeConfiguration fee
      ("Invalid activationDate '" ++ version.activationDate ++ "'"))

/-- The order of `sort((a, b) => b.activationMs - a.activationMs)`. -/
def latestFirst (a b : FeeVersion × Int) : Prop := b.2 ≤ a.2

instance : DecidableRel latestFirst := fun a b =>
  inferInstanceAs (Decidable (b.2 ≤ a.2))

/-- The definition under a fee key, which must name its Pay.gov application. -/
def feeDefinition (config : Config) (fee : String) :
    Except PortalError FeeDefinition :=
  match config.staticFees.lookup fee with
  | none =>
      if OBJECT_PROTOTYPE_KEYS.contains fee then
        .error (.feeConfiguration fee "tcsAppId is required")
      else .error (.feeNotFound fee)
  | some definition =>
      if definition.tcsAppId = "" then
        .error (.feeConfiguration fee "tcsAppId is required")
      else .ok definition

/-- The latest version of a definition activated at or before `dateMs`. -/
def activeVersion (config : Config) (fee : String)
    (definition : FeeDefinition) (dateMs : Int) :
    Except PortalError FeeVersion := do
  let parsed ← definition.versions.mapM (parseVersion config fee)
  let active := parsed.filter fun version => version.2 ≤ dateMs
  match (active.insertionSort latestFirst).head? with
  | none => .error (.feeNotFound fee)
  | some (version, _) =>
      if version.isVariable = false ∧ version.amount = none then
        .error (.feeConfiguration fee
          "A fixed fee version must define an amount")
      else .ok version

/-- `getActiveFee`; the date is `none` where it does not parse. -/
def getActiveFee (config : Config) (fee : String) (date : Option Int) :
    Except PortalError ActiveFee :=
  match date with
  | none => .error (.feeNotFound fee)
  | some dateMs => do
      let definition ← feeDefinition config fee
      let version ← activeVersion config fee definition dateMs
      .ok {
        fee := fee
        name := definition.name
        tcsAppId := definition.tcsAppId
        description := definition.description
        isVariable := version.isVariable
        amount := version.amount
        activationDate := version.activationDate }

/-- The `date` argument: a text, a `Date` (none where it is invalid) or
nothing. -/
inductive FeeDate where
  | text (value : String)
  | date (value : Option Int)
  | absent
  deriving DecidableEq, Repr

/-- `dateMs`, with the clock for `new Date()`. -/
def FeeDate.dateMs (config : Config) (now : Int) : FeeDate → Option Int
  | .text value => config.dateParse value
  | .date value => value
  | .absent => some now

/-- An active fee has its key and the application of its definition. -/
theorem getActiveFee_eq_ok {config : Config} {feeKey : String}
    {date : Option Int} {fee : ActiveFee}
    (resolved : getActiveFee config feeKey date = .ok fee) :
    fee.fee = feeKey ∧ ∃ definition,
      feeDefinition config feeKey = .ok definition ∧
        definition.tcsAppId = fee.tcsAppId := by
  unfold getActiveFee at resolved
  split at resolved
  · cases resolved
  · cases defined : feeDefinition config feeKey with
    | error error => simp [defined, bind, Except.bind] at resolved
    | ok definition =>
        rename_i dateMs
        cases found : activeVersion config feeKey definition dateMs with
        | error error => simp [defined, found, bind, Except.bind] at resolved
        | ok version =>
            simp only [defined, found, bind, Except.bind,
              Except.ok.injEq] at resolved
            rw [← resolved]
            exact ⟨rfl, definition, rfl, rfl⟩

/-! ## Authorization -/

/-- A client's permission record. -/
structure ClientPermission where
  clientName : String
  clientRoleArn : String
  allowedFeeKeys : List String
  deriving DecidableEq, Repr

/-- `authorizeClient`: the wildcard or the fee key itself is allowed. -/
def authorizeClient (client : ClientPermission) (feeKey : String) :
    Except PortalError Unit :=
  if client.allowedFeeKeys.contains "*" ||
      client.allowedFeeKeys.contains feeKey then
    .ok ()
  else .error (.forbidden "Client not authorized for fee")

end PaymentPortal.Model
