import PaymentPortal.Nested.Masking

/-!
# The logger

`utils/logger.ts`, as far as it decides what a log line may hold: the redaction
of sensitive fields and the hook that applies it to every argument of a logging
call.  A value is what the arguments of such a call consist of, plain objects
and arrays over texts and other leaves; an object lists its own properties in
the order of `Object.entries`, each key once.
-/

namespace PaymentPortal.Model

open PaymentPortal.Nested

/-- A value that is neither an array nor a plain object. -/
inductive LogLeaf (Other : Type) where
  | text (content : String)
  | other (content : Other)
  deriving DecidableEq, Repr

/-- A value that can be logged. -/
abbrev LogValue (Other : Type) :=
  Value String (LogLeaf Other)

/-- `toLowerCase` of the language. -/
structure LetterCase where
  toLowerCase : String → String
  ascii : ∀ text : String, (∀ letter ∈ text.toList, letter.toNat < 128) →
    toLowerCase text = .ofList (text.toList.map Char.toLower)

def SENSITIVE_KEYS : List String :=
  ["authorization", "token", "password", "secret", "certpassphrase"]

/-- `SENSITIVE_KEYS.has(key.toLowerCase())`. -/
def isSensitive (letters : LetterCase) (key : String) : Bool :=
  SENSITIVE_KEYS.contains (letters.toLowerCase key)

variable {Other : Type}

/-- `object[key] = value` for an own property. -/
def setProperty (members : List (String × LogValue Other))
    (entry : String × LogValue Other) : List (String × LogValue Other) :=
  if members.any (fun member => member.1 == entry.1) then
    members.map fun member =>
      if member.1 == entry.1 then (member.1, entry.2) else member
  else members ++ [entry]

/-- `Object.fromEntries(entries)`. -/
def fromEntries (entries : List (String × LogValue Other)) : LogValue Other :=
  .object (entries.foldl setProperty [])

mutual

def redactSensitiveFields (letters : LetterCase) :
    LogValue Other → LogValue Other
  | .array items => .array (redactItems letters items)
  | .object members => fromEntries (redactEntries letters members)
  | .leaf content => .leaf content

/-- `value.map(redactSensitiveFields)`. -/
def redactItems (letters : LetterCase) :
    List (LogValue Other) → List (LogValue Other)
  | [] => []
  | item :: rest =>
    redactSensitiveFields letters item :: redactItems letters rest

/-- The entries that are passed to `Object.fromEntries`. -/
def redactEntries (letters : LetterCase) :
    List (String × LogValue Other) → List (String × LogValue Other)
  | [] => []
  | (key, nestedValue) :: rest =>
    (if isSensitive letters key then (key, .leaf (.text "[Redacted]"))
      else (key, redactSensitiveFields letters nestedValue)) ::
        redactEntries letters rest

end

/-- The arguments that the hook `logMethod` passes on. -/
def logMethod (letters : LetterCase) (inputArgs : List (LogValue Other)) :
    List (LogValue Other) :=
  inputArgs.map (redactSensitiveFields letters)

mutual

/-- Every object has each of its keys once. -/
def DistinctKeys : LogValue Other → Prop
  | .leaf _ => True
  | .array items => DistinctItems items
  | .object members => (members.map Prod.fst).Nodup ∧ DistinctMembers members

/-- Every object in the items has each of its keys once. -/
def DistinctItems : List (LogValue Other) → Prop
  | [] => True
  | item :: rest => DistinctKeys item ∧ DistinctItems rest

/-- Every object in the members has each of its keys once. -/
def DistinctMembers : List (String × LogValue Other) → Prop
  | [] => True
  | (_, value) :: rest => DistinctKeys value ∧ DistinctMembers rest

end

/-- A value that the language can build. -/
structure PlainValue (Other : Type) where
  value : LogValue Other
  distinct : DistinctKeys value

end PaymentPortal.Model
