import PaymentPortal.Model.Texts

/-!
# Settings of the migration runner

The environment of the Lambda and what is read from it.  `Number` and
`parseInt` are followed as far as their result is looked at: whether it is
`NaN`, and the value that `parseInt` returns.
-/

namespace PaymentPortal.Maintenance

open PaymentPortal.Model

/-- The environment variables that the handler reads. -/
structure LambdaEnv where
  RDS_DB_NAME : Option String
  RDS_SECRET_ARN : Option String
  RDS_ENDPOINT : Option String
  RDS_MASTER_SECRET_ARN : Option String
  PR_USER_SECRET_ARN : Option String
  DB_HOST : Option String
  DB_PORT : Option String
  DB_USER : Option String
  DB_PASSWORD : Option String
  DB_NAME : Option String
  deriving DecidableEq, Repr

/-- A variable that is set and not empty. -/
def present (setting : Option String) : Option String :=
  setting.filter (· ≠ "")

theorem present_eq_some {setting : Option String} {value : String} :
    present setting = some value ↔ setting = some value ∧ value ≠ "" := by
  rw [present, Option.filter_eq_some_iff, decide_eq_true_eq]

/-! ## Numbers in texts -/

/-- One digit at least, and nothing else. -/
def isDigits (text : List Char) : Bool :=
  !text.isEmpty && text.all Char.isDigit

/-- The value of a row of digits. -/
def decimalValue (digits : List Char) : Nat :=
  digits.foldl (fun value digit => 10 * value + (digit.toNat - '0'.toNat)) 0

/-- A text after its sign. -/
def unsigned : List Char → Bool × List Char
  | '-' :: rest => (true, rest)
  | '+' :: rest => (false, rest)
  | text => (false, text)

/-- An exponent, or nothing. -/
def isExponent : List Char → Bool
  | [] => true
  | letter :: rest =>
      (letter == 'e' || letter == 'E') && isDigits (unsigned rest).2

/-- A decimal literal without sign. -/
def isDecimal (text : List Char) : Bool :=
  let whole := text.takeWhile Char.isDigit
  match text.dropWhile Char.isDigit with
  | '.' :: rest =>
      !(whole.isEmpty && (rest.takeWhile Char.isDigit).isEmpty) &&
        isExponent (rest.dropWhile Char.isDigit)
  | rest => !whole.isEmpty && isExponent rest

/-- The digits of a radix other than ten. -/
def isRadixDigit (radix : Char) (char : Char) : Bool :=
  if radix = 'b' ∨ radix = 'B' then '0' ≤ char && char ≤ '1'
  else if radix = 'o' ∨ radix = 'O' then '0' ≤ char && char ≤ '7'
  else char.isDigit || ('a' ≤ char && char ≤ 'f') ||
    ('A' ≤ char && char ≤ 'F')

/-- `Number.isNaN(Number(text))`. -/
def numberIsNaN (text : String) : Bool :=
  match (trimText text).toList with
  | [] => false
  | '0' :: radix :: digits =>
      if ['b', 'B', 'o', 'O', 'x', 'X'].contains radix then
        !(!digits.isEmpty && digits.all (isRadixDigit radix))
      else !isDecimal ('0' :: radix :: digits)
  | literal =>
      let magnitude := (unsigned literal).2
      !(magnitude == "Infinity".toList || isDecimal magnitude)

/-- `parseInt(text, 10)`; `none` is `NaN`. -/
def parseInt (text : List Char) : Option Int :=
  let (negative, rest) := unsigned (text.dropWhile isWhiteSpace)
  let digits := rest.takeWhile Char.isDigit
  if digits.isEmpty then none
  else
    let value : Int := decimalValue digits
    some (if negative then -value else value)

/-! ## The endpoint -/

/-- Where the server listens. -/
structure RdsEndpoint where
  host : String
  port : Int
  deriving DecidableEq, Repr

/-- The texts before and after the last colon. -/
def splitAtLastColon (text : List Char) : Option (List Char × List Char) :=
  let after := text.reverse.takeWhile (· ≠ ':')
  match text.reverse.dropWhile (· ≠ ':') with
  | [] => none
  | _ :: before => some (before.reverse, after.reverse)

/-- `parseRdsEndpoint`. -/
def parseRdsEndpoint (endpoint : String) : Except String RdsEndpoint :=
  match splitAtLastColon endpoint.toList with
  | none => .error ("RDS_ENDPOINT has unexpected format: \"" ++ endpoint ++
      "\"")
  | some (host, port) =>
      match parseInt port with
      | none => .error ("could not parse port from RDS_ENDPOINT: \"" ++
          endpoint ++ "\"")
      | some number => .ok ⟨String.ofList host, number⟩

end PaymentPortal.Maintenance
