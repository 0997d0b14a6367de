import Mathlib.Data.List.Basic
import PaymentPortal.Model.PermissionsClient

/-!
# The caller's role

`extractCallerArn.ts`.  The pattern of an assumed role is

    /^arn:aws:sts::(\d+):assumed-role\/([^/]+)\/.+$/

A colon is no digit and the role has no slash, so its groups are runs: there is
one way to match.
-/

namespace PaymentPortal.Model

/-- The characters that `.` does not match. -/
def isLineTerminator (char : Char) : Bool :=
  [0xA, 0xD, 0x2028, 0x2029].contains char.toNat

/-- The account and the role of a matching name. -/
def matchAssumedRole (assumedRoleArn : String) : Option (String × String) := do
  let rest ← assumedRoleArn.toList.dropPrefix? "arn:aws:sts::".toList
  let accountId := rest.takeWhile Char.isDigit
  let rest ← (rest.dropWhile Char.isDigit).dropPrefix?
    ":assumed-role/".toList
  let roleName := rest.takeWhile fun char => char ≠ '/'
  let sessionName ← (rest.dropWhile fun char => char ≠ '/').dropPrefix? ['/']
  guard (accountId ≠ [] ∧ roleName ≠ [] ∧ sessionName ≠ [] ∧
    sessionName.all fun char => !isLineTerminator char)
  some (String.ofList accountId, String.ofList roleName)

/-- `convertAssumedRoleToIamArn`. -/
def convertAssumedRoleToIamArn (assumedRoleArn : String) :
    Except PortalError String :=
  match matchAssumedRole assumedRoleArn with
  | none => .error (.forbidden "Invalid IAM principal format")
  | some (accountId, roleName) =>
      .ok ("arn:aws:iam::" ++ accountId ++ ":role/" ++ roleName)

/-- `extractCallerArn`. -/
def extractCallerArn (config : PermissionsConfig) (userArn : Option String) :
    Except PortalError String :=
  if config.LOCAL_DEV = some "true" then .ok LOCAL_DEV_ROLE_ARN
  else
    match userArn.filter fun arn => arn ≠ "" with
    | none => .error (.forbidden "Missing IAM principal")
    | some arn => convertAssumedRoleToIamArn arn

end PaymentPortal.Model
