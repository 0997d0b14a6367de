import Mathlib.Data.Rat.Defs
import PaymentPortal.Interaction.Machine
import PaymentPortal.Model.Errors

/-!
# The client permissions

`permissionsClient.ts` and `secretsClient.ts`.  One process runs any number of
calls of `getClientPermissions`.  A call is synchronous up to the answer of
Secrets Manager and synchronous after it, so it is two steps with the answer
between them; the two steps share the cache, and nothing keeps a second call
from fetching while a first one still does.

`parseInt`, `JSON.parse` and `trim` belong to the language.  They are fields of
the configuration, beside the variables of the environment.
-/

namespace PaymentPortal.Model

open PaymentPortal.Interaction

/-! ## Values of `JSON.parse` -/

/-- What a JSON text denotes. -/
inductive Json where
  | null
  | boolean (value : Bool)
  | number (value : Rat)
  | string (value : String)
  | array (items : List Json)
  | object (members : List (String × Json))

namespace Json

/-- `Boolean(value)`. -/
def truthy : Json → Bool
  | .null => false
  | .boolean value => value
  | .number value => value ≠ 0
  | .string value => value ≠ ""
  | .array _ => true
  | .object _ => true

/-- `Array.isArray(value)`. -/
def isArray : Json → Bool
  | .array _ => true
  | _ => false

/-- `value[name]`; only objects have the members that are asked for here. -/
def member (name : String) : Json → Option Json
  | .object members => members.lookup name
  | _ => none

/-- `value === text`. -/
def isText (text : String) : Json → Bool
  | .string value => value == text
  | _ => false

end Json

/-! ## The secret -/

/-- The response of Secrets Manager; the bytes are given by their text. -/
structure SecretValue where
  SecretString : Option String
  SecretBinary : Option String
  deriving DecidableEq, Repr

/-- What the module reads from its process and from the language. -/
structure PermissionsConfig where
  LOCAL_DEV : Option String
  CLIENT_PERMISSIONS_SECRET_ID : Option String
  CLIENT_PERMISSIONS_CACHE_TTL_MS : Option String
  parseInt : String → Option Int
  jsonParse : String → Except String Json
  trim : String → String

/-- `getSecretString`, once the response is there. -/
def getSecretString (config : PermissionsConfig) (secretId : String)
    (res : SecretValue) : Except String String :=
  if secretId = "" then .error "getSecretString: secretId is required"
  else
    match res.SecretString.filter (fun text => text ≠ ""), res.SecretBinary with
    | some text, _ => .ok (config.trim text)
    | none, some text => .ok (config.trim text)
    | none, none => .error
        ("Secret \"" ++ secretId ++ "\" has no SecretString or SecretBinary")

/-- The permission records of a secret, as they are cast. -/
abbrev Permissions := List Json

/-- An entry with `allowedFeeIds` under its name of today. -/
def coerceAllowedFeeIds : Json → Json
  | .object members =>
      match members.lookup "allowedFeeIds", members.lookup "allowedFeeKeys" with
      | some ids, keys =>
          if ids.isArray && !keys.any Json.truthy then
            .object ((members.filter fun entry =>
              entry.1 ≠ "allowedFeeIds" ∧ entry.1 ≠ "allowedFeeKeys") ++
                [("allowedFeeKeys", ids)])
          else .object members
      | none, _ => .object members
  | perm => perm

/-- The entry names a client, its role and a list of fee keys. -/
def isClientPermission (perm : Json) : Bool :=
  (perm.member "clientName").any Json.truthy &&
    (perm.member "clientRoleArn").any Json.truthy &&
    (perm.member "allowedFeeKeys").any Json.isArray

/-- The loop over the entries: each is coerced, then validated. -/
def validateEntry (entry : Json) : Except String Json :=
  let perm := coerceAllowedFeeIds entry
  if isClientPermission perm then .ok perm
  else .error "Invalid client permission structure"

/-- The permissions that a response of Secrets Manager holds. -/
def parsePermissions (config : PermissionsConfig) (secretId : String)
    (res : SecretValue) : Except String Permissions := do
  let secretValue ← getSecretString config secretId res
  match ← config.jsonParse secretValue with
  | .array raw => raw.mapM validateEntry
  | _ => .error "Client permissions must be an array"

/-! ## The cache -/

/-- `PermissionsCache`. -/
structure PermissionsCache where
  permissions : Permissions
  expiresAt : Int

def DEFAULT_CACHE_TTL_MS : Int := 300000

/-- `CACHE_TTL_MS`; `parseInt` is `none` where it is not finite. -/
def CACHE_TTL_MS (config : PermissionsConfig) : Int :=
  let text := (config.CLIENT_PERMISSIONS_CACHE_TTL_MS.filter
    fun text => text ≠ "").getD "300000"
  (config.parseInt text).getD DEFAULT_CACHE_TTL_MS

def LOCAL_DEV_ROLE_ARN : String :=
  "arn:aws:iam::000000000000:role/local-dev-role"

def LOCAL_DEV_PERMISSIONS : Permissions := [
  .object [
    ("clientName", .string "Local Development"),
    ("clientRoleArn", .string LOCAL_DEV_ROLE_ARN),
    ("allowedFeeKeys", .array [.string "*"])]]

/-- How the first part of a call ends. -/
inductive Lookup where
  | settled (result : Except PortalError Permissions)
  | fetching (secretId : String)

/-- `getClientPermissions` up to its `await`. -/
def lookUp (config : PermissionsConfig) (now : Int)
    (cache : Option PermissionsCache) : Lookup :=
  if config.LOCAL_DEV = some "true" then .settled (.ok LOCAL_DEV_PERMISSIONS)
  else
    match cache.filter (fun entry => now < entry.expiresAt) with
    | some entry => .settled (.ok entry.permissions)
    | none =>
        match config.CLIENT_PERMISSIONS_SECRET_ID.filter
            (fun secretId => secretId ≠ "") with
        | some secretId => .fetching secretId
        | none => .settled (.error (.server
            "CLIENT_PERMISSIONS_SECRET_ID environment variable not set"))

/-- `getClientPermissions` after its `await`: the result and the cache. -/
def settle (config : PermissionsConfig) (secretId : String) (now : Int)
    (response : Except String SecretValue) (cache : Option PermissionsCache) :
    Except PortalError Permissions × Option PermissionsCache :=
  match response >>= parsePermissions config secretId with
  | .ok permissions =>
      (.ok permissions, some {
        permissions := permissions
        expiresAt := now + CACHE_TTL_MS config })
  | .error _ => (.error (.server "Failed to fetch client permissions"), cache)

def CLIENT_NOT_REGISTERED_MESSAGE : String := "Client not registered"

/-- What `getClientByRoleArn` makes of the permissions. -/
def clientByRoleArn (roleArn : String) (permissions : Permissions) :
    Except PortalError Json :=
  match permissions.find? fun perm =>
      (perm.member "clientRoleArn").any (Json.isText roleArn) with
  | some client => .ok client
  | none => .error (.forbidden CLIENT_NOT_REGISTERED_MESSAGE)

/-! ## The process -/

/-- The two parts of a call, and the read at Secrets Manager between them. -/
inductive PermissionsOp where
  | lookUp
  | getSecretValue (secretId : String)
  | settle (secretId : String) (response : Except String SecretValue)
  deriving DecidableEq

/-- The replies of the operations. -/
abbrev PermissionsReply : PermissionsOp → Type
  | .lookUp => Lookup
  | .getSecretValue _ => Except String SecretValue
  | .settle _ _ => Except PortalError Permissions

/-- The clock, the secret and the cache of the process. -/
structure PermissionsWorld where
  now : Int
  secret : SecretValue
  cache : Option PermissionsCache

/-- Secrets Manager answers with the secret, or the request fails. -/
inductive SecretFate where
  | executed
  | failed (message : String)
  deriving DecidableEq, Repr

/-- Time passes; the secret is updated. -/
inductive SecretDrift where
  | tick (ms : Nat)
  | update (secret : SecretValue)
  deriving DecidableEq, Repr

/-- Execute one operation; `none` when the fate does not fit it. -/
def execPermissions (config : PermissionsConfig) :
    (op : PermissionsOp) → SecretFate → PermissionsWorld →
      Option (PermissionsReply op × PermissionsWorld)
  | .lookUp, .executed, world =>
      some (lookUp config world.now world.cache, world)
  | .getSecretValue _, .executed, world => some (.ok world.secret, world)
  | .getSecretValue _, .failed message, world => some (.error message, world)
  | .settle secretId response, .executed, world =>
      let settled := settle config secretId world.now response world.cache
      some (settled.1, { world with cache := settled.2 })
  | _, _, _ => none

/-- How the process changes between the operations. -/
def driftPermissions : SecretDrift → PermissionsWorld → Option PermissionsWorld
  | .tick ms, world => some { world with now := world.now + ms }
  | .update secret, world => some { world with secret := secret }

/-- `getClientPermissions`. -/
def getClientPermissions :
    Program PermissionsOp PermissionsReply (Except PortalError Permissions) :=
  .perform .lookUp fun
    | .settled result => .done result
    | .fetching secretId =>
        .perform (.getSecretValue secretId) fun response =>
          .perform (.settle secretId response) .done

/--
One process; the prewarm of the cold start and every request make the same
call.
-/
def permissionsClient (config : PermissionsConfig) :
    Machine PermissionsOp PermissionsReply PermissionsWorld SecretFate Unit
      (Except PortalError Permissions) SecretDrift where
  program _ := getClientPermissions
  exec := execPermissions config
  drift := driftPermissions

/-- A process that has just been started, with an empty cache. -/
def PermissionsWorld.cold (now : Int) (secret : SecretValue) :
    PermissionsWorld where
  now := now
  secret := secret
  cache := none

end PaymentPortal.Model
