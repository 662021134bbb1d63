import Hivra.Host.CapabilityDispatcher

namespace Hivra

open JsonText PluginCapabilityDispatcher

namespace PluginWorkspaceRuntime

/-!
# Stored grants of a workspace

The grant of an owner for a plugin is a JSON map in a file of its own, and is read as it stands
there: with its version, its revision, the package and the host it is bound to, and the scope
with the access that the owner has approved.
-/

abbrev Members := List (Text × Value)

/-- The comparison of a double with an integer; one that is not a number has none. -/
abbrev CompareDouble := Text → ℤ → Option Ordering

/-! ### Values -/

def intOf : Value → Option ℤ
  | .int n => some n
  | _ => none

def boolOf : Value → Option Bool
  | .bool b => some b
  | _ => none

def mapOf : Value → Option Members
  | .obj members => some members
  | _ => none

def isNull : Value → Bool
  | .null => true
  | _ => false

/-- Whether a value is equal to an integer. -/
def isNumber (n : ℤ) : Value → Bool
  | .int m => m == n
  | .double shortest => shortest == decimal n ++ text ".0"
  | _ => false

def hasMember (members : Members) (name : String) : Bool := (member? (text name) members).isSome

/-- A small letter, and up to 63 small letters, digits and underscores. -/
def isActionName (t : Text) : Bool :=
  t.head?.any isLower && decide (t.length ≤ 64) &&
    t.all fun c => isLower c || isDigit c || c == 95

def isHexDigest (t : Text) : Bool :=
  decide (t.length = 64) && t.all fun c => isDigit c || (decide (97 ≤ c) && decide (c ≤ 102))

/-- The text a value is written as has no more bytes than a limit. -/
def writtenWithin (limit : ℕ) (value : Value) : Bool :=
  (encode value).any fun written => decide (utf8Length written ≤ limit)

def isNumeric : Value → Bool
  | .int _ => true
  | .double _ => true
  | _ => false

/-- A number above zero that is not infinite. -/
def isPositive (compareDouble : CompareDouble) : Value → Bool
  | .int n => decide (0 < n)
  | .double shortest => shortest != text "Infinity" && compareDouble shortest 0 == some .gt
  | _ => false

def isAtMost (compareDouble : CompareDouble) (bound : ℤ) : Value → Bool
  | .int n => decide (n ≤ bound)
  | .double shortest => (compareDouble shortest bound).any Ordering.isLE
  | _ => false

/-! ### Schedules -/

def isIntWithin (low high : ℤ) (value : Value) : Bool :=
  (intOf value).any fun n => decide (low ≤ n ∧ n ≤ high)

/-- The symbol of a scope of the first version: capitals and digits before `-USDT`. -/
def isSymbol (t : Text) : Bool :=
  decide (t.length ≤ 64) && decide (5 < t.length) && t.drop (t.length - 5) == text "-USDT" &&
    (t.take (t.length - 5)).all fun c => isUpper c || isDigit c

/-- A schedule has a version, or the six fields of old. -/
def validateWorkspaceExecutionSchedule (compareDouble : CompareDouble) (scope : Members) : Bool :=
  if isVersion (get scope "version") then
    let scheduled := !isNull (get scope "action") || !isNull (get scope "interval_seconds")
    (!hasMember scope "start_action" || (stringOf (get scope "start_action")).any isActionName) &&
      (!scheduled || ((stringOf (get scope "action")).any isActionName &&
        isIntWithin 1 3600 (get scope "interval_seconds"))) &&
      (mapOf (get scope "access")).isSome &&
      (stringOf (get scope "description")).any (fun t => decide (t.length ≤ 2048)) &&
      writtenWithin 6144 (.obj scope)
  else
    decide (scope.length = 6) && (stringOf (get scope "account_id")).any isHexDigest &&
      (stringOf (get scope "symbol")).any isSymbol &&
      (stringOf (get scope "action")).any isActionName &&
      isIntWithin 30 3600 (get scope "interval_seconds") &&
      isPositive compareDouble (get scope "max_margin") &&
      isPositive compareDouble (get scope "max_stop_percent") &&
      isAtMost compareDouble 100 (get scope "max_stop_percent")

/-! ### Grants -/

/-- The latest time of the host, in milliseconds. -/
def lastTimeMs : ℤ := 8640000000000000

def workspaceExecutionFlag (control : Members) : String :=
  if isVersion (get control "version") then "enabled" else "allow_new_entries"

def workspaceExecutionEnabled (control : Members) : Bool :=
  boolOf (get control (workspaceExecutionFlag control)) == some true

/-- No deadline is an authorization until revocation. -/
def workspaceExecutionIsActive (control : Members) (nowMs : ℤ) : Bool :=
  boolOf (get control "revoked") != some true && hasMember control "expires_at_ms" &&
    match get control "expires_at_ms" with
    | .null => true
    | .int deadline => decide (nowMs < deadline)
    | _ => false

/-- The host a grant names; one that names none is for the local host. -/
def executorOf (control : Members) : Value :=
  match get control "executor" with
  | .null => .str (text "local")
  | value => value

def isTextAmong (names : List String) (value : Value) : Bool :=
  names.any fun name => sameValue value (.str (text name))

def isDeadline : Value → Bool
  | .null => true
  | .int deadline => decide (0 ≤ deadline ∧ deadline ≤ lastTimeMs)
  | _ => false

/-- The fields of one connection by their names. -/
def isReferences : Value → Bool
  | .obj fields => decide (fields.length ≤ 8) && fields.all fun field =>
      safeId field.1 && (stringOf field.2).any fun t => !t.isEmpty && decide (t.length ≤ 1024)
  | _ => false

def validateReferences : Value → Bool
  | .null => true
  | .obj connections => decide (connections.length ≤ 8) && connections.all fun connection =>
      safeId connection.1 && isReferences connection.2
  | _ => false

def validateSettings (settings : Members) : Bool :=
  decide (settings.length ≤ 8) && writtenWithin 2048 (.obj settings) &&
    settings.all fun setting => (stringOf setting.2).isSome || isNumeric setting.2

/-- Whether a map is a grant of the owner for the plugin. -/
def validateWorkspaceExecutionControl (compareDouble : CompareDouble) (control : Members)
    (owner pluginId : Text) : Bool :=
  (isNumber 1 (get control "version") || isVersion (get control "version")) &&
    sameValue (get control "owner") (.str owner) &&
    sameValue (get control "plugin_id") (.str pluginId) &&
    (intOf (get control "revision")).any (fun revision => decide (0 < revision)) &&
    (boolOf (get control (workspaceExecutionFlag control))).isSome &&
    hasMember control "expires_at_ms" && isDeadline (get control "expires_at_ms") &&
    (!hasMember control "revoked" || (boolOf (get control "revoked")).isSome) &&
    !((boolOf (get control "revoked") == some true || isNumber 0 (get control "expires_at_ms")) &&
      workspaceExecutionEnabled control) &&
    (stringOf (get control "package_id")).any
      (fun t => !t.isEmpty && decide (t.length ≤ 128)) &&
    (stringOf (get control "package_digest")).any isHexDigest &&
    isTextAmong ["local", "vps"] (executorOf control) &&
    (!isTextAmong ["vps"] (get control "executor") ||
      (stringOf (get control "executor_id")).any isHexDigest) &&
    absentOr isHexDigest (get control "handoff_id") &&
    absentOr isHexDigest (get control "handoff_digest") &&
    validateReferences (get control "credentials") &&
    (mapOf (get control "settings")).any validateSettings &&
    (mapOf (get control "scope")).any (validateWorkspaceExecutionSchedule compareDouble)

/-! ### What a grant says for an effect -/

/-- The package that the registry resolves for the plugin. -/
structure RuntimeBinding where
  packageId : Option Text
  packageDigestHex : Option Text
  capabilities : List Text

structure WasmPluginRecord where
  id : Text
  pluginId : Text

/-- The host that runs a workspace. -/
structure WorkspaceHost where
  executionHost : Text
  executionIdentity : Option Text
  infers : Bool
  library : Library
  compareDouble : CompareDouble

/-- The grant is bound to the host. -/
def ownHost (host : WorkspaceHost) (control : Members) : Bool :=
  sameValue (executorOf control) (.str host.executionHost) &&
    (host.executionHost != text "vps" ||
      sameValue (get control "executor_id") ((host.executionIdentity.map Value.str).getD .null))

/-- The grant is bound to the package of the record, as it is installed. -/
def packageMatches (record : WasmPluginRecord) (binding : RuntimeBinding) (control : Members) :
    Bool :=
  sameValue (get control "package_id") (.str record.id) &&
    binding.packageId == some record.id &&
    sameValue (get control "package_digest") ((binding.packageDigestHex.map Value.str).getD .null)

def scopeOf (control : Members) : Members := (mapOf (get control "scope")).getD []

def accessOf (control : Members) : Members := (mapOf (get (scopeOf control) "access")).getD []

def revisionOf (control : Members) : Option ℤ := intOf (get control "revision")

/-- **What a grant says for an effect**: it is of the second version, bound to the owner, the
    plugin, the installed package and the host, enabled, neither revoked nor expired, of the
    revision that the run has begun with, and it allows the request. -/
structure Granted (host : WorkspaceHost) (owner : Text) (record : WasmPluginRecord)
    (binding : RuntimeBinding) (revision : Option ℤ) (nowMs : ℤ) (request control : Members) :
    Prop where
  version : isVersion (get control "version") = true
  ownerBound : sameValue (get control "owner") (.str owner) = true
  pluginBound : sameValue (get control "plugin_id") (.str record.pluginId) = true
  packageBound : packageMatches record binding control = true
  hostBound : ownHost host control = true
  enabled : workspaceExecutionEnabled control = true
  active : workspaceExecutionIsActive control nowMs = true
  unchanged : (revisionOf control).isSome = true ∧ revisionOf control = revision
  allowed : allows host.library (accessOf control) request = true

end PluginWorkspaceRuntime

end Hivra
