import Hivra.Lib.Processes
import Hivra.Host.WorkspaceGrants

namespace Hivra

open JsonText PluginCapabilityDispatcher Processes

namespace PluginWorkspaceRuntime

/-!
# A run of a workspace

A run hands the package an action, does what the package asks for in its answer, hands it the
result, and so on until nothing is asked for.  Between any two of its actions the owner may stop
or revoke the grant or give a new one, another capsule may be opened, and the package may be
replaced: what the run is answered is all that it knows.  An exception is a run without a result.

* `http`, `infer` — the two effects.
* `runWorkspaceOwned` — the whole run.
-/

/-- The capsule that is open, trimmed and in small letters, and the time. -/
structure Observed where
  activeCapsule : Option Text
  nowMs : ℤ

/-- What the package is handed. -/
structure PackageRequest where
  action : Text
  context : Value
  state : Option Members
  settings : Members
  observedAtMs : ℤ
  enabled : Bool
  scope : Value
  running : Bool
  result : Option Members

/-- What the package answers, with the package that was executed. -/
structure PackageResponse where
  packageId : Option Text
  packageDigestHex : Option Text
  executed : Bool
  output : Option Members

/-- What a run does.  The clock and the open capsule are looked at without a wait. -/
inductive WorkspaceAction
  | createDirectory
  | resolveRuntimeBinding
  | readPluginState (name : Text)
  | writePluginState (name value : Text)
  | observe
  | executePackage (request : PackageRequest)
  | delay (milliseconds : ℤ)
  | resolveCredentials (references : List (Text × Text))
  | openInference (request : Members)
  | dispatchInference (request : Members)
  | send (request : Members) (method : Text) (uri : Uri) (headers : List (Text × Text))
      (body : Option Text)

/-- What it is answered; none is an exception. -/
@[reducible] def Answer : WorkspaceAction → Type
  | .createDirectory => Option Unit
  | .resolveRuntimeBinding => Option RuntimeBinding
  | .readPluginState _ => Option (Option Text)
  | .writePluginState .. => Option Unit
  | .observe => Option Observed
  | .executePackage _ => Option PackageResponse
  | .delay _ => Option Unit
  | .resolveCredentials _ => Option (List (Text × Text))
  | .openInference _ => Option Unit
  | .dispatchInference _ => Option Members
  | .send .. => Option TransportResponse

/-- A part of a run that may throw. -/
abbrev Run (Result : Type) := OptionT (Process WorkspaceAction Answer) Result

/-- A part of a run whose exceptions are caught. -/
abbrev Caught (Result : Type) := Process WorkspaceAction Answer Result

def throws {Result : Type} : Run Result := OptionT.mk (.done none)

def orThrow {Result : Type} (result : Option Result) : Run Result := OptionT.mk (.done result)

def demand (condition : Bool) : Run Unit := if condition then pure () else throws

def createDirectory : Run Unit := OptionT.mk (Process.perform WorkspaceAction.createDirectory)

def resolveRuntimeBinding : Run RuntimeBinding :=
  OptionT.mk (Process.perform WorkspaceAction.resolveRuntimeBinding)

def readPluginState (name : Text) : Run (Option Text) :=
  OptionT.mk (Process.perform (WorkspaceAction.readPluginState name))

def writePluginState (name value : Text) : Run Unit :=
  OptionT.mk (Process.perform (WorkspaceAction.writePluginState name value))

def observe : Run Observed := OptionT.mk (Process.perform WorkspaceAction.observe)

def resolveCredentials (references : List (Text × Text)) : Run (List (Text × Text)) :=
  OptionT.mk (Process.perform (WorkspaceAction.resolveCredentials references))

def openInference (request : Members) : Caught (Option Unit) :=
  Process.perform (WorkspaceAction.openInference request)

def dispatchInference (request : Members) : Caught (Option Members) :=
  Process.perform (WorkspaceAction.dispatchInference request)

def send (request : Members) (method : Text) (uri : Uri) (headers : List (Text × Text))
    (body : Option Text) : Caught (Option TransportResponse) :=
  Process.perform (WorkspaceAction.send request method uri headers body)

def executePackage (request : PackageRequest) : Run PackageResponse :=
  OptionT.mk (Process.perform (WorkspaceAction.executePackage request))

def workspaceFile : Text := text "workspace.v1.json"

def executionFile : Text := text "workspace-execution.v1.json"

/-- What does not change during a run. -/
structure Invocation where
  host : WorkspaceHost
  owner : Text
  record : WasmPluginRecord

/-- What a run has found when it began. -/
structure Session extends Invocation where
  digest : Text
  persistent : Bool
  control : Option Members
  settings : Members

/-- What a run carries from one call of the package to the next. -/
structure Continuation where
  context : Value
  state : Option Members

section Checks

variable (invocation : Invocation)

def isStillOwned (observed : Observed) : Bool := observed.activeCapsule == some invocation.owner

/-- The grant of a text, none where it is no grant of the owner for the plugin. -/
def decodeControl (raw : Text) : Option Members :=
  if 8192 < utf8Length raw then none
  else ((JsonText.decode invocation.host.library.doubleText raw).bind mapOf).filter fun control =>
    validateWorkspaceExecutionControl invocation.host.compareDouble control invocation.owner
      invocation.record.pluginId

/-- The grant is for the installed package, which has the capabilities that it needs. -/
def bindingServes (binding : RuntimeBinding) (requiredCapabilities : List Text)
    (control : Members) : Bool :=
  packageMatches invocation.record binding control &&
    requiredCapabilities.all (binding.capabilities.contains ·) &&
    (isNull (get (scopeOf control) "action") ||
      binding.capabilities.contains (text "workspace.schedule"))

/-- Read the stored grant, once more after the package was resolved. -/
def readExecution (requiredCapabilities : List Text) : Run (Option Members) := do
  match ← readPluginState executionFile with
  | none => pure none
  | some _ =>
    let binding ← resolveRuntimeBinding
    match ← readPluginState executionFile with
    | none => pure none
    | some raw =>
      let control ← orThrow (decodeControl invocation raw)
      demand (ownHost invocation.host control)
      pure (if bindingServes invocation binding requiredCapabilities control then some control
        else none)

end Checks

section Effects

variable (session : Session)

/-- The package and one of its capabilities are still there, and so is the capsule. -/
def bound (capability : Text) : Run Unit := do
  let before ← observe
  demand (isStillOwned session.toInvocation before)
  let binding ← resolveRuntimeBinding
  let after ← observe
  demand (binding.packageId == some session.record.id &&
    binding.packageDigestHex == some session.digest && binding.capabilities.contains capability &&
    isStillOwned session.toInvocation after)

def requiredCapabilities (request : Members) : List Text :=
  (if sameValue (get request "kind") (.str (text "ai.infer")) then text "inference.request"
    else text "network.http") ::
    if isNull (get request "credential") then [] else [text "credentials.use"]

/-- The grant as it is stored now allows the request. -/
def isGranted (observed : Observed) (request control : Members) : Bool :=
  isStillOwned session.toInvocation observed && isVersion (get control "version") &&
    workspaceExecutionEnabled control &&
    decide (revisionOf control = session.control.bind revisionOf) &&
    workspaceExecutionIsActive control observed.nowMs &&
    allows session.host.library (accessOf control) request

/-- **The check before an effect.** -/
def accessFor (request : Members) : Run Unit := do
  let current ← readExecution session.toInvocation (requiredCapabilities request)
  let observed ← observe
  demand (current.any (isGranted session observed request))

/-- The fields of a connection, by the references of the grant that the run has begun with. -/
def referencesOf (request : Members) : Option (List (Text × Text)) := do
  let name ← stringOf (get request "credential")
  let control ← session.control
  let connections ← mapOf (get control "credentials")
  let fields ← (member? name connections).bind mapOf
  stringMap fields

def secrets (request : Members) : Run (List (Text × Text)) := do
  accessFor session request
  let references ← orThrow (referencesOf session request)
  resolveCredentials references

/-- Whether a request reaches the point where its credentials are read. -/
def asksCredentials (access request : Members) : Bool :=
  (prepare session.host.library (setMember (text "auth") .null request) access none).isSome &&
    (mapOf (get request "auth")).isSome && !isNull (get request "credential")

/-- What a prepared request comes to after its last check. -/
def transport (request : Members) (prepared : Prepared) : Caught HttpOutcome :=
  match stringOf prepared.method with
  | none => pure (.unknown "transport_unavailable")
  | some method => do
    let answer ← Process.perform
      (.send request method prepared.uri prepared.headers prepared.body)
    pure ((answer.bind (deliver session.host.library prepared)).getD
      (.unknown "transport_unavailable"))

/-- `PluginCapabilityDispatcher.http`, as a run makes use of it. -/
def http (request access : Members) : Caught HttpOutcome := do
  let credentials ←
    if asksCredentials session access request then (secrets session request).run else pure none
  match prepare session.host.library request access credentials with
  | none => pure .notDispatched
  | some prepared =>
    match ← (accessFor session request).run with
    | none => pure .notDispatched
    | some () => transport session request prepared

def notDispatched (error : String) : Members :=
  [(text "outcome", .str (text "not_dispatched")), (text "error", .str (text error))]

def unknown (error : String) : Members :=
  [(text "outcome", .str (text "unknown")), (text "error", .str (text error))]

/-- The map an outcome is returned as. -/
def outcomeMembers : HttpOutcome → Members
  | .notDispatched => notDispatched "access_unavailable"
  | .unknown error => unknown error
  | .response status headers (.body body) =>
    [(text "outcome", .str (text "response")), (text "status", .int status),
      (text "headers", stringValue headers), (text "body", .str body)]
  | .response status headers (.json members) =>
    [(text "outcome", .str (text "response")), (text "status", .int status),
      (text "headers", stringValue headers), (text "json", .obj members)]

/-- The result of an inference, if it is not too long. -/
def inferenceResult (answer : Members) : Members :=
  let result := (text "outcome", Value.str (text "response")) :: answer
  if writtenWithin maxBodyBytes.toNat (.obj result) then result
  else unknown "result_exceeds_bound"

/-- The inference port: it is opened after a check, and dispatches after another one. -/
def infer (request : Members) : Caught Members :=
  if session.host.infers then do
    match ← (accessFor session request).run with
    | none => pure (notDispatched "inference_unavailable")
    | some () =>
      match ← openInference request with
      | none => pure (notDispatched "inference_unavailable")
      | some () =>
        match ← (accessFor session request).run with
        | none => pure (notDispatched "inference_unavailable")
        | some () =>
          match ← dispatchInference request with
          | none => pure (unknown "inference_unavailable")
          | some answer => pure (inferenceResult answer)
  else pure (notDispatched "capability_unavailable")

/-! ### Requests -/

/-- A key of the package's own data. -/
def dataKey (request : Members) : Option Text :=
  (stringOf (get request "key")).filter fun key => safeId key && (text "data-").isPrefixOf key

def storageWrite (request : Members) : Run Members := do
  let key ← orThrow (dataKey request)
  let value ← orThrow ((stringOf (get request "value")).filter fun value =>
    decide ((utf8Length value : ℤ) ≤ maxBodyBytes))
  writePluginState key value
  pure [(text "written", .bool true)]

def storageRead (request : Members) : Run Members := do
  let key ← orThrow (dataKey request)
  match ← readPluginState key with
  | none => pure [(text "value", .null)]
  | some value =>
    pure (if maxBodyBytes < (utf8Length value : ℤ) then
        [(text "error", .str (text "value_exceeds_bound"))]
      else [(text "value", .str value)])

def delay (request : Members) : Run Members := do
  let milliseconds ← orThrow ((intOf (get request "milliseconds")).filter fun milliseconds =>
    decide (0 ≤ milliseconds ∧ milliseconds ≤ 60000))
  let _ ← OptionT.mk (Process.perform (WorkspaceAction.delay milliseconds))
  pure []

/-- The access of the grant that the run has begun with. -/
def initialAccess : Members :=
  match session.control with
  | some control =>
    if isVersion (get control "version") then accessOf control
    else [(text "version", .int 2), (text "network", .arr [])]
  | none => [(text "version", .int 2), (text "network", .arr [])]

/-- An entry of the catalog: the permission it takes, and what else it says. -/
def catalogEntry (permission : Value) (members : Members) (available : Bool) : Value :=
  .obj ((text "version", .int 2) :: (text "permission", permission) :: members ++
    [(text "available", .bool available)])

def namesOf (names : List String) : Value := .arr (names.map fun name => .str (text name))

/-- The operations, as the host describes them to a package. -/
def catalog (infers : Bool) : Members :=
  [(text "ai.infer", catalogEntry (.str (text "inference.request"))
      [(text "required", namesOf ["instructions", "input"]),
        (text "optional", namesOf ["max_output_bytes"])] infers),
    (text "runtime.yield", catalogEntry (.str (text "workspace.continue")) [] true),
    (text "runtime.wait", catalogEntry (.str (text "workspace.continue"))
      [(text "required", namesOf ["milliseconds"]), (text "max_milliseconds", .int 60000)] true),
    (text "api.describe", catalogEntry .null [] true),
    (text "http.request", catalogEntry (.str (text "network.http"))
      [(text "max_body_bytes", .int maxBodyBytes),
        (text "required", namesOf ["url", "method"]),
        (text "optional", namesOf ["headers", "body", "credential", "auth", "max_response_bytes",
          "response_json_paths"]),
        (text "max_response_bytes", .int maxResponseBodyBytes),
        (text "max_response_json_source_bytes", .int maxResponseJsonSourceBytes),
        (text "max_response_json_paths", .int maxResponseJsonPaths),
        (text "max_response_json_path_depth", .int maxResponseJsonPathDepth),
        (text "outcomes", namesOf ["response", "not_dispatched", "unknown"])] true),
    (text "storage.read", catalogEntry (.str (text "state.plugin.read_write"))
      [(text "required", namesOf ["key"])] true),
    (text "storage.write", catalogEntry (.str (text "state.plugin.read_write"))
      [(text "required", namesOf ["key", "value"])] true)]

/-- What is done for one request. -/
def operation (request : Members) (kind : Text) : Run Members :=
  if kind = text "runtime.yield" then pure []
  else if kind = text "runtime.wait" then delay request
  else if kind = text "api.describe" then
    pure [(text "catalog", .obj (catalog session.host.infers))]
  else if kind = text "ai.infer" then OptionT.lift (infer session request)
  else if kind = text "http.request" then do
    let outcome ← OptionT.lift (http session request (initialAccess session))
    pure (outcomeMembers outcome)
  else if kind = text "storage.read" then do
    bound session (text "state.plugin.read_write")
    storageRead request
  else if kind = text "storage.write" then do
    bound session (text "state.plugin.read_write")
    storageWrite request
  else throws

/-! ### The run -/

/-- What the package is told about the grant. -/
def packageRequest (action : Text) (continuation : Continuation) (result : Option Members)
    (current : Option Members) (observed : Observed) : PackageRequest :=
  let running := current.any fun control => isVersion (get control "version") &&
    workspaceExecutionEnabled control && workspaceExecutionIsActive control observed.nowMs
  { action := action
    context := continuation.context
    state := continuation.state
    settings := session.settings
    observedAtMs := observed.nowMs
    enabled := running
    scope := ((current.filter fun control => isVersion (get control "version")).map fun control =>
      get control "scope").getD .null
    running := running && current.any fun control => !isNull (get (scopeOf control) "action")
    result := result }

/-- A map that may be null. -/
def stateOf (output : Members) : Option (Option Members) :=
  match get output "state" with
  | .null => some none
  | .obj members => some (some members)
  | _ => none

def saveState (state : Option Members) : Run Unit :=
  match state with
  | some members =>
    if session.persistent then do
      let written ← orThrow (encode (.obj members))
      writePluginState workspaceFile written
    else pure ()
  | none => pure ()

/-- One call of the package: its output, and what it leaves. -/
def invoke (action : Text) (continuation : Continuation) (result : Option Members) :
    Run (Members × Continuation × Members) := do
  bound session (text "workspace.continue")
  let current ← readExecution session.toInvocation []
  let observed ← observe
  let response ← executePackage (packageRequest session action continuation result current observed)
  bound session (text "workspace.continue")
  demand (response.packageId == some session.record.id &&
    response.packageDigestHex == some session.digest && response.executed)
  let output ← orThrow response.output
  let state ← orThrow (stateOf output)
  saveState session state
  let view ← orThrow (mapOf (get output "view"))
  pure (output, ⟨get output "context", state⟩, view)

/-- The single request of an output, none where it asks for nothing. -/
def requestOf (output : Members) : Option (Option Members) :=
  match get output "requests" with
  | .arr [] => some none
  | .arr [.obj request] => some (some request)
  | _ => none

/-- Requests are carried out as long as there are any, up to a number of steps. -/
def continueRun : ℕ → Members × Continuation × Members → Run Members
  | 0, _ => throws
  | steps + 1, (output, continuation, view) => do
    match ← orThrow (requestOf output) with
    | none =>
      let _ ← readExecution session.toInvocation []
      pure view
    | some request =>
      let kind ← orThrow (stringOf (get request "kind"))
      let next ← orThrow (stringOf (get request "continuation"))
      let result ← operation session request kind
      let called ← invoke session next continuation
        (some ((text "id", get request "id") :: result))
      continueRun steps called

end Effects

/-- The state that the package has saved. -/
def savedState (invocation : Invocation) (persistent : Bool) : Run (Option Members) := do
  if persistent then
    match ← readPluginState workspaceFile with
    | none => pure none
    | some raw =>
      let members ← orThrow ((JsonText.decode invocation.host.library.doubleText raw).bind mapOf)
      pure (some members)
  else pure none

/-- The settings of the grant, where the caller gives none. -/
def effectiveSettings (settings : Members) (control : Option Members) : Members :=
  if settings.isEmpty then
    (control.bind fun control => mapOf (get control "settings")).getD []
  else settings

def runWorkspaceOwned (invocation : Invocation) (action : Text) (settings : Members) :
    Run Members := do
  createDirectory
  let initial ← resolveRuntimeBinding
  let digest ← orThrow initial.packageDigestHex
  demand (initial.packageId == some invocation.record.id)
  let persistent := initial.capabilities.contains (text "state.plugin.read_write")
  let state ← savedState invocation persistent
  let control ← readExecution invocation []
  let session : Session :=
    { invocation with
      digest := digest
      persistent := persistent
      control := control
      settings := effectiveSettings settings control }
  let called ← invoke session action ⟨.null, state⟩ none
  continueRun session 512 called

end PluginWorkspaceRuntime

end Hivra
