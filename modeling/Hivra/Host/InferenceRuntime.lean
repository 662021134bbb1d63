import Hivra.Host.CredentialStore
import Hivra.Lib.TicketLine

namespace Hivra

open OrderedMap Processes TicketLine

/-!
# Inference of a capsule

A request is bound to a connection, its key, its address and a model when it is submitted, and
waits in a line that all capsules share.  When its turn comes the runtime looks whether all of it
still holds, asks the owner's permission where there is one to ask, looks once more and asks the
model; and the answer goes back only if it is still wanted.  A newer request of the same scope
supersedes the older ones.

* `validateRequest`, `bindRequest` — what is looked at when a request is submitted.
* `MayDispatch` — what is looked at before the model is asked.
* `infer`, `inferAuthorized` — the calls.
-/

namespace AiRuntime

open AiCredentials

/-! ### Requests -/

inductive ProviderPolicy
  | preferred
  | explicit
  deriving DecidableEq

inductive ModelPolicy
  | providerDefault
  | explicit
  deriving DecidableEq

structure InferenceRequest where
  requestId : String
  capsuleRootHex : String
  capabilityId : String
  disclosureSchemaVersion : ℤ
  disclosureHashHex : String
  disclosedSectionIds : List String
  disclosureByteCount : ℤ
  proposalSchemaId : String
  proposalSchemaVersion : ℤ
  providerPolicy : ProviderPolicy
  providerId : Option String
  modelPolicy : ModelPolicy
  model : Option String
  maxInputBytes : ℤ
  maxOutputBytes : ℤ
  timeoutMilliseconds : ℤ
  maxConcurrentRequests : ℤ
  cancellationScope : String
  instructions : String
  inputJson : String
  deriving DecidableEq

/-- SHA-256 of a text in hexadecimal digits, a document in its canonical form, and the document of
    a request that is its identity. -/
structure Texts where
  sha256Hex : String → String
  canonicalJson : String → Option String
  identityJson : InferenceRequest → String

variable (texts : Texts)

def maxSupportedInputBytes : ℤ := 131072

def maxSupportedOutputBytes : ℤ := 32768

def maxSupportedTimeoutMilliseconds : ℤ := 120000

/-- A request with its texts normalized and its evidence computed. -/
def createRequest (raw : InferenceRequest) : Option InferenceRequest :=
  (texts.canonicalJson raw.inputJson).map fun inputJson =>
    let request : InferenceRequest := { raw with
      requestId := ""
      capsuleRootHex := trimmedLower raw.capsuleRootHex
      capabilityId := trimmed raw.capabilityId
      disclosureHashHex := texts.sha256Hex inputJson
      disclosedSectionIds := (((raw.disclosedSectionIds.map trimmed).filter
        fun sectionId => sectionId != "").dedup).mergeSort fun a b => decide (a ≤ b)
      disclosureByteCount := inputJson.utf8ByteSize
      proposalSchemaId := trimmed raw.proposalSchemaId
      providerId := raw.providerId.map trimmedLower
      model := raw.model.map trimmed
      maxConcurrentRequests := 1
      cancellationScope := trimmed raw.cancellationScope
      instructions := trimmed raw.instructions
      inputJson := inputJson }
    { request with requestId := texts.sha256Hex (texts.identityJson request) }

def hasValidProviderPolicy (request : InferenceRequest) : Bool :=
  match request.providerPolicy with
  | .preferred => request.providerId.isNone
  | .explicit => isGiven request.providerId

def hasValidModelPolicy (request : InferenceRequest) : Bool :=
  match request.modelPolicy with
  | .providerDefault => request.model.isNone
  | .explicit =>
    match request.model with
    | none => false
    | some model => model != "" && decide (model.utf8ByteSize ≤ 256) && !model.toList.any isControl

/-- What is checked of a request. -/
def validateRequest (request : InferenceRequest) : Bool :=
  isHex64 request.requestId && isHex64 request.capsuleRootHex &&
    isHex64 request.disclosureHashHex && request.capabilityId != "" &&
    request.disclosureSchemaVersion == 1 && !request.disclosedSectionIds.isEmpty &&
    request.proposalSchemaId != "" && request.proposalSchemaVersion == 1 &&
    hasValidProviderPolicy request && hasValidModelPolicy request &&
    request.cancellationScope != "" && request.instructions != "" &&
    request.maxConcurrentRequests == 1 &&
    decide (1 ≤ request.maxInputBytes ∧ request.maxInputBytes ≤ maxSupportedInputBytes) &&
    decide (1 ≤ request.maxOutputBytes ∧ request.maxOutputBytes ≤ maxSupportedOutputBytes) &&
    decide (1 ≤ request.timeoutMilliseconds ∧
      request.timeoutMilliseconds ≤ maxSupportedTimeoutMilliseconds) &&
    request.disclosureByteCount == request.inputJson.utf8ByteSize &&
    request.disclosureHashHex == texts.sha256Hex request.inputJson &&
    decide ((request.inputJson.utf8ByteSize : ℤ) ≤ request.maxInputBytes)

/-- Requests of one scope supersede one another. -/
def scopeKey (request : InferenceRequest) : String :=
  request.capsuleRootHex ++ ":" ++ request.capabilityId ++ ":" ++ request.cancellationScope

/-! ### What a request is bound to -/

/-- What the runtime sees of the credentials and of the open capsule. -/
structure View where
  session : Session
  preferences : Preferences
  capsule : Option String

def View.activeCapsuleRootHex (view : View) : Option String :=
  (view.capsule.map trimmedLower).filter isHex64

def requireProvider (connections : Connections) (providerId : String) :
    Option InferenceConnection :=
  (allConnections connections).find? fun provider => provider.id == trimmedLower providerId

def resolveProvider (view : View) (request : InferenceRequest) : Option InferenceConnection :=
  match request.providerPolicy with
  | .preferred => view.session.preferredProvider
  | .explicit => requireProvider view.preferences.connections (request.providerId.getD "")

def preferredModel (preferences : Preferences) (provider : InferenceConnection) : String :=
  (lookup preferences.preferredModels provider).getD provider.defaultModel

/-- A request as it was submitted: its connection, its address, its key and, in the request, its
    model; and whether the owner is asked. -/
structure Binding where
  request : InferenceRequest
  provider : InferenceConnection
  baseUrl : Option String
  apiKey : Option String
  asksOwner : Bool

/-- The connection, address, key and model a request is bound to. -/
def bindRequest (view : View) (request : InferenceRequest) (asksOwner : Bool) : Option Binding :=
  if validateRequest texts request then do
    let provider ← resolveProvider view request
    let model := match request.modelPolicy with
      | .providerDefault => preferredModel view.preferences provider
      | .explicit => request.model.getD ""
    let bound ← createRequest texts { request with
      providerPolicy := .explicit
      providerId := some provider.id
      modelPolicy := .explicit
      model := some model }
    some ⟨bound, provider, view.session.baseUrl provider, view.session.apiKeys provider, asksOwner⟩
  else none

/-- The connection is still there and open, with the same address and the same key. -/
structure IsBoundConnection (view : View) (binding : Binding) : Prop where
  saved : requireProvider view.preferences.connections (binding.request.providerId.getD "") =
    some binding.provider
  preferred : view.session.preferredProvider = some binding.provider
  unlocked : view.session.isPreferredProviderUnlocked = true
  baseUrl : view.session.baseUrl binding.provider = binding.baseUrl
  apiKey : view.session.apiKeys binding.provider = binding.apiKey

/-! ### The runtime -/

/-- What a provider answers. -/
structure ProviderResponse where
  text : String
  model : String
  provider : InferenceConnection

/-- What the adapter of a provider is asked. -/
structure Asked where
  provider : InferenceConnection
  apiKey : String
  model : String
  baseUrl : Option String
  instructions : String
  inputJson : String
  deriving DecidableEq

structure InferenceResult where
  requestId : String
  capsuleRootHex : String
  capabilityId : String
  disclosureHashHex : String
  proposalSchemaId : String
  proposalSchemaVersion : ℤ
  proposalText : String
  providerId : String
  providerLabel : String
  model : String
  responseHashHex : String

/-- What happens to a request, in the order in which it happens, with what the runtime saw. -/
inductive Record (ι : Type)
  | submitted (call : ι) (binding : Binding)
  | began (call : ι)
  | authorized (call : ι)
  | asked (call : ι) (question : Asked) (view : View)
  | returned (call : ι) (view : View)

/-- The credentials, the capsule that the host names as the open one, and the line. -/
structure RuntimeWorld (ι : Type) where
  store : StoreWorld ι
  capsule : Option String
  line : Line String ι
  log : List (Record ι)

def RuntimeWorld.view {ι : Type} (world : RuntimeWorld ι) : View :=
  ⟨world.store.session, world.store.preferences, world.capsule⟩

abbrev QueuedRequest (ι : Type) := Binding × Ticket String ι

inductive RuntimeAction (ι : Type)
  | store (action : StoreAction)
  | setCapsule (capsule : Option String)
  | look
  | submit (request : InferenceRequest) (asksOwner : Bool)
  /-- The turn of a request comes. -/
  | begin (entry : QueuedRequest ι)
  /-- The owner was asked. -/
  | dispatch (entry : QueuedRequest ι) (adapter : InferenceConnection)
  /-- The provider has answered, or the time is over. -/
  | receive (entry : QueuedRequest ι)
  | finish (entry : QueuedRequest ι)

@[reducible] def RuntimeAnswer (ι : Type) : RuntimeAction ι → Type
  | .store action => StoreAnswer action
  | .look => View
  | .submit .. => Option (QueuedRequest ι)
  | .begin _ => Option InferenceConnection
  | .dispatch .. => Bool
  | .receive _ => Option InferenceResult
  | _ => Unit

/-- What is outside of the runtime: whether the storage works, what the owner says, which provider
    the adapter is for, and what it answers. -/
structure Outside where
  works : Bool
  authorizes : Bool
  adapter : InferenceConnection
  response : Option ProviderResponse

section Effect

variable {ι : Type} [DecidableEq ι]

/-- The request is the newest one of its scope, its capsule is open, and so is its connection. -/
structure MayDispatch (world : RuntimeWorld ι) (entry : QueuedRequest ι) : Prop where
  current : world.line.IsCurrent entry.2
  capsule : world.view.activeCapsuleRootHex = some entry.1.request.capsuleRootHex
  connection : IsBoundConnection world.view entry.1

instance (view : View) (binding : Binding) : Decidable (IsBoundConnection view binding) :=
  decidable_of_iff
    (requireProvider view.preferences.connections (binding.request.providerId.getD "") =
        some binding.provider ∧
      view.session.preferredProvider = some binding.provider ∧
      view.session.isPreferredProviderUnlocked = true ∧
      view.session.baseUrl binding.provider = binding.baseUrl ∧
      view.session.apiKeys binding.provider = binding.apiKey)
    ⟨fun ⟨h₁, h₂, h₃, h₄, h₅⟩ => ⟨h₁, h₂, h₃, h₄, h₅⟩,
      fun ⟨h₁, h₂, h₃, h₄, h₅⟩ => ⟨h₁, h₂, h₃, h₄, h₅⟩⟩

instance (world : RuntimeWorld ι) (entry : QueuedRequest ι) :
    Decidable (MayDispatch world entry) :=
  decidable_of_iff (world.line.IsCurrent entry.2 ∧
      world.view.activeCapsuleRootHex = some entry.1.request.capsuleRootHex ∧
      IsBoundConnection world.view entry.1)
    ⟨fun ⟨h₁, h₂, h₃⟩ => ⟨h₁, h₂, h₃⟩, fun ⟨h₁, h₂, h₃⟩ => ⟨h₁, h₂, h₃⟩⟩

/-- The question of a request. -/
def question (binding : Binding) (adapter : InferenceConnection) : Asked where
  provider := adapter
  apiKey := binding.apiKey.getD ""
  model := binding.request.model.getD ""
  baseUrl := binding.baseUrl
  instructions := binding.request.instructions
  inputJson := binding.request.inputJson

/-- The result of an answer, if it is one to the question. -/
def resultOf (binding : Binding) (response : ProviderResponse) : Option InferenceResult :=
  let proposalText := trimmed response.text
  let responseModel := trimmed response.model
  if response.provider ≠ binding.provider ∨ responseModel = "" ∨
      responseModel ≠ binding.request.model.getD "" then none
  else if proposalText = "" ∨
      binding.request.maxOutputBytes < (proposalText.utf8ByteSize : ℤ) then none
  else some {
    requestId := binding.request.requestId
    capsuleRootHex := binding.request.capsuleRootHex
    capabilityId := binding.request.capabilityId
    disclosureHashHex := binding.request.disclosureHashHex
    proposalSchemaId := binding.request.proposalSchemaId
    proposalSchemaVersion := binding.request.proposalSchemaVersion
    proposalText := proposalText
    providerId := response.provider.id
    providerLabel := response.provider.label
    model := responseModel
    responseHashHex := texts.sha256Hex proposalText }

def RuntimeWorld.note (world : RuntimeWorld ι) (record : Record ι) : RuntimeWorld ι :=
  { world with log := world.log ++ [record] }

/-- What an action does. -/
def runtimeEffect : Effect (RuntimeWorld ι) Outside ι (RuntimeAnswer ι) :=
  fun i action outside world =>
    match action with
    | .store action =>
      ((storeEffect i action outside.works world.store).1,
        { world with store := (storeEffect i action outside.works world.store).2 })
    | .setCapsule capsule => ((), { world with capsule := capsule })
    | .look => (world.view, world)
    | .submit request asksOwner =>
      match bindRequest texts world.view request asksOwner with
      | none => (none, world)
      | some binding =>
        (some (binding, world.line.nextTicket (scopeKey binding.request) i),
          { world with line := world.line.enter (scopeKey binding.request) i }.note
            (.submitted i binding))
    | .begin entry =>
      (if MayDispatch world entry then some outside.adapter else none, world.note (.began i))
    | .dispatch entry adapter =>
      if entry.1.asksOwner && !outside.authorizes then (false, world)
      else
        let granted := if entry.1.asksOwner then world.note (.authorized i) else world
        if MayDispatch world entry then
          (true, granted.note (.asked i (question entry.1 adapter) world.view))
        else (false, granted)
    | .receive entry =>
      match outside.response with
      | none => (none, world)
      | some response =>
        if world.line.IsCurrent entry.2 ∧
            world.view.activeCapsuleRootHex = some entry.1.request.capsuleRootHex then
          match resultOf texts entry.1 response with
          | none => (none, world)
          | some result => (some result, world.note (.returned i world.view))
        else (none, world)
    | .finish entry => ((), { world with line := world.line.leave entry.2 })

end Effect

/-! ### Calls -/

abbrev RuntimeProcess (ι : Type) := Process (RuntimeAction ι) (RuntimeAnswer ι)

section Calls

variable {ι : Type} (addresses : Addresses)

def act (action : RuntimeAction ι) : RuntimeProcess ι (RuntimeAnswer ι action) :=
  Process.perform action

/-- A call of the credential store. -/
def storeCall {α : Type} (process : StoreProcess α) : RuntimeProcess ι α :=
  process.lift .store fun _ answer => answer

/-- The part of a request whose exceptions are the caller's. -/
def executeRequest (entry : QueuedRequest ι) : RuntimeProcess ι (Outcome InferenceResult) := do
  match ← act (.begin entry) with
  | none => return .error ()
  | some adapter =>
    if adapter ≠ entry.1.provider then return .error ()
    else if ← act (.dispatch entry adapter) then
      match ← act (.receive entry) with
      | none => return .error ()
      | some result => return .ok result
    else return .error ()

def enqueue (request : InferenceRequest) (asksOwner : Bool) :
    RuntimeProcess ι (Outcome InferenceResult) := do
  match ← act (.submit request asksOwner) with
  | none => return .error ()
  | some entry =>
    let result ← executeRequest entry
    act (.finish entry)
    return result

def infer (request : InferenceRequest) : RuntimeProcess ι (Outcome InferenceResult) :=
  enqueue request false

def unlockProvider (view : View) (request : InferenceRequest) : RuntimeProcess ι (Outcome Unit) :=
  match request.providerPolicy with
  | .explicit =>
    match requireProvider view.preferences.connections (request.providerId.getD "") with
    | none => return .error ()
    | some provider => storeCall (unlockProviderSession addresses provider)
  | .preferred => storeCall (unlockPreferredProviderSession addresses)

def inferAuthorized (request : InferenceRequest) :
    RuntimeProcess ι (Outcome InferenceResult) := do
  let view ← act .look
  if view.session.isPreferredProviderUnlocked then enqueue request true
  else if validateRequest texts request = true ∧
      view.activeCapsuleRootHex = some request.capsuleRootHex then
    match ← unlockProvider addresses view request with
    | .error _ => return .error ()
    | .ok _ => enqueue request true
  else return .error ()

end Calls

end AiRuntime

end Hivra
