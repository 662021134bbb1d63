import Hivra.Host.HostTexts
import Hivra.Lib.OrderedMap
import Hivra.Lib.Processes

namespace Hivra

open OrderedMap Processes

/-!
# The connections of the AI and their credentials

The host knows a few inference connections and keeps those that the owner has added.  Which one is
preferred and which models were chosen is kept with them in a file; the keys are in the secure
storage of the platform.  While the app runs, the credentials that were opened are in a session.

What touches the file runs in a task, and the tasks run one after the other; the secure storage is
asked at any time, and may take any time to answer.  Whether what is asked outside works is chosen
there.

* `readDocument`, `document` — the file.
* `loadPreferences`, `writePreferences` — what the tasks are made of.
* `addConnection`, `removeConnection`, `saveApiKey`, … — the calls.
-/

namespace AiCredentials

/-! ### Connections -/

inductive InferenceProtocol
  | responses
  | chatCompletions
  | generateContent
  deriving DecidableEq

def InferenceProtocol.name : InferenceProtocol → String
  | .responses => "responses"
  | .chatCompletions => "chatCompletions"
  | .generateContent => "generateContent"

def InferenceProtocol.ofName (name : String) : Option InferenceProtocol :=
  [.responses, .chatCompletions, .generateContent].find? fun protocol => protocol.name == name

theorem InferenceProtocol.ofName_name (protocol : InferenceProtocol) :
    ofName protocol.name = some protocol := by
  cases protocol <;> decide

/-- A destination; one that the owner has added has a base address. -/
structure InferenceConnection where
  id : String
  label : String
  defaultModel : String
  protocol : InferenceProtocol
  baseUrl : Option String
  requiresApiKey : Bool
  deriving DecidableEq

def openAi : InferenceConnection where
  id := "openai"
  label := "OpenAI"
  defaultModel := "gpt-5.5"
  protocol := .responses
  baseUrl := none
  requiresApiKey := true

def gemini : InferenceConnection where
  id := "gemini"
  label := "Gemini"
  defaultModel := "gemini-3.8-flash"
  protocol := .generateContent
  baseUrl := none
  requiresApiKey := true

def cloudflareWorkersAi : InferenceConnection where
  id := "cloudflare_workers_ai"
  label := "Cloudflare Workers AI"
  defaultModel := "@cf/meta/llama-3.3-70b-instruct-fp8-fast"
  protocol := .chatCompletions
  baseUrl := none
  requiresApiKey := true

def localOpenAiCompatible : InferenceConnection where
  id := "local_openai_compatible"
  label := "Local OpenAI-compatible"
  defaultModel := "llama3.1:8b"
  protocol := .chatCompletions
  baseUrl := none
  requiresApiKey := false

/-- The connections that are built in. -/
def builtIn : List InferenceConnection :=
  [openAi, gemini, cloudflareWorkersAi, localOpenAiCompatible]

def InferenceConnection.requiresBaseUrl (connection : InferenceConnection) : Bool :=
  connection.baseUrl.isSome || connection == localOpenAiCompatible ||
    connection == cloudflareWorkersAi

def InferenceConnection.isCustom (connection : InferenceConnection) : Bool :=
  connection.baseUrl.isSome

/-- The host's parser of addresses: the address as it is written, none if it is not one; and the
    check of an address for the Cloudflare protocol. -/
structure Addresses where
  validateBaseUrl : String → Option String
  isCloudflareBase : String → Bool
  /-- An address that was parsed is read as itself. -/
  idempotent : ∀ text address, validateBaseUrl text = some address →
    validateBaseUrl address = some address

def isControl (c : Char) : Bool := c.toNat ≤ 0x1f || c.toNat == 0x7f

def validateModel (model : String) : Option String :=
  let normalized := trimmed model
  if normalized = "" ∨ 256 < normalized.utf8ByteSize ∨ normalized.toList.any isControl = true then
    none
  else some normalized

theorem validateModel_validateModel {model normalized : String}
    (h : validateModel model = some normalized) : validateModel normalized = some normalized := by
  unfold validateModel at h ⊢
  dsimp only at h ⊢
  split_ifs at h with hbad
  obtain rfl := Option.some.inj h
  rw [trimmed_trimmed, if_neg hbad]

/-! ### The file -/

/-- What the file says of a connection that was added. -/
structure ConnectionEntry where
  id : String
  name : String
  protocol : String
  baseUrl : String
  model : String
  requiresApiKey : Bool
  deriving DecidableEq

structure PreferenceDocument where
  providerId : Option String
  connections : List ConnectionEntry
  models : List (String × String)
  deriving DecidableEq

abbrev Connections := List (String × InferenceConnection)

abbrev Models := List (InferenceConnection × String)

structure LoadedPreferences where
  connections : Connections
  provider : Option InferenceConnection
  models : Models
  deriving DecidableEq

/-- `connection_` and 32 lower-case hexadecimal digits. -/
def isConnectionId (id : String) : Bool :=
  "connection_".toList.isPrefixOf id.toList && (id.toList.drop 11).length == 32 &&
    (id.toList.drop 11).all fun c => c.isDigit || (decide ('a' ≤ c) && decide (c ≤ 'f'))

variable (addresses : Addresses)

/-- A connection of the file, if it is a good one. -/
def readEntry (entry : ConnectionEntry) : Option InferenceConnection :=
  if isConnectionId entry.id = true ∧ trimmed entry.name ≠ "" ∧ dartLength entry.name ≤ 80 then do
    let protocol ← InferenceProtocol.ofName entry.protocol
    let baseUrl ← addresses.validateBaseUrl entry.baseUrl
    let model ← validateModel entry.model
    some ⟨entry.id, entry.name, model, protocol, some baseUrl, entry.requiresApiKey⟩
  else none

/-- The loop over the connections of the file; each id is there once. -/
def readConnections : Connections → List ConnectionEntry → Option Connections
  | loaded, [] => some loaded
  | loaded, entry :: rest =>
    if contains loaded entry.id then none
    else (readEntry addresses entry).bind fun connection =>
      readConnections (put loaded connection.id connection) rest

/-- The connections there are. -/
def allConnections (connections : Connections) : List InferenceConnection :=
  builtIn ++ connections.map Prod.snd

def providerForId (connections : Connections) (id : String) : Option InferenceConnection :=
  (allConnections connections).find? fun provider => provider.id == trimmed id

/-- The loop over the models of the file; none is for an unknown connection. -/
def readModels (connections : Connections) : Models → List (String × String) → Option Models
  | models, [] => some models
  | models, (id, model) :: rest =>
    (providerForId connections id).bind fun provider =>
      (validateModel model).bind fun model =>
        readModels connections (put models provider model) rest

/-- What a file says, if it is accepted. -/
def readDocument (existing : Connections) (doc : PreferenceDocument) :
    Option LoadedPreferences := do
  let loaded ← readConnections addresses [] doc.connections
  let connections := loaded.foldl (fun all entry => put all entry.1 entry.2) existing
  let provider := providerForId connections (doc.providerId.getD "")
  if doc.providerId.isSome && provider.isNone then none
  else do
    let models ← readModels connections [] doc.models
    some ⟨connections, provider, models⟩

def entryOf (connection : InferenceConnection) : ConnectionEntry where
  id := connection.id
  name := connection.label
  protocol := connection.protocol.name
  baseUrl := connection.baseUrl.getD ""
  model := connection.defaultModel
  requiresApiKey := connection.requiresApiKey

/-- The file of some preferences; none if there is nothing to say. -/
def document (provider : Option InferenceConnection) (models : Models)
    (connections : Connections) : Option PreferenceDocument :=
  if provider = none ∧ models = [] ∧ connections = [] then none
  else some {
    providerId := provider.map InferenceConnection.id
    connections := connections.map fun entry => entryOf entry.2
    models := models.map fun entry => (entry.1.id, entry.2) }

/-! ### The store -/

/-- The entries of the secure storage. -/
inductive SecretKey
  | openAiApiKey
  | geminiApiKey
  | cloudflareApiKey
  | cloudflareBaseUrl
  | localOpenAiApiKey
  | localOpenAiBaseUrl
  | connectionApiKey (id : String)
  | preferredProvider
  deriving DecidableEq

def keyForProvider (provider : InferenceConnection) : SecretKey :=
  if provider = openAi then .openAiApiKey
  else if provider = gemini then .geminiApiKey
  else if provider = cloudflareWorkersAi then .cloudflareApiKey
  else if provider = localOpenAiCompatible then .localOpenAiApiKey
  else .connectionApiKey provider.id

def baseUrlKeyForProvider (provider : InferenceConnection) : Option SecretKey :=
  if provider = cloudflareWorkersAi then some .cloudflareBaseUrl
  else if provider = localOpenAiCompatible then some .localOpenAiBaseUrl
  else none

/-- The credentials that are open. -/
structure Session where
  apiKeys : InferenceConnection → Option String
  baseUrls : InferenceConnection → Option String
  preferredProvider : Option InferenceConnection

def Session.locked : Session where
  apiKeys := fun _ => none
  baseUrls := fun _ => none
  preferredProvider := none

structure Preferences where
  connections : Connections
  preferredModels : Models
  cachedPreferredProvider : Option InferenceConnection
  preferencesLoaded : Bool
  deriving DecidableEq

/-- What was loaded is forgotten; that it was loaded is not. -/
def Preferences.cleared (preferences : Preferences) : Preferences :=
  { preferences with connections := [], preferredModels := [], cachedPreferredProvider := none }

structure StoreWorld (ι : Type) where
  session : Session
  preferences : Preferences
  file : Option PreferenceDocument
  secrets : SecretKey → Option String
  /-- The tasks that wait, and the one that runs. -/
  waiting : List ι
  running : Option ι

inductive StoreAction
  | look
  | changeSession (change : Session → Session)
  | enqueue
  | enter
  | leave
  | readSecret (key : SecretKey)
  | writeSecret (key : SecretKey) (value : String)
  | deleteSecret (key : SecretKey)
  /-- Delete the preferred provider of an older version; `migrating` after it was taken over. -/
  | forgetLegacy (migrating : Bool)
  | readFile
  /-- Write the file, or delete it.  When this fails a connection may be put back; `gone` says
      that it was not there before. -/
  | writeFile (doc : Option PreferenceDocument) (gone : Bool)
  | install (loaded : LoadedPreferences)
  | abandon
  | setLoaded
  | settle (provider : Option InferenceConnection) (models : Models)
  | copyModels (provider : InferenceConnection)
  | putConnection (connection : InferenceConnection)
  | dropConnection (connection : InferenceConnection)
  | undoConnection (connection : InferenceConnection)
  | restoreConnection (connection : InferenceConnection)

/-- What an action is answered.  What is asked outside may fail. -/
@[reducible] def StoreAnswer : StoreAction → Type
  | .look => Session × Preferences
  | .changeSession _ => Session
  | .readSecret _ => Option (Option String)
  | .writeSecret .. | .deleteSecret _ | .forgetLegacy _ | .writeFile .. => Bool
  | .readFile => Option (Option PreferenceDocument)
  | .copyModels _ | .putConnection _ | .dropConnection _ => Preferences
  | _ => Unit

/-- What an action does.  The choice is whether it works, where it is asked outside. -/
def storeEffect {ι : Type} [DecidableEq ι] : Effect (StoreWorld ι) Bool ι StoreAnswer :=
  fun i action works world =>
    match action with
    | .look => ((world.session, world.preferences), world)
    | .changeSession change => (world.session, { world with session := change world.session })
    | .enqueue => ((), { world with waiting := world.waiting ++ [i] })
    | .enter => ((), { world with waiting := world.waiting.tail, running := some i })
    | .leave => ((), { world with running := none })
    | .readSecret key => (if works then some (world.secrets key) else none, world)
    | .writeSecret key value =>
      (works, if works then
        { world with secrets := Function.update world.secrets key (some value) } else world)
    | .deleteSecret key =>
      (works, if works then
        { world with secrets := Function.update world.secrets key none } else world)
    | .forgetLegacy _ =>
      (works, if works then
        { world with secrets := Function.update world.secrets .preferredProvider none } else world)
    | .readFile => (if works then some world.file else none, world)
    | .writeFile doc _ => (works, if works then { world with file := doc } else world)
    | .install loaded =>
      ((), { world with preferences := {
        connections := loaded.connections
        preferredModels := loaded.models.foldl (fun all entry => put all entry.1 entry.2)
          world.preferences.preferredModels
        cachedPreferredProvider := loaded.provider
        preferencesLoaded := true } })
    | .abandon => ((), { world with preferences := world.preferences.cleared })
    | .setLoaded =>
      ((), { world with preferences := { world.preferences with preferencesLoaded := true } })
    | .settle provider models =>
      ((), { world with preferences := {
        world.preferences with
        cachedPreferredProvider := provider
        preferredModels := models
        preferencesLoaded := true } })
    | .copyModels _ => (world.preferences, world)
    | .putConnection connection =>
      (world.preferences, { world with preferences := {
        world.preferences with
        connections := put world.preferences.connections connection.id connection } })
    | .dropConnection connection =>
      (world.preferences, { world with preferences := {
        world.preferences with
        connections := remove world.preferences.connections connection.id } })
    | .undoConnection connection =>
      ((), { world with preferences := {
        world.preferences with
        connections := remove world.preferences.connections connection.id } })
    | .restoreConnection connection =>
      ((), { world with preferences := {
        world.preferences with
        connections := put world.preferences.connections connection.id connection } })

abbrev StoreProcess := Process StoreAction StoreAnswer

def ask (action : StoreAction) : StoreProcess (StoreAnswer action) := Process.perform action

/-- What a call comes to; the texts of the errors are not told apart. -/
abbrev Outcome (α : Type) := Except Unit α

/-! ### Tasks -/

/-- Run as a task: behind all that wait, and before all that come. -/
def serializePreferences {α : Type} (task : StoreProcess α) : StoreProcess α := do
  ask .enqueue
  ask .enter
  let result ← task
  ask .leave
  return result

def writePreferences (provider : Option InferenceConnection) (models : Models) (gone : Bool) :
    StoreProcess (Outcome Unit) := do
  let (_, preferences) ← ask .look
  if ← ask (.writeFile (document provider models preferences.connections) gone) then
    ask (.settle provider models)
    return .ok ()
  else return .error ()

/-- What was read is given up. -/
def abandonLoad {α : Type} : StoreProcess (Outcome α) := do
  ask .abandon
  return .error ()

/-- Take over the preferred provider of an older version. -/
def migrateLegacyPreferredProvider : StoreProcess (Outcome (Option InferenceConnection)) := do
  match ← ask (.readSecret .preferredProvider) with
  | none => abandonLoad
  | some legacy =>
    let (_, preferences) ← ask .look
    match providerForId preferences.connections (legacy.getD "") with
    | none =>
      ask .setLoaded
      return .ok none
    | some provider =>
      match ← writePreferences (some provider) [] false with
      | .error _ => abandonLoad
      | .ok _ =>
        if ← ask (.forgetLegacy true) then
          ask .setLoaded
          return .ok (some provider)
        else abandonLoad

def loadPreferences : StoreProcess (Outcome (Option InferenceConnection)) := do
  let (_, preferences) ← ask .look
  if preferences.preferencesLoaded then return .ok preferences.cachedPreferredProvider
  else
    match ← ask .readFile with
    | none => abandonLoad
    | some none => migrateLegacyPreferredProvider
    | some (some doc) =>
      match readDocument addresses preferences.connections doc with
      | none => abandonLoad
      | some loaded =>
        ask (.install loaded)
        return .ok loaded.provider

def savePreferredTask (provider : InferenceConnection) (model : Option String) :
    StoreProcess (Outcome Unit) := do
  match ← loadPreferences addresses with
  | .error _ => return .error ()
  | .ok _ =>
    let preferences ← ask (.copyModels provider)
    let models := match model with
      | some model => put preferences.preferredModels provider model
      | none => preferences.preferredModels
    match ← writePreferences (some provider) models false with
    | .error _ => return .error ()
    | .ok _ =>
      let _ ← ask (.changeSession fun session =>
        { session with preferredProvider := some provider })
      return .ok ()

def clearProviderTask (provider : InferenceConnection) : StoreProcess (Outcome Unit) := do
  match ← loadPreferences addresses with
  | .error _ => return .error ()
  | .ok preferred =>
    let (_, preferences) ← ask .look
    match ← writePreferences (if preferred = some provider then none else preferred)
        (remove preferences.preferredModels provider) false with
    | .error _ => return .error ()
    | .ok _ =>
      if ← ask (.forgetLegacy false) then
        let _ ← ask (.changeSession fun session =>
          if session.preferredProvider = some provider then
            { session with preferredProvider := none } else session)
        return .ok ()
      else return .error ()

def addConnectionTask (connection : InferenceConnection) : StoreProcess (Outcome Unit) := do
  match ← loadPreferences addresses with
  | .error _ => return .error ()
  | .ok _ =>
    let preferences ← ask (.putConnection connection)
    match ← writePreferences (some connection) preferences.preferredModels false with
    | .error _ =>
      ask (.undoConnection connection)
      return .error ()
    | .ok _ => return .ok ()

def removeConnectionTask (connection : InferenceConnection) : StoreProcess (Outcome Unit) := do
  let preferences ← ask (.dropConnection connection)
  match ← writePreferences preferences.cachedPreferredProvider preferences.preferredModels
      (lookup preferences.connections connection.id != some connection) with
  | .error _ =>
    ask (.restoreConnection connection)
    return .error ()
  | .ok _ => return .ok ()

/-! ### Calls -/

def loadPreferredProvider : StoreProcess (Outcome (Option InferenceConnection)) :=
  serializePreferences (loadPreferences addresses)

/-- Save the preferred provider; a model that is not one is refused before the task. -/
def savePreferredProvider (provider : InferenceConnection) (model : Option String) :
    StoreProcess (Outcome Unit) :=
  match model with
  | none => serializePreferences (savePreferredTask addresses provider none)
  | some model =>
    match validateModel model with
    | none => return .error ()
    | some normalized =>
      serializePreferences (savePreferredTask addresses provider (some normalized))

def setApiKey (provider : InferenceConnection) (key : Option String) (session : Session) :
    Session :=
  { session with apiKeys := Function.update session.apiKeys provider key }

def setBaseUrl (provider : InferenceConnection) (baseUrl : Option String) (session : Session) :
    Session :=
  { session with baseUrls := Function.update session.baseUrls provider baseUrl }

/-- A key is written unless it is there, read back, and kept in the session. -/
def saveApiKey (provider : InferenceConnection) (apiKey : String) :
    StoreProcess (Outcome Unit) := do
  let normalized := trimmed apiKey
  if normalized = "" then return .error ()
  else
    match ← ask (.readSecret (keyForProvider provider)) with
    | none => return .error ()
    | some existing =>
      if existing = some normalized then
        let _ ← ask (.changeSession (setApiKey provider normalized))
        savePreferredProvider addresses provider none
      else if ← ask (.writeSecret (keyForProvider provider) normalized) then
        match ← ask (.readSecret (keyForProvider provider)) with
        | none => return .error ()
        | some stored =>
          if stored = some normalized then
            let _ ← ask (.changeSession (setApiKey provider normalized))
            savePreferredProvider addresses provider none
          else return .error ()
      else return .error ()

def clearApiKey (provider : InferenceConnection) : StoreProcess (Outcome Unit) := do
  let _ ← ask (.changeSession (setApiKey provider none))
  if ← ask (.deleteSecret (keyForProvider provider)) then
    serializePreferences (clearProviderTask addresses provider)
  else return .error ()

/-- An address is written, read back, and kept in the session. -/
def saveBaseUrl (provider : InferenceConnection) (baseUrl : String) :
    StoreProcess (Outcome Unit) := do
  let normalized := trimmed baseUrl
  match baseUrlKeyForProvider provider with
  | none => return .error ()
  | some key =>
    if normalized = "" ∨
        provider = cloudflareWorkersAi ∧ addresses.isCloudflareBase normalized = false then
      return .error ()
    else if ← ask (.writeSecret key normalized) then
      match ← ask (.readSecret key) with
      | none => return .error ()
      | some stored =>
        if stored = some normalized then
          let _ ← ask (.changeSession (setBaseUrl provider normalized))
          savePreferredProvider addresses provider none
        else return .error ()
    else return .error ()

def clearBaseUrl (provider : InferenceConnection) : StoreProcess (Outcome Unit) := do
  let _ ← ask (.changeSession (setBaseUrl provider none))
  match baseUrlKeyForProvider provider with
  | none => return .ok ()
  | some key =>
    if ← ask (.deleteSecret key) then
      serializePreferences (clearProviderTask addresses provider)
    else return .error ()

/-- The connection of an entry of the owner, under a new id of sixteen random bytes. -/
def newConnection (name : String) (protocol : InferenceProtocol) (baseUrl model : String)
    (requiresApiKey : Bool) (random : ByteString.Bytes 16) : Option InferenceConnection :=
  let label := trimmed name
  if label = "" ∨ 80 < dartLength label ∨ label.toList.any isControl = true then none
  else do
    let endpoint ← addresses.validateBaseUrl baseUrl
    let normalizedModel ← validateModel model
    some ⟨"connection_" ++ hexText random.toList, label, normalizedModel, protocol, some endpoint,
      requiresApiKey⟩

def addConnection (name : String) (protocol : InferenceProtocol) (baseUrl model : String)
    (requiresApiKey : Bool) (random : ByteString.Bytes 16) : StoreProcess (Outcome Unit) :=
  match newConnection addresses name protocol baseUrl model requiresApiKey random with
  | none => return .error ()
  | some connection => serializePreferences (addConnectionTask addresses connection)

/-- A connection goes with its key. -/
def removeConnection (id : String) : StoreProcess (Outcome Unit) := do
  match ← loadPreferredProvider addresses with
  | .error _ => return .error ()
  | .ok _ =>
    let (_, preferences) ← ask .look
    match lookup preferences.connections id with
    | none => return .error ()
    | some connection =>
      let _ ← ask (.changeSession fun session =>
        if session.preferredProvider = some connection then .locked else session)
      match ← clearApiKey addresses connection with
      | .error _ => return .error ()
      | .ok _ => serializePreferences (removeConnectionTask connection)

def loadApiKey (provider : InferenceConnection) : StoreProcess (Outcome (Option String)) := do
  let (session, _) ← ask .look
  match session.apiKeys provider with
  | some cached =>
    if cached ≠ "" then return .ok (some cached) else readApiKey
  | none => readApiKey
where
  readApiKey : StoreProcess (Outcome (Option String)) := do
    match ← ask (.readSecret (keyForProvider provider)) with
    | none => return .error ()
    | some stored =>
      let normalized := stored.map trimmed
      if normalized.getD "" = "" then return .ok none
      else
        let _ ← ask (.changeSession (setApiKey provider normalized))
        return .ok normalized

def loadBaseUrl (provider : InferenceConnection) : StoreProcess (Outcome (Option String)) := do
  if provider.isCustom then return .ok provider.baseUrl
  else
    let (session, _) ← ask .look
    match session.baseUrls provider with
    | some cached => if cached ≠ "" then return .ok (some cached) else readBaseUrl
    | none => readBaseUrl
where
  readBaseUrl : StoreProcess (Outcome (Option String)) := do
    match baseUrlKeyForProvider provider with
    | none => return .ok none
    | some key =>
      match ← ask (.readSecret key) with
      | none => return .error ()
      | some stored =>
        let normalized := stored.map trimmed
        if normalized.getD "" = "" then return .ok none
        else
          let _ ← ask (.changeSession (setBaseUrl provider normalized))
          return .ok normalized

/-- A session is unlocked where the key and the address that the provider needs are stored. -/
def unlockProviderSession (provider : InferenceConnection) : StoreProcess (Outcome Unit) := do
  match ← loadPreferredProvider addresses with
  | .error _ => return .error ()
  | .ok _ =>
    match ← loadApiKey provider with
    | .error _ => return .error ()
    | .ok apiKey =>
      if provider.requiresApiKey = true ∧ apiKey.getD "" = "" then return .error ()
      else
        match ← loadBaseUrl provider with
        | .error _ => return .error ()
        | .ok baseUrl =>
          if provider.requiresBaseUrl = true ∧ baseUrl.getD "" = "" then return .error ()
          else
            let _ ← ask (.changeSession fun session =>
              { session with preferredProvider := some provider })
            return .ok ()

def unlockPreferredProviderSession : StoreProcess (Outcome Unit) := do
  match ← loadPreferredProvider addresses with
  | .error _ => return .error ()
  | .ok provider => unlockProviderSession addresses (provider.getD gemini)

def lockSession : StoreProcess (Outcome Unit) := do
  let _ ← ask (.changeSession fun _ => .locked)
  return .ok ()

/-! ### What the session answers -/

def Session.baseUrl (session : Session) (provider : InferenceConnection) : Option String :=
  provider.baseUrl.or (session.baseUrls provider)

/-- A text that is there and not empty. -/
def isGiven (text : Option String) : Bool := text.getD "" != ""

def Session.isPreferredProviderUnlocked (session : Session) : Bool :=
  match session.preferredProvider with
  | none => false
  | some provider =>
    !(provider.requiresApiKey && !isGiven (session.apiKeys provider)) &&
      !(provider.requiresBaseUrl && !isGiven (session.baseUrl provider))

end AiCredentials

end Hivra
