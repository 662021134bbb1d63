import Hivra.Host.CredentialStore

namespace Hivra

open OrderedMap Processes

/-!
# The file of the AI preferences

The file is refused if it names a connection that it does not have.  Preferences that name the
connections they have are read from their file as they are.
-/

namespace AiCredentials

variable {addresses : Addresses}

/-! ### Ids -/

theorem trimmed_of_not_white {text : String} (h : ∀ c ∈ text.toList, isDartWhite c = false) :
    trimmed text = text := by
  rw [trimmed, dartTrim_of_not_white h, String.ofList_toList]

variable {id : String}

theorem isConnectionId_iff :
    isConnectionId id = true ↔ ∃ digits : List Char, id.toList = "connection_".toList ++ digits ∧
      digits.length = 32 ∧
        ∀ c ∈ digits, (c.isDigit || (decide ('a' ≤ c) && decide (c ≤ 'f'))) = true := by
  have hdrop : ∀ digits, ("connection_".toList ++ digits).drop 11 = digits := fun _ => rfl
  unfold isConnectionId
  rw [Bool.and_eq_true, Bool.and_eq_true, List.isPrefixOf_iff_prefix, beq_iff_eq, List.all_eq_true]
  constructor
  · rintro ⟨⟨⟨digits, hid⟩, hdigits⟩, hall⟩
    rw [← hid, hdrop] at hdigits hall
    exact ⟨digits, hid.symm, hdigits, hall⟩
  · rintro ⟨digits, hid, hdigits, hall⟩
    rw [hid, hdrop]
    exact ⟨⟨⟨digits, rfl⟩, hdigits⟩, hall⟩

theorem trimmed_connectionId (h : isConnectionId id = true) : trimmed id = id := by
  obtain ⟨digits, hid, -, hdigits⟩ := isConnectionId_iff.mp h
  apply trimmed_of_not_white
  intro c hc
  rw [hid, List.mem_append] at hc
  rcases hc with hhead | hdigit
  · have hwhite : ("connection_".toList.all fun c => !isDartWhite c) = true := by decide
    simpa using List.all_eq_true.mp hwhite c hhead
  · exact (digit_facts (hdigits c hdigit)).1

/-- A new id is a good one. -/
theorem isConnectionId_new (random : ByteString.Bytes 16) :
    isConnectionId ("connection_" ++ hexText random.toList) = true := by
  refine isConnectionId_iff.mpr ⟨(hexText random.toList).toList, String.toList_append, ?_,
    forall_hexText (by decide) _⟩
  rw [length_hexText, List.Vector.toList_length]

/-! ### Well-formed preferences -/

/-- A connection that can be kept in the file. -/
structure GoodConnection (addresses : Addresses) (connection : InferenceConnection) : Prop where
  id : isConnectionId connection.id = true
  named : trimmed connection.label ≠ ""
  label_le : dartLength connection.label ≤ 80
  address : ∃ baseUrl, connection.baseUrl = some baseUrl ∧
    addresses.validateBaseUrl baseUrl = some baseUrl
  model : validateModel connection.defaultModel = some connection.defaultModel

structure GoodConnections (addresses : Addresses) (connections : Connections) : Prop where
  keyed : ∀ entry ∈ connections, entry.1 = entry.2.id
  good : ∀ entry ∈ connections, GoodConnection addresses entry.2
  nodup : (connections.map Prod.fst).Nodup

/-- A connection that the file may name. -/
def Known (connections : Connections) (provider : InferenceConnection) : Prop :=
  provider ∈ allConnections connections

instance (connections : Connections) (provider : InferenceConnection) :
    Decidable (Known connections provider) := inferInstanceAs (Decidable (_ ∈ _))

structure GoodModels (connections : Connections) (models : Models) : Prop where
  known : ∀ entry ∈ models, Known connections entry.1
  model : ∀ entry ∈ models, validateModel entry.2 = some entry.2
  nodup : (models.map Prod.fst).Nodup

/-- What is kept of the preferences: they name connections that there are. -/
structure WellFormed (addresses : Addresses) (connections : Connections)
    (provider : Option InferenceConnection) (models : Models) : Prop where
  good : GoodConnections addresses connections
  preferred : ∀ connection, provider = some connection → Known connections connection
  chosen : GoodModels connections models

theorem builtIn_not_connectionId :
    ∀ connection ∈ builtIn, isConnectionId connection.id = false := by decide

theorem builtIn_id_ne_empty : ∀ connection ∈ builtIn, connection.id ≠ "" := by decide

theorem trimmed_builtIn : ∀ connection ∈ builtIn, trimmed connection.id = connection.id := by
  decide +kernel

variable {connections : Connections} {provider : InferenceConnection}

theorem known_iff :
    Known connections provider ↔
      provider ∈ builtIn ∨ ∃ entry ∈ connections, entry.2 = provider := by
  rw [Known, allConnections, List.mem_append, List.mem_map]

/-- The ids tell the connections apart. -/
theorem GoodConnections.ids_nodup (h : GoodConnections addresses connections) :
    ((allConnections connections).map InferenceConnection.id).Nodup := by
  have hkeys : (connections.map Prod.snd).map InferenceConnection.id =
      connections.map Prod.fst := by
    rw [List.map_map]
    exact List.map_congr_left fun entry hentry => (h.keyed entry hentry).symm
  rw [allConnections, List.map_append, hkeys, List.nodup_append]
  refine ⟨by decide, h.nodup, ?_⟩
  rintro id hbuiltIn other hother rfl
  obtain ⟨preset, hpreset, rfl⟩ := List.mem_map.mp hbuiltIn
  obtain ⟨entry, hentry, hid⟩ := List.mem_map.mp hother
  have hgood := (h.good entry hentry).id
  rw [← h.keyed entry hentry, hid, builtIn_not_connectionId preset hpreset] at hgood
  exact Bool.false_ne_true hgood

theorem GoodConnections.trimmed_id (h : GoodConnections addresses connections)
    (hknown : Known connections provider) : trimmed provider.id = provider.id := by
  rcases known_iff.mp hknown with hbuiltIn | ⟨entry, hentry, rfl⟩
  · exact trimmed_builtIn provider hbuiltIn
  · exact trimmed_connectionId (h.good entry hentry).id

/-- A connection is found under its id. -/
theorem GoodConnections.providerForId {connections : Connections}
    (h : GoodConnections addresses connections) {provider : InferenceConnection}
    (hknown : Known connections provider) :
    providerForId connections provider.id = some provider := by
  unfold AiCredentials.providerForId
  rw [h.trimmed_id hknown]
  exact (Replay.find_key_eq_some h.ids_nodup).mpr ⟨hknown, rfl⟩

variable {connection : InferenceConnection}

/-- No connection is found under no id. -/
theorem GoodConnections.providerForId_empty (h : GoodConnections addresses connections) :
    AiCredentials.providerForId connections "" = none := by
  unfold AiCredentials.providerForId
  rw [List.find?_eq_none]
  intro provider hprovider hid
  have hempty : provider.id = "" := eq_of_beq hid
  rcases known_iff.mp hprovider with hbuiltIn | ⟨entry, hentry, rfl⟩
  · exact builtIn_id_ne_empty provider hbuiltIn hempty
  · have hgood := (h.good entry hentry).id
    rw [hempty] at hgood
    exact absurd hgood (by decide)

theorem known_of_providerForId (h : providerForId connections id = some provider) :
    Known connections provider := List.mem_of_find?_eq_some h

/-! ### Reading what was written -/

theorem readEntry_entryOf (h : GoodConnection addresses connection) :
    readEntry addresses (entryOf connection) = some connection := by
  obtain ⟨id, label, model, protocol, baseUrl, requiresApiKey⟩ := connection
  obtain ⟨address, haddress, hvalid⟩ := h.address
  have hprotocol := InferenceProtocol.ofName_name protocol
  have hmodel := h.model
  dsimp only at haddress hmodel
  subst haddress
  unfold readEntry entryOf
  rw [if_pos ⟨h.id, h.named, h.label_le⟩]
  dsimp only [Option.getD_some]
  rw [hprotocol, hvalid, hmodel]
  rfl

theorem readConnections_written :
    ∀ {loaded : Connections}, ((loaded ++ connections).map Prod.fst).Nodup →
      (∀ entry ∈ connections, entry.1 = entry.2.id ∧ GoodConnection addresses entry.2) →
      readConnections addresses loaded (connections.map fun entry => entryOf entry.2) =
        some (loaded ++ connections) := by
  induction connections with
  | nil =>
    intro loaded _ _
    rw [List.append_nil]
    rfl
  | cons entry rest ih =>
    intro loaded hnodup hgood
    obtain ⟨⟨hkey, hconnection⟩, hrest⟩ := List.forall_mem_cons.mp hgood
    have hnew : entry.2.id ∉ loaded.map Prod.fst := by
      rw [List.map_append, List.nodup_append] at hnodup
      intro hmem
      exact hnodup.2.2 _ hmem _ List.mem_cons_self hkey.symm
    have hcontains : ¬ contains loaded (entryOf entry.2).id = true :=
      fun hknown => hnew (contains_iff.mp hknown)
    rw [List.map_cons, readConnections, if_neg hcontains, readEntry_entryOf hconnection,
      Option.bind_some, put_of_not_mem hnew, ← hkey]
    have happend : loaded ++ entry :: rest = (loaded ++ [entry]) ++ rest := by simp
    rw [happend] at hnodup ⊢
    exact ih hnodup hrest

variable {models : Models}

theorem readModels_written (h : GoodConnections addresses connections) :
    ∀ {read : Models}, ((read ++ models).map Prod.fst).Nodup →
      (∀ entry ∈ models, Known connections entry.1 ∧ validateModel entry.2 = some entry.2) →
      readModels connections read (models.map fun entry => (entry.1.id, entry.2)) =
        some (read ++ models) := by
  induction models with
  | nil =>
    intro read _ _
    rw [List.append_nil]
    rfl
  | cons entry rest ih =>
    intro read hnodup hgood
    obtain ⟨⟨hknown, hmodel⟩, hrest⟩ := List.forall_mem_cons.mp hgood
    have hnew : entry.1 ∉ read.map Prod.fst := by
      rw [List.map_append, List.nodup_append] at hnodup
      intro hmem
      exact hnodup.2.2 _ hmem _ List.mem_cons_self rfl
    rw [List.map_cons, readModels, h.providerForId hknown, Option.bind_some, hmodel,
      Option.bind_some, put_of_not_mem hnew]
    have happend : read ++ entry :: rest = (read ++ [entry]) ++ rest := by simp
    rw [happend] at hnodup ⊢
    exact ih hnodup hrest

variable {provider : Option InferenceConnection} {doc : PreferenceDocument}

/-- **Well-formed preferences are read as they were written.** -/
theorem readDocument_document (h : WellFormed addresses connections provider models)
    (hdoc : document provider models connections = some doc) :
    readDocument addresses [] doc = some ⟨connections, provider, models⟩ := by
  unfold document at hdoc
  split_ifs at hdoc
  obtain rfl := Option.some.inj hdoc
  have hread : readConnections addresses [] (connections.map fun entry => entryOf entry.2) =
      some connections := readConnections_written h.good.nodup
    fun entry hentry => ⟨h.good.keyed entry hentry, h.good.good entry hentry⟩
  have hmodels : readModels connections [] (models.map fun entry => (entry.1.id, entry.2)) =
      some models := readModels_written h.good h.chosen.nodup
    fun entry hentry => ⟨h.chosen.known entry hentry, h.chosen.model entry hentry⟩
  have hall : connections.foldl (fun all entry => put all entry.1 entry.2) [] = connections :=
    foldl_put h.good.nodup
  have hprovider : providerForId connections ((provider.map InferenceConnection.id).getD "") =
      provider := by
    cases hprovider : provider with
    | none => exact h.good.providerForId_empty
    | some connection => exact h.good.providerForId (h.preferred connection hprovider)
  unfold readDocument
  dsimp only
  rw [hread]
  simp only [Option.bind_eq_bind, Option.bind_some]
  rw [hall, hprovider, hmodels, if_neg]
  · rfl
  · cases provider <;> simp

/-! ### What is accepted -/

theorem good_of_readEntry {entry : ConnectionEntry}
    (h : readEntry addresses entry = some connection) :
    connection.id = entry.id ∧ GoodConnection addresses connection := by
  unfold readEntry at h
  split_ifs at h with hgood
  simp only [Option.bind_eq_bind, Option.bind_eq_some_iff, Option.some.injEq] at h
  obtain ⟨protocol, -, baseUrl, hbase, model, hmodel, rfl⟩ := h
  exact ⟨rfl, hgood.1, hgood.2.1, hgood.2.2, ⟨baseUrl, rfl, addresses.idempotent _ _ hbase⟩,
    validateModel_validateModel hmodel⟩

theorem GoodConnections.put {connections : Connections} {connection : InferenceConnection}
    (h : GoodConnections addresses connections) (hgood : GoodConnection addresses connection) :
    GoodConnections addresses (put connections connection.id connection) where
  keyed entry hentry := by
    rcases mem_put.mp hentry with ⟨hkey, hvalue⟩ | ⟨-, hold⟩
    · rw [hkey, hvalue]
    · exact h.keyed entry hold
  good entry hentry := by
    rcases mem_put.mp hentry with ⟨-, hvalue⟩ | ⟨-, hold⟩
    · rw [hvalue]
      exact hgood
    · exact h.good entry hold
  nodup := keys_put_nodup h.nodup _ _

theorem GoodConnections.remove {connections : Connections}
    (h : GoodConnections addresses connections) (id : String) :
    GoodConnections addresses (remove connections id) where
  keyed entry hentry := h.keyed entry (List.mem_of_mem_filter hentry)
  good entry hentry := h.good entry (List.mem_of_mem_filter hentry)
  nodup := h.nodup.sublist (List.filter_sublist.map _)

theorem GoodConnections.nil : GoodConnections addresses [] :=
  ⟨fun _ h => (nomatch h), fun _ h => (nomatch h), List.nodup_nil⟩

theorem good_of_readConnections {entries : List ConnectionEntry} :
    ∀ {loaded connections : Connections}, GoodConnections addresses loaded →
      readConnections addresses loaded entries = some connections →
      GoodConnections addresses connections := by
  induction entries with
  | nil =>
    intro loaded connections h hread
    rw [← Option.some.inj hread]
    exact h
  | cons entry rest ih =>
    intro loaded connections h hread
    rw [readConnections] at hread
    split_ifs at hread
    obtain ⟨connection, hentry, hrest⟩ := Option.bind_eq_some_iff.mp hread
    exact ih (h.put (good_of_readEntry hentry).2) hrest

theorem GoodModels.put {connections : Connections} {models : Models}
    {provider : InferenceConnection} {model : String} (h : GoodModels connections models)
    (hknown : Known connections provider) (hmodel : validateModel model = some model) :
    GoodModels connections (put models provider model) where
  known entry hentry := by
    rcases mem_put.mp hentry with ⟨hkey, -⟩ | ⟨-, hold⟩
    · rw [hkey]
      exact hknown
    · exact h.known entry hold
  model entry hentry := by
    rcases mem_put.mp hentry with ⟨-, hvalue⟩ | ⟨-, hold⟩
    · rw [hvalue]
      exact hmodel
    · exact h.model entry hold
  nodup := keys_put_nodup h.nodup _ _

theorem GoodModels.remove {connections : Connections} {models : Models}
    (h : GoodModels connections models) (provider : InferenceConnection) :
    GoodModels connections (remove models provider) where
  known entry hentry := h.known entry (List.mem_of_mem_filter hentry)
  model entry hentry := h.model entry (List.mem_of_mem_filter hentry)
  nodup := h.nodup.sublist (List.filter_sublist.map _)

theorem GoodModels.nil : GoodModels connections [] :=
  ⟨fun _ h => (nomatch h), fun _ h => (nomatch h), List.nodup_nil⟩

theorem good_of_readModels {entries : List (String × String)} :
    ∀ {read models : Models}, GoodModels connections read →
      readModels connections read entries = some models → GoodModels connections models := by
  induction entries with
  | nil =>
    intro read models h hread
    rw [← Option.some.inj hread]
    exact h
  | cons entry rest ih =>
    intro read models h hread
    rw [readModels] at hread
    obtain ⟨provider, hprovider, hread⟩ := Option.bind_eq_some_iff.mp hread
    obtain ⟨model, hmodel, hrest⟩ := Option.bind_eq_some_iff.mp hread
    exact ih (h.put (known_of_providerForId hprovider) (validateModel_validateModel hmodel)) hrest

/-- **What is accepted is well formed.** -/
theorem readDocument_wellFormed {loaded : LoadedPreferences}
    (h : readDocument addresses [] doc = some loaded) :
    WellFormed addresses loaded.connections loaded.provider loaded.models := by
  unfold readDocument at h
  simp only [Option.bind_eq_bind, Option.bind_eq_some_iff] at h
  obtain ⟨connections, hread, h⟩ := h
  have hgood := good_of_readConnections .nil hread
  have hall : connections.foldl (fun all entry => put all entry.1 entry.2) [] = connections :=
    foldl_put hgood.nodup
  rw [hall] at h
  split_ifs at h
  simp only [Option.bind_eq_some_iff, Option.some.injEq] at h
  obtain ⟨models, hmodels, rfl⟩ := h
  exact ⟨hgood, fun connection hfound => known_of_providerForId hfound,
    good_of_readModels .nil hmodels⟩

/-! ### Connections that come and go -/

/-- A connection that the owner adds can be kept in the file. -/
theorem good_of_newConnection {name : String} {kind : InferenceProtocol} {baseUrl model : String}
    {requiresApiKey : Bool} {random : ByteString.Bytes 16}
    (h : newConnection addresses name kind baseUrl model requiresApiKey random =
      some connection) : GoodConnection addresses connection := by
  unfold newConnection at h
  dsimp only at h
  split_ifs at h with hlabel
  simp only [Option.bind_eq_bind, Option.bind_eq_some_iff, Option.some.injEq] at h
  obtain ⟨endpoint, hendpoint, normalized, hmodel, rfl⟩ := h
  rw [not_or, not_or] at hlabel
  refine ⟨isConnectionId_new random, ?_, Nat.not_lt.mp hlabel.2.1,
    ⟨endpoint, rfl, addresses.idempotent _ _ hendpoint⟩, validateModel_validateModel hmodel⟩
  rw [trimmed_trimmed]
  exact hlabel.1

theorem WellFormed.add (h : WellFormed addresses connections provider models)
    (hgood : GoodConnection addresses connection)
    (hnew : connection.id ∉ connections.map Prod.fst) :
    WellFormed addresses (put connections connection.id connection) (some connection) models := by
  have hput : put connections connection.id connection =
      connections ++ [(connection.id, connection)] := put_of_not_mem hnew
  have hknown : ∀ provider, Known connections provider →
      Known (put connections connection.id connection) provider := by
    intro provider hprovider
    rw [known_iff] at hprovider ⊢
    refine hprovider.imp_right fun ⟨entry, hentry, hvalue⟩ => ⟨entry, ?_, hvalue⟩
    rw [hput]
    exact List.mem_append_left _ hentry
  refine ⟨h.good.put hgood, fun other hother => ?_,
    fun entry hentry => hknown _ (h.chosen.known entry hentry), h.chosen.model, h.chosen.nodup⟩
  obtain rfl := Option.some.inj hother
  rw [known_iff, hput]
  exact .inr ⟨_, List.mem_append_right _ List.mem_cons_self, rfl⟩

theorem WellFormed.drop (h : WellFormed addresses connections provider models)
    (hprovider : ∀ connection, provider = some connection → connection.id ≠ id)
    (hmodels : ∀ entry ∈ models, entry.1.id ≠ id) :
    WellFormed addresses (remove connections id) provider models := by
  have hknown : ∀ connection, Known connections connection → connection.id ≠ id →
      Known (remove connections id) connection := by
    intro connection hconnection hid
    rw [known_iff] at hconnection ⊢
    refine hconnection.imp_right fun ⟨entry, hentry, hvalue⟩ => ⟨entry, ?_, hvalue⟩
    refine List.mem_filter.mpr ⟨hentry, ?_⟩
    rw [bne_iff_ne, h.good.keyed entry hentry, hvalue]
    exact hid
  exact ⟨h.good.remove id,
    fun connection hconnection => hknown _ (h.preferred _ hconnection) (hprovider _ hconnection),
    fun entry hentry => hknown _ (h.chosen.known entry hentry) (hmodels entry hentry),
    h.chosen.model, h.chosen.nodup⟩

theorem GoodConnections.known_iff_lookup {provider : InferenceConnection}
    (h : GoodConnections addresses connections) :
    Known connections provider ↔
      provider ∈ builtIn ∨ lookup connections provider.id = some provider := by
  rw [known_iff]
  refine or_congr_right ⟨?_, fun hlookup => ⟨_, mem_of_lookup hlookup, rfl⟩⟩
  rintro ⟨⟨key, value⟩, hentry, rfl⟩
  obtain rfl : key = value.id := h.keyed _ hentry
  exact lookup_of_mem h.nodup hentry

theorem document_some (provider : InferenceConnection) (models : Models)
    (connections : Connections) : document (some provider) models connections ≠ none := by
  unfold document
  rw [if_neg]
  · exact Option.some_ne_none _
  · rintro ⟨h, -⟩
    exact nomatch h

end AiCredentials

end Hivra
