import Hivra.Host.PackagePreflight
import Hivra.Lib.JsonCanonical

namespace Hivra

open JsonText

/-!
# The catalog of a plugin source

A catalog lists the packages that a source offers.  One that comes over the network is accepted if
a trusted key has signed its canonical text without the signatures, or if the digest of the whole
body is pinned; only then is it parsed, from the same text.

* `fetchCatalog_trusted` — the entries of a remote catalog are those of a payload that was signed,
  or of a body that is pinned.
-/

namespace SourceCatalog

open PluginPackages (ensure)

/-- What the service works with: how the host writes a double and lowers letters, the scheme of a
    URI that can be parsed, SHA-256 and Ed25519. -/
structure CatalogTools where
  doubleText : Text → Text
  toLowerCase : Text → Text
  uriScheme : Text → Option (Option Text)
  sha256 : List UInt8 → List UInt8
  verify (payload signature publicKey : List UInt8) : Bool

structure SourceCatalogEntry where
  id : Text
  pluginId : Text
  displayName : Text
  version : Text
  downloadUrl : Text
  packageKind : Text
  sha256Hex : Option Text
  deriving DecidableEq

structure PluginSourceCatalog where
  sourceId : Text
  sourceName : Text
  fetchedAtIso : Text
  entries : List SourceCatalogEntry
  deriving DecidableEq

/-! ### Texts -/

def isWhiteUnit (c : UInt16) : Bool := isDartWhite (Char.ofNat c.toNat)

/-- `trim` of a text. -/
def textTrim (t : Text) : Text :=
  ((t.dropWhile isWhiteUnit).reverse.dropWhile isWhiteUnit).reverse

/-- A text in a message. -/
def shown (t : Text) : String := String.ofList (characters t)

/-- `toString` of a value. -/
def valueText : Value → Text
  | .null => text "null"
  | .bool value => text (if value then "true" else "false")
  | .int value => decimal value
  | .double shortest => shortest
  | .str value => value
  | .arr items => 91 :: (text ", ").intercalate (itemTexts items) ++ [93]
  | .obj members => 123 :: (text ", ").intercalate (memberTexts members) ++ [125]
where
  itemTexts : List Value → List Text
    | [] => []
    | item :: rest => valueText item :: itemTexts rest
  memberTexts : List (Text × Value) → List Text
    | [] => []
    | (name, value) :: rest => (name ++ text ": " ++ valueText value) :: memberTexts rest

/-- `?.toString().trim()` of a member. -/
def textOf : Option Value → Option Text
  | none | some .null => none
  | some value => some (textTrim (valueText value))

/-- The text of a member, the empty one if there is none. -/
def memberText (name : String) (members : List (Text × Value)) : Text :=
  (textOf (member? (text name) members)).getD []

def isLowerHex (c : UInt16) : Bool := isDigit c || (decide (97 ≤ c) && decide (c ≤ 102))

/-- The pattern of so many lower-case hexadecimal digits. -/
def isHexOf (length : ℕ) (t : Text) : Bool := t.length == length && t.all isLowerHex

def isLowerLetter (c : UInt16) : Bool := decide (97 ≤ c) && decide (c ≤ 122)

def isUpperLetter (c : UInt16) : Bool := decide (65 ≤ c) && decide (c ≤ 90)

/-- A dot or a dash. -/
def isSeparator (c : UInt16) : Bool := c == 46 || c == 45

/-- `^[0-9]+\.[0-9]+\.[0-9]+(?:[-+][0-9A-Za-z.\-]+)?$` -/
def isValidReleaseVersion (value : Text) : Bool :=
  match dropNumber (textTrim value) >>= dropDot >>= dropNumber >>= dropDot >>= dropNumber with
  | none => false
  | some [] => true
  | some (c :: label) =>
    (c == 45 || c == 43) && !label.isEmpty &&
      label.all fun d => isDigit d || isLowerLetter d || isUpperLetter d || isSeparator d
where
  dropNumber (t : Text) : Option Text :=
    if t.takeWhile isDigit = [] then none else some (t.dropWhile isDigit)
  dropDot : Text → Option Text
    | 46 :: rest => some rest
    | _ => none

section Parse

variable (tools : CatalogTools)

/-- `^hivra\.contract\.[a-z0-9.\-]+\.v[0-9]+$`; the last number is read from the end. -/
def isValidPluginId (value : Text) : Bool :=
  let normalized := tools.toLowerCase (textTrim value)
  let rest := normalized.drop "hivra.contract.".length
  let reversed := rest.reverse
  (text "hivra.contract.").isPrefixOf normalized && !(reversed.takeWhile isDigit).isEmpty &&
    match reversed.dropWhile isDigit with
    | 118 :: 46 :: name =>
      !name.isEmpty && name.all fun c => isLowerLetter c || isDigit c || isSeparator c
    | _ => false

def isSupportedDownloadUrl (value : Text) : Bool :=
  match tools.uriScheme value with
  | none => false
  | some none => true
  | some (some scheme) => scheme == text "file" || scheme == text "http" || scheme == text "https"

/-- The digest of an entry; this throws where it is none. -/
def normalizeSha256Hex (raw : Option Text) (entryId : Text) : Except String (Option Text) :=
  let value := textTrim (raw.getD [])
  if value = [] then .ok none
  else if isHexOf 64 (tools.toLowerCase value) then .ok (some (tools.toLowerCase value))
  else .error ("Invalid sha256_hex in source catalog entry: " ++ shown entryId)

/-- The fields of an entry as they stand in the catalog. -/
def rawEntry (members : List (Text × Value)) : SourceCatalogEntry where
  id := memberText "id" members
  pluginId := memberText "plugin_id" members
  displayName := memberText "display_name" members
  version := memberText "version" members
  downloadUrl := memberText "download_url" members
  packageKind := tools.toLowerCase (memberText "package_kind" members)
  sha256Hex := textOf (member? (text "sha256_hex") members)

/-- What the loop over the entries keeps. -/
structure ParsedEntries where
  entries : List SourceCatalogEntry
  seenEntryIds : List Text
  seenPluginVersionKinds : List Text

def pluginVersionKindKey (entry : SourceCatalogEntry) : Text :=
  tools.toLowerCase entry.pluginId ++ text "::" ++ tools.toLowerCase entry.version ++ text "::" ++
    entry.packageKind

/-- Whether the loop goes on without the entry. -/
def isSkipped (parsed : ParsedEntries) (entry : SourceCatalogEntry) : Bool :=
  entry.id.isEmpty || entry.pluginId.isEmpty || entry.displayName.isEmpty ||
    entry.version.isEmpty || entry.downloadUrl.isEmpty || !isValidPluginId tools entry.pluginId ||
    !isValidReleaseVersion entry.version || parsed.seenEntryIds.contains entry.id ||
    entry.packageKind != text "zip" || !isSupportedDownloadUrl tools entry.downloadUrl ||
    parsed.seenPluginVersionKinds.contains (pluginVersionKindKey tools entry)

/-- One item of the entries. -/
def parseEntry (needsSha : Bool) (parsed : ParsedEntries) : Value → Except String ParsedEntries
  | .obj members =>
    let entry := rawEntry tools members
    if isSkipped tools parsed entry then .ok parsed
    else do
      let normalizedSha ← normalizeSha256Hex tools entry.sha256Hex entry.id
      ensure (needsSha = true → normalizedSha ≠ none)
        ("Missing sha256_hex in source catalog entry: " ++ shown entry.id)
      .ok
        { entries := parsed.entries ++ [{ entry with sha256Hex := normalizedSha }]
          seenEntryIds := entry.id :: parsed.seenEntryIds
          seenPluginVersionKinds :=
            pluginVersionKindKey tools entry :: parsed.seenPluginVersionKinds }
  | _ => .ok parsed

def isText (expected : String) : Option Value → Bool
  | some (.str value) => value == text expected
  | _ => false

/-- Equality with a number, which a double may be as well. -/
def isNumber (n : ℕ) : Option Value → Bool
  | some (.int value) => value == n
  | some (.double shortest) => shortest == decimal n ++ text ".0"
  | _ => false

def listOr (error : String) : Option Value → Except String (List Value)
  | some (.arr items) => .ok items
  | _ => .error error

/-- A document that has to be a map. -/
def decodeMap (body : Text) : Except String (List (Text × Value)) :=
  match decode tools.doubleText body with
  | none => .error "FormatException"
  | some (.obj members) => .ok members
  | some _ => .error "Plugin source catalog must be a JSON map"

/-- The catalog of a decoded document. -/
def catalogOf (now : Text) (json : List (Text × Value)) : Except String PluginSourceCatalog := do
  ensure (isText "hivra.plugin.catalog" (member? (text "schema") json))
    "Unsupported plugin source catalog schema"
  let catalogVersion := member? (text "version") json
  ensure (isNumber 1 catalogVersion || isNumber 2 catalogVersion)
    "Unsupported plugin source catalog version"
  let sourceId := memberText "source_id" json
  let sourceName := memberText "source_name" json
  ensure (sourceId ≠ [] ∧ sourceName ≠ []) "Plugin source catalog is missing source metadata"
  let rawEntries ← listOr "Plugin source catalog entries must be a list"
    (member? (text "entries") json)
  let parsed ← rawEntries.foldlM (parseEntry tools (isNumber 2 catalogVersion)) ⟨[], [], []⟩
  .ok
    { sourceId := sourceId
      sourceName := sourceName
      fetchedAtIso := now
      entries := parsed.entries }

def parseCatalogJson (now rawJson : Text) : Except String PluginSourceCatalog := do
  catalogOf tools now (← decodeMap tools rawJson)

/-! ### Trust -/

/-- The digests and public keys that the service was made with. -/
structure RemoteTrust where
  sha256Hexes : List Text
  publicKeyHexes : List Text

/-- The values of a set that are digests or keys. -/
def normalizedHexes (values : List Text) : List Text :=
  ((values.map fun value => tools.toLowerCase (textTrim value)).filter (isHexOf 64)).dedup

def decodeHex (hex : Text) : Except String (List UInt8) :=
  let normalized := tools.toLowerCase (textTrim hex)
  if normalized.length % 2 = 1 ∨ ¬ normalized.all isLowerHex then .error "Invalid hex value"
  else .ok (bytesOf normalized)
where
  bytesOf : Text → List UInt8
    | a :: b :: rest =>
      UInt8.ofNat (((hexValue a).getD 0).toNat * 16 + ((hexValue b).getD 0).toNat) :: bytesOf rest
    | _ => []

/-- A loop that ends at the first item that passes. -/
def anyValid {α : Type} (check : α → Except String Bool) : List α → Except String Bool
  | [] => .ok false
  | item :: rest =>
    match check item with
    | .error e => .error e
    | .ok true => .ok true
    | .ok false => anyValid check rest

/-- The hexadecimal text of a digest. -/
def digestHex (bytes : List UInt8) : Text := text (hexText (tools.sha256 bytes))

def checkKey (payload : List UInt8) (keyId signatureHex publicKeyHex : Text) :
    Except String Bool := do
  let publicKeyBytes ← decodeHex tools publicKeyHex
  if keyId ≠ tools.toLowerCase (digestHex tools publicKeyBytes) then .ok false
  else do
    let signature ← decodeHex tools signatureHex
    .ok (tools.verify payload signature publicKeyBytes)

/-- A signature entry is checked with each trusted key. -/
def checkSignature (trustedKeys : List Text) (payload : List UInt8) : Value → Except String Bool
  | .obj signature =>
    let algorithm := tools.toLowerCase (memberText "algorithm" signature)
    let keyId := tools.toLowerCase (memberText "key_id" signature)
    let signatureHex := tools.toLowerCase (memberText "signature_hex" signature)
    if algorithm ≠ text "ed25519" ∨ ¬ isHexOf 64 keyId ∨ ¬ isHexOf 128 signatureHex then .ok false
    else anyValid (checkKey tools payload keyId signatureHex) trustedKeys
  | _ => .ok false

def signaturesOf : Option Value → List Value
  | some (.arr items) => items
  | _ => []

def unsignedCatalog (catalog : List (Text × Value)) : List (Text × Value) :=
  catalog.filter fun member => member.1 != text "signatures"

/-- The bytes that are signed for a catalog. -/
def signedPayload (catalog : List (Text × Value)) : Except String (List UInt8) :=
  match canonicalJson (.obj catalog) with
  | none => .error "JsonUnsupportedObjectError"
  | some canonical => .ok (utf8Encode canonical)

/-- Whether a trusted key has signed the catalog; without keys or signatures it is not. -/
def verifyRemoteCatalogSignature (trust : RemoteTrust) (body : Text) : Except String Bool :=
  let trustedKeys := normalizedHexes tools trust.publicKeyHexes
  if trustedKeys = [] then .ok false
  else do
    let catalog ← decodeMap tools body
    let rawSignatures := signaturesOf (member? (text "signatures") catalog)
    if rawSignatures = [] then .ok false
    else do
      let payload ← signedPayload (unsignedCatalog catalog)
      let valid ← anyValid (checkSignature tools trustedKeys payload) rawSignatures
      ensure (valid = true) "Remote plugin source catalog signature is not trusted"
      .ok true

def verifyRemoteCatalogDigest (trust : RemoteTrust) (body : Text) : Except String Unit := do
  let trusted := normalizedHexes tools trust.sha256Hexes
  ensure (trusted ≠ []) "Remote plugin source catalog has no trusted digest pin"
  let actual := digestHex tools (utf8Encode body)
  ensure (actual ∈ trusted)
    ("Remote plugin source catalog digest is not trusted: " ++ shown actual)

def verifyRemoteCatalogTrust (trust : RemoteTrust) (body : Text) : Except String Unit := do
  let signed ← verifyRemoteCatalogSignature tools trust body
  if signed then .ok () else verifyRemoteCatalogDigest tools trust body

def checkDownloadUrl (entry : SourceCatalogEntry) : Except String Unit :=
  match tools.uriScheme entry.downloadUrl with
  | none => .error "Plugin source entry download URL is invalid"
  | some none => .ok ()
  | some (some scheme) =>
    ensure (scheme ∈ [text "file", text "http", text "https"])
      "Unsupported plugin source package URL scheme"

/-- What the network answers. -/
structure Response where
  statusCode : ℕ
  body : Text

/-- A catalog file is parsed as it is; what the network answers has to be trusted. -/
def fetchCatalog (trust : RemoteTrust) (now catalogUrl : Text) (file : Option Text)
    (response : Except String Response) : Except String PluginSourceCatalog :=
  match tools.uriScheme catalogUrl with
  | none => .error "Plugin source catalog URL is invalid"
  | some scheme =>
    if scheme = none ∨ scheme = some (text "file") then
      match file with
      | none => .error "Plugin source catalog file not found"
      | some body => parseCatalogJson tools now body
    else if scheme ≠ some (text "http") ∧ scheme ≠ some (text "https") then
      .error "Unsupported plugin source catalog URL scheme"
    else do
      let response ← response
      ensure (response.statusCode = 200) "Failed to fetch plugin catalog"
      verifyRemoteCatalogTrust tools trust response.body
      parseCatalogJson tools now response.body

/-! ### What is trusted -/

variable {tools}

theorem anyValid_true {α : Type} {check : α → Except String Bool} {items : List α}
    (h : anyValid check items = .ok true) : ∃ item ∈ items, check item = .ok true := by
  induction items with
  | nil => cases h
  | cons item rest ih =>
    rw [anyValid] at h
    split at h
    · cases h
    · next hitem => exact ⟨item, List.mem_cons_self, hitem⟩
    · obtain ⟨other, hother, hcheck⟩ := ih h
      exact ⟨other, List.mem_cons_of_mem _ hother, hcheck⟩

/-- A trusted key has signed the payload, if `signed` says what each key has signed. -/
def SignedBy (tools : CatalogTools) (trust : RemoteTrust)
    (signed : List UInt8 → List UInt8 → Prop) (catalog : List (Text × Value)) : Prop :=
  ∃ key ∈ normalizedHexes tools trust.publicKeyHexes, ∃ publicKey payload,
    decodeHex tools key = .ok publicKey ∧ signedPayload catalog = .ok payload ∧
      signed publicKey payload

/-- The digest of the body is pinned. -/
def Pinned (tools : CatalogTools) (trust : RemoteTrust) (body : Text) : Prop :=
  digestHex tools (utf8Encode body) ∈ normalizedHexes tools trust.sha256Hexes

theorem checkSignature_true {trustedKeys : List Text} {payload : List UInt8} {item : Value}
    (h : checkSignature tools trustedKeys payload item = .ok true) :
    ∃ key ∈ trustedKeys, ∃ publicKey signature, decodeHex tools key = .ok publicKey ∧
      tools.verify payload signature publicKey = true := by
  cases item with
  | obj signature =>
    simp only [checkSignature] at h
    split_ifs at h with hpattern
    · cases h
    · obtain ⟨key, hkey, hcheck⟩ := anyValid_true h
      obtain ⟨publicKey, hpublic, hcheck⟩ := PluginPackages.bind_ok.mp hcheck
      split_ifs at hcheck with hid
      · cases hcheck
      · obtain ⟨bytes, -, hvalid⟩ := PluginPackages.bind_ok.mp hcheck
        exact ⟨key, hkey, publicKey, bytes, hpublic, Except.ok.inj hvalid⟩
  | null | bool _ | int _ | double _ | str _ | arr _ => cases h

variable {signed : List UInt8 → List UInt8 → Prop} {trust : RemoteTrust} {body : Text}

/-- **A signature that is accepted is one of the catalog without its signatures.** -/
theorem verifySignature_true
    (hideal : ∀ payload signature key, tools.verify payload signature key = true →
      signed key payload) (h : verifyRemoteCatalogSignature tools trust body = .ok true) :
    ∃ catalog, decodeMap tools body = .ok catalog ∧
      SignedBy tools trust signed (unsignedCatalog catalog) := by
  unfold verifyRemoteCatalogSignature at h
  dsimp only at h
  split_ifs at h with hkeys
  · cases h
  obtain ⟨catalog, hcatalog, h⟩ := PluginPackages.bind_ok.mp h
  refine ⟨catalog, hcatalog, ?_⟩
  split_ifs at h with hsignatures
  · cases h
  obtain ⟨payload, hpayload, h⟩ := PluginPackages.bind_ok.mp h
  obtain ⟨valid, hvalid, h⟩ := PluginPackages.bind_ok.mp h
  obtain ⟨_, hensure, -⟩ := PluginPackages.bind_ok.mp h
  rw [PluginPackages.ensure_ok.mp hensure] at hvalid
  obtain ⟨item, -, hitem⟩ := anyValid_true hvalid
  obtain ⟨key, hkey, publicKey, signature, hpublic, hverify⟩ := checkSignature_true hitem
  exact ⟨key, hkey, publicKey, payload, hpublic, hpayload, hideal _ _ _ hverify⟩

theorem verifyTrust_ok
    (hideal : ∀ payload signature key, tools.verify payload signature key = true →
      signed key payload) (h : verifyRemoteCatalogTrust tools trust body = .ok ()) :
    Pinned tools trust body ∨ ∃ catalog, decodeMap tools body = .ok catalog ∧
      SignedBy tools trust signed (unsignedCatalog catalog) := by
  obtain ⟨result, hresult, h⟩ := PluginPackages.bind_ok.mp h
  split_ifs at h with htrue
  · rw [htrue] at hresult
    exact Or.inr (verifySignature_true hideal hresult)
  · obtain ⟨_, -, h⟩ := PluginPackages.bind_ok.mp h
    have hpinned : digestHex tools (utf8Encode body) ∈ normalizedHexes tools trust.sha256Hexes :=
      PluginPackages.ensure_ok.mp h
    exact Or.inl hpinned

variable {catalog : List (Text × Value)}

/-- The signatures are no part of the catalog that is parsed. -/
theorem member?_unsigned {name : Text} (hname : name ≠ text "signatures") :
    member? name (unsignedCatalog catalog) = member? name catalog := by
  have hsame : (fun member : Text × Value =>
      decide ((member.1 != text "signatures") = true ∧ (member.1 == name) = true)) =
        fun member => member.1 == name := by
    ext member
    by_cases hmember : member.1 = name
    · subst hmember
      simp [hname]
    · simp [hmember]
  rw [member?, member?, unsignedCatalog, List.find?_filter, hsame]

theorem catalogOf_congr {now : Text} {json json' : List (Text × Value)}
    (h : ∀ name ∈ ["schema", "version", "source_id", "source_name", "entries"],
      member? (text name) json = member? (text name) json') :
    catalogOf tools now json = catalogOf tools now json' := by
  simp only [List.forall_mem_cons] at h
  obtain ⟨hschema, hversion, hid, hsource, hentries, -⟩ := h
  unfold catalogOf memberText
  rw [hschema, hversion, hid, hsource, hentries]

theorem catalogOf_unsigned (now : Text) (catalog : List (Text × Value)) :
    catalogOf tools now (unsignedCatalog catalog) = catalogOf tools now catalog := by
  apply catalogOf_congr
  intro name hname
  apply member?_unsigned
  simp only [List.mem_cons, List.not_mem_nil, or_false] at hname
  rcases hname with rfl | rfl | rfl | rfl | rfl <;> decide

/-- What is decoded repeats no name, and neither does what is left of it. -/
theorem decodeMap_sound (hdouble : ∀ read, IsDouble (tools.doubleText read))
    {json : List (Text × Value)} (h : decodeMap tools body = .ok json) :
    (Value.obj json).Sound IsDouble := by
  unfold decodeMap at h
  split at h
  · cases h
  · next hdecoded =>
    cases h
    exact decode_sound hdouble hdecoded
  · cases h

theorem unsignedCatalog_sound (h : (Value.obj catalog).Sound IsDouble) :
    (Value.obj (unsignedCatalog catalog)).Sound IsDouble := by
  refine ⟨h.1.sublist (List.filter_sublist.map Prod.fst), soundMembers_iff.mpr ?_⟩
  intro member hmember
  exact soundMembers_iff.mp h.2 member (List.mem_of_mem_filter hmember)

/-- The URL names something on the network. -/
def IsRemote (tools : CatalogTools) (catalogUrl : Text) : Prop :=
  tools.uriScheme catalogUrl = some (some (text "http")) ∨
    tools.uriScheme catalogUrl = some (some (text "https"))

/-- The catalog is the one of a payload that was signed, or of a body that is pinned. -/
def FromTrusted (tools : CatalogTools) (trust : RemoteTrust)
    (signed : List UInt8 → List UInt8 → Prop) (now body : Text) (catalog : PluginSourceCatalog) :
    Prop :=
  ∃ whole, decodeMap tools body = .ok whole ∧
    (Pinned tools trust body ∧ catalogOf tools now whole = .ok catalog ∨
      SignedBy tools trust signed (unsignedCatalog whole) ∧
        catalogOf tools now (unsignedCatalog whole) = .ok catalog)

/-- **What comes over the network is what was signed.** -/
theorem fetchCatalog_trusted
    (hideal : ∀ payload signature key, tools.verify payload signature key = true →
      signed key payload) {now catalogUrl : Text} {file : Option Text}
    {response : Except String Response} {catalog : PluginSourceCatalog}
    (hremote : IsRemote tools catalogUrl)
    (h : fetchCatalog tools trust now catalogUrl file response = .ok catalog) :
    ∃ answer, response = .ok answer ∧ FromTrusted tools trust signed now answer.body catalog := by
  have hremote' : ∃ scheme, tools.uriScheme catalogUrl = some (some scheme) ∧
      (scheme = text "http" ∨ scheme = text "https") := by
    rcases hremote with hscheme | hscheme
    · exact ⟨_, hscheme, Or.inl rfl⟩
    · exact ⟨_, hscheme, Or.inr rfl⟩
  obtain ⟨scheme, hscheme, hname⟩ := hremote'
  have hfile : ¬ (some scheme = none ∨ some scheme = some (text "file")) := by
    rcases hname with rfl | rfl <;> decide
  have hnetwork : ¬ (some scheme ≠ some (text "http") ∧ some scheme ≠ some (text "https")) := by
    rcases hname with rfl | rfl <;> decide
  unfold fetchCatalog at h
  rw [hscheme] at h
  dsimp only at h
  rw [if_neg hfile, if_neg hnetwork] at h
  obtain ⟨answer, hanswer, h⟩ := PluginPackages.bind_ok.mp h
  obtain ⟨_, -, h⟩ := PluginPackages.bind_ok.mp h
  obtain ⟨_, htrust, h⟩ := PluginPackages.bind_ok.mp h
  obtain ⟨whole, hwhole, hcatalog⟩ := PluginPackages.bind_ok.mp h
  refine ⟨answer, hanswer, whole, hwhole, ?_⟩
  rcases verifyTrust_ok hideal htrust with hpinned | ⟨catalog', hcatalog', hsigned⟩
  · exact Or.inl ⟨hpinned, hcatalog⟩
  · rw [hwhole] at hcatalog'
    cases hcatalog'
    exact Or.inr ⟨hsigned, by rw [catalogOf_unsigned]; exact hcatalog⟩

/-! ### What a canonical text says -/

/-- The names of the texts in an entry. -/
def entryNames : List String :=
  ["id", "plugin_id", "display_name", "version", "download_url", "package_kind", "sha256_hex"]

/-- No text of the catalog is written for an object with two members, whose order it would show. -/
structure PlainTexts (json : List (Text × Value)) : Prop where
  source : ∀ name ∈ ["source_id", "source_name"], ∀ value ∈ member? (text name) json,
    value.orderFree = true
  entries : ∀ items, member? (text "entries") json = some (.arr items) →
    ∀ members, .obj members ∈ items → ∀ name ∈ entryNames,
      ∀ value ∈ member? (text name) members, value.orderFree = true

section Canonical

variable {members members' : List (Text × Value)} {value? value?' : Option Value}

theorem eq_of_plain (hplain : ∀ value ∈ value?, value.orderFree = true)
    (h : value?.map Value.sorted = value?'.map Value.sorted) : value? = value?' := by
  cases value? with
  | none =>
    cases value?' with
    | none => rfl
    | some _ => cases h
  | some value =>
    cases value?' with
    | none => cases h
    | some value' =>
      rw [eq_of_orderFree (hplain value rfl) (Option.some.inj h)]

theorem isText_sorted (expected : String) (value? : Option Value) :
    isText expected (value?.map Value.sorted) = isText expected value? := by
  rcases value? with _ | (_ | _ | _ | _ | _ | _ | _) <;> rfl

theorem isNumber_sorted (n : ℕ) (value? : Option Value) :
    isNumber n (value?.map Value.sorted) = isNumber n value? := by
  rcases value? with _ | (_ | _ | _ | _ | _ | _ | _) <;> rfl

theorem rawEntry_congr
    (h : ∀ name ∈ entryNames, member? (text name) members = member? (text name) members') :
    rawEntry tools members = rawEntry tools members' := by
  simp only [entryNames, List.forall_mem_cons] at h
  obtain ⟨hid, hplugin, hdisplay, hversion, hurl, hkind, hsha, -⟩ := h
  unfold rawEntry memberText
  rw [hid, hplugin, hdisplay, hversion, hurl, hkind, hsha]

variable {parsed : ParsedEntries}

/-- Items that differ in the order of members only are parsed alike. -/
theorem parseEntry_congr {needsSha : Bool} {item item' : Value} (hitem : item.Sound IsDouble)
    (hitem' : item'.Sound IsDouble) (hplain : ∀ members, item = .obj members → ∀ name ∈ entryNames,
      ∀ value ∈ member? (text name) members, value.orderFree = true)
    (h : item.sorted = item'.sorted) :
    parseEntry tools needsSha parsed item = parseEntry tools needsSha parsed item' := by
  cases item with
  | obj members =>
    cases item' with
    | obj members' =>
      have hraw : rawEntry tools members = rawEntry tools members' :=
        rawEntry_congr fun name hname =>
          eq_of_plain (hplain members rfl name hname)
            (member?_eq_of_sorted hitem.1 hitem'.1 h (text name))
      simp only [parseEntry, hraw]
    | null | bool _ | int _ | double _ | str _ | arr _ => cases h
  | null | bool _ | int _ | double _ | str _ | arr _ =>
    cases item' with
    | obj members' => cases h
    | null | bool _ | int _ | double _ | str _ | arr _ => rfl

theorem foldlM_parseEntry_congr {needsSha : Bool} {items items' : List Value}
    (hitems : Value.Sound.soundItems IsDouble items)
    (hitems' : Value.Sound.soundItems IsDouble items')
    (hplain : ∀ members, .obj members ∈ items → ∀ name ∈ entryNames,
      ∀ value ∈ member? (text name) members, value.orderFree = true)
    (h : items.map Value.sorted = items'.map Value.sorted) :
    items.foldlM (parseEntry tools needsSha) parsed =
      items'.foldlM (parseEntry tools needsSha) parsed := by
  induction items generalizing items' parsed with
  | nil =>
    rw [List.map_nil, eq_comm, List.map_eq_nil_iff] at h
    rw [h]
  | cons item rest ih =>
    cases items' with
    | nil => cases h
    | cons item' rest' =>
      rw [List.map_cons, List.map_cons, List.cons.injEq] at h
      have hfirst : parseEntry tools needsSha parsed item = parseEntry tools needsSha parsed item' :=
        parseEntry_congr hitems.1 hitems'.1
          (fun members hmembers => hplain members (hmembers ▸ List.mem_cons_self)) h.1
      rw [List.foldlM_cons, List.foldlM_cons, hfirst]
      congr 1
      funext next
      exact ih hitems.2 hitems'.2
        (fun members hmembers => hplain members (List.mem_cons_of_mem _ hmembers)) h.2

theorem listOr_congr {α : Type} {error : String} {f : List Value → Except String α}
    (h : value?.map Value.sorted = value?'.map Value.sorted)
    (hf : ∀ items items', value? = some (.arr items) → value?' = some (.arr items') →
      items.map Value.sorted = items'.map Value.sorted → f items = f items') :
    (listOr error value? >>= f) = (listOr error value?' >>= f) := by
  have hlist : ∀ value : Value, (∃ items, value = .arr items) ∨ listOr error (some value) =
      .error error ∧ ∀ items, value.sorted ≠ .arr items := by
    intro value
    cases value with
    | arr items => exact Or.inl ⟨items, rfl⟩
    | null | bool _ | int _ | double _ | str _ | obj _ =>
      exact Or.inr ⟨rfl, fun items hitems => by cases hitems⟩
  cases value? with
  | none =>
    cases value?' with
    | none => rfl
    | some _ => cases h
  | some value =>
    cases value?' with
    | none => cases h
    | some value' =>
      have hsame : value.sorted = value'.sorted := Option.some.inj h
      rcases hlist value with ⟨items, rfl⟩ | ⟨hvalue, hne⟩
      · rcases hlist value' with ⟨items', rfl⟩ | ⟨-, hne'⟩
        · refine hf items items' rfl rfl ?_
          rw [← sortedItems_eq, ← sortedItems_eq]
          exact Value.arr.inj hsame
        · exact absurd hsame.symm (hne' _)
      · rcases hlist value' with ⟨items', rfl⟩ | ⟨hvalue', -⟩
        · exact absurd hsame (hne _)
        · rw [hvalue, hvalue']

/-- **The canonical payload says which catalog was signed**: another payload with the same bytes
    has the same members in another order, and the same catalog unless a text shows the order. -/
theorem catalogOf_canonical {payload : List UInt8} (hsound : (Value.obj members).Sound IsDouble)
    (hsound' : (Value.obj members').Sound IsDouble) (h : signedPayload members = .ok payload)
    (h' : signedPayload members' = .ok payload) :
    (Value.obj members).sorted = (Value.obj members').sorted ∧
      (PlainTexts members → ∀ now, catalogOf tools now members = catalogOf tools now members') := by
  have hcanonical : ∀ {json : List (Text × Value)}, signedPayload json = .ok payload →
      ∃ t, canonicalJson (.obj json) = some t ∧ utf8Encode t = payload := by
    intro json hjson
    rw [signedPayload] at hjson
    split at hjson
    · cases hjson
    · next t ht => exact ⟨t, ht, Except.ok.inj hjson⟩
  obtain ⟨t, ht, hbytes⟩ := hcanonical h
  obtain ⟨t', ht', hbytes'⟩ := hcanonical h'
  have hsame := canonicalBytes_inj hsound hsound' ht ht' (hbytes.trans hbytes'.symm)
  refine ⟨hsame, fun hplain now => ?_⟩
  have hmember := member?_eq_of_sorted hsound.1 hsound'.1 hsame
  have hschema := hmember (text "schema")
  have hversion := hmember (text "version")
  have hid : member? (text "source_id") members = member? (text "source_id") members' :=
    eq_of_plain (hplain.source _ (by simp)) (hmember _)
  have hname : member? (text "source_name") members = member? (text "source_name") members' :=
    eq_of_plain (hplain.source _ (by simp)) (hmember _)
  have hisSchema : isText "hivra.plugin.catalog" (member? (text "schema") members) =
      isText "hivra.plugin.catalog" (member? (text "schema") members') := by
    rw [← isText_sorted, hschema, isText_sorted]
  have hisNumber : ∀ n, isNumber n (member? (text "version") members) =
      isNumber n (member? (text "version") members') := fun n => by
    rw [← isNumber_sorted, hversion, isNumber_sorted]
  unfold catalogOf memberText
  simp only [hisSchema, hisNumber, hid, hname]
  congr 1
  funext _
  congr 1
  funext _
  congr 1
  funext _
  apply listOr_congr (hmember (text "entries"))
  intro items items' hitems hitems' hsorted
  have hsoundItems : ∀ {json : List (Text × Value)} {items : List Value},
      (Value.obj json).Sound IsDouble → member? (text "entries") json = some (.arr items) →
      Value.Sound.soundItems IsDouble items := fun hjson hitems =>
    soundMembers_iff.mp hjson.2 _ (mem_of_member? hitems)
  rw [foldlM_parseEntry_congr (hsoundItems hsound hitems) (hsoundItems hsound' hitems')
    (hplain.entries items hitems) hsorted]

end Canonical

end Parse

end SourceCatalog

end Hivra
