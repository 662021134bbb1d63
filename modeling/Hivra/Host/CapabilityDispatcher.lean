import Hivra.Lib.JsonText

namespace Hivra

open JsonText

/-!
# The capability dispatcher

The host's one way to the network for a package.  A request names its credential fields and
never sees their values; the host checks the request against the granted access, puts the values
in, sends, and looks for an echo of them before it hands the response to the package.

The two libraries the dispatcher calls for addresses and signatures are a parameter, and so is
what the outside answers: the stored credentials, the last permission check and the response.
An exception of the source is `none`.

* `prepare` — what a request is sent as, if it is sent.
-/

namespace PluginCapabilityDispatcher

def version : ℤ := 2

def maxBodyBytes : ℤ := 24 * 1024

def maxResponseBodyBytes : ℤ := 256 * 1024

def maxResponseJsonSourceBytes : ℤ := 1024 * 1024

def maxResponseJsonPaths : ℕ := 8

def maxResponseJsonPathDepth : ℕ := 16

/-- A parsed address. -/
structure Uri where
  scheme : Text
  host : Text
  userInfo : Text
  path : Text
  origin : Text
  hasQuery : Bool
  hasFragment : Bool
  queryParametersAll : List (Text × List Text)
  text : Text

/-- The libraries for addresses, for signatures and for doubles. -/
structure Library where
  parseUri : Text → Option Uri
  replaceQuery : Uri → List (Text × Text) → Uri
  hmacHex : Text → Text → Text
  doubleText : Text → Text

/-! ### Texts -/

/-- The bytes a text takes in UTF-8; a lone surrogate is replaced by a mark of three bytes. -/
def utf8Length : Text → ℕ
  | [] => 0
  | [c] => if c < 0x80 then 1 else if c < 0x800 then 2 else 3
  | c :: d :: rest =>
    if isLead c && isTail d then 4 + utf8Length rest
    else (if c < 0x80 then 1 else if c < 0x800 then 2 else 3) + utf8Length (d :: rest)

def isLower (c : UInt16) : Bool := decide (97 ≤ c) && decide (c ≤ 122)

def isUpper (c : UInt16) : Bool := decide (65 ≤ c) && decide (c ≤ 90)

/-- An identifier: a small letter, and up to 63 small letters, digits and marks. -/
def safeId (t : Text) : Bool :=
  t.head?.any isLower && decide (t.length ≤ 64) &&
    t.all fun c => isLower c || isDigit c || c == 95 || c == 46 || c == 45

/-- A header name: up to 64 letters, digits and hyphens. -/
def isHeaderName (t : Text) : Bool :=
  decide (1 ≤ t.length) && decide (t.length ≤ 64) &&
    t.all fun c => isLower c || isUpper c || isDigit c || c == 45

def toLowerCase (t : Text) : Text := t.map fun c => if isUpper c then c + 32 else c

/-- A text with a carriage return or a line feed. -/
def breaksLine (t : Text) : Bool := t.contains 13 || t.contains 10

/-- The headers that are the host's own. -/
def reservedHeaders : List Text :=
  [text "host", text "connection", text "content-length", text "transfer-encoding",
    text "proxy-authorization"]

/-! ### Values -/

/-- The member of a name, null when there is none. -/
def get (members : List (Text × Value)) (name : String) : Value :=
  (member? (text name) members).getD .null

/-- The equality of the values that permissions compare: two nulls or two equal strings. -/
def sameValue : Value → Value → Bool
  | .null, .null => true
  | .str a, .str b => a == b
  | _, _ => false

def stringOf : Value → Option Text
  | .str t => some t
  | _ => none

/-- A map that may be missing. -/
def optionalMap : Value → Option (List (Text × Value))
  | .null => some []
  | .obj members => some members
  | _ => none

/-- A map of strings. -/
def stringMap (members : List (Text × Value)) : Option (List (Text × Text)) :=
  members.mapM fun entry => (stringOf entry.2).map fun t => (entry.1, t)

/-! ### Access -/

def methodNames : List Text :=
  [text "GET", text "HEAD", text "POST", text "PUT", text "PATCH", text "DELETE", text "OPTIONS"]

/-- A missing value or one that a check holds of. -/
def absentOr (check : Text → Bool) : Value → Bool
  | .null => true
  | .str t => check t
  | _ => false

/-- One permission: an exact HTTPS origin, its methods, and a connection if any. -/
def networkRule (lib : Library) : Value → Bool
  | .obj rule =>
    match get rule "origin", get rule "methods" with
    | .str origin, .arr methods =>
      !methods.isEmpty && decide (methods.length ≤ 7) &&
        methods.all (fun method => (stringOf method).any fun name => methodNames.contains name) &&
        absentOr safeId (get rule "credential") &&
        (lib.parseUri origin).any fun uri =>
          uri.scheme == text "https" && !uri.host.isEmpty && uri.userInfo.isEmpty &&
            !uri.hasQuery && !uri.hasFragment &&
            (uri.path.isEmpty || uri.path == text "/") && uri.origin == origin
    | _, _ => false
  | _ => false

/-- One field of a connection. -/
def connectionField : Value → Bool
  | .obj field =>
    ((stringOf (get field "id")).any safeId) &&
      ((stringOf (get field "label")).any fun label => decide (label.length ≤ 128))
  | _ => false

/-- The id of a field. -/
def fieldId : Value → Option Text
  | .obj field => stringOf (get field "id")
  | _ => none

/-- One connection: its name and its fields, which have different ids. -/
def connectionRule (connection : Text × Value) : Bool :=
  safeId connection.1 &&
    match connection.2 with
    | .arr fields =>
      !fields.isEmpty && decide (fields.length ≤ 8) && fields.all connectionField &&
        decide (fields.map fieldId).Nodup
    | _ => false

/-- The permission names no connection, or one that is declared. -/
def declared (connections : List (Text × Value)) : Value → Bool
  | .obj rule => absentOr (fun name => (member? name connections).isSome) (get rule "credential")
  | _ => false

def isVersion : Value → Bool
  | .int n => n == version
  | .double shortest => shortest == text "2.0"
  | _ => false

/-- The access scope is well formed. -/
def validateAccess (lib : Library) (access : List (Text × Value)) : Bool :=
  match get access "network", optionalMap (get access "credentials") with
  | .arr network, some connections =>
    isVersion (get access "version") && decide (network.length ≤ 16) &&
      network.all (networkRule lib) &&
      (match get access "inference" with
        | .null => true
        | .bool _ => true
        | _ => false) &&
      (match get access "credential_fields" with
        | .null => true
        | _ => false) &&
      decide (connections.length ≤ 8) && connections.all connectionRule &&
      network.all (declared connections) &&
      (encode (.obj access)).any fun written => decide (utf8Length written ≤ 4096)
  | _, _ => false

/-- The permission covers the request at an address. -/
def covers (request : List (Text × Value)) (uri : Uri) : Value → Bool
  | .obj rule =>
    sameValue (get rule "origin") (.str uri.origin) &&
      (match get rule "methods" with
        | .arr methods => methods.any fun method => sameValue method (get request "method")
        | _ => false) &&
      sameValue (get rule "credential") (get request "credential")
  | _ => false

/-- The access allows the request. -/
def allows (lib : Library) (access request : List (Text × Value)) : Bool :=
  validateAccess lib access &&
    if sameValue (get request "kind") (.str (text "ai.infer")) then
      match get access "inference" with
      | .bool inference => inference
      | _ => false
    else
      ((stringOf (get request "url")).bind lib.parseUri).any fun uri =>
        uri.scheme == text "https" && !uri.host.isEmpty && uri.userInfo.isEmpty &&
          !uri.hasFragment &&
          match get access "network" with
          | .arr network => network.any (covers request uri)
          | _ => false

/-! ### The request -/

/-- The paths of the response the package wants, by name. -/
def selectedPathsOf : Value → Option (Option (List (Text × List Text)))
  | .null => some none
  | .obj entries =>
    if entries.isEmpty ∨ maxResponseJsonPaths < entries.length then none
    else (entries.mapM fun entry : Text × Value =>
      match entry.2 with
      | .arr parts =>
        if entry.1.isEmpty ∨ 64 < entry.1.length ∨ maxResponseJsonPathDepth < parts.length then none
        else (parts.mapM fun part => (stringOf part).filter fun t : Text => decide (t.length ≤ 64)).map
          fun path => (entry.1, path)
      | _ => none).map some
  | _ => none

/-- The bytes the package takes. -/
def responseLimitOf (request : List (Text × Value)) (selected : Bool) : Option ℤ :=
  let limit := match get request "max_response_bytes" with
    | .null => some maxBodyBytes
    | .int limit => some limit
    | _ => none
  limit.filter fun limit => decide (1 ≤ limit) &&
    decide (limit ≤ if selected then maxResponseJsonSourceBytes else maxResponseBodyBytes)

/-- The headers the package asks for. -/
def requestHeaders (request : List (Text × Value)) : Option (List (Text × Text)) := do
  let members ← optionalMap (get request "headers")
  let headers ← stringMap members
  if headers.length ≤ 16 ∧ headers.all (fun header =>
      isHeaderName header.1 && decide (header.2.length ≤ 1024) && !breaksLine header.2 &&
        !reservedHeaders.contains (toLowerCase header.1)) then
    some headers
  else none

/-- The body of the request, if any. -/
def requestBody (request : List (Text × Value)) : Option (Option Text) :=
  match get request "body" with
  | .null => some none
  | .str body => if (utf8Length body : ℤ) ≤ maxBodyBytes then some (some body) else none
  | _ => none

/-! ### Authentication -/

/-- The stored value of a credential field. -/
def secret (values : List (Text × Text)) (field : Value) : Option Text := do
  let name ← stringOf field
  let value ← member? name values
  if safeId name ∧ ¬ value.isEmpty ∧ value.length ≤ 4096 then some value else none

/-- The headers so far, and the values that are protected so far. -/
abbrev Authenticated := List (Text × Text) × List Text

/-- Put a credential into a header, behind its prefix. -/
def protectedHeader (values : List (Text × Text)) (state : Authenticated)
    (assignment : Text × Value) : Option Authenticated := do
  if ¬ isHeaderName assignment.1 ∨ reservedHeaders.contains (toLowerCase assignment.1) then none
  else
    match assignment.2 with
    | .obj descriptor =>
      let lead ← match get descriptor "prefix" with
        | .null => some []
        | .str lead => some lead
        | _ => none
      let value ← secret values (get descriptor "field")
      if breaksLine (lead ++ value) then none
      else some (setMember assignment.1 (lead ++ value) state.1, state.2 ++ [value])
    | _ => none

/-- The order of the parameters that are signed. -/
def parameterLe (a b : Text × Text) : Bool :=
  (compare (a.1.map UInt16.toNat) (b.1.map UInt16.toNat)).isLE

/-- The parameters as they are signed. -/
def canonicalQuery (params : List (Text × Text)) : Text :=
  List.intercalate (text "&") ((params.mergeSort parameterLe).map fun param =>
    param.1 ++ text "=" ++ param.2)

/-- Sign the query with a credential; the key and the signature are protected. -/
def signQuery (lib : Library) (values : List (Text × Text)) (uri : Uri)
    (signature : List (Text × Value)) : Option (Uri × List Text) := do
  let parameter ← stringOf (get signature "parameter")
  let params := uri.queryParametersAll.map fun param => (param.1, param.2.headD [])
  if ¬ safeId parameter ∨ uri.queryParametersAll.any (fun param => param.2.length != 1) ∨
      (member? parameter params).isSome then
    none
  else
    let key ← secret values (get signature "field")
    let signed := lib.hmacHex key (canonicalQuery params)
    some (lib.replaceQuery uri (setMember parameter signed params), [key, signed])

/-- The request as it is sent, and what is protected about it. -/
structure Prepared where
  method : Value
  uri : Uri
  headers : List (Text × Text)
  body : Option Text
  responseLimit : ℤ
  selectedPaths : Option (List (Text × List Text))
  authenticated : Bool
  secretValues : List Text

/-- Put the credentials of a request into it. -/
def authenticate (lib : Library) (credentials : Option (List (Text × Text)))
    (request : List (Text × Value)) (prepared : Prepared) : Option Prepared :=
  match get request "auth", get request "credential" with
  | .null, _ => some prepared
  | _, .null => none
  | .obj auth, _ => do
    let values ← credentials
    let assignments ← optionalMap (get auth "headers")
    if 8 < assignments.length then none
    else
      let (headers, secrets) ← assignments.foldlM (protectedHeader values) (prepared.headers, [])
      match get auth "hmac_query" with
      | .null =>
        some { prepared with headers := headers, authenticated := true, secretValues := secrets }
      | .obj signature =>
        let (uri, signed) ← signQuery lib values prepared.uri signature
        some { prepared with
          uri := uri
          headers := headers
          authenticated := true
          secretValues := secrets ++ signed }
      | _ => none
  | _, _ => none

/-- Everything in front of the transport. -/
def prepare (lib : Library) (request access : List (Text × Value))
    (credentials : Option (List (Text × Text))) : Option Prepared := do
  let paths ← selectedPathsOf (get request "response_json_paths")
  let limit ← responseLimitOf request paths.isSome
  let url ← stringOf (get request "url")
  let body ← requestBody request
  if ¬ allows lib access request ∨ 2048 < url.length then none
  else
    let uri ← lib.parseUri url
    let headers ← requestHeaders request
    authenticate lib credentials request {
      method := get request "method"
      uri := uri
      headers := headers
      body := body
      responseLimit := limit
      selectedPaths := paths
      authenticated := false
      secretValues := [] }

/-! ### The response -/

/-- What the transport returns. -/
structure TransportResponse where
  status : ℤ
  headers : List (Text × Text)
  body : Text

/-- A map of strings as a value. -/
def stringValue (members : List (Text × Text)) : Value :=
  .obj (members.map fun entry => (entry.1, .str entry.2))

/-- The response is within the bounds of the request. -/
def withinBounds (prepared : Prepared) (response : TransportResponse) : Bool :=
  decide (100 ≤ response.status) && decide (response.status ≤ 599) &&
    decide ((utf8Length response.body : ℤ) ≤ prepared.responseLimit) &&
    decide (response.headers.length ≤ 64) &&
    ((encode (stringValue response.headers)).any fun written =>
      decide (utf8Length written ≤ 8192)) &&
    response.headers.all fun header => isHeaderName header.1 && !breaksLine header.2

/-- The text that is searched for an echo. -/
def visibleText (response : TransportResponse) : Option Text :=
  encode (.arr [.str response.body, stringValue response.headers])

/-- A protected value, or the address of an authenticated request, is found in the text. -/
def echoes (prepared : Prepared) (visible : Text) : Bool :=
  (prepared.secretValues.any fun value => decide (value <:+: visible)) ||
    (prepared.authenticated && decide (prepared.uri.text <:+: visible))

/-- A whole number in decimal digits, or in hexadecimal ones behind 0x; spaces around it do
    not count, and one beyond 64 bits is none. -/
def intTryParse (t : Text) : Option ℤ :=
  let isBlank (c : UInt16) : Bool := (decide (9 ≤ c) && decide (c ≤ 13)) || c == 32 || c == 0x85 ||
    c == 0xA0 || c == 0x1680 || (decide (0x2000 ≤ c) && decide (c ≤ 0x200A)) || c == 0x2028 ||
    c == 0x2029 || c == 0x202F || c == 0x205F || c == 0x3000 || c == 0xFEFF
  let trimmed := ((t.dropWhile isBlank).reverse.dropWhile isBlank).reverse
  let (negative, unsigned) := match trimmed with
    | 43 :: rest => (false, rest)
    | 45 :: rest => (true, rest)
    | _ => (false, trimmed)
  let sign (value : ℤ) : ℤ := if negative then -value else value
  match unsigned with
  | 48 :: 120 :: digits | 48 :: 88 :: digits =>
    if digits.isEmpty then none
    else (digits.mapM hexValue).bind fun values =>
      let value : ℕ := values.foldl (fun value digit => value * 16 + digit.toNat) 0
      if value < 2 ^ 63 then some (sign value)
      else if value < 2 ^ 64 then some (sign (value - 2 ^ 64))
      else none
  | _ =>
    if unsigned.isEmpty ∨ ¬ unsigned.all isDigit then none
    else
      let value := sign (digitsValue unsigned)
      if -2 ^ 63 ≤ value ∧ value < 2 ^ 63 then some value else none

/-- Follow a path into a value. -/
def select (value : Value) : List Text → Value
  | [] => value
  | part :: path =>
    match value with
    | .obj members => select ((member? part members).getD .null) path
    | .arr items =>
      if part = text "*" then .arr (items.map fun item => select item path)
      else
        match intTryParse part with
        | some index =>
          if 0 ≤ index ∧ index < items.length then select (items.getD index.toNat .null) path
          else .null
        | none => .null
    | _ => .null

/-- The values of the paths, by name. -/
def project (paths : List (Text × List Text)) (decoded : Value) : List (Text × Value) :=
  paths.map fun entry => (entry.1, select decoded entry.2)

/-- The headers that still hold of a projection. -/
def keptHeaders (headers : List (Text × Text)) : List (Text × Text) :=
  headers.filter fun header =>
    !([text "content-length", text "content-encoding"].contains (toLowerCase header.1))

/-- The projection fits the request and the result. -/
def projectionFits (prepared : Prepared) (projection : List (Text × Value)) : Bool :=
  (encode (.obj projection)).any fun written =>
    decide ((utf8Length written : ℤ) ≤ prepared.responseLimit) &&
      decide ((utf8Length written : ℤ) ≤ maxResponseBodyBytes)

/-- What the package gets of the body. -/
inductive HttpContent
  | body (t : Text)
  | json (members : List (Text × Value))

/-- The map the call returns. -/
inductive HttpOutcome
  | notDispatched
  | unknown (error : String)
  | response (status : ℤ) (headers : List (Text × Text)) (content : HttpContent)

/-- The response as the package gets it. -/
def deliver (lib : Library) (prepared : Prepared) (response : TransportResponse) :
    Option HttpOutcome :=
  if withinBounds prepared response = false then none
  else do
    let visible ← visibleText response
    if echoes prepared visible then some (.unknown "protected_response")
    else
      match prepared.selectedPaths with
      | none => some (.response response.status response.headers (.body response.body))
      | some paths =>
        let decoded ← JsonText.decode lib.doubleText response.body
        if projectionFits prepared (project paths decoded) then
          some (.response response.status (keptHeaders response.headers)
            (.json (project paths decoded)))
        else none

end PluginCapabilityDispatcher

end Hivra
