import TowerMcp.Lib.Base64
import TowerMcp.Types.HeaderMappings
import TowerMcp.Types.Text

/-!
# Headers that mirror a request

The server checks that the headers of a request mirror its body: the method, the name of what it is
about, and the annotated arguments of a tool call. A value may be wrapped as Base64. What the packages
for Base64 and for texts do is a parameter, `Base64Engine` and `Rendering`.
-/

namespace TowerMcp

/-- The Base64 engine, with what the code relies on: it decodes what it encodes, an encoding is made of
digits and the padding, and what is decoded is not longer than its encoding. -/
structure Base64Engine where
  encode : List UInt8 → List Char
  decode : List Char → Except String (List UInt8)
  decode_encode : ∀ bytes, decode (encode bytes) = .ok bytes
  alphabet : ∀ bytes, ∀ c ∈ encode bytes, Base64.isAlphabet c = true
  length_le : ∀ text bytes, decode text = .ok bytes → bytes.length ≤ text.length

def Base64Engine.standard : Base64Engine where
  encode := Base64.encode
  decode text :=
    match Base64.decode text with
    | some bytes => .ok bytes
    | none => .error "Invalid input"
  decode_encode bytes := by rw [Base64.decode_encode]
  alphabet _ _ := Base64.is_alphabet_of_mem_encode
  length_le text bytes h := by
    split at h
    next decoded hdecoded =>
      cases h
      exact Base64.length_decode_le hdecoded
    next => cases h

structure Rendering where
  debug : String → String
  utf8Error : List UInt8 → String

def trimString (text : String) : String :=
  String.ofList (trim text.toList)

abbrev HeaderMap := List (String × String)

def HeaderMap.getAll (headers : HeaderMap) (name : String) : List String :=
  (headers.filter fun header => header.1 = name).map (·.2)

def mcpMethodHeader : String := "mcp-method"

def mcpNameHeader : String := "mcp-name"

def mcpParamHeaderPrefix : String := "mcp-param-"

def headerName (name : String) : Option String :=
  if isToken name then some (toAsciiLowercase name) else none

def isVisible (c : Char) : Bool :=
  c == '\t' || decide (0x20 ≤ c.toNat ∧ c.toNat ≤ 0x7e)

def headerValueText (raw : String) : Option String :=
  if raw.toList.all isVisible then some raw else none

inductive HeaderFailure where
  | mismatch (error : JsonRpcError)
  | panicked
deriving DecidableEq

def headerMismatch (message : String) : HeaderFailure :=
  .mismatch { code := -32020, message }

/-! ## The wrapping of values -/

def base64Prefix : List Char := "=?base64?".toList

def base64Suffix : List Char := "?=".toList

def looksWrapped (value : String) : Bool :=
  base64Prefix.isPrefixOf value.toList && base64Suffix.isSuffixOf value.toList

def wrappedBody (value : String) : Option (List Char) :=
  if value.toList.length < base64Prefix.length + base64Suffix.length then none
  else
    some ((value.toList.drop base64Prefix.length).take
      (value.toList.length - (base64Prefix.length + base64Suffix.length)))

/-- Decode a value that is wrapped. `describe` says what a message is about. -/
def decodeSentinel (engine : Base64Engine) (render : Rendering) (describe : String → String)
    (value : String) : Except HeaderFailure String :=
  if looksWrapped value then
    match wrappedBody value with
    | none => .error .panicked
    | some body =>
      match engine.decode body with
      | .error error => .error (headerMismatch (describe ("invalid Base64: " ++ error)))
      | .ok bytes =>
        match fromUtf8 bytes with
        | some text => .ok text
        | none =>
          .error (headerMismatch (describe
            ("Base64 payload is not valid UTF-8: " ++ render.utf8Error bytes)))
  else .ok value

def decodeRaw (engine : Base64Engine) (render : Rendering) (name raw : String) :
    Except HeaderFailure String :=
  match headerValueText raw with
  | none =>
    .error (headerMismatch (name ++ " contains invalid bytes: failed to convert header to a str"))
  | some text => decodeSentinel engine render (fun message => name ++ ": " ++ message)
      (trimString text)

def headerStr (engine : Base64Engine) (render : Rendering) (headers : HeaderMap) (name : String) :
    Except HeaderFailure (Option String) :=
  match headers.getAll name with
  | [] => .ok none
  | [raw] => (decodeRaw engine render name raw).map some
  | _ => .error (headerMismatch ("duplicate " ++ name ++ " header"))

/-! ## The checks -/

inductive Sep2243Mode where
  | strict
  | lenient
deriving DecidableEq

def nameSource (method : Option String) : Option String :=
  match method with
  | some "tools/call" | some "prompts/get" => some "name"
  | some "resources/read" => some "uri"
  | some "tasks/get" | some "tasks/update" | some "tasks/cancel" => some "taskId"
  | _ => none

def checkMethod (render : Rendering) (mode : Sep2243Mode) (header body : Option String) :
    Except HeaderFailure Unit :=
  match header, body with
  | none, _ =>
    if mode = .strict then .error (headerMismatch "Mcp-Method header is required") else .ok ()
  | some h, some b =>
    if h = b then .ok ()
    else
      .error (headerMismatch ("Mcp-Method header value " ++ render.debug h ++
        " does not match body method " ++ render.debug b))
  | some h, none =>
    .error (headerMismatch ("Mcp-Method header value " ++ render.debug h ++
      " present but body has no method field"))

def checkName (render : Rendering) (mode : Sep2243Mode) (method : String)
    (header body : Option String) : Except HeaderFailure Unit :=
  match header, body with
  | none, some _ =>
    if mode = .strict then
      .error (headerMismatch ("Mcp-Name header is required for " ++ method ++ " requests"))
    else .ok ()
  | some h, some b =>
    if h = b then .ok ()
    else
      .error (headerMismatch ("Mcp-Name header value " ++ render.debug h ++
        " does not match body value " ++ render.debug b))
  | some h, none =>
    .error (headerMismatch ("Mcp-Name header value " ++ render.debug h ++
      " present but body has no matching field"))
  | none, none => .ok ()

def mirrorText : Json → Except String String
  | .string text => .ok text
  | .number n => .ok (String.ofList (Json.compactNumber n))
  | .bool true => .ok "true"
  | .bool false => .ok "false"
  | .null => .error "null is not a primitive header value"
  | .array _ => .error "array is not a primitive header value"
  | .object _ => .error "object is not a primitive header value"

def checkMirror (engine : Base64Engine) (render : Rendering) (name raw : String) (value : Json) :
    Except HeaderFailure Unit := do
  let decoded ← decodeRaw engine render name raw
  match mirrorText value with
  | .error message =>
    .error (headerMismatch (name ++ ": body value cannot be represented as a header: " ++ message))
  | .ok body =>
    if decoded = body then .ok ()
    else
      .error (headerMismatch (name ++ " header value " ++ render.debug decoded ++
        " does not match body value " ++ render.debug body))

def mappingMessage (render : Rendering) : MappingError → String
  | .notString path => "x-mcp-header at " ++ ".".intercalate path ++ " must be a string"
  | .invalidSuffix suffix path =>
    "invalid x-mcp-header value " ++ render.debug suffix ++ " at " ++ ".".intercalate path
  | .notPrimitive path =>
    "x-mcp-header at " ++ ".".intercalate path ++
      " requires a string, integer, or boolean property"
  | .duplicate suffix => "duplicate x-mcp-header value " ++ render.debug suffix
  | .notReachable => "x-mcp-header annotation is not statically reachable through properties"

def serverHeaderMappings (render : Rendering) (schema : Json) :
    Except HeaderFailure (List CustomHeaderMapping) :=
  (collectMappings schema).mapError fun error => headerMismatch (mappingMessage render error)

def callArguments (parsed : Json) : Json :=
  ((parsed.get "params").bind fun params => params.get "arguments").getD .null

def checkMapping (engine : Base64Engine) (render : Rendering) (headers : HeaderMap)
    (mode : Sep2243Mode) (arguments : Json) (mapping : CustomHeaderMapping) :
    Except HeaderFailure Unit :=
  let fullName := mcpParamHeaderPrefix ++ mapping.suffix
  match headerName fullName with
  | none =>
    .error (headerMismatch ("invalid x-mcp-header value " ++ render.debug mapping.suffix ++
      ": invalid HTTP header name"))
  | some name =>
    let body := (valueAtPropertyPath arguments mapping.propertyPath).filter fun value =>
      !value.isNull
    match headers.getAll name, body with
    | [], some _ =>
      if mode = .strict then
        .error (headerMismatch (fullName ++ " header is required when argument " ++
          ".".intercalate mapping.propertyPath ++ " is present"))
      else .ok ()
    | [], none => .ok ()
    | [_], none =>
      .error (headerMismatch (fullName ++ " header is present but argument " ++
        ".".intercalate mapping.propertyPath ++ " is missing or null"))
    | [raw], some value => checkMirror engine render fullName raw value
    | _, _ => .error (headerMismatch ("duplicate " ++ fullName ++ " header"))

def checkMappings (engine : Base64Engine) (render : Rendering) (headers : HeaderMap)
    (mode : Sep2243Mode) (arguments : Json) : List CustomHeaderMapping → Except HeaderFailure Unit
  | [] => .ok ()
  | mapping :: rest => do
    checkMapping engine render headers mode arguments mapping
    checkMappings engine render headers mode arguments rest

def validateSchemaParamHeaders (engine : Base64Engine) (render : Rendering) (headers : HeaderMap)
    (parsed : Json) (mode : Sep2243Mode) (schema : Json) : Except HeaderFailure Unit := do
  let mappings ← serverHeaderMappings render schema
  checkMappings engine render headers mode (callArguments parsed) mappings

def argumentNamed (parsed : Json) (suffix : String) : Option Json :=
  ((callArguments parsed).asObject.getD []).findSome? fun field =>
    if toAsciiLowercase field.1 = toAsciiLowercase suffix then some field.2 else none

def checkParamHeader (engine : Base64Engine) (render : Rendering) (parsed : Json)
    (mode : Sep2243Mode) (name raw suffix : String) : Except HeaderFailure Unit :=
  match argumentNamed parsed suffix with
  | some value => checkMirror engine render name raw value
  | none => do
    let _ ← decodeRaw engine render name raw
    if mode = .strict then
      .error (headerMismatch (name ++ " present but no matching body argument"))
    else .ok ()

def validateParamHeaders (engine : Base64Engine) (render : Rendering) (parsed : Json)
    (mode : Sep2243Mode) : List String → HeaderMap → Except HeaderFailure Unit
  | _, [] => .ok ()
  | seen, (name, raw) :: rest =>
    match stripPrefix name.toList mcpParamHeaderPrefix.toList with
    | none => validateParamHeaders engine render parsed mode seen rest
    | some [] => .error (headerMismatch "Mcp-Param- header has empty suffix")
    | some suffix =>
      let suffix := String.ofList suffix
      if toAsciiLowercase suffix ∈ seen then
        .error (headerMismatch ("duplicate Mcp-Param-* header: " ++ render.debug suffix ++
          " (case-insensitive)"))
      else do
        checkParamHeader engine render parsed mode ("Mcp-Param-" ++ suffix) raw suffix
        validateParamHeaders engine render parsed mode
          (seen ++ [toAsciiLowercase suffix]) rest

def bodyMethod (parsed : Json) : Option String :=
  (parsed.get "method").bind Json.asStr

def validateMethod (engine : Base64Engine) (render : Rendering) (headers : HeaderMap)
    (parsed : Json) (mode : Sep2243Mode) : Except HeaderFailure Unit := do
  let header ← headerStr engine render headers mcpMethodHeader
  checkMethod render mode header (bodyMethod parsed)

def validateName (engine : Base64Engine) (render : Rendering) (headers : HeaderMap)
    (parsed : Json) (mode : Sep2243Mode) : Except HeaderFailure Unit := do
  let header ← headerStr engine render headers mcpNameHeader
  match nameSource (bodyMethod parsed) with
  | some field =>
    checkName render mode ((bodyMethod parsed).getD "?") header
      ((parsed.pointer ["params", field]).bind Json.asStr)
  | none => .ok ()

def validateWithToolSchema (engine : Base64Engine) (render : Rendering) (headers : HeaderMap)
    (parsed : Json) (mode : Sep2243Mode) (toolInputSchema : Option Json) :
    Except HeaderFailure Unit := do
  validateMethod engine render headers parsed mode
  validateName engine render headers parsed mode
  match toolInputSchema with
  | some schema => validateSchemaParamHeaders engine render headers parsed mode schema
  | none => validateParamHeaders engine render parsed mode [] headers

def requestToolInputSchema (tools : String → Option Json) (parsed : Json) : Option Json :=
  if bodyMethod parsed = some "tools/call" then
    ((parsed.pointer ["params", "name"]).bind Json.asStr).bind tools
  else none

/-! ## The values of a header -/

theorem get_all_eq_nil {headers : HeaderMap} {name : String}
    (h : ∀ header ∈ headers, header.1 ≠ name) : headers.getAll name = [] := by
  unfold HeaderMap.getAll
  rw [List.filter_eq_nil_iff.2 fun header hheader => by simpa using h header hheader, List.map_nil]

theorem get_all_map_of_ne {key name : String} (h : key ≠ name) (values : List String)
    (f : String → String) : HeaderMap.getAll (values.map fun value => (key, f value)) name = [] := by
  refine get_all_eq_nil fun header hheader => ?_
  obtain ⟨_, _, rfl⟩ := List.mem_map.1 hheader
  exact h

theorem get_all_append (first second : HeaderMap) (name : String) :
    HeaderMap.getAll (first ++ second) name =
      HeaderMap.getAll first name ++ HeaderMap.getAll second name := by
  unfold HeaderMap.getAll
  rw [List.filter_append, List.map_append]

theorem get_all_cons (header : String × String) (rest : HeaderMap) (name : String) :
    HeaderMap.getAll (header :: rest) name =
      (if header.1 = name then [header.2] else []) ++ HeaderMap.getAll rest name :=
  if h : header.1 = name then by simp [HeaderMap.getAll, h] else by simp [HeaderMap.getAll, h]

theorem get_all_filter_map {α : Type*} (key : α → String) {value : α → Option String}
    {items : List α} (hnodup : (items.map key).Nodup) {item : α} (hitem : item ∈ items) :
    HeaderMap.getAll (items.filterMap fun a => (value a).map fun v => (key a, v)) (key item) =
      (value item).toList := by
  induction items with
  | nil => cases hitem
  | cons first rest ih =>
    obtain ⟨hfresh, hrest⟩ := List.nodup_cons.1 hnodup
    have hsplit : HeaderMap.getAll
        ((first :: rest).filterMap fun a => (value a).map fun v => (key a, v)) (key item) =
        (if key first = key item then (value first).toList else []) ++
          HeaderMap.getAll (rest.filterMap fun a => (value a).map fun v => (key a, v))
            (key item) := by
      cases hvalue : value first with
      | none => simp [hvalue]
      | some v => simp [hvalue, get_all_cons]
    rw [hsplit]
    rcases List.mem_cons.1 hitem with rfl | hmem
    · rw [if_pos rfl, get_all_eq_nil, List.append_nil]
      intro header hheader hname
      obtain ⟨other, hother, hmap⟩ := List.mem_filterMap.1 hheader
      obtain ⟨v, _, rfl⟩ := Option.map_eq_some_iff.1 hmap
      exact hfresh (hname ▸ List.mem_map_of_mem hother)
    · have hne : key first ≠ key item := by
        intro hequal
        exact hfresh (hequal ▸ List.mem_map_of_mem hmem)
      rw [if_neg hne, List.nil_append]
      exact ih hrest hmem

/-! ## What a value decodes to -/

variable {engine : Base64Engine} {render : Rendering}

variable {value : String}

theorem length_wrapped_body {body : List Char} (h : wrappedBody value = some body) :
    body.length + 11 ≤ value.toList.length := by
  unfold wrappedBody at h
  split at h
  next => cases h
  next hlength =>
    cases h
    rw [List.length_take, List.length_drop]
    have hmarks : base64Prefix.length + base64Suffix.length = 11 := rfl
    omega

theorem length_decode_sentinel_lt {describe : String → String} {text : String}
    (hlooks : looksWrapped value = true)
    (h : decodeSentinel engine render describe value = .ok text) :
    text.toList.length < value.toList.length := by
  unfold decodeSentinel at h
  rw [if_pos hlooks] at h
  split at h
  next => cases h
  next body hbody =>
    split at h
    next => cases h
    next bytes hbytes =>
      split at h
      next decoded htext =>
        cases h
        have hshort := length_wrapped_body hbody
        have hdecoded := engine.length_le body bytes hbytes
        have hread := length_le_of_from_utf8 htext
        omega
      next => cases h

theorem decode_sentinel_of_not_looks_wrapped {describe : String → String}
    (h : looksWrapped value = false) : decodeSentinel engine render describe value = .ok value := by
  unfold decodeSentinel
  rw [if_neg (Bool.eq_false_iff.1 h)]

def isPlain (value : String) : Prop :=
  value.toList.all isVisible = true ∧ trimString value = value ∧ looksWrapped value = false

end TowerMcp
