import TowerMcp.Transport.HttpHeaders

/-!
# Headers the client attaches

A request mirrors its method, the name of what it is about and the annotated arguments of a tool call
in headers. Arguments are wrapped as Base64 when they could not stand in a header, names are not.
`headers_agree_iff` says which requests the server then accepts.
-/

namespace TowerMcp

open Fallible

namespace HttpClient

/-! ## What the client sends -/

def mappingMessage (render : Rendering) : MappingError → String
  | .notString path => "annotation at " ++ ".".intercalate path ++ " is not a string"
  | .invalidSuffix suffix path =>
    "invalid header suffix " ++ render.debug suffix ++ " at " ++ ".".intercalate path
  | .notPrimitive path =>
    "annotation at " ++ ".".intercalate path ++ " is not on a primitive property"
  | .duplicate suffix => "duplicate header suffix " ++ render.debug suffix
  | .notReachable => "x-mcp-header annotation is not statically reachable through properties"

def customHeaderMappings (render : Rendering) (schema : Json) :
    Except String (List CustomHeaderMapping) :=
  (collectMappings schema).mapError (mappingMessage render)

abbrev ToolHeaderMappings := FinMap String (List CustomHeaderMapping)

def jsonValueToHeaderString : Json → Option String
  | .string value => some value
  | .number value => some (String.ofList (Json.compactNumber value))
  | .bool true => some "true"
  | .bool false => some "false"
  | .null | .array _ | .object _ => none

def unsafeForHeader (value : String) : Bool :=
  decide (trimString value ≠ value) ||
    value.toList.any fun c => !decide (0x20 ≤ c.toNat ∧ c.toNat ≤ 0x7e)

def wrap (engine : Base64Engine) (value : String) : String :=
  String.ofList (base64Prefix ++ engine.encode (utf8Bytes value) ++ base64Suffix)

def encodeHeaderValue (engine : Base64Engine) (value : String) : String :=
  if unsafeForHeader value then wrap engine value else value

def calledMappings (learned : ToolHeaderMappings) (parsed : Json) : List CustomHeaderMapping :=
  if bodyMethod parsed = some "tools/call" then
    (((parsed.pointer ["params", "name"]).bind Json.asStr).bind learned.lookup).getD []
  else []

def argumentText (parsed : Json) (mapping : CustomHeaderMapping) : Option String :=
  ((valueAtPropertyPath (callArguments parsed) mapping.propertyPath).filter fun value =>
    !value.isNull).bind jsonValueToHeaderString

def outgoingCustomHeaders (engine : Base64Engine) (learned : ToolHeaderMappings) (parsed : Json) :
    List (String × String) :=
  (calledMappings learned parsed).filterMap fun mapping =>
    (argumentText parsed mapping).map fun rendered =>
      (mcpParamHeaderPrefix ++ mapping.suffix, encodeHeaderValue engine rendered)

def mirroredName (parsed : Json) : Option String :=
  match bodyMethod parsed with
  | some "tools/call" | some "prompts/get" => (parsed.pointer ["params", "name"]).bind Json.asStr
  | some "resources/read" => (parsed.pointer ["params", "uri"]).bind Json.asStr
  | some "tasks/get" | some "tasks/update" | some "tasks/cancel" =>
    (parsed.pointer ["params", "taskId"]).bind Json.asStr
  | _ => none

def mirroredHeaders (engine : Base64Engine) (learned : ToolHeaderMappings) (parsed : Json) :
    List (String × String) :=
  ((bodyMethod parsed).toList.map fun method => (mcpMethodHeader, method)) ++
    ((mirroredName parsed).toList.map fun name => (mcpNameHeader, name)) ++
    outgoingCustomHeaders engine learned parsed

def attachable (header : String × String) : Bool :=
  isToken header.1 &&
    header.2.toList.all fun c => c == '\t' || decide (0x20 ≤ c.toNat ∧ c.toNat ≠ 0x7f)

def attach (headers : List (String × String)) : Option HeaderMap :=
  if headers.all attachable then
    some (headers.map fun header => (toAsciiLowercase header.1, header.2))
  else none

/-! ## What the server receives -/

def isOuterSpace (c : Char) : Bool :=
  c == ' ' || c == '\t'

def transported (value : String) : String :=
  String.ofList ((value.toList.dropWhile isOuterSpace).rdropWhile isOuterSpace)

def received (headers : HeaderMap) : HeaderMap :=
  headers.map fun header => (header.1, transported header.2)

def Accepted (engine : Base64Engine) (render : Rendering) (learned : ToolHeaderMappings)
    (tools : String → Option Json) (parsed : Json) : Prop :=
  ∃ headers, attach (mirroredHeaders engine learned parsed) = some headers ∧
    validateWithToolSchema engine render (received headers) parsed .strict
      (requestToolInputSchema tools parsed) = .ok ()

def imitates (value : String) : Bool :=
  !unsafeForHeader value && looksWrapped value

/-- A request about `name` whose tool, if it calls one, the client has learned, with annotated
arguments that can be mirrored. -/
structure Mirrorable (render : Rendering) (learned : ToolHeaderMappings)
    (tools : String → Option Json) (parsed : Json) (name : String) : Prop where
  named : mirroredName parsed = some name
  known : bodyMethod parsed = some "tools/call" → ∃ schema mappings, tools name = some schema ∧
    customHeaderMappings render schema = .ok mappings ∧ learned.lookup name = some mappings
  primitive : ∀ mapping ∈ calledMappings learned parsed, ∀ value,
    valueAtPropertyPath (callArguments parsed) mapping.propertyPath = some value →
      value.isNull = true ∨ (jsonValueToHeaderString value).isSome = true

/-! ## Values -/

variable {engine : Base64Engine} {render : Rendering}

theorem is_whitespace_of_outer_space (c : Char) (h : isOuterSpace c = true) :
    isWhitespace c = true := by
  rcases Bool.or_eq_true_iff.1 h with hspace | htab
  · rw [eq_of_beq hspace]
    rfl
  · rw [eq_of_beq htab]
    rfl

variable {value : String}

theorem transported_eq_self (h : trimString value = value) : transported value = value := by
  have htrimmed : trim value.toList = value.toList := by
    have hlist := congrArg String.toList h
    rwa [trimString, String.toList_ofList] at hlist
  unfold transported
  rw [trim_eq_self_of_le is_whitespace_of_outer_space htrimmed, String.ofList_toList]

theorem decode_raw_transported {header : String} (hvisible : value.toList.all isVisible = true)
    (htrimmed : trimString value = value) :
    decodeRaw engine render header (transported value) =
      decodeSentinel engine render (fun message => header ++ ": " ++ message) value := by
  unfold decodeRaw headerValueText
  rw [transported_eq_self htrimmed, if_pos hvisible]
  dsimp only
  rw [htrimmed]

theorem decode_raw_transported_iff (engine : Base64Engine) (render : Rendering) (header : String) :
    decodeRaw engine render header (transported value) = .ok value ↔ isPlain value := by
  constructor
  · intro h
    have harrived : (transported value).toList.Sublist value.toList := by
      rw [transported, String.toList_ofList]
      exact trim_sublist _ _
    have htrim : (trimString (transported value)).toList.Sublist (transported value).toList := by
      rw [trimString, String.toList_ofList]
      exact trim_sublist _ _
    unfold decodeRaw headerValueText at h
    by_cases hvisible : (transported value).toList.all isVisible = true
    · rw [if_pos hvisible] at h
      dsimp only at h
      have hlooks : looksWrapped (trimString (transported value)) = false := by
        refine Bool.eq_false_iff.2 fun hwrapped => ?_
        have hshorter := length_decode_sentinel_lt hwrapped h
        have htrimmed := htrim.length_le
        have hreceived := harrived.length_le
        omega
      rw [decode_sentinel_of_not_looks_wrapped hlooks] at h
      have hequal : trimString (transported value) = value := Except.ok.inj h
      rw [hequal] at htrim hlooks
      have hsame : transported value = value :=
        String.toList_inj.1 (harrived.eq_of_length_le htrim.length_le)
      rw [hsame] at hvisible hequal
      exact ⟨hvisible, hequal, hlooks⟩
    · rw [if_neg hvisible] at h
      cases h
  · rintro ⟨hvisible, htrimmed, hlooks⟩
    rw [decode_raw_transported hvisible htrimmed]
    exact decode_sentinel_of_not_looks_wrapped hlooks

theorem is_visible_of_is_alphabet {c : Char} (h : Base64.isAlphabet c = true) :
    isVisible c = true := by
  have hvalue : 0x20 ≤ c.toNat ∧ c.toNat ≤ 0x7e := by
    rcases Bool.or_eq_true_iff.1 h with hdigit | hpad
    · unfold Base64.value at hdigit
      dsimp only at hdigit
      split at hdigit
      next => omega
      split at hdigit
      next => omega
      split at hdigit
      next => omega
      split at hdigit
      next hplus => rw [hplus]; decide
      split at hdigit
      next hslash => rw [hslash]; decide
      cases hdigit
    · rw [eq_of_beq hpad]
      decide
  unfold isVisible
  rw [decide_eq_true hvalue, Bool.or_true]

theorem to_list_wrap (value : String) :
    (wrap engine value).toList = base64Prefix ++ engine.encode (utf8Bytes value) ++ base64Suffix :=
  String.toList_ofList

theorem wrap_visible (value : String) : (wrap engine value).toList.all isVisible = true := by
  rw [to_list_wrap, List.all_append, List.all_append]
  have hbody : (engine.encode (utf8Bytes value)).all isVisible = true := by
    refine List.all_eq_true.2 fun c hc => ?_
    exact is_visible_of_is_alphabet (engine.alphabet _ c hc)
  rw [hbody]
  decide

theorem trim_string_wrap (value : String) : trimString (wrap engine value) = wrap engine value := by
  have htrim : trim (wrap engine value).toList = (wrap engine value).toList := by
    rw [to_list_wrap]
    refine trim_eq_self_iff.2 ⟨List.dropWhile_eq_self_iff.2 ?_, List.rdropWhile_eq_self_iff.2 ?_⟩
    · intro _
      show ¬isWhitespace '=' = true
      decide
    · intro hne
      have hlast : (base64Prefix ++ engine.encode (utf8Bytes value) ++ base64Suffix).getLast hne =
          '=' :=
        List.getLast_append_of_ne_nil _ (by decide)
      rw [hlast]
      decide
  unfold trimString
  rw [htrim, String.ofList_toList]

theorem wrapped_body_wrap (value : String) :
    wrappedBody (wrap engine value) = some (engine.encode (utf8Bytes value)) := by
  unfold wrappedBody
  rw [to_list_wrap]
  have hlength : (base64Prefix ++ engine.encode (utf8Bytes value) ++ base64Suffix).length =
      (engine.encode (utf8Bytes value)).length + (base64Prefix.length + base64Suffix.length) := by
    rw [List.length_append, List.length_append]
    omega
  rw [hlength, if_neg (by omega), List.append_assoc, List.drop_left, Nat.add_sub_cancel,
    List.take_left]

theorem looks_wrapped_wrap (value : String) : looksWrapped (wrap engine value) = true := by
  unfold looksWrapped
  rw [to_list_wrap]
  refine Bool.and_eq_true_iff.2 ⟨?_, ?_⟩
  · rw [List.isPrefixOf_iff_prefix, List.append_assoc]
    exact List.prefix_append _ _
  · rw [List.isSuffixOf_iff_suffix]
    exact List.suffix_append _ _

theorem decode_sentinel_wrap (describe : String → String) (value : String) :
    decodeSentinel engine render describe (wrap engine value) = .ok value := by
  unfold decodeSentinel
  rw [if_pos (looks_wrapped_wrap value), wrapped_body_wrap]
  dsimp only
  rw [engine.decode_encode]
  dsimp only
  rw [from_utf8_utf8_bytes]

theorem decode_sentinel_encode_iff {describe : String → String} :
    decodeSentinel engine render describe (encodeHeaderValue engine value) = .ok value ↔
      imitates value = false := by
  unfold encodeHeaderValue imitates
  cases hunsafe : unsafeForHeader value with
  | true =>
    rw [if_pos rfl]
    exact ⟨fun _ => rfl, fun _ => decode_sentinel_wrap describe value⟩
  | false =>
    rw [if_neg Bool.false_ne_true, Bool.not_false, Bool.true_and]
    constructor
    · intro h
      refine Bool.eq_false_iff.2 fun hlooks => ?_
      exact Nat.lt_irrefl _ (length_decode_sentinel_lt hlooks h)
    · intro hlooks
      exact decode_sentinel_of_not_looks_wrapped hlooks

theorem of_not_unsafe (h : unsafeForHeader value = false) :
    trimString value = value ∧
      value.toList.all (fun c => decide (0x20 ≤ c.toNat ∧ c.toNat ≤ 0x7e)) = true := by
  obtain ⟨htrim, hprintable⟩ := Bool.or_eq_false_iff.1 h
  refine ⟨Decidable.not_not.1 (of_decide_eq_false htrim), ?_⟩
  rw [List.any_eq_not_all_not] at hprintable
  simpa using hprintable

theorem encode_header_value_clean (engine : Base64Engine) (value : String) :
    (encodeHeaderValue engine value).toList.all isVisible = true ∧
      trimString (encodeHeaderValue engine value) = encodeHeaderValue engine value := by
  unfold encodeHeaderValue
  cases hunsafe : unsafeForHeader value with
  | true =>
    rw [if_pos rfl]
    exact ⟨wrap_visible value, trim_string_wrap value⟩
  | false =>
    obtain ⟨htrim, hprintable⟩ := of_not_unsafe hunsafe
    rw [if_neg Bool.false_ne_true]
    refine ⟨List.all_eq_true.2 fun c hc => ?_, htrim⟩
    unfold isVisible
    rw [List.all_eq_true.1 hprintable c hc, Bool.or_true]

theorem decode_raw_encode_iff (engine : Base64Engine) (render : Rendering) (header : String) :
    decodeRaw engine render header (transported (encodeHeaderValue engine value)) = .ok value ↔
      imitates value = false := by
  obtain ⟨hvisible, htrim⟩ := encode_header_value_clean engine value
  rw [decode_raw_transported hvisible htrim]
  exact decode_sentinel_encode_iff

/-! ## Names -/

theorem to_ascii_lowercase_param (suffix : String) :
    toAsciiLowercase (mcpParamHeaderPrefix ++ suffix) =
      mcpParamHeaderPrefix ++ toAsciiLowercase suffix := by
  refine String.toList_inj.1 ?_
  unfold toAsciiLowercase
  rw [String.toList_ofList, String.toList_append, List.map_append, String.toList_append,
    String.toList_ofList]
  rfl

theorem is_token_param {suffix : String} (h : isToken suffix = true) :
    isToken (mcpParamHeaderPrefix ++ suffix) = true := by
  obtain ⟨_, hall⟩ := Bool.and_eq_true_iff.1 h
  unfold isToken
  rw [String.toList_append, List.all_append, hall, Bool.and_true]
  rfl

theorem param_name_ne {suffix name : String} (h : name.toList.take 5 ≠ "mcp-p".toList) :
    mcpParamHeaderPrefix ++ suffix ≠ name := by
  intro hequal
  apply h
  rw [← hequal, String.toList_append, List.take_append_of_le_length (by decide)]
  rfl

/-! ## The checks -/

theorem mirror_text_eq_ok {value : Json} {text : String}
    (h : jsonValueToHeaderString value = some text) : mirrorText value = .ok text := by
  cases value with
  | null => cases h
  | bool b => cases b <;> cases h <;> rfl
  | number n => cases h; rfl
  | string s => cases h; rfl
  | array items => cases h
  | object fields => cases h

theorem check_mirror_encode_iff {header text : String} {value : Json}
    (h : jsonValueToHeaderString value = some text) :
    checkMirror engine render header (transported (encodeHeaderValue engine text)) value = .ok () ↔
      imitates text = false := by
  rw [← decode_raw_encode_iff engine render header]
  unfold checkMirror
  rw [bind_eq_ok, mirror_text_eq_ok h]
  constructor
  · rintro ⟨decoded, hdecoded, hequal⟩
    dsimp only at hequal
    split at hequal
    next heq => rw [hdecoded, heq]
    next => cases hequal
  · intro hdecoded
    refine ⟨text, hdecoded, ?_⟩
    dsimp only
    rw [if_pos rfl]

variable {headers : HeaderMap}

theorem check_mapping_iff {parsed : Json} {mapping : CustomHeaderMapping}
    (htoken : isToken mapping.suffix = true)
    (hheaders : headers.getAll (mcpParamHeaderPrefix ++ toAsciiLowercase mapping.suffix) =
      ((argumentText parsed mapping).map fun text =>
        transported (encodeHeaderValue engine text)).toList) (hprimitive : ∀ value,
      valueAtPropertyPath (callArguments parsed) mapping.propertyPath = some value →
        value.isNull = true ∨ (jsonValueToHeaderString value).isSome = true) :
    checkMapping engine render headers .strict (callArguments parsed) mapping = .ok () ↔
      ∀ text, argumentText parsed mapping = some text → imitates text = false := by
  unfold checkMapping headerName
  dsimp only
  rw [if_pos (is_token_param htoken), to_ascii_lowercase_param]
  dsimp only
  unfold argumentText at hheaders ⊢
  cases hbody : (valueAtPropertyPath (callArguments parsed) mapping.propertyPath).filter fun value =>
      !value.isNull with
  | none =>
    rw [hbody] at hheaders
    rw [hheaders]
    exact ⟨fun _ => nofun, fun _ => rfl⟩
  | some value =>
    obtain ⟨hvalue, hnull⟩ := Option.filter_eq_some_iff.1 hbody
    obtain ⟨text, htext⟩ : ∃ text, jsonValueToHeaderString value = some text := by
      rcases hprimitive value hvalue with h | h
      · rw [h] at hnull
        cases hnull
      · exact Option.isSome_iff_exists.1 h
    rw [hbody, Option.bind_some, htext] at hheaders
    rw [hheaders, Option.bind_some, htext]
    refine (check_mirror_encode_iff htext).trans ⟨?_, fun h => h text rfl⟩
    rintro h other hother
    cases hother
    exact h

theorem check_mappings_iff {arguments : Json} {mappings : List CustomHeaderMapping} :
    checkMappings engine render headers .strict arguments mappings = .ok () ↔
      ∀ mapping ∈ mappings, checkMapping engine render headers .strict arguments mapping = .ok () := by
  induction mappings with
  | nil => exact ⟨fun _ => nofun, fun _ => rfl⟩
  | cons mapping rest ih =>
    rw [checkMappings, bind_eq_ok, List.forall_mem_cons, ← ih]
    exact ⟨fun ⟨_, hfirst, hrest⟩ => ⟨hfirst, hrest⟩, fun ⟨hfirst, hrest⟩ => ⟨(), hfirst, hrest⟩⟩

theorem validate_param_headers_of_none {parsed : Json} {mode : Sep2243Mode} {seen : List String}
    (h : ∀ header ∈ headers, stripPrefix header.1.toList mcpParamHeaderPrefix.toList = none) :
    validateParamHeaders engine render parsed mode seen headers = .ok () := by
  induction headers with
  | nil => rw [validateParamHeaders]
  | cons header rest ih =>
    obtain ⟨hfirst, hrest⟩ := List.forall_mem_cons.1 h
    rw [validateParamHeaders, hfirst]
    exact ih hrest

theorem mirrored_name_eq (parsed : Json) : mirroredName parsed =
    (nameSource (bodyMethod parsed)).bind fun field =>
      (parsed.pointer ["params", field]).bind Json.asStr := by
  unfold mirroredName
  generalize bodyMethod parsed = method
  split
  next => rfl
  next => rfl
  next => rfl
  next => rfl
  next => rfl
  next => rfl
  next => simp [nameSource, *]

theorem is_plain_of_name_source {method : Option String} {field : String}
    (h : nameSource method = some field) : ∃ name, method = some name ∧ isPlain name := by
  unfold nameSource at h
  unfold isPlain
  split at h
  next => exact ⟨_, rfl, by decide⟩
  next => exact ⟨_, rfl, by decide⟩
  next => exact ⟨_, rfl, by decide⟩
  next => exact ⟨_, rfl, by decide⟩
  next => exact ⟨_, rfl, by decide⟩
  next => exact ⟨_, rfl, by decide⟩
  next => cases h

/-! ## Agreement -/

section Agreement

variable {learned : ToolHeaderMappings} {tools : String → Option Json} {parsed : Json} {name : String}

def arrived (engine : Base64Engine) (learned : ToolHeaderMappings) (parsed : Json) : HeaderMap :=
  (mirroredHeaders engine learned parsed).map fun header =>
    (toAsciiLowercase header.1, transported header.2)

theorem accepted_iff_arrived : Accepted engine render learned tools parsed ↔
    (mirroredHeaders engine learned parsed).all attachable = true ∧
      validateWithToolSchema engine render (arrived engine learned parsed) parsed .strict
        (requestToolInputSchema tools parsed) = .ok () := by
  have hreceived : received ((mirroredHeaders engine learned parsed).map fun header =>
      (toAsciiLowercase header.1, header.2)) = arrived engine learned parsed := by
    unfold received arrived
    rw [List.map_map]
    rfl
  unfold Accepted attach
  constructor
  · rintro ⟨headers, hattach, hvalid⟩
    obtain ⟨hall, hheaders⟩ := Option.ite_none_right_eq_some.1 hattach
    cases hheaders
    rw [hreceived] at hvalid
    exact ⟨hall, hvalid⟩
  · rintro ⟨hall, hvalid⟩
    refine ⟨_, if_pos hall, ?_⟩
    rw [hreceived]
    exact hvalid

theorem arrived_eq : arrived engine learned parsed =
    ((bodyMethod parsed).toList.map fun method => (mcpMethodHeader, transported method)) ++
      ((mirroredName parsed).toList.map fun name => (mcpNameHeader, transported name)) ++
      (calledMappings learned parsed).filterMap fun mapping =>
        ((argumentText parsed mapping).map fun text =>
          transported (encodeHeaderValue engine text)).map fun value =>
            (mcpParamHeaderPrefix ++ toAsciiLowercase mapping.suffix, value) := by
  unfold arrived mirroredHeaders outgoingCustomHeaders
  have hparam : ∀ mapping : CustomHeaderMapping,
      ((argumentText parsed mapping).map fun text =>
        (mcpParamHeaderPrefix ++ mapping.suffix, encodeHeaderValue engine text)).map
          (fun header => (toAsciiLowercase header.1, transported header.2)) =
      ((argumentText parsed mapping).map fun text =>
        transported (encodeHeaderValue engine text)).map fun value =>
          (mcpParamHeaderPrefix ++ toAsciiLowercase mapping.suffix, value) := by
    intro mapping
    rw [Option.map_map, Option.map_map, ← to_ascii_lowercase_param]
    rfl
  have hmethod : toAsciiLowercase mcpMethodHeader = mcpMethodHeader := by decide
  have hname : toAsciiLowercase mcpNameHeader = mcpNameHeader := by decide
  simp only [List.map_append, List.map_map, List.map_filterMap, Function.comp_def, hparam, hmethod,
    hname]

theorem get_all_params_eq_nil {other : String} (h : other.toList.take 5 ≠ "mcp-p".toList) :
    HeaderMap.getAll ((calledMappings learned parsed).filterMap fun mapping =>
      ((argumentText parsed mapping).map fun text =>
        transported (encodeHeaderValue engine text)).map fun value =>
          (mcpParamHeaderPrefix ++ toAsciiLowercase mapping.suffix, value)) other = [] := by
  refine get_all_eq_nil fun header hheader hname => ?_
  obtain ⟨mapping, _, hmap⟩ := List.mem_filterMap.1 hheader
  obtain ⟨value, _, rfl⟩ := Option.map_eq_some_iff.1 hmap
  exact param_name_ne h hname

variable {method : String}

theorem get_all_method (h : bodyMethod parsed = some method) :
    (arrived engine learned parsed).getAll mcpMethodHeader = [transported method] := by
  rw [arrived_eq, get_all_append, get_all_append, get_all_params_eq_nil (by decide), h,
    get_all_map_of_ne (show mcpNameHeader ≠ mcpMethodHeader by decide)]
  rfl

theorem get_all_name (h : mirroredName parsed = some name) :
    (arrived engine learned parsed).getAll mcpNameHeader = [transported name] := by
  rw [arrived_eq, get_all_append, get_all_append, get_all_params_eq_nil (by decide), h,
    get_all_map_of_ne (show mcpMethodHeader ≠ mcpNameHeader by decide)]
  rfl

theorem get_all_param {mapping : CustomHeaderMapping}
    (hformed : WellFormed (calledMappings learned parsed))
    (hmapping : mapping ∈ calledMappings learned parsed) :
    (arrived engine learned parsed).getAll
        (mcpParamHeaderPrefix ++ toAsciiLowercase mapping.suffix) =
      ((argumentText parsed mapping).map fun text =>
        transported (encodeHeaderValue engine text)).toList := by
  have hnodup : ((calledMappings learned parsed).map fun mapping =>
      mcpParamHeaderPrefix ++ toAsciiLowercase mapping.suffix).Nodup := by
    have hinjective : Function.Injective (mcpParamHeaderPrefix ++ · : String → String) := by
      intro first second hequal
      have hlists := congrArg String.toList hequal
      rw [String.toList_append, String.toList_append] at hlists
      exact String.toList_inj.1 (List.append_cancel_left hlists)
    have hmapped := hformed.2.map hinjective
    rwa [List.map_map] at hmapped
  have hmethod : mcpMethodHeader ≠ mcpParamHeaderPrefix ++ toAsciiLowercase mapping.suffix :=
    (param_name_ne (by decide)).symm
  have hname : mcpNameHeader ≠ mcpParamHeaderPrefix ++ toAsciiLowercase mapping.suffix :=
    (param_name_ne (by decide)).symm
  rw [arrived_eq, get_all_append, get_all_append, get_all_map_of_ne hmethod,
    get_all_map_of_ne hname]
  exact get_all_filter_map (fun mapping : CustomHeaderMapping =>
    mcpParamHeaderPrefix ++ toAsciiLowercase mapping.suffix) hnodup hmapping

theorem validate_method_arrived (h : bodyMethod parsed = some method) (hplain : isPlain method) :
    validateMethod engine render (arrived engine learned parsed) parsed .strict = .ok () := by
  have hheader : headerStr engine render (arrived engine learned parsed) mcpMethodHeader =
      .ok (some method) := by
    unfold headerStr
    rw [get_all_method h]
    dsimp only
    rw [(decode_raw_transported_iff _ _ _).2 hplain]
    rfl
  unfold validateMethod
  rw [hheader, h, ok_bind]
  exact if_pos rfl

theorem validate_name_arrived_iff (h : mirroredName parsed = some name) :
    validateName engine render (arrived engine learned parsed) parsed .strict = .ok () ↔
      isPlain name := by
  rw [← decode_raw_transported_iff engine render mcpNameHeader]
  have hmirrored := h
  rw [mirrored_name_eq] at hmirrored
  obtain ⟨field, hfield, hpointer⟩ := Option.bind_eq_some_iff.1 hmirrored
  unfold validateName headerStr
  rw [get_all_name h, hfield, bind_eq_ok]
  dsimp only
  rw [hpointer]
  cases hdecoded : decodeRaw engine render mcpNameHeader (transported name) with
  | error failure =>
    constructor
    · rintro ⟨_, hmap, _⟩
      cases hmap
    · nofun
  | ok decoded =>
    constructor
    · rintro ⟨_, hmap, hcheck⟩
      cases hmap
      unfold checkName at hcheck
      dsimp only at hcheck
      split at hcheck
      next hequal => rw [hequal]
      next => cases hcheck
    · intro hequal
      cases hequal
      exact ⟨some name, rfl, if_pos rfl⟩

theorem called_of_call (learned : ToolHeaderMappings) (tools : String → Option Json)
    (hcall : bodyMethod parsed = some "tools/call") (h : mirroredName parsed = some name) :
    calledMappings learned parsed = (learned.lookup name).getD [] ∧
      requestToolInputSchema tools parsed = tools name := by
  unfold mirroredName at h
  rw [hcall] at h
  unfold calledMappings requestToolInputSchema
  have hname : (parsed.pointer ["params", "name"]).bind Json.asStr = some name := h
  rw [if_pos hcall, if_pos hcall, hname]
  exact ⟨rfl, rfl⟩

theorem validate_arguments_iff (engine : Base64Engine)
    (h : Mirrorable render learned tools parsed name) :
    (match requestToolInputSchema tools parsed with
      | some schema =>
        validateSchemaParamHeaders engine render (arrived engine learned parsed) parsed .strict schema
      | none =>
        validateParamHeaders engine render parsed .strict [] (arrived engine learned parsed)) =
        .ok () ↔
      ∀ mapping ∈ calledMappings learned parsed, ∀ text, argumentText parsed mapping = some text →
        imitates text = false := by
  by_cases hcall : bodyMethod parsed = some "tools/call"
  · obtain ⟨schema, mappings, hschema, hmappings, hlookup⟩ := h.known hcall
    obtain ⟨hcalled, hrequest⟩ := called_of_call learned tools hcall h.named
    have hcollect := map_error_eq_ok.1 hmappings
    have hformed : WellFormed (calledMappings learned parsed) := by
      rw [hcalled, hlookup]
      exact well_formed_of_collect hcollect
    have hserver : serverHeaderMappings render schema = .ok (calledMappings learned parsed) := by
      rw [hcalled, hlookup]
      exact map_error_eq_ok.2 hcollect
    rw [hrequest, hschema]
    dsimp only
    unfold validateSchemaParamHeaders
    rw [hserver, ok_bind, check_mappings_iff]
    refine forall₂_congr fun mapping hmapping => ?_
    exact check_mapping_iff (hformed.1 mapping hmapping) (get_all_param hformed hmapping)
      (h.primitive mapping hmapping)
  · have hcalled : calledMappings learned parsed = [] := if_neg hcall
    have hrequest : requestToolInputSchema tools parsed = none := if_neg hcall
    rw [hrequest, hcalled]
    refine iff_of_true ?_ nofun
    refine validate_param_headers_of_none fun header hheader => ?_
    rw [arrived_eq, hcalled, List.filterMap_nil, List.append_nil] at hheader
    rcases List.mem_append.1 hheader with hmethod | hname
    · obtain ⟨_, _, rfl⟩ := List.mem_map.1 hmethod
      exact show stripPrefix mcpMethodHeader.toList mcpParamHeaderPrefix.toList = none by decide
    · obtain ⟨_, _, rfl⟩ := List.mem_map.1 hname
      exact show stripPrefix mcpNameHeader.toList mcpParamHeaderPrefix.toList = none by decide

theorem attachable_of_visible {header : String × String} (htoken : isToken header.1 = true)
    (hvisible : header.2.toList.all isVisible = true) : attachable header = true := by
  refine Bool.and_eq_true_iff.2 ⟨htoken, List.all_eq_true.2 fun c hc => ?_⟩
  rcases Bool.or_eq_true_iff.1 (List.all_eq_true.1 hvisible c hc) with htab | hprintable
  · exact Bool.or_eq_true_iff.2 (.inl htab)
  · refine Bool.or_eq_true_iff.2 (.inr (decide_eq_true ?_))
    have hrange := of_decide_eq_true hprintable
    omega

theorem attachable_of_plain (h : Mirrorable render learned tools parsed name)
    (hplain : isPlain name) (hmethod : bodyMethod parsed = some method)
    (hplainMethod : isPlain method) :
    (mirroredHeaders engine learned parsed).all attachable = true := by
  refine List.all_eq_true.2 fun header hheader => ?_
  unfold mirroredHeaders at hheader
  rw [hmethod, h.named] at hheader
  rcases List.mem_append.1 hheader with hfixed | hparam
  · rcases List.mem_append.1 hfixed with hm | hn
    · obtain rfl := List.mem_singleton.1 hm
      exact attachable_of_visible (show isToken mcpMethodHeader = true by decide) hplainMethod.1
    · obtain rfl := List.mem_singleton.1 hn
      exact attachable_of_visible (show isToken mcpNameHeader = true by decide) hplain.1
  · obtain ⟨mapping, hmapping, hmap⟩ := List.mem_filterMap.1 hparam
    obtain ⟨text, _, rfl⟩ := Option.map_eq_some_iff.1 hmap
    refine attachable_of_visible (is_token_param ?_) (encode_header_value_clean engine text).1
    by_cases hcall : bodyMethod parsed = some "tools/call"
    · obtain ⟨schema, mappings, _, hmappings, hlookup⟩ := h.known hcall
      rw [(called_of_call learned tools hcall h.named).1, hlookup] at hmapping
      exact (well_formed_of_collect (map_error_eq_ok.1 hmappings)).1 mapping hmapping
    · rw [calledMappings, if_neg hcall] at hmapping
      cases hmapping

end Agreement

/-- The server accepts a request exactly when its name is plain and no argument that is sent as it is
looks wrapped; and a value is decoded to itself exactly when it is no such argument. -/
theorem headers_agree_iff (engine : Base64Engine) (render : Rendering) {learned : ToolHeaderMappings}
    {tools : String → Option Json} {parsed : Json} {name : String}
    (h : Mirrorable render learned tools parsed name) :
    (Accepted engine render learned tools parsed ↔
      isPlain name ∧ ∀ mapping ∈ calledMappings learned parsed, ∀ text,
        argumentText parsed mapping = some text → imitates text = false) ∧
      ∀ describe value, decodeSentinel engine render describe (encodeHeaderValue engine value) =
        .ok value ↔ imitates value = false := by
  refine ⟨?_, fun _ _ => decode_sentinel_encode_iff⟩
  have hnamed := h.named
  rw [mirrored_name_eq] at hnamed
  obtain ⟨field, hfield, _⟩ := Option.bind_eq_some_iff.1 hnamed
  obtain ⟨method, hmethod, hplainMethod⟩ := is_plain_of_name_source hfield
  rw [accepted_iff_arrived, ← validate_arguments_iff engine h]
  unfold validateWithToolSchema
  rw [validate_method_arrived hmethod hplainMethod, ok_bind, bind_eq_ok]
  constructor
  · rintro ⟨_, _, hname, harguments⟩
    exact ⟨(validate_name_arrived_iff h.named).1 hname, harguments⟩
  · rintro ⟨hplain, harguments⟩
    exact ⟨attachable_of_plain h hplain hmethod hplainMethod, (),
      (validate_name_arrived_iff h.named).2 hplain, harguments⟩

def plainRendering : Rendering where
  debug text := "\"" ++ text ++ "\""
  utf8Error _ := "invalid utf-8 sequence"

def requestAbout (method field name : String) : Json :=
  .object [("method", .string method), ("params", .object [(field, .string name)])]

/-- A value that looks wrapped decodes to another one, and a prompt whose name is not in ASCII is
refused. -/
theorem imitation_decodes_to_another :
    decodeSentinel .standard plainRendering id
        (encodeHeaderValue .standard "=?base64?YQ==?=") = .ok "a" ∧
      Mirrorable plainRendering ∅ (fun _ => none) (requestAbout "prompts/get" "name" "é") "é" ∧
      ¬Accepted .standard plainRendering ∅ (fun _ => none)
        (requestAbout "prompts/get" "name" "é") := by
  refine ⟨by decide +kernel, ⟨by decide +kernel, ?_, ?_⟩, fun haccepted => ?_⟩
  · exact fun hcall => absurd hcall (by decide +kernel)
  · have hnone : calledMappings ∅ (requestAbout "prompts/get" "name" "é") = [] := by decide +kernel
    rw [hnone]
    nofun
  · exact absurd (accepted_iff_arrived.1 haccepted).2 (by decide +kernel)

def regionSchema : Json :=
  .object [("properties", .object [("region", .object
    [("type", .string "string"), ("x-mcp-header", .string "Region")])])]

def regionMapping : CustomHeaderMapping where
  suffix := "Region"
  propertyPath := ["region"]

def callInRegion (region : String) : Json :=
  .object [("method", .string "tools/call"), ("params", .object
    [("name", .string "echo"), ("arguments", .object [("region", .string region)])])]

theorem headers_agree_iff_wrapped :
    Accepted .standard plainRendering (AList.insert "echo" [regionMapping] ∅)
      (fun _ => some regionSchema) (callInRegion " é") := by
  have hcalled : calledMappings (AList.insert "echo" [regionMapping] ∅) (callInRegion " é") =
      [regionMapping] := by
    decide +kernel
  have hargument : valueAtPropertyPath (callArguments (callInRegion " é")) regionMapping.propertyPath =
      some (.string " é") := by
    decide +kernel
  have hmirrorable : Mirrorable plainRendering (AList.insert "echo" [regionMapping] ∅)
      (fun _ => some regionSchema) (callInRegion " é") "echo" := by
    refine ⟨by decide +kernel, fun _ => ⟨regionSchema, [regionMapping], rfl, ?_, ?_⟩, ?_⟩
    · exact map_error_eq_ok.2 (by decide +kernel)
    · exact AList.lookup_insert _
    · rw [hcalled]
      intro mapping hmapping value hvalue
      obtain rfl := List.mem_singleton.1 hmapping
      cases hargument.symm.trans hvalue
      exact .inr rfl
  refine (headers_agree_iff .standard plainRendering hmirrorable).1.2 ⟨?_, ?_⟩
  · unfold isPlain
    decide +kernel
  · rw [hcalled]
    intro mapping hmapping text htext
    obtain rfl := List.mem_singleton.1 hmapping
    have hrendered : argumentText (callInRegion " é") regionMapping = some " é" := by decide +kernel
    cases hrendered.symm.trans htext
    decide +kernel

end HttpClient

end TowerMcp
