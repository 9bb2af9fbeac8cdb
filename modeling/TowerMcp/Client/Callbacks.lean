import TowerMcp.Client.OAuthFlow
import TowerMcp.Lib.Percent
import TowerMcp.Lib.Segments
import TowerMcp.Types.Text

/-!
# Callbacks of an authorization

`parse_callback_query` splits the query of a redirect by hand; `parse_callback_url` has a URL library
read it. A `Param` is a parameter with the text that it is written as, and 38, 61 and 63 are the bytes
of `&`, `=` and `?`.
-/

namespace TowerMcp.Callbacks

inductive Key where
  | code
  | state
  | error
  | errorDescription
  | iss
  | other
deriving DecidableEq

def Key.ofName : String → Key
  | "code" => .code
  | "state" => .state
  | "error" => .error
  | "error_description" => .errorDescription
  | "iss" => .iss
  | _ => .other

def Key.ofBytes (key : List UInt8) : Key :=
  (fromUtf8 key).elim .other Key.ofName

abbrev Found : Type := Key → Option String

def Found.empty : Found := fun _ => none

def Found.set (found : Found) (key : Key) (value : String) : Found :=
  if key = .other then found else Function.update found key (some value)

def Found.take (found : Found) (key : Key) (value : String) : Found :=
  if key = .errorDescription then
    if found .error = none then found.set .error value else found
  else found.set key value

structure CallbackResult where
  code : String
  state : String
  iss : Option String
deriving DecidableEq

def splitParam (param : List UInt8) : List UInt8 × List UInt8 :=
  (Segments.splitOnce 61 param).getD (param, [])

/-- `urlencoding::decode`, with the empty text for what is not UTF-8. -/
def urlDecode (value : List UInt8) : String :=
  (fromUtf8 (Percent.decode false value)).getD ""

def Found.result (found : Found) (expectedState : String) : Except String CallbackResult :=
  match found .error, found .code, found .state with
  | some error, _, _ => .error ("OAuth error: " ++ error)
  | none, none, _ => .error "Missing 'code' parameter"
  | none, some _, none => .error "Missing 'state' parameter"
  | none, some code, some state =>
    if state ≠ expectedState then .error "CSRF state mismatch" else .ok ⟨code, state, found .iss⟩

def parseCallbackQuery (path : List UInt8) (expectedState : String) :
    Except String CallbackResult :=
  match (path.splitOn 63)[1]? with
  | none => .error "No query parameters in callback"
  | some query =>
    ((query.splitOn 38).foldl (fun found param =>
      found.take (.ofBytes (splitParam param).1) (urlDecode (splitParam param).2))
      Found.empty).result expectedState

structure UrlLibrary where
  parse : String → Except String (Option (List UInt8))
  lossy : List UInt8 → String

namespace UrlLibrary

variable (library : UrlLibrary)

def formDecode (text : List UInt8) : String :=
  let bytes := Percent.decode true text
  (fromUtf8 bytes).getD (library.lossy bytes)

/-- `query_pairs`. -/
def queryPairs (query : List UInt8) : List (String × String) :=
  ((query.splitOn 38).filter fun param => !param.isEmpty).map fun param =>
    (library.formDecode (splitParam param).1, library.formDecode (splitParam param).2)

end UrlLibrary

def Found.parsed (found : Found) : Except OAuthClientError ParsedCallback :=
  match found .error, found .code, found .state with
  | some error, _, _ =>
    .error (.invalidResponse ("authorization server returned `" ++ error ++ "`" ++
      ((found .errorDescription).map fun description => ": " ++ description).getD ""))
  | none, none, _ => .error (.invalidResponse "callback omitted authorization code")
  | none, some _, none => .error (.invalidResponse "callback omitted state")
  | none, some code, some state => .ok ⟨code, state, found .iss⟩

def parseCallbackUrl (library : UrlLibrary) (callbackUrl : String) :
    Except OAuthClientError ParsedCallback :=
  match library.parse callbackUrl with
  | .error error => .error (.invalidResponse error)
  | .ok query =>
    ((library.queryPairs (query.getD [])).foldl
      (fun found pair => found.set (.ofName pair.1) pair.2) Found.empty).parsed

/-! ## Encoded parameters -/

/-- A parameter and the form-encoded texts of its name and its value, in which the marks of a query
are escaped. -/
structure Param where
  name : String
  value : String
  nameText : List UInt8
  valueText : List UInt8
  name_encoded : Percent.Encoded true (utf8Bytes name) nameText
  value_encoded : Percent.Encoded true (utf8Bytes value) valueText
  name_free : 38 ∉ nameText ∧ 63 ∉ nameText ∧ 61 ∉ nameText
  value_free : 38 ∉ valueText ∧ 63 ∉ valueText

namespace Param

def text (param : Param) : List UInt8 := param.nameText ++ 61 :: param.valueText

def key (param : Param) : Key := .ofName param.name

def rawKey (param : Param) : Key := .ofBytes param.nameText

end Param

def queryText (params : List Param) : List UInt8 :=
  [38].intercalate (params.map Param.text)

/-! ## What is found -/

variable {α : Type} {key : α → Key} {value : α → String} {items : List α} {found : Found} {k : Key}

theorem foldl_eq_last {next : Found → Key → String → Found}
    (hnext : ∀ found written value, next found written value k =
      if written = k then some value else found k) :
    items.foldl (fun found item => next found (key item) (value item)) Found.empty k =
      ((items.filter fun item => key item = k).getLast?).map value := by
  induction items using List.reverseRecOn with
  | nil => rfl
  | append_singleton items item ih =>
    rw [List.foldl_append, List.filter_append, List.foldl_cons, List.foldl_nil, hnext, ih]
    by_cases hitem : key item = k <;> simp [hitem]

theorem set_apply (hk : k ≠ .other) (found : Found) (written : Key) (value : String) :
    found.set written value k = if written = k then some value else found k := by
  unfold Found.set
  by_cases hwritten : written = k
  · subst hwritten
    rw [if_neg hk, if_pos rfl, Function.update_self]
  · rw [if_neg hwritten]
    split
    next => rfl
    next => exact Function.update_of_ne (Ne.symm hwritten) _ _

theorem take_apply (hk : k ≠ .other) (herror : k ≠ .error) (hdescription : k ≠ .errorDescription)
    (found : Found) (written : Key) (value : String) :
    found.take written value k = if written = k then some value else found k := by
  unfold Found.take
  split
  next hwritten =>
    have hne : ¬written = k := fun heq => hdescription (heq.symm.trans hwritten)
    rw [if_neg hne]
    split
    next => rw [set_apply hk, if_neg (Ne.symm herror)]
    next => rfl
  next => exact set_apply hk _ _ _

theorem take_error (found : Found) (written : Key) (value : String) :
    found.take written value .error = none ↔
      found .error = none ∧ written ≠ .error ∧ written ≠ .errorDescription := by
  have hset := set_apply (k := .error) (by decide)
  unfold Found.take
  split
  next hwritten =>
    subst hwritten
    cases hfound : found .error with
    | none => simp [hset]
    | some error => simp [hfound]
  next hwritten =>
    rw [hset]
    by_cases herror : written = .error <;> simp [herror, hwritten]

theorem foldl_take_error :
    items.foldl (fun found item => found.take (key item) (value item)) Found.empty .error = none ↔
      ∀ item ∈ items, key item ≠ .error ∧ key item ≠ .errorDescription := by
  induction items using List.reverseRecOn with
  | nil => simp [Found.empty]
  | append_singleton items item ih =>
    rw [List.foldl_append, List.foldl_cons, List.foldl_nil, take_error, ih]
    simp only [List.mem_append, List.mem_singleton, or_imp, forall_and, forall_eq]
    tauto

/-! ## What the parsers read -/

theorem split_param_text (param : Param) :
    splitParam param.text = (param.nameText, param.valueText) := by
  rw [splitParam, Param.text, Segments.split_once_append param.name_free.2.2]
  rfl

theorem free_text (param : Param) : 38 ∉ param.text ∧ 63 ∉ param.text := by
  have hname := param.name_free
  have hvalue := param.value_free
  simp [Param.text, hname.1, hname.2.1, hvalue.1, hvalue.2]

theorem split_query_text {params : List Param} (h : params ≠ []) :
    (queryText params).splitOn 38 = params.map Param.text := by
  refine List.splitOn_intercalate 38 (fun text htext => ?_) (by simpa using h)
  obtain ⟨param, -, rfl⟩ := List.mem_map.1 htext
  exact (free_text param).1

theorem not_mem_query_text (params : List Param) : (63 : UInt8) ∉ queryText params := by
  unfold queryText
  induction params with
  | nil => simp
  | cons param rest ih =>
    have hparam := (free_text param).2
    cases rest with
    | nil => simpa using hparam
    | cons next more =>
      rw [List.map_cons, List.map_cons, List.intercalate_cons_cons, ← List.map_cons]
      simp only [List.mem_append, not_or]
      exact ⟨⟨hparam, by decide⟩, ih⟩

theorem query_of_path {target : List UInt8} (htarget : 63 ∉ target) (params : List Param) :
    ((target ++ 63 :: queryText params).splitOn 63)[1]? = some (queryText params) := by
  have hsplit : ([63].intercalate [target, queryText params]).splitOn 63 =
      [target, queryText params] :=
    List.splitOn_intercalate 63 (by simp [htarget, not_mem_query_text]) (by simp)
  have hjoined : [63].intercalate [target, queryText params] = target ++ 63 :: queryText params := by
    simp [List.intercalate]
  rw [hjoined] at hsplit
  rw [hsplit]
  rfl

def foundByHand (params : List Param) : Found :=
  params.foldl (fun found param => found.take param.rawKey (urlDecode param.valueText)) Found.empty

def foundInUrl (params : List Param) : Found :=
  params.foldl (fun found param => found.set param.key param.value) Found.empty

theorem parse_callback_query_eq {target : List UInt8} (htarget : 63 ∉ target) (params : List Param)
    (expectedState : String) :
    parseCallbackQuery (target ++ 63 :: queryText params) expectedState =
      (foundByHand params).result expectedState := by
  unfold parseCallbackQuery foundByHand
  rw [query_of_path htarget]
  dsimp only
  cases params with
  | nil => rfl
  | cons param rest =>
    rw [split_query_text (by simp), List.foldl_map]
    simp only [split_param_text]
    rfl

theorem form_decode_of_encoded (library : UrlLibrary) {value : String} {text : List UInt8}
    (h : Percent.Encoded true (utf8Bytes value) text) : library.formDecode text = value := by
  rw [UrlLibrary.formDecode, Percent.decode_of_encoded h, from_utf8_utf8_bytes]
  rfl

theorem parse_callback_url_eq {library : UrlLibrary} {url : String} {params : List Param}
    (hurl : library.parse url = .ok (some (queryText params))) :
    parseCallbackUrl library url = (foundInUrl params).parsed := by
  have hpairs : library.queryPairs (queryText params) =
      params.map fun param => (param.name, param.value) := by
    unfold UrlLibrary.queryPairs
    cases hparams : params with
    | nil => rfl
    | cons param rest =>
      have hkept : (params.map Param.text).filter (fun text => !text.isEmpty) =
          params.map Param.text := by
        refine List.filter_eq_self.2 fun text htext => ?_
        obtain ⟨param, -, rfl⟩ := List.mem_map.1 htext
        simp [Param.text]
      rw [← hparams, split_query_text (by simp [hparams]), hkept, List.map_map]
      refine List.map_congr_left fun param _ => ?_
      simp only [Function.comp_apply, split_param_text,
        form_decode_of_encoded library param.name_encoded,
        form_decode_of_encoded library param.value_encoded]
  unfold parseCallbackUrl foundInUrl
  rw [hurl]
  dsimp only [Option.getD_some]
  rw [hpairs, List.foldl_map]
  rfl

/-! ## What is written is read -/

theorem utf8_bytes_of_from_utf8 {bytes : List UInt8} {text : String}
    (h : fromUtf8 bytes = some text) : bytes = utf8Bytes text := by
  unfold fromUtf8 String.fromUTF8? at h
  split at h
  next =>
    cases h
    simp [utf8Bytes, String.fromUTF8]
  next => cases h

theorem url_decode_eq_iff (param : Param) :
    urlDecode param.valueText = param.value ↔ (43 : UInt8) ∉ param.valueText := by
  rw [← Percent.decode_without_plus_iff param.value_encoded]
  constructor
  · intro h
    unfold urlDecode at h
    cases hread : fromUtf8 (Percent.decode false param.valueText) with
    | some text =>
      rw [hread] at h
      rw [utf8_bytes_of_from_utf8 hread]
      exact congrArg utf8Bytes h
    | none =>
      -- an empty value is written as nothing, which is UTF-8
      rw [hread] at h
      have hempty : utf8Bytes param.value = [] := by rw [← h]; rfl
      have hencoded := param.value_encoded
      rw [hempty] at hencoded
      generalize param.valueText = text at hread hencoded
      cases hencoded
      cases hread
  · intro h
    rw [urlDecode, h, from_utf8_utf8_bytes]
    rfl

theorem key_of_raw_key (param : Param) (h : param.rawKey ≠ .other) : param.key = param.rawKey := by
  unfold Param.rawKey Key.ofBytes at h ⊢
  cases hread : fromUtf8 param.nameText with
  | none =>
    rw [hread] at h
    exact absurd rfl h
  | some text =>
    rw [hread] at h
    have hplain : Percent.decode true (utf8Bytes text) = utf8Bytes text := by
      simp only [Option.elim_some] at h
      unfold Key.ofName at h
      split at h
      case h_6 => exact absurd rfl h
      all_goals decide +kernel
    have hname := Percent.decode_of_encoded param.name_encoded
    rw [utf8_bytes_of_from_utf8 hread, hplain] at hname
    have heq : param.name = text := by
      have hbytes := congrArg fromUtf8 hname.symm
      rw [from_utf8_utf8_bytes, from_utf8_utf8_bytes] at hbytes
      exact Option.some.inj hbytes
    exact congrArg Key.ofName heq

theorem filter_raw_key (hk : k ≠ .other) (params : List Param) :
    params.filter (fun param => param.rawKey = k) =
      (params.filter fun param => param.key = k).filter fun param => param.rawKey = k := by
  rw [List.filter_filter]
  refine List.filter_congr fun param _ => ?_
  by_cases hraw : param.rawKey = k
  · have hkey := key_of_raw_key param (hraw ▸ hk)
    simp [hraw, hkey]
  · simp [hraw]

def Param.Plain (param : Param) : Prop :=
  param.rawKey = param.key ∧ (43 : UInt8) ∉ param.valueText

variable {params : List Param} {values : Option String}

theorem found_by_hand_iff (hother : k ≠ .other) (herror : k ≠ .error)
    (hdescription : k ≠ .errorDescription)
    (h : (params.filter fun param => param.key = k).map (·.value) = values.toList) :
    foundByHand params k = values ↔ ∀ param ∈ params, param.key = k → param.Plain := by
  have hfound : foundByHand params k =
      ((params.filter fun param => param.rawKey = k).getLast?).map
        fun param => urlDecode param.valueText :=
    foldl_eq_last (take_apply hother herror hdescription)
  rw [hfound, filter_raw_key hother]
  cases values with
  | none =>
    have hnone := List.map_eq_nil_iff.1 h
    rw [hnone]
    refine iff_of_true rfl fun param hparam hkey => ?_
    exact absurd (decide_eq_true hkey) (List.filter_eq_nil_iff.1 hnone param hparam)
  | some value =>
    obtain ⟨param, hparam, rfl⟩ := List.map_eq_singleton_iff.1 h
    have hmem (other : Param) : other ∈ params ∧ other.key = k ↔ other = param := by
      have hfilter : other ∈ params.filter (fun param => param.key = k) ↔ other ∈ [param] := by
        rw [hparam]
      simpa using hfilter
    have hkey := ((hmem param).2 rfl).2
    have hall : (∀ other ∈ params, other.key = k → other.Plain) ↔ param.Plain :=
      ⟨fun hplain => hplain param ((hmem param).2 rfl).1 hkey,
        fun hplain other hother hkey => (hmem other).1 ⟨hother, hkey⟩ ▸ hplain⟩
    rw [hparam, hall, Param.Plain, ← url_decode_eq_iff, hkey]
    by_cases hraw : param.rawKey = k <;> simp [hraw]

theorem found_in_url (hother : k ≠ .other)
    (h : (params.filter fun param => param.key = k).map (·.value) = values.toList) :
    foundInUrl params k = values := by
  have hfound : foundInUrl params k =
      ((params.filter fun param => param.key = k).getLast?).map (·.value) :=
    foldl_eq_last (set_apply hother)
  rw [hfound, ← List.getLast?_map, h]
  cases values <;> rfl

/-- Whether a query grants a code: it has one code and one state, at most one issuer and no error. -/
structure Grants (params : List Param) (code state : String) (iss : Option String) : Prop where
  code_eq : (params.filter fun param => param.key = .code).map (·.value) = [code]
  state_eq : (params.filter fun param => param.key = .state).map (·.value) = [state]
  iss_eq : (params.filter fun param => param.key = .iss).map (·.value) = iss.toList
  error_ne : ∀ param ∈ params, param.key ≠ .error

def Refuses (params : List Param) : Prop :=
  (∃ param ∈ params, param.key = .error) ∨ (∀ param ∈ params, param.key ≠ .code) ∨
    ∀ param ∈ params, param.key ≠ .state

structure ReadBack (library : UrlLibrary) (target : List UInt8) (url : String)
    (params : List Param) : Prop where
  granted : ∀ code state iss, Grants params code state iss →
    parseCallbackQuery (target ++ 63 :: queryText params) state = .ok ⟨code, state, iss⟩ ∧
      parseCallbackUrl library url = .ok ⟨code, state, iss⟩
  refused : Refuses params →
    (∀ expectedState, ∃ message,
      parseCallbackQuery (target ++ 63 :: queryText params) expectedState = .error message) ∧
      ∃ error, parseCallbackUrl library url = .error error

structure PlainlyWritten (params : List Param) : Prop where
  granted : ∀ code state iss, Grants params code state iss →
    (∀ param ∈ params, param.rawKey ≠ .errorDescription) ∧
      ∀ param ∈ params, param.key = .code ∨ param.key = .state ∨ param.key = .iss → param.Plain
  refused : Refuses params →
    (∃ param ∈ params, param.rawKey = .error ∨ param.rawKey = .errorDescription) ∨
      (∀ param ∈ params, param.rawKey ≠ .code) ∨ ∀ param ∈ params, param.rawKey ≠ .state

theorem result_eq_ok_iff {expectedState code state : String} {iss : Option String} :
    found.result expectedState = .ok ⟨code, state, iss⟩ ↔ found .error = none ∧
      found .code = some code ∧ found .state = some state ∧ found .iss = iss ∧
        state = expectedState := by
  unfold Found.result
  split
  next error herror => simp [herror]
  next herror hcode => simp [herror, hcode]
  next herror hcode hstate => simp [herror, hcode, hstate]
  next herror hcode hstate =>
    rw [herror, hcode, hstate]
    split
    next hne =>
      simp only [Option.some.injEq]
      grind
    next heq => grind

theorem result_refused_iff : (∀ expectedState, ∃ message, found.result expectedState = .error message) ↔
    found .error ≠ none ∨ found .code = none ∨ found .state = none := by
  unfold Found.result
  cases herror : found .error with
  | some error => simp
  | none =>
    cases hcode : found .code with
    | none => simp
    | some code =>
      cases hstate : found .state with
      | none => simp
      | some state =>
        refine iff_of_false (fun h => ?_) (by simp)
        obtain ⟨message, hmessage⟩ := h state
        simp at hmessage

theorem found_by_hand_eq_none (hother : k ≠ .other) (herror : k ≠ .error)
    (hdescription : k ≠ .errorDescription) :
    foundByHand params k = none ↔ ∀ param ∈ params, param.rawKey ≠ k := by
  have hfound : foundByHand params k = _ := foldl_eq_last (take_apply hother herror hdescription)
  rw [hfound, Option.map_eq_none_iff, List.getLast?_eq_none_iff, List.filter_eq_nil_iff]
  simp

theorem parsed_of_refuses (h : Refuses params) : ∃ error, (foundInUrl params).parsed = .error error := by
  have hfound (k : Key) (hk : k ≠ .other) :
      foundInUrl params k = none ↔ ∀ param ∈ params, param.key ≠ k := by
    have hlast : foundInUrl params k = _ := foldl_eq_last (set_apply hk)
    rw [hlast, Option.map_eq_none_iff, List.getLast?_eq_none_iff, List.filter_eq_nil_iff]
    simp
  unfold Found.parsed
  cases herror : foundInUrl params .error with
  | some error => exact ⟨_, rfl⟩
  | none =>
    rcases h with ⟨param, hparam, hkey⟩ | hcode | hstate
    · exact absurd hkey ((hfound .error (by decide)).1 herror param hparam)
    · rw [(hfound .code (by decide)).2 hcode]
      exact ⟨_, rfl⟩
    · rw [(hfound .state (by decide)).2 hstate]
      cases foundInUrl params .code <;> exact ⟨_, rfl⟩

/-- A callback is read back exactly when the parameters that matter are written plainly, and none
describes an error. -/
theorem callback_read_back_iff {library : UrlLibrary} {target : List UInt8} {url : String}
    (params : List Param) (htarget : 63 ∉ target)
    (hurl : library.parse url = .ok (some (queryText params))) :
    ReadBack library target url params ↔ PlainlyWritten params := by
  have hquery := parse_callback_query_eq htarget params
  have hfound := parse_callback_url_eq hurl
  have hnoerror : foundByHand params .error = none ↔
      ∀ param ∈ params, param.rawKey ≠ .error ∧ param.rawKey ≠ .errorDescription :=
    foldl_take_error
  have hread (code state : String) (iss : Option String) (h : Grants params code state iss) :
      (foundByHand params).result state = .ok ⟨code, state, iss⟩ ↔
        (∀ param ∈ params, param.rawKey ≠ .errorDescription) ∧
          ∀ param ∈ params, param.key = .code ∨ param.key = .state ∨ param.key = .iss →
            param.Plain := by
    have hcode : foundByHand params .code = some code ↔ _ :=
      found_by_hand_iff (by decide) (by decide) (by decide) h.code_eq
    have hstate : foundByHand params .state = some state ↔ _ :=
      found_by_hand_iff (by decide) (by decide) (by decide) h.state_eq
    have hiss : foundByHand params .iss = iss ↔ _ :=
      found_by_hand_iff (by decide) (by decide) (by decide) h.iss_eq
    have hraw : ∀ param ∈ params, param.rawKey ≠ .error := fun param hparam heq =>
      h.error_ne param hparam ((key_of_raw_key param (by simp [heq])).trans heq)
    rw [result_eq_ok_iff, hnoerror, hcode, hstate, hiss]
    constructor
    · rintro ⟨herror, hcode, hstate, hiss, -⟩
      refine ⟨fun param hparam => (herror param hparam).2, fun param hparam hkey => ?_⟩
      rcases hkey with hkey | hkey | hkey
      · exact hcode param hparam hkey
      · exact hstate param hparam hkey
      · exact hiss param hparam hkey
    · rintro ⟨hdescription, hplain⟩
      exact ⟨fun param hparam => ⟨hraw param hparam, hdescription param hparam⟩,
        fun param hparam hkey => hplain param hparam (.inl hkey),
        fun param hparam hkey => hplain param hparam (.inr (.inl hkey)),
        fun param hparam hkey => hplain param hparam (.inr (.inr hkey)), rfl⟩
  have hrefused : (∀ expectedState, ∃ message,
      (foundByHand params).result expectedState = .error message) ↔
        (∃ param ∈ params, param.rawKey = .error ∨ param.rawKey = .errorDescription) ∨
          (∀ param ∈ params, param.rawKey ≠ .code) ∨ ∀ param ∈ params, param.rawKey ≠ .state := by
    rw [result_refused_iff, ne_eq, hnoerror,
      found_by_hand_eq_none (by decide) (by decide) (by decide),
      found_by_hand_eq_none (by decide) (by decide) (by decide)]
    refine or_congr_left ?_
    push Not
    refine exists_congr fun param => and_congr_right fun _ => ?_
    rw [or_iff_not_imp_left]
  constructor
  · intro h
    refine ⟨fun code state iss hgrants => ?_, fun hrefuses => ?_⟩
    · have hgranted := (h.granted code state iss hgrants).1
      rw [hquery] at hgranted
      exact (hread code state iss hgrants).1 hgranted
    · have hall := (h.refused hrefuses).1
      simp only [hquery] at hall
      exact hrefused.1 hall
  · intro h
    refine ⟨fun code state iss hgrants => ⟨?_, ?_⟩, fun hrefuses => ⟨?_, ?_⟩⟩
    · rw [hquery]
      exact (hread code state iss hgrants).2 (h.granted code state iss hgrants)
    · have hcode : foundInUrl params .code = some code := found_in_url (by decide) hgrants.code_eq
      have hstate : foundInUrl params .state = some state :=
        found_in_url (by decide) hgrants.state_eq
      have hiss : foundInUrl params .iss = iss := found_in_url (by decide) hgrants.iss_eq
      have herror : foundInUrl params .error = none := by
        refine found_in_url (by decide) ?_
        rw [List.filter_eq_nil_iff.2 fun param hparam => by simp [hgrants.error_ne param hparam]]
        rfl
      rw [hfound, Found.parsed, herror, hcode, hstate, hiss]
    · simp only [hquery]
      exact hrefused.2 (h.refused hrefuses)
    · rw [hfound]
      exact parsed_of_refuses hrefuses

/-! ## Two callbacks -/

theorem encoded_self {bytes : List UInt8} (h : 37 ∉ bytes ∧ 43 ∉ bytes) :
    Percent.Encoded true bytes bytes := by
  induction bytes with
  | nil => exact .nil
  | cons byte rest ih =>
    simp only [List.mem_cons, not_or] at h
    exact .cons (.literal (Ne.symm h.1.1) fun _ => Ne.symm h.2.1) (ih ⟨h.1.2, h.2.2⟩)

def codeParam (value : String) (valueText : List UInt8)
    (hencoded : Percent.Encoded true (utf8Bytes value) valueText)
    (hfree : 38 ∉ valueText ∧ 63 ∉ valueText) : Param where
  name := "code"
  value := value
  nameText := utf8Bytes "code"
  valueText := valueText
  name_encoded := encoded_self (by decide +kernel)
  value_encoded := hencoded
  name_free := by decide +kernel
  value_free := hfree

def stateParam : Param where
  name := "state"
  value := "s"
  nameText := utf8Bytes "state"
  valueText := utf8Bytes "s"
  name_encoded := encoded_self (by decide +kernel)
  value_encoded := encoded_self (by decide +kernel)
  name_free := by decide +kernel
  value_free := by decide +kernel

def splitting : UrlLibrary where
  parse := fun url => .ok ((utf8Bytes url).splitOn 63)[1]?
  lossy := fun _ => ""

def plainCode : Param :=
  codeParam "a" (utf8Bytes "a") (encoded_self (by decide +kernel)) (by decide +kernel)

theorem plain_code_read_back :
    ReadBack splitting (utf8Bytes "/callback") "http://localhost/callback?code=a&state=s"
      [plainCode, stateParam] := by
  refine (callback_read_back_iff _ (by decide +kernel) (by decide +kernel)).2 ⟨?_, ?_⟩
  · intro code state iss _
    refine ⟨?_, ?_⟩
    · simp only [List.forall_mem_cons, List.not_mem_nil]
      exact ⟨by decide +kernel, by decide +kernel, nofun⟩
    · simp only [List.forall_mem_cons, List.not_mem_nil]
      exact ⟨fun _ => ⟨by decide +kernel, by decide +kernel⟩,
        fun _ => ⟨by decide +kernel, by decide +kernel⟩, nofun⟩
  · intro h
    exact absurd h (by unfold Refuses; decide +kernel)

/-- The code `a b`, in which the space is written as `+`. -/
def spacedCode : Param :=
  codeParam "a b" [97, 43, 98]
    (.cons (.literal (by decide) (by decide)) (.cons (.space rfl rfl)
      (.cons (.literal (by decide) (by decide)) .nil))) (by decide)

/-- By hand, a space is read as a plus sign. -/
theorem spaced_code_misread :
    ¬∀ (library : UrlLibrary) (target : List UInt8) (url : String) (params : List Param),
      63 ∉ target → library.parse url = .ok (some (queryText params)) →
        ReadBack library target url params := by
  intro h
  have hread := h splitting (utf8Bytes "/callback") "http://localhost/callback?code=a+b&state=s"
    [spacedCode, stateParam] (by decide +kernel) (by decide +kernel)
  have hgrants : Grants [spacedCode, stateParam] "a b" "s" none :=
    ⟨by decide +kernel, by decide +kernel, by decide +kernel, by
      simp only [List.forall_mem_cons, List.not_mem_nil]
      exact ⟨by decide +kernel, by decide +kernel, nofun⟩⟩
  exact absurd (hread.granted "a b" "s" none hgrants).1 (by decide +kernel)

end TowerMcp.Callbacks
