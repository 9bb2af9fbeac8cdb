import TowerMcp.Lib.Json
import TowerMcp.Types.Text

/-!
# Authentication by a header

The service that asks a validator about the credential of one header, and the two validators that
come with it.
-/

namespace TowerMcp.HeaderAuth

def stripPrefixIgnoreAsciiCase (text start : List Char) : Option (List Char) :=
  if (text.take start.length).map Char.toLower = start.map Char.toLower then
    some (text.drop start.length)
  else none

def stripScheme (header scheme : List Char) : Option (List Char) :=
  (stripPrefixIgnoreAsciiCase header scheme).bind fun after =>
    if after.head? = some ' ' then some (after.dropWhile isWhitespace) else none

def extractApiKey (authHeader : List Char) : Option (List Char) :=
  let authHeader := trim authHeader
  match stripScheme authHeader "Bearer".toList with
  | some key => some (trim key)
  | none =>
    match stripScheme authHeader "ApiKey".toList with
    | some key => some (trim key)
    | none => if ' ' ∉ authHeader then some authHeader else none

def extractBearerToken (authHeader : List Char) : Option (List Char) :=
  (stripScheme (trim authHeader) "Bearer".toList).map trim

structure AuthInfo where
  clientId : String
  claims : Option Json := none

inductive AuthResult where
  | authenticated (info : Option AuthInfo)
  | failed (code message : String)

def sliceTo : ℕ → List Char → Option (List Char)
  | 0, _ => some []
  | _ + 1, [] => none
  | n + 1, c :: rest =>
    if c.utf8Size ≤ n + 1 then (sliceTo (n + 1 - c.utf8Size) rest).map (c :: ·) else none

def validateKey (label code message : String) (valid : List (List Char)) (key : List Char) :
    Option AuthResult :=
  if key ∈ valid then
    (sliceTo (min 8 (Json.utf8Length key)) key).map fun start =>
      .authenticated (some { clientId := label ++ String.ofList start })
  else some (.failed code message)

def ApiKeyValidator.validate : List (List Char) → List Char → Option AuthResult :=
  validateKey "api_key:" "invalid_api_key" "The provided API key is not valid"

def StaticBearerValidator.validate : List (List Char) → List Char → Option AuthResult :=
  validateKey "bearer:" "invalid_token" "The provided bearer token is not valid"

def toStr (value : List UInt8) : Option (List Char) :=
  if value.all fun byte => decide (32 ≤ byte ∧ byte < 127 ∨ byte = 9) then
    some (value.map fun byte => Char.ofNat byte.toNat)
  else none

inductive AuthReply where
  | unauthorized (message : String)
  | forwarded (info : Option AuthInfo)

def credentialOf (headers : String → Option (List UInt8)) (headerName : String) :
    Option (List Char) :=
  ((headers headerName).bind toStr).bind extractApiKey

/-- `AuthService::call`, with the credentials that the validator is asked about. A panic of the
validator is none. -/
def call (validate : List Char → Option AuthResult) (headerName : String)
    (headers : String → Option (List UInt8)) : List (List Char) × Option AuthReply :=
  match credentialOf headers headerName with
  | none =>
    ([], some (.unauthorized
      "Missing authentication credentials. Provide via Authorization header."))
  | some credential =>
    ([credential], (validate credential).map fun result =>
      match result with
      | .authenticated info => .forwarded info
      | .failed _ message => .unauthorized message)

/-! ## What a value names -/

def IsScheme (name : List Char) : Prop :=
  name.map Char.toLower = "Bearer".toList.map Char.toLower ∨
    name.map Char.toLower = "ApiKey".toList.map Char.toLower

structure NamesCredential (value : List Char) : Prop where
  ne_nil : trim value ≠ []
  not_scheme : ¬IsScheme (trim value)
  key_not_scheme : ∀ name gap key, IsScheme name → (∀ c ∈ gap, isWhitespace c = true) →
    trim value = name ++ ' ' :: gap ++ key → ¬IsScheme key

structure Guarded (validate : List Char → Option AuthResult) (headerName : String)
    (headers : String → Option (List UInt8)) : Prop where
  forwards : ∀ info, (call validate headerName headers).2 = some (.forwarded info) ↔
    ∃ credential, credentialOf headers headerName = some credential ∧
      validate credential = some (.authenticated info)
  asks : ∀ credential ∈ (call validate headerName headers).1,
    credential ≠ [] ∧ ¬IsScheme credential
  answers : ∀ valid, ∀ validate ∈ [ApiKeyValidator.validate valid,
    StaticBearerValidator.validate valid], (call validate headerName headers).2.isSome = true
  agrees : ∀ value token, extractBearerToken value = some token → extractApiKey value = some token

variable {value name more key : List Char}

theorem strip_scheme_eq_some {scheme rest : List Char} (hscheme : scheme.length = 6) :
    stripScheme value scheme = some rest ↔ ∃ name more, value = name ++ ' ' :: more ∧
      name.map Char.toLower = scheme.map Char.toLower ∧ rest = more.dropWhile isWhitespace := by
  have hspace : isWhitespace ' ' = true := rfl
  unfold stripScheme stripPrefixIgnoreAsciiCase
  rw [hscheme]
  constructor
  · intro h
    obtain ⟨after, hafter, h⟩ := Option.bind_eq_some_iff.1 h
    obtain ⟨hname, hafter⟩ := Option.ite_none_right_eq_some.1 hafter
    obtain ⟨hhead, hrest⟩ := Option.ite_none_right_eq_some.1 h
    obtain ⟨more, rfl⟩ := List.head?_eq_some_iff.1 hhead
    cases hrest
    refine ⟨value.take 6, more, ?_, hname, List.dropWhile_cons_of_pos hspace⟩
    rw [← Option.some.inj hafter, List.take_append_drop]
  · rintro ⟨name, more, rfl, hname, rfl⟩
    have hlength : name.length = 6 := by
      have hsame := congrArg List.length hname
      rwa [List.length_map, List.length_map, hscheme] at hsame
    rw [← hlength, List.take_left, List.drop_left, if_pos hname]
    exact congrArg some (List.dropWhile_cons_of_pos hspace)

theorem IsScheme.length_eq (h : IsScheme name) : name.length = 6 := by
  rcases h with h | h
  · exact (List.length_map _).symm.trans (congrArg List.length h)
  · exact (List.length_map _).symm.trans (congrArg List.length h)

theorem to_lower_of_space {c : Char} (h : isWhitespace c = true) : c.toLower = c := by
  unfold Char.toLower
  refine dif_neg fun hupper => ?_
  have hlow : 65 ≤ c.toNat := UInt32.le_iff_toNat_le.1 hupper.1
  have hhigh : c.toNat ≤ 90 := UInt32.le_iff_toNat_le.1 hupper.2
  simp only [isWhitespace, Bool.or_eq_true, decide_eq_true_eq, List.contains_iff_mem, List.mem_cons,
    List.not_mem_nil, or_false] at h
  omega

theorem IsScheme.not_space (h : IsScheme name) {c : Char} (hc : c ∈ name) :
    isWhitespace c = false := by
  have hall : (("Bearer".toList ++ "ApiKey".toList).map Char.toLower).all
      (!isWhitespace ·) = true := by
    decide
  have hmem : c.toLower ∈ ("Bearer".toList ++ "ApiKey".toList).map Char.toLower := by
    rw [List.map_append]
    rcases h with h | h
    · exact List.mem_append_left _ (h ▸ List.mem_map_of_mem hc)
    · exact List.mem_append_right _ (h ▸ List.mem_map_of_mem hc)
  by_contra hspace
  rw [Bool.not_eq_false] at hspace
  have hlower := to_lower_of_space hspace
  rw [hlower] at hmem
  have hvisible := List.all_eq_true.1 hall c hmem
  rw [hspace] at hvisible
  cases hvisible

/-- A suffix of a trimmed text needs no trimming at its end. -/
theorem rdrop_while_of_suffix {text : List Char} (h : text.rdropWhile isWhitespace = text)
    (hsuffix : key <:+ text) : key.rdropWhile isWhitespace = key := by
  rw [List.rdropWhile_eq_self_iff] at h ⊢
  intro hkey
  rw [hsuffix.getLast hkey]
  exact h _

theorem trimmed (value : List Char) : (trim value).rdropWhile isWhitespace = trim value :=
  List.rdropWhile_idempotent _ _

theorem extract_of_scheme (h : trim value = name ++ ' ' :: more) (hname : IsScheme name) :
    extractApiKey value = some (more.dropWhile isWhitespace) ∧
      more.dropWhile isWhitespace ≠ [] := by
  have hsuffix : ' ' :: more <:+ trim value := ⟨name, h.symm⟩
  have hmore := (List.suffix_cons ' ' more).trans hsuffix
  have hrest := (List.dropWhile_suffix isWhitespace).trans hmore
  have htrim : trim (more.dropWhile isWhitespace) = more.dropWhile isWhitespace := by
    unfold trim
    rw [List.dropWhile_idempotent]
    exact rdrop_while_of_suffix (trimmed value) hrest
  refine ⟨?_, fun hblank => ?_⟩
  · unfold extractApiKey
    dsimp only
    rcases hname with hbearer | hapi
    · rw [(strip_scheme_eq_some (rfl : "Bearer".toList.length = 6)).2
        ⟨name, more, h, hbearer, rfl⟩]
      exact congrArg some htrim
    · cases hfirst : stripScheme (trim value) "Bearer".toList with
      | some rest =>
        obtain ⟨other, after, hother, hlower, -⟩ := (strip_scheme_eq_some rfl).1 hfirst
        have hlength := (IsScheme.length_eq (.inr hapi)).trans
          (IsScheme.length_eq (.inl hlower)).symm
        obtain ⟨rfl, -⟩ := List.append_inj (h.symm.trans hother) hlength
        exact absurd (hapi.symm.trans hlower) (by decide)
      | none =>
        rw [(strip_scheme_eq_some (rfl : "ApiKey".toList.length = 6)).2
          ⟨name, more, h, hapi, rfl⟩]
        exact congrArg some htrim
  · have hlast := rdrop_while_of_suffix (trimmed value) hsuffix
    rw [List.rdropWhile_eq_self_iff] at hlast
    refine hlast (List.cons_ne_nil _ _) ?_
    rcases List.mem_cons.1 (List.getLast_mem (List.cons_ne_nil ' ' more)) with hspace | hmem
    · rw [hspace]
      rfl
    · exact List.dropWhile_eq_nil_iff.1 hblank _ hmem

theorem extract_of_plain
    (h : ∀ name more, IsScheme name → trim value ≠ name ++ ' ' :: more) :
    extractApiKey value = if ' ' ∉ trim value then some (trim value) else none := by
  have hnone {scheme : List Char} (hlength : scheme.length = 6)
      (hscheme : ∀ name, name.map Char.toLower = scheme.map Char.toLower → IsScheme name) :
      stripScheme (trim value) scheme = none := by
    refine Option.eq_none_iff_forall_ne_some.2 fun rest hrest => ?_
    obtain ⟨name, more, htrim, hlower, -⟩ := (strip_scheme_eq_some hlength).1 hrest
    exact h name more (hscheme name hlower) htrim
  unfold extractApiKey
  dsimp only
  rw [hnone rfl fun _ => .inl, hnone rfl fun _ => .inr]

theorem mem_of_extract (h : extractApiKey value = some key) {c : Char} (hc : c ∈ key) :
    c ∈ value := by
  have htrim := (trim_sublist isWhitespace value).subset
  by_cases hplain : ∀ name more, IsScheme name → trim value ≠ name ++ ' ' :: more
  · rw [extract_of_plain hplain] at h
    obtain ⟨-, h⟩ := Option.ite_none_right_eq_some.1 h
    cases h
    exact htrim hc
  · push Not at hplain
    obtain ⟨name, more, hname, hvalue⟩ := hplain
    rw [(extract_of_scheme hvalue hname).1] at h
    cases h
    refine htrim ?_
    show c ∈ trim value
    rw [hvalue]
    exact List.mem_append_right _
      (List.mem_cons_of_mem _ ((List.dropWhile_suffix isWhitespace).subset hc))

/-- The validator sees an empty text or a bare scheme exactly when the value does not name a
credential. -/
theorem names_credential_iff (value : List Char) :
    NamesCredential value ↔ ∀ key, extractApiKey value = some key → key ≠ [] ∧ ¬IsScheme key := by
  by_cases hplain : ∀ name more, IsScheme name → trim value ≠ name ++ ' ' :: more
  · rw [extract_of_plain hplain]
    constructor
    · intro h key hkey
      obtain ⟨-, hkey⟩ := Option.ite_none_right_eq_some.1 hkey
      cases hkey
      exact ⟨h.ne_nil, h.not_scheme⟩
    · intro h
      refine ⟨?_, ?_, fun name gap key hname _ hvalue => ?_⟩
      · intro hnil
        exact (h _ (if_pos (by simp [hnil]))).1 hnil
      · intro hscheme
        refine (h _ (if_pos fun hspace => ?_)).2 hscheme
        exact absurd (hscheme.not_space hspace) (by decide)
      · rw [List.append_assoc] at hvalue
        exact absurd hvalue (hplain name _ hname)
  · push Not at hplain
    obtain ⟨name, more, hname, hvalue⟩ := hplain
    obtain ⟨hextract, hne⟩ := extract_of_scheme hvalue hname
    rw [hextract]
    constructor
    · rintro h key hkey
      cases hkey
      refine ⟨hne, h.key_not_scheme name (more.takeWhile isWhitespace) _ hname
        (fun c hc => List.mem_takeWhile_imp hc) ?_⟩
      rw [hvalue, List.append_assoc, List.cons_append, List.takeWhile_append_dropWhile]
    · intro h
      refine ⟨?_, fun hscheme => ?_, fun other gap key hother hgap hsplit hkey => ?_⟩
      · rw [hvalue]
        simp
      · have hspace := hscheme.not_space (hvalue ▸ List.mem_append_right _ List.mem_cons_self)
        exact absurd hspace (by decide)
      · rw [hvalue, List.append_assoc] at hsplit
        have hlength : name.length = other.length := hname.length_eq.trans hother.length_eq.symm
        obtain ⟨-, hrest⟩ := List.append_inj hsplit hlength
        obtain ⟨-, rfl⟩ := List.cons.inj hrest
        refine (h _ rfl).2 ?_
        show IsScheme ((gap ++ key).dropWhile isWhitespace)
        rw [List.dropWhile_append_of_pos hgap]
        cases key with
        | nil => exact hkey
        | cons first rest =>
          rwa [List.dropWhile_cons_of_neg (by simp [hkey.not_space List.mem_cons_self])]

/-! ## The validators -/

theorem size_of_to_str {value : List UInt8} {text : List Char} (h : toStr value = some text)
    {c : Char} (hc : c ∈ text) : c.utf8Size = 1 := by
  obtain ⟨hall, h⟩ := Option.ite_none_right_eq_some.1 h
  cases h
  obtain ⟨byte, hbyte, rfl⟩ := List.mem_map.1 hc
  have hrange := of_decide_eq_true (List.all_eq_true.1 hall byte hbyte)
  have hsmall : byte.toNat < 128 := by
    rcases hrange with ⟨-, hless⟩ | rfl
    · exact (UInt8.lt_iff_toNat_lt.1 hless).trans (by decide)
    · decide
  have hnarrow : ∀ n : Fin 128, (Char.ofNat n.val).utf8Size = 1 := by decide
  exact hnarrow ⟨byte.toNat, hsmall⟩

theorem slice_of_narrow (hnarrow : ∀ c ∈ key, c.utf8Size = 1) {n : ℕ}
    (hn : n ≤ Json.utf8Length key) : (sliceTo n key).isSome = true := by
  induction key generalizing n with
  | nil =>
    cases n with
    | zero => rfl
    | succ n => cases hn
  | cons c rest ih =>
    cases n with
    | zero => rfl
    | succ n =>
      have hc := hnarrow c List.mem_cons_self
      rw [Json.utf8_length_cons, hc] at hn
      rw [sliceTo, hc, if_pos (Nat.le_add_left 1 n), Option.isSome_map]
      exact ih (fun c hmem => hnarrow c (List.mem_cons_of_mem _ hmem)) (by omega)

theorem validate_key_answers (label code message : String) (valid : List (List Char))
    (hnarrow : ∀ c ∈ key, c.utf8Size = 1) :
    (validateKey label code message valid key).isSome = true := by
  unfold validateKey
  split
  next =>
    rw [Option.isSome_map]
    exact slice_of_narrow hnarrow (Nat.min_le_right _ _)
  next => rfl

/-! ## The service -/

variable {validate : List Char → Option AuthResult} {headerName : String}
  {headers : String → Option (List UInt8)}

theorem call_forwards_iff (info : Option AuthInfo) :
    (call validate headerName headers).2 = some (.forwarded info) ↔
      ∃ credential, credentialOf headers headerName = some credential ∧
        validate credential = some (.authenticated info) := by
  unfold call
  cases credentialOf headers headerName with
  | none => simp
  | some credential =>
    simp only [Option.map_eq_some_iff, Option.some.injEq, exists_eq_left']
    constructor
    · rintro ⟨result, hresult, hforwarded⟩
      cases result with
      | authenticated info =>
        cases hforwarded
        exact hresult
      | failed code message => cases hforwarded
    · exact fun hresult => ⟨_, hresult, rfl⟩

theorem call_answers (hvalidate : ∀ credential, (∀ c ∈ credential, c.utf8Size = 1) →
    (validate credential).isSome = true) : (call validate headerName headers).2.isSome = true := by
  unfold call
  cases hcredential : credentialOf headers headerName with
  | none => rfl
  | some credential =>
    obtain ⟨text, htext, hextract⟩ := Option.bind_eq_some_iff.1 hcredential
    obtain ⟨value, -, hvalue⟩ := Option.bind_eq_some_iff.1 htext
    rw [Option.isSome_map]
    exact hvalidate credential fun c hc => size_of_to_str hvalue (mem_of_extract hextract hc)

theorem extract_of_bearer {token : List Char} (h : extractBearerToken value = some token) :
    extractApiKey value = some token := by
  obtain ⟨rest, hrest, rfl⟩ := Option.map_eq_some_iff.1 h
  unfold extractApiKey
  dsimp only
  rw [hrest]

/-- Whatever the validator, the header and its value: the service keeps its promises exactly when a
readable value names a credential. Only what it asks the validator about depends on that. -/
theorem boundary_guarded_iff (validate : List Char → Option AuthResult) (headerName : String)
    (headers : String → Option (List UInt8)) :
    Guarded validate headerName headers ↔
      ∀ text, (headers headerName).bind toStr = some text → NamesCredential text := by
  have hasked : (∀ credential ∈ (call validate headerName headers).1,
      credential ≠ [] ∧ ¬IsScheme credential) ↔
        ∀ text, (headers headerName).bind toStr = some text → NamesCredential text := by
    simp only [names_credential_iff]
    unfold call credentialOf
    cases (headers headerName).bind toStr with
    | none => simp
    | some text =>
      rw [Option.bind_some]
      cases hextract : extractApiKey text with
      | none => simp [hextract]
      | some key => simp [hextract]
  rw [← hasked]
  refine ⟨Guarded.asks, fun hasks => ⟨call_forwards_iff, hasks, ?_, fun _ _ => extract_of_bearer⟩⟩
  intro valid validate hmem
  refine call_answers fun credential hnarrow => ?_
  rcases List.mem_pair.1 hmem with rfl | rfl
  · exact validate_key_answers _ _ _ valid hnarrow
  · exact validate_key_answers _ _ _ valid hnarrow

def blankHeader : String → Option (List UInt8) := fun _ => some [32]

/-- A blank header value is shown to the validator as an empty credential. -/
theorem blank_credential_asked :
    ¬∀ (validate : List Char → Option AuthResult) (headerName : String)
      (headers : String → Option (List UInt8)), Guarded validate headerName headers := by
  intro h
  exact absurd rfl
    ((h (fun _ => some (.authenticated none)) "X-API-Key" blankHeader).asks [] (by decide)).1

end TowerMcp.HeaderAuth
