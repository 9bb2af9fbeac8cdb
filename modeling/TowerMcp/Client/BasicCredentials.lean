import TowerMcp.Lib.Base64
import TowerMcp.Lib.Percent
import TowerMcp.Lib.Segments
import TowerMcp.Types.Text

/-!
# Client credentials in an `Authorization` header

The three token providers send HTTP Basic credentials, one of them form-encoded.
-/

namespace TowerMcp.BasicCredentials

/-- The bytes that `urlencoding::encode` leaves as they are. -/
def isUnreserved (byte : UInt8) : Bool :=
  let code := byte.toNat
  decide (48 ≤ code ∧ code ≤ 57) || decide (65 ≤ code ∧ code ≤ 90) ||
    decide (97 ≤ code ∧ code ≤ 122) || [45, 46, 95, 126].contains code

/-- `urlencoding::encode`. -/
def urlEncode (text : String) : List UInt8 :=
  Percent.encode isUnreserved (utf8Bytes text)

def basicHeader (user password : List UInt8) : List Char :=
  "Basic ".toList ++ Base64.encode (user ++ 58 :: password)

inductive TokenProvider where
  | clientCredentials
  | authorizationCode
  | authorizationFlow
deriving DecidableEq

/-- The header that a provider sends with `client_secret_basic`: the builder of requests takes the
credentials as they are, and the flow's `basic_auth` form-encodes them first. -/
def TokenProvider.basicAuth (provider : TokenProvider) (clientId clientSecret : String) :
    List Char :=
  match provider with
  | .clientCredentials | .authorizationCode =>
    basicHeader (utf8Bytes clientId) (utf8Bytes clientSecret)
  | .authorizationFlow => basicHeader (urlEncode clientId) (urlEncode clientSecret)

def readCredentials (header : List Char) : Option (List UInt8 × List UInt8) := do
  let encoded ← stripPrefix header "Basic ".toList
  let credentials ← Base64.decode encoded
  let (user, password) ← Segments.splitOnce 58 credentials
  return (Percent.decode true user, Percent.decode true password)

variable {user password : List UInt8}

theorem read_credentials_basic_header (user password : List UInt8) :
    readCredentials (basicHeader user password) =
      (Segments.splitOnce 58 (user ++ 58 :: password)).map fun parts =>
        (Percent.decode true parts.1, Percent.decode true parts.2) := by
  have hstrip (rest : List Char) :
      stripPrefix ("Basic ".toList ++ rest) "Basic ".toList = some rest := by
    rw [stripPrefix, if_pos (List.isPrefixOf_iff_prefix.2 (List.prefix_append _ _)),
      List.drop_left]
  unfold readCredentials basicHeader
  rw [hstrip]
  simp only [Option.bind_eq_bind, Option.bind_some, Base64.decode_encode]
  cases Segments.splitOnce 58 (user ++ 58 :: password) <;> rfl

theorem read_credentials_of_not_mem (h : (58 : UInt8) ∉ user) (password : List UInt8) :
    readCredentials (basicHeader user password) =
      some (Percent.decode true user, Percent.decode true password) := by
  rw [read_credentials_basic_header, Segments.split_once_append h]
  rfl

theorem read_credentials_plain_iff :
    readCredentials (basicHeader user password) = some (user, password) ↔
      (58 : UInt8) ∉ user ∧ Percent.decode true user = user ∧
        Percent.decode true password = password := by
  by_cases h : (58 : UInt8) ∈ user
  · refine iff_of_false (fun hread => ?_) fun hplain => hplain.1 h
    -- the part before the first colon is shorter than the identifier
    obtain ⟨before, after, rfl, hbefore⟩ := List.eq_append_cons_of_mem h
    rw [read_credentials_basic_header, List.append_assoc, List.cons_append,
      Segments.split_once_append hbefore, Option.map_some, Option.some.injEq, Prod.mk.injEq] at hread
    have hshort := Percent.length_decode_from_le true 0 before
    have hlength : (Percent.decodeFrom true 0 before).length = (before ++ 58 :: after).length :=
      congrArg List.length hread.1
    rw [List.length_append, List.length_cons] at hlength
    omega
  · rw [read_credentials_of_not_mem h]
    simp [h]

/-- Whether form-decoding leaves a text as it is: it has no `+` and no escape. -/
def IsPlain (text : String) : Prop :=
  (43 : UInt8) ∉ utf8Bytes text ∧ Percent.hasEscape (utf8Bytes text) = false

theorem not_mem_url_encode {byte : UInt8} (text : String) (hreserved : isUnreserved byte = false)
    (hpercent : byte ≠ 37) : byte ∉ urlEncode text := by
  intro hmem
  rcases Percent.mem_encode hmem with hkept | heq | ⟨n, hn, rfl⟩
  · rw [hreserved] at hkept
    cases hkept
  · exact hpercent heq
  · have hall : ∀ m : Fin 16, isUnreserved (Percent.hexDigit m.val) = true := by decide
    rw [hall ⟨n, hn⟩] at hreserved
    cases hreserved

/-- A token endpoint reads the client that a provider means exactly when the provider encodes it, or
the identifier has no colon and neither part has a `+` or an escape. -/
theorem basic_credentials_read_back_iff (provider : TokenProvider) (clientId clientSecret : String) :
    readCredentials (provider.basicAuth clientId clientSecret) =
        some (utf8Bytes clientId, utf8Bytes clientSecret) ↔
      provider = .authorizationFlow ∨
        (58 : UInt8) ∉ utf8Bytes clientId ∧ IsPlain clientId ∧ IsPlain clientSecret := by
  have hplain (text : String) :
      Percent.decode true (utf8Bytes text) = utf8Bytes text ↔ IsPlain text := by
    rw [Percent.decode_eq_self_iff, and_comm]
    simp [IsPlain]
  have hsent : readCredentials (basicHeader (utf8Bytes clientId) (utf8Bytes clientSecret)) =
      some (utf8Bytes clientId, utf8Bytes clientSecret) ↔
        (58 : UInt8) ∉ utf8Bytes clientId ∧ IsPlain clientId ∧ IsPlain clientSecret := by
    rw [read_credentials_plain_iff, hplain, hplain]
  cases provider with
  | clientCredentials => simpa [TokenProvider.basicAuth] using hsent
  | authorizationCode => simpa [TokenProvider.basicAuth] using hsent
  | authorizationFlow =>
    have hdecode (text : String) : Percent.decode true (urlEncode text) = utf8Bytes text :=
      Percent.decode_of_encoded (Percent.encoded_encode (by decide) (fun _ => by decide) _)
    refine iff_of_true ?_ (.inl rfl)
    unfold TokenProvider.basicAuth
    rw [read_credentials_of_not_mem (not_mem_url_encode clientId (by decide) (by decide)), hdecode,
      hdecode]

/-- A secret with a `+` is read with a space. -/
theorem plus_reads_as_space :
    ¬∀ (provider : TokenProvider) (clientId clientSecret : String),
      readCredentials (provider.basicAuth clientId clientSecret) =
        some (utf8Bytes clientId, utf8Bytes clientSecret) := by
  intro h
  exact absurd (h .clientCredentials "id" "a+b") (by decide +kernel)

end TowerMcp.BasicCredentials
