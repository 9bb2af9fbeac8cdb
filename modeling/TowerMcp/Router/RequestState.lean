import TowerMcp.Lib.Base64
import TowerMcp.Lib.Fallible
import TowerMcp.Lib.FinMap
import TowerMcp.Types.Text

/-!
# Request-state tokens

The codec of the continuation state that travels through an untrusted client, after `mrtr.rs`. A token
is a version, a key identifier, a payload and a signature, with dots between them, and the signature
is over all that comes before it. SHA-256 and the serialisation of the state are parameters. The MAC
is ideal in what `Exchange.Unforged` says of one token: its signature is valid only if a codec that
holds the key has signed its text. `token_fields_unique` is why nothing can be relabelled.
-/

namespace TowerMcp

/-! ## Keyed hashing -/

abbrev Sha256 := List UInt8 → Vector UInt8 32

def sha256BlockSize : ℕ := 64

def normalizedKey (sha256 : Sha256) (key : List UInt8) : List UInt8 :=
  let bytes := if sha256BlockSize < key.length then (sha256 key).toList else key
  bytes ++ List.replicate (sha256BlockSize - bytes.length) 0

def hmacSha256 (sha256 : Sha256) (key message : List UInt8) : List UInt8 :=
  let innerPad := (normalizedKey sha256 key).map fun byte => 0x36 ^^^ byte
  let outerPad := (normalizedKey sha256 key).map fun byte => 0x5c ^^^ byte
  let inner := sha256 (innerPad ++ message)
  (sha256 (outerPad ++ inner.toList)).toList

def constantTimeEq (left right : List UInt8) : Bool :=
  if left.length ≠ right.length then false
  else
    (left.zip right).foldl (fun difference pair => difference ||| (pair.1 ^^^ pair.2)) 0 == 0

theorem foldl_difference_eq_zero_iff {pairs : List (UInt8 × UInt8)} {difference : UInt8} :
    pairs.foldl (fun difference pair => difference ||| (pair.1 ^^^ pair.2)) difference = 0 ↔
      difference = 0 ∧ ∀ pair ∈ pairs, pair.1 = pair.2 := by
  induction pairs generalizing difference with
  | nil => simp
  | cons pair rest ih =>
    rw [List.foldl_cons, ih, UInt8.or_eq_zero_iff, UInt8.xor_eq_zero_iff, List.forall_mem_cons,
      and_assoc]

theorem constant_time_eq_iff {left right : List UInt8} :
    constantTimeEq left right = true ↔ left = right := by
  unfold constantTimeEq
  split
  next hlength => exact ⟨nofun, fun h => absurd (congrArg List.length h) hlength⟩
  next hlength =>
    rw [beq_iff_eq, foldl_difference_eq_zero_iff]
    constructor
    · rintro ⟨-, hpairs⟩
      refine List.ext_getElem (not_not.1 hlength) fun i hleft hright => ?_
      have hmem : (left[i], right[i]) ∈ left.zip right := by
        refine List.mem_iff_getElem.2 ⟨i, ?_, List.getElem_zip⟩
        rw [List.length_zip]
        omega
      exact hpairs _ hmem
    · rintro rfl
      refine ⟨rfl, fun pair hpair => ?_⟩
      obtain ⟨i, hi, rfl⟩ := List.mem_iff_getElem.1 hpair
      rw [List.getElem_zip]

/-! ## The codec -/

inductive RequestStateError (ε : Type) where
  | weakKey
  | invalidKeyId
  | zeroTtl
  | tooLarge (limit : ℕ)
  | malformed
  | unsupportedVersion
  | integrity
  | expired
  | subjectMismatch
  | encode (error : ε)
  | decode (error : ε)
  | clock
deriving DecidableEq

structure StateEnvelope (σ : Type) where
  issuedAt : UInt64
  expiresAt : UInt64
  subject : Option String
  state : σ
deriving DecidableEq

structure StateSerde (σ ε : Type) where
  toVec : StateEnvelope σ → Except ε (List UInt8)
  fromSlice : List UInt8 → Except ε (StateEnvelope σ)

def StateSerde.RoundTrips {σ ε : Type} (serde : StateSerde σ ε) : Prop :=
  ∀ envelope bytes, serde.toVec envelope = .ok bytes → serde.fromSlice bytes = .ok envelope

def tokenVersionV1 : List Char := ['v', '1']

def tokenVersionV2 : List Char := ['v', '2']

def defaultMaxTokenBytes : ℕ := 64 * 1024

def asBytes (text : List Char) : List UInt8 :=
  utf8Bytes (String.ofList text)

def isKeyId (keyId : List Char) : Bool :=
  !keyId.isEmpty && keyId.all fun c => c.isAlphanum || c == '-' || c == '_'

def hexByte (byte : UInt8) : List Char :=
  [Nat.digitChar (byte.toNat / 16), Nat.digitChar (byte.toNat % 16)]

def deriveKeyId (sha256 : Sha256) (key : List UInt8) : List Char :=
  ((sha256 key).toList.take 8).flatMap hexByte

def saturatingAdd (time : UInt64) (seconds : ℕ) : UInt64 :=
  UInt64.ofNat (min (time.toNat + seconds) (2 ^ 64 - 1))

structure RequestStateCodec where
  key : List UInt8
  keyId : List Char
  verificationKeys : FinMap (List Char) (List UInt8)
  ttl : ℕ
  maxTokenBytes : ℕ
  strong : 32 ≤ key.length
  identified : isKeyId keyId = true
  lasting : 0 < ttl
  verified : ∀ id old, verificationKeys.lookup id = some old → isKeyId id = true ∧ 32 ≤ old.length

theorem is_alphanum_digit_char {n : ℕ} (h : n < 16) : (Nat.digitChar n).isAlphanum = true := by
  have hall : ∀ m : Fin 16, (Nat.digitChar m.val).isAlphanum = true := by decide
  exact hall ⟨n, h⟩

theorem is_key_id_derive_key_id (sha256 : Sha256) (key : List UInt8) :
    isKeyId (deriveKeyId sha256 key) = true := by
  have hlength : (sha256 key).toList.length = 32 := Vector.length_toList
  unfold isKeyId
  rw [Bool.and_eq_true, Bool.not_eq_true', List.isEmpty_eq_false_iff, List.all_eq_true]
  constructor
  · intro hnil
    have hsize := congrArg List.length hnil
    unfold deriveKeyId at hsize
    simp [hexByte, hlength] at hsize
  · intro c hc
    obtain ⟨byte, _, hmem⟩ := List.mem_flatMap.1 hc
    have hbyte := byte.toNat_lt
    simp only [hexByte, List.mem_cons, List.not_mem_nil, or_false] at hmem
    rcases hmem with rfl | rfl
    · rw [is_alphanum_digit_char (by omega)]
      rfl
    · rw [is_alphanum_digit_char (by omega)]
      rfl

namespace RequestStateCodec

variable {σ ε : Type} (sha256 : Sha256)

def new (key : List UInt8) (ttl : ℕ) : Except (RequestStateError ε) RequestStateCodec :=
  if hkey : key.length < 32 then .error .weakKey
  else if httl : ttl = 0 then .error .zeroTtl
  else
    .ok
      { key, keyId := deriveKeyId sha256 key, verificationKeys := ∅, ttl,
        maxTokenBytes := defaultMaxTokenBytes, strong := by omega,
        identified := is_key_id_derive_key_id sha256 key, lasting := by omega, verified := nofun }

variable (self : RequestStateCodec)

def withMaxTokenBytes (maxTokenBytes : ℕ) : RequestStateCodec :=
  { self with maxTokenBytes }

def withKeyId (keyId : List Char) : Except (RequestStateError ε) RequestStateCodec :=
  if hkeyId : isKeyId keyId = true then .ok { self with keyId, identified := hkeyId }
  else .error .invalidKeyId

def withVerificationKey (keyId : List Char) (key : List UInt8) :
    Except (RequestStateError ε) RequestStateCodec :=
  if hkeyId : isKeyId keyId = true then
    if hkey : key.length < 32 then .error .weakKey
    else
      .ok
        { self with
          verificationKeys := self.verificationKeys.insert keyId key
          verified := fun id old h => by
            rw [FinMap.lookup_insert_eq_ite] at h
            split at h
            next heq =>
              cases h
              exact ⟨heq ▸ hkeyId, by omega⟩
            next => exact self.verified id old h }
  else .error .invalidKeyId

def keyFor (keyId : List Char) : Option (List UInt8) :=
  if keyId = self.keyId then some self.key else self.verificationKeys.lookup keyId

def signedText (fields : List (List Char)) : List Char :=
  ['.'].intercalate fields

def envelope (subject : Option String) (state : σ) (now : UInt64) : StateEnvelope σ :=
  { issuedAt := now, expiresAt := saturatingAdd now (self.ttl / 10 ^ 9), subject, state }

def textToSign (serde : StateSerde σ ε) (subject : Option String) (state : σ) (now : UInt64) :
    Except (RequestStateError ε) (List Char) := do
  let payload ← (serde.toVec (self.envelope subject state now)).mapError .encode
  .ok (signedText [tokenVersionV2, self.keyId, Base64.encodeUrlSafe payload])

def encodeAt (serde : StateSerde σ ε) (subject : Option String) (state : σ) (now : UInt64) :
    Except (RequestStateError ε) (List Char) := do
  let signed ← self.textToSign serde subject state now
  let signature := Base64.encodeUrlSafe (hmacSha256 sha256 self.key (asBytes signed))
  let token := signedText [signed, signature]
  if self.maxTokenBytes < (asBytes token).length then .error (.tooLarge self.maxTokenBytes)
  else .ok token

structure Parts where
  key : List UInt8
  signed : List Char
  payload : List Char
  signature : List Char

def parse (token : List Char) : Except (RequestStateError ε) Parts :=
  match token.splitOn '.' with
  | [] => .error .malformed
  | version :: fields =>
    if version = tokenVersionV1 then
      match fields with
      | [payload, signature] =>
        .ok { key := self.key, signed := signedText [version, payload], payload, signature }
      | _ => .error .malformed
    else if version = tokenVersionV2 then
      match fields with
      | [keyId, payload, signature] =>
        match self.keyFor keyId with
        | none => .error .integrity
        | some key => .ok { key, signed := signedText [version, keyId, payload], payload, signature }
      | _ => .error .malformed
    else .error .unsupportedVersion

def decodeAt (serde : StateSerde σ ε) (token : List Char) (subject : Option String) (now : UInt64) :
    Except (RequestStateError ε) σ :=
  if self.maxTokenBytes < (asBytes token).length then .error (.tooLarge self.maxTokenBytes)
  else do
    let parts ← self.parse token
    match Base64.decodeUrlSafe parts.signature with
    | none => .error .malformed
    | some supplied =>
      if !constantTimeEq supplied (hmacSha256 sha256 parts.key (asBytes parts.signed)) then
        .error .integrity
      else
        match Base64.decodeUrlSafe parts.payload with
        | none => .error .malformed
        | some payload => do
          let envelope ← (serde.fromSlice payload).mapError .decode
          if envelope.expiresAt < now then .error .expired
          else
            match envelope.subject, subject with
            | none, none => .ok envelope.state
            | some expected, some actual =>
              if expected = actual then .ok envelope.state else .error .subjectMismatch
            | _, _ => .error .subjectMismatch

def unixSeconds (clock : Option UInt64) : Except (RequestStateError ε) UInt64 :=
  match clock with
  | none => .error .clock
  | some now => .ok now

def encode (serde : StateSerde σ ε) (clock : Option UInt64) (state : σ) :
    Except (RequestStateError ε) (List Char) := do
  self.encodeAt sha256 serde none state (← unixSeconds clock)

def encodeFor (serde : StateSerde σ ε) (clock : Option UInt64) (subject : String) (state : σ) :
    Except (RequestStateError ε) (List Char) := do
  self.encodeAt sha256 serde (some subject) state (← unixSeconds clock)

def decode (serde : StateSerde σ ε) (clock : Option UInt64) (token : List Char) :
    Except (RequestStateError ε) σ := do
  self.decodeAt sha256 serde token none (← unixSeconds clock)

def decodeFor (serde : StateSerde σ ε) (clock : Option UInt64) (token : List Char)
    (subject : String) : Except (RequestStateError ε) σ := do
  self.decodeAt sha256 serde token (some subject) (← unixSeconds clock)

@[simp] theorem key_for_key_id : self.keyFor self.keyId = some self.key := if_pos rfl

end RequestStateCodec

/-! ## What is emitted and what is accepted -/

theorem dot_not_mem_of_is_key_id {keyId : List Char} (h : isKeyId keyId = true) : '.' ∉ keyId := by
  intro hdot
  have hall := List.all_eq_true.1 (Bool.and_eq_true_iff.1 h).2 _ hdot
  cases hall

theorem dot_not_mem_encode_url_safe (bytes : List UInt8) : '.' ∉ Base64.encodeUrlSafe bytes :=
  fun h => Base64.ne_of_mem_encode_url_safe h (by decide) rfl

theorem split_on_signed_text (signed signature : List Char) :
    (RequestStateCodec.signedText [signed, signature]).splitOn '.' =
      signed.splitOn '.' ++ signature.splitOn '.' := by
  have hjoined : RequestStateCodec.signedText [signed, signature] = signed ++ '.' :: signature := by
    simp [RequestStateCodec.signedText, List.intercalate]
  rw [hjoined, List.splitOn_append_cons_self]

theorem intercalate_concat {fields : List (List Char)} (hne : fields ≠ []) {signature : List Char} :
    ['.'].intercalate (fields ++ [signature]) =
      RequestStateCodec.signedText [RequestStateCodec.signedText fields, signature] := by
  unfold RequestStateCodec.signedText
  induction fields with
  | nil => exact absurd rfl hne
  | cons first rest ih =>
    cases rest with
    | nil =>
      rw [List.intercalate_singleton]
      rfl
    | cons second more =>
      have hrest := ih (List.cons_ne_nil second more)
      rw [List.intercalate_cons_cons, List.intercalate_singleton] at hrest
      rw [List.cons_append, List.cons_append, List.intercalate_cons_cons, ← List.cons_append,
        hrest, List.intercalate_cons_cons, List.intercalate_singleton,
        List.intercalate_cons_cons]
      simp only [List.append_assoc]

theorem le_saturating_add_iff {now time : UInt64} {seconds : ℕ} :
    now ≤ saturatingAdd time seconds ↔ now.toNat ≤ time.toNat + seconds := by
  have hnow := now.toNat_lt
  rw [UInt64.le_iff_toNat_le, saturatingAdd, UInt64.toNat_ofNat', Nat.mod_eq_of_lt (by omega)]
  omega

namespace RequestStateCodec

open Fallible

variable {σ ε : Type} {sha256 : Sha256} {serde : StateSerde σ ε} {self : RequestStateCodec}
  {subject : Option String} {state : σ} {now : UInt64} {signed token : List Char}

theorem text_to_sign_eq_ok : self.textToSign serde subject state now = .ok signed ↔
    ∃ bytes, serde.toVec (self.envelope subject state now) = .ok bytes ∧
      signed = signedText [tokenVersionV2, self.keyId, Base64.encodeUrlSafe bytes] := by
  unfold textToSign
  simp only [bind_eq_ok, map_error_eq_ok, Except.ok.injEq]
  exact ⟨fun ⟨bytes, hbytes, h⟩ => ⟨bytes, hbytes, h.symm⟩,
    fun ⟨bytes, hbytes, h⟩ => ⟨bytes, hbytes, h.symm⟩⟩

theorem split_on_of_text_to_sign (h : self.textToSign serde subject state now = .ok signed) :
    ∃ bytes, serde.toVec (self.envelope subject state now) = .ok bytes ∧
      signed.splitOn '.' = [tokenVersionV2, self.keyId, Base64.encodeUrlSafe bytes] := by
  obtain ⟨bytes, hbytes, rfl⟩ := text_to_sign_eq_ok.1 h
  refine ⟨bytes, hbytes, List.splitOn_intercalate '.' ?_ (List.cons_ne_nil _ _)⟩
  simp only [List.mem_cons, List.not_mem_nil, or_false]
  rintro field (rfl | rfl | rfl)
  · decide
  · exact dot_not_mem_of_is_key_id self.identified
  · exact dot_not_mem_encode_url_safe bytes

theorem encode_at_eq_ok : self.encodeAt sha256 serde subject state now = .ok token ↔
    ∃ signed, self.textToSign serde subject state now = .ok signed ∧
      (asBytes token).length ≤ self.maxTokenBytes ∧
        token = signedText
          [signed, Base64.encodeUrlSafe (hmacSha256 sha256 self.key (asBytes signed))] := by
  unfold encodeAt
  rw [bind_eq_ok]
  refine exists_congr fun signed => and_congr_right fun _ => ?_
  dsimp only
  split
  next hlarge =>
    refine ⟨nofun, ?_⟩
    rintro ⟨hsmall, rfl⟩
    exact absurd hsmall (Nat.not_le.2 hlarge)
  next hsmall =>
    constructor
    · intro h
      cases h
      exact ⟨Nat.not_lt.1 hsmall, rfl⟩
    · rintro ⟨-, rfl⟩
      rfl

theorem split_on_of_encode_at (h : self.encodeAt sha256 serde subject state now = .ok token) :
    ∃ bytes, serde.toVec (self.envelope subject state now) = .ok bytes ∧
      ∃ signed, self.textToSign serde subject state now = .ok signed ∧
        signed = signedText [tokenVersionV2, self.keyId, Base64.encodeUrlSafe bytes] ∧
          token.splitOn '.' = [tokenVersionV2, self.keyId, Base64.encodeUrlSafe bytes,
            Base64.encodeUrlSafe (hmacSha256 sha256 self.key (asBytes signed))] := by
  obtain ⟨signed, hsigned, -, rfl⟩ := encode_at_eq_ok.1 h
  obtain ⟨bytes, hbytes, rfl⟩ := text_to_sign_eq_ok.1 hsigned
  obtain ⟨bytes', hbytes', hfields⟩ := split_on_of_text_to_sign hsigned
  have hsame : bytes = bytes' := Except.ok.inj (hbytes.symm.trans hbytes')
  subst hsame
  refine ⟨bytes, hbytes, _, hsigned, rfl, ?_⟩
  rw [split_on_signed_text, hfields,
    List.splitOn_eq_singleton (dot_not_mem_encode_url_safe _)]
  rfl

theorem parse_eq_ok {parts : Parts} (h : self.parse (ε := ε) token = .ok parts) :
    (token.splitOn '.' = [tokenVersionV1, parts.payload, parts.signature] ∧
      parts.signed = signedText [tokenVersionV1, parts.payload] ∧ parts.key = self.key) ∨
    ∃ keyId, token.splitOn '.' = [tokenVersionV2, keyId, parts.payload, parts.signature] ∧
      parts.signed = signedText [tokenVersionV2, keyId, parts.payload] ∧
        self.keyFor keyId = some parts.key := by
  unfold parse at h
  split at h
  next => cases h
  next version fields hsplit =>
    split at h
    next hv1 =>
      subst hv1
      split at h
      next payload signature =>
        cases h
        exact Or.inl ⟨hsplit, rfl, rfl⟩
      next => cases h
    next =>
      split at h
      next hv2 =>
        subst hv2
        split at h
        next keyId payload signature =>
          cases hkey : self.keyFor keyId with
          | none =>
            rw [hkey] at h
            cases h
          | some key =>
            rw [hkey] at h
            cases h
            exact Or.inr ⟨keyId, hsplit, rfl, hkey⟩
        next => cases h
      next => cases h

theorem parse_of_split_on {keyId payload signature : List Char} {key : List UInt8}
    (hsplit : token.splitOn '.' = [tokenVersionV2, keyId, payload, signature])
    (hkey : self.keyFor keyId = some key) :
    self.parse (ε := ε) token =
      .ok { key, signed := signedText [tokenVersionV2, keyId, payload], payload, signature } := by
  unfold parse
  rw [hsplit]
  dsimp only
  rw [if_neg (by decide), if_pos rfl, hkey]

theorem subject_matches {envelope : StateEnvelope σ} :
    (match envelope.subject, subject with
      | none, none => (.ok envelope.state : Except (RequestStateError ε) σ)
      | some expected, some actual =>
        if expected = actual then .ok envelope.state else .error .subjectMismatch
      | _, _ => .error .subjectMismatch) = .ok state ↔
      envelope.subject = subject ∧ envelope.state = state := by
  cases envelope.subject with
  | none =>
    cases subject with
    | none => simp
    | some actual => simp
  | some expected =>
    cases subject with
    | none => simp
    | some actual =>
      by_cases heq : expected = actual
      · simp [heq]
      · simp [heq]

theorem decode_at_eq_ok : self.decodeAt sha256 serde token subject now = .ok state ↔
    (asBytes token).length ≤ self.maxTokenBytes ∧
      ∃ parts, self.parse (ε := ε) token = .ok parts ∧
        Base64.decodeUrlSafe parts.signature =
          some (hmacSha256 sha256 parts.key (asBytes parts.signed)) ∧
        ∃ payload, Base64.decodeUrlSafe parts.payload = some payload ∧
          ∃ envelope, serde.fromSlice payload = .ok envelope ∧ now ≤ envelope.expiresAt ∧
            envelope.subject = subject ∧ envelope.state = state := by
  unfold decodeAt
  split
  next hlarge => exact ⟨nofun, fun h => absurd h.1 (Nat.not_le.2 hlarge)⟩
  next hsmall =>
    rw [bind_eq_ok]
    refine Iff.trans (exists_congr fun parts => and_congr_right fun _ => ?_)
      (and_iff_right (Nat.not_lt.1 hsmall)).symm
    cases hsignature : Base64.decodeUrlSafe parts.signature with
    | none => simp
    | some supplied =>
      cases hpayload : Base64.decodeUrlSafe parts.payload with
      | none =>
        simp only [reduceCtorEq, false_and, exists_false, and_false, iff_false]
        split
        next => exact nofun
        next => exact nofun
      | some payload =>
        dsimp only
        rw [Option.some.injEq, ← constant_time_eq_iff]
        cases constantTimeEq supplied (hmacSha256 sha256 parts.key (asBytes parts.signed)) with
        | false => simp
        | true =>
          simp only [Bool.not_true, Bool.false_eq_true, if_false, bind_eq_ok,
            map_error_eq_ok, true_and, Option.some.injEq, exists_eq_left']
          refine exists_congr fun envelope => and_congr_right fun _ => ?_
          split
          next hlate => exact ⟨nofun, fun h => absurd h.1 (UInt64.not_le.2 hlate)⟩
          next htime =>
            rw [subject_matches]
            exact (and_iff_right (UInt64.not_lt.1 htime)).symm

end RequestStateCodec

/-! ## Deployments -/

structure IssuedToken {σ ε : Type} (sha256 : Sha256) (serde : StateSerde σ ε) where
  codec : RequestStateCodec
  subject : Option String
  state : σ
  time : UInt64
  token : List Char
  encoded : codec.encodeAt sha256 serde subject state time = .ok token

structure Deployment {σ ε : Type} (sha256 : Sha256) (serde : StateSerde σ ε) where
  codecs : List RequestStateCodec
  issued : List (IssuedToken sha256 serde)
  by_codecs : ∀ issue ∈ issued, issue.codec ∈ codecs

def tokenKeyId (token : List Char) : Option (List Char) :=
  match token.splitOn '.' with
  | [version, keyId, _, _] => if version = tokenVersionV2 then some keyId else none
  | _ => none

namespace Deployment

variable {σ ε : Type} {sha256 : Sha256} {serde : StateSerde σ ε}

/-- A token is no forgery: its last field is a valid signature of the text before it, under a key that
some codec trusts, only if a codec with that signing key has made a token by signing exactly this
text. -/
def Unforged (self : Deployment sha256 serde) (token : List Char) : Prop :=
  ∀ decoder ∈ self.codecs, ∀ keyId key, decoder.keyFor keyId = some key →
    ∀ fields signature, token.splitOn '.' = fields ++ [signature] →
      Base64.decodeUrlSafe signature =
          some (hmacSha256 sha256 key (asBytes (RequestStateCodec.signedText fields))) →
        ∃ issue ∈ self.issued, issue.codec.key = key ∧
          issue.codec.textToSign serde issue.subject issue.state issue.time =
            .ok (RequestStateCodec.signedText fields)

/-- The state was put into a token that names its key by the identifier it is trusted under, by a
codec that signs with the key, for the same subject, and the token is in time. -/
def Vouched (self : Deployment sha256 serde) (decoder : RequestStateCodec) (token : List Char)
    (subject : Option String) (now : UInt64) (state : σ) : Prop :=
  ∃ issue ∈ self.issued, issue.codec ∈ self.codecs ∧ issue.state = state ∧
    issue.subject = subject ∧ tokenKeyId token = some issue.codec.keyId ∧
      decoder.keyFor issue.codec.keyId = some issue.codec.key ∧
        now.toNat ≤ issue.time.toNat + issue.codec.ttl / 10 ^ 9

variable {self : Deployment sha256 serde} {decoder : RequestStateCodec} {token : List Char}

theorem token_fields_unique {codec : RequestStateCodec} {subject : Option String} {state : σ}
    {time : UInt64} {version : List Char} {fields : List (List Char)} {signature : List Char}
    (hsigned : codec.textToSign serde subject state time =
      .ok (RequestStateCodec.signedText (version :: fields)))
    (hsplit : token.splitOn '.' = version :: fields ++ [signature]) :
    ∃ bytes rest, serde.toVec (codec.envelope subject state time) = .ok bytes ∧
      version :: fields ++ [signature] =
        tokenVersionV2 :: codec.keyId :: Base64.encodeUrlSafe bytes :: rest := by
  obtain ⟨bytes, hbytes, hfields⟩ := RequestStateCodec.split_on_of_text_to_sign hsigned
  have htoken : token = RequestStateCodec.signedText
      [RequestStateCodec.signedText (version :: fields), signature] := by
    have hjoin : List.intercalate ['.'] (token.splitOn '.') = token := List.intercalate_splitOn '.'
    rw [← hjoin, hsplit]
    exact intercalate_concat (List.cons_ne_nil version fields)
  refine ⟨bytes, signature.splitOn '.', hbytes, ?_⟩
  rw [← hsplit, htoken, split_on_signed_text, hfields]
  rfl

theorem vouched_of_decoded (hserde : serde.RoundTrips) (hunforged : self.Unforged token)
    (hdecoder : decoder ∈ self.codecs) {subject : Option String} {now : UInt64} {state : σ}
    (h : decoder.decodeAt sha256 serde token subject now = .ok state) :
    self.Vouched decoder token subject now state := by
  obtain ⟨-, parts, hparse, hsignature, payload, hpayload, envelope, henvelope, htime, hsubject,
    hstate⟩ := RequestStateCodec.decode_at_eq_ok.1 h
  rcases RequestStateCodec.parse_eq_ok hparse with ⟨hsplit, hsigned, hkey⟩ |
    ⟨keyId, hsplit, hsigned, hkey⟩
  · -- No codec has signed a text of the first version.
    rw [hsigned] at hsignature
    obtain ⟨issue, _, _, htext⟩ := hunforged decoder hdecoder decoder.keyId parts.key
      (by rw [hkey, RequestStateCodec.key_for_key_id]) [tokenVersionV1, parts.payload] _ hsplit
      hsignature
    obtain ⟨bytes, rest, _, hfields⟩ := token_fields_unique htext hsplit
    exact absurd (List.cons.inj hfields).1 (by decide)
  · rw [hsigned] at hsignature
    obtain ⟨issue, hissue, hissuer, htext⟩ := hunforged decoder hdecoder keyId parts.key hkey
      [tokenVersionV2, keyId, parts.payload] _ hsplit hsignature
    obtain ⟨bytes, rest, hbytes, hfields⟩ := token_fields_unique htext hsplit
    obtain ⟨_, hkeyIds⟩ := List.cons.inj hfields
    obtain ⟨rfl, hpayloads⟩ := List.cons.inj hkeyIds
    obtain ⟨hencoded, _⟩ := List.cons.inj hpayloads
    rw [hencoded, Base64.decode_url_safe_encode] at hpayload
    cases hpayload
    rw [hserde _ _ hbytes] at henvelope
    cases henvelope
    refine ⟨issue, hissue, self.by_codecs issue hissue, hstate, hsubject, ?_, ?_,
      le_saturating_add_iff.1 htime⟩
    · rw [tokenKeyId, hsplit]
      rfl
    · rw [hissuer]
      exact hkey

theorem decoded_of_issued (hserde : serde.RoundTrips) (issue : IssuedToken sha256 serde)
    (hkey : decoder.keyFor issue.codec.keyId = some issue.codec.key)
    (hsize : (asBytes issue.token).length ≤ decoder.maxTokenBytes) {now : UInt64}
    (htime : now.toNat ≤ issue.time.toNat + issue.codec.ttl / 10 ^ 9) :
    decoder.decodeAt sha256 serde issue.token issue.subject now = .ok issue.state := by
  obtain ⟨bytes, hbytes, signed, _, hsigned, hsplit⟩ :=
    RequestStateCodec.split_on_of_encode_at issue.encoded
  refine RequestStateCodec.decode_at_eq_ok.2 ⟨hsize, _,
    RequestStateCodec.parse_of_split_on hsplit hkey, ?_, bytes,
    Base64.decode_url_safe_encode bytes, _, hserde _ _ hbytes,
    le_saturating_add_iff.2 htime, rfl, rfl⟩
  rw [Base64.decode_url_safe_encode, hsigned]

/-- Tokens cannot be forged or repurposed, and those that codecs make are read back: what a codec
accepts was put into a token by a codec whose key it trusts under the token's identifier, for the same
subject and in time; and a token is read by every codec that trusts its key, in time and within the
limit. -/
theorem tokens_authentic (hserde : serde.RoundTrips) (self : Deployment sha256 serde) :
    (∀ token, self.Unforged token → ∀ decoder ∈ self.codecs, ∀ subject now state,
      decoder.decodeAt sha256 serde token subject now = .ok state →
        self.Vouched decoder token subject now state) ∧
    ∀ issue ∈ self.issued, ∀ decoder ∈ self.codecs,
      decoder.keyFor issue.codec.keyId = some issue.codec.key →
        (asBytes issue.token).length ≤ decoder.maxTokenBytes →
          ∀ now : UInt64, now.toNat ≤ issue.time.toNat + issue.codec.ttl / 10 ^ 9 →
            decoder.decodeAt sha256 serde issue.token issue.subject now = .ok issue.state :=
  ⟨fun _ hunforged _ hdecoder _ _ _ h => vouched_of_decoded hserde hunforged hdecoder h,
    fun issue _ _ _ hkey hsize _ htime => decoded_of_issued hserde issue hkey hsize htime⟩

/-! ### A rotation of keys -/

/-- A state as it is written when it is issued at 100 for a minute to `alice`, and no other. -/
def sampleSerde : StateSerde ℕ Unit where
  toVec envelope :=
    if envelope = { issuedAt := 100, expiresAt := 160, subject := some "alice", state := 7 } then
      .ok (asBytes
        "\x7b\"issued_at\":100,\"expires_at\":160,\"subject\":\"alice\",\"state\":7\x7d".toList)
    else .error ()
  fromSlice _ :=
    .ok { issuedAt := 100, expiresAt := 160, subject := some "alice", state := 7 }

/-- The digests of the texts that the sample keys and the sample state lead to. The first byte tells
them apart. -/
def sampleSha256 : Sha256 := fun bytes =>
  match bytes.head? with
  | some 0x57 =>
    #v[220, 224, 90, 221, 149, 30, 114, 5, 168, 137, 121, 57, 104, 18, 137, 79, 22, 137, 175, 134,
      39, 207, 12, 16, 64, 216, 31, 230, 105, 204, 159, 44]
  | some 0x3d =>
    #v[169, 175, 174, 11, 48, 103, 51, 189, 96, 216, 119, 141, 241, 39, 90, 117, 9, 238, 2, 192,
      155, 163, 84, 28, 0, 113, 50, 80, 106, 111, 144, 254]
  | some 0x54 =>
    #v[63, 156, 196, 179, 250, 191, 140, 38, 33, 63, 57, 183, 132, 2, 0, 51, 48, 234, 49, 57, 130,
      101, 162, 26, 203, 50, 131, 194, 136, 238, 100, 1]
  | _ =>
    #v[34, 178, 174, 152, 217, 112, 53, 28, 33, 123, 37, 94, 239, 216, 35, 226, 59, 14, 205, 29,
      200, 204, 19, 51, 137, 228, 163, 210, 212, 39, 47, 48]

def oldKey : List UInt8 := List.replicate 32 0x61

def newKey : List UInt8 := List.replicate 32 0x62

def oldCodec : RequestStateCodec where
  key := oldKey
  keyId := ['a']
  verificationKeys := ∅
  ttl := 60 * 10 ^ 9
  maxTokenBytes := defaultMaxTokenBytes
  strong := by decide
  identified := by decide
  lasting := by decide
  verified := nofun

def newCodec : RequestStateCodec where
  key := newKey
  keyId := ['b']
  verificationKeys := AList.insert ['a'] oldKey ∅
  ttl := 60 * 10 ^ 9
  maxTokenBytes := defaultMaxTokenBytes
  strong := by decide
  identified := by decide
  lasting := by decide
  verified := fun id old h => by
    rw [FinMap.lookup_insert_eq_ite] at h
    split at h
    next heq =>
      cases h
      rw [heq]
      decide
    next => cases h

def samplePayload : List Char :=
  ("eyJpc3N1ZWRfYXQiOjEwMCwiZXhwaXJlc19hdCI6MTYwLCJzdWJqZWN0IjoiYWxpY2UiLCJzdGF0ZSI6N30").toList

def sampleSignature : List Char := "qa-uCzBnM71g2HeN8SdadQnuAsCbo1QcAHEyUGpvkP4".toList

def sampleToken : List Char :=
  RequestStateCodec.signedText [tokenVersionV2, ['a'], samplePayload, sampleSignature]

def rotation : Deployment sampleSha256 sampleSerde where
  codecs := [oldCodec, newCodec]
  issued :=
    [{ codec := oldCodec, subject := some "alice", state := 7, time := 100, token := sampleToken,
       encoded := by decide +kernel }]
  by_codecs := by simp

theorem sample_serde_round_trips : sampleSerde.RoundTrips := by
  intro envelope bytes h
  unfold sampleSerde at h
  dsimp only at h
  split at h
  next heq => rw [heq]; rfl
  next => cases h

theorem sample_token_unforged : rotation.Unforged sampleToken := by
  intro decoder hdecoder keyId key hkey fields signature hsplit hsignature
  have hparts : sampleToken.splitOn '.' =
      [tokenVersionV2, ['a'], samplePayload] ++ [sampleSignature] := by decide +kernel
  obtain ⟨rfl, hlast⟩ := List.append_inj' (hsplit.symm.trans hparts) rfl
  obtain ⟨rfl, -⟩ := List.cons.inj hlast
  have hheld : key = oldKey ∨ key = newKey := by
    simp only [rotation, List.mem_cons, List.not_mem_nil, or_false] at hdecoder
    rcases hdecoder with rfl | rfl
    · unfold RequestStateCodec.keyFor at hkey
      split at hkey
      next => exact Or.inl (Option.some.inj hkey).symm
      next => cases hkey
    · unfold RequestStateCodec.keyFor at hkey
      split at hkey
      next => exact Or.inr (Option.some.inj hkey).symm
      next =>
        rw [newCodec, FinMap.lookup_insert_eq_ite] at hkey
        split at hkey
        next => exact Or.inl (Option.some.inj hkey).symm
        next => cases hkey
  rcases hheld with rfl | rfl
  · exact ⟨_, List.mem_singleton.2 rfl, rfl, by decide +kernel⟩
  · refine absurd hsignature ?_
    decide +kernel

theorem rotated_token_read :
    newCodec.decodeAt sampleSha256 sampleSerde sampleToken (some "alice") 120 = .ok 7 ∧
      rotation.Vouched newCodec sampleToken (some "alice") 120 7 := by
  obtain ⟨hsound, hcomplete⟩ := tokens_authentic sample_serde_round_trips rotation
  have hdecoded := hcomplete _ (List.mem_singleton.2 rfl) newCodec (by simp [rotation])
    (by decide +kernel) (by decide +kernel) 120 (by decide +kernel)
  exact ⟨hdecoded, hsound _ sample_token_unforged newCodec (by simp [rotation]) _ _ _ hdecoded⟩

end Deployment

end TowerMcp
