import TowerMcp.Lib.IpAddress
import TowerMcp.Lib.Segments
import TowerMcp.Types.Text

/-!
# Hosts that are the local one

The check of a `Host` header that guards against DNS rebinding.
-/

namespace TowerMcp.Localhost

open IpAddress Segments

def isValidPort (port : List Char) : Bool :=
  !port.isEmpty && port.all Char.isDigit && (parseDigits port).any fun n => decide (n < 2 ^ 16)

def hostOnly (host : List Char) : Option (List Char) :=
  match host with
  | '[' :: tail =>
    match Segments.splitOnce ']' tail with
    | none => none
    | some (inner, afterBracket) =>
      if afterBracket.isEmpty || (stripPrefix afterBracket [':']).any isValidPort then some inner
      else none
  | _ =>
    match Segments.splitOnce ':' host with
    | some (name, port) => if isValidPort port then some name else none
    | none => some host

/-- `localhost` in either case, with or without the dot of a full name. -/
def isLocalhostName (name : List Char) : Bool :=
  let lower := name.map Char.toLower
  lower == "localhost".toList || lower == "localhost.".toList

def isLocalhostHost (host : List Char) : Bool :=
  match parse host with
  | some ip => ip.isLoopback
  | none =>
    (hostOnly host).any fun name => isLocalhostName name || (parse name).any IpAddr.isLoopback

/-! ## Loopback authorities -/

def IsLoopbackName (name : List Char) : Prop :=
  isLocalhostName name = true ∨
    ∃ octets, parse name = some (.v4 octets) ∧ (IpAddr.v4 octets).isLoopback = true

def IsPort (port : List Char) : Prop :=
  port = [] ∨ ∃ digits, port = ':' :: digits ∧ isValidPort digits = true

def IsLoopbackIpv6 (text : List Char) : Prop :=
  ∃ groups, parse text = some (.v6 groups) ∧ (IpAddr.v6 groups).isLoopback = true

inductive LoopbackAuthority : List Char → Prop
  | named {name port : List Char} (hname : IsLoopbackName name) (hport : IsPort port) :
      LoopbackAuthority (name ++ port)
  | bracketed {inner port : List Char} (hinner : IsLoopbackIpv6 inner) (hport : IsPort port) :
      LoopbackAuthority ('[' :: (inner ++ ']' :: port))

def IsBracketedName (host : List Char) : Prop :=
  ∃ name port, host = '[' :: (name ++ ']' :: port) ∧ IsLoopbackName name ∧ IsPort port

variable {host name port inner : List Char}

theorem mem_localhost_name {c : Char} (h : isLocalhostName name = true) (hc : c ∈ name) :
    c.toLower ∈ "localhost.".toList := by
  have hmem : c.toLower ∈ name.map Char.toLower := List.mem_map_of_mem hc
  rcases Bool.or_eq_true_iff.1 h with heq | heq
  · rw [beq_iff_eq.1 heq] at hmem
    exact List.mem_append_left ['.'] hmem
  · rwa [beq_iff_eq.1 heq] at hmem

theorem head_of_localhost_name (h : isLocalhostName name = true) :
    ∃ c rest, name = c :: rest ∧ c.toLower = 'l' := by
  cases name with
  | nil => cases h
  | cons c rest =>
    refine ⟨c, rest, rfl, ?_⟩
    rcases Bool.or_eq_true_iff.1 h with heq | heq
    · exact (List.cons.inj (beq_iff_eq.1 heq)).1
    · exact (List.cons.inj (beq_iff_eq.1 heq)).1

theorem not_mem_name (h : IsLoopbackName name) : ':' ∉ name ∧ '[' ∉ name := by
  rcases h with hname | ⟨octets, hparse, -⟩
  · exact ⟨fun hmem => absurd (mem_localhost_name hname hmem) (by decide),
      fun hmem => absurd (mem_localhost_name hname hmem) (by decide)⟩
  · have htakes := (takes_of_parse_v4 hparse).1
    exact ⟨htakes.not_mem (by decide), htakes.not_mem (by decide)⟩

theorem parse_localhost_name (h : isLocalhostName name = true) (more : List Char) :
    parse (name ++ more) = none := by
  obtain ⟨c, rest, rfl, hlower⟩ := head_of_localhost_name h
  have hall : ∀ n : Fin 128, (Char.ofNat n.val).toLower = 'l' →
      isDigit 16 (Char.ofNat n.val) = false := by decide +kernel
  refine parse_eq_none_of_head ?_ ?_ _
  · by_cases hascii : c.toNat < 128
    · have hc := hall ⟨c.toNat, hascii⟩
      rw [Char.ofNat_toNat] at hc
      exact hc hlower
    · unfold isDigit digitValue
      simp only [show ¬(48 ≤ c.toNat ∧ c.toNat ≤ 57) by omega,
        show ¬(97 ≤ c.toNat ∧ c.toNat ≤ 102) by omega,
        show ¬(65 ≤ c.toNat ∧ c.toNat ≤ 70) by omega, if_false, Option.any_none]
  · rintro rfl
    exact absurd hlower (by decide)

theorem parse_name_port (h : IsLoopbackName name) (digits : List Char) :
    parse (name ++ ':' :: digits) = none := by
  rcases h with hname | ⟨octets, hparse, -⟩
  · exact parse_localhost_name hname _
  · rw [parse, read_ipv4_append (takes_of_parse_v4 hparse).2]
    exact if_neg (by simp)

theorem host_only_of_ne {c : Char} {rest : List Char} (hhost : host = c :: rest) (hc : c ≠ '[') :
    hostOnly host =
      match Segments.splitOnce ':' host with
      | some (name, port) => if isValidPort port then some name else none
      | none => some host := by
  subst hhost
  unfold hostOnly
  split
  next heq =>
    cases heq
    exact absurd rfl hc
  next => rfl

theorem accepts_name (h : IsLoopbackName name) :
    (isLocalhostName name || (parse name).any IpAddr.isLoopback) = true := by
  rcases h with hname | ⟨octets, hparse, hloopback⟩
  · rw [hname, Bool.true_or]
  · rw [hparse, Option.any_some, hloopback, Bool.or_true]

theorem is_port_iff : (port.isEmpty || (stripPrefix port [':']).any isValidPort) = true ↔
    IsPort port := by
  cases port with
  | nil => simp [IsPort]
  | cons c digits =>
    by_cases hc : c = ':'
    · subst hc
      simp [IsPort, stripPrefix]
    · simp [IsPort, stripPrefix, hc, Ne.symm hc]

theorem accepts_authority (h : LoopbackAuthority host) : isLocalhostHost host = true := by
  unfold isLocalhostHost
  cases h with
  | @named name port hname hport =>
    obtain ⟨c, rest, hcons, hc⟩ : ∃ c rest, name ++ port = c :: rest ∧ c ≠ '[' := by
      cases name with
      | nil =>
        rcases hname with hname | ⟨octets, hparse, -⟩
        · cases hname
        · cases hparse
      | cons c rest =>
        refine ⟨c, rest ++ port, rfl, ?_⟩
        rintro rfl
        exact (not_mem_name hname).2 List.mem_cons_self
    rcases hport with rfl | ⟨digits, rfl, hvalid⟩
    · rw [List.append_nil] at hcons ⊢
      rcases hname with hname | ⟨octets, hparse, hloopback⟩
      · have hnone := parse_localhost_name hname []
        rw [List.append_nil] at hnone
        rw [hnone, host_only_of_ne hcons hc,
          split_once_eq_none (not_mem_name (.inl hname)).1]
        simp [hname]
      · rw [hparse]
        exact hloopback
    · rw [parse_name_port hname, host_only_of_ne hcons hc,
        split_once_append (not_mem_name hname).1]
      simp only [hvalid, if_true, Option.any_some]
      exact accepts_name hname
  | @bracketed inner port hinner hport =>
    obtain ⟨groups, hparse, hloopback⟩ := hinner
    have hbracket : ']' ∉ inner := (takes_of_parse hparse).not_mem (by unfold isAddressChar; decide)
    have hvalid := is_port_iff.2 hport
    rw [parse_eq_none_of_head (by decide) (by decide), hostOnly, split_once_append hbracket]
    simp [hvalid, hparse, hloopback]

theorem loopback_of_accepts
    (h : (isLocalhostName name || (parse name).any IpAddr.isLoopback) = true) :
    IsLoopbackName name ∨ IsLoopbackIpv6 name := by
  rcases Bool.or_eq_true_iff.1 h with hname | hany
  · exact .inl (.inl hname)
  · obtain ⟨address, haddress, hloopback⟩ := (Option.any_eq_true _ _).1 hany
    cases address with
    | v4 octets => exact .inl (.inr ⟨octets, haddress, hloopback⟩)
    | v6 groups => exact .inr ⟨groups, haddress, hloopback⟩

theorem authority_of_accepts (h : isLocalhostHost host = true) :
    LoopbackAuthority host ∨ IsLoopbackIpv6 host ∨ IsBracketedName host := by
  have hwhole (hname : IsLoopbackName host) : LoopbackAuthority host := by
    have hnamed := LoopbackAuthority.named hname (.inl rfl)
    rwa [List.append_nil] at hnamed
  unfold isLocalhostHost at h
  cases hparse : parse host with
  | some address =>
    rw [hparse] at h
    cases address with
    | v4 octets => exact .inl (hwhole (.inr ⟨octets, hparse, h⟩))
    | v6 groups => exact .inr (.inl ⟨groups, hparse, h⟩)
  | none =>
    rw [hparse] at h
    obtain ⟨name, hname, haccepts⟩ := (Option.any_eq_true _ _).1 h
    have hjudged := loopback_of_accepts haccepts
    cases host with
    | nil =>
      cases hname
      exact .inl (hwhole (hjudged.resolve_right fun ⟨groups, hgroups, _⟩ => by cases hgroups))
    | cons c rest =>
      by_cases hc : c = '['
      · subst hc
        by_cases hclose : ']' ∈ rest
        · obtain ⟨inner, after, rfl, hinner⟩ := List.eq_append_cons_of_mem hclose
          rw [hostOnly, split_once_append hinner] at hname
          dsimp only at hname
          split at hname
          next hport =>
            cases hname
            rcases hjudged with hloopback | hloopback
            · exact .inr (.inr ⟨name, after, rfl, hloopback, is_port_iff.1 hport⟩)
            · exact .inl (.bracketed hloopback (is_port_iff.1 hport))
          next => cases hname
        · rw [hostOnly, split_once_eq_none hclose] at hname
          cases hname
      · rw [host_only_of_ne rfl hc] at hname
        by_cases hcolon : ':' ∈ c :: rest
        · obtain ⟨before, port, hhost, hbefore⟩ := List.eq_append_cons_of_mem hcolon
          rw [hhost, split_once_append hbefore] at hname
          dsimp only at hname
          split at hname
          next hport =>
            cases hname
            rcases hjudged with hloopback | ⟨groups, hgroups, -⟩
            · rw [hhost]
              exact .inl (.named hloopback (.inr ⟨port, rfl, hport⟩))
            · exact absurd hgroups (ne_v6_of_not_mem hbefore groups)
          next => cases hname
        · rw [split_once_eq_none hcolon] at hname
          cases hname
          refine .inl (hwhole (hjudged.resolve_right ?_))
          rintro ⟨groups, hgroups, -⟩
          rw [hparse] at hgroups
          cases hgroups

/-- A host that is no name or four numbers in brackets is accepted exactly when it is an authority of
the local host or its IPv6 address alone. -/
theorem is_localhost_host_iff (host : List Char) (h : ¬IsBracketedName host) :
    isLocalhostHost host = true ↔ LoopbackAuthority host ∨ IsLoopbackIpv6 host := by
  constructor
  · intro haccepts
    rcases authority_of_accepts haccepts with hauthority | hbare | hbracketed
    · exact .inl hauthority
    · exact .inr hbare
    · exact absurd hbracketed h
  · rintro (hauthority | ⟨groups, hparse, hloopback⟩)
    · exact accepts_authority hauthority
    · rw [isLocalhostHost, hparse]
      exact hloopback

theorem localhost_with_port_accepted :
    isLocalhostHost "localhost:3000".toList = true ↔
      LoopbackAuthority "localhost:3000".toList ∨ IsLoopbackIpv6 "localhost:3000".toList := by
  refine is_localhost_host_iff _ ?_
  rintro ⟨name, port, hhost, -⟩
  exact absurd (List.cons.inj hhost).1 (by decide)

/-- An IPv6 address alone is accepted, which is no authority. -/
theorem bare_address_accepted :
    ¬∀ host : List Char, isLocalhostHost host = true ↔ LoopbackAuthority host := by
  intro h
  have hauthority := (h "::1".toList).1 (by decide +kernel)
  generalize hhost : "::1".toList = host at hauthority
  cases hauthority with
  | @named name port hname hport =>
    cases name with
    | nil =>
      rcases hname with hname | ⟨octets, hparse, -⟩
      · cases hname
      · cases hparse
    | cons c rest =>
      have hc := (List.cons.inj hhost).1
      exact (not_mem_name hname).1 (hc ▸ List.mem_cons_self)
  | @bracketed inner port hinner hport => exact absurd (List.cons.inj hhost).1 (by decide)

end TowerMcp.Localhost
