import TowerMcp.Transport.HttpHeaders

/-!
# Wrapped values whose marks overlap

The mark that a wrapped value starts with and the one it ends with are looked for apart from each
other. In one text they share a character, and what should lie between them is cut out with its end
before its start.
-/

namespace TowerMcp

open Fallible

variable (engine : Base64Engine) (render : Rendering)

def overlap : String := "=?base64?="

def IsOverlap (raw : String) : Prop :=
  raw.toList.all isVisible = true ∧ trimString raw = overlap

def OverlapHeader (headers : HeaderMap) (name : String) : Prop :=
  ∃ raw, headers.getAll name = [raw] ∧ IsOverlap raw

/-- The header of an annotated argument has a value whose marks overlap, and the argument is there. -/
def OverlapArgument (headers : HeaderMap) (arguments : Json) (mapping : CustomHeaderMapping) :
    Prop :=
  ∃ name, headerName (mcpParamHeaderPrefix ++ mapping.suffix) = some name ∧
    OverlapHeader headers name ∧
    ((valueAtPropertyPath arguments mapping.propertyPath).filter fun value => !value.isNull).isSome

def paramSuffix (name : String) : Option String :=
  ((stripPrefix name.toList mcpParamHeaderPrefix.toList).filter fun suffix => suffix ≠ []).map
    String.ofList

def seenSuffixes (headers : HeaderMap) : List String :=
  headers.filterMap fun header => (paramSuffix header.1).map toAsciiLowercase

/-- Without a schema, the first header of some argument has a value whose marks overlap, and the
headers before it pass. -/
def OverlapParam (headers : HeaderMap) (parsed : Json) (mode : Sep2243Mode) : Prop :=
  ∃ before name raw suffix after, headers = before ++ (name, raw) :: after ∧
    validateParamHeaders engine render parsed mode [] before = .ok () ∧
    paramSuffix name = some suffix ∧ toAsciiLowercase suffix ∉ seenSuffixes before ∧
    IsOverlap raw

/-- A validation comes to a header whose value has overlapping marks: the header of the method, that
of the name once the first passes, or that of an argument once those before it pass. -/
def ReachesOverlap (headers : HeaderMap) (parsed : Json) (mode : Sep2243Mode)
    (toolInputSchema : Option Json) : Prop :=
  OverlapHeader headers mcpMethodHeader ∨
    validateMethod engine render headers parsed mode = .ok () ∧
      (OverlapHeader headers mcpNameHeader ∨
        validateName engine render headers parsed mode = .ok () ∧
          match toolInputSchema with
          | some schema =>
            ∃ mappings before mapping after,
              serverHeaderMappings render schema = .ok mappings ∧
              mappings = before ++ mapping :: after ∧
              checkMappings engine render headers mode (callArguments parsed) before = .ok () ∧
              OverlapArgument headers (callArguments parsed) mapping
          | none => OverlapParam engine render headers parsed mode)

/-! ## Where the marks overlap -/

theorem wrapped_body_eq_none_iff {value : String} (hlooks : looksWrapped value = true) :
    wrappedBody value = none ↔ value = overlap := by
  obtain ⟨hfront, hend⟩ := Bool.and_eq_true_iff.1 hlooks
  obtain ⟨rest, hrest⟩ := List.isPrefixOf_iff_prefix.1 hfront
  have hmarks : base64Prefix.length + base64Suffix.length = 11 := rfl
  constructor
  · intro hnone
    have hshort : value.toList.length < 11 := by
      by_contra hlong
      rw [wrappedBody, if_neg (by omega)] at hnone
      cases hnone
    have hfrontLength : base64Prefix.length = 9 := rfl
    rw [← hrest, List.length_append, hfrontLength] at hshort
    rw [← hrest] at hend
    match rest with
    | [] => exact absurd hend (by decide)
    | [c] =>
      have hlast : c = '=' := by
        obtain ⟨_, hsuffix⟩ := List.isSuffixOf_iff_suffix.1 hend
        have hlasts := congrArg List.getLast? hsuffix
        simpa [base64Suffix] using hlasts.symm
      refine String.toList_inj.1 ?_
      rw [← hrest, hlast]
      rfl
    | _ :: _ :: _ =>
      simp only [List.length_cons] at hshort
      omega
  · rintro rfl
    rfl

theorem decode_sentinel_panics_iff {describe : String → String} {value : String} :
    decodeSentinel engine render describe value = .error .panicked ↔ value = overlap := by
  constructor
  · intro h
    unfold decodeSentinel at h
    split at h
    next hlooks =>
      split at h
      next hnone => exact (wrapped_body_eq_none_iff hlooks).1 hnone
      next body hbody =>
        split at h
        next => cases h
        next bytes hbytes => split at h <;> cases h
    next => cases h
  · rintro rfl
    rfl

variable {name raw : String}

theorem decode_raw_panics_iff :
    decodeRaw engine render name raw = .error .panicked ↔ IsOverlap raw := by
  unfold decodeRaw headerValueText IsOverlap
  by_cases hvisible : raw.toList.all isVisible = true
  · rw [if_pos hvisible]
    simp only [hvisible, true_and]
    exact decode_sentinel_panics_iff engine render
  · rw [if_neg hvisible]
    simp [hvisible, headerMismatch]

theorem header_str_panics_iff {headers : HeaderMap} :
    headerStr engine render headers name = .error .panicked ↔ OverlapHeader headers name := by
  unfold headerStr OverlapHeader
  split
  next hnone => simp [hnone]
  next raw hraw =>
    simp only [hraw, List.cons.injEq, and_true, exists_eq_left']
    rw [← decode_raw_panics_iff engine render]
    cases decodeRaw engine render name raw <;> simp [Except.map]
  next hnil hone =>
    simp only [headerMismatch, Except.error.injEq, reduceCtorEq, false_iff]
    rintro ⟨raw, hraw, -⟩
    exact hone raw hraw

/-! ## Where a validation decodes a header -/

variable {engine render} {headers : HeaderMap} {parsed : Json} {mode : Sep2243Mode}

theorem check_method_ne_panicked {header body : Option String} :
    checkMethod render mode header body ≠ .error .panicked := by
  unfold checkMethod
  split
  · split <;> nofun
  · split <;> nofun
  · nofun

theorem check_name_ne_panicked {method : String} {header body : Option String} :
    checkName render mode method header body ≠ .error .panicked := by
  unfold checkName
  split
  · split <;> nofun
  · split <;> nofun
  · nofun
  · nofun

theorem validate_method_panics_iff :
    validateMethod engine render headers parsed mode = .error .panicked ↔
      OverlapHeader headers mcpMethodHeader := by
  unfold validateMethod
  rw [bind_eq_error, header_str_panics_iff]
  refine or_iff_left ?_
  rintro ⟨header, -, hcheck⟩
  exact check_method_ne_panicked hcheck

theorem validate_name_panics_iff :
    validateName engine render headers parsed mode = .error .panicked ↔
      OverlapHeader headers mcpNameHeader := by
  unfold validateName
  rw [bind_eq_error, header_str_panics_iff]
  refine or_iff_left ?_
  rintro ⟨header, -, hcheck⟩
  split at hcheck
  · exact check_name_ne_panicked hcheck
  · cases hcheck

theorem check_mirror_panics_iff {value : Json} :
    checkMirror engine render name raw value = .error .panicked ↔ IsOverlap raw := by
  unfold checkMirror
  rw [bind_eq_error, decode_raw_panics_iff]
  refine or_iff_left ?_
  rintro ⟨decoded, -, hcheck⟩
  split at hcheck
  · cases hcheck
  · split at hcheck <;> cases hcheck

theorem check_mapping_panics_iff {arguments : Json} {mapping : CustomHeaderMapping} :
    checkMapping engine render headers mode arguments mapping = .error .panicked ↔
      OverlapArgument headers arguments mapping := by
  unfold checkMapping OverlapArgument OverlapHeader
  simp only
  split
  next hname => simp [hname, headerMismatch]
  next name hname =>
    simp only [hname, Option.some.injEq, exists_eq_left']
    split
    next hvalues hbody =>
      rw [hvalues]
      split <;> simp [headerMismatch]
    next hvalues hbody => simp [hvalues]
    next hvalues hbody => simp [hvalues, hbody, headerMismatch]
    next raw value hvalues hbody =>
      rw [check_mirror_panics_iff, hvalues, hbody]
      simp
    next hnil hnone hone hsome =>
      simp only [headerMismatch, Except.error.injEq, reduceCtorEq, false_iff]
      rintro ⟨⟨raw, hraw, -⟩, hbody⟩
      obtain ⟨value, hvalue⟩ := Option.isSome_iff_exists.1 hbody
      exact hsome raw value hraw hvalue

theorem check_mappings_panics_iff {arguments : Json} {mappings : List CustomHeaderMapping} :
    checkMappings engine render headers mode arguments mappings = .error .panicked ↔
      ∃ before mapping after, mappings = before ++ mapping :: after ∧
        checkMappings engine render headers mode arguments before = .ok () ∧
        OverlapArgument headers arguments mapping := by
  induction mappings with
  | nil => simp [checkMappings]
  | cons first rest ih =>
    rw [checkMappings, bind_eq_error, check_mapping_panics_iff]
    constructor
    · rintro (hfirst | ⟨_, hfirst, hrest⟩)
      · exact ⟨[], first, rest, rfl, rfl, hfirst⟩
      · obtain ⟨before, mapping, after, rfl, hbefore, hmapping⟩ := ih.1 hrest
        refine ⟨first :: before, mapping, after, rfl, ?_, hmapping⟩
        rw [checkMappings, hfirst]
        exact hbefore
    · rintro ⟨before, mapping, after, hsplit, hbefore, hmapping⟩
      cases before with
      | nil =>
        obtain ⟨rfl, rfl⟩ := List.cons.inj hsplit
        exact .inl hmapping
      | cons head tail =>
        obtain ⟨rfl, rfl⟩ := List.cons.inj hsplit
        rw [checkMappings] at hbefore
        obtain ⟨_, hfirst, htail⟩ := bind_eq_ok.1 hbefore
        exact .inr ⟨(), hfirst, ih.2 ⟨tail, mapping, after, rfl, htail, hmapping⟩⟩

theorem check_param_header_panics_iff {suffix : String} :
    checkParamHeader engine render parsed mode name raw suffix = .error .panicked ↔
      IsOverlap raw := by
  unfold checkParamHeader
  split
  · exact check_mirror_panics_iff
  · rw [bind_eq_error, decode_raw_panics_iff]
    refine or_iff_left ?_
    rintro ⟨decoded, -, hcheck⟩
    split at hcheck <;> cases hcheck

variable {seen : List String} {header : String × String} {rest : HeaderMap}

theorem validate_param_headers_skip
    (h : stripPrefix header.1.toList mcpParamHeaderPrefix.toList = none) :
    validateParamHeaders engine render parsed mode seen (header :: rest) =
      validateParamHeaders engine render parsed mode seen rest := by
  rw [validateParamHeaders, h]

theorem validate_param_headers_take {suffix : String} (h : paramSuffix header.1 = some suffix) :
    validateParamHeaders engine render parsed mode seen (header :: rest) =
      if toAsciiLowercase suffix ∈ seen then
        .error (headerMismatch ("duplicate Mcp-Param-* header: " ++ render.debug suffix ++
          " (case-insensitive)"))
      else
        checkParamHeader engine render parsed mode ("Mcp-Param-" ++ suffix) header.2 suffix >>=
          fun _ => validateParamHeaders engine render parsed mode
            (seen ++ [toAsciiLowercase suffix]) rest := by
  obtain ⟨text, htext, rfl⟩ := Option.map_eq_some_iff.1 h
  obtain ⟨hstrip, hne⟩ := Option.filter_eq_some_iff.1 htext
  rw [validateParamHeaders, hstrip]
  cases text with
  | nil => simp at hne
  | cons c rest => rfl

theorem validate_param_headers_empty
    (h : stripPrefix header.1.toList mcpParamHeaderPrefix.toList = some []) :
    validateParamHeaders engine render parsed mode seen (header :: rest) =
      .error (headerMismatch "Mcp-Param- header has empty suffix") := by
  rw [validateParamHeaders, h]

theorem param_name_cases (name : String) :
    stripPrefix name.toList mcpParamHeaderPrefix.toList = none ∧ paramSuffix name = none ∨
      stripPrefix name.toList mcpParamHeaderPrefix.toList = some [] ∧ paramSuffix name = none ∨
      ∃ suffix, paramSuffix name = some suffix := by
  unfold paramSuffix
  cases stripPrefix name.toList mcpParamHeaderPrefix.toList with
  | none => exact .inl ⟨rfl, rfl⟩
  | some text =>
    cases text with
    | nil => exact .inr (.inl ⟨rfl, rfl⟩)
    | cons c rest => exact .inr (.inr ⟨_, rfl⟩)

theorem validate_param_headers_panics_iff :
    validateParamHeaders engine render parsed mode seen headers = .error .panicked ↔
      ∃ before name raw suffix after, headers = before ++ (name, raw) :: after ∧
        validateParamHeaders engine render parsed mode seen before = .ok () ∧
        paramSuffix name = some suffix ∧
        toAsciiLowercase suffix ∉ seen ++ seenSuffixes before ∧ IsOverlap raw := by
  induction headers generalizing seen with
  | nil => simp [validateParamHeaders]
  | cons header rest ih =>
    rcases param_name_cases header.1 with ⟨hnone, hskip⟩ | ⟨hempty, hskip⟩ | ⟨suffix, hsuffix⟩
    · rw [validate_param_headers_skip hnone, ih]
      constructor
      · rintro ⟨before, name, raw, suffix, after, rfl, hbefore, hname, hnew, hraw⟩
        refine ⟨header :: before, name, raw, suffix, after, rfl, ?_, hname, ?_, hraw⟩
        · rw [validate_param_headers_skip hnone]
          exact hbefore
        · simpa [seenSuffixes, hskip] using hnew
      · rintro ⟨before, name, raw, suffix, after, hsplit, hbefore, hname, hnew, hraw⟩
        cases before with
        | nil =>
          obtain ⟨rfl, rfl⟩ := List.cons.inj hsplit
          exact absurd (hskip.symm.trans hname) nofun
        | cons head tail =>
          obtain ⟨rfl, rfl⟩ := List.cons.inj hsplit
          rw [validate_param_headers_skip hnone] at hbefore
          refine ⟨tail, name, raw, suffix, after, rfl, hbefore, hname, ?_, hraw⟩
          simpa [seenSuffixes, hskip] using hnew
    · rw [validate_param_headers_empty hempty]
      simp only [headerMismatch, Except.error.injEq, reduceCtorEq, false_iff]
      rintro ⟨before, name, raw, suffix, after, hsplit, hbefore, hname, -, -⟩
      cases before with
      | nil =>
        obtain ⟨rfl, rfl⟩ := List.cons.inj hsplit
        exact absurd (hskip.symm.trans hname) nofun
      | cons head tail =>
        obtain ⟨rfl, rfl⟩ := List.cons.inj hsplit
        rw [validate_param_headers_empty hempty] at hbefore
        cases hbefore
    · rw [validate_param_headers_take hsuffix]
      have hseen (tail : HeaderMap) : seen ++ seenSuffixes (header :: tail) =
          seen ++ [toAsciiLowercase suffix] ++ seenSuffixes tail := by
        simp [seenSuffixes, hsuffix]
      constructor
      · intro h
        split at h
        next => cases h
        next hfresh =>
          rcases bind_eq_error.1 h with hcheck | ⟨_, hcheck, hrest⟩
          · refine ⟨[], header.1, header.2, suffix, rest, rfl, rfl, hsuffix, ?_,
              check_param_header_panics_iff.1 hcheck⟩
            simpa [seenSuffixes] using hfresh
          · obtain ⟨before, name, raw, other, after, rfl, hbefore, hname, hnew, hraw⟩ :=
              ih.1 hrest
            refine ⟨header :: before, name, raw, other, after, rfl, ?_, hname, ?_, hraw⟩
            · rw [validate_param_headers_take hsuffix, if_neg hfresh, hcheck]
              exact hbefore
            · rw [hseen]
              exact hnew
      · rintro ⟨before, name, raw, other, after, hsplit, hbefore, hname, hnew, hraw⟩
        cases before with
        | nil =>
          obtain ⟨rfl, rfl⟩ := List.cons.inj hsplit
          obtain rfl := Option.some.inj (hsuffix.symm.trans hname)
          have hfresh : toAsciiLowercase suffix ∉ seen := by
            simpa [seenSuffixes] using hnew
          rw [if_neg hfresh]
          exact bind_eq_error.2 (.inl (check_param_header_panics_iff.2 hraw))
        | cons head tail =>
          obtain ⟨rfl, rfl⟩ := List.cons.inj hsplit
          rw [hseen] at hnew
          rw [validate_param_headers_take hsuffix] at hbefore
          split at hbefore
          next => cases hbefore
          next hfresh =>
            obtain ⟨_, hcheck, htail⟩ := bind_eq_ok.1 hbefore
            rw [if_neg hfresh]
            exact bind_eq_error.2 (.inr ⟨(), hcheck,
              ih.2 ⟨tail, name, raw, other, after, rfl, htail, hname, hnew, hraw⟩⟩)

/-! ## Validations -/

theorem server_header_mappings_ne_panicked {schema : Json} :
    serverHeaderMappings render schema ≠ .error .panicked := by
  unfold serverHeaderMappings
  cases collectMappings schema <;> nofun

/-- A value is decoded, or refused with an error, unless it is the text whose marks overlap; and a
validation returns unless it comes to a header with that value. -/
theorem header_checks_panic_iff (engine : Base64Engine) (render : Rendering) :
    (∀ describe value, decodeSentinel engine render describe value ≠ .error .panicked ↔
        value ≠ overlap) ∧
      ∀ headers parsed mode toolInputSchema,
        validateWithToolSchema engine render headers parsed mode toolInputSchema ≠
            .error .panicked ↔
          ¬ ReachesOverlap engine render headers parsed mode toolInputSchema := by
  refine ⟨fun _ _ => not_congr (decode_sentinel_panics_iff engine render), ?_⟩
  intro headers parsed mode toolInputSchema
  refine not_congr ?_
  unfold validateWithToolSchema ReachesOverlap
  rw [bind_eq_error, validate_method_panics_iff]
  refine or_congr_right ?_
  have hunit (outcome : Except HeaderFailure Unit) (rest : Prop) :
      (∃ a, outcome = .ok a ∧ rest) ↔ outcome = .ok () ∧ rest :=
    ⟨fun ⟨_, h, hrest⟩ => ⟨h, hrest⟩, fun ⟨h, hrest⟩ => ⟨(), h, hrest⟩⟩
  rw [hunit, bind_eq_error, validate_name_panics_iff, hunit]
  refine and_congr_right fun _ => or_congr_right (and_congr_right fun _ => ?_)
  cases toolInputSchema with
  | none =>
    refine validate_param_headers_panics_iff.trans ?_
    simp only [OverlapParam, List.nil_append]
  | some schema =>
    simp only [validateSchemaParamHeaders]
    rw [bind_eq_error]
    constructor
    · rintro (hschema | ⟨mappings, hmappings, hchecks⟩)
      · exact absurd hschema server_header_mappings_ne_panicked
      · obtain ⟨before, mapping, after, hsplit, hbefore, hmapping⟩ :=
          check_mappings_panics_iff.1 hchecks
        exact ⟨mappings, before, mapping, after, hmappings, hsplit, hbefore, hmapping⟩
    · rintro ⟨mappings, before, mapping, after, hmappings, hsplit, hbefore, hmapping⟩
      exact .inr ⟨mappings, hmappings,
        check_mappings_panics_iff.2 ⟨before, mapping, after, hsplit, hbefore, hmapping⟩⟩

/-- A request whose method header is the text whose marks overlap gets no answer. -/
theorem overlapping_marks_panic :
    decodeSentinel .standard ⟨id, fun _ => ""⟩ id "=?base64?=" = .error .panicked ∧
      validateWithToolSchema .standard ⟨id, fun _ => ""⟩ [("mcp-method", "=?base64?=")]
        (.object [("jsonrpc", .string "2.0"), ("id", .number (.posInt 1)),
          ("method", .string "ping")]) .strict none = .error .panicked := by
  refine ⟨(decode_sentinel_panics_iff _ _).2 rfl, ?_⟩
  refine bind_eq_error.2 (.inl (validate_method_panics_iff.2 ?_))
  exact ⟨"=?base64?=", by decide, by decide, by decide⟩

end TowerMcp
