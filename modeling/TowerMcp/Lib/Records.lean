import TowerMcp.Lib.Json

/-!
# Records in JSON

How derived readers and writers treat a record: each member is read from the value under its key, if
there is one, other keys are ignored, and what is written again are the members in the order of the
record. A type is known here by its rewriting, which reads a value and writes it again, and by the
values it writes.

`rewrite_eq_self_iff` says when an object is reproduced by a record, `rewrite_of_missing` that one
is refused for want of a member, and `get_of_rewrite` what the rewriting has under each key.
-/

namespace Record

/-! ## Types and members -/

/-- A type that is read from JSON and written to it. It can read what it writes. -/
structure WireType where
  rewrite : Json → Option Json
  Writes : Json → Prop
  reads : ∀ {value : Json}, Writes value → (rewrite value).isSome = true

namespace WireType

/-- A string. -/
def string : WireType where
  rewrite
    | .string text => some (.string text)
    | _ => none
  Writes value := ∃ text, value = .string text
  reads := by
    rintro _ ⟨text, rfl⟩
    rfl

/-- One of some strings. -/
def oneOf (names : List String) : WireType where
  rewrite
    | .string text => if text ∈ names then some (.string text) else none
    | _ => none
  Writes value := ∃ text ∈ names, value = .string text
  reads := by
    rintro _ ⟨text, hmem, rfl⟩
    simp [hmem]

/-- An unsigned 64-bit integer. -/
def unsigned : WireType where
  rewrite
    | .number (.posInt n) => if n < 2 ^ 64 then some (.number (.posInt n)) else none
    | _ => none
  Writes value := ∃ n < 2 ^ 64, value = .number (.posInt n)
  reads := by
    rintro _ ⟨n, hbound, rfl⟩
    simp only [if_pos hbound, Option.isSome_some]

/-- An object of any members. -/
def map : WireType where
  rewrite
    | .object members => some (.object members)
    | _ => none
  Writes value := ∃ members, value = .object members
  reads := by
    rintro _ ⟨members, rfl⟩
    rfl

end WireType

/-- A member of a record. Reading takes the value under the key, if there is one, and refuses the
record or gives the value that is written again, if any is. -/
structure Field where
  key : String
  rewrite : Option Json → Option (Option Json)
  Writes : Option Json → Prop
  reads : ∀ {member : Option Json}, Writes member → (rewrite member).isSome = true

namespace Field

/-- A member that has to be there. -/
def required (key : String) (type : WireType) : Field where
  key := key
  rewrite
    | none => none
    | some value => (type.rewrite value).map some
  Writes member := ∃ value, member = some value ∧ type.Writes value
  reads := by
    rintro _ ⟨value, rfl, hwrites⟩
    simpa using type.reads hwrites

/-- A member that may be missing or `null`, and then is not written. -/
def optional (key : String) (type : WireType) : Field where
  key := key
  rewrite
    | none | some .null => some none
    | some value => (type.rewrite value).map some
  Writes member := member = none ∨ ∃ value, member = some value ∧ value ≠ .null ∧ type.Writes value
  reads := by
    rintro _ (rfl | ⟨value, rfl, hnull, hwrites⟩)
    · rfl
    · have hreads := type.reads hwrites
      cases value with
      | null => exact absurd rfl hnull
      | bool | number | string | array | object => simpa using hreads

/-- A member that may be missing or `null`, and then is written as `null`. -/
def nullable (key : String) (type : WireType) : Field where
  key := key
  rewrite
    | none | some .null => some (some .null)
    | some value => (type.rewrite value).map some
  Writes member := ∃ value, member = some value ∧ (value = .null ∨ type.Writes value)
  reads := by
    rintro _ ⟨value, rfl, hwrites⟩
    cases value with
    | null => rfl
    | bool | number | string | array | object =>
      simpa using type.reads (hwrites.resolve_left nofun)

/-- A truth value that is missing when it is false, and then is not written. -/
def flag (key : String) : Field where
  key := key
  rewrite
    | none | some (.bool false) => some none
    | some (.bool true) => some (some (.bool true))
    | some _ => none
  Writes member := member = none ∨ member = some (.bool true)
  reads := by
    rintro _ (rfl | rfl) <;> rfl

/-- A value of any kind that may be missing. A `null` is a value. -/
def verbatim (key : String) : Field where
  key := key
  rewrite := some
  Writes _ := True
  reads _ := rfl

/-- A member that may be missing, and is dropped when it cannot be read. -/
def lenient (key : String) (type : WireType) : Field where
  key := key
  rewrite
    | none => some none
    | some value => some (type.rewrite value)
  Writes member := member = none ∨ ∃ value, member = some value ∧ type.Writes value
  reads := by
    rintro _ (rfl | ⟨value, rfl, -⟩) <;> rfl

/-- A member that may be missing or `null`. It has to be an object, and those of its members whose
keys are not accepted are dropped before it is read. Only accepted keys are written. -/
def filtered (key : String) (accepts : String → Bool) (type : WireType) : Field where
  key := key
  rewrite
    | none | some .null => some none
    | some (.object members) =>
      (type.rewrite (.object (members.filter fun member => accepts member.1))).map some
    | some _ => none
  Writes member := member = none ∨ ∃ members, member = some (.object members) ∧
    (∀ member ∈ members, accepts member.1 = true) ∧ type.Writes (.object members)
  reads := by
    rintro _ (rfl | ⟨members, rfl, haccepts, hwrites⟩)
    · rfl
    · have hall : members.filter (fun member => accepts member.1) = members :=
        List.filter_eq_self.2 haccepts
      simp only [hall, Option.isSome_map]
      exact type.reads hwrites

/-- A text that tells a record apart: one of those allowed, with a default when it may be missing.
-/
def tag (key : String) (default : Option String) (allowed : String → Bool) : Field where
  key := key
  rewrite
    | none => default.map fun text => some (.string text)
    | some (.string text) => if allowed text then some (some (.string text)) else none
    | some _ => none
  Writes member := ∃ text, allowed text = true ∧ member = some (.string text)
  reads := by
    rintro _ ⟨text, hallowed, rfl⟩
    simp [hallowed]

theorem optional_reads_iff (key : String) (type : WireType) (member : Option Json) :
    ((optional key type).rewrite member).isSome = true ↔
      ∀ value, member = some value → value = .null ∨ (type.rewrite value).isSome = true := by
  rcases member with _ | (_ | _ | _ | _ | _ | _) <;> simp [optional]

theorem tag_reads_iff (key default : String) (allowed : String → Bool) (member : Option Json) :
    ((tag key (some default) allowed).rewrite member).isSome = true ↔
      member = none ∨ ∃ text, allowed text = true ∧ member = some (.string text) := by
  rcases member with _ | (_ | _ | _ | _ | _ | _) <;> simp [tag]

theorem filtered_map_reads_iff (key : String) (accepts : String → Bool) (member : Option Json) :
    ((filtered key accepts .map).rewrite member).isSome = true ↔
      ∀ value, member = some value → value = .null ∨ ∃ entries, value = .object entries := by
  rcases member with _ | (_ | _ | _ | _ | _ | _) <;> simp [filtered, WireType.map]

end Field

/-! ## Records -/

/-- The members that are written again for a value. -/
def rewriteMembers (value : Json) : List Field → Option (List (String × Json))
  | [] => some []
  | field :: rest => do
    let written ← field.rewrite (value.get field.key)
    let others ← rewriteMembers value rest
    return written.toList.map (Prod.mk field.key) ++ others

/-- What an object is written as once it is read as a record. -/
def rewrite (fields : List Field) (value : Json) : Option Json :=
  match value with
  | .object _ => (rewriteMembers value fields).map .object
  | _ => none

/-- The members that a record writes. -/
inductive Written : List Field → List (String × Json) → Prop
  | nil : Written [] []
  | omitted {field : Field} {rest : List Field} {members : List (String × Json)}
      (hwrites : field.Writes none) (hrest : Written rest members) :
      Written (field :: rest) members
  | written {field : Field} {rest : List Field} {members : List (String × Json)} {value : Json}
      (hwrites : field.Writes (some value)) (hrest : Written rest members) :
      Written (field :: rest) ((field.key, value) :: members)

section

variable {fields : List Field} {field : Field} {members : List (String × Json)}
  {value result : Json}
  {key : String}

theorem get_cons (first : String) (item : Json) (members : List (String × Json)) (key : String) :
    (Json.object ((first, item) :: members)).get key =
      if first = key then some item else (Json.object members).get key := by
  by_cases hkey : first = key <;> simp [Json.get, hkey]

theorem key_ne_of_not_mem {first : Field} (hfirst : first.key ∉ fields.map Field.key) :
    ∀ field ∈ fields, field.key ≠ first.key := by
  intro other hmem heq
  exact hfirst (heq ▸ List.mem_map_of_mem hmem)

theorem get_eq_none (hkey : key ∉ members.map Prod.fst) :
    (Json.object members).get key = none := by
  induction members with
  | nil => rfl
  | cons first rest ih =>
    obtain ⟨hfirst, hrest⟩ := not_or.1 (mt List.mem_cons.2 hkey)
    rw [get_cons, if_neg (Ne.symm hfirst)]
    exact ih hrest

theorem keys_of_written (h : Written fields members) :
    (members.map Prod.fst).Sublist (fields.map Field.key) := by
  induction h with
  | nil => exact List.Sublist.slnil
  | omitted hwrites hrest ih => exact ih.cons _
  | written hwrites hrest ih => exact ih.cons_cons _

theorem get_of_not_key (h : Written fields members) (hkey : key ∉ fields.map Field.key) :
    (Json.object members).get key = none :=
  get_eq_none fun hmem => hkey ((keys_of_written h).subset hmem)

theorem writes_of_written (h : Written fields members) (hkeys : (fields.map Field.key).Nodup)
    (hmem : field ∈ fields) : field.Writes ((Json.object members).get field.key) := by
  induction h with
  | nil => cases hmem
  | @omitted first rest members hwrites hrest ih =>
    obtain ⟨hfirst, hkeys⟩ := List.nodup_cons.1 hkeys
    rcases List.mem_cons.1 hmem with rfl | hmem
    · rw [get_of_not_key hrest hfirst]
      exact hwrites
    · exact ih hkeys hmem
  | @written first rest members value hwrites hrest ih =>
    obtain ⟨hfirst, hkeys⟩ := List.nodup_cons.1 hkeys
    rw [get_cons]
    rcases List.mem_cons.1 hmem with rfl | hmem
    · rw [if_pos rfl]
      exact hwrites
    · rw [if_neg (key_ne_of_not_mem hfirst field hmem).symm]
      exact ih hkeys hmem

theorem rewrite_of_missing (hmem : field ∈ fields)
    (h : field.rewrite (value.get field.key) = none) :
    rewrite fields value = none := by
  have hmembers : rewriteMembers value fields = none := by
    induction fields with
    | nil => cases hmem
    | cons first rest ih =>
      simp only [rewriteMembers]
      rcases List.mem_cons.1 hmem with rfl | hmem
      · rw [h]
        rfl
      · rw [ih hmem]
        cases first.rewrite (value.get first.key) <;> rfl
  unfold rewrite
  split
  next => rw [hmembers, Option.map_none]
  next => rfl

theorem rewrite_is_some (members : List (String × Json))
    (h : ∀ field ∈ fields, (field.rewrite ((Json.object members).get field.key)).isSome = true) :
    (rewrite fields (.object members)).isSome = true := by
  have hmembers : (rewriteMembers (.object members) fields).isSome = true := by
    induction fields with
    | nil => rfl
    | cons first rest ih =>
      obtain ⟨written, hwritten⟩ := Option.isSome_iff_exists.1 (h first List.mem_cons_self)
      obtain ⟨others, hothers⟩ := Option.isSome_iff_exists.1
        (ih fun field hmem => h field (List.mem_cons_of_mem _ hmem))
      simp only [rewriteMembers, hwritten, hothers]
      rfl
  simpa [rewrite] using hmembers

theorem get_of_rewrite_members (hkeys : (fields.map Field.key).Nodup)
    (h : rewriteMembers value fields = some members) :
    (∀ field ∈ fields,
      field.rewrite (value.get field.key) = some ((Json.object members).get field.key)) ∧
      ∀ key, (∀ field ∈ fields, field.key ≠ key) → (Json.object members).get key = none := by
  induction fields generalizing members with
  | nil =>
    cases h
    exact ⟨nofun, fun key _ => rfl⟩
  | cons first rest ih =>
    obtain ⟨written, hwritten, h⟩ := Option.bind_eq_some_iff.1 h
    obtain ⟨others, hothers, h⟩ := Option.bind_eq_some_iff.1 h
    cases h
    obtain ⟨hfirst, hkeys⟩ := List.nodup_cons.1 hkeys
    obtain ⟨hmembers, habsent⟩ := ih hkeys hothers
    have hlookup : ∀ key,
        (Json.object (written.toList.map (Prod.mk first.key) ++ others)).get key =
        if first.key = key then written.or ((Json.object others).get key)
        else (Json.object others).get key := by
      intro key
      cases written with
      | none => simp
      | some item => simp [get_cons]
    have hnew : (Json.object others).get first.key = none :=
      habsent first.key (key_ne_of_not_mem hfirst)
    constructor
    · intro field hmem
      rcases List.mem_cons.1 hmem with rfl | hmem
      · rw [hwritten, hlookup, if_pos rfl, hnew, Option.or_none]
      · rw [hlookup, if_neg (key_ne_of_not_mem hfirst field hmem).symm]
        exact hmembers field hmem
    · intro key hother
      rw [hlookup, if_neg (hother first List.mem_cons_self)]
      exact habsent key fun field hmem => hother field (List.mem_cons_of_mem _ hmem)

theorem get_of_rewrite (hkeys : (fields.map Field.key).Nodup)
    (h : rewrite fields value = some result) :
    (∀ field ∈ fields, field.rewrite (value.get field.key) = some (result.get field.key)) ∧
      ∀ key, (∀ field ∈ fields, field.key ≠ key) → result.get key = none := by
  unfold rewrite at h
  split at h
  next =>
    obtain ⟨members, hmembers, rfl⟩ := Option.map_eq_some_iff.1 h
    exact get_of_rewrite_members hkeys hmembers
  next => cases h

theorem rewrite_is_some_iff (hkeys : (fields.map Field.key).Nodup) :
    (rewrite fields (.object members)).isSome = true ↔
      ∀ field ∈ fields, (field.rewrite ((Json.object members).get field.key)).isSome = true := by
  refine ⟨fun h field hmem => ?_, rewrite_is_some members⟩
  obtain ⟨result, hresult⟩ := Option.isSome_iff_exists.1 h
  rw [(get_of_rewrite hkeys hresult).1 field hmem]
  rfl

theorem rewrite_of_written (h : Written fields members) (hkeys : (fields.map Field.key).Nodup) :
    (rewrite fields (.object members)).isSome = true :=
  rewrite_is_some members fun _ hmem => Field.reads _ (writes_of_written h hkeys hmem)

theorem rewrite_members_of_ordered (hkeys : (fields.map Field.key).Nodup)
    (hordered : (members.map Prod.fst).Sublist (fields.map Field.key))
    (hsame : ∀ field ∈ fields, field.rewrite (value.get field.key) =
      some ((Json.object members).get field.key)) :
    rewriteMembers value fields = some members := by
  induction fields generalizing members with
  | nil =>
    rw [List.map_nil, List.sublist_nil, List.map_eq_nil_iff] at hordered
    rw [hordered]
    rfl
  | cons first rest ih =>
    obtain ⟨hfirst, hkeys⟩ := List.nodup_cons.1 hkeys
    have hitem := hsame first List.mem_cons_self
    rcases List.sublist_cons_iff.1 hordered with hrest | ⟨keys, hcons, hrest⟩
    · have hnew : (Json.object members).get first.key = none :=
        get_eq_none fun hmem => hfirst (hrest.subset hmem)
      have hothers := ih hkeys hrest fun field hmem => hsame field (List.mem_cons_of_mem _ hmem)
      rw [hnew] at hitem
      simp only [rewriteMembers, hitem, hothers]
      rfl
    · obtain ⟨⟨key, item⟩, others, rfl, rfl, rfl⟩ := List.map_eq_cons_iff.1 hcons
      have hothers := ih hkeys hrest fun field hmem => by
        have hfield := hsame field (List.mem_cons_of_mem _ hmem)
        rwa [get_cons, if_neg (key_ne_of_not_mem hfirst field hmem).symm] at hfield
      rw [get_cons, if_pos rfl] at hitem
      simp only [rewriteMembers, hitem, hothers]
      rfl

theorem rewrite_eq_self_iff (hkeys : (fields.map Field.key).Nodup)
    (hordered : (members.map Prod.fst).Sublist (fields.map Field.key)) :
    rewrite fields (.object members) = some (.object members) ↔
      ∀ field ∈ fields, field.rewrite ((Json.object members).get field.key) =
        some ((Json.object members).get field.key) := by
  constructor
  · intro hself
    exact (get_of_rewrite hkeys hself).1
  · intro hsame
    show (rewriteMembers _ fields).map Json.object = _
    rw [rewrite_members_of_ordered hkeys hordered hsame, Option.map_some]

end

/-- The type of a record whose members have different keys. -/
def WireType.record (fields : List Field) (hkeys : (fields.map Field.key).Nodup) : WireType where
  rewrite := Record.rewrite fields
  Writes value := ∃ members, Written fields members ∧ value = .object members
  reads := by
    rintro _ ⟨members, hwritten, rfl⟩
    exact rewrite_of_written hwritten hkeys

end Record
