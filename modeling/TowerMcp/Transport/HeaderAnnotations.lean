import TowerMcp.Transport.HttpHeaders

/-!
# Which schemas are refused for their annotations

An annotation is the keyword `x-mcp-header` of a schema. It is allowed on a property that is reached
through `properties` alone. The walk of a schema follows these properties; the count that its result
is compared with takes every object with the key, also one that lists properties by their names and
one that is data. `annotations_recognised_iff` says for which schemas the two agree.
-/

namespace TowerMcp

namespace HeaderAnnotations

/-! ## Where an annotation may stand -/

/-- What a schema is: the whole one, one of a property reached through `properties` alone, or another
one inside. -/
inductive Place where
  | root
  | property
  | elsewhere
deriving DecidableEq

/-- How a value inside a schema is read: as a schema or an array of schemas, as schemas by their
names, or as data. -/
inductive Reading where
  | schema (place : Place)
  | schemasByName (place : Place)
  | data
deriving DecidableEq

/-- The keywords besides `properties` that list schemas by their names. -/
def mapKeywords : List String :=
  ["patternProperties", "$defs", "definitions", "dependentSchemas", "dependencies"]

def schemaKeywords : List String :=
  ["allOf", "anyOf", "oneOf", "not", "if", "then", "else", "items", "prefixItems",
    "additionalItems", "unevaluatedItems", "contains", "additionalProperties",
    "unevaluatedProperties", "propertyNames", "contentSchema"]

def Place.ofProperty : Place → Place
  | .root | .property => .property
  | .elsewhere => .elsewhere

/-- How the field of an object is read. The values of `default`, `const`, `enum`, `examples` and of
keywords that are not known are data. -/
def Reading.field (reading : Reading) (key : String) : Reading :=
  match reading with
  | .schema place =>
    if key = "properties" then .schemasByName place.ofProperty
    else if key ∈ mapKeywords then .schemasByName .elsewhere
    else if key ∈ schemaKeywords then .schema .elsewhere
    else .data
  | .schemasByName place => .schema place
  | .data => .data

def Reading.item : Reading → Reading
  | .schema _ => .schema .elsewhere
  | .schemasByName _ | .data => .data

mutual
def occurrences (reading : Reading) : Json → List Reading
  | .object fields =>
    (if fields.any fun field => field.1 == annotationKey then [reading] else []) ++
      occurrencesFields reading fields
  | .array items => occurrencesItems reading.item items
  | _ => []

def occurrencesItems (reading : Reading) : List Json → List Reading
  | [] => []
  | item :: rest => occurrences reading item ++ occurrencesItems reading rest

def occurrencesFields (reading : Reading) : List (String × Json) → List Reading
  | [] => []
  | (key, value) :: rest =>
    occurrences (reading.field key) value ++ occurrencesFields reading rest
end

/-- A property of a schema that is reached through `properties` alone, with its path. -/
inductive ReachesProperty : Json → List String → Json → Prop where
  | here {schema property : Json} {properties : List (String × Json)} {name : String}
      (hproperties : schema.get "properties" = some (.object properties))
      (hproperty : (name, property) ∈ properties) : ReachesProperty schema [name] property
  | deeper {schema property target : Json} {properties : List (String × Json)} {name : String}
      {path : List String} (hproperties : schema.get "properties" = some (.object properties))
      (hproperty : (name, property) ∈ properties) (hdeeper : ReachesProperty property path target) :
      ReachesProperty schema (name :: path) target

mutual
/-- The properties of a schema that are reached through `properties` alone, in order. -/
def reachable (path : List String) : Json → List (List String × Json)
  | .object fields => reachableFields path fields
  | _ => []

/-- The same, where `properties` is looked for among the fields. -/
def reachableFields (path : List String) : List (String × Json) → List (List String × Json)
  | [] => []
  | (key, value) :: rest =>
    if key = "properties" then reachableObject path value else reachableFields path rest

def reachableObject (path : List String) : Json → List (List String × Json)
  | .object properties => reachableProperties path properties
  | _ => []

def reachableProperties (path : List String) : List (String × Json) → List (List String × Json)
  | [] => []
  | (name, schema) :: rest =>
    (path ++ [name], schema) ::
      (reachable (path ++ [name]) schema ++ reachableProperties path rest)
end

def mappingOf (entry : List String × Json) : Option CustomHeaderMapping :=
  ((entry.2.get annotationKey).bind Json.asStr).map fun suffix =>
    { suffix, propertyPath := entry.1 }

/-- The annotation of a property, if it has one, is a text that may stand in a header name, and the
values of the property may be mirrored. -/
def AnnotationAllowed (entry : List String × Json) : Prop :=
  ∀ mark, entry.2.get annotationKey = some mark →
    ∃ suffix, mark.asStr = some suffix ∧ isToken suffix = true ∧
      primitiveHeaderType entry.2 = true

def suffixes (mappings : List CustomHeaderMapping) : List String :=
  mappings.map fun mapping => toAsciiLowercase mapping.suffix

/-- Some annotation stands where it is not allowed: on a schema that is no property reached through
`properties` alone, on one that must not have it, or on two such properties alike. -/
def Misplaces (schema : Json) : Prop :=
  (.schema .root ∈ occurrences (.schema .root) schema ∨
      .schema .elsewhere ∈ occurrences (.schema .root) schema) ∨
    (∃ entry ∈ reachable [] schema, ¬ AnnotationAllowed entry) ∨
    ¬ (suffixes ((reachable [] schema).filterMap mappingOf)).Nodup

def KeyIsKeyword (schema : Json) : Prop :=
  ∀ reading ∈ occurrences (.schema .root) schema, ∃ place, reading = .schema place

/-- The annotations of a schema are collected as they are, each once, or some of them is misplaced. -/
def Recognised (render : Rendering) (schema : Json) : Prop :=
  match serverHeaderMappings render schema with
  | .ok mappings =>
    mappings.Nodup ∧ ∀ mapping, mapping ∈ mappings ↔ ∃ property,
      ReachesProperty schema mapping.propertyPath property ∧
        property.get annotationKey = some (.string mapping.suffix)
  | .error _ => Misplaces schema

mutual
def UniqueKeys : Json → Prop
  | .object fields => (fields.map (·.1)).Nodup ∧ UniqueKeysFields fields
  | .array items => UniqueKeysItems items
  | _ => True

def UniqueKeysItems : List Json → Prop
  | [] => True
  | item :: rest => UniqueKeys item ∧ UniqueKeysItems rest

def UniqueKeysFields : List (String × Json) → Prop
  | [] => True
  | (_, value) :: rest => UniqueKeys value ∧ UniqueKeysFields rest
end

example : occurrences (.schema .root) (.object [("properties", .object
    [("x-mcp-header", .object [("type", .string "string")])])]) =
    [.schemasByName .property] := by
  decide +kernel

/-! ## The walk -/

mutual
theorem walk_eq (path : List String) (found : Found) : ∀ schema : Json,
    walk path found schema =
      (reachable path schema).foldlM (fun found entry => found.property entry.1 entry.2) found
  | .object fields => by
    rw [walk, reachable]
    exact walk_fields_eq path found fields
  | .null | .bool _ | .number _ | .string _ | .array _ => by
    rw [walk, reachable]
    · rfl
    all_goals nofun

theorem walk_fields_eq (path : List String) (found : Found) : ∀ fields : List (String × Json),
    walkFields path found fields =
      (reachableFields path fields).foldlM (fun found entry => found.property entry.1 entry.2) found
  | [] => by
    rw [walkFields, reachableFields]
    rfl
  | (key, value) :: rest => by
    rw [walkFields, reachableFields]
    split
    · exact walk_object_eq path found value
    · exact walk_fields_eq path found rest

theorem walk_object_eq (path : List String) (found : Found) : ∀ value : Json,
    walkObject path found value =
      (reachableObject path value).foldlM (fun found entry => found.property entry.1 entry.2) found
  | .object properties => by
    rw [walkObject, reachableObject]
    exact walk_properties_eq path found properties
  | .null | .bool _ | .number _ | .string _ | .array _ => by
    rw [walkObject, reachableObject]
    · rfl
    all_goals nofun

theorem walk_properties_eq (path : List String) (found : Found) :
    ∀ properties : List (String × Json),
      walkProperties path found properties =
        (reachableProperties path properties).foldlM
          (fun found entry => found.property entry.1 entry.2) found
  | [] => by
    rw [walkProperties, reachableProperties]
    rfl
  | (name, schema) :: rest => by
    rw [walkProperties, reachableProperties, List.foldlM_cons]
    refine bind_congr fun annotated => ?_
    rw [List.foldlM_append, walk_eq (path ++ [name]) annotated schema]
    exact bind_congr fun below => walk_properties_eq path below rest
end

/-! ## What a walk collects -/

variable {found next : Found} {path : List String} {schema : Json}

theorem property_of_none (h : schema.get annotationKey = none) :
    found.property path schema = .ok found := by
  rw [Found.property, h]

theorem property_eq_ok {mark : Json} (h : schema.get annotationKey = some mark) :
    found.property path schema = .ok next ↔
      ∃ suffix, mark.asStr = some suffix ∧ isToken suffix = true ∧
        primitiveHeaderType schema = true ∧ toAsciiLowercase suffix ∉ found.seen ∧
        next = { seen := found.seen ++ [toAsciiLowercase suffix]
                 mappings := found.mappings ++ [{ suffix, propertyPath := path }] } := by
  rw [Found.property, h]
  simp only [Found.annotate]
  cases htext : mark.asStr with
  | none => simp
  | some suffix =>
    simp only [Option.some.injEq, exists_eq_left']
    cases htoken : isToken suffix with
    | false => simp
    | true =>
      cases hprimitive : primitiveHeaderType schema with
      | false => simp
      | true =>
        by_cases hseen : toAsciiLowercase suffix ∈ found.seen
        · simp [hseen]
        · simp [hseen, eq_comm]

variable {entries : List (List String × Json)}

theorem fold_eq_ok (hseen : found.seen.Nodup) :
    entries.foldlM (fun found entry => found.property entry.1 entry.2) found = .ok next ↔
      (∀ entry ∈ entries, AnnotationAllowed entry) ∧
        (found.seen ++ suffixes (entries.filterMap mappingOf)).Nodup ∧
        next = { seen := found.seen ++ suffixes (entries.filterMap mappingOf)
                 mappings := found.mappings ++ entries.filterMap mappingOf } := by
  induction entries generalizing found with
  | nil =>
    simp only [List.foldlM_nil, Fallible.pure_eq_ok, List.filterMap_nil, suffixes, List.map_nil,
      List.append_nil, List.not_mem_nil, false_imp_iff, implies_true, true_and, hseen]
    exact eq_comm
  | cons entry rest ih =>
    rw [List.foldlM_cons, Fallible.bind_eq_ok]
    cases hmark : entry.2.get annotationKey with
    | none =>
      have hskip : mappingOf entry = none := by simp [mappingOf, hmark]
      have hallowed : AnnotationAllowed entry := by
        intro mark h
        cases hmark.symm.trans h
      simp only [property_of_none hmark, Except.ok.injEq, exists_eq_left', ih hseen,
        List.forall_mem_cons, hallowed, true_and, List.filterMap_cons_none hskip]
    | some mark =>
      constructor
      · rintro ⟨annotated, hentry, hrest⟩
        obtain ⟨suffix, htext, htoken, hprimitive, hnew, rfl⟩ :=
          (property_eq_ok hmark).1 hentry
        have hmapping : mappingOf entry = some { suffix, propertyPath := entry.1 } := by
          simp [mappingOf, hmark, htext]
        have hnodup : (found.seen ++ [toAsciiLowercase suffix]).Nodup :=
          List.nodup_append.2 ⟨hseen, List.nodup_singleton _, by
            rintro a ha b hb rfl
            exact hnew (List.mem_singleton.1 hb ▸ ha)⟩
        obtain ⟨hallowed, hdistinct, rfl⟩ := (ih hnodup).1 hrest
        rw [List.filterMap_cons_some hmapping]
        refine ⟨List.forall_mem_cons.2 ⟨?_, hallowed⟩, ?_, ?_⟩
        · intro other hother
          obtain rfl := Option.some.inj (hmark.symm.trans hother)
          exact ⟨suffix, htext, htoken, hprimitive⟩
        · simpa [suffixes] using hdistinct
        · simp [suffixes]
      · rintro ⟨hallowed, hdistinct, rfl⟩
        obtain ⟨hentry, hrest⟩ := List.forall_mem_cons.1 hallowed
        obtain ⟨suffix, htext, htoken, hprimitive⟩ := hentry mark hmark
        have hmapping : mappingOf entry = some { suffix, propertyPath := entry.1 } := by
          simp [mappingOf, hmark, htext]
        rw [List.filterMap_cons_some hmapping] at hdistinct ih ⊢
        have hsplit : (found.seen ++ [toAsciiLowercase suffix] ++
            suffixes (rest.filterMap mappingOf)).Nodup := by
          simpa [suffixes] using hdistinct
        have hnodup := (List.nodup_append.1 hsplit).1
        have hnew : toAsciiLowercase suffix ∉ found.seen := fun hold =>
          (List.nodup_append.1 hnodup).2.2 _ hold _ (List.mem_singleton_self _) rfl
        refine ⟨{ seen := found.seen ++ [toAsciiLowercase suffix]
                  mappings := found.mappings ++ [{ suffix, propertyPath := entry.1 }] },
          (property_eq_ok hmark).2
            ⟨suffix, htext, htoken, hprimitive, hnew, rfl⟩, ?_⟩
        rw [ih hnodup]
        exact ⟨hrest, hsplit, by simp [suffixes]⟩

/-! ## The count -/

mutual
theorem annotation_count_eq (reading : Reading) : ∀ value : Json,
    annotationCount value = (occurrences reading value).length
  | .object fields => by
    rw [annotationCount, occurrences, List.length_append,
      annotation_count_fields_eq reading fields]
    split <;> rfl
  | .array items => by
    rw [annotationCount, occurrences]
    exact annotation_count_items_eq reading.item items
  | .null | .bool _ | .number _ | .string _ => by
    rw [annotationCount, occurrences]
    · rfl
    all_goals nofun

theorem annotation_count_items_eq (reading : Reading) : ∀ items : List Json,
    annotationCountItems items = (occurrencesItems reading items).length
  | [] => by
    rw [annotationCountItems, occurrencesItems]
    rfl
  | item :: rest => by
    rw [annotationCountItems, occurrencesItems, List.length_append,
      annotation_count_eq reading item, annotation_count_items_eq reading rest]

theorem annotation_count_fields_eq (reading : Reading) : ∀ fields : List (String × Json),
    annotationCountFields fields = (occurrencesFields reading fields).length
  | [] => by
    rw [annotationCountFields, occurrencesFields]
    rfl
  | (key, value) :: rest => by
    rw [annotationCountFields, occurrencesFields, List.length_append,
      annotation_count_eq (reading.field key) value, annotation_count_fields_eq reading rest]
end

/-- What is read so that no property reached through `properties` alone is inside. -/
def Reading.Outside : Reading → Prop
  | .schema place | .schemasByName place => place = .elsewhere
  | .data => True

variable {reading : Reading}

theorem Reading.Outside.field (h : reading.Outside) (key : String) :
    (reading.field key).Outside := by
  cases reading with
  | schema place =>
    obtain rfl : place = .elsewhere := h
    unfold Reading.field
    simp only
    split
    · rfl
    · split
      · rfl
      · split <;> trivial
  | schemasByName place => exact h
  | data => trivial

theorem Reading.outside_item (reading : Reading) : reading.item.Outside := by
  cases reading <;> trivial

mutual
theorem not_mem_outside : ∀ {reading : Reading} (value : Json), reading.Outside →
    .schema .property ∉ occurrences reading value
  | reading, .object fields, h => by
    rw [occurrences, List.mem_append, not_or]
    refine ⟨?_, not_mem_outside_fields fields h⟩
    split
    · intro hmem
      obtain rfl := List.mem_singleton.1 hmem
      cases h
    · exact List.not_mem_nil
  | reading, .array items, _ => by
    rw [occurrences]
    exact not_mem_outside_items items reading.outside_item
  | _, .null, _ | _, .bool _, _ | _, .number _, _ | _, .string _, _ => by
    rw [occurrences]
    · exact List.not_mem_nil
    all_goals nofun

theorem not_mem_outside_items : ∀ {reading : Reading} (items : List Json), reading.Outside →
    .schema .property ∉ occurrencesItems reading items
  | _, [], _ => by
    rw [occurrencesItems]
    exact List.not_mem_nil
  | _, item :: rest, h => by
    rw [occurrencesItems, List.mem_append, not_or]
    exact ⟨not_mem_outside item h, not_mem_outside_items rest h⟩

theorem not_mem_outside_fields : ∀ {reading : Reading} (fields : List (String × Json)),
    reading.Outside → .schema .property ∉ occurrencesFields reading fields
  | _, [], _ => by
    rw [occurrencesFields]
    exact List.not_mem_nil
  | _, (key, value) :: rest, h => by
    rw [occurrencesFields, List.mem_append, not_or]
    exact ⟨not_mem_outside value (h.field key), not_mem_outside_fields rest h⟩
end

def isAnnotated (entry : List String × Json) : Bool :=
  (entry.2.get annotationKey).isSome

/-- How often a property reached through `properties` alone has an annotation. -/
def countProperties (readings : List Reading) : ℕ :=
  readings.count (.schema .property)

@[simp] theorem count_nil : countProperties [] = 0 := rfl

@[simp] theorem count_singleton (reading : Reading) :
    countProperties [reading] = if reading = .schema .property then 1 else 0 := by
  rw [countProperties, List.count_singleton]
  simp

theorem count_append (first second : List Reading) :
    countProperties (first ++ second) = countProperties first + countProperties second :=
  List.count_append

theorem count_outside (value : Json) (h : reading.Outside) :
    countProperties (occurrences reading value) = 0 :=
  List.count_eq_zero.2 (not_mem_outside value h)

theorem is_some_get_object (fields : List (String × Json)) (key : String) :
    ((Json.object fields).get key).isSome = fields.any fun field => field.1 == key := by
  rw [Json.get, Option.isSome_map, Bool.eq_iff_iff, List.find?_isSome]
  simp

theorem outside_of_ne {place : Place} {key : String} (h : key ≠ "properties") :
    ((Reading.schema place).field key).Outside := by
  unfold Reading.field
  simp only
  rw [if_neg h]
  split
  · rfl
  · split <;> trivial

theorem count_fields_of_not_mem {place : Place} {fields : List (String × Json)}
    (h : "properties" ∉ fields.map (·.1)) :
    countProperties (occurrencesFields (.schema place) fields) = 0 := by
  induction fields with
  | nil => rw [occurrencesFields]; rfl
  | cons field rest ih =>
    rw [List.map_cons, List.mem_cons, not_or] at h
    rw [occurrencesFields, count_append,
      count_outside field.2 (outside_of_ne (Ne.symm h.1)), Nat.zero_add]
    exact ih h.2

mutual
theorem count_schema {place : Place} (path : List String) (hplace : place.ofProperty = .property) :
    ∀ schema : Json, UniqueKeys schema →
      countProperties (occurrences (.schema place) schema) =
        (if place = .property ∧ isAnnotated (path, schema) = true then 1 else 0) +
          ((reachable path schema).filter isAnnotated).length
  | .object fields, hkeys => by
    rw [UniqueKeys] at hkeys
    rw [occurrences, reachable, count_append, isAnnotated,
      is_some_get_object]
    refine congrArg₂ (· + ·) ?_ (count_fields path hplace fields hkeys.1 hkeys.2)
    cases hany : fields.any fun field => field.1 == annotationKey with
    | false => simp
    | true =>
      cases place with
      | root => simp
      | property => simp
      | elsewhere => cases hplace
  | .array items, _ => by
    rw [occurrences, reachable]
    · rw [if_neg (by simp [isAnnotated, Json.get])]
      exact List.count_eq_zero.2 (not_mem_outside_items items (Reading.outside_item _))
    · nofun
  | .null, _ | .bool _, _ | .number _, _ | .string _, _ => by
    rw [occurrences, reachable]
    · simp [isAnnotated, Json.get]
    all_goals nofun

theorem count_fields {place : Place} (path : List String) (hplace : place.ofProperty = .property) :
    ∀ fields : List (String × Json), (fields.map (·.1)).Nodup → UniqueKeysFields fields →
      countProperties (occurrencesFields (.schema place) fields) =
        ((reachableFields path fields).filter isAnnotated).length
  | [], _, _ => by
    rw [occurrencesFields, reachableFields]
    rfl
  | (key, value) :: rest, hnodup, hkeys => by
    rw [UniqueKeysFields] at hkeys
    obtain ⟨hfresh, hrest⟩ := List.nodup_cons.1 hnodup
    rw [occurrencesFields, reachableFields, count_append]
    by_cases hkey : key = "properties"
    · subst hkey
      have hread : (Reading.schema place).field "properties" = .schemasByName .property := by
        simp [Reading.field, hplace]
      rw [if_pos rfl, hread, count_fields_of_not_mem hfresh]
      exact count_object path value hkeys.1
    · rw [if_neg hkey, count_outside value (outside_of_ne hkey), Nat.zero_add]
      exact count_fields path hplace rest hrest hkeys.2

theorem count_object (path : List String) : ∀ value : Json, UniqueKeys value →
    countProperties (occurrences (.schemasByName .property) value) =
      ((reachableObject path value).filter isAnnotated).length
  | .object properties, hkeys => by
    rw [UniqueKeys] at hkeys
    rw [occurrences, reachableObject, count_append]
    have hnames : countProperties
        (if properties.any fun field => field.1 == annotationKey then
          [.schemasByName .property] else []) = 0 := by
      split <;> rfl
    rw [hnames, Nat.zero_add]
    exact count_properties path properties hkeys.2
  | .array items, _ => by
    rw [occurrences, reachableObject]
    · exact List.count_eq_zero.2 (not_mem_outside_items items trivial)
    · nofun
  | .null, _ | .bool _, _ | .number _, _ | .string _, _ => by
    rw [occurrences, reachableObject]
    · rfl
    all_goals nofun

theorem count_properties (path : List String) : ∀ properties : List (String × Json),
    UniqueKeysFields properties →
      countProperties (occurrencesFields (.schemasByName .property) properties) =
        ((reachableProperties path properties).filter isAnnotated).length
  | [], _ => by
    rw [occurrencesFields, reachableProperties]
    rfl
  | (name, schema) :: rest, hkeys => by
    rw [UniqueKeysFields] at hkeys
    have hschema : countProperties (occurrences (.schema .property) schema) = _ :=
      count_schema (path ++ [name]) rfl schema hkeys.1
    have hrest := count_properties path rest hkeys.2
    have hread : (Reading.schemasByName .property).field name = .schema .property := rfl
    rw [occurrencesFields, reachableProperties, count_append, hread,
      hschema, hrest, List.filter_cons, List.filter_append]
    cases hannotated : isAnnotated (path ++ [name], schema) with
    | false => simp
    | true => simp; omega
end

/-! ## The properties that are reached -/

def ReachedFrom (properties : List (String × Json)) (path : List String) (target : Json) : Prop :=
  ∃ name property, (name, property) ∈ properties ∧
    (path = [name] ∧ target = property ∨
      ∃ rest, path = name :: rest ∧ ReachesProperty property rest target)

theorem reaches_iff {schema target : Json} {path : List String} :
    ReachesProperty schema path target ↔ ∃ properties,
      schema.get "properties" = some (.object properties) ∧ ReachedFrom properties path target := by
  constructor
  · intro h
    cases h with
    | here hproperties hproperty =>
      exact ⟨_, hproperties, _, _, hproperty, .inl ⟨rfl, rfl⟩⟩
    | deeper hproperties hproperty hdeeper =>
      exact ⟨_, hproperties, _, _, hproperty, .inr ⟨_, rfl, hdeeper⟩⟩
  · rintro ⟨properties, hproperties, name, property, hproperty, ⟨rfl, rfl⟩ | ⟨rest, rfl, hdeeper⟩⟩
    · exact .here hproperties hproperty
    · exact .deeper hproperties hproperty hdeeper

theorem reached_from_cons {name : String} {property target : Json}
    {rest : List (String × Json)} {path : List String} :
    ReachedFrom ((name, property) :: rest) path target ↔
      (path = [name] ∧ target = property ∨
        ∃ below, path = name :: below ∧ ReachesProperty property below target) ∨
      ReachedFrom rest path target := by
  constructor
  · rintro ⟨other, found, hmem, hreached⟩
    rcases List.mem_cons.1 hmem with hfirst | hrest
    · cases hfirst
      exact .inl hreached
    · exact .inr ⟨other, found, hrest, hreached⟩
  · rintro (hreached | ⟨other, found, hrest, hreached⟩)
    · exact ⟨name, property, List.mem_cons_self, hreached⟩
    · exact ⟨other, found, List.mem_cons_of_mem _ hrest, hreached⟩

mutual
theorem mem_reachable (path : List String) (entry : List String × Json) : ∀ schema : Json,
    entry ∈ reachable path schema ↔
      ∃ below, entry.1 = path ++ below ∧ ReachesProperty schema below entry.2
  | .object fields => by
    rw [reachable, mem_reachable_fields path entry fields]
    simp only [reaches_iff]
  | .null | .bool _ | .number _ | .string _ | .array _ => by
    rw [reachable]
    · simp [reaches_iff, Json.get]
    all_goals nofun

theorem mem_reachable_fields (path : List String) (entry : List String × Json) :
    ∀ fields : List (String × Json), entry ∈ reachableFields path fields ↔
      ∃ below, entry.1 = path ++ below ∧ ∃ properties,
        (Json.object fields).get "properties" = some (.object properties) ∧
          ReachedFrom properties below entry.2
  | [] => by
    rw [reachableFields]
    simp [Json.get]
  | (key, value) :: rest => by
    rw [reachableFields]
    by_cases hkey : key = "properties"
    · rw [if_pos hkey, mem_reachable_object path entry value]
      simp [Json.get, hkey]
    · rw [if_neg hkey, mem_reachable_fields path entry rest]
      simp [Json.get, hkey]

theorem mem_reachable_object (path : List String) (entry : List String × Json) : ∀ value : Json,
    entry ∈ reachableObject path value ↔
      ∃ below, entry.1 = path ++ below ∧ ∃ properties, value = .object properties ∧
        ReachedFrom properties below entry.2
  | .object properties => by
    rw [reachableObject, mem_reachable_properties path entry properties]
    simp
  | .null | .bool _ | .number _ | .string _ | .array _ => by
    rw [reachableObject]
    · simp
    all_goals nofun

theorem mem_reachable_properties (path : List String) (entry : List String × Json) :
    ∀ properties : List (String × Json), entry ∈ reachableProperties path properties ↔
      ∃ below, entry.1 = path ++ below ∧ ReachedFrom properties below entry.2
  | [] => by
    rw [reachableProperties]
    simp [ReachedFrom]
  | (name, schema) :: rest => by
    rw [reachableProperties, List.mem_cons, List.mem_append,
      mem_reachable (path ++ [name]) entry schema, mem_reachable_properties path entry rest]
    simp only [reached_from_cons]
    constructor
    · rintro (rfl | ⟨below, hpath, hreached⟩ | ⟨below, hpath, hreached⟩)
      · exact ⟨[name], rfl, .inl (.inl ⟨rfl, rfl⟩)⟩
      · refine ⟨name :: below, ?_, .inl (.inr ⟨below, rfl, hreached⟩)⟩
        rw [hpath, List.append_assoc, List.singleton_append]
      · exact ⟨below, hpath, .inr hreached⟩
    · rintro ⟨below, hpath, (⟨rfl, htarget⟩ | ⟨deeper, rfl, hreached⟩) | hreached⟩
      · exact .inl (Prod.ext hpath htarget)
      · refine .inr (.inl ⟨deeper, ?_, hreached⟩)
        rw [hpath, List.append_assoc, List.singleton_append]
      · exact .inr (.inr ⟨below, hpath, hreached⟩)
end

/-! ## Schemas -/

theorem as_str_eq_some {value : Json} {text : String} :
    value.asStr = some text ↔ value = .string text := by
  cases value <;> simp [Json.asStr]

theorem mem_mappings_iff (schema : Json) (mapping : CustomHeaderMapping) :
    mapping ∈ (reachable [] schema).filterMap mappingOf ↔ ∃ property,
      ReachesProperty schema mapping.propertyPath property ∧
        property.get annotationKey = some (.string mapping.suffix) := by
  rw [List.mem_filterMap]
  constructor
  · rintro ⟨entry, hentry, hmapping⟩
    obtain ⟨below, hpath, hreached⟩ := (mem_reachable [] entry schema).1 hentry
    obtain ⟨suffix, htext, rfl⟩ := Option.map_eq_some_iff.1 hmapping
    obtain ⟨mark, hmark, hstring⟩ := Option.bind_eq_some_iff.1 htext
    obtain rfl := as_str_eq_some.1 hstring
    rw [List.nil_append] at hpath
    exact ⟨entry.2, hpath ▸ hreached, hmark⟩
  · rintro ⟨property, hreached, hmark⟩
    refine ⟨(mapping.propertyPath, property), ?_, ?_⟩
    · exact (mem_reachable [] _ schema).2 ⟨mapping.propertyPath, rfl, hreached⟩
    · simp [mappingOf, hmark, Json.asStr]

theorem length_filter_annotated (h : ∀ entry ∈ entries, AnnotationAllowed entry) :
    (entries.filter isAnnotated).length = (entries.filterMap mappingOf).length := by
  induction entries with
  | nil => rfl
  | cons entry rest ih =>
    obtain ⟨hentry, hrest⟩ := List.forall_mem_cons.1 h
    cases hmark : entry.2.get annotationKey with
    | none =>
      have hskip : mappingOf entry = none := by simp [mappingOf, hmark]
      rw [List.filterMap_cons_none hskip, List.filter_cons_of_neg (by simp [isAnnotated,
        hmark]), ih hrest]
    | some mark =>
      obtain ⟨suffix, htext, -, -⟩ := hentry mark hmark
      have htake : mappingOf entry = some { suffix, propertyPath := entry.1 } := by
        simp [mappingOf, hmark, htext]
      rw [List.filterMap_cons_some htake, List.filter_cons_of_pos (by simp [isAnnotated,
        hmark]), List.length_cons, List.length_cons, ih hrest]

theorem collect_eq_ok {schema : Json} (hkeys : UniqueKeys schema)
    {mappings : List CustomHeaderMapping} :
    collectMappings schema = .ok mappings ↔
      (∀ entry ∈ reachable [] schema, AnnotationAllowed entry) ∧
        (suffixes ((reachable [] schema).filterMap mappingOf)).Nodup ∧
        (∀ reading ∈ occurrences (.schema .root) schema, reading = .schema .property) ∧
        mappings = (reachable [] schema).filterMap mappingOf := by
  have hfold (final : Found) : (reachable [] schema).foldlM
      (fun (found : Found) entry => found.property entry.1 entry.2) {} = .ok final ↔ _ :=
    fold_eq_ok List.nodup_nil
  have hcount : countProperties (occurrences (.schema .root) schema) = _ :=
    count_schema [] rfl schema hkeys
  rw [if_neg (fun h => by cases h.1), Nat.zero_add] at hcount
  unfold collectMappings
  rw [Fallible.bind_eq_ok]
  simp only [walk_eq, hfold, List.nil_append, annotation_count_eq (.schema .root)]
  constructor
  · rintro ⟨found, ⟨hallowed, hdistinct, rfl⟩, hrest⟩
    split at hrest
    next => cases hrest
    next hlength =>
      cases hrest
      refine ⟨hallowed, hdistinct, ?_, rfl⟩
      rw [not_not, ← length_filter_annotated hallowed, ← hcount] at hlength
      intro reading hreading
      exact (List.count_eq_length.1 hlength.symm reading hreading).symm
  · rintro ⟨hallowed, hdistinct, hreadings, rfl⟩
    refine ⟨_, ⟨hallowed, hdistinct, rfl⟩, ?_⟩
    have hlength : (occurrences (.schema .root) schema).length =
        ((reachable [] schema).filterMap mappingOf).length := by
      rw [← length_filter_annotated hallowed, ← hcount]
      exact (List.count_eq_length.2 fun reading hreading => (hreadings reading hreading).symm).symm
    simp only [hlength, ne_eq, not_true_eq_false, if_false]

/-- A schema is recognised exactly when it misplaces an annotation or has the key of an annotation
as a keyword only. -/
theorem annotations_recognised_iff (render : Rendering) {schema : Json}
    (hkeys : UniqueKeys schema) :
    Recognised render schema ↔ Misplaces schema ∨ KeyIsKeyword schema := by
  unfold Recognised serverHeaderMappings
  cases hcollect : collectMappings schema with
  | ok mappings =>
    obtain ⟨-, hdistinct, hreadings, rfl⟩ := (collect_eq_ok hkeys).1 hcollect
    simp only [Except.mapError]
    refine iff_of_true ⟨?_, fun mapping => mem_mappings_iff schema mapping⟩ (.inr ?_)
    · exact List.Nodup.of_map _ hdistinct
    · exact fun reading hreading => ⟨.property, hreadings reading hreading⟩
  | error failure =>
    simp only [Except.mapError]
    refine ⟨.inl, fun h => h.elim id fun hkeyword => ?_⟩
    by_contra hplaced
    obtain ⟨hplaces, hothers⟩ := not_or.1 hplaced
    obtain ⟨hroot, helsewhere⟩ := not_or.1 hplaces
    obtain ⟨hallowed, hdistinct⟩ := not_or.1 hothers
    have hok := (collect_eq_ok hkeys).2
      ⟨fun entry hentry => by_contra fun hnot => hallowed ⟨entry, hentry, hnot⟩,
        not_not.1 hdistinct, fun reading hreading => ?_, rfl⟩
    · cases hcollect.symm.trans hok
    · obtain ⟨place, rfl⟩ := hkeyword reading hreading
      cases place with
      | root => exact absurd hreading hroot
      | property => rfl
      | elsewhere => exact absurd hreading helsewhere

def regionSchema : Json :=
  .object [("type", .string "object"), ("properties", .object [("region", .object
    [("type", .string "string"), ("x-mcp-header", .string "Region")])])]

theorem region_schema_recognised :
    UniqueKeys regionSchema ∧ Recognised ⟨id, fun _ => ""⟩ regionSchema := by
  have hkeys : UniqueKeys regionSchema := by
    simp [regionSchema, UniqueKeys, UniqueKeysFields]
  refine ⟨hkeys, (annotations_recognised_iff _ hkeys).2 (.inr ?_)⟩
  have hoccurrences : occurrences (.schema .root) regionSchema = [.schema .property] := by
    decide +kernel
  intro reading hreading
  rw [hoccurrences] at hreading
  exact ⟨_, List.mem_singleton.1 hreading⟩

def namesakeSchema : Json :=
  .object [("type", .string "object"), ("properties", .object [("x-mcp-header", .object
    [("type", .string "string")])])]

def defaultSchema : Json :=
  .object [("type", .string "object"), ("properties", .object [("headers", .object
    [("type", .string "object"), ("default", .object
      [("x-mcp-header", .string "Region")])])])]

theorem not_misplaces_of_none {schema : Json}
    (hroot : .schema .root ∉ occurrences (.schema .root) schema)
    (helsewhere : .schema .elsewhere ∉ occurrences (.schema .root) schema)
    (hnone : ∀ entry ∈ reachable [] schema, entry.2.get annotationKey = none) :
    ¬ Misplaces schema := by
  rintro ((hmem | hmem) | ⟨entry, hentry, hnot⟩ | hnot)
  · exact hroot hmem
  · exact helsewhere hmem
  · refine hnot fun mark hmark => ?_
    cases (hnone entry hentry).symm.trans hmark
  · have hempty : (reachable [] schema).filterMap mappingOf = [] :=
      List.filterMap_eq_nil_iff.2 fun entry hentry => by
        simp [mappingOf, hnone entry hentry]
    rw [hempty] at hnot
    exact hnot List.nodup_nil

/-- Schemas without an annotation are refused for the name of a property and for a default. -/
theorem key_taken_for_annotation :
    ¬ Recognised ⟨id, fun _ => ""⟩ namesakeSchema ∧
      ¬ Recognised ⟨id, fun _ => ""⟩ defaultSchema := by
  constructor
  · have hrefused : collectMappings namesakeSchema = .error .notReachable := by decide +kernel
    unfold Recognised serverHeaderMappings
    rw [hrefused]
    refine not_misplaces_of_none (by decide +kernel) (by decide +kernel) ?_
    simp [namesakeSchema, reachable, reachableFields, reachableObject, reachableProperties,
      Json.get, annotationKey]
  · have hrefused : collectMappings defaultSchema = .error .notReachable := by decide +kernel
    unfold Recognised serverHeaderMappings
    rw [hrefused]
    refine not_misplaces_of_none (by decide +kernel) (by decide +kernel) ?_
    simp [defaultSchema, reachable, reachableFields, reachableObject, reachableProperties,
      Json.get, annotationKey]

end HeaderAnnotations

end TowerMcp
