import TowerMcp.Lib.Fallible
import TowerMcp.Types.JsonRpc

/-!
# Header annotations of a tool schema

A property of a tool's input schema may be annotated with the suffix of a header that mirrors the
argument. Client and server each collect the annotations that are reachable through `properties`, by
the same walk with messages of their own. `well_formed_of_collect` says what every accepted schema
gives: suffixes that may stand in a header name, no two of them alike.
-/

namespace TowerMcp

/-- An annotated property: the suffix of its header, and where its value stands among the arguments. -/
structure CustomHeaderMapping where
  suffix : String
  propertyPath : List String
deriving DecidableEq

inductive MappingError where
  | notString (path : List String)
  | invalidSuffix (suffix : String) (path : List String)
  | notPrimitive (path : List String)
  | duplicate (suffix : String)
  | notReachable
deriving DecidableEq

def annotationKey : String := "x-mcp-header"

def isTchar (c : Char) : Bool :=
  c.isAlphanum || "!#$%&'*+-.^_`|~".toList.contains c

def toAsciiLowercase (text : String) : String :=
  String.ofList (text.toList.map Char.toLower)

def isToken (text : String) : Bool :=
  !text.toList.isEmpty && text.toList.all isTchar

mutual
def annotationCount : Json → ℕ
  | .object fields =>
    (if fields.any fun field => field.1 == annotationKey then 1 else 0) +
      annotationCountFields fields
  | .array items => annotationCountItems items
  | _ => 0

def annotationCountItems : List Json → ℕ
  | [] => 0
  | item :: rest => annotationCount item + annotationCountItems rest

def annotationCountFields : List (String × Json) → ℕ
  | [] => 0
  | (_, value) :: rest => annotationCount value + annotationCountFields rest
end

def isPrimitiveType (kind : String) : Bool :=
  decide (kind = "string" ∨ kind = "integer" ∨ kind = "boolean")

/-- Whether the types of a list are one primitive type, and `null` any number of times. -/
def primitiveKinds (primitive : Bool) : List Json → Bool
  | [] => primitive
  | kind :: rest =>
    match kind.asStr with
    | some kind =>
      if isPrimitiveType kind && !primitive then primitiveKinds true rest
      else if kind = "null" then primitiveKinds primitive rest
      else false
    | none => false

def primitiveHeaderType (schema : Json) : Bool :=
  match schema.get "type" with
  | some (.string kind) => isPrimitiveType kind
  | some (.array kinds) => primitiveKinds false kinds
  | _ => false

structure Found where
  seen : List String := []
  mappings : List CustomHeaderMapping := []

def Found.annotate (self : Found) (path : List String) (schema annotation : Json) :
    Except MappingError Found :=
  match annotation.asStr with
  | none => .error (.notString path)
  | some suffix =>
    if !isToken suffix then .error (.invalidSuffix suffix path)
    else if !primitiveHeaderType schema then .error (.notPrimitive path)
    else if toAsciiLowercase suffix ∈ self.seen then .error (.duplicate suffix)
    else
      .ok { seen := self.seen ++ [toAsciiLowercase suffix]
            mappings := self.mappings ++ [{ suffix, propertyPath := path }] }

def Found.property (self : Found) (path : List String) (schema : Json) : Except MappingError Found :=
  match schema.get annotationKey with
  | some annotation => self.annotate path schema annotation
  | none => .ok self

mutual
/-- Walk a schema: its `properties`, if they are an object. -/
def walk (path : List String) (found : Found) : Json → Except MappingError Found
  | .object fields => walkFields path found fields
  | _ => .ok found

/-- Look for `properties` among the fields of a schema. -/
def walkFields (path : List String) (found : Found) :
    List (String × Json) → Except MappingError Found
  | [] => .ok found
  | (key, value) :: rest =>
    if key = "properties" then walkObject path found value else walkFields path found rest

def walkObject (path : List String) (found : Found) : Json → Except MappingError Found
  | .object properties => walkProperties path found properties
  | _ => .ok found

def walkProperties (path : List String) (found : Found) :
    List (String × Json) → Except MappingError Found
  | [] => .ok found
  | (name, schema) :: rest => do
    let annotated ← found.property (path ++ [name]) schema
    let below ← walk (path ++ [name]) annotated schema
    walkProperties path below rest
end

def collectMappings (schema : Json) : Except MappingError (List CustomHeaderMapping) := do
  let found ← walk [] {} schema
  if annotationCount schema ≠ found.mappings.length then .error .notReachable
  else .ok found.mappings

def valueAtPropertyPath (root : Json) (path : List String) : Option Json :=
  root.pointer path

example : collectMappings (.object [("properties", .object [("region", .object
    [("type", .string "string"), ("x-mcp-header", .string "Region")])])]) =
    .ok [{ suffix := "Region", propertyPath := ["region"] }] := by
  decide +kernel

/-! ## What a walk gives -/

def WellFormed (mappings : List CustomHeaderMapping) : Prop :=
  (∀ mapping ∈ mappings, isToken mapping.suffix = true) ∧
    (mappings.map fun mapping => toAsciiLowercase mapping.suffix).Nodup

structure Found.Valid (found : Found) : Prop where
  wellFormed : WellFormed found.mappings
  seen : found.seen = found.mappings.map fun mapping => toAsciiLowercase mapping.suffix

theorem valid_start : ({} : Found).Valid :=
  ⟨⟨nofun, List.nodup_nil⟩, rfl⟩

theorem annotate_valid {found next : Found} {path : List String} {schema annotation : Json}
    (hvalid : found.Valid) (h : found.annotate path schema annotation = .ok next) :
    next.Valid := by
  unfold Found.annotate at h
  split at h
  next => cases h
  next suffix _ =>
    split at h
    next => cases h
    next htoken =>
      split at h
      next => cases h
      next =>
        split at h
        next => cases h
        next hnew =>
          cases h
          rw [hvalid.seen] at hnew
          refine ⟨⟨?_, ?_⟩, ?_⟩
          · intro mapping hmapping
            obtain hold | hadded := List.mem_append.1 hmapping
            · exact hvalid.wellFormed.1 mapping hold
            · obtain rfl := List.mem_singleton.1 hadded
              simpa using htoken
          · dsimp only
            rw [List.map_append, List.nodup_append]
            refine ⟨hvalid.wellFormed.2, List.nodup_singleton _, ?_⟩
            intro old hold added hadded hequal
            obtain rfl := List.mem_singleton.1 hadded
            rw [hequal] at hold
            exact hnew hold
          · dsimp only
            rw [hvalid.seen, List.map_append]
            rfl

theorem property_valid {found next : Found} {path : List String} {schema : Json}
    (hvalid : found.Valid) (h : found.property path schema = .ok next) : next.Valid := by
  unfold Found.property at h
  split at h
  next => exact annotate_valid hvalid h
  next => cases h; exact hvalid

mutual
theorem walk_valid {path : List String} {found next : Found} (hvalid : found.Valid) :
    ∀ {schema : Json}, walk path found schema = .ok next → next.Valid
  | .object fields, h => walk_fields_valid hvalid (by rwa [walk] at h)
  | .null, h | .bool _, h | .number _, h | .string _, h | .array _, h => by
    rw [walk] at h
    · cases h; exact hvalid
    all_goals nofun

theorem walk_fields_valid {path : List String} {found next : Found} (hvalid : found.Valid) :
    ∀ {fields : List (String × Json)}, walkFields path found fields = .ok next → next.Valid
  | [], h => by
    rw [walkFields] at h
    cases h
    exact hvalid
  | (key, value) :: rest, h => by
    rw [walkFields] at h
    split at h
    next => exact walk_object_valid hvalid h
    next => exact walk_fields_valid hvalid h

theorem walk_object_valid {path : List String} {found next : Found} (hvalid : found.Valid) :
    ∀ {value : Json}, walkObject path found value = .ok next → next.Valid
  | .object properties, h => walk_properties_valid hvalid (by rwa [walkObject] at h)
  | .null, h | .bool _, h | .number _, h | .string _, h | .array _, h => by
    rw [walkObject] at h
    · cases h; exact hvalid
    all_goals nofun

theorem walk_properties_valid {path : List String} {found next : Found} (hvalid : found.Valid) :
    ∀ {properties : List (String × Json)}, walkProperties path found properties = .ok next →
      next.Valid
  | [], h => by
    rw [walkProperties] at h
    cases h
    exact hvalid
  | (name, schema) :: rest, h => by
    rw [walkProperties] at h
    obtain ⟨annotated, hannotated, hrest⟩ := Fallible.bind_eq_ok.1 h
    obtain ⟨below, hbelow, hnext⟩ := Fallible.bind_eq_ok.1 hrest
    exact walk_properties_valid (walk_valid (property_valid hvalid hannotated) hbelow) hnext
end

theorem well_formed_of_collect {schema : Json} {mappings : List CustomHeaderMapping}
    (h : collectMappings schema = .ok mappings) : WellFormed mappings := by
  obtain ⟨found, hfound, hrest⟩ := Fallible.bind_eq_ok.1 h
  split at hrest
  next => cases hrest
  next =>
    cases hrest
    exact (walk_valid valid_start hfound).wellFormed

end TowerMcp
