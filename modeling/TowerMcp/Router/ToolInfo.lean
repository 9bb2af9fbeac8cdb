import TowerMcp.Router.Agreement

/-!
# What is said about a tool before it is called

The map of annotations that transports hand to middleware, and the input schema that header validation
reads. Each merges the static registry with the dynamic one on its own. The schema is always that of
the tool a call runs. The annotations are, unless the static tool of a name has none and a dynamic tool
of that name has some: the dynamic tool's are then handed out for the static tool.
-/

namespace TowerMcp

namespace McpRouter

def addAnnotations (disabled : KeySet) (map : FinMap String Json) (tool : Tool) :
    FinMap String Json :=
  if tool.name ∈ disabled then map
  else
    match tool.annotations with
    | some annotations => map.insert tool.name annotations
    | none => map

def toolAnnotationsMap (router : McpRouter) : FinMap String Json :=
  let map := router.tools.list.foldl (addAnnotations router.disabledTools) ∅
  (router.dynamicTools.getD .empty).list.foldl
    (fun map tool =>
      if tool.name ∈ map then map else addAnnotations router.disabledTools map tool) map

def toolInputSchema (router : McpRouter) (name : String) : Option Json :=
  match router.tools.get name with
  | some tool => some tool.inputSchema
  | none => (router.dynamicTools.bind (·.get name)).map (·.inputSchema)

def BorrowsAnnotations (router : McpRouter) (name : String) : Prop :=
  (router.tools.get name).any (fun tool => tool.annotations.isNone) = true ∧
    (router.dynamicTools.bind (·.get name)).any (fun tool => tool.annotations.isSome) = true

instance (router : McpRouter) (name : String) : Decidable (router.BorrowsAnnotations name) :=
  inferInstanceAs (Decidable (_ ∧ _))

variable {disabled : KeySet} {name : String}

theorem lookup_add_annotations_of_ne {map : FinMap String Json} {tool : Tool}
    (h : tool.name ≠ name) : (addAnnotations disabled map tool).lookup name = map.lookup name := by
  unfold addAnnotations
  split
  next => rfl
  next =>
    split
    next => rw [FinMap.lookup_insert_eq_ite, if_neg (Ne.symm h)]
    next => rfl

theorem lookup_add_annotations_self {map : FinMap String Json} {tool : Tool}
    (henabled : tool.name ∉ disabled) :
    (addAnnotations disabled map tool).lookup tool.name =
      tool.annotations.or (map.lookup tool.name) := by
  unfold addAnnotations
  rw [if_neg henabled]
  cases tool.annotations with
  | none => rfl
  | some annotations => rw [FinMap.lookup_insert_eq_ite, if_pos rfl, Option.some_or]

theorem lookup_static_annotations (tools : Registry Tool Tool.name) (henabled : name ∉ disabled) :
    (tools.list.foldl (addAnnotations disabled) ∅).lookup name =
      (tools.get name).bind (·.annotations) := by
  have htwice : ∀ (tool : Tool) (found : Option Json),
      tool.annotations.or (tool.annotations.or found) = tool.annotations.or found := by
    intro tool found
    rw [← Option.or_assoc, Option.or_self]
  have hself : ∀ (map : FinMap String Json) (tool : Tool), tool.name = name →
      (addAnnotations disabled map tool).lookup name = tool.annotations.or (map.lookup name) := by
    intro map tool hname
    rw [← hname] at henabled ⊢
    exact lookup_add_annotations_self henabled
  have hfold := Registry.lookup_foldl_list tools
    (fun tool found => tool.annotations.or found) htwice
    (fun _ _ hother => lookup_add_annotations_of_ne hother) hself ∅
  rw [hfold]
  cases tools.get name with
  | none => rfl
  | some tool => exact Option.or_none

theorem lookup_dynamic_annotations (tools : Registry Tool Tool.name) (henabled : name ∉ disabled)
    (map : FinMap String Json) :
    (tools.list.foldl
        (fun map tool => if tool.name ∈ map then map else addAnnotations disabled map tool)
        map).lookup name =
      (map.lookup name).or ((tools.get name).bind (·.annotations)) := by
  have htwice : ∀ (tool : Tool) (found : Option Json),
      (found.or tool.annotations).or tool.annotations = found.or tool.annotations := by
    intro tool found
    rw [Option.or_assoc, Option.or_self]
  have hself : ∀ (map : FinMap String Json) (tool : Tool), tool.name = name →
      (if tool.name ∈ map then map else addAnnotations disabled map tool).lookup name =
        (map.lookup name).or tool.annotations := by
    intro map tool hname
    rw [← hname] at henabled ⊢
    split
    next hmem =>
      obtain ⟨annotations, hlookup⟩ := FinMap.mem_iff_lookup.1 hmem
      rw [hlookup, Option.some_or]
    next hmem =>
      rw [lookup_add_annotations_self henabled, AList.lookup_eq_none.2 hmem, Option.or_none,
        Option.none_or]
  have hother : ∀ (map : FinMap String Json) (tool : Tool), tool.name ≠ name →
      (if tool.name ∈ map then map else addAnnotations disabled map tool).lookup name =
        map.lookup name := by
    intro map tool hne
    split
    next => rfl
    next => exact lookup_add_annotations_of_ne hne
  have hfold := Registry.lookup_foldl_list tools
    (fun tool found => found.or tool.annotations) htwice hother hself map
  rw [hfold]
  cases tools.get name with
  | none => exact Option.or_none.symm
  | some tool => rfl

theorem lookup_tool_annotations_map (router : McpRouter) (henabled : name ∉ router.disabledTools) :
    router.toolAnnotationsMap.lookup name =
      ((router.tools.get name).bind (·.annotations)).or
        ((router.dynamicTools.bind (·.get name)).bind (·.annotations)) := by
  unfold toolAnnotationsMap
  rw [lookup_dynamic_annotations _ henabled, lookup_static_annotations _ henabled]
  cases router.dynamicTools <;> rfl

theorem tool_input_schema_eq (router : McpRouter) (name : String) :
    router.toolInputSchema name = (router.findTool name).map (·.inputSchema) := by
  unfold toolInputSchema findTool
  cases router.tools.get name <;> rfl

/-- For every tool that a call runs, the schema read for its name is its schema, and the annotations
handed out under its name are its annotations exactly when they are not those of a dynamic tool that
the static tool lies over. -/
theorem annotations_and_schema_of_called_tool_iff {router : McpRouter} {extensions : Extensions}
    {params : CallToolParams} {tool : Tool} {ttl : Option (Option ℕ)}
    (hcall : router.callTool extensions params = .ok (tool, ttl)) :
    router.toolAnnotationsMap.lookup params.name = tool.annotations ∧
        router.toolInputSchema params.name = some tool.inputSchema ↔
      ¬router.BorrowsAnnotations params.name := by
  obtain ⟨henabled, hfind, _, _⟩ := call_tool_ok_iff.1 hcall
  have hschema : router.toolInputSchema params.name = some tool.inputSchema := by
    rw [tool_input_schema_eq, hfind]
    rfl
  rw [and_iff_left hschema, lookup_tool_annotations_map router henabled]
  unfold findTool at hfind
  unfold BorrowsAnnotations
  cases hstatic : router.tools.get params.name with
  | none =>
    rw [hstatic, Option.none_or] at hfind
    rw [hfind]
    simp
  | some static =>
    rw [hstatic, Option.some_or] at hfind
    obtain rfl := Option.some.inj hfind
    cases hdynamic : router.dynamicTools.bind (·.get params.name) with
    | none => simp
    | some dynamic =>
      cases hown : static.annotations with
      | none => simp [hown]
      | some annotations => simp [hown]

/-- A static `deploy` without annotations, and a dynamic tool that says it only reads. -/
def annotatedRouter (dynamicName : String) : McpRouter where
  tools := Registry.empty.register { name := "deploy", handler := 0 }
  dynamicTools := some (Registry.empty.register
    { name := dynamicName
      annotations := some (.object [("readOnlyHint", .bool true)])
      handler := 1 })

theorem annotations_and_schema_of_called_tool_iff_apart :
    (annotatedRouter "status").toolAnnotationsMap.lookup "deploy" = none ∧
      (annotatedRouter "status").toolInputSchema "deploy" = some .null := by
  have hcall : (annotatedRouter "status").callTool {} { name := "deploy" } =
      .ok ({ name := "deploy", handler := 0 }, none) := rfl
  exact (annotations_and_schema_of_called_tool_iff hcall).2 (by decide)

/-- A call of `deploy` runs the static tool, which has no annotations; middleware is told that it only
reads. -/
theorem static_tool_borrows_annotations :
    ¬∀ (router : McpRouter) (extensions : Extensions) (params : CallToolParams) (tool : Tool)
      (ttl : Option (Option ℕ)), router.callTool extensions params = .ok (tool, ttl) →
      router.toolAnnotationsMap.lookup params.name = tool.annotations ∧
        router.toolInputSchema params.name = some tool.inputSchema := by
  intro h
  have hcall : (annotatedRouter "deploy").callTool {} { name := "deploy" } =
      .ok ({ name := "deploy", handler := 0 }, none) := rfl
  have hnone : (annotatedRouter "deploy").toolAnnotationsMap.lookup "deploy" = none :=
    (h _ _ _ _ _ hcall).1
  have hsome : (annotatedRouter "deploy").toolAnnotationsMap.lookup "deploy" =
      some (.object [("readOnlyHint", .bool true)]) := by
    decide
  rw [hnone] at hsome
  cases hsome

end McpRouter

end TowerMcp
