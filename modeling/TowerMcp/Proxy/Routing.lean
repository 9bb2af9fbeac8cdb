import TowerMcp.Router.Capability
import TowerMcp.Types.Text

/-!
# Names behind a proxy

What the proxy makes of the names of its backends, after `proxy/service.rs`: an entry prefixes them by
its namespace and the separator, and a request goes to the first entry whose prefix it has.
`routes_back_of_unambiguous` says that every listed name goes back to where it comes from when no
prefix is a prefix of another, and `validate_namespace_eq_ok_iff` that the check of a new namespace
keeps it so.
-/

namespace TowerMcp

structure CachedCapabilities where
  tools : List ToolDefinition := []
  resources : List ResourceDefinition := []
  resourceTemplates : List ResourceTemplateDefinition := []
  prompts : List PromptDefinition := []

structure BackendEntry where
  ns : String
  separator : String
  client : ℕ
deriving DecidableEq

inductive AddBackendError where
  | duplicateNamespace (ns : String)
  | ambiguousPrefix (newNamespace existingNamespace : String)
  | connect
  | initialization
deriving DecidableEq

namespace BackendEntry

variable (self : BackendEntry)

def namePrefix : String :=
  self.ns ++ self.separator

def stripPrefix (name : String) : Option String :=
  (TowerMcp.stripPrefix name.toList self.namePrefix.toList).map String.ofList

def stripUriPrefix (uri : String) : Option String :=
  (TowerMcp.stripPrefix uri.toList self.namePrefix.toList).map String.ofList

def prefixedName (name : String) : String :=
  self.namePrefix ++ name

def prefixedUri (uri : String) : String :=
  self.namePrefix ++ uri

end BackendEntry

def startsWith (text start : String) : Bool :=
  start.toList.isPrefixOf text.toList

def validateNamespace (ns separator : String) :
    List BackendEntry → Except AddBackendError Unit
  | [] => .ok ()
  | entry :: rest =>
    if entry.ns = ns then .error (.duplicateNamespace ns)
    else if startsWith (ns ++ separator) entry.namePrefix ||
        startsWith entry.namePrefix (ns ++ separator) then
      .error (.ambiguousPrefix ns entry.ns)
    else validateNamespace ns separator rest

def routeByPrefix : List BackendEntry → String → Option (ℕ × String)
  | [], _ => none
  | entry :: rest, name =>
    match entry.stripPrefix name with
    | some stripped => some (0, stripped)
    | none => (routeByPrefix rest name).map fun route => (route.1 + 1, route.2)

def routeByUriPrefix : List BackendEntry → String → Option (ℕ × String)
  | [], _ => none
  | entry :: rest, uri =>
    match entry.stripUriPrefix uri with
    | some stripped => some (0, stripped)
    | none => (routeByUriPrefix rest uri).map fun route => (route.1 + 1, route.2)

/-! ## Lists -/

section Lists

variable (entries : List BackendEntry) (caches : ℕ → CachedCapabilities)

/-- The answer to `tools/list`. -/
def handleListTools : List ToolDefinition :=
  entries.flatMap fun entry => (caches entry.client).tools.map fun tool =>
    { tool with name := entry.prefixedName tool.name }

/-- The answer to `resources/list`. -/
def handleListResources : List ResourceDefinition :=
  entries.flatMap fun entry => (caches entry.client).resources.map fun resource =>
    { resource with uri := entry.prefixedUri resource.uri, name := entry.prefixedName resource.name }

/-- The answer to `resources/templates/list`. -/
def handleListResourceTemplates : List ResourceTemplateDefinition :=
  entries.flatMap fun entry => (caches entry.client).resourceTemplates.map fun template =>
    { template with
      uriTemplate := entry.prefixedUri template.uriTemplate
      name := entry.prefixedName template.name }

/-- The answer to `prompts/list`. -/
def handleListPrompts : List PromptDefinition :=
  entries.flatMap fun entry => (caches entry.client).prompts.map fun prompt =>
    { prompt with name := entry.prefixedName prompt.name }

end Lists

/-! ## Prefixes -/

def BackendEntry.Apart (first second : BackendEntry) : Prop :=
  ¬first.namePrefix.toList <+: second.namePrefix.toList ∧
    ¬second.namePrefix.toList <+: first.namePrefix.toList

def Unambiguous (entries : List BackendEntry) : Prop :=
  entries.Pairwise BackendEntry.Apart

/-- Whether two entries are apart can be decided. -/
instance (first second : BackendEntry) : Decidable (first.Apart second) :=
  inferInstanceAs (Decidable (_ ∧ _))

/-- Whether entries are unambiguous can be decided. -/
instance (entries : List BackendEntry) : Decidable (Unambiguous entries) :=
  inferInstanceAs (Decidable (entries.Pairwise _))

variable {entry first second : BackendEntry} {entries : List BackendEntry} {name : String}

theorem BackendEntry.Apart.symm (h : first.Apart second) : second.Apart first :=
  ⟨h.2, h.1⟩

@[simp] theorem BackendEntry.strip_prefixed_name (entry : BackendEntry) (name : String) :
    entry.stripPrefix (entry.prefixedName name) = some name := by
  unfold stripPrefix TowerMcp.stripPrefix prefixedName
  rw [String.toList_append, if_pos (List.isPrefixOf_iff_prefix.2 (List.prefix_append _ _)),
    List.drop_left, Option.map_some, String.ofList_toList]

theorem BackendEntry.Apart.strip_prefixed_name (h : first.Apart second) (name : String) :
    first.stripPrefix (second.prefixedName name) = none := by
  unfold stripPrefix TowerMcp.stripPrefix prefixedName
  rw [String.toList_append, if_neg, Option.map_none]
  intro hprefix
  have hcommon := List.isPrefixOf_iff_prefix.1 hprefix
  rcases List.prefix_or_prefix_of_prefix hcommon (List.prefix_append _ name.toList) with hle | hle
  · exact h.1 hle
  · exact h.2 hle

theorem route_prefixed_name (h : Unambiguous entries) {i : ℕ} (hentry : entries[i]? = some entry)
    (name : String) : routeByPrefix entries (entry.prefixedName name) = some (i, name) := by
  induction entries generalizing i with
  | nil => cases hentry
  | cons head rest ih =>
    obtain ⟨hhead, hrest⟩ := List.pairwise_cons.1 h
    cases i with
    | zero =>
      cases hentry
      simp [routeByPrefix]
    | succ i =>
      have hentry : rest[i]? = some entry := hentry
      have happart := hhead entry (List.mem_of_getElem? hentry)
      rw [routeByPrefix, happart.strip_prefixed_name, ih hrest hentry]
      rfl

theorem route_by_uri_prefix_eq (entries : List BackendEntry) (uri : String) :
    routeByUriPrefix entries uri = routeByPrefix entries uri := by
  induction entries with
  | nil => rfl
  | cons head rest ih =>
    rw [routeByUriPrefix, ih]
    rfl

theorem BackendEntry.Apart.prefixed_name_ne (h : first.Apart second) (a b : String) :
    first.prefixedName a ≠ second.prefixedName b := by
  intro heq
  have hstripped := first.strip_prefixed_name a
  rw [heq, h.strip_prefixed_name b] at hstripped
  cases hstripped

/-- Every listed name and URI goes back to the backend it comes from as it was there, and no name of
one backend is a name of another. -/
structure RoutesBack (entries : List BackendEntry) (caches : ℕ → CachedCapabilities) : Prop where
  tools : ∀ tool ∈ handleListTools entries caches, ∃ i entry, entries[i]? = some entry ∧
    ∃ original ∈ (caches entry.client).tools, tool = { original with name := tool.name } ∧
      routeByPrefix entries tool.name = some (i, original.name)
  resources : ∀ resource ∈ handleListResources entries caches, ∃ i entry,
    entries[i]? = some entry ∧ ∃ original ∈ (caches entry.client).resources,
      resource = { original with uri := resource.uri, name := resource.name } ∧
        routeByUriPrefix entries resource.uri = some (i, original.uri) ∧
          routeByPrefix entries resource.name = some (i, original.name)
  resourceTemplates : ∀ template ∈ handleListResourceTemplates entries caches, ∃ i entry,
    entries[i]? = some entry ∧ ∃ original ∈ (caches entry.client).resourceTemplates,
      template = { original with uriTemplate := template.uriTemplate, name := template.name } ∧
        routeByUriPrefix entries template.uriTemplate = some (i, original.uriTemplate) ∧
          routeByPrefix entries template.name = some (i, original.name)
  prompts : ∀ prompt ∈ handleListPrompts entries caches, ∃ i entry, entries[i]? = some entry ∧
    ∃ original ∈ (caches entry.client).prompts, prompt = { original with name := prompt.name } ∧
      routeByPrefix entries prompt.name = some (i, original.name)
  distinct : ∀ (i j : ℕ) (first second : BackendEntry), entries[i]? = some first →
    entries[j]? = some second → i ≠ j → ∀ a b, first.prefixedName a ≠ second.prefixedName b

theorem Unambiguous.apart (h : Unambiguous entries) {i j : ℕ} (hi : entries[i]? = some first)
    (hj : entries[j]? = some second) (hne : i ≠ j) : first.Apart second := by
  obtain ⟨hilt, rfl⟩ := List.getElem?_eq_some_iff.1 hi
  obtain ⟨hjlt, rfl⟩ := List.getElem?_eq_some_iff.1 hj
  rcases Nat.lt_or_gt_of_ne hne with hlt | hgt
  · exact List.pairwise_iff_getElem.1 h i j hilt hjlt hlt
  · exact (List.pairwise_iff_getElem.1 h j i hjlt hilt hgt).symm

theorem routes_back_of_unambiguous (h : Unambiguous entries) (caches : ℕ → CachedCapabilities) :
    RoutesBack entries caches where
  tools tool htool := by
    obtain ⟨entry, hentry, hmap⟩ := List.mem_flatMap.1 htool
    obtain ⟨original, horiginal, rfl⟩ := List.mem_map.1 hmap
    obtain ⟨i, hi⟩ := List.mem_iff_getElem?.1 hentry
    exact ⟨i, entry, hi, original, horiginal, rfl, route_prefixed_name h hi _⟩
  resources resource hresource := by
    obtain ⟨entry, hentry, hmap⟩ := List.mem_flatMap.1 hresource
    obtain ⟨original, horiginal, rfl⟩ := List.mem_map.1 hmap
    obtain ⟨i, hi⟩ := List.mem_iff_getElem?.1 hentry
    refine ⟨i, entry, hi, original, horiginal, rfl, ?_, route_prefixed_name h hi _⟩
    rw [route_by_uri_prefix_eq]
    exact route_prefixed_name h hi _
  resourceTemplates template htemplate := by
    obtain ⟨entry, hentry, hmap⟩ := List.mem_flatMap.1 htemplate
    obtain ⟨original, horiginal, rfl⟩ := List.mem_map.1 hmap
    obtain ⟨i, hi⟩ := List.mem_iff_getElem?.1 hentry
    refine ⟨i, entry, hi, original, horiginal, rfl, ?_, route_prefixed_name h hi _⟩
    rw [route_by_uri_prefix_eq]
    exact route_prefixed_name h hi _
  prompts prompt hprompt := by
    obtain ⟨entry, hentry, hmap⟩ := List.mem_flatMap.1 hprompt
    obtain ⟨original, horiginal, rfl⟩ := List.mem_map.1 hmap
    obtain ⟨i, hi⟩ := List.mem_iff_getElem?.1 hentry
    exact ⟨i, entry, hi, original, horiginal, rfl, route_prefixed_name h hi _⟩
  distinct _ _ _ _ hi hj hne := (h.apart hi hj hne).prefixed_name_ne

theorem BackendEntry.Apart.namespace_ne (h : first.Apart second)
    (hseparator : first.separator = second.separator) : first.ns ≠ second.ns := by
  intro hnamespace
  have hsame : first.namePrefix = second.namePrefix := by
    rw [BackendEntry.namePrefix, BackendEntry.namePrefix, hnamespace, hseparator]
  exact h.1 (hsame ▸ List.prefix_rfl)

theorem validate_namespace_eq_ok_iff
    (hseparator : ∀ entry ∈ entries, entry.separator = second.separator) :
    validateNamespace second.ns second.separator entries = .ok () ↔
      ∀ entry ∈ entries, entry.Apart second := by
  induction entries with
  | nil => simp [validateNamespace]
  | cons head rest ih =>
    have hhead := hseparator head List.mem_cons_self
    have hrest := ih fun entry hentry => hseparator entry (List.mem_cons_of_mem head hentry)
    rw [validateNamespace, List.forall_mem_cons]
    split
    next hduplicate =>
      exact ⟨nofun, fun h => absurd hduplicate (h.1.namespace_ne hhead)⟩
    next =>
      have hambiguous : (startsWith (second.ns ++ second.separator) head.namePrefix ||
          startsWith head.namePrefix (second.ns ++ second.separator)) = true ↔
            ¬head.Apart second := by
        simp only [startsWith, Bool.or_eq_true, List.isPrefixOf_iff_prefix,
          BackendEntry.Apart, BackendEntry.namePrefix, not_and_or, not_not]
      split
      next h => exact ⟨nofun, fun hall => absurd hall.1 (hambiguous.1 h)⟩
      next h =>
        rw [hrest, and_iff_right (not_not.1 fun hnot => h (hambiguous.2 hnot))]

theorem unambiguous_append_iff (h : Unambiguous entries)
    (hseparator : ∀ entry ∈ entries, entry.separator = second.separator) :
    Unambiguous (entries ++ [second]) ↔
      validateNamespace second.ns second.separator entries = .ok () := by
  rw [validate_namespace_eq_ok_iff hseparator, Unambiguous, List.pairwise_append]
  constructor
  · rintro ⟨-, -, hlast⟩ entry hentry
    exact hlast entry hentry second (List.mem_singleton.2 rfl)
  · intro hall
    refine ⟨h, List.pairwise_singleton _ _, fun entry hentry last hlast => ?_⟩
    rw [List.mem_singleton.1 hlast]
    exact hall entry hentry

end TowerMcp
