import TowerMcp.Client.StaleFallback
import TowerMcp.Lib.Chains

/-!
# Walks along the pages of a list

`list_all_tools` and its siblings ask for pages until one has no next cursor. The server is a function
from cursors to pages, and a page may come out of the response cache. `walks_end_iff` says when a walk
ends and what it gives.
-/

namespace TowerMcp.CursorWalks

open StaleFallback

structure Page (α : Type) where
  items : List α
  nextCursor : Option String
deriving DecidableEq

structure Client (α : Type) where
  codec : Codec (Page α)
  config : ClientCacheConfig
  clockRange : ℕ
  cacheAllowed : Bool
  paginationCacheKey : Option String → String

structure Walk (α : Type) where
  cache : CacheState
  cursor : Option String := none
  all : List α := []
  asked : List (Option String) := []

section Model

variable {α : Type} (client : Client α) (server : Option String → Page α)
  (method : CacheableMethod)

def writeCachedResponse (cache : CacheState) (now : ℕ) (params : String) (generation : ℕ)
    (page : Page α) : CacheState :=
  match client.codec.toValue page with
  | .ok value =>
    cache.write client.config client.clockRange now method params generation value
      (client.codec.ttlMs page) (client.codec.cacheScope page) 0
  | .error _ => cache.releaseGeneration method params

/-- `send_cacheable_request` to a server that answers. -/
def sendCacheableRequest (cache : CacheState) (now : ℕ) (cursor : Option String) :
    Page α × CacheState :=
  if client.cacheAllowed && client.config.enabled then
    let params := client.paginationCacheKey cursor
    let (generation, captured) := cache.captureGeneration method params
    let send := fun (cache : CacheState) =>
      (server cursor,
        writeCachedResponse client method cache now params generation (server cursor))
    match captured.lookup client.config now method params with
    | .fresh value =>
      match client.codec.decodeCached method value with
      | some page => (page, captured.releaseGeneration method params)
      | none => send (captured.evictMethod method)
    | .stale _ => send captured
    | .miss => send captured
  else (server cursor, cache)

def turn (now : ℕ) (walk : Walk α) : Walk α :=
  let (page, cache) := sendCacheableRequest client server method walk.cache now walk.cursor
  { cache
    cursor := page.nextCursor
    all := walk.all ++ page.items
    asked := walk.asked ++ [walk.cursor] }

def listAll (clock : ℕ → ℕ) : ℕ → Walk α → Option (Walk α)
  | 0, _ => none
  | fuel + 1, walk =>
    let next := turn client server method (clock walk.asked.length) walk
    if next.cursor.isSome then listAll clock fuel next else some next

def listAllTools := listAll client server .toolsList
def listAllResources := listAll client server .resourcesList
def listAllResourceTemplates := listAll client server .resourceTemplatesList
def listAllPrompts := listAll client server .promptsList

/-! ## What the cache gives -/

structure Client.Lawful : Prop where
  key_injective : client.paginationCacheKey.Injective
  read_back : ∀ {page read : Page α} {value : Json}, client.codec.toValue page = .ok value →
    client.codec.decodeCached method value = some read → read = page

def Truthful (cache : CacheState) : Prop :=
  ∀ key entry cursor page, cache.entries.lookup key = some entry → key.method = method →
    key.params = client.paginationCacheKey cursor →
    client.codec.decodeCached method entry.value = some page → page = server cursor

def nextCursor (cursor : Option String) : Option (Option String) :=
  (server cursor).nextCursor.map some

end Model

variable {α : Type} {client : Client α} {server : Option String → Page α}
  {method : CacheableMethod} {cache : CacheState}

theorem Truthful.of_lookup {other : CacheState} (h : Truthful client server method cache)
    (hkept : ∀ key entry, other.entries.lookup key = some entry →
      cache.entries.lookup key = some entry) : Truthful client server method other :=
  fun key entry cursor page hentry => h key entry cursor page (hkept key entry hentry)

theorem Truthful.write (h : Truthful client server method cache)
    (hlawful : client.Lawful method)
    (now : ℕ) (cursor : Option String) (generation : ℕ) :
    Truthful client server method (writeCachedResponse client method cache now
      (client.paginationCacheKey cursor) generation (server cursor)) := by
  unfold writeCachedResponse
  cases hvalue : client.codec.toValue (server cursor) with
  | error error =>
    refine h.of_lookup fun key entry hentry => ?_
    rwa [CacheState.releaseGeneration, CacheState.finish_entries] at hentry
  | ok value =>
    intro key entry other page hentry hmethod hparams hread
    rcases CacheState.lookup_write hentry with hbefore | ⟨-, -, hwritten, -, hentryValue, -⟩
    · exact h key entry other page hbefore hmethod hparams hread
    · obtain rfl := hlawful.key_injective (hwritten.symm.trans hparams)
      rw [hentryValue] at hread
      exact hlawful.read_back hvalue hread

theorem Truthful.fresh (h : Truthful client server method cache) {now : ℕ}
    {cursor : Option String} {value : Json} {page : Page α}
    (hlookup : cache.lookup client.config now method (client.paginationCacheKey cursor) =
      .fresh value)
    (hread : client.codec.decodeCached method value = some page) : page = server cursor := by
  unfold CacheState.lookup at hlookup
  split at hlookup
  next key entry hentry =>
    split at hlookup
    next =>
      cases hlookup
      obtain ⟨hheld, hmethod, hparams⟩ := CacheState.find_entry_some hentry
      exact h key entry cursor page hheld hmethod hparams hread
    next => cases hlookup
  next => cases hlookup

theorem send_cacheable_request_spec (h : Truthful client server method cache)
    (hlawful : client.Lawful method)
    (now : ℕ) (cursor : Option String) :
    (sendCacheableRequest client server method cache now cursor).1 = server cursor ∧
      Truthful client server method
        (sendCacheableRequest client server method cache now cursor).2 := by
  unfold sendCacheableRequest
  split
  next =>
    have hcaptured : Truthful client server method
        (cache.captureGeneration method (client.paginationCacheKey cursor)).2 :=
      h.of_lookup fun _ _ hentry => hentry
    have hsent (generation : ℕ) {asked : CacheState} (h : Truthful client server method asked) :=
      h.write hlawful now cursor generation
    dsimp only
    split
    next value hlookup =>
      split
      next page hread =>
        refine ⟨hcaptured.fresh hlookup hread, hcaptured.of_lookup fun key entry hentry => ?_⟩
        rwa [CacheState.releaseGeneration, CacheState.finish_entries] at hentry
      next =>
        refine ⟨rfl, hsent _ (hcaptured.of_lookup fun key entry hentry => ?_)⟩
        obtain ⟨hbefore, -⟩ := CacheState.lookup_retain hentry
        rwa [CacheState.bump_entries] at hbefore
    next => exact ⟨rfl, hsent _ hcaptured⟩
    next => exact ⟨rfl, hsent _ hcaptured⟩
  next => exact ⟨rfl, h⟩

/-! ## Walks -/

structure Reached (client : Client α) (server : Option String → Page α)
    (method : CacheableMethod) (walk : Walk α) : Prop where
  truthful : Truthful client server method walk.cache
  asked : walk.asked.map some =
    (List.range walk.asked.length).map (Chain.nth (nextCursor server) none)
  all : walk.all = walk.asked.flatMap fun cursor => (server cursor).items

variable {walk final : Walk α}

theorem Reached.turned (h : Reached client server method walk)
    (hlawful : client.Lawful method)
    (hcursor : Chain.nth (nextCursor server) none walk.asked.length = some walk.cursor)
    (now : ℕ) :
    Reached client server method (turn client server method now walk) ∧
      (turn client server method now walk).asked.length = walk.asked.length + 1 ∧
      (turn client server method now walk).cursor = (server walk.cursor).nextCursor := by
  obtain ⟨hpage, htruthful⟩ := send_cacheable_request_spec h.truthful hlawful now walk.cursor
  unfold turn
  refine ⟨⟨htruthful, ?_, ?_⟩, List.length_append, congrArg Page.nextCursor hpage⟩
  · show (walk.asked ++ [walk.cursor]).map some = _
    rw [List.map_append, h.asked, List.length_append, List.length_singleton, List.range_succ,
      List.map_append, List.map_singleton, List.map_singleton, hcursor]
  · show walk.all ++ _ = (walk.asked ++ [walk.cursor]).flatMap _
    rw [hpage, h.all, List.flatMap_append, List.flatMap_singleton]

theorem nth_after
    (hcursor : Chain.nth (nextCursor server) none walk.asked.length = some walk.cursor) :
    Chain.nth (nextCursor server) none (walk.asked.length + 1) =
      (server walk.cursor).nextCursor.map some := by
  rw [Chain.nth, hcursor]
  rfl

variable {clock : ℕ → ℕ} {fuel : ℕ}

theorem Reached.of_list_all (h : Reached client server method walk) (hlawful : client.Lawful method)
    (hcursor : Chain.nth (nextCursor server) none walk.asked.length = some walk.cursor)
    (hrun : listAll client server method clock fuel walk = some final) :
    Reached client server method final ∧
      Chain.nth (nextCursor server) none final.asked.length = none := by
  induction fuel generalizing walk with
  | zero => cases hrun
  | succ fuel ih =>
    obtain ⟨hnext, hlength, hmoved⟩ := h.turned hlawful hcursor (clock walk.asked.length)
    have hafter := nth_after hcursor
    rw [← hlength, ← hmoved] at hafter
    unfold listAll at hrun
    dsimp only at hrun
    split at hrun
    next hsome =>
      obtain ⟨cursor, hcursor⟩ := Option.isSome_iff_exists.1 hsome
      rw [hcursor] at hafter
      exact ih hnext (hafter.trans (congrArg some hcursor.symm)) hrun
    next hnone =>
      cases hrun
      rw [Option.not_isSome_iff_eq_none.1 hnone] at hafter
      exact ⟨hnext, hafter⟩

theorem Reached.ends (h : Reached client server method walk) (hlawful : client.Lawful method)
    (hcursor : Chain.nth (nextCursor server) none walk.asked.length = some walk.cursor) {left : ℕ}
    (hnone : Chain.nth (nextCursor server) none (walk.asked.length + left) = none) :
    ∃ fuel final, listAll client server method clock fuel walk = some final := by
  induction left generalizing walk with
  | zero => cases hcursor.symm.trans hnone
  | succ left ih =>
    obtain ⟨hnext, hlength, hmoved⟩ := h.turned hlawful hcursor (clock walk.asked.length)
    have hafter := nth_after hcursor
    rw [← hlength, ← hmoved] at hafter
    cases hsome : (turn client server method (clock walk.asked.length) walk).cursor with
    | none =>
      refine ⟨1, turn client server method (clock walk.asked.length) walk, ?_⟩
      rw [listAll]
      simp [hsome]
    | some cursor =>
      rw [hsome] at hafter
      obtain ⟨fuel, final, hrun⟩ := ih hnext (hafter.trans (congrArg some hsome.symm))
        (by rw [hlength, Nat.add_assoc, Nat.add_comm 1]; exact hnone)
      refine ⟨fuel + 1, final, ?_⟩
      rw [listAll]
      simpa [hsome] using hrun

theorem Reached.nodup (h : Reached client server method walk)
    (hfresh : Chain.NoRepetition (nextCursor server) none) : walk.asked.Nodup := by
  refine List.Nodup.of_map some (h.asked ▸ List.Nodup.map_on ?_ List.nodup_range)
  intro i hi j hj hsame
  have hmem : Chain.nth (nextCursor server) none i ∈ walk.asked.map some :=
    h.asked ▸ List.mem_map_of_mem hi
  obtain ⟨cursor, -, hcursor⟩ := List.mem_map.1 hmem
  rcases Nat.lt_trichotomy i j with hlt | heq | hlt
  · exact absurd (hsame.symm.trans hcursor.symm) (hfresh i j cursor hlt hcursor.symm)
  · exact heq
  · exact absurd hcursor.symm (hfresh j i cursor hlt (hsame.symm.trans hcursor.symm))

structure Complete (server : Option String → Page α) (final : Walk α) : Prop where
  nodup : final.asked.Nodup
  asked : final.asked.map some =
    (List.range final.asked.length).map (Chain.nth (nextCursor server) none)
  last : Chain.nth (nextCursor server) none final.asked.length = none
  all : final.all = final.asked.flatMap fun cursor => (server cursor).items

/-- Over finitely many cursors each of the four walks ends exactly when no cursor comes back, with
the cache and without, and is complete then. -/
theorem walks_end_iff (client : Client α) (server : Option String → Page α) (cache : CacheState)
    (clock : ℕ → ℕ) (hlawful : ∀ method, client.Lawful method)
    (htruthful : ∀ method, Truthful client server method cache)
    (hfinite : {cursor | ∃ before, (server before).nextCursor = some cursor}.Finite) :
    ∀ walkAll ∈ [listAllTools client server clock, listAllResources client server clock,
        listAllResourceTemplates client server clock, listAllPrompts client server clock],
      ((∃ fuel final, walkAll fuel { cache } = some final) ↔
          Chain.NoRepetition (nextCursor server) none) ∧
        ∀ fuel final, walkAll fuel { cache } = some final → Complete server final := by
  have hcursors : {value | ∃ before, nextCursor server before = some value}.Finite := by
    refine (hfinite.image some).subset ?_
    rintro value ⟨before, hnext⟩
    obtain ⟨cursor, hcursor, rfl⟩ := Option.map_eq_some_iff.1 hnext
    exact ⟨cursor, ⟨before, hcursor⟩, rfl⟩
  have hends := @Chain.ends_iff _ (nextCursor server) none hcursors
  have hwalk (method : CacheableMethod) :
      ((∃ fuel final, listAll client server method clock fuel { cache } = some final) ↔
          Chain.NoRepetition (nextCursor server) none) ∧
        ∀ fuel final, listAll client server method clock fuel { cache } = some final →
          Complete server final := by
    have hstart : Reached client server method { cache } := ⟨htruthful method, rfl, rfl⟩
    refine ⟨⟨?_, fun hfresh => ?_⟩, fun fuel final hrun => ?_⟩
    · rintro ⟨fuel, final, hrun⟩
      exact hends.1 ⟨_, (hstart.of_list_all (hlawful method) rfl hrun).2⟩
    · obtain ⟨n, hnone⟩ := hends.2 hfresh
      exact hstart.ends (hlawful method) rfl (by rw [List.length_nil, Nat.zero_add]; exact hnone)
    · obtain ⟨hreached, hnone⟩ := hstart.of_list_all (hlawful method) rfl hrun
      exact ⟨hreached.nodup (hends.1 ⟨_, hnone⟩), hreached.asked, hnone, hreached.all⟩
  simp only [List.forall_mem_cons]
  exact ⟨hwalk .toolsList, hwalk .resourcesList, hwalk .resourceTemplatesList,
    hwalk .promptsList, nofun⟩

def textClient (cacheAllowed : Bool) : Client Json where
  codec :=
    { decodeCached := fun _ value =>
        match value with
        | .object [("tools", .array items)] => some ⟨items, none⟩
        | .object [("tools", .array items), ("nextCursor", .string cursor)] =>
          some ⟨items, some cursor⟩
        | _ => none
      toValue := fun page =>
        .ok (.object (("tools", .array page.items) ::
          (page.nextCursor.map fun cursor => ("nextCursor", Json.string cursor)).toList))
      ttlMs := fun _ => some 1000
      cacheScope := fun _ => none }
  config := {}
  clockRange := 2 ^ 63
  cacheAllowed
  paginationCacheKey := fun cursor =>
    match cursor with
    | none => "null"
    | some cursor => "\"" ++ cursor ++ "\""

def twoPages : Option String → Page Json
  | none => ⟨[.string "alpha"], some "1"⟩
  | some _ => ⟨[.string "beta"], none⟩

theorem text_client_lawful (cacheAllowed : Bool) (method : CacheableMethod) :
    (textClient cacheAllowed).Lawful method where
  key_injective := by
    intro first second hkey
    have hchars := congrArg String.toList hkey
    cases first with
    | none =>
      cases second with
      | none => rfl
      | some second => simp [textClient] at hchars
    | some first =>
      cases second with
      | none => simp [textClient] at hchars
      | some second => exact congrArg some (String.ext (by simpa [textClient] using hchars))
  read_back := by
    rintro ⟨items, nextCursor⟩ read value hvalue hread
    cases hvalue
    cases nextCursor <;> exact (Option.some.inj hread).symm

theorem two_pages_walked :
    (∃ fuel final, listAllTools (textClient true) twoPages id fuel { cache := .new {} } =
        some final) ↔
      Chain.NoRepetition (nextCursor twoPages) none :=
  (walks_end_iff (textClient true) twoPages (.new {}) id (text_client_lawful true)
    (fun _ key entry _ _ hentry => by cases hentry)
    ((Set.finite_singleton "1").subset (by
      rintro cursor ⟨_ | _, hnext⟩
      · exact (Option.some.inj hnext).symm
      · cases hnext)) _ List.mem_cons_self).1

/-- A server that gives the same cursor again is asked for ever. -/
theorem repeated_cursor_walked :
    ¬∀ (client : Client Json) (server : Option String → Page Json) (cache : CacheState)
        (clock : ℕ → ℕ), {cursor | ∃ before, (server before).nextCursor = some cursor}.Finite →
      ∃ fuel final, listAllTools client server clock fuel { cache } = some final := by
  intro h
  obtain ⟨fuel, final, hrun⟩ := h (textClient false) (fun _ => ⟨[], some "a"⟩) (.new {}) id
    ((Set.finite_singleton "a").subset (by
      rintro cursor ⟨_, hnext⟩
      exact (Option.some.inj hnext).symm))
  have hnone (fuel : ℕ) (walk : Walk Json) :
      listAll (textClient false) (fun _ => ⟨[], some "a"⟩) .toolsList id fuel walk = none := by
    induction fuel generalizing walk with
    | zero => rfl
    | succ fuel ih => exact ih _
  cases hrun.symm.trans (hnone fuel _)

end TowerMcp.CursorWalks
