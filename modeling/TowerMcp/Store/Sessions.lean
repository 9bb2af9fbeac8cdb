import TowerMcp.Lib.Execution
import TowerMcp.Lib.Fallible
import TowerMcp.Lib.Json
import TowerMcp.Lib.Registry

/-!
# Session stores

The records a session is restored from, the in-memory store that holds them, and the caching store
that writes to a backend and then to a cache and loads from the cache first.
-/

namespace TowerMcp

open Fallible

structure SessionRecord where
  id : String
  protocolVersion : String
  clientInfo : Option Json := none
  clientCapabilities : Option Json := none
  createdAt : ℕ := 0
  lastAccessed : ℕ := 0
  expiresAt : ℕ
  principal : Option String := none
deriving DecidableEq

namespace SessionRecord

def touch (record : SessionRecord) (ttl now : ℕ) : SessionRecord :=
  { record with lastAccessed := now, expiresAt := now + ttl }

def isExpired (record : SessionRecord) (now : ℕ) : Bool :=
  decide (now ≥ record.expiresAt)

end SessionRecord

inductive SessionStoreError where
  | encode (message : String)
  | decode (message : String)
  | backend (message : String)
deriving DecidableEq

abbrev MemorySessionStore := Registry SessionRecord SessionRecord.id

namespace MemorySessionStore

def freeId (store : MemorySessionStore) (id : String) : List String → Option String
  | [] => if (store.get id).isSome then none else some id
  | generated :: rest => if (store.get id).isSome then freeId store generated rest else some id

def create (store : MemorySessionStore) (record : SessionRecord) (generated : List String) :
    Option (SessionRecord × MemorySessionStore) :=
  (freeId store record.id generated).map fun id =>
    ({ record with id }, store.register { record with id })

def save (store : MemorySessionStore) (record : SessionRecord) : MemorySessionStore :=
  store.register record

def load (store : MemorySessionStore) (id : String) (now : ℕ) : Option SessionRecord :=
  (store.get id).filter fun record => !record.isExpired now

def delete (store : MemorySessionStore) (id : String) : MemorySessionStore :=
  store.unregister id

def cleanupExpired (store : MemorySessionStore) (now : ℕ) : MemorySessionStore :=
  store.retain fun record => !record.isExpired now

variable {store : MemorySessionStore}

variable {record created : SessionRecord} {generated : List String} {after : MemorySessionStore}

theorem create_eq_save (h : create store record generated = some (created, after)) :
    after = save store created := by
  obtain ⟨id, _, heq⟩ := Option.map_eq_some_iff.1 h
  cases heq
  rfl

theorem principal_of_create (h : create store record generated = some (created, after)) :
    created.principal = record.principal := by
  obtain ⟨id, _, heq⟩ := Option.map_eq_some_iff.1 h
  cases heq
  rfl

variable {id : String}

theorem get_free_id {free : String} (h : freeId store id generated = some free) :
    store.get free = none := by
  induction generated generalizing id with
  | nil =>
    obtain ⟨hfree, heq⟩ := Option.ite_none_left_eq_some.1 h
    cases heq
    simpa using hfree
  | cons following rest ih =>
    unfold freeId at h
    split at h
    next => exact ih h
    next hfree =>
      cases h
      simpa using hfree

theorem id_of_create_iff (h : create store record generated = some (created, after)) :
    created.id = record.id ↔ store.get record.id = none := by
  obtain ⟨id, hid, heq⟩ := Option.map_eq_some_iff.1 h
  cases heq
  constructor
  · intro hsame
    have hfree := get_free_id hid
    rwa [show id = record.id from hsame] at hfree
  · intro hfree
    cases generated with
    | nil =>
      unfold freeId at hid
      rw [hfree] at hid
      exact (Option.some.inj hid).symm
    | cons following rest =>
      unfold freeId at hid
      rw [hfree] at hid
      exact (Option.some.inj hid).symm

theorem get_save (store : MemorySessionStore) (record : SessionRecord) (id : String) :
    (save store record).get id = if id = record.id then some record else store.get id :=
  store.get_register record id

theorem get_delete (store : MemorySessionStore) (removed id : String) :
    (delete store removed).get id = if id = removed then none else store.get id :=
  store.get_unregister removed id

theorem get_cleanup_expired {now : ℕ} :
    (cleanupExpired store now).get id = some record ↔
      store.get id = some record ∧ now < record.expiresAt := by
  unfold cleanupExpired
  rw [store.get_retain, Option.filter_eq_some_iff]
  simp [SessionRecord.isExpired]

theorem load_eq_some_iff {now : ℕ} :
    load store id now = some record ↔ store.get id = some record ∧ now < record.expiresAt := by
  simp [load, Option.filter_eq_some_iff, SessionRecord.isExpired]

end MemorySessionStore

end TowerMcp
