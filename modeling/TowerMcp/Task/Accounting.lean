import TowerMcp.Task.Prices
import TowerMcp.Task.Store

/-!
# The totals follow the records

`Accounted` is the invariant of the store's bookkeeping: the two totals are the sums over the
records, together they stay within the limit, and every record is well formed. The module shows
what each way of writing the map does to it: a replacement, an admission, a removal, and a pass of
`retireExpired`, whose checked sums never fail on accounted data.
-/

namespace TowerMcp

open FinMap Fallible

structure Accounted (limits : TaskRetentionLimits) (data : MemoryTaskStoreData) : Prop where
  retained : data.retainedBytes = FinMap.total StoredTask.retainedBytes data.tasks
  reserved : data.reservedBytes = FinMap.total StoredTask.reservedBytes data.tasks
  bounded : data.retainedBytes + data.reservedBytes ≤ limits.maxRetainedBytes
  count : FinMap.count data.tasks ≤ limits.maxTasks
  wellFormed : ∀ id stored, data.tasks.lookup id = some stored → stored.WellFormed

namespace Accounted

variable {limits : TaskRetentionLimits} {data : MemoryTaskStoreData}

theorem empty : Accounted limits {} where
  retained := rfl
  reserved := rfl
  bounded := Nat.zero_le _
  count := Nat.zero_le _
  wellFormed := by
    intro id stored h
    simp at h

variable {id : String} {stored : StoredTask}

theorem charges_le (h : Accounted limits data) (hlookup : data.tasks.lookup id = some stored) :
    stored.retainedBytes ≤ data.retainedBytes ∧ stored.reservedBytes ≤ data.reservedBytes := by
  rw [h.retained, h.reserved]
  exact ⟨le_total_of_lookup hlookup, le_total_of_lookup hlookup⟩

theorem commit (h : Accounted limits data) {old new : StoredTask} {totals : ℕ × ℕ}
    (hlookup : data.tasks.lookup id = some old) (hnew : new.WellFormed)
    (hmoved : TotalsMoved data old.retainedBytes old.reservedBytes new.retainedBytes
      new.reservedBytes limits.maxRetainedBytes totals) :
    Accounted limits (data.commit id new totals) := by
  have hretained := total_insert_of_lookup (f := StoredTask.retainedBytes) (a := new) hlookup
  have hreserved := total_insert_of_lookup (f := StoredTask.reservedBytes) (a := new) hlookup
  have hmovedRetained := hmoved.retained
  have hmovedReserved := hmoved.reserved
  refine ⟨?_, ?_, hmoved.bounded, ?_, ?_⟩
  · show totals.1 = _
    rw [h.retained] at hmovedRetained
    show totals.1 = FinMap.total StoredTask.retainedBytes (data.tasks.insert id new)
    omega
  · show totals.2 = FinMap.total StoredTask.reservedBytes (data.tasks.insert id new)
    rw [h.reserved] at hmovedReserved
    omega
  · show FinMap.count (data.tasks.insert id new) ≤ limits.maxTasks
    rw [count_insert_of_lookup hlookup]
    exact h.count
  · intro key stored hkey
    change (data.tasks.insert id new).lookup key = some stored at hkey
    rw [lookup_insert_eq_ite] at hkey
    split at hkey
    · cases hkey
      exact hnew
    · exact h.wellFormed key stored hkey

theorem admitted (h : Accounted limits data) (hfresh : data.tasks.lookup id = none)
    (hstored : stored.WellFormed) (hcount : FinMap.count data.tasks < limits.maxTasks)
    (hfits : data.retainedBytes + stored.retainedBytes +
      (data.reservedBytes + stored.reservedBytes) ≤ limits.maxRetainedBytes) :
    Accounted limits (data.commit id stored (data.retainedBytes + stored.retainedBytes,
      data.reservedBytes + stored.reservedBytes)) := by
  refine ⟨?_, ?_, hfits, ?_, ?_⟩
  · show data.retainedBytes + stored.retainedBytes =
      FinMap.total StoredTask.retainedBytes (data.tasks.insert id stored)
    rw [total_insert_of_lookup_none hfresh, h.retained, Nat.add_comm]
  · show data.reservedBytes + stored.reservedBytes =
      FinMap.total StoredTask.reservedBytes (data.tasks.insert id stored)
    rw [total_insert_of_lookup_none hfresh, h.reserved, Nat.add_comm]
  · show FinMap.count (data.tasks.insert id stored) ≤ limits.maxTasks
    rw [count_insert_of_lookup_none hfresh]
    exact hcount
  · intro key other hkey
    change (data.tasks.insert id stored).lookup key = some other at hkey
    rw [lookup_insert_eq_ite] at hkey
    split at hkey
    · cases hkey
      exact hstored
    · exact h.wellFormed key other hkey

theorem erase (h : Accounted limits data) {removed : StoredTask}
    (hlookup : data.tasks.lookup id = some removed) :
    Accounted limits
      { tasks := data.tasks.erase id
        retainedBytes := data.retainedBytes - removed.retainedBytes
        reservedBytes := data.reservedBytes - removed.reservedBytes } := by
  have hretained := total_erase (f := StoredTask.retainedBytes) hlookup
  have hreserved := total_erase (f := StoredTask.reservedBytes) hlookup
  rw [← h.retained] at hretained
  rw [← h.reserved] at hreserved
  refine ⟨?_, ?_, ?_, le_trans (count_erase_le _ _) h.count, ?_⟩
  · exact Nat.sub_eq_of_eq_add hretained.symm
  · exact Nat.sub_eq_of_eq_add hreserved.symm
  · have hbounded := h.bounded
    show data.retainedBytes - _ + (data.reservedBytes - _) ≤ _
    omega
  · intro key stored hkey
    rw [lookup_erase_eq_ite] at hkey
    split at hkey
    · cases hkey
    · exact h.wellFormed key stored hkey

theorem replacement_totals_ok (h : Accounted limits data) {old : StoredTask}
    (hlookup : data.tasks.lookup id = some old) (newRetained newReserved : ℕ)
    (hcharge : newRetained + newReserved ≤ old.retainedBytes + old.reservedBytes) :
    ∃ totals, replacementTotals data old.retainedBytes old.reservedBytes newRetained newReserved
      limits.maxRetainedBytes = .ok totals := by
  obtain ⟨hretained, hreserved⟩ := h.charges_le hlookup
  exact replacement_totals_of_le limits.maxRetainedBytes_le h.bounded hretained hreserved hcharge

theorem charge_le (h : Accounted limits data) (hlookup : data.tasks.lookup id = some stored) :
    stored.retainedBytes + stored.reservedBytes ≤ limits.maxRetainedBytes := by
  obtain ⟨hretained, hreserved⟩ := h.charges_le hlookup
  have hbounded := h.bounded
  omega

end Accounted

/-! ## A pass of the retirement loop -/

namespace MemoryTaskStore

def retiredRecord (stored : StoredTask) : StoredTask :=
  { stored.signalExpiry.1.scrubExpiredPayload with
    retainedBytes := stored.task.scrubbed.payloadSize }

variable {now : Instant} {stored : StoredTask}

theorem is_retiring_iff :
    isRetiring now stored = true ↔
      stored.task.isExpiredAt now = true ∧ stored.expirySignalled = false := by
  unfold isRetiring StoredTask.signalExpiry
  cases stored.expirySignalled <;> simp

theorem expiry_signalled_retired_record (stored : StoredTask) :
    (retiredRecord stored).expirySignalled = true := by
  unfold retiredRecord StoredTask.signalExpiry
  cases hflag : stored.expirySignalled with
  | true => exact hflag
  | false => rfl

theorem is_expired_at_retired_record (now : Instant) (stored : StoredTask) :
    (retiredRecord stored).task.isExpiredAt now = stored.task.isExpiredAt now := by
  unfold retiredRecord StoredTask.signalExpiry
  cases stored.expirySignalled <;> rfl

theorem retire_task_ok (hsize : stored.task.scrubbed.payloadSize ≤ usizeMax) :
    retireTask stored = .ok (retiredRecord stored) := by
  have hprice : retainedPayloadSize stored.signalExpiry.1.scrubExpiredPayload.task usizeMax =
      .ok stored.task.scrubbed.payloadSize := by
    rw [Task.retained_payload_size_eq_ok]
    refine ⟨Task.serializable_of_no_payload rfl rfl rfl, ?_, hsize, hsize⟩
    unfold StoredTask.signalExpiry
    cases stored.expirySignalled <;> rfl
  unfold retireTask
  dsimp only
  rw [hprice]
  rfl

theorem well_formed_retired_record (hsignal : stored.expirySignalled = false) :
    (retiredRecord stored).WellFormed := by
  have hsignalled := expiry_signalled_retired_record stored
  refine ⟨Task.serializable_of_no_payload rfl rfl rfl, ?_, ?_, ?_⟩
  · simp only [retiredRecord, StoredTask.signalExpiry, hsignal]
    rfl
  · rw [hsignalled]
    rfl
  · intro hfalse
    rw [hsignalled] at hfalse
    cases hfalse

def retiringRetained (now : Instant) (stored : StoredTask) : ℕ :=
  if isRetiring now stored then stored.retainedBytes else 0

def retiringReserved (now : Instant) (stored : StoredTask) : ℕ :=
  if isRetiring now stored then stored.reservedBytes else 0

def scrubbedRetained (now : Instant) (stored : StoredTask) : ℕ :=
  if isRetiring now stored then stored.task.scrubbed.payloadSize else 0

def visited (now : Instant) (acc : RetiredTotals) (stored : StoredTask) : RetiredTotals where
  signalled := acc.signalled + if isRetiring now stored then 1 else 0
  oldRetained := acc.oldRetained + retiringRetained now stored
  newRetained := acc.newRetained + scrubbedRetained now stored
  oldReserved := acc.oldReserved + retiringReserved now stored

theorem retire_visit_ok {acc : RetiredTotals}
    (hsize : isRetiring now stored = true → stored.task.scrubbed.payloadSize ≤ usizeMax)
    (hold : acc.oldRetained + retiringRetained now stored ≤ usizeMax)
    (hnew : acc.newRetained + scrubbedRetained now stored ≤ usizeMax)
    (hreserved : acc.oldReserved + retiringReserved now stored ≤ usizeMax) :
    retireVisit now acc stored = .ok (visited now acc stored) := by
  unfold retiringRetained at hold
  unfold scrubbedRetained at hnew
  unfold retiringReserved at hreserved
  unfold retireVisit visited retiringRetained scrubbedRetained retiringReserved
  cases hretiring : isRetiring now stored with
  | false => rfl
  | true =>
    rw [hretiring, if_pos rfl] at hold hnew hreserved
    rw [if_pos rfl, retire_task_ok (hsize hretiring)]
    simp [checkedAdd, expectSome, retiredRecord, hold, hnew, hreserved, pure, Except.pure]

theorem retire_visits_ok (values : List StoredTask) (acc : RetiredTotals)
    (hsize : ∀ stored ∈ values, isRetiring now stored = true →
      stored.task.scrubbed.payloadSize ≤ usizeMax)
    (hold : acc.oldRetained + (values.map (retiringRetained now)).sum ≤ usizeMax)
    (hnew : acc.newRetained + (values.map (scrubbedRetained now)).sum ≤ usizeMax)
    (hreserved : acc.oldReserved + (values.map (retiringReserved now)).sum ≤ usizeMax) :
    ∃ signalled, values.foldlM (retireVisit now) acc = .ok
      { signalled := signalled
        oldRetained := acc.oldRetained + (values.map (retiringRetained now)).sum
        newRetained := acc.newRetained + (values.map (scrubbedRetained now)).sum
        oldReserved := acc.oldReserved + (values.map (retiringReserved now)).sum } := by
  induction values generalizing acc with
  | nil => exact ⟨acc.signalled, rfl⟩
  | cons stored rest ih =>
    rw [List.map_cons, List.sum_cons, ← Nat.add_assoc] at hold hnew hreserved
    have hvisit : retireVisit now acc stored = .ok (visited now acc stored) :=
      retire_visit_ok (hsize stored List.mem_cons_self) (by omega) (by omega) (by omega)
    rw [List.foldlM_cons, hvisit, ok_bind]
    obtain ⟨signalled, hloop⟩ := ih (visited now acc stored)
      (fun other hother => hsize other (List.mem_cons_of_mem stored hother)) hold hnew hreserved
    refine ⟨signalled, hloop.trans ?_⟩
    simp [visited, Nat.add_assoc]

def expiredRetained (now : Instant) (stored : StoredTask) : ℕ :=
  if stored.task.isExpiredAt now then stored.retainedBytes else 0

def expiredReserved (now : Instant) (stored : StoredTask) : ℕ :=
  if stored.task.isExpiredAt now then stored.reservedBytes else 0

theorem remove_visits_ok (values : List StoredTask) (acc : ℕ × ℕ)
    (hretained : acc.1 + (values.map (expiredRetained now)).sum ≤ usizeMax)
    (hreserved : acc.2 + (values.map (expiredReserved now)).sum ≤ usizeMax) :
    values.foldlM (removeVisit now) acc =
      .ok (acc.1 + (values.map (expiredRetained now)).sum,
        acc.2 + (values.map (expiredReserved now)).sum) := by
  induction values generalizing acc with
  | nil => rfl
  | cons stored rest ih =>
    rw [List.map_cons, List.sum_cons, ← Nat.add_assoc] at hretained hreserved
    have hvisit : removeVisit now acc stored =
        .ok (acc.1 + expiredRetained now stored, acc.2 + expiredReserved now stored) := by
      have hfirst : acc.1 + expiredRetained now stored ≤ usizeMax := by omega
      have hsecond : acc.2 + expiredReserved now stored ≤ usizeMax := by omega
      unfold expiredRetained at hfirst
      unfold expiredReserved at hsecond
      unfold removeVisit expiredRetained expiredReserved
      cases hexpired : stored.task.isExpiredAt now with
      | false => rfl
      | true =>
        rw [hexpired, if_pos rfl] at hfirst hsecond
        simp [checkedAdd, expectSome, hfirst, hsecond, pure, Except.pure]
    rw [List.foldlM_cons, hvisit, ok_bind, ih _ hretained hreserved]
    simp [Nat.add_assoc]

theorem remove_expired_ok {limits : TaskRetentionLimits} {data : MemoryTaskStoreData}
    (now : Instant) (h : Accounted limits data) :
    ∃ removed final, removeExpired now data = .ok (final, removed) ∧
      final.tasks = (data.tasks.retain fun stored => !stored.task.isExpiredAt now) ∧
      Accounted limits final := by
  have hlimit := le_trans h.bounded limits.maxRetainedBytes_le
  -- every charge is either kept or removed
  have hsplit : ∀ f : StoredTask → ℕ,
      FinMap.total f (data.tasks.retain fun stored => !stored.task.isExpiredAt now) +
        FinMap.total (fun stored => if stored.task.isExpiredAt now then f stored else 0)
          data.tasks = FinMap.total f data.tasks := by
    intro f
    rw [total_retain, ← total_add]
    apply total_congr
    intro stored _
    cases stored.task.isExpiredAt now <;> simp
  have hretained : FinMap.total StoredTask.retainedBytes
      (data.tasks.retain fun stored => !stored.task.isExpiredAt now) +
      FinMap.total (expiredRetained now) data.tasks = data.retainedBytes :=
    (hsplit StoredTask.retainedBytes).trans h.retained.symm
  have hreserved : FinMap.total StoredTask.reservedBytes
      (data.tasks.retain fun stored => !stored.task.isExpiredAt now) +
      FinMap.total (expiredReserved now) data.tasks = data.reservedBytes :=
    (hsplit StoredTask.reservedBytes).trans h.reserved.symm
  have hbounded := h.bounded
  have hleft : FinMap.total (expiredRetained now) data.tasks ≤ data.retainedBytes := by omega
  have hright : FinMap.total (expiredReserved now) data.tasks ≤ data.reservedBytes := by omega
  have hloop : data.tasks.values.foldlM (removeVisit now) (0, 0) =
      .ok (0 + FinMap.total (expiredRetained now) data.tasks,
        0 + FinMap.total (expiredReserved now) data.tasks) := by
    apply remove_visits_ok
    · show 0 + FinMap.total (expiredRetained now) data.tasks ≤ usizeMax
      omega
    · show 0 + FinMap.total (expiredReserved now) data.tasks ≤ usizeMax
      omega
  rw [Nat.zero_add, Nat.zero_add] at hloop
  unfold removeExpired
  rw [hloop]
  simp only [ok_bind, checkedSub, hleft, hright, if_true, expectSome]
  refine ⟨_, _, rfl, rfl, ?_, ?_, ?_, ?_, ?_⟩
  · exact Nat.sub_eq_of_eq_add hretained.symm
  · exact Nat.sub_eq_of_eq_add hreserved.symm
  · show data.retainedBytes - _ + (data.reservedBytes - _) ≤ _
    omega
  · exact le_trans (count_retain_le _ _) h.count
  · intro id stored hlookup
    rw [FinMap.lookup_retain, Option.filter_eq_some_iff] at hlookup
    exact h.wellFormed id stored hlookup.1

structure RecordRetired (now : Instant) (stored : StoredTask) : Prop where
  record : retireRecord now stored =
    if isRetiring now stored then retiredRecord stored else stored
  wellFormed : (retireRecord now stored).WellFormed
  retained : (retireRecord now stored).retainedBytes + retiringRetained now stored =
    stored.retainedBytes + scrubbedRetained now stored
  reserved : (retireRecord now stored).reservedBytes + retiringReserved now stored =
    stored.reservedBytes
  cheaper : scrubbedRetained now stored ≤
    retiringRetained now stored + retiringReserved now stored
  size : isRetiring now stored = true → stored.task.scrubbed.payloadSize ≤ usizeMax

theorem record_retired (h : stored.WellFormed)
    (hcharge : stored.retainedBytes + stored.reservedBytes ≤ usizeMax) :
    RecordRetired now stored := by
  cases hretiring : isRetiring now stored with
  | false =>
    have hrecord : retireRecord now stored = stored := by simp [retireRecord, hretiring]
    constructor <;>
      simp [hrecord, hretiring, h, retiringRetained, retiringReserved, scrubbedRetained]
  | true =>
    have hsignal := (is_retiring_iff.1 hretiring).2
    have hscrub := h.scrubbed_le hsignal
    have hsize := le_trans hscrub hcharge
    have hrecord : retireRecord now stored = retiredRecord stored := by
      simp [retireRecord, hretiring, retire_task_ok hsize]
    have hreserved : (retiredRecord stored).reservedBytes = 0 := rfl
    have hretained : (retiredRecord stored).retainedBytes =
        stored.task.scrubbed.payloadSize := rfl
    refine ⟨?_, ?_, ?_, ?_, ?_, fun _ => hsize⟩
    · rw [hrecord, hretiring, if_pos rfl]
    · rw [hrecord]
      exact well_formed_retired_record hsignal
    · rw [hrecord, hretained, retiringRetained, scrubbedRetained, hretiring, if_pos rfl,
        if_pos rfl]
      omega
    · rw [hrecord, hreserved, retiringReserved, hretiring, if_pos rfl]
      omega
    · rw [scrubbedRetained, retiringRetained, retiringReserved, hretiring, if_pos rfl,
        if_pos rfl, if_pos rfl]
      exact hscrub

section Retire

variable (store : MemoryTaskStore) {data : MemoryTaskStoreData} (now : Instant)

def retiredTasks (remove : Bool) (tasks : FinMap String StoredTask) : FinMap String StoredTask :=
  let retired := tasks.mapValues (retireRecord now)
  if remove then retired.retain fun stored => !stored.task.isExpiredAt now else retired

theorem lookup_retired_tasks (remove : Bool) (tasks : FinMap String StoredTask) (id : String) :
    (retiredTasks now remove tasks).lookup id =
      ((tasks.lookup id).map (retireRecord now)).filter fun stored =>
        !(remove && stored.task.isExpiredAt now) := by
  unfold retiredTasks
  cases remove with
  | false =>
    simp only [Bool.false_and, Bool.not_false, if_neg Bool.false_ne_true,
      lookup_map_values]
    cases tasks.lookup id with
    | none => rfl
    | some stored => rfl
  | true => simp [FinMap.lookup_retain]

theorem retire_expired_ok (h : Accounted store.retentionLimits data) (remove : Bool) :
    ∃ retirement final, store.retireExpired now remove data = .ok (final, retirement) ∧
      final.tasks = retiredTasks now remove data.tasks ∧
      Accounted store.retentionLimits final := by
  have hlimit := le_trans h.bounded store.retentionLimits.maxRetainedBytes_le
  have hrecord : ∀ stored ∈ data.tasks.values, RecordRetired now stored := by
    intro stored hmem
    obtain ⟨id, hlookup⟩ := exists_lookup_of_mem_values hmem
    exact record_retired (h.wellFormed id stored hlookup)
      (le_trans (h.charge_le hlookup) store.retentionLimits.maxRetainedBytes_le)
  -- the sums of the loop, record by record and then over the map
  have hretained : FinMap.total StoredTask.retainedBytes (data.tasks.mapValues (retireRecord now)) +
      FinMap.total (retiringRetained now) data.tasks =
        data.retainedBytes + FinMap.total (scrubbedRetained now) data.tasks := by
    rw [h.retained, total_map_values, ← total_add, ← total_add]
    exact total_congr fun stored hmem => (hrecord stored hmem).retained
  have hreserved : FinMap.total StoredTask.reservedBytes (data.tasks.mapValues (retireRecord now)) +
      FinMap.total (retiringReserved now) data.tasks = data.reservedBytes := by
    rw [h.reserved, total_map_values, ← total_add]
    exact total_congr fun stored hmem => (hrecord stored hmem).reserved
  have hcheaper : FinMap.total (scrubbedRetained now) data.tasks ≤
      FinMap.total (retiringRetained now) data.tasks +
        FinMap.total (retiringReserved now) data.tasks := by
    rw [← total_add]
    exact total_le_total fun stored hmem => (hrecord stored hmem).cheaper
  have hold : FinMap.total (retiringRetained now) data.tasks ≤ data.retainedBytes := by
    rw [h.retained]
    apply total_le_total
    intro stored _
    unfold retiringRetained
    split <;> omega
  have hbounded := h.bounded
  have hloop : ∃ signalled, data.tasks.values.foldlM (retireVisit now) {} = .ok
      { signalled := signalled
        oldRetained := 0 + FinMap.total (retiringRetained now) data.tasks
        newRetained := 0 + FinMap.total (scrubbedRetained now) data.tasks
        oldReserved := 0 + FinMap.total (retiringReserved now) data.tasks } := by
    apply retire_visits_ok data.tasks.values {} fun stored hmem => (hrecord stored hmem).size
    · show 0 + FinMap.total (retiringRetained now) data.tasks ≤ usizeMax
      omega
    · show 0 + FinMap.total (scrubbedRetained now) data.tasks ≤ usizeMax
      omega
    · show 0 + FinMap.total (retiringReserved now) data.tasks ≤ usizeMax
      omega
  simp only [Nat.zero_add] at hloop
  obtain ⟨signalled, hloop⟩ := hloop
  have hleft : data.retainedBytes - FinMap.total (retiringRetained now) data.tasks +
      FinMap.total (scrubbedRetained now) data.tasks =
        FinMap.total StoredTask.retainedBytes (data.tasks.mapValues (retireRecord now)) := by
    omega
  have hright : data.reservedBytes - FinMap.total (retiringReserved now) data.tasks =
      FinMap.total StoredTask.reservedBytes (data.tasks.mapValues (retireRecord now)) := by
    omega
  have hfits : FinMap.total StoredTask.retainedBytes (data.tasks.mapValues (retireRecord now)) +
      FinMap.total StoredTask.reservedBytes (data.tasks.mapValues (retireRecord now)) ≤
        store.retentionLimits.maxRetainedBytes := by
    omega
  have hpassed : Accounted store.retentionLimits
      { tasks := data.tasks.mapValues (retireRecord now)
        retainedBytes := FinMap.total StoredTask.retainedBytes
          (data.tasks.mapValues (retireRecord now))
        reservedBytes := FinMap.total StoredTask.reservedBytes
          (data.tasks.mapValues (retireRecord now)) } := by
    refine ⟨rfl, rfl, hfits, ?_, ?_⟩
    · show FinMap.count (data.tasks.mapValues (retireRecord now)) ≤ _
      rw [count_map_values]
      exact h.count
    · intro id stored hlookup
      rw [lookup_map_values, Option.map_eq_some_iff] at hlookup
      obtain ⟨old, hold, rfl⟩ := hlookup
      exact (hrecord old (mem_values_of_lookup hold)).wellFormed
  have hsub : checkedSub data.retainedBytes (FinMap.total (retiringRetained now) data.tasks) =
      some (data.retainedBytes - FinMap.total (retiringRetained now) data.tasks) := if_pos hold
  have hadd : checkedAdd (data.retainedBytes - FinMap.total (retiringRetained now) data.tasks)
      (FinMap.total (scrubbedRetained now) data.tasks) =
        some (FinMap.total StoredTask.retainedBytes
          (data.tasks.mapValues (retireRecord now))) := by
    unfold checkedAdd
    rw [hleft, if_pos (by omega)]
  have hsubReserved :
      checkedSub data.reservedBytes (FinMap.total (retiringReserved now) data.tasks) =
        some (FinMap.total StoredTask.reservedBytes
          (data.tasks.mapValues (retireRecord now))) := by
    unfold checkedSub
    rw [hright, if_pos (by omega)]
  have hcharged := charged_bytes_of_le store.retentionLimits.maxRetainedBytes_le hfits
  unfold retireExpired
  simp only [hloop, ok_bind, hsub, Option.bind_some, hadd, hsubReserved, expectSome,
    hcharged, expect]
  cases remove with
  | false => exact ⟨_, _, rfl, rfl, hpassed⟩
  | true =>
    obtain ⟨removed, final, hremove, htasks, hfinal⟩ := remove_expired_ok now hpassed
    rw [if_pos rfl, hremove]
    exact ⟨_, _, rfl, htasks, hfinal⟩

end Retire

end MemoryTaskStore

end TowerMcp
