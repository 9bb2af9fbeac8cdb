import TowerMcp.Task.Store

/-!
# The key sets of a task

What the two operations on input requests do to the keys of a task. `awaitInput` moves the
outstanding keys that the new requests leave out to the superseded ones, and is reached only with
keys that were not used or still name the same question; `applyInputResponses` moves the answered
keys out of the outstanding ones and stores one response for each. `KeysDisjoint` is the relation
between the key sets that both keep.
-/

namespace TowerMcp

open FinMap

/-! ## The same question -/

variable {a b : InputRequest}

theorem same_input_request_iff :
    sameInputRequest a b = true ↔
      ∃ first second, serialize a = .ok first ∧ serialize b = .ok second ∧
        Json.SameValue first second := by
  unfold sameInputRequest
  cases serialize a with
  | error failure => simp
  | ok first =>
    cases serialize b with
    | error failure => simp
    | ok second => simp

theorem same_input_request_refl (h : ∃ json, serialize a = .ok json) :
    sameInputRequest a a = true := by
  obtain ⟨json, hjson⟩ := h
  exact same_input_request_iff.2 ⟨json, json, hjson, hjson, Json.same_value_equivalence.refl json⟩

theorem same_input_request_symm (h : sameInputRequest a b = true) :
    sameInputRequest b a = true := by
  obtain ⟨first, second, hfirst, hsecond, hsame⟩ := same_input_request_iff.1 h
  exact same_input_request_iff.2
    ⟨second, first, hsecond, hfirst, Json.same_value_equivalence.symm hsame⟩

theorem same_input_request_trans {c : InputRequest} (hab : sameInputRequest a b = true)
    (hbc : sameInputRequest b c = true) : sameInputRequest a c = true := by
  obtain ⟨first, second, hfirst, hsecond, hsame⟩ := same_input_request_iff.1 hab
  obtain ⟨middle, third, hmiddle, hthird, hother⟩ := same_input_request_iff.1 hbc
  obtain rfl := Except.ok.inj (hsecond.symm.trans hmiddle)
  exact same_input_request_iff.2
    ⟨first, third, hfirst, hthird, Json.same_value_equivalence.trans hsame hother⟩

theorem serialize_request_of_requests {requests : InputRequests} {key : String}
    {request : InputRequest} (h : ∃ json, serialize requests = .ok json)
    (hrequest : requests.lookup key = some request) : ∃ json, serialize request = .ok json := by
  have hfields := serialize_object_ok_iff.1 h
  exact hfields (key, serialize request)
    (List.mem_map.2 ⟨(key, request), mem_sorted_pairs_iff.2 hrequest, rfl⟩)

namespace Task

/-! ## Parking on new requests -/

variable {task : Task} {requests : InputRequests}

theorem mem_supersede_input_keys {key : String} :
    key ∈ task.supersedeInputKeys requests ↔
      key ∈ task.supersededInputKeys ∨ (key ∈ task.inputRequests ∧ key ∉ requests) := by
  have hfold : ∀ (keys : List String) (superseded : KeySet),
      key ∈ keys.foldl (fun superseded key =>
        if (requests.lookup key).isSome then superseded else superseded.insert key ()) superseded ↔
        key ∈ superseded ∨ (key ∈ keys ∧ key ∉ requests) := by
    intro keys
    induction keys with
    | nil => simp
    | cons first rest ih =>
      intro superseded
      rw [List.foldl_cons, ih, List.mem_cons]
      by_cases hfirst : first ∈ requests
      · rw [if_pos (AList.lookup_isSome.2 hfirst)]
        constructor
        · rintro (hin | ⟨hin, hout⟩)
          · exact .inl hin
          · exact .inr ⟨.inr hin, hout⟩
        · rintro (hin | ⟨rfl | hin, hout⟩)
          · exact .inl hin
          · exact absurd hfirst hout
          · exact .inr ⟨hin, hout⟩
      · rw [if_neg (fun h => hfirst (AList.lookup_isSome.1 h)), AList.mem_insert]
        constructor
        · rintro ((rfl | hin) | ⟨hin, hout⟩)
          · exact .inr ⟨.inl rfl, hfirst⟩
          · exact .inl hin
          · exact .inr ⟨.inr hin, hout⟩
        · rintro (hin | ⟨rfl | hin, hout⟩)
          · exact .inl (.inr hin)
          · exact .inl (.inl rfl)
          · exact .inr ⟨hin, hout⟩
  unfold supersedeInputKeys
  rw [hfold, mem_sorted_keys_iff]

theorem unused_of_reused_input_keys {key : String} {request : InputRequest}
    (h : task.reusedInputKeys requests = []) (hrequest : requests.lookup key = some request) :
    key ∉ task.answeredInputKeys ∧ key ∉ task.supersededInputKeys ∧
      ∀ current, task.inputRequests.lookup key = some current →
        sameInputRequest current request = true := by
  have hpair : (key, request) ∈ requests.sortedPairs := mem_sorted_pairs_iff.2 hrequest
  have hnot : ¬ task.reusesInputKey key request = true := by
    intro hreuses
    have hmem : key ∈ task.reusedInputKeys requests :=
      List.mem_map.2 ⟨(key, request), List.mem_filter.2 ⟨hpair, hreuses⟩, rfl⟩
    rw [h] at hmem
    cases hmem
  unfold reusesInputKey at hnot
  split at hnot
  next => exact absurd rfl hnot
  next hspent =>
    rw [Bool.or_eq_true, AList.lookup_isSome, AList.lookup_isSome, not_or] at hspent
    refine ⟨hspent.1, hspent.2, fun current hcurrent => ?_⟩
    rw [hcurrent] at hnot
    simpa using hnot

/-! ## Applying responses -/

structure Consumed (before : Task) (keys : List String) (after : Task × AppliedInputResponses)
    (accepted : KeySet) : Prop where
  outstanding : ∀ key, after.1.inputRequests.lookup key =
    if key ∈ keys then none else before.inputRequests.lookup key
  answered : ∀ key, key ∈ after.1.answeredInputKeys ↔
    key ∈ before.answeredInputKeys ∨ (key ∈ keys ∧ key ∈ before.inputRequests)
  stored : ∀ key, key ∈ after.1.inputResponses ↔
    key ∈ before.inputResponses ∨ (key ∈ keys ∧ key ∈ before.inputRequests)
  superseded : after.1.supersededInputKeys = before.supersededInputKeys
  accepted : ∀ key, key ∈ after.2.accepted ↔
    key ∈ accepted ∨ (key ∈ keys ∧ key ∈ before.inputRequests)

theorem consumed_nil (task : Task) (applied : AppliedInputResponses) :
    Consumed task [] (task, applied) applied.accepted := by
  constructor <;> simp

theorem consumed_one (task : Task) (applied : AppliedInputResponses) (answered : String)
    (response : InputResponse) :
    Consumed task [answered] (applyInputResponse (task, applied) (answered, response))
      applied.accepted := by
  unfold applyInputResponse
  dsimp only
  cases hlookup : task.inputRequests.lookup answered with
  | none =>
    dsimp only
    have habsent : answered ∉ task.inputRequests := AList.lookup_eq_none.1 hlookup
    have hnone : ∀ key, ¬(key ∈ [answered] ∧ key ∈ task.inputRequests) := by
      intro key hboth
      rw [List.mem_singleton] at hboth
      exact habsent (hboth.1 ▸ hboth.2)
    refine ⟨?_, ?_, ?_, rfl, ?_⟩
    · intro key
      split
      next hkey =>
        rw [List.mem_singleton] at hkey
        rw [hkey, hlookup]
      next => rfl
    all_goals
      intro key
      exact (or_iff_left (hnone key)).symm
  | some current =>
    have hpresent : answered ∈ task.inputRequests := mem_iff_lookup.2 ⟨current, hlookup⟩
    have hboth : ∀ key, (key ∈ [answered] ∧ key ∈ task.inputRequests) ↔ key = answered := by
      intro key
      rw [List.mem_singleton]
      exact ⟨fun h => h.1, fun h => ⟨h, h ▸ hpresent⟩⟩
    refine ⟨?_, ?_, ?_, rfl, ?_⟩
    · intro key
      show (task.inputRequests.erase answered).lookup key = _
      rw [lookup_erase_eq_ite]
      simp only [List.mem_singleton]
    all_goals
      intro key
      rw [hboth key, or_comm]
      exact AList.mem_insert _

theorem Consumed.append {before : Task} {first rest : List String}
    {middle after : Task × AppliedInputResponses} {accepted : KeySet}
    (hfirst : Consumed before first middle accepted)
    (hrest : Consumed middle.1 rest after middle.2.accepted) :
    Consumed before (first ++ rest) after accepted := by
  have hopen : ∀ key, key ∈ middle.1.inputRequests ↔
      key ∉ first ∧ key ∈ before.inputRequests := by
    intro key
    rw [← AList.lookup_isSome, ← AList.lookup_isSome, hfirst.outstanding key]
    split
    next hin => simp [hin]
    next hout => simp [hout]
  -- a key of `rest` counts only when `first` has not consumed it already
  have hcases : ∀ (held : Prop) (key : String),
      (held ∨ (key ∈ first ∧ key ∈ before.inputRequests)) ∨
          (key ∈ rest ∧ key ∈ middle.1.inputRequests) ↔
        held ∨ (key ∈ first ++ rest ∧ key ∈ before.inputRequests) := by
    intro held key
    rw [hopen key, List.mem_append]
    by_cases hin : key ∈ first
    · simp [hin]
    · simp [hin]
  refine ⟨?_, ?_, ?_, hrest.superseded.trans hfirst.superseded, ?_⟩
  · intro key
    rw [hrest.outstanding key, hfirst.outstanding key]
    simp only [List.mem_append]
    by_cases hin : key ∈ first
    · simp [hin]
    · simp [hin]
  · intro key
    rw [hrest.answered key, hfirst.answered key, hcases]
  · intro key
    rw [hrest.stored key, hfirst.stored key, hcases]
  · intro key
    rw [hrest.accepted key, hfirst.accepted key, hcases]

theorem consumed_foldl (answers : List (String × InputResponse)) (task : Task)
    (applied : AppliedInputResponses) :
    Consumed task (answers.map (·.1)) (answers.foldl applyInputResponse (task, applied))
      applied.accepted := by
  induction answers generalizing task applied with
  | nil => exact consumed_nil task applied
  | cons answer rest ih =>
    obtain ⟨key, response⟩ := answer
    have hone := consumed_one task applied key response
    exact hone.append (ih _ _)

structure Answered (before : Task) (responses : InputResponses)
    (after : Task × AppliedInputResponses) : Prop where
  outstanding : ∀ key, after.1.inputRequests.lookup key =
    if key ∈ responses then none else before.inputRequests.lookup key
  answered : ∀ key, key ∈ after.1.answeredInputKeys ↔
    key ∈ before.answeredInputKeys ∨ (key ∈ responses ∧ key ∈ before.inputRequests)
  stored : ∀ key, key ∈ after.1.inputResponses ↔
    key ∈ before.inputResponses ∨ (key ∈ responses ∧ key ∈ before.inputRequests)
  superseded : after.1.supersededInputKeys = before.supersededInputKeys
  accepted : ∀ key, key ∈ after.2.accepted ↔ key ∈ responses ∧ key ∈ before.inputRequests

theorem answered_apply_input_responses (now : Moment) (task : Task) (responses : InputResponses) :
    Answered task responses (task.applyInputResponses now responses) := by
  have hconsumed := consumed_foldl responses.sortedPairs task {}
  have hkeys : ∀ key, key ∈ responses.sortedPairs.map (·.1) ↔ key ∈ responses := by
    intro key
    rw [List.mem_map, mem_iff_lookup]
    constructor
    · rintro ⟨⟨_, response⟩, hmem, rfl⟩
      exact ⟨response, mem_sorted_pairs_iff.1 hmem⟩
    · rintro ⟨response, hlookup⟩
      exact ⟨(key, response), mem_sorted_pairs_iff.2 hlookup, rfl⟩
  have hafter : ∀ (applied : AppliedInputResponses) (consumed : Task),
      (consumed.afterResponses now applied).inputRequests = consumed.inputRequests ∧
        (consumed.afterResponses now applied).answeredInputKeys = consumed.answeredInputKeys ∧
        (consumed.afterResponses now applied).inputResponses = consumed.inputResponses ∧
        (consumed.afterResponses now applied).supersededInputKeys =
          consumed.supersededInputKeys := by
    intro applied consumed
    unfold afterResponses
    dsimp only
    split
    all_goals split
    all_goals exact ⟨rfl, rfl, rfl, rfl⟩
  unfold applyInputResponses consumeResponses
  obtain ⟨houtstanding, hanswered, hresponses, hsuperseded⟩ := hafter
    { (responses.sortedPairs.foldl applyInputResponse (task, {})).2 with
      stillOutstanding := (responses.sortedPairs.foldl applyInputResponse
        (task, {})).1.inputRequests.mapValues fun _ => () }
    (responses.sortedPairs.foldl applyInputResponse (task, {})).1
  refine ⟨?_, ?_, ?_, ?_, ?_⟩
  · intro key
    rw [houtstanding, hconsumed.outstanding key]
    simp only [hkeys]
  · intro key
    rw [hanswered, hconsumed.answered key, hkeys]
  · intro key
    rw [hresponses, hconsumed.stored key, hkeys]
  · rw [hsuperseded, hconsumed.superseded]
  · intro key
    show key ∈ (responses.sortedPairs.foldl applyInputResponse (task, {})).2.accepted ↔ _
    rw [hconsumed.accepted key, hkeys]
    simp

theorem stored_foldl (answers : List (String × InputResponse)) (task : Task)
    (applied : AppliedInputResponses) (key : String) :
    (answers.foldl applyInputResponse (task, applied)).1.inputResponses.lookup key =
      if key ∈ task.inputRequests then
        ((answers.find? fun answer => answer.1 = key).map (·.2)).or (task.inputResponses.lookup key)
      else task.inputResponses.lookup key := by
  induction answers generalizing task applied with
  | nil => simp
  | cons answer rest ih =>
    obtain ⟨answered, response⟩ := answer
    rw [List.foldl_cons]
    cases hlookup : task.inputRequests.lookup answered with
    | none =>
      have hone : applyInputResponse (task, applied) (answered, response) =
          (task, { applied with ignored := applied.ignored.insert answered () }) := by
        simp only [applyInputResponse, hlookup]
      rw [hone, ih]
      have habsent : answered ∉ task.inputRequests := AList.lookup_eq_none.1 hlookup
      split
      next hopen =>
        have hne : answered ≠ key := fun heq => habsent (heq ▸ hopen)
        rw [List.find?_cons_of_neg (by simpa using hne)]
      next => rfl
    | some current =>
      have hone : applyInputResponse (task, applied) (answered, response) =
          ({ task with
              inputRequests := task.inputRequests.erase answered
              answeredInputKeys := task.answeredInputKeys.insert answered ()
              inputResponses := task.inputResponses.insert answered response },
            { applied with accepted := applied.accepted.insert answered () }) := by
        simp only [applyInputResponse, hlookup]
      rw [hone, ih]
      have hpresent : answered ∈ task.inputRequests :=
        mem_iff_lookup.2 ⟨current, hlookup⟩
      by_cases heq : key = answered
      · subst heq
        rw [if_neg (by simp [AList.mem_erase]), if_pos hpresent,
          List.find?_cons_of_pos (by simp), AList.lookup_insert]
        rfl
      · rw [List.find?_cons_of_neg (by simpa using Ne.symm heq), AList.lookup_insert_ne heq]
        simp only [AList.mem_erase, heq, ne_eq, not_false_eq_true, true_and]

theorem stored_apply_input_responses (now : Moment) (task : Task) (responses : InputResponses)
    (key : String) :
    (task.applyInputResponses now responses).1.inputResponses.lookup key =
      if key ∈ task.inputRequests then
        (responses.lookup key).or (task.inputResponses.lookup key)
      else task.inputResponses.lookup key := by
  have hfirst : (responses.sortedPairs.find? fun answer => answer.1 = key).map (·.2) =
      responses.lookup key := by
    cases hfind : responses.sortedPairs.find? fun answer => answer.1 = key with
    | some answer =>
      have hkey : answer.1 = key := by simpa using List.find?_some hfind
      have hmem := mem_sorted_pairs_iff.1 (List.mem_of_find?_eq_some hfind)
      rw [← hkey]
      exact hmem.symm
    | none =>
      cases hlookup : responses.lookup key with
      | none => rfl
      | some response =>
        have hpair : (key, response) ∈ responses.sortedPairs :=
          mem_sorted_pairs_iff.2 hlookup
        have hnot := List.find?_eq_none.1 hfind (key, response) hpair
        simp at hnot
  have hafter : ∀ (applied : AppliedInputResponses) (consumed : Task),
      (consumed.afterResponses now applied).inputResponses = consumed.inputResponses := by
    intro applied consumed
    unfold afterResponses
    dsimp only
    split
    all_goals split
    all_goals rfl
  unfold applyInputResponses consumeResponses
  rw [hafter, stored_foldl, hfirst]

/-! ## The law of the key sets -/

/-- The outstanding, answered and superseded keys are pairwise disjoint, and there is one response
for each answered key. -/
structure KeysDisjoint (task : Task) : Prop where
  outstanding_answered : ∀ key, key ∈ task.inputRequests → key ∉ task.answeredInputKeys
  outstanding_superseded : ∀ key, key ∈ task.inputRequests → key ∉ task.supersededInputKeys
  answered_superseded : ∀ key, key ∈ task.answeredInputKeys → key ∉ task.supersededInputKeys
  responses : ∀ key, key ∈ task.inputResponses ↔ key ∈ task.answeredInputKeys

theorem keys_disjoint_of_empty (hrequests : task.inputRequests = ∅)
    (hanswered : task.answeredInputKeys = ∅) (hresponses : task.inputResponses = ∅) :
    task.KeysDisjoint := by
  refine ⟨?_, ?_, ?_, ?_⟩
  · intro key hkey
    rw [hrequests] at hkey
    exact absurd hkey (AList.notMem_empty key)
  · intro key hkey
    rw [hrequests] at hkey
    exact absurd hkey (AList.notMem_empty key)
  · intro key hkey
    rw [hanswered] at hkey
    exact absurd hkey (AList.notMem_empty key)
  · intro key
    rw [hresponses, hanswered]
    exact iff_of_false (AList.notMem_empty key) (AList.notMem_empty key)

theorem KeysDisjoint.await_input (h : task.KeysDisjoint) (now : Moment) (message : Option String)
    (hunused : task.reusedInputKeys requests = []) :
    (task.awaitInput now requests message).KeysDisjoint := by
  have hnew : ∀ key, key ∈ requests →
      key ∉ task.answeredInputKeys ∧ key ∉ task.supersededInputKeys := by
    intro key hkey
    obtain ⟨request, hrequest⟩ := mem_iff_lookup.1 hkey
    obtain ⟨hanswered, hsuperseded, _⟩ := unused_of_reused_input_keys hunused hrequest
    exact ⟨hanswered, hsuperseded⟩
  refine ⟨fun key hkey => (hnew key hkey).1, ?_, ?_, h.responses⟩
  · intro key hkey hsuperseded
    rcases mem_supersede_input_keys.1 hsuperseded with hearlier | ⟨_, hout⟩
    · exact (hnew key hkey).2 hearlier
    · exact hout hkey
  · intro key hanswered hsuperseded
    rcases mem_supersede_input_keys.1 hsuperseded with hearlier | ⟨hopen, _⟩
    · exact h.answered_superseded key hanswered hearlier
    · exact h.outstanding_answered key hopen hanswered

theorem KeysDisjoint.apply_input_responses (h : task.KeysDisjoint) (now : Moment)
    (responses : InputResponses) : (task.applyInputResponses now responses).1.KeysDisjoint := by
  have hafter := answered_apply_input_responses now task responses
  have hopen : ∀ key, key ∈ (task.applyInputResponses now responses).1.inputRequests ↔
      key ∉ responses ∧ key ∈ task.inputRequests := by
    intro key
    rw [← AList.lookup_isSome, hafter.outstanding key]
    split
    next hin => exact ⟨fun hnone => (by cases hnone), fun hboth => absurd hin hboth.1⟩
    next hout =>
      rw [AList.lookup_isSome]
      exact ⟨fun hbefore => ⟨hout, hbefore⟩, fun hboth => hboth.2⟩
  refine ⟨?_, ?_, ?_, ?_⟩
  · intro key hkey hanswered
    obtain ⟨hout, hbefore⟩ := (hopen key).1 hkey
    rcases (hafter.answered key).1 hanswered with hearlier | ⟨hin, _⟩
    · exact h.outstanding_answered key hbefore hearlier
    · exact hout hin
  · intro key hkey hsuperseded
    rw [hafter.superseded] at hsuperseded
    exact h.outstanding_superseded key ((hopen key).1 hkey).2 hsuperseded
  · intro key hanswered hsuperseded
    rw [hafter.superseded] at hsuperseded
    rcases (hafter.answered key).1 hanswered with hearlier | ⟨_, hbefore⟩
    · exact h.answered_superseded key hearlier hsuperseded
    · exact h.outstanding_superseded key hbefore hsuperseded
  · intro key
    rw [hafter.stored key, hafter.answered key, h.responses key]

end Task

end TowerMcp
