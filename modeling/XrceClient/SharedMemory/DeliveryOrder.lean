import XrceClient.SharedMemory.Queues

/-!
# The order of delivery

A list between two entities is filled and emptied at the same end. Samples that wait in it
together are handed over in the reverse order.

- `DeliversInOrder`: what was handed over, and then what is queued, is what was published.
- `Accounted`: in any case, every sample is handed over or queued, and once.
- `shared_memory_delivery_order`: the order is kept where no sample waits when another one is
  published.
- `two_samples_delivered_in_reverse`: otherwise it need not be.
-/

namespace XrceClient

open ByteMemory

namespace SharedProcess

variable {σ : Type}

/-- The samples that were published by an entity for another one. -/
def publishedSamples (process : SharedProcess σ) (i j : Nat) : List Nat :=
  (process.published.filter fun publication =>
    publication.sender = i ∧ publication.receiver = j).map Publication.sample

/-- The samples that were taken out of the list between two entities. -/
def handedSamples (process : SharedProcess σ) (i j : Nat) : List Nat :=
  (process.handed.filter fun handing =>
    handing.sender = i ∧ handing.receiver = j).map Handing.sample

/-- The samples that a callback was called with. -/
def calledSamples (process : SharedProcess σ) (i j : Nat) : List Nat :=
  ((process.handed.filter fun handing => handing.sender = i ∧ handing.receiver = j).filter
    fun handing => handing.call.isSome).map Handing.sample

/-- For every writer and reader the callbacks were called with the samples in the order in which
they were published; those that were not are queued. No sample was published twice. -/
def DeliversInOrder (config : SharedMemoryConfig) (process : SharedProcess σ) : Prop :=
  ∀ i j, (process.map.entity i).objectId.type = dataWriterId →
    (process.map.entity j).objectId.type = dataReaderId →
    process.calledSamples i j ++ (process.map.queued config i j).reverse =
      process.publishedSamples i j ∧
    (process.publishedSamples i j).Nodup

/-- There are free items for what is published, the readers have a callback when something is
handed over, and no session is deleted. -/
def deliverable (config : SharedMemoryConfig) (process : SharedProcess σ) :
    SharedAction σ → Bool
  | .prepare session entityId _ _ _ => process.enoughItems config session entityId
  | .advance _ => process.map.entities.all fun entity =>
      entity.objectId.type ≠ dataReaderId || (process.sessions entity.session).onTopic
  | .deleteSession _ => false
  | _ => true

/-- What is published goes to entities that nothing waits for. -/
def nothingWaits (config : SharedMemoryConfig) (process : SharedProcess σ) :
    SharedAction σ → Bool
  | .prepare session entityId _ _ _ =>
    (process.receivers config session entityId).all fun (i, j) =>
      (process.map.matrix i j).list.isNone
  | _ => true

section

variable {config : SharedMemoryConfig} {process process' : SharedProcess σ}

theorem deliverable_enough {action : SharedAction σ} (h : process.deliverable config action = true)
    (session : Nat) (entityId : ObjectId) (ub : UcdrBuffer) (dataSize requestId : UInt16)
    (haction : action = .prepare session entityId ub dataSize requestId) :
    process.enoughItems config session entityId = true := by
  rw [haction] at h
  exact h

theorem deliverable_keeps {action : SharedAction σ} (h : process.deliverable config action = true) :
    action.deletes = false := by
  cases action with
  | deleteSession session => cases h
  | _ => rfl

/-- Whoever is handed a sample listens. -/
theorem deliverable_listens {uninitialized : SampleIdentity}
    (h : process.deliverable config (.advance uninitialized) = true) {j : Nat}
    (hj : j < process.map.entitiesLen)
    (htype : (process.map.entity j).objectId.type = dataReaderId) :
    (process.sessions (process.map.entity j).session).onTopic = true := by
  have hentity : process.map.entity j = process.map.entities[j] := by
    rw [SharedMemoryMap.entity, List.getD_eq_getElem _ _ hj]
  have hall := List.all_eq_true.mp h _ (List.getElem_mem hj)
  rw [← hentity, htype] at hall
  simpa using hall

/-! ## The entities -/

section

variable [MicroCdr]

theorem addEntity_entities {map map' : SharedMemoryMap} {entity : Option SharedEntity}
    (h : map.addEntity config entity = some map') : map.entities <+: map'.entities := by
  rw [SharedMemoryMap.addEntity] at h
  split at h
  · obtain ⟨entity, -, hupdate⟩ := Option.bind_eq_some_iff.mp h
    rw [(SharedMemoryMap.updateSharedMemoryMatching_lists hupdate).entities]
    exact List.prefix_append _ _
  · cases h
    exact List.prefix_rfl

end

theorem prepareSharedMemory_entities (sessions : Nat → SharedSession) (map : SharedMemoryMap)
    (session : Nat) (entityId : ObjectId) (ub : UcdrBuffer) (dataSize requestId : UInt16)
    (sample : Nat) :
    (map.prepareSharedMemory sessions config session entityId ub dataSize requestId
      sample).entities = map.entities := by
  rw [SharedMemoryMap.prepareSharedMemory]
  have hinit := (map.sharedMemoryInit_entities config).1
  split
  · refine Loop.foldl_range_induction (fun _ (m : SharedMemoryMap) => m.entities = map.entities)
      hinit fun i m _ hm => ?_
    split
    · rw [SharedMemoryMap.publishTo, SharedMemoryMap.popFree]
      cases m.mempoolFreeitems with
      | none => exact hm
      | some a => exact hm
    · exact hm
  · exact hinit

variable [MicroCdr] (dev : Device σ)

/-- New entities come behind the others. -/
theorem step_entities {action : SharedAction σ} (hkeeps : action.deletes = false)
    (hstep : process.step dev config action = some process') :
    process.map.entities <+: process'.map.entities := by
  have hinit := (process.map.sharedMemoryInit_entities config).1
  have happlication (hstep : (if process.applicationRuns then process.apply config action else none) =
      some process') : process.apply config action = some process' := by
    split at hstep
    · exact hstep
    · cases hstep
  cases action with
  | addXml session entityId xml =>
    obtain ⟨map, hadd, heq⟩ := Option.bind_eq_some_iff.mp (happlication hstep)
    cases heq
    exact hinit ▸ addEntity_entities hadd
  | addBin session entityId entity =>
    obtain ⟨map, hadd, heq⟩ := Option.bind_eq_some_iff.mp (happlication hstep)
    cases heq
    exact hinit ▸ addEntity_entities hadd
  | prepare session entityId ub dataSize requestId =>
    cases happlication hstep
    exact (prepareSharedMemory_entities ..).symm ▸ List.prefix_rfl
  | handle =>
    cases happlication hstep
    exact hinit.symm ▸ List.prefix_rfl
  | deleteSession session => cases hkeeps
  | proceed sessions memory =>
    cases happlication hstep
    exact List.prefix_rfl
  | advance uninitialized =>
    rw [step, advance] at hstep
    split at hstep
    · split at hstep
      · split at hstep <;> cases hstep <;> exact List.prefix_rfl
      · cases hstep
        exact List.prefix_rfl
    · split at hstep
      · split at hstep
        · cases hstep
          rw [handOver]
          dsimp only
          split <;> exact List.prefix_rfl
        · cases hstep
          exact List.prefix_rfl
      · cases hstep
        exact List.prefix_rfl
    · cases hstep
  | callbackReturns =>
    rw [step, callbackReturns] at hstep
    split at hstep
    · cases hstep
      exact List.prefix_rfl
    · cases hstep

omit [MicroCdr] in
theorem entity_of_prefix {map map' : SharedMemoryMap} (h : map.entities <+: map'.entities) {i : Nat}
    (hi : i < map.entitiesLen) : i < map'.entitiesLen ∧ map'.entity i = map.entity i := by
  have hi' : i < map'.entitiesLen := Nat.lt_of_lt_of_le hi h.length_le
  refine ⟨hi', ?_⟩
  rw [SharedMemoryMap.entity, SharedMemoryMap.entity, List.getD_eq_getElem _ _ hi,
    List.getD_eq_getElem _ _ hi', h.getElem hi]

end

/-! ## What becomes of the samples -/

section

variable {config : SharedMemoryConfig} {process process' : SharedProcess σ}

/-- A sample is published once for an entity that it goes to. -/
theorem filter_publications {targets : List (Nat × Nat)} (hnodup : targets.Nodup)
    (sample i j : Nat) :
    ((targets.map fun (sender, receiver) => ({ sender, receiver, sample } : Publication)).filter
      fun publication => publication.sender = i ∧ publication.receiver = j).map
        Publication.sample = if (i, j) ∈ targets then [sample] else [] := by
  induction targets with
  | nil => rfl
  | cons target targets ih =>
    obtain ⟨k, l⟩ := target
    obtain ⟨hnot, hnodup⟩ := List.nodup_cons.mp hnodup
    rw [List.map_cons, List.filter_cons]
    by_cases hkl : k = i ∧ l = j
    · obtain ⟨rfl, rfl⟩ := hkl
      rw [if_pos (decide_eq_true ⟨rfl, rfl⟩), List.map_cons, ih hnodup, if_neg hnot,
        if_pos List.mem_cons_self]
    · rw [if_neg (by simpa using hkl), ih hnodup]
      have hiff : (i, j) ∈ (k, l) :: targets ↔ (i, j) ∈ targets := by
        rw [List.mem_cons]
        constructor
        · rintro (heq | hmem)
          · cases heq
            exact absurd ⟨rfl, rfl⟩ hkl
          · exact hmem
        · exact .inr
      exact (if_congr hiff rfl rfl).symm

theorem receivers_nodup (session : Nat) (entityId : ObjectId) :
    (process.receivers config session entityId).Nodup := by
  rw [receivers]
  split
  · refine List.Nodup.map ?_ (List.Nodup.filter _ List.nodup_range)
    intro k l heq
    cases heq
    rfl
  · exact List.nodup_nil

/-- One more publication. -/
theorem publishedSamples_publish {session : Nat} {entityId : ObjectId}
    (h : process'.published = process.published ++
      (process.receivers config session entityId).map
        fun (sender, receiver) => { sender, receiver, sample := process.samples }) (i j : Nat) :
    process'.publishedSamples i j = process.publishedSamples i j ++
      if (i, j) ∈ process.receivers config session entityId then [process.samples] else [] := by
  rw [publishedSamples, h, List.filter_append, List.map_append,
    filter_publications (receivers_nodup session entityId)]
  rfl

/-- One more sample taken out of a list. -/
theorem handedSamples_hand {handing : Handing} (h : process'.handed = process.handed ++ [handing])
    (i j : Nat) :
    process'.handedSamples i j = process.handedSamples i j ++
      if i = handing.sender ∧ j = handing.receiver then [handing.sample] else [] := by
  rw [handedSamples, h, List.filter_append, List.map_append, List.filter_singleton,
    Bool.cond_eq_ite]
  by_cases hij : i = handing.sender ∧ j = handing.receiver
  · rw [if_pos hij, if_pos (decide_eq_true ⟨hij.1.symm, hij.2.symm⟩)]
    rfl
  · rw [if_neg hij, if_neg]
    · rfl
    · intro hmatch
      obtain ⟨hsender, hreceiver⟩ := of_decide_eq_true hmatch
      exact hij ⟨hsender.symm, hreceiver.symm⟩

/-- Every sample that was published is handed over or queued, and once; the readers were called. -/
structure Accounted (config : SharedMemoryConfig) (process : SharedProcess σ) : Prop where
  known : process.Known config
  once : ∀ i j, (process.handedSamples i j ++ process.map.queued config i j).Perm
    (process.publishedSamples i j)
  fresh : ∀ i j, ∀ sample ∈ process.publishedSamples i j, sample < process.samples
  nodup : ∀ i j, (process.publishedSamples i j).Nodup
  called : ∀ handing ∈ process.handed, handing.receiver < process.map.entitiesLen ∧
    ((process.map.entity handing.receiver).objectId.type = dataReaderId →
      handing.call.isSome = true)

theorem initial_accounted (sessions : Nat → SharedSession) (memory : σ) :
    (initial sessions memory).Accounted config where
  known := .inr (initial_unused sessions memory)
  once i j := by
    rw [SharedMemoryMap.queued_noLists (initial_unused sessions memory).lists]
    exact .nil
  fresh _ _ _ hmem := by cases hmem
  nodup _ _ := List.nodup_nil
  called _ hmem := by cases hmem

variable [MicroCdr] (dev : Device σ)

theorem step_accounted {action : SharedAction σ} (h : process.Accounted config)
    (hdeliverable : process.deliverable config action = true)
    (hstep : process.step dev config action = some process') : process'.Accounted config := by
  have hkeeps := deliverable_keeps hdeliverable
  have hentities := step_entities dev hkeeps hstep
  have hknown := step_known dev hkeeps h.known hstep
  have hcalled : ∀ handing ∈ process.handed, handing.receiver < process'.map.entitiesLen ∧
      ((process'.map.entity handing.receiver).objectId.type = dataReaderId →
        handing.call.isSome = true) := by
    intro handing hmem
    obtain ⟨hlt, hcall⟩ := h.called handing hmem
    obtain ⟨hlt', hsame⟩ := entity_of_prefix hentities hlt
    exact ⟨hlt', fun htype => hcall (hsame ▸ htype)⟩
  cases step_traffic dev hkeeps h.known hstep with
  | quiet published samples handed contents =>
    have queued (i j : Nat) := SharedMemoryMap.queued_of_contents (contents i j)
    refine ⟨hknown, fun i j => ?_, fun i j => ?_, fun i j => ?_, handed ▸ hcalled⟩
    · rw [handedSamples, publishedSamples, handed, published, queued]
      exact h.once i j
    · rw [publishedSamples, published, samples]
      exact h.fresh i j
    · rw [publishedSamples, published]
      exact h.nodup i j
  | publishes published samples handed _ all_served contents =>
    have hserved := all_served (deliverable_enough hdeliverable _ _ _ _ _ rfl)
    rw [hserved] at contents
    have queued (i j : Nat) := SharedMemoryMap.queued_of_contents_ite (contents i j)
    dsimp only at queued
    refine ⟨hknown, fun i j => ?_, fun i j => ?_, fun i j => ?_, handed ▸ hcalled⟩
    · -- the new sample waits at the end of the list
      rw [handedSamples, handed, publishedSamples_publish published, queued]
      split
      · refine (List.perm_middle).trans ?_
        exact (List.Perm.cons _ (h.once i j)).trans (List.perm_append_singleton _ _).symm
      · rw [List.append_nil]
        exact h.once i j
    · intro sample hmem
      rw [samples]
      rw [publishedSamples_publish published, List.mem_append] at hmem
      rcases hmem with hmem | hmem
      · exact Nat.lt_succ_of_lt (h.fresh i j sample hmem)
      · split at hmem
        · rw [List.mem_singleton.mp hmem]
          exact Nat.lt_succ_self _
        · cases hmem
    · rw [publishedSamples_publish published]
      refine (h.nodup i j).append (by split <;> simp) ?_
      intro sample hmem hnew
      split at hnew
      · rw [List.mem_singleton.mp hnew] at hmem
        exact absurd (h.fresh i j _ hmem) (Nat.lt_irrefl _)
      · cases hnew
  | @hands _ handing content published samples handed sample contents receiver call =>
    have queued (i j : Nat) := SharedMemoryMap.queued_of_contents_ite (contents i j)
    rw [sample] at queued
    refine ⟨hknown, fun i j => ?_, fun i j => ?_, fun i j => ?_, ?_⟩
    · -- the sample goes from the list to the receiver
      have honce := h.once i j
      rw [queued] at honce
      rw [handedSamples_hand handed, publishedSamples, published]
      split
      · rename_i hij
        rw [if_pos hij] at honce
        rw [List.append_assoc]
        exact honce
      · rename_i hij
        rw [if_neg hij] at honce
        rw [List.append_nil]
        exact honce
    · rw [publishedSamples, published, samples]
      exact h.fresh i j
    · rw [publishedSamples, published]
      exact h.nodup i j
    · intro handing' hmem
      rw [handed, List.mem_append, List.mem_singleton] at hmem
      rcases hmem with hmem | rfl
      · exact hcalled handing' hmem
      · obtain ⟨hlt, hsame⟩ := entity_of_prefix hentities receiver
        refine ⟨hlt, fun htype => ?_⟩
        rw [hsame] at htype
        rw [call htype]
        exact deliverable_listens hdeliverable receiver htype

/-- No two samples wait in one list, and what was handed over came first. -/
structure InOrder (config : SharedMemoryConfig) (process : SharedProcess σ) : Prop where
  order : ∀ i j, process.handedSamples i j ++ process.map.queued config i j =
    process.publishedSamples i j
  single : ∀ i j, (process.map.queued config i j).length ≤ 1

omit [MicroCdr] in
theorem initial_inOrder (sessions : Nat → SharedSession) (memory : σ) :
    (initial sessions memory).InOrder config := by
  have hnone (i j : Nat) : (initial sessions memory).map.queued config i j = [] :=
    SharedMemoryMap.queued_noLists (initial_unused sessions memory).lists i j
  refine ⟨fun i j => ?_, fun i j => ?_⟩
  · rw [hnone]
    rfl
  · rw [hnone]
    exact Nat.zero_le 1

omit [MicroCdr] in
/-- The list to an entity that a sample goes to is empty. -/
theorem nothingWaits_queued {session : Nat} {entityId : ObjectId} {ub : UcdrBuffer}
    {dataSize requestId : UInt16}
    (h : process.nothingWaits config (.prepare session entityId ub dataSize requestId) = true)
    {i j : Nat} (hmem : (i, j) ∈ process.receivers config session entityId) :
    process.map.queued config i j = [] := by
  have hnone := List.all_eq_true.mp h (i, j) hmem
  have hlist : (process.map.matrix i j).list = none := Option.isNone_iff_eq_none.mp hnone
  rw [SharedMemoryMap.queued, hlist]
  cases config.staticMemSize <;> rfl

theorem step_inOrder {action : SharedAction σ} (haccounted : process.Accounted config)
    (h : process.InOrder config) (hdeliverable : process.deliverable config action = true)
    (hnothing : process.nothingWaits config action = true)
    (hstep : process.step dev config action = some process') : process'.InOrder config := by
  cases step_traffic dev (deliverable_keeps hdeliverable) haccounted.known hstep with
  | quiet published samples handed contents =>
    have queued (i j : Nat) := SharedMemoryMap.queued_of_contents (contents i j)
    refine ⟨fun i j => ?_, fun i j => ?_⟩
    · rw [handedSamples, publishedSamples, handed, published, queued]
      exact h.order i j
    · rw [queued]
      exact h.single i j
  | publishes published samples handed _ all_served contents =>
    have hserved := all_served (deliverable_enough hdeliverable _ _ _ _ _ rfl)
    rw [hserved] at contents
    have queued (i j : Nat) := SharedMemoryMap.queued_of_contents_ite (contents i j)
    dsimp only at queued
    refine ⟨fun i j => ?_, fun i j => ?_⟩
    · rw [handedSamples, handed, publishedSamples_publish published, queued, ← h.order]
      split
      · rename_i hmem
        rw [nothingWaits_queued hnothing hmem, List.append_nil]
        rfl
      · rw [List.append_nil]
        rfl
    · rw [queued]
      split
      · rename_i hmem
        rw [nothingWaits_queued hnothing hmem]
        exact Nat.le_refl 1
      · exact h.single i j
  | @hands _ handing content published samples handed sample contents receiver call =>
    have queued (i j : Nat) := SharedMemoryMap.queued_of_contents_ite (contents i j)
    rw [sample] at queued
    refine ⟨fun i j => ?_, fun i j => ?_⟩
    · have horder := h.order i j
      rw [queued] at horder
      rw [handedSamples_hand handed, publishedSamples, published]
      split
      · rename_i hij
        rw [if_pos hij] at horder
        rw [List.append_assoc]
        exact horder
      · rename_i hij
        rw [if_neg hij] at horder
        rw [List.append_nil]
        exact horder
    · have hsingle := h.single i j
      rw [queued] at hsingle
      split at hsingle
      · exact Nat.le_of_succ_le hsingle
      · exact hsingle

omit [MicroCdr] in
/-- A reader is called with what is handed over to it. -/
theorem Accounted.calledSamples_eq (h : process.Accounted config) {i j : Nat}
    (htype : (process.map.entity j).objectId.type = dataReaderId) :
    process.calledSamples i j = process.handedSamples i j := by
  rw [calledSamples, handedSamples]
  congr 1
  refine List.filter_eq_self.mpr fun handing hmem => ?_
  obtain ⟨hmem, hij⟩ := List.mem_filter.mp hmem
  obtain ⟨-, hreceiver⟩ := of_decide_eq_true hij
  refine (h.called handing hmem).2 ?_
  rw [hreceiver]
  exact htype

omit [MicroCdr] in
theorem InOrder.deliversInOrder (h : process.InOrder config) (haccounted : process.Accounted config) :
    process.DeliversInOrder config := by
  intro i j _ hreader
  refine ⟨?_, haccounted.nodup i j⟩
  have hreverse : (process.map.queued config i j).reverse = process.map.queued config i j := by
    have hsingle := h.single i j
    match process.map.queued config i j, hsingle with
    | [], _ => rfl
    | [sample], _ => rfl
  rw [haccounted.calledSamples_eq hreader, hreverse]
  exact h.order i j

/-- What every action of a run that meets a condition keeps, the run keeps. -/
theorem runMeeting_induction {P : SharedProcess σ → Prop}
    {condition : SharedProcess σ → SharedAction σ → Bool} {actions : List (SharedAction σ)}
    (hstep : ∀ action ∈ actions, ∀ s s', P s → condition s action = true →
      s.step dev config action = some s' → P s')
    (h : P process) (hrun : process.runMeeting dev config condition actions = some process') :
    P process' := by
  induction actions generalizing process with
  | nil =>
    cases hrun
    exact h
  | cons action actions ih =>
    obtain ⟨s, hfirst, hrest⟩ := Option.bind_eq_some_iff.mp hrun
    dsimp only at hfirst
    split at hfirst
    · rename_i hcondition
      exact ih (fun action hmem => hstep action (List.mem_cons_of_mem _ hmem))
        (hstep action List.mem_cons_self process s h hcondition hfirst) hrest
    · cases hfirst

end

/-! ## A call that publishes nothing -/

section

variable {config : SharedMemoryConfig} {process process' : SharedProcess σ}

/-- Nothing is queued in the row of an entity that hands over. -/
def Emptied (process : SharedProcess σ) (k : Nat) : Prop :=
  handlesKind (process.map.entity k).objectId.type = true →
    ∀ l < process.map.entitiesLen, (process.map.matrix k l).list = none

/-- How far the only active call has come: the rows, and in its own row the lists, that it went
through are empty. -/
inductive Draining (process : SharedProcess σ) : Prop
  | outer {i : Nat} (frames : process.frames = [{ i, j := none, held := none }])
      (rows : ∀ k < i, process.Emptied k)
  | inner {i j : Nat} {held : Option Nat} (frames : process.frames = [{ i, j := some j, held }])
      (rows : ∀ k < i, process.Emptied k) (row : ∀ l < j, (process.map.matrix i l).list = none)
  | finished (frames : process.frames = [])
      (rows : ∀ k < process.map.entitiesLen, process.Emptied k)

variable [MicroCdr] (dev : Device σ)

/-- The other lists stay as they are when an item is handed over. -/
theorem matrix_handOver {uninitialized : SampleIdentity} {i j a : Nat} {frames : List HandleFrame}
    {k l : Nat} (hne : ¬ (k = i ∧ l = j)) :
    (process.handOver dev uninitialized i j a frames).map.matrix k l = process.map.matrix k l := by
  have hpop : (process.map.popBlock i j).2.matrix k l = process.map.matrix k l := by
    show (process.map.setBlock i j _).matrix k l = _
    rw [SharedMemoryMap.matrix_setBlock, if_neg hne]
  rw [handOver]
  dsimp only
  split <;> exact hpop

theorem entities_handOver {uninitialized : SampleIdentity} {i j a : Nat}
    {frames : List HandleFrame} :
    (process.handOver dev uninitialized i j a frames).map.entities = process.map.entities := by
  rw [handOver]
  dsimp only
  split <;> rfl

omit [MicroCdr] in
/-- Rows stay empty when nothing is queued in them. -/
theorem Emptied.congr {k : Nat} (h : process.Emptied k)
    (hentities : process'.map.entities = process.map.entities)
    (hmatrix : ∀ l, process'.map.matrix k l = process.map.matrix k l) : process'.Emptied k := by
  intro hkind l hl
  rw [SharedMemoryMap.entity, hentities] at hkind
  rw [SharedMemoryMap.entitiesLen, hentities] at hl
  rw [hmatrix]
  exact h hkind l hl

theorem advance_draining {uninitialized : SampleIdentity} (h : process.Draining)
    (hadvance : process.advance dev uninitialized = some process') : process'.Draining := by
  rw [advance] at hadvance
  cases h with
  | outer frames rows =>
    rename_i i
    rw [frames] at hadvance
    dsimp only at hadvance
    split at hadvance
    · split at hadvance
      · cases hadvance
        exact .inner rfl rows fun l hl => absurd hl (Nat.not_lt_zero l)
      · rename_i hkind
        cases hadvance
        refine .outer rfl fun k hk => ?_
        rcases Nat.lt_succ_iff_lt_or_eq.mp hk with hk | rfl
        · exact rows k hk
        · exact fun hkind' => absurd hkind' hkind
    · rename_i hi
      cases hadvance
      exact .finished rfl fun k hk => rows k (Nat.lt_of_lt_of_le hk (Nat.le_of_not_lt hi))
  | @inner i j held frames rows row =>
    rw [frames] at hadvance
    cases held with
    | some a => cases hadvance
    | none =>
      dsimp only at hadvance
      split at hadvance
      · split at hadvance
        · rename_i a hlist
          cases hadvance
          refine .inner rfl (fun k hk => (rows k hk).congr (entities_handOver dev) fun l => ?_)
            fun l hl => ?_
          · exact matrix_handOver dev fun heq => absurd heq.1 (Nat.ne_of_lt hk)
          · rw [matrix_handOver dev fun heq => absurd heq.2 (Nat.ne_of_lt hl)]
            exact row l hl
        · rename_i hlist
          cases hadvance
          refine .inner rfl rows fun l hl => ?_
          rcases Nat.lt_succ_iff_lt_or_eq.mp hl with hl | rfl
          · exact row l hl
          · exact hlist
      · rename_i hj
        cases hadvance
        refine .outer rfl fun k hk => ?_
        rcases Nat.lt_succ_iff_lt_or_eq.mp hk with hk | rfl
        · exact rows k hk
        · exact fun _ l hl => row l (Nat.lt_of_lt_of_le hl (Nat.le_of_not_lt hj))
  | finished frames rows =>
    rw [frames] at hadvance
    cases hadvance

omit [MicroCdr] in
theorem callbackReturns_draining (h : process.Draining)
    (hreturns : process.callbackReturns = some process') : process'.Draining := by
  rw [callbackReturns] at hreturns
  cases h with
  | outer frames rows =>
    rw [frames] at hreturns
    cases hreturns
  | @inner i j held frames rows row =>
    rw [frames] at hreturns
    cases held with
    | none => cases hreturns
    | some a =>
      cases hreturns
      exact .inner rfl rows row
  | finished frames rows =>
    rw [frames] at hreturns
    cases hreturns

/-- An action that does not use the map goes on with the call, if anything. -/
theorem step_draining {action : SharedAction σ} (huses : action.usesMap = false)
    (hkeeps : action.deletes = false) (h : process.Draining)
    (hstep : process.step dev config action = some process') : process'.Draining := by
  cases action with
  | advance uninitialized => exact advance_draining dev h hstep
  | callbackReturns => exact callbackReturns_draining h hstep
  | proceed sessions memory =>
    have hstep : (if process.applicationRuns then _ else none) = some process' := hstep
    split at hstep
    · cases hstep
      cases h with
      | outer frames rows => exact .outer frames rows
      | inner frames rows row => exact .inner frames rows row
      | finished frames rows => exact .finished frames rows
    · cases hstep
  | deleteSession session => cases hkeeps
  | addXml session entityId xml => cases huses
  | addBin session entityId entity => cases huses
  | prepare session entityId ub dataSize requestId => cases huses
  | handle => cases huses

/-- What is handed over in a call from the application is all that was published, if nothing is
published meanwhile. -/
def HandsOverAll (config : SharedMemoryConfig) (process : SharedProcess σ) : Prop :=
  process.frames = [] → ∀ actions process', (∀ action ∈ actions, action.usesMap = false) →
    process.runMeeting dev config (deliverable config) (.handle :: actions) = some process' →
    process'.frames = [] → ∀ i j, (process'.map.entity i).objectId.type = dataWriterId →
      (process'.map.entity j).objectId.type = dataReaderId →
      process'.calledSamples i j = process'.publishedSamples i j

omit [MicroCdr] in
theorem lt_of_entity_type {map : SharedMemoryMap} {i : Nat}
    (htype : (map.entity i).objectId.type ≠ 0) : i < map.entitiesLen := by
  by_contra hge
  refine htype ?_
  rw [SharedMemoryMap.entity, List.getD_eq_default _ _ (Nat.le_of_not_lt hge)]
  rfl

theorem handsOverAll (haccounted : process.Accounted config) (hinOrder : process.InOrder config) :
    process.HandsOverAll dev config := by
  intro hframes actions process' huses hrun hframes' i j hwriter hreader
  obtain ⟨s, hfirst, hrest⟩ := Option.bind_eq_some_iff.mp hrun
  have hhandle : process.step dev config .handle = some s := hfirst
  have hstart : s.Accounted config ∧ s.InOrder config ∧ s.Draining := by
    refine ⟨step_accounted dev haccounted rfl hhandle,
      step_inOrder dev haccounted hinOrder rfl rfl hhandle, ?_⟩
    have hhandle : (if process.applicationRuns then _ else none) = some s := hhandle
    split at hhandle
    · cases hhandle
      refine .outer (i := 0) ?_ fun k hk => absurd hk (Nat.not_lt_zero k)
      dsimp only
      rw [hframes]
    · cases hhandle
  obtain ⟨haccounted', hinOrder', hdraining⟩ : process'.Accounted config ∧
      process'.InOrder config ∧ process'.Draining := by
    refine runMeeting_induction dev
      (P := fun s => s.Accounted config ∧ s.InOrder config ∧ s.Draining)
      (fun action hmem s s' hs hdeliverable hstep => ?_) hstart hrest
    obtain ⟨haccounted, hinOrder, hdraining⟩ := hs
    have hnothing : s.nothingWaits config action = true := by
      cases action with
      | prepare session entityId ub dataSize requestId => cases huses _ hmem
      | _ => rfl
    exact ⟨step_accounted dev haccounted hdeliverable hstep,
      step_inOrder dev haccounted hinOrder hdeliverable hnothing hstep,
      step_draining dev (huses action hmem) (deliverable_keeps hdeliverable) hdraining hstep⟩
  have hempty : process'.map.queued config i j = [] := by
    cases hdraining with
    | outer frames rows =>
      rw [hframes'] at frames
      cases frames
    | inner frames rows row =>
      rw [hframes'] at frames
      cases frames
    | finished frames rows =>
      have hi : i < process'.map.entitiesLen := lt_of_entity_type (by rw [hwriter]; decide)
      have hj : j < process'.map.entitiesLen := lt_of_entity_type (by rw [hreader]; decide)
      have hlist := rows i hi (by rw [hwriter]; rfl) j hj
      rw [SharedMemoryMap.queued, hlist]
      cases config.staticMemSize <;> rfl
  have horder := hinOrder'.order i j
  rw [hempty, List.append_nil] at horder
  rw [haccounted'.calledSamples_eq hreader]
  exact horder

end

end SharedProcess

/-- Where no sample waits for an entity when another one is published for it, every writer's samples
are handed over to every reader that matched, once, and in the order in which they were published. -/
theorem shared_memory_delivery_order [MicroCdr] {σ : Type} (dev : Device σ)
    (config : SharedMemoryConfig) (sessions : Nat → SharedSession) (memory : σ)
    (actions : List (SharedAction σ)) {process : SharedProcess σ}
    (hrun : (SharedProcess.initial sessions memory).runMeeting dev config
      (fun process action =>
        process.deliverable config action && process.nothingWaits config action) actions =
        some process) :
    process.DeliversInOrder config ∧ process.HandsOverAll dev config := by
  obtain ⟨haccounted, hinOrder⟩ : process.Accounted config ∧ process.InOrder config := by
    refine SharedProcess.runMeeting_induction dev
      (P := fun process => process.Accounted config ∧ process.InOrder config)
      (fun action _ s s' hs hcondition hstep => ?_)
      ⟨SharedProcess.initial_accounted sessions memory,
        SharedProcess.initial_inOrder sessions memory⟩ hrun
    obtain ⟨hdeliverable, hnothing⟩ := Bool.and_eq_true_iff.mp hcondition
    exact ⟨SharedProcess.step_accounted dev hs.1 hdeliverable hstep,
      SharedProcess.step_inOrder dev hs.1 hs.2 hdeliverable hnothing hstep⟩
  exact ⟨hinOrder.deliversInOrder haccounted, SharedProcess.handsOverAll dev haccounted hinOrder⟩

/-- A run in which all sessions are alike, and whose actions meet a condition. -/
def listeningRunMeeting
    (condition : SharedProcess Memory → SharedAction Memory → Bool)
    (actions : List (SharedAction Memory)) : Option (SharedProcess Memory) :=
  @SharedProcess.runMeeting Memory referenceMicroCdr Device.plain tenItems condition
    (.initial (fun _ => listeningSession) fun _ => 0) actions

/-- The sample that is published in a callback waits for none. -/
theorem shared_memory_delivery_order_publishInCallback :
    ∃ process, listeningRunMeeting (fun process action =>
        process.deliverable tenItems action && process.nothingWaits tenItems action)
        publishInCallback = some process ∧
      process.handed.length = 2 ∧ process.DeliversInOrder tenItems ∧
      @SharedProcess.HandsOverAll Memory referenceMicroCdr Device.plain tenItems process := by
  have hlength : (listeningRunMeeting (fun process action =>
      process.deliverable tenItems action && process.nothingWaits tenItems action)
      publishInCallback).map (fun process => process.handed.length) = some 2 := by decide +kernel
  obtain ⟨process, hrun, hlength⟩ := Option.map_eq_some_iff.mp hlength
  exact ⟨process, hrun, hlength, @shared_memory_delivery_order referenceMicroCdr Memory
    Device.plain tenItems (fun _ => listeningSession) (fun _ => 0) publishInCallback process hrun⟩

/-- Two samples are published, and then the first one is handed over. -/
def publishTwice : List (SharedAction Memory) :=
  let ub := BufferItem.zero.data
  [ .addXml 0 ⟨1, dataWriterId⟩ (endpointXml "data_writer" "A"),
    .addXml 0 ⟨1, dataReaderId⟩ (endpointXml "data_reader" "A"),
    .prepare 0 ⟨1, dataWriterId⟩ ub 4 10, .prepare 0 ⟨1, dataWriterId⟩ ub 4 11,
    .handle, .advance .zero, .advance .zero, .advance .zero ]

/-- Of two samples that wait the second is handed over first. -/
theorem two_samples_delivered_in_reverse :
    ¬ ∀ (actions : List (SharedAction Memory)) (process : SharedProcess Memory),
      listeningRunMeeting (SharedProcess.deliverable tenItems) actions = some process →
        process.DeliversInOrder tenItems := by
  intro hall
  have hsamples : (listeningRunMeeting (SharedProcess.deliverable tenItems) publishTwice).map
      (fun process => (process.calledSamples 0 1, process.map.queued tenItems 0 1,
        process.publishedSamples 0 1, (process.map.entity 0).objectId.type,
        (process.map.entity 1).objectId.type)) =
      some ([1], [0], [0, 1], dataWriterId, dataReaderId) := by decide +kernel
  obtain ⟨process, hrun, hsamples⟩ := Option.map_eq_some_iff.mp hsamples
  obtain ⟨hcalled, hsamples⟩ := Prod.mk.inj hsamples
  obtain ⟨hqueued, hsamples⟩ := Prod.mk.inj hsamples
  obtain ⟨hpublished, htypes⟩ := Prod.mk.inj hsamples
  obtain ⟨hwriter, hreader⟩ := Prod.mk.inj htypes
  have horder := (hall publishTwice process hrun 0 1 hwriter hreader).1
  rw [hcalled, hqueued, hpublished] at horder
  exact absurd horder (by decide)

end XrceClient
