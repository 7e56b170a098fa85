import XrceClient.SharedMemory.DeliveryOrder

/-!
# What becomes of a sample

A sample is queued for entities that match, and handed over to each of them. Until then the items
hold what it was published with.

- `Numbered`: the samples have numbers below that of the next one.
- `Tracked`: where a sample was queued it waits or was handed over, once, and it is as it was
  published; `Numbered.prepare_tracked`, `Follows.tracked` say that it stays so.
- `HandsOver`, `Tracked.handsOver`: the sample that an active call takes out of a list.
- `Tracked.flushed`: a call that publishes nothing hands over what waits.
-/

namespace XrceClient

namespace SharedProcess

section

variable {σ : Type} {config : SharedMemoryConfig} {process process' : SharedProcess σ}
  {given : QueuedSample} {served : List (Nat × Nat)}

/-- What was handed over or is queued was published. -/
structure Numbered (config : SharedMemoryConfig) (process : SharedProcess σ) : Prop where
  known : process.Known config
  fresh : ∀ i j, ∀ sample ∈ process.handedSamples i j ++ process.map.queued config i j,
    sample < process.samples

theorem initial_numbered (sessions : Nat → SharedSession) (memory : σ) :
    (initial sessions memory).Numbered config where
  known := .inr (initial_unused sessions memory)
  fresh i j sample hmem := by
    rw [SharedMemoryMap.queued_noLists (initial_unused sessions memory).lists] at hmem
    cases hmem

/-- A sample was queued for some entities. For each of them it waits, as it was published, or was
handed over, and once. -/
structure Tracked (config : SharedMemoryConfig) (process : SharedProcess σ) (given : QueuedSample)
    (served : List (Nat × Nat)) : Prop where
  known : process.Known config
  fresh : given.sample < process.samples
  waits : ∀ i j, ∀ content ∈ process.map.contents config i j, content.sample = given.sample →
    content = given
  once : ∀ i j, (process.handedSamples i j ++ process.map.queued config i j).count given.sample =
    if (i, j) ∈ served then 1 else 0

/-- What waits was queued. -/
theorem Tracked.served_of_mem (h : process.Tracked config given served) {i j : Nat}
    (hmem : given ∈ process.map.contents config i j) : (i, j) ∈ served := by
  have hqueued : given.sample ∈ process.handedSamples i j ++ process.map.queued config i j := by
    rw [SharedMemoryMap.queued_eq_contents]
    exact List.mem_append_right _ (List.mem_map_of_mem hmem)
  have hpositive := List.count_pos_iff.mpr hqueued
  rw [h.once] at hpositive
  by_contra hnot
  rw [if_neg hnot] at hpositive
  exact absurd hpositive (Nat.lt_irrefl 0)

/-- A count in what was handed over and what is queued. -/
theorem count_once_eq (n i j : Nat) :
    (process.handedSamples i j ++ process.map.queued config i j).count n =
      (process.handedSamples i j).count n +
        ((process.map.contents config i j).map QueuedSample.sample).count n := by
  rw [List.count_append, SharedMemoryMap.queued_eq_contents]

/-- Nothing but what is published is new. -/
theorem Traffic.numbered {action : SharedAction σ}
    (htraffic : Traffic config process process' action) (h : process.Numbered config)
    (hknown : process'.Known config) :
    process'.Numbered config where
  known := hknown
  fresh i j sample hmem := by
    have hfresh := h.fresh i j
    cases htraffic with
    | quiet published samples handed contents =>
      rw [handedSamples, handed, SharedMemoryMap.queued_of_contents (contents i j)] at hmem
      rw [samples]
      exact hfresh sample hmem
    | publishes published samples handed _ _ contents =>
      rw [handedSamples, handed, SharedMemoryMap.queued_of_contents_ite (contents i j)] at hmem
      rw [samples]
      rcases List.mem_append.mp hmem with hmem | hmem
      · exact Nat.lt_succ_of_lt (hfresh sample (List.mem_append_left _ hmem))
      · split at hmem
        · rcases List.mem_cons.mp hmem with rfl | hmem
          · exact Nat.lt_succ_self _
          · exact Nat.lt_succ_of_lt (hfresh sample (List.mem_append_right _ hmem))
        · exact Nat.lt_succ_of_lt (hfresh sample (List.mem_append_right _ hmem))
    | hands published samples handed hsample contents receiver call =>
      have hqueued := SharedMemoryMap.queued_of_contents_ite (contents i j)
      rw [hqueued, hsample] at hfresh
      rw [handedSamples_hand handed] at hmem
      rw [samples]
      refine hfresh sample ?_
      simp only [List.mem_append] at hmem ⊢
      rcases hmem with (hmem | hmem) | hmem
      · exact .inl hmem
      · split at hmem
        · rename_i hij
          rw [if_pos hij]
          exact .inr (List.mem_cons.mpr (.inl (List.mem_singleton.mp hmem)))
        · cases hmem
      · split
        · exact .inr (List.mem_cons_of_mem _ hmem)
        · exact .inr hmem

/-- A sample stays tracked: later ones have other numbers. -/
theorem Traffic.tracked {action : SharedAction σ}
    (htraffic : Traffic config process process' action) (h : process.Tracked config given served)
    (hknown : process'.Known config) :
    process'.Tracked config given served := by
  cases htraffic with
  | quiet published samples handed contents =>
    refine ⟨hknown, samples ▸ h.fresh, fun i j => contents i j ▸ h.waits i j, fun i j => ?_⟩
    rw [handedSamples, handed, SharedMemoryMap.queued_of_contents (contents i j)]
    exact h.once i j
  | publishes published samples handed _ _ contents =>
    have hne : given.sample ≠ process.samples := Nat.ne_of_lt h.fresh
    refine ⟨hknown, samples ▸ Nat.lt_succ_of_lt h.fresh, fun i j content hmem hsample => ?_,
      fun i j => ?_⟩
    · rw [contents] at hmem
      split at hmem
      · rcases List.mem_cons.mp hmem with rfl | hmem
        · exact absurd hsample.symm hne
        · exact h.waits i j content hmem hsample
      · exact h.waits i j content hmem hsample
    · rw [← h.once i j, count_once_eq, count_once_eq, contents, handedSamples, handed]
      split
      · rw [List.map_cons, List.count_cons_of_ne hne.symm]
        rfl
      · rfl
  | hands published samples handed hsample contents receiver call =>
    refine ⟨hknown, samples ▸ h.fresh, fun i j content hmem => ?_, fun i j => ?_⟩
    · refine h.waits i j content ?_
      rw [contents]
      split
      · exact List.mem_cons_of_mem _ hmem
      · exact hmem
    · rw [← h.once i j, count_once_eq, count_once_eq, contents, handedSamples_hand handed,
        List.count_append]
      split
      · rw [List.map_cons, hsample, List.count_cons, List.count_cons, List.count_nil]
        omega
      · rw [List.count_nil]
        rfl

theorem Known.prepare (h : process.Known config) (session : Nat) (entityId : ObjectId)
    (ub : UcdrBuffer) (dataSize requestId : UInt16) :
    (process.prepare config session entityId ub dataSize requestId).Known config := by
  obtain ⟨place, hpooled⟩ := h.startable
  exact .inl ⟨SharedMemoryMap.prepareSharedMemory_init,
    SharedMemoryMap.prepareSharedMemory_pooled ⟨place, hpooled⟩⟩

theorem prepare_entities (session : Nat) (entityId : ObjectId) (ub : UcdrBuffer)
    (dataSize requestId : UInt16) :
    (process.prepare config session entityId ub dataSize requestId).map.entities =
      process.map.entities :=
  prepareSharedMemory_entities ..

theorem Numbered.prepare (h : process.Numbered config) (session : Nat) (entityId : ObjectId)
    (ub : UcdrBuffer) (dataSize requestId : UInt16) :
    (process.prepare config session entityId ub dataSize requestId).Numbered config :=
  (prepare_traffic h.known).numbered h (h.known.prepare session entityId ub dataSize requestId)

/-- A sample that is published is queued for entities that match, and for all of them if there are
free items enough. -/
theorem Numbered.prepare_tracked (h : process.Numbered config) (session : Nat) (entityId : ObjectId)
    (ub : UcdrBuffer) (dataSize requestId : UInt16) :
    ∃ served, (∀ target ∈ served, target ∈ process.receivers config session entityId) ∧
      (process.enoughItems config session entityId = true →
        served = process.receivers config session entityId) ∧
      (process.prepare config session entityId ub dataSize requestId).Tracked config
        { data := ub, dataSize, requestId, sample := process.samples } served := by
  have hknown := h.known.prepare session entityId ub dataSize requestId
  have hnew (i j : Nat) : (process.handedSamples i j ++ process.map.queued config i j).count
      process.samples = 0 := by
    refine List.count_eq_zero.mpr fun hmem => ?_
    exact absurd (h.fresh i j _ hmem) (Nat.lt_irrefl _)
  cases @prepare_traffic σ config process session entityId ub dataSize requestId h.known with
  | quiet published samples => exact absurd samples (Nat.succ_ne_self _)
  | @publishes _ _ _ _ _ served published samples handed hmatch hall contents =>
    refine ⟨served, hmatch, hall, hknown, ?_, fun i j content hmem hsample => ?_, fun i j => ?_⟩
    · rw [samples]
      exact Nat.lt_succ_self _
    · have hold : content ∉ process.map.contents config i j := by
        intro hmem
        refine List.count_eq_zero.mp (hnew i j) (List.mem_append_right _ ?_)
        rw [SharedMemoryMap.queued_eq_contents]
        exact List.mem_map.mpr ⟨content, hmem, hsample⟩
      rw [contents] at hmem
      split at hmem
      · exact (List.mem_cons.mp hmem).resolve_right hold
      · exact absurd hmem hold
    · have hnone := hnew i j
      rw [count_once_eq] at hnone
      rw [count_once_eq, contents, handedSamples, handed, ← handedSamples]
      split
      · rw [List.map_cons, List.count_cons_self, ← Nat.add_assoc]
        exact congrArg (· + 1) hnone
      · exact hnone

variable [MicroCdr] (dev : Device σ)

theorem step_numbered {action : SharedAction σ} (hkeeps : action.deletes = false)
    (h : process.Numbered config) (hstep : process.step dev config action = some process') :
    process'.Numbered config :=
  (step_traffic dev hkeeps h.known hstep).numbered h (step_known dev hkeeps h.known hstep)

theorem step_tracked {action : SharedAction σ} (hkeeps : action.deletes = false)
    (h : process.Tracked config given served)
    (hstep : process.step dev config action = some process') :
    process'.Tracked config given served :=
  (step_traffic dev hkeeps h.known hstep).tracked h (step_known dev hkeeps h.known hstep)

/-- One state comes after another one, and no session was deleted between them. -/
def Follows (config : SharedMemoryConfig) (process process' : SharedProcess σ) : Prop :=
  ∃ actions : List (SharedAction σ), (∀ action ∈ actions, action.deletes = false) ∧
    process.run dev config actions = some process'

variable {dev}

theorem Follows.numbered (h : process.Follows dev config process')
    (hnumbered : process.Numbered config) : process'.Numbered config := by
  obtain ⟨actions, hkeeps, hrun⟩ := h
  exact run_induction dev (fun action hmem _ _ hs => step_numbered dev (hkeeps action hmem) hs)
    hnumbered hrun

theorem Follows.tracked (h : process.Follows dev config process')
    (htracked : process.Tracked config given served) : process'.Tracked config given served := by
  obtain ⟨actions, hkeeps, hrun⟩ := h
  exact run_induction dev (fun action hmem _ _ hs => step_tracked dev (hkeeps action hmem) hs)
    htracked hrun

/-- Entities stay where they are. -/
theorem Follows.entities (h : process.Follows dev config process') :
    process.map.entities <+: process'.map.entities := by
  obtain ⟨actions, hkeeps, hrun⟩ := h
  exact run_induction dev (P := fun s => process.map.entities <+: s.map.entities)
    (fun action hmem _ _ hs hstep => hs.trans (step_entities dev (hkeeps action hmem) hstep))
    List.prefix_rfl hrun

/-! ## Handing over -/

/-- The innermost call stands at a list between two entities, and takes the item `a` with a sample
out of it. -/
structure HandsOver (process : SharedProcess σ) (i j a : Nat) (frames : List HandleFrame)
    (sample : Nat) : Prop where
  frames : process.frames = { i, j := some j, held := none } :: frames
  receiver : j < process.map.entitiesLen
  list : (process.map.matrix i j).list = some a
  sample : (process.map.memPool a).sample = sample

theorem HandsOver.advance {i j a sample : Nat} {frames : List HandleFrame}
    (h : process.HandsOver i j a frames sample) (uninitialized : SampleIdentity) :
    process.advance dev uninitialized = some (process.handOver dev uninitialized i j a frames) := by
  rw [SharedProcess.advance, h.frames]
  dsimp only
  rw [if_pos h.receiver, h.list]

/-- A state in which a sample was handed over. -/
theorem HandsOver.follows {i j a sample : Nat} {frames : List HandleFrame}
    (h : process.HandsOver i j a frames sample) (uninitialized : SampleIdentity) :
    process.Follows dev config (process.handOver dev uninitialized i j a frames) := by
  refine ⟨[.advance uninitialized], fun action hmem => ?_, ?_⟩
  · rw [List.mem_singleton.mp hmem]
    rfl
  · show (process.advance dev uninitialized).bind _ = _
    rw [h.advance]
    rfl

omit [MicroCdr] in
/-- What is handed over is what was published, and it was queued. -/
theorem Tracked.handsOver (h : process.Tracked config given served) {i j a : Nat}
    {frames : List HandleFrame} (hhands : process.HandsOver i j a frames given.sample) :
    (process.map.memPool a).content = given ∧ (i, j) ∈ served := by
  rcases h.known with hready | hunused
  · obtain ⟨place, hpooled⟩ := hready.pooled
    have hmem : (process.map.memPool a).content ∈ process.map.contents config i j := by
      rw [hpooled.contents_take hhands.list i j, if_pos ⟨rfl, rfl⟩]
      exact List.mem_cons_self
    have hgiven := h.waits i j _ hmem hhands.sample
    exact ⟨hgiven, h.served_of_mem (hgiven ▸ hmem)⟩
  · have hframes := hhands.frames
    rw [hunused.frames] at hframes
    cases hframes

/-- A call from the application that uses the map for nothing else hands over what waits. -/
theorem Tracked.flushed (h : process.Tracked config given served) (hframes : process.frames = [])
    {actions : List (SharedAction σ)}
    (hquiet : ∀ action ∈ actions, action.usesMap = false ∧ action.deletes = false)
    (hrun : process.run dev config (.handle :: actions) = some process')
    (hframes' : process'.frames = []) {i j : Nat} (hserved : (i, j) ∈ served)
    (hkind : handlesKind (process'.map.entity i).objectId.type = true)
    (hi : i < process'.map.entitiesLen) (hj : j < process'.map.entitiesLen) :
    (process'.handedSamples i j).count given.sample = 1 := by
  obtain ⟨s, hfirst, hrest⟩ := Option.bind_eq_some_iff.mp hrun
  have hhandle : process.step dev config .handle = some s := hfirst
  have hdraining : s.Draining := by
    have hhandle : (if process.applicationRuns then _ else none) = some s := hhandle
    split at hhandle
    · cases hhandle
      refine .outer (i := 0) ?_ fun k hk => absurd hk (Nat.not_lt_zero k)
      dsimp only
      rw [hframes]
    · cases hhandle
  obtain ⟨htracked, hdrained⟩ : process'.Tracked config given served ∧ process'.Draining :=
    run_induction dev (P := fun s => s.Tracked config given served ∧ s.Draining)
      (fun action hmem _ _ hs hstep => ⟨step_tracked dev (hquiet action hmem).2 hs.1 hstep,
        step_draining dev (hquiet action hmem).1 (hquiet action hmem).2 hs.2 hstep⟩)
      ⟨step_tracked dev rfl h hhandle, hdraining⟩ hrest
  have hempty : process'.map.queued config i j = [] := by
    cases hdrained with
    | outer frames rows =>
      rw [hframes'] at frames
      cases frames
    | inner frames rows row =>
      rw [hframes'] at frames
      cases frames
    | finished frames rows =>
      rw [SharedMemoryMap.queued, rows i hi hkind j hj]
      cases config.staticMemSize <;> rfl
  have honce := htracked.once i j
  rw [hempty, List.append_nil, if_pos hserved] at honce
  exact honce

end

end SharedProcess

end XrceClient
