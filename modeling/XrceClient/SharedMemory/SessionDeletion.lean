import XrceClient.SharedMemory.Queues

/-!
# The deletion of a session (`session.c`)

`uxr_delete_session_retries` starts with `uxr_clean_shared_memory`, which sets the whole map to
zero: the one map of the process, whoever its entities belong to.

- `othersView`: the entities of the other sessions, which of them match, and what is queued between
  them.
- `DeletesOnly`: the entities of one session are removed, and the pool stays usable.
- `delete_session_leaves_others_iff`: when this is so.
-/

namespace XrceClient

open ByteMemory LinkedList

namespace SharedMemoryMap

/-- The items in the list between two entities. -/
def queuedItems (config : SharedMemoryConfig) (map : SharedMemoryMap) (i j : Nat) :
    List (UcdrBuffer × UInt16 × UInt16) :=
  (walk map.next config.staticMemSize (map.matrix i j).list).map fun a =>
    ((map.memPool a).data, (map.memPool a).dataSize, (map.memPool a).requestId)

/-- The entities of the other sessions. -/
def othersOf (map : SharedMemoryMap) (session : Nat) : List Nat :=
  (List.range map.entitiesLen).filter fun i => (map.entity i).session ≠ session

/-- The entities of the other sessions, with what matches and is queued between them. -/
def othersView (config : SharedMemoryConfig) (map : SharedMemoryMap) (session : Nat) :
    List SharedEntity × List (List (Bool × List (UcdrBuffer × UInt16 × UInt16))) :=
  let others := map.othersOf session
  (others.map map.entity,
    others.map fun i => others.map fun j => ((map.matrix i j).matched, map.queuedItems config i j))

theorem othersOf_eq_nil_iff (map : SharedMemoryMap) (session : Nat) :
    map.othersOf session = [] ↔ ∀ i < map.entitiesLen, (map.entity i).session = session := by
  rw [othersOf, List.filter_eq_nil_iff]
  constructor
  · intro h i hi
    simpa using h i (List.mem_range.mpr hi)
  · intro h i hi
    simpa using h i (List.mem_range.mp hi)

end SharedMemoryMap

namespace SharedProcess

variable {σ : Type} [MicroCdr] (dev : Device σ) (config : SharedMemoryConfig)

/-- Whenever the map is used again, every item is in one place. -/
def PoolUsable (process : SharedProcess σ) : Prop :=
  ∀ (actions : List (SharedAction σ)) (process' : SharedProcess σ),
    (∀ action ∈ actions, action.deletes = false) → (∃ action ∈ actions, action.usesMap = true) →
    process.run dev config actions = some process' →
    ∃ place, Pooled config process'.map process'.held place

/-- From one state to the other the entities of a session are removed, with what is queued for them;
nothing changes between the others, and the pool stays usable. -/
structure DeletesOnly (session : Nat) (process process' : SharedProcess σ) : Prop where
  removed : ∀ i < process'.map.entitiesLen, (process'.map.entity i).session ≠ session
  others : process'.map.othersView config session = process.map.othersView config session
  usable : process'.PoolUsable dev config

variable {dev config} {process process' : SharedProcess σ} {session : Nat}

theorem step_deleteSession
    (hstep : process.step dev config (.deleteSession session) = some process') :
    process.applicationRuns = true ∧ process' = { process with map := .zero } := by
  have hstep : (if process.applicationRuns then _ else none) = some process' := hstep
  split at hstep
  · rename_i hruns
    cases hstep
    exact ⟨hruns, rfl⟩
  · cases hstep

/-- While the callback for an item is running, a new initialisation makes that item free as well. -/
theorem not_poolUsable (hmap : process.map = .zero) {frame : HandleFrame}
    {frames : List HandleFrame} {a : Nat} (hframes : process.frames = frame :: frames)
    (hheld : frame.held = some a) : ¬ process.PoolUsable dev config := by
  intro husable
  have hruns : process.applicationRuns = true := by
    rw [applicationRuns, hframes]
    show frame.held.isSome = true
    rw [hheld]
    rfl
  obtain ⟨process', hprocess'⟩ : ∃ process', process.apply config .handle = some process' :=
    ⟨_, rfl⟩
  have hrun : process.run dev config [.handle] = some process' := by
    show (if process.applicationRuns then process.apply config .handle else none).bind some = _
    rw [if_pos hruns, hprocess']
    rfl
  obtain ⟨place, hpooled⟩ := husable [.handle] process'
    (List.forall_mem_singleton.mpr rfl) ⟨.handle, List.mem_cons_self, rfl⟩ hrun
  cases hprocess'
  dsimp only at hpooled
  have hnone : SharedMemoryMap.NoLists .zero := ⟨rfl, fun _ _ => rfl⟩
  have hinitial := SharedMemoryMap.initSharedMemory_pooled config hnone
  have hinit : process.map.sharedMemoryInit config =
      SharedMemoryMap.initSharedMemory config .zero := by
    rw [hmap]
    rfl
  rw [hinit] at hpooled
  have hmem : a ∈ place .held := by
    rw [hpooled.held_eq, held, hframes]
    show a ∈ List.filterMap HandleFrame.held ({ i := 0, j := none, held := none } :: frame :: frames)
    rw [List.filterMap_cons_none rfl, List.filterMap_cons_some hheld]
    exact List.mem_cons_self
  have hlt : a < config.staticMemSize := (hpooled.partition.covers a).mpr ⟨_, hmem⟩
  have hfree : place .free = (List.range config.staticMemSize).reverse :=
    (hpooled.linked .free (by decide)).unique (hinitial.linked .free (by decide))
  have hfree' : a ∈ place .free := by
    rw [hfree]
    exact List.mem_reverse.mpr (List.mem_range.mpr hlt)
  cases hpooled.partition.disjoint hmem hfree'

/-- The map that was set to zero outside of a callback is as good as new. -/
theorem poolUsable_of_zero (hmap : process.map = .zero) (hframes : process.frames = []) :
    process.PoolUsable dev config := by
  intro actions process' hkeeps huses hrun
  have hunused : process.Unused := ⟨by rw [hmap]; rfl, ⟨by rw [hmap]; rfl, by rw [hmap]; exact fun _ _ => rfl⟩,
    hframes⟩
  have hready := run_unused dev hkeeps hunused hrun
  rw [if_pos (List.any_eq_true.mpr huses)] at hready
  exact hready.pooled

end SharedProcess

/-- The deletion of a session leaves the others alone if and only if no entity belongs to another
session, and it does not take place in a callback for a sample. -/
theorem delete_session_leaves_others_iff [MicroCdr] {σ : Type} (dev : Device σ)
    (config : SharedMemoryConfig) (session : Nat) {process process' : SharedProcess σ}
    (hstep : process.step dev config (.deleteSession session) = some process') :
    process.DeletesOnly dev config session process' ↔
      (∀ i < process.map.entitiesLen, (process.map.entity i).session = session) ∧
        process.frames = [] := by
  obtain ⟨hruns, rfl⟩ := SharedProcess.step_deleteSession hstep
  constructor
  · rintro ⟨-, hothers, husable⟩
    refine ⟨?_, ?_⟩
    · rw [← SharedMemoryMap.othersOf_eq_nil_iff]
      have hentities := congrArg Prod.fst hothers
      exact List.map_eq_nil_iff.mp hentities.symm
    · rw [SharedProcess.applicationRuns] at hruns
      cases hframes : process.frames with
      | nil => rfl
      | cons frame frames =>
        rw [hframes] at hruns
        obtain ⟨a, hheld⟩ := Option.isSome_iff_exists.mp hruns
        exact absurd husable (SharedProcess.not_poolUsable rfl hframes hheld)
  · rintro ⟨hsession, hframes⟩
    refine ⟨fun i hi => absurd hi (Nat.not_lt_zero i), ?_,
      SharedProcess.poolUsable_of_zero rfl hframes⟩
    have hnone := (SharedMemoryMap.othersOf_eq_nil_iff process.map session).mpr hsession
    rw [SharedMemoryMap.othersView, SharedMemoryMap.othersView, hnone]
    rfl

/-- A writer of one session, and a reader of a session; then a sample is published. -/
def publishBetween (writers readers : Nat) : List (SharedAction Memory) :=
  [ .addXml writers ⟨1, dataWriterId⟩ (endpointXml "data_writer" "A"),
    .addXml readers ⟨1, dataReaderId⟩ (endpointXml "data_reader" "A"),
    .prepare writers ⟨1, dataWriterId⟩ BufferItem.zero.data 4 10 ]

/-- The only session is deleted. -/
theorem delete_session_leaves_others_iff_publishBetween :
    ∃ process process', listeningRun (publishBetween 0 0) = some process ∧
      @SharedProcess.step Memory referenceMicroCdr Device.plain tenItems process
        (.deleteSession 0) = some process' ∧
      process.map.entitiesLen = 2 ∧
      @SharedProcess.DeletesOnly Memory referenceMicroCdr Device.plain tenItems 0 process
        process' := by
  have hstate : (listeningRun (publishBetween 0 0)).map (fun process =>
      (process.map.othersOf 0, process.map.entitiesLen, process.frames)) = some ([], 2, []) := by
    decide +kernel
  obtain ⟨process, hrun, hstate⟩ := Option.map_eq_some_iff.mp hstate
  obtain ⟨hothers, hstate⟩ := Prod.mk.inj hstate
  obtain ⟨hlength, hframes⟩ := Prod.mk.inj hstate
  obtain ⟨process', hstep⟩ : ∃ process', @SharedProcess.step Memory referenceMicroCdr Device.plain
      tenItems process (.deleteSession 0) = some process' := by
    refine ⟨{ process with map := .zero }, ?_⟩
    show (if process.applicationRuns then _ else none) = _
    rw [if_pos (by rw [SharedProcess.applicationRuns, hframes])]
    rfl
  exact ⟨process, process', hrun, hstep, hlength,
    (@delete_session_leaves_others_iff referenceMicroCdr Memory Device.plain tenItems 0 process
      process' hstep).mpr
        ⟨(SharedMemoryMap.othersOf_eq_nil_iff process.map 0).mp hothers, hframes⟩⟩

/-- The deletion of one session removes the entities of another one. -/
theorem delete_session_removes_another :
    ¬ ∀ (actions : List (SharedAction Memory)) (session : Nat) (process process' : SharedProcess Memory),
      listeningRun actions = some process →
      @SharedProcess.step Memory referenceMicroCdr Device.plain tenItems process
        (.deleteSession session) = some process' →
      @SharedProcess.DeletesOnly Memory referenceMicroCdr Device.plain tenItems session process
        process' := by
  intro hall
  have hstate : (listeningRun (publishBetween 0 1)).map (fun process =>
      (process.map.othersOf 0, process.frames)) = some ([1], []) := by
    decide +kernel
  obtain ⟨process, hrun, hstate⟩ := Option.map_eq_some_iff.mp hstate
  obtain ⟨hothers, hframes⟩ := Prod.mk.inj hstate
  have hstep : @SharedProcess.step Memory referenceMicroCdr Device.plain tenItems process
      (.deleteSession 0) = some { process with map := .zero } := by
    show (if process.applicationRuns then _ else none) = _
    rw [if_pos (by rw [SharedProcess.applicationRuns, hframes])]
    rfl
  have hview := @SharedProcess.DeletesOnly.others Memory referenceMicroCdr _ _ _ _ _
    (hall _ 0 process _ hrun hstep)
  have hentities := congrArg (fun view => view.1.length) hview
  rw [SharedMemoryMap.othersView, SharedMemoryMap.othersView, hothers] at hentities
  cases hentities

end XrceClient
