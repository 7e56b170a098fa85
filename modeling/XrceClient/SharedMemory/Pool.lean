import XrceClient.Base.LinkedList
import XrceClient.Base.Loops
import XrceClient.SharedMemory.Handling

/-!
# The pool of items

The items of the pool are spread over the list of the free ones, the lists between the entities,
and the active calls of `uxr_handle_shared_memory`.

- `Pooled`: where each item is, and that the lists are linked as they should.
- `Pooled.take`, `Pooled.release`, `Pooled.publish`: an item is taken out of a list, becomes free
  again, goes to an entity.
- `updateSharedMemoryMatching_lists`: the matching leaves the lists alone.
- `step_ready`, `run_ready`: what one action keeps, and what a run does.
- `shared_memory_pool_conserved`: no item is lost, none is in two places, no list is cyclic.
-/

namespace XrceClient

open ByteMemory LinkedList

/-- Where an item can be. -/
inductive Place where
  | free
  | block (i j : Nat)
  | held
  deriving DecidableEq, Repr

namespace SharedMemoryMap

/-- The head of a list; what is held has none. -/
def head (map : SharedMemoryMap) : Place → Option Nat
  | .free => map.mempoolFreeitems
  | .block i j => (map.matrix i j).list
  | .held => none

theorem next_setItem (map : SharedMemoryMap) (a : Nat) (item : BufferItem) :
    (map.setItem a item).next = Function.update map.next a item.next := by
  funext b
  by_cases hb : b = a
  · subst hb
    rw [Function.update_self]
    show (Function.update map.memPool b item b).next = _
    rw [Function.update_self]
  · rw [Function.update_of_ne hb]
    show (Function.update map.memPool a item b).next = _
    rw [Function.update_of_ne hb]
    rfl

theorem matrix_setBlock (map : SharedMemoryMap) (i j k l : Nat) (block : MatrixBlock) :
    (map.setBlock i j block).matrix k l = if k = i ∧ l = j then block else map.matrix k l := by
  show Function.update map.matrix i _ k l = _
  by_cases hk : k = i
  · subst hk
    rw [Function.update_self]
    by_cases hl : l = j
    · subst hl
      rw [Function.update_self, if_pos ⟨rfl, rfl⟩]
    · rw [Function.update_of_ne hl, if_neg (fun h => hl h.2)]
  · rw [Function.update_of_ne hk, if_neg (fun h => hk h.1)]

theorem head_setBlock (map : SharedMemoryMap) (i j : Nat) (block : MatrixBlock) (p : Place) :
    (map.setBlock i j block).head p = if p = .block i j then block.list else map.head p := by
  cases p with
  | free => rfl
  | held => rfl
  | block k l =>
    show ((map.setBlock i j block).matrix k l).list = _
    rw [matrix_setBlock]
    by_cases h : k = i ∧ l = j
    · rw [if_pos h, if_pos (by rw [h.1, h.2])]
    · rw [if_neg h, if_neg (fun heq => h (by cases heq; exact ⟨rfl, rfl⟩))]
      rfl

end SharedMemoryMap

/-- Every item is in one place, and the lists are linked through those that are in them. -/
structure Pooled (config : SharedMemoryConfig) (map : SharedMemoryMap) (held : List Nat)
    (place : Place → List Nat) : Prop where
  partition : Partition (· < config.staticMemSize) place
  linked : ∀ p, p ≠ .held → Linked map.next (map.head p) (place p)
  held_eq : place .held = held

namespace Pooled

variable {config : SharedMemoryConfig} {map : SharedMemoryMap} {held : List Nat}
  {place : Place → List Nat}

/-- What is in an item besides its link does not matter. -/
theorem setItem (h : Pooled config map held place) {a : Nat} {item : BufferItem}
    (hnext : item.next = map.next a) : Pooled config (map.setItem a item) held place where
  partition := h.partition
  linked p hp := by
    rw [SharedMemoryMap.next_setItem, hnext, Function.update_eq_self]
    exact h.linked p hp
  held_eq := h.held_eq

/-- The head of a list that is not empty. -/
theorem exists_rest (h : Pooled config map held place) {p : Place} (hp : p ≠ .held) {a : Nat}
    (hhead : map.head p = some a) :
    ∃ rest, place p = a :: rest ∧ Linked map.next (map.next a) rest := by
  have hlinked := h.linked p hp
  rw [hhead] at hlinked
  exact hlinked.tail

/-- The item whose callback returns is free again. -/
theorem release {a : Nat} (h : Pooled config map (a :: held) place) :
    Pooled config (map.prependFree a) held (Partition.moved place .held .free a held) := by
  have hnext : (map.prependFree a).next = Function.update map.next a map.mempoolFreeitems :=
    map.next_setItem a _
  refine ⟨h.partition.move h.held_eq, ?_, ?_⟩
  · refine h.partition.move_linked h.linked h.held_eq (by decide) ?_ ?_ ?_ ?_
    · intro b hb
      rw [hnext, Function.update_of_ne hb]
    · intro p _ _ hfree
      cases p with
      | free => exact absurd rfl hfree
      | block i j => rfl
      | held => rfl
    · intro hheld
      exact absurd rfl hheld
    · intro _
      rw [hnext, Function.update_self]
      exact ⟨rfl, rfl⟩
  · rw [Partition.moved, Function.update_of_ne (by decide), Function.update_self]

/-- An item is taken out of the list between two entities. -/
theorem take (h : Pooled config map held place) {i j a : Nat}
    (hlist : (map.matrix i j).list = some a) :
    ∃ rest, place (.block i j) = a :: rest ∧
      Pooled config (map.popBlock i j).2 (a :: held)
        (Partition.moved place (.block i j) .held a rest) := by
  obtain ⟨rest, hsource, -⟩ := h.exists_rest (p := .block i j) nofun hlist
  have hhead (p : Place) : (map.popBlock i j).2.head p =
      if p = .block i j then map.next a else map.head p := by
    show (map.setBlock i j _).head p = _
    rw [SharedMemoryMap.head_setBlock]
    dsimp only
    rw [hlist]
    rfl
  refine ⟨rest, hsource, h.partition.move hsource, ?_, ?_⟩
  · refine h.partition.move_linked h.linked hsource nofun ?_ ?_ ?_ ?_
    · intro b _
      rfl
    · intro p _ hp _
      rw [hhead, if_neg hp]
    · intro _
      rw [hhead, if_pos rfl]
    · intro hheld
      exact absurd rfl hheld
  · have hne : Place.held ≠ .block i j := nofun
    rw [Partition.moved, Function.update_self, Function.update_of_ne hne, h.held_eq]

/-- A sample goes to an entity, in an item that was free. -/
theorem publish (h : Pooled config map held place) {a : Nat} (hfree : map.mempoolFreeitems = some a)
    (entityIndex i : Nat) (ub : UcdrBuffer) (dataSize requestId : UInt16) (sample : Nat) :
    ∃ rest, place .free = a :: rest ∧
      Pooled config (map.publishTo entityIndex i ub dataSize requestId sample) held
        (Partition.moved place .free (.block entityIndex i) a rest) := by
  obtain ⟨rest, hsource, -⟩ := h.exists_rest (p := .free) nofun hfree
  obtain ⟨item, hitem⟩ : ∃ item : BufferItem, map.publishTo entityIndex i ub dataSize requestId
      sample =
        (({ map with mempoolFreeitems := map.next a }.setItem a
          { item with next := (map.matrix entityIndex i).list }).setBlock entityIndex i
            { map.matrix entityIndex i with list := some a }) := by
    rw [SharedMemoryMap.publishTo, SharedMemoryMap.popFree, hfree]
    refine ⟨{ map.memPool a with data := ub, dataSize, requestId, sample }, ?_⟩
    simp [SharedMemoryMap.prependBlock, SharedMemoryMap.setItem, SharedMemoryMap.setBlock]
  rw [hitem]
  refine ⟨rest, hsource, h.partition.move hsource, ?_, ?_⟩
  · refine h.partition.move_linked h.linked hsource nofun ?_ ?_ ?_ ?_
    · intro b hb
      show SharedMemoryMap.next (SharedMemoryMap.setItem _ a _) b = _
      rw [SharedMemoryMap.next_setItem, Function.update_of_ne hb]
      rfl
    · intro p hp hpfree hpblock
      rw [SharedMemoryMap.head_setBlock, if_neg hpblock]
      cases p with
      | free => exact absurd rfl hpfree
      | block k l => rfl
      | held => rfl
    · intro _
      rw [SharedMemoryMap.head_setBlock, if_neg nofun]
      rfl
    · intro _
      rw [SharedMemoryMap.head_setBlock, if_pos rfl]
      refine ⟨rfl, ?_⟩
      show SharedMemoryMap.next (SharedMemoryMap.setItem _ a _) a = _
      rw [SharedMemoryMap.next_setItem, Function.update_self]
      rfl
  · have hfree : Place.held ≠ .free := nofun
    have hblock : Place.held ≠ .block entityIndex i := nofun
    rw [Partition.moved, Function.update_of_ne hblock, Function.update_of_ne hfree, h.held_eq]

/-- Where no item is free, the sample goes nowhere. -/
theorem publish_none (hfree : map.mempoolFreeitems = none)
    (entityIndex i : Nat) (ub : UcdrBuffer) (dataSize requestId : UInt16) (sample : Nat) :
    map.publishTo entityIndex i ub dataSize requestId sample = map := by
  rw [SharedMemoryMap.publishTo, SharedMemoryMap.popFree, hfree]
  show { map with mempoolFreeitems := none } = map
  rw [← hfree]

end Pooled

/-! ## Initialisation and matching -/

namespace SharedMemoryMap

/-- No list has a member. -/
structure NoLists (map : SharedMemoryMap) : Prop where
  free : map.mempoolFreeitems = none
  block : ∀ i j, (map.matrix i j).list = none

/-- The place of every item once the pool is initialised. -/
def initialPlace (config : SharedMemoryConfig) : Place → List Nat
  | .free => (List.range config.staticMemSize).reverse
  | _ => []

theorem initSharedMemory_pooled (config : SharedMemoryConfig) {map : SharedMemoryMap}
    (h : map.NoLists) :
    Pooled config (map.initSharedMemory config) [] (initialPlace config) := by
  have hloop : Linked (map.initSharedMemory config).next
        (map.initSharedMemory config).mempoolFreeitems (List.range config.staticMemSize).reverse ∧
      ∀ i j, ((map.initSharedMemory config).matrix i j).list = none := by
    refine Loop.foldl_range_induction (fun k (map : SharedMemoryMap) =>
      Linked map.next map.mempoolFreeitems (List.range k).reverse ∧
        ∀ i j, (map.matrix i j).list = none) ?_ ?_
    · dsimp only
      rw [h.free]
      exact ⟨.nil, h.block⟩
    · rintro k m - ⟨hfree, hblock⟩
      refine ⟨?_, hblock⟩
      have hpush := hfree.push (a := k) (by simp)
      rw [List.range_succ, List.reverse_append]
      show Linked (m.setItem k _).next (some k) (k :: (List.range k).reverse)
      rw [next_setItem]
      exact hpush
  refine ⟨⟨?_, ?_, ?_⟩, ?_, rfl⟩
  · intro p
    cases p with
    | free => exact List.nodup_reverse.mpr List.nodup_range
    | block i j => exact List.nodup_nil
    | held => exact List.nodup_nil
  · intro p q a hp hq
    cases p with
    | free =>
      cases q with
      | free => rfl
      | block i j => cases hq
      | held => cases hq
    | block i j => cases hp
    | held => cases hp
  · intro a
    constructor
    · intro ha
      exact ⟨.free, List.mem_reverse.mpr (List.mem_range.mpr ha)⟩
    · rintro ⟨p, hp⟩
      cases p with
      | free => exact List.mem_range.mp (List.mem_reverse.mp hp)
      | block i j => cases hp
      | held => cases hp
  · intro p hp
    cases p with
    | free => exact hloop.1
    | block i j =>
      show Linked _ ((map.initSharedMemory config).matrix i j).list []
      rw [hloop.2 i j]
      exact .nil
    | held => exact absurd rfl hp

theorem initSharedMemory_init (config : SharedMemoryConfig) (map : SharedMemoryMap) :
    (map.initSharedMemory config).init = true :=
  Loop.foldl_range_induction (fun _ (map : SharedMemoryMap) => map.init = true) rfl
    fun _ _ _ h => h

theorem initSharedMemory_entities (config : SharedMemoryConfig) (map : SharedMemoryMap) :
    (map.initSharedMemory config).entities = map.entities ∧
      (map.initSharedMemory config).matrix = map.matrix :=
  Loop.foldl_range_induction
    (fun _ (m : SharedMemoryMap) => m.entities = map.entities ∧ m.matrix = map.matrix) ⟨rfl, rfl⟩
    fun _ _ _ h => h

theorem sharedMemoryInit_init (config : SharedMemoryConfig) (map : SharedMemoryMap) :
    (map.sharedMemoryInit config).init = true := by
  rw [sharedMemoryInit]
  split
  · assumption
  · exact initSharedMemory_init config map

theorem sharedMemoryInit_entities (config : SharedMemoryConfig) (map : SharedMemoryMap) :
    (map.sharedMemoryInit config).entities = map.entities ∧
      (map.sharedMemoryInit config).matrix = map.matrix := by
  rw [sharedMemoryInit]
  split
  · exact ⟨rfl, rfl⟩
  · exact initSharedMemory_entities config map

/-- Two maps that differ in what matches only. -/
structure SameLists (map map' : SharedMemoryMap) : Prop where
  entities : map'.entities = map.entities
  memPool : map'.memPool = map.memPool
  free : map'.mempoolFreeitems = map.mempoolFreeitems
  init : map'.init = map.init
  block : ∀ i j, (map'.matrix i j).list = (map.matrix i j).list

theorem SameLists.refl (map : SharedMemoryMap) : map.SameLists map :=
  ⟨rfl, rfl, rfl, rfl, fun _ _ => rfl⟩

theorem SameLists.trans {m₁ m₂ m₃ : SharedMemoryMap} (h : m₁.SameLists m₂) (h' : m₂.SameLists m₃) :
    m₁.SameLists m₃ :=
  ⟨h'.entities.trans h.entities, h'.memPool.trans h.memPool, h'.free.trans h.free,
    h'.init.trans h.init, fun i j => (h'.block i j).trans (h.block i j)⟩

theorem SameLists.pooled {config : SharedMemoryConfig} {map map' : SharedMemoryMap}
    (h : map.SameLists map') {held : List Nat} {place : Place → List Nat}
    (hpooled : Pooled config map held place) : Pooled config map' held place where
  partition := hpooled.partition
  linked p hp := by
    have hnext : map'.next = map.next := by
      funext a
      show (map'.memPool a).next = _
      rw [h.memPool]
      rfl
    have hhead : map'.head p = map.head p := by
      cases p with
      | free => exact h.free
      | block i j => exact h.block i j
      | held => rfl
    rw [hnext, hhead]
    exact hpooled.linked p hp
  held_eq := hpooled.held_eq

theorem updateBlock_lists [MicroCdr] {map map' : SharedMemoryMap} {i j : Nat}
    (h : map.updateBlock i j = some map') : map.SameLists map' := by
  rw [updateBlock] at h
  obtain ⟨found, -, hblock⟩ := Option.bind_eq_some_iff.mp h
  cases found with
  | none =>
    cases hblock
    exact .refl map
  | some matched =>
    cases hblock
    refine ⟨rfl, rfl, rfl, rfl, fun k l => ?_⟩
    rw [matrix_setBlock]
    split
    · rename_i heq
      rw [heq.1, heq.2]
    · rfl

/-- The matching leaves the lists alone. -/
theorem updateSharedMemoryMatching_lists [MicroCdr] {map map' : SharedMemoryMap}
    (h : map.updateSharedMemoryMatching = some map') : map.SameLists map' := by
  refine Loop.foldlM_range_induction h (fun _ m => map.SameLists m) (.refl map) ?_
  intro i m m' _ hm hrow
  exact Loop.foldlM_range_induction hrow (fun _ m => map.SameLists m) hm
    fun j m m' _ hm hblock => hm.trans (updateBlock_lists hblock)

/-- So does a new entity. -/
theorem addEntity_pooled [MicroCdr] {config : SharedMemoryConfig} {map map' : SharedMemoryMap}
    {entity : Option SharedEntity} {held : List Nat} {place : Place → List Nat}
    (h : map.addEntity config entity = some map') (hpooled : Pooled config map held place) :
    Pooled config map' held place := by
  rw [addEntity] at h
  split at h
  · obtain ⟨entity, -, hupdate⟩ := Option.bind_eq_some_iff.mp h
    refine (updateSharedMemoryMatching_lists hupdate).pooled
      ⟨hpooled.partition, fun p hp => ?_, hpooled.held_eq⟩
    cases p with
    | free => exact hpooled.linked .free hp
    | block i j => exact hpooled.linked (.block i j) hp
    | held => exact absurd rfl hp
  · cases h
    exact hpooled

theorem addEntity_init [MicroCdr] {config : SharedMemoryConfig} {map map' : SharedMemoryMap}
    {entity : Option SharedEntity} (h : map.addEntity config entity = some map') :
    map'.init = map.init := by
  rw [addEntity] at h
  split at h
  · obtain ⟨entity, -, hupdate⟩ := Option.bind_eq_some_iff.mp h
    exact (updateSharedMemoryMatching_lists hupdate).init
  · cases h
    rfl

variable {sessions : Nat → SharedSession} {config : SharedMemoryConfig} {map : SharedMemoryMap}
  {held : List Nat}

/-- A sample goes to one entity after the other. -/
theorem prepareSharedMemory_pooled {session : Nat} {entityId : ObjectId} {ub : UcdrBuffer}
    {dataSize requestId : UInt16} {sample : Nat}
    (h : ∃ place, Pooled config (map.sharedMemoryInit config) held place) :
    ∃ place, Pooled config
      (map.prepareSharedMemory sessions config session entityId ub dataSize requestId sample) held
        place := by
  rw [prepareSharedMemory]
  split
  · rename_i entityIndex _
    refine Loop.foldl_range_induction
      (fun _ (m : SharedMemoryMap) => ∃ place, Pooled config m held place) h ?_
    rintro i m - ⟨place, hpooled⟩
    split
    · cases hfree : m.mempoolFreeitems with
      | none =>
        rw [Pooled.publish_none hfree]
        exact ⟨place, hpooled⟩
      | some a =>
        obtain ⟨rest, -, hpublish⟩ :=
          hpooled.publish hfree entityIndex i ub dataSize requestId sample
        exact ⟨_, hpublish⟩
    · exact ⟨place, hpooled⟩
  · exact h

theorem prepareSharedMemory_init {session : Nat} {entityId : ObjectId} {ub : UcdrBuffer}
    {dataSize requestId : UInt16} {sample : Nat} :
    (map.prepareSharedMemory sessions config session entityId ub dataSize requestId sample).init =
      true := by
  rw [prepareSharedMemory]
  split
  · refine Loop.foldl_range_induction (fun _ (m : SharedMemoryMap) => m.init = true)
      (map.sharedMemoryInit_init config) ?_
    intro i m _ hinit
    split
    · rw [publishTo, popFree]
      cases m.mempoolFreeitems with
      | none => exact hinit
      | some a => exact hinit
    · exact hinit
  · exact map.sharedMemoryInit_init config

end SharedMemoryMap

/-! ## Runs -/

/-- Whether the map is used, so that the pool is there afterwards. -/
def SharedAction.usesMap {σ : Type} : SharedAction σ → Bool
  | .addXml .. | .addBin .. | .prepare .. | .handle => true
  | _ => false

/-- Whether a session is deleted. -/
def SharedAction.deletes {σ : Type} : SharedAction σ → Bool
  | .deleteSession _ => true
  | _ => false

namespace SharedProcess

variable {σ : Type}

/-- The items whose callbacks are running, the innermost first. -/
def held (process : SharedProcess σ) : List Nat := process.frames.filterMap HandleFrame.held

/-- The pool is initialised, and its items are where they should be. -/
structure Ready (config : SharedMemoryConfig) (process : SharedProcess σ) : Prop where
  init : process.map.init = true
  pooled : ∃ place, Pooled config process.map process.held place

/-- The map was not used. -/
structure Unused (process : SharedProcess σ) : Prop where
  init : process.map.init = false
  lists : process.map.NoLists
  frames : process.frames = []

variable {config : SharedMemoryConfig} {process process' : SharedProcess σ}

theorem initial_unused (sessions : Nat → SharedSession) (memory : σ) :
    (initial sessions memory).Unused where
  init := rfl
  lists := ⟨rfl, fun _ _ => rfl⟩
  frames := rfl

/-- The items are where they should be once the pool is initialised. -/
def Startable (config : SharedMemoryConfig) (process : SharedProcess σ) : Prop :=
  ∃ place, Pooled config (process.map.sharedMemoryInit config) process.held place

theorem Ready.startable (h : process.Ready config) : process.Startable config := by
  rw [Startable, SharedMemoryMap.sharedMemoryInit, if_pos h.init]
  exact h.pooled

theorem Unused.startable (h : process.Unused) : process.Startable config := by
  rw [Startable, SharedMemoryMap.sharedMemoryInit, if_neg (by rw [h.init]; exact Bool.false_ne_true),
    held, h.frames]
  exact ⟨_, SharedMemoryMap.initSharedMemory_pooled config h.lists⟩

section

variable [MicroCdr]

/-- What uses the map finds its items, or puts them where they should be. -/
theorem apply_ready {action : SharedAction σ} (huses : action.usesMap = true)
    (h : process.Startable config) (happly : process.apply config action = some process') :
    process'.Ready config := by
  obtain ⟨place, hpooled⟩ := h
  have hinit := process.map.sharedMemoryInit_init config
  cases action with
  | addXml session entityId xml =>
    obtain ⟨map, hadd, heq⟩ := Option.bind_eq_some_iff.mp happly
    cases heq
    exact ⟨(SharedMemoryMap.addEntity_init hadd).trans hinit, place,
      SharedMemoryMap.addEntity_pooled hadd hpooled⟩
  | addBin session entityId entity =>
    obtain ⟨map, hadd, heq⟩ := Option.bind_eq_some_iff.mp happly
    cases heq
    exact ⟨(SharedMemoryMap.addEntity_init hadd).trans hinit, place,
      SharedMemoryMap.addEntity_pooled hadd hpooled⟩
  | prepare session entityId ub dataSize requestId =>
    cases happly
    exact ⟨SharedMemoryMap.prepareSharedMemory_init,
      SharedMemoryMap.prepareSharedMemory_pooled ⟨place, hpooled⟩⟩
  | handle =>
    cases happly
    exact ⟨hinit, place, hpooled⟩
  | deleteSession session => cases huses
  | proceed sessions memory => cases huses
  | advance uninitialized => cases huses
  | callbackReturns => cases huses

end

/-! ### The innermost call -/

/-- The item whose callback returns is free. -/
theorem callbackReturns_ready (h : process.Ready config)
    (hreturns : process.callbackReturns = some process') : process'.Ready config := by
  obtain ⟨hinit, place, hpooled⟩ := h
  rw [callbackReturns] at hreturns
  split at hreturns
  · rename_i i j a frames hframes
    rw [held, hframes] at hpooled
    cases hreturns
    exact ⟨hinit, _, hpooled.release⟩
  · cases hreturns

variable [MicroCdr] (dev : Device σ)

/-- A callback that is to be called has the item, but not its link. -/
theorem dispatch_item (sessions : Nat → SharedSession) (map : SharedMemoryMap) (i j : Nat)
    (uninitialized : SampleIdentity) (memory : σ) (item : BufferItem) :
    (dispatch dev sessions map i j uninitialized memory item).2.2.next = item.next ∧
      (dispatch dev sessions map i j uninitialized memory item).2.2.sample = item.sample := by
  rw [dispatch]
  split
  · exact ⟨rfl, rfl⟩
  · split
    · exact ⟨rfl, rfl⟩
    · split
      · rw [dispatchReply]
        split
        · dsimp only
          split
          · exact ⟨rfl, rfl⟩
          · exact ⟨rfl, rfl⟩
        · exact ⟨rfl, rfl⟩
      · exact ⟨rfl, rfl⟩

theorem handOver_ready {uninitialized : SampleIdentity} {i j a : Nat} {frames : List HandleFrame}
    {place : Place → List Nat} (hinit : process.map.init = true)
    (h : Pooled config process.map (frames.filterMap HandleFrame.held) place)
    (hlist : (process.map.matrix i j).list = some a) :
    (process.handOver dev uninitialized i j a frames).Ready config := by
  obtain ⟨rest, -, htake⟩ := h.take hlist
  rw [handOver]
  dsimp only
  have hitem := dispatch_item dev process.sessions (process.map.popBlock i j).2 i j uninitialized
    process.memory ((process.map.popBlock i j).2.memPool a)
  generalize dispatch dev process.sessions (process.map.popBlock i j).2 i j uninitialized
    process.memory ((process.map.popBlock i j).2.memPool a) = dispatched at hitem ⊢
  obtain ⟨call, memory, item⟩ := dispatched
  have hset := htake.setItem hitem.1
  cases call with
  | some call => exact ⟨hinit, _, hset⟩
  | none => exact ⟨hinit, _, hset.release⟩

theorem advance_ready {uninitialized : SampleIdentity} (h : process.Ready config)
    (hadvance : process.advance dev uninitialized = some process') : process'.Ready config := by
  obtain ⟨hinit, place, hpooled⟩ := h
  rw [advance] at hadvance
  split at hadvance
  · rename_i i frames hframes
    rw [held, hframes] at hpooled
    split at hadvance
    · split at hadvance
      · cases hadvance
        exact ⟨hinit, place, hpooled⟩
      · cases hadvance
        exact ⟨hinit, place, hpooled⟩
    · cases hadvance
      exact ⟨hinit, place, hpooled⟩
  · rename_i i j frames hframes
    rw [held, hframes] at hpooled
    split at hadvance
    · split at hadvance
      · rename_i a hlist
        cases hadvance
        exact handOver_ready dev hinit hpooled hlist
      · cases hadvance
        exact ⟨hinit, place, hpooled⟩
    · cases hadvance
      exact ⟨hinit, place, hpooled⟩
  · cases hadvance

/-! ### Steps and runs -/

/-- Once the pool is initialised, every action keeps the items where they should be. -/
theorem step_ready {action : SharedAction σ} (hkeeps : action.deletes = false)
    (h : process.Ready config) (hstep : process.step dev config action = some process') :
    process'.Ready config := by
  have happlication (huses : action.usesMap = true)
      (hstep : (if process.applicationRuns then process.apply config action else none) =
        some process') : process'.Ready config := by
    split at hstep
    · exact apply_ready huses h.startable hstep
    · cases hstep
  cases action with
  | advance uninitialized => exact advance_ready dev h hstep
  | callbackReturns => exact callbackReturns_ready h hstep
  | addXml session entityId xml => exact happlication rfl hstep
  | addBin session entityId entity => exact happlication rfl hstep
  | prepare session entityId ub dataSize requestId => exact happlication rfl hstep
  | handle => exact happlication rfl hstep
  | deleteSession session => cases hkeeps
  | proceed sessions memory =>
    have hstep : (if process.applicationRuns then _ else none) = some process' := hstep
    split at hstep
    · cases hstep
      exact ⟨h.init, h.pooled⟩
    · cases hstep

/-- The first use of the map initialises the pool; until then nothing happens to it. -/
theorem step_unused {action : SharedAction σ} (hkeeps : action.deletes = false)
    (h : process.Unused) (hstep : process.step dev config action = some process') :
    if action.usesMap then process'.Ready config else process'.Unused := by
  have hruns : process.applicationRuns = true := by
    rw [applicationRuns, h.frames]
  have happlication (huses : action.usesMap = true)
      (hstep : (if process.applicationRuns then process.apply config action else none) =
        some process') : process'.Ready config := by
    rw [if_pos hruns] at hstep
    exact apply_ready huses h.startable hstep
  cases action with
  | advance uninitialized =>
    rw [step, advance, h.frames] at hstep
    cases hstep
  | callbackReturns =>
    rw [step, callbackReturns, h.frames] at hstep
    cases hstep
  | addXml session entityId xml => exact happlication rfl hstep
  | addBin session entityId entity => exact happlication rfl hstep
  | prepare session entityId ub dataSize requestId => exact happlication rfl hstep
  | handle => exact happlication rfl hstep
  | deleteSession session => cases hkeeps
  | proceed sessions memory =>
    have hstep : (if process.applicationRuns then _ else none) = some process' := hstep
    rw [if_pos hruns] at hstep
    cases hstep
    exact ⟨h.init, h.lists, h.frames⟩

/-- What every action of a run keeps, the run keeps. -/
theorem run_induction {P : SharedProcess σ → Prop} {actions : List (SharedAction σ)}
    (hstep : ∀ action ∈ actions, ∀ s s', P s → s.step dev config action = some s' → P s')
    (h : P process) (hrun : process.run dev config actions = some process') : P process' := by
  induction actions generalizing process with
  | nil =>
    cases hrun
    exact h
  | cons action actions ih =>
    obtain ⟨s, hfirst, hrest⟩ := Option.bind_eq_some_iff.mp hrun
    exact ih (fun action hmem => hstep action (List.mem_cons_of_mem _ hmem))
      (hstep action List.mem_cons_self process s h hfirst) hrest

theorem run_ready {actions : List (SharedAction σ)}
    (hkeeps : ∀ action ∈ actions, action.deletes = false) (h : process.Ready config)
    (hrun : process.run dev config actions = some process') : process'.Ready config :=
  run_induction dev (fun action hmem _ _ h => step_ready dev (hkeeps action hmem) h) h hrun

/-- A run from an unused map initialises the pool if it uses the map at all. -/
theorem run_unused {actions : List (SharedAction σ)}
    (hkeeps : ∀ action ∈ actions, action.deletes = false) (h : process.Unused)
    (hrun : process.run dev config actions = some process') :
    if actions.any SharedAction.usesMap then process'.Ready config else process'.Unused := by
  induction actions generalizing process with
  | nil =>
    cases hrun
    exact h
  | cons action actions ih =>
    obtain ⟨s, hfirst, hrest⟩ := Option.bind_eq_some_iff.mp hrun
    have hkeeps' : ∀ action ∈ actions, action.deletes = false :=
      fun action hmem => hkeeps action (List.mem_cons_of_mem _ hmem)
    have hs := step_unused dev (hkeeps action List.mem_cons_self) h hfirst
    rw [List.any_cons]
    cases huses : action.usesMap with
    | true =>
      rw [huses] at hs
      exact run_ready dev hkeeps' hs hrest
    | false =>
      rw [huses] at hs
      exact ih hkeeps' hs hrest

end SharedProcess

/-- Whatever an application publishes and flushes, in its callbacks too, once it used the map every
item of the pool is free, in the list between two entities, or held by an active call of
`uxr_handle_shared_memory`; it is in one place only, and the lists come to an end. -/
theorem shared_memory_pool_conserved [MicroCdr] {σ : Type} (dev : Device σ)
    (config : SharedMemoryConfig) (sessions : Nat → SharedSession) (memory : σ)
    {actions : List (SharedAction σ)} (hkeeps : ∀ action ∈ actions, action.deletes = false)
    (huses : ∃ action ∈ actions, action.usesMap = true) {process : SharedProcess σ}
    (hrun : (SharedProcess.initial sessions memory).run dev config actions = some process) :
    ∃ place : Place → List Nat,
      Partition (· < config.staticMemSize) place ∧
      Linked process.map.next process.map.mempoolFreeitems (place .free) ∧
      (∀ i j, Linked process.map.next (process.map.matrix i j).list (place (.block i j))) ∧
      place .held = process.held := by
  have hready := SharedProcess.run_unused dev hkeeps (SharedProcess.initial_unused sessions memory)
    hrun
  rw [if_pos (List.any_eq_true.mpr huses)] at hready
  obtain ⟨place, hpooled⟩ := hready.pooled
  exact ⟨place, hpooled.partition, hpooled.linked .free nofun,
    fun i j => hpooled.linked (.block i j) nofun, hpooled.held_eq⟩

/-- A session whose callbacks are all installed. -/
def listeningSession : SharedSession where
  key := #v[0xAA, 0xAA, 0xBB, 0xBB]
  onTopic := true
  onRequest := true
  onReply := true
  onTopicArgs := 1
  onRequestArgs := 2
  onReplyArgs := 3
  onDataFlag := false

/-- The description of a data reader or writer. -/
def endpointXml (dataReaderOrWriter topicName : String) : List UInt8 :=
  chars s!"<dds><{dataReaderOrWriter}><topic><name>{topicName}</name><dataType>T</dataType></topic></{dataReaderOrWriter}></dds>"

/-- A writer and a reader are created, and a sample is published; while it is handed over, the
callback publishes another one, and flushes. -/
def publishInCallback : List (SharedAction Memory) :=
  let ub := BufferItem.zero.data
  [ .addXml 0 ⟨1, dataWriterId⟩ (endpointXml "data_writer" "A"),
    .addXml 0 ⟨1, dataReaderId⟩ (endpointXml "data_reader" "A"),
    .prepare 0 ⟨1, dataWriterId⟩ ub 4 10,
    .handle, .advance .zero, .advance .zero, .advance .zero,
    .prepare 0 ⟨1, dataWriterId⟩ ub 4 11,
    .handle, .advance .zero, .advance .zero, .advance .zero ]

/-- Room for four entities and ten items. -/
def tenItems : SharedMemoryConfig where
  maxEntities := 4
  staticMemSize := 10

/-- A run in which all sessions are alike. -/
def listeningRun (actions : List (SharedAction Memory)) : Option (SharedProcess Memory) :=
  @SharedProcess.run Memory referenceMicroCdr Device.plain tenItems
    (.initial (fun _ => listeningSession) fun _ => 0) actions

theorem shared_memory_pool_conserved_publishInCallback :
    ∃ process, listeningRun publishInCallback = some process ∧ process.held = [8, 9] ∧
      ∃ place : Place → List Nat,
        Partition (· < 10) place ∧
        Linked process.map.next process.map.mempoolFreeitems (place .free) ∧
        (∀ i j, Linked process.map.next (process.map.matrix i j).list (place (.block i j))) ∧
        place .held = process.held := by
  have hheld : (listeningRun publishInCallback).map (·.held) = some [8, 9] := by decide +kernel
  obtain ⟨process, hrun, hheld⟩ := Option.map_eq_some_iff.mp hheld
  exact ⟨process, hrun, hheld,
    @shared_memory_pool_conserved referenceMicroCdr Memory Device.plain tenItems
      (fun _ => listeningSession) (fun _ => 0) publishInCallback (by decide) ⟨.handle, by simp [publishInCallback], rfl⟩ process hrun⟩

end XrceClient
