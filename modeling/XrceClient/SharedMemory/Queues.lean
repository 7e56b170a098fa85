import Mathlib.Data.List.Perm.Subperm
import XrceClient.SharedMemory.Pool

/-!
# What is queued

The samples in the lists between two entities, and what becomes of them.

- `contents`, `queued`: what is in a list, the newest first.
- `Pooled.contents_take`, `Pooled.contents_release`, `Pooled.contents_publish`: what the operations
  on the pool do to it.
- `publishLoop_contents`: a sample comes to the front of the lists to entities that match, and to
  all of them if there are free items enough.
- `Traffic`, `step_traffic`: what an action publishes and hands over.
-/

namespace XrceClient

open LinkedList

/-- What an item holds besides its link. -/
structure QueuedSample where
  data : UcdrBuffer
  dataSize : UInt16
  requestId : UInt16
  sample : Nat
  deriving DecidableEq, Repr

def BufferItem.content (item : BufferItem) : QueuedSample where
  data := item.data
  dataSize := item.dataSize
  requestId := item.requestId
  sample := item.sample

namespace SharedMemoryMap

/-- What is in the list between two entities. -/
def contents (config : SharedMemoryConfig) (map : SharedMemoryMap) (i j : Nat) :
    List QueuedSample :=
  (walk map.next config.staticMemSize (map.matrix i j).list).map fun a => (map.memPool a).content

/-- The samples in the list between two entities. -/
def queued (config : SharedMemoryConfig) (map : SharedMemoryMap) (i j : Nat) : List Nat :=
  (walk map.next config.staticMemSize (map.matrix i j).list).map fun a => (map.memPool a).sample

theorem queued_eq_contents (config : SharedMemoryConfig) (map : SharedMemoryMap) (i j : Nat) :
    map.queued config i j = (map.contents config i j).map QueuedSample.sample := by
  rw [contents, List.map_map]
  rfl

/-- The same is queued. -/
theorem queued_of_contents {config : SharedMemoryConfig} {map map' : SharedMemoryMap} {i j : Nat}
    (h : map'.contents config i j = map.contents config i j) :
    map'.queued config i j = map.queued config i j := by
  rw [queued_eq_contents, queued_eq_contents, h]

/-- One more sample is queued, under a condition. -/
theorem queued_of_contents_ite {config : SharedMemoryConfig} {map map' : SharedMemoryMap}
    {i j : Nat} {condition : Prop} [Decidable condition] {given : QueuedSample}
    (h : map'.contents config i j =
      if condition then given :: map.contents config i j else map.contents config i j) :
    map'.queued config i j =
      if condition then given.sample :: map.queued config i j else map.queued config i j := by
  rw [queued_eq_contents, queued_eq_contents, h, apply_ite (List.map QueuedSample.sample)]
  rfl

/-- The free items. -/
def freeItems (config : SharedMemoryConfig) (map : SharedMemoryMap) : List Nat :=
  walk map.next config.staticMemSize map.mempoolFreeitems

end SharedMemoryMap

namespace Pooled

variable {config : SharedMemoryConfig} {map map' : SharedMemoryMap} {held held' : List Nat}
  {place place' : Place → List Nat}

/-- No place has more items than the pool. -/
theorem length_le (h : Pooled config map held place) (p : Place) :
    (place p).length ≤ config.staticMemSize := by
  have hsub : (place p).Subperm (List.range config.staticMemSize) :=
    (h.partition.nodup p).subperm fun a ha =>
      List.mem_range.mpr ((h.partition.covers a).mpr ⟨p, ha⟩)
  have hlength := hsub.length_le
  rwa [List.length_range] at hlength

theorem freeItems_eq (h : Pooled config map held place) : map.freeItems config = place .free :=
  (h.linked .free nofun).walk_eq (h.length_le .free)

theorem contents_eq (h : Pooled config map held place) (i j : Nat) :
    map.contents config i j = (place (.block i j)).map fun a => (map.memPool a).content := by
  have hwalk : walk map.next config.staticMemSize (map.matrix i j).list = place (.block i j) :=
    (h.linked (.block i j) nofun).walk_eq (h.length_le _)
  rw [SharedMemoryMap.contents, hwalk]

/-- The same items with the same contents are queued. -/
theorem contents_congr (h : Pooled config map held place) (h' : Pooled config map' held' place')
    {i j : Nat} (hplace : place' (.block i j) = place (.block i j))
    (hcontent : ∀ a ∈ place (.block i j), (map'.memPool a).content = (map.memPool a).content) :
    map'.contents config i j = map.contents config i j := by
  rw [h.contents_eq, h'.contents_eq, hplace]
  exact List.map_congr_left hcontent

/-- What is in one place is not in another. -/
theorem notMem (h : Pooled config map held place) {p q : Place} {a : Nat} (hp : a ∈ place p)
    (hne : q ≠ p) : a ∉ place q := fun hq => hne (h.partition.disjoint hq hp)

theorem content_setItem {a b : Nat} (hne : b ≠ a) (item : BufferItem) :
    ((map.setItem a item).memPool b).content = (map.memPool b).content := by
  show (Function.update map.memPool a item b).content = _
  rw [Function.update_of_ne hne]

/-- An item that is held is in no list. -/
theorem notMem_block {a : Nat} (h : Pooled config map (a :: held) place) {i j b : Nat}
    (hb : b ∈ place (.block i j)) : b ≠ a := by
  rintro rfl
  exact h.notMem (p := .held) (h.held_eq ▸ List.mem_cons_self) (q := .block i j) nofun hb

/-- What a held item holds does not matter to the lists. -/
theorem contents_setItem {a : Nat} (h : Pooled config map (a :: held) place) {item : BufferItem}
    (hnext : item.next = map.next a) (i j : Nat) :
    (map.setItem a item).contents config i j = map.contents config i j :=
  h.contents_congr (h.setItem hnext) rfl fun _ hb => content_setItem (h.notMem_block hb) item

theorem contents_release {a : Nat} (h : Pooled config map (a :: held) place) (i j : Nat) :
    (map.prependFree a).contents config i j = map.contents config i j := by
  have hfree : Place.block i j ≠ .free := nofun
  have hheld : Place.block i j ≠ .held := nofun
  have hplace : Partition.moved place .held .free a held (.block i j) = place (.block i j) := by
    rw [Partition.moved, Function.update_of_ne hfree, Function.update_of_ne hheld]
  exact h.contents_congr h.release hplace fun b hb => content_setItem (h.notMem_block hb) _

/-- What is taken out of a list was in front of it. -/
theorem contents_take (h : Pooled config map held place) {i j a : Nat}
    (hlist : (map.matrix i j).list = some a) (k l : Nat) :
    map.contents config k l =
      if k = i ∧ l = j then (map.memPool a).content :: (map.popBlock i j).2.contents config i j
      else (map.popBlock i j).2.contents config k l := by
  obtain ⟨rest, hsource, htake⟩ := h.take hlist
  have hheld (k l : Nat) : Place.block k l ≠ .held := nofun
  by_cases hkl : k = i ∧ l = j
  · rw [if_pos hkl, hkl.1, hkl.2, h.contents_eq, htake.contents_eq, hsource, Partition.moved,
      Function.update_of_ne (hheld i j), Function.update_self]
    rfl
  · have hne : Place.block k l ≠ .block i j := by
      intro heq
      cases heq
      exact hkl ⟨rfl, rfl⟩
    rw [if_neg hkl]
    refine (h.contents_congr htake ?_ fun b _ => rfl).symm
    rw [Partition.moved, Function.update_of_ne (hheld k l), Function.update_of_ne hne]

/-- What is published comes to the front of a list. -/
theorem contents_publish (h : Pooled config map held place) {a : Nat}
    (hfree : map.mempoolFreeitems = some a) (entityIndex i : Nat) (ub : UcdrBuffer)
    (dataSize requestId : UInt16) (sample k l : Nat) :
    (map.publishTo entityIndex i ub dataSize requestId sample).contents config k l =
      if k = entityIndex ∧ l = i then
        { data := ub, dataSize, requestId, sample } :: map.contents config k l
      else map.contents config k l := by
  obtain ⟨rest, hsource, hpublish⟩ := h.publish hfree entityIndex i ub dataSize requestId sample
  have hne : Place.block k l ≠ .free := nofun
  have hnotin : a ∉ place (.block k l) :=
    h.notMem (p := .free) (hsource ▸ List.mem_cons_self) hne
  have hcontent (b : Nat) :
      ((map.publishTo entityIndex i ub dataSize requestId sample).memPool b).content =
        if b = a then { data := ub, dataSize, requestId, sample }
        else (map.memPool b).content := by
    rw [SharedMemoryMap.publishTo, SharedMemoryMap.popFree, hfree]
    show (Function.update (Function.update map.memPool a _) a _ b).content = _
    by_cases hb : b = a
    · subst hb
      rw [Function.update_self, if_pos rfl]
      show BufferItem.content { Function.update map.memPool b _ b with next := _ } = _
      rw [Function.update_self]
      rfl
    · rw [Function.update_of_ne hb, Function.update_of_ne hb, if_neg hb]
  have hkept : ∀ b ∈ place (.block k l),
      ((map.publishTo entityIndex i ub dataSize requestId sample).memPool b).content =
        (map.memPool b).content := by
    intro b hb
    rw [hcontent, if_neg]
    rintro rfl
    exact hnotin hb
  by_cases hkl : k = entityIndex ∧ l = i
  · obtain ⟨rfl, rfl⟩ := hkl
    rw [if_pos ⟨rfl, rfl⟩, hpublish.contents_eq, h.contents_eq, Partition.moved,
      Function.update_self, Function.update_of_ne hne, List.map_cons, hcontent, if_pos rfl]
    exact congrArg _ (List.map_congr_left hkept)
  · have hne' : Place.block k l ≠ .block entityIndex i := by
      intro heq
      cases heq
      exact hkl ⟨rfl, rfl⟩
    rw [if_neg hkl]
    refine h.contents_congr hpublish ?_ hkept
    rw [Partition.moved, Function.update_of_ne hne', Function.update_of_ne hne]

end Pooled

/-! ## Publishing -/

namespace SharedMemoryMap

variable {sessions : Nat → SharedSession} {config : SharedMemoryConfig} {map : SharedMemoryMap}
  {held : List Nat}

theorem publishTo_matched (entityIndex i : Nat) (ub : UcdrBuffer) (dataSize requestId : UInt16)
    (sample k l : Nat) :
    ((map.publishTo entityIndex i ub dataSize requestId sample).matrix k l).matched =
      (map.matrix k l).matched := by
  rw [publishTo, popFree]
  cases map.mempoolFreeitems with
  | none => rfl
  | some a =>
    show ((SharedMemoryMap.setBlock _ entityIndex i _).matrix k l).matched = _
    rw [matrix_setBlock]
    split
    · rename_i heq
      rw [heq.1, heq.2]
      rfl
    · rfl

/-- The entities that match, among the first ones. -/
def partners (map : SharedMemoryMap) (entityIndex k : Nat) : List Nat :=
  (List.range k).filter fun i => (map.matrix entityIndex i).matched

theorem partners_succ (map : SharedMemoryMap) (entityIndex k : Nat) :
    map.partners entityIndex (k + 1) = map.partners entityIndex k ++
      if (map.matrix entityIndex k).matched then [k] else [] := by
  rw [SharedMemoryMap.partners, List.range_succ, List.filter_append, List.filter_singleton,
    Bool.cond_eq_ite]
  rfl

theorem mem_partners {entityIndex k i : Nat} :
    i ∈ map.partners entityIndex k ↔ i < k ∧ (map.matrix entityIndex i).matched = true := by
  rw [SharedMemoryMap.partners, List.mem_filter, List.mem_range]

/-- What the turns of the loop have done: the sample waits for partners, one item was taken for
each, and it waits for all of them as long as there were items. -/
structure Served (config : SharedMemoryConfig) (map : SharedMemoryMap) (held : List Nat)
    (place : Place → List Nat) (entityIndex : Nat) (given : QueuedSample) (turn : Nat)
    (map' : SharedMemoryMap) (served : List Nat) (place' : Place → List Nat) : Prop where
  matched : ∀ k l, (map'.matrix k l).matched = (map.matrix k l).matched
  partners : served.Sublist (map.partners entityIndex turn)
  contents : ∀ k l, map'.contents config k l =
    if k = entityIndex ∧ l ∈ served then given :: map.contents config k l
    else map.contents config k l
  pooled : Pooled config map' held place'
  items : (place' .free).length + served.length = (place .free).length
  all : served = map.partners entityIndex turn ∨ place' .free = []

/-- One turn. -/
theorem Served.next {place place' : Place → List Nat} {entityIndex turn : Nat} {ub : UcdrBuffer}
    {dataSize requestId : UInt16} {sample : Nat} {map' : SharedMemoryMap} {served : List Nat}
    (h : Served config map held place entityIndex { data := ub, dataSize, requestId, sample } turn
      map' served place') :
    ∃ served₁ place₁, Served config map held place entityIndex
      { data := ub, dataSize, requestId, sample } (turn + 1)
      (if (map'.matrix entityIndex turn).matched then
        map'.publishTo entityIndex turn ub dataSize requestId sample
      else map') served₁ place₁ := by
  have hpartners := map.partners_succ entityIndex turn
  rw [← h.matched entityIndex turn] at hpartners
  cases hmatch : (map'.matrix entityIndex turn).matched with
  | false =>
    rw [hmatch, if_neg Bool.false_ne_true, List.append_nil] at hpartners
    rw [if_neg Bool.false_ne_true]
    exact ⟨served, place', h.matched, hpartners ▸ h.partners, h.contents, h.pooled, h.items,
      hpartners ▸ h.all⟩
  | true =>
    rw [hmatch, if_pos rfl] at hpartners
    rw [if_pos rfl]
    cases hfree : map'.mempoolFreeitems with
    | none =>
      rw [Pooled.publish_none hfree]
      exact ⟨served, place', h.matched,
        hpartners ▸ h.partners.trans (List.sublist_append_left _ _), h.contents, h.pooled, h.items,
        .inr ((h.pooled.linked .free nofun).nil_iff.mpr hfree)⟩
    | some a =>
      obtain ⟨rest, hsource, hpublish⟩ :=
        h.pooled.publish hfree entityIndex turn ub dataSize requestId sample
      have hserved : served = map.partners entityIndex turn := by
        refine h.all.resolve_right fun hnil => ?_
        rw [hsource] at hnil
        cases hnil
      refine ⟨served ++ [turn], _, fun k l => (publishTo_matched entityIndex turn ub dataSize
        requestId sample k l).trans (h.matched k l), hpartners ▸ h.partners.append (.refl _),
        fun k l => ?_, hpublish, ?_, .inl (by rw [hpartners, hserved])⟩
      · have hnew : turn ∉ served := by
          rw [hserved, mem_partners]
          exact fun hlt => absurd hlt.1 (Nat.lt_irrefl turn)
        have hiff : (k = entityIndex ∧ l ∈ served ++ [turn]) ↔
            (k = entityIndex ∧ l ∈ served) ∨ (k = entityIndex ∧ l = turn) := by
          rw [List.mem_append, List.mem_singleton, and_or_left]
        rw [h.pooled.contents_publish hfree, h.contents, if_congr hiff rfl rfl]
        -- the list of the turn takes the sample, the others stay
        by_cases hkl : k = entityIndex ∧ l = turn
        · have hnot : ¬ (k = entityIndex ∧ l ∈ served) := by
            rintro ⟨-, hmem⟩
            rw [hkl.2] at hmem
            exact hnew hmem
          rw [if_pos hkl, if_neg hnot, if_pos (.inr hkl)]
        · rw [if_neg hkl]
          by_cases hmem : k = entityIndex ∧ l ∈ served
          · rw [if_pos hmem, if_pos (.inl hmem)]
          · rw [if_neg hmem, if_neg (fun hor => hor.elim hmem hkl)]
      · have hfreeNe : Place.free ≠ .block entityIndex turn := nofun
        have hitems := h.items
        rw [Partition.moved, Function.update_of_ne hfreeNe, Function.update_self,
          List.length_append, List.length_singleton]
        rw [hsource, List.length_cons] at hitems
        omega

/-- A sample comes to the front of the lists to entities that match; to all of them, if there are
free items enough. -/
theorem publishLoop_contents {place : Place → List Nat} (h : Pooled config map held place)
    (entityIndex : Nat) (ub : UcdrBuffer) (dataSize requestId : UInt16) (sample n : Nat) :
    ∃ served : List Nat, served.Sublist (map.partners entityIndex n) ∧
      ((map.partners entityIndex n).length ≤ (map.freeItems config).length →
        served = map.partners entityIndex n) ∧
      ∀ k l, ((List.range n).foldl (fun map i =>
          if (map.matrix entityIndex i).matched then
            map.publishTo entityIndex i ub dataSize requestId sample
          else map) map).contents config k l =
        if k = entityIndex ∧ l ∈ served then
          { data := ub, dataSize, requestId, sample } :: map.contents config k l
        else map.contents config k l := by
  obtain ⟨served, place', hloop⟩ := Loop.foldl_range_induction (fun turn map' =>
    ∃ served place', Served config map held place entityIndex
      { data := ub, dataSize, requestId, sample } turn map' served place')
    ⟨[], place, fun _ _ => rfl, .slnil, fun k l => (if_neg fun hmem => by cases hmem.2).symm, h,
      rfl, .inl rfl⟩ fun turn map' (_ : turn < n) ⟨_, _, hserved⟩ => hserved.next
  refine ⟨served, hloop.partners, fun henough => ?_, hloop.contents⟩
  rcases hloop.all with hall | hnone
  · exact hall
  · have hitems := hloop.items
    rw [hnone, List.length_nil] at hitems
    rw [h.freeItems_eq] at henough
    exact hloop.partners.eq_of_length_le (by omega)

/-- The same items are in the same lists. -/
theorem contents_sameLists {map' : SharedMemoryMap} (hpool : map'.memPool = map.memPool)
    (hblock : ∀ i j, (map'.matrix i j).list = (map.matrix i j).list) (i j : Nat) :
    map'.contents config i j = map.contents config i j := by
  have hnext : map'.next = map.next := by
    funext a
    show (map'.memPool a).next = _
    rw [hpool]
    rfl
  rw [contents, contents, hnext, hblock, hpool]

theorem contents_noLists (h : map.NoLists) (i j : Nat) : map.contents config i j = [] := by
  rw [contents, h.block]
  cases config.staticMemSize <;> rfl

theorem queued_noLists (h : map.NoLists) (i j : Nat) : map.queued config i j = [] := by
  rw [queued_eq_contents, contents_noLists h]
  rfl

theorem addEntity_contents [MicroCdr] {map' : SharedMemoryMap} {entity : Option SharedEntity}
    (h : map.addEntity config entity = some map') (i j : Nat) :
    map'.contents config i j = map.contents config i j := by
  rw [addEntity] at h
  split at h
  · obtain ⟨entity, -, hupdate⟩ := Option.bind_eq_some_iff.mp h
    have hsame := updateSharedMemoryMatching_lists hupdate
    exact contents_sameLists hsame.memPool hsame.block i j
  · cases h
    rfl

end SharedMemoryMap

/-! ## What an action publishes and hands over -/

namespace SharedProcess

variable {σ : Type} {config : SharedMemoryConfig} {process process' : SharedProcess σ}

/-- The pool is initialised, or the map was not used. -/
def Known (config : SharedMemoryConfig) (process : SharedProcess σ) : Prop :=
  process.Ready config ∨ process.Unused

theorem Known.startable (h : process.Known config) : process.Startable config := by
  rcases h with h | h
  · exact h.startable
  · exact h.startable

/-- The initialisation of the pool queues nothing. -/
theorem Known.contents_init (h : process.Known config) (i j : Nat) :
    (process.map.sharedMemoryInit config).contents config i j =
      process.map.contents config i j := by
  rcases h with h | h
  · rw [SharedMemoryMap.sharedMemoryInit, if_pos h.init]
  · have hpooled := SharedMemoryMap.initSharedMemory_pooled config h.lists
    rw [SharedMemoryMap.sharedMemoryInit, if_neg (by rw [h.init]; exact Bool.false_ne_true),
      hpooled.contents_eq, SharedMemoryMap.contents_noLists h.lists]
    rfl

/-- There are free items for all that a sample goes to. -/
def enoughItems (config : SharedMemoryConfig) (process : SharedProcess σ) (session : Nat)
    (entityId : ObjectId) : Bool :=
  (process.receivers config session entityId).length ≤
    ((process.map.sharedMemoryInit config).freeItems config).length

/-- What an action publishes and hands over, and what is queued afterwards. What is published goes
to entities that match; to all of them, if there are free items enough. -/
inductive Traffic (config : SharedMemoryConfig) (process process' : SharedProcess σ) :
    SharedAction σ → Prop
  | quiet {action : SharedAction σ} (published : process'.published = process.published)
      (samples : process'.samples = process.samples) (handed : process'.handed = process.handed)
      (contents : ∀ i j, process'.map.contents config i j = process.map.contents config i j) :
      Traffic config process process' action
  | publishes {session : Nat} {entityId : ObjectId} {ub : UcdrBuffer}
      {dataSize requestId : UInt16} {served : List (Nat × Nat)}
      (published : process'.published = process.published ++
        (process.receivers config session entityId).map
          fun (sender, receiver) => { sender, receiver, sample := process.samples })
      (samples : process'.samples = process.samples + 1)
      (handed : process'.handed = process.handed)
      (match_served : ∀ target ∈ served, target ∈ process.receivers config session entityId)
      (all_served : process.enoughItems config session entityId = true →
        served = process.receivers config session entityId)
      (contents : ∀ i j, process'.map.contents config i j =
        if (i, j) ∈ served then
          { data := ub, dataSize, requestId, sample := process.samples } ::
            process.map.contents config i j
        else process.map.contents config i j) :
      Traffic config process process' (.prepare session entityId ub dataSize requestId)
  | hands {uninitialized : SampleIdentity} {handing : Handing} {content : QueuedSample}
      (published : process'.published = process.published)
      (samples : process'.samples = process.samples)
      (handed : process'.handed = process.handed ++ [handing])
      (sample : content.sample = handing.sample)
      (contents : ∀ i j, process.map.contents config i j =
        if i = handing.sender ∧ j = handing.receiver then
          content :: process'.map.contents config i j
        else process'.map.contents config i j)
      (receiver : handing.receiver < process.map.entitiesLen)
      (call : (process.map.entity handing.receiver).objectId.type = dataReaderId →
        handing.call.isSome =
          (process.sessions (process.map.entity handing.receiver).session).onTopic) :
      Traffic config process process' (.advance uninitialized)

theorem prepare_traffic {session : Nat} {entityId : ObjectId} {ub : UcdrBuffer}
    {dataSize requestId : UInt16} (h : process.Known config) :
    Traffic config process (process.prepare config session entityId ub dataSize requestId)
      (.prepare session entityId ub dataSize requestId) := by
  obtain ⟨place, hpooled⟩ := h.startable
  cases hindex : (process.map.sharedMemoryInit config).getEntityIndex process.sessions session
      entityId with
  | none =>
    have hnone : process.receivers config session entityId = [] := by
      rw [receivers, hindex]
    refine @Traffic.publishes σ config process _ session entityId ub dataSize requestId [] rfl rfl
      rfl nofun (fun _ => hnone.symm) fun i j => ?_
    rw [if_neg List.not_mem_nil]
    show (process.map.prepareSharedMemory process.sessions config session entityId ub dataSize
      requestId process.samples).contents config i j = _
    rw [SharedMemoryMap.prepareSharedMemory, hindex]
    exact h.contents_init i j
  | some entityIndex =>
    obtain ⟨served, hserved, hall, hcontents⟩ := SharedMemoryMap.publishLoop_contents hpooled
      entityIndex ub dataSize requestId process.samples
      (process.map.sharedMemoryInit config).entitiesLen
    have hreceivers : process.receivers config session entityId =
        ((process.map.sharedMemoryInit config).partners entityIndex
          (process.map.sharedMemoryInit config).entitiesLen).map fun i => (entityIndex, i) := by
      rw [receivers, hindex]
      rfl
    refine @Traffic.publishes σ config process _ session entityId ub dataSize requestId
      (served.map fun i => (entityIndex, i)) rfl rfl rfl ?_ ?_ fun i j => ?_
    · intro target hmem
      obtain ⟨i, hi, rfl⟩ := List.mem_map.mp hmem
      rw [hreceivers]
      exact List.mem_map_of_mem (hserved.subset hi)
    · intro henough
      rw [enoughItems, decide_eq_true_eq, hreceivers, List.length_map] at henough
      rw [hreceivers, hall henough]
    · show (process.map.prepareSharedMemory process.sessions config session entityId ub dataSize
        requestId process.samples).contents config i j = _
      have hiff : (i, j) ∈ served.map (fun i => (entityIndex, i)) ↔
          i = entityIndex ∧ j ∈ served := by
        rw [List.mem_map]
        constructor
        · rintro ⟨k, hmem, heq⟩
          cases heq
          exact ⟨rfl, hmem⟩
        · rintro ⟨rfl, hmem⟩
          exact ⟨j, hmem, rfl⟩
      rw [SharedMemoryMap.prepareSharedMemory, hindex]
      dsimp only
      rw [hcontents, h.contents_init]
      exact if_congr hiff.symm rfl rfl

/-- What the application does besides publishing is quiet. -/
theorem apply_quiet [MicroCdr] {action : SharedAction σ} (h : process.Known config)
    (hkeeps : action.deletes = false)
    (happly : process.apply config action = some process')
    (hprepare : ∀ session entityId ub dataSize requestId,
      action ≠ .prepare session entityId ub dataSize requestId) :
    Traffic config process process' action := by
  cases action with
  | addXml session entityId xml =>
    obtain ⟨map, hadd, heq⟩ := Option.bind_eq_some_iff.mp happly
    cases heq
    exact .quiet rfl rfl rfl fun i j =>
      (SharedMemoryMap.addEntity_contents hadd i j).trans (h.contents_init i j)
  | addBin session entityId entity =>
    obtain ⟨map, hadd, heq⟩ := Option.bind_eq_some_iff.mp happly
    cases heq
    exact .quiet rfl rfl rfl fun i j =>
      (SharedMemoryMap.addEntity_contents hadd i j).trans (h.contents_init i j)
  | prepare session entityId ub dataSize requestId => exact absurd rfl (hprepare _ _ _ _ _)
  | handle =>
    cases happly
    exact .quiet rfl rfl rfl h.contents_init
  | deleteSession session => cases hkeeps
  | proceed sessions memory =>
    cases happly
    exact .quiet rfl rfl rfl fun _ _ => rfl
  | advance uninitialized => cases happly
  | callbackReturns => cases happly

theorem callbackReturns_quiet (h : process.Known config)
    (hreturns : process.callbackReturns = some process') :
    Traffic config process process' .callbackReturns := by
  rw [callbackReturns] at hreturns
  split at hreturns
  · rename_i i j a frames hframes
    cases hreturns
    rcases h with h | h
    · obtain ⟨place, hpooled⟩ := h.pooled
      rw [held, hframes] at hpooled
      exact .quiet rfl rfl rfl fun i j => hpooled.contents_release i j
    · rw [h.frames] at hframes
      cases hframes
  · cases hreturns

variable [MicroCdr] (dev : Device σ)

theorem dispatch_topic (sessions : Nat → SharedSession) (map : SharedMemoryMap) (i j : Nat)
    (uninitialized : SampleIdentity) (memory : σ) (item : BufferItem)
    (htype : (map.entity j).objectId.type = dataReaderId) :
    (dispatch dev sessions map i j uninitialized memory item).1.isSome =
      (sessions (map.entity j).session).onTopic := by
  rw [dispatch, if_pos htype, dispatchTopic]
  split
  · rename_i hlistens
    exact hlistens.symm
  · rename_i hlistens
    exact (Bool.eq_false_iff.mpr hlistens).symm

theorem handOver_traffic {uninitialized : SampleIdentity} {i j a : Nat} {frames : List HandleFrame}
    {place : Place → List Nat}
    (h : Pooled config process.map (frames.filterMap HandleFrame.held) place)
    (hj : j < process.map.entitiesLen) (hlist : (process.map.matrix i j).list = some a) :
    Traffic config process (process.handOver dev uninitialized i j a frames)
      (.advance uninitialized) := by
  obtain ⟨rest, -, htake⟩ := h.take hlist
  have hcontents := h.contents_take hlist
  have hitem := dispatch_item dev process.sessions (process.map.popBlock i j).2 i j uninitialized
    process.memory ((process.map.popBlock i j).2.memPool a)
  have hcall := dispatch_topic dev process.sessions (process.map.popBlock i j).2 i j uninitialized
    process.memory ((process.map.popBlock i j).2.memPool a)
  rw [handOver]
  dsimp only
  generalize dispatch dev process.sessions (process.map.popBlock i j).2 i j uninitialized
    process.memory ((process.map.popBlock i j).2.memPool a) = dispatched at hitem hcall ⊢
  obtain ⟨call, memory, item⟩ := dispatched
  obtain ⟨hnext, hsample⟩ := hitem
  have hset := htake.setItem hnext
  have hset' := htake.contents_setItem hnext
  obtain ⟨handing, hhanding⟩ : ∃ handing : Handing, handing =
      { sender := i, receiver := j, sample := item.sample, call } := ⟨_, rfl⟩
  rw [← hhanding]
  refine @Traffic.hands σ config process _ uninitialized handing (process.map.memPool a).content rfl
    rfl rfl ?_ (fun k l => ?_) (hhanding ▸ hj) (hhanding ▸ hcall)
  · rw [hhanding]
    exact hsample.symm
  rw [hhanding]
  have hmap : (if call.isSome = true then (process.map.popBlock i j).2.setItem a item
      else ((process.map.popBlock i j).2.setItem a item).prependFree a).contents config k l =
      (process.map.popBlock i j).2.contents config k l := by
    cases call with
    | some call => exact hset' k l
    | none => exact (hset.contents_release k l).trans (hset' k l)
  dsimp only
  rw [hmap, hcontents k l]
  split
  · rename_i heq
    rw [heq.1, heq.2]
  · rfl

theorem advance_traffic {uninitialized : SampleIdentity} (h : process.Known config)
    (hadvance : process.advance dev uninitialized = some process') :
    Traffic config process process' (.advance uninitialized) := by
  rw [advance] at hadvance
  split at hadvance
  · split at hadvance
    · split at hadvance
      · cases hadvance
        exact .quiet rfl rfl rfl fun _ _ => rfl
      · cases hadvance
        exact .quiet rfl rfl rfl fun _ _ => rfl
    · cases hadvance
      exact .quiet rfl rfl rfl fun _ _ => rfl
  · rename_i i j frames hframes
    split at hadvance
    · rename_i hj
      split at hadvance
      · rename_i a hlist
        cases hadvance
        rcases h with h | h
        · obtain ⟨place, hpooled⟩ := h.pooled
          rw [held, hframes] at hpooled
          exact handOver_traffic dev hpooled hj hlist
        · rw [h.frames] at hframes
          cases hframes
      · cases hadvance
        exact .quiet rfl rfl rfl fun _ _ => rfl
    · cases hadvance
      exact .quiet rfl rfl rfl fun _ _ => rfl
  · cases hadvance

/-- What an action publishes and hands over. -/
theorem step_traffic {action : SharedAction σ} (hkeeps : action.deletes = false)
    (h : process.Known config) (hstep : process.step dev config action = some process') :
    Traffic config process process' action := by
  have happlication (hprepare : ∀ session entityId ub dataSize requestId,
        action ≠ .prepare session entityId ub dataSize requestId)
      (hstep : (if process.applicationRuns then process.apply config action else none) =
        some process') : Traffic config process process' action := by
    split at hstep
    · exact apply_quiet h hkeeps hstep hprepare
    · cases hstep
  cases action with
  | advance uninitialized => exact advance_traffic dev h hstep
  | callbackReturns => exact callbackReturns_quiet h hstep
  | addXml session entityId xml => exact happlication nofun hstep
  | addBin session entityId entity => exact happlication nofun hstep
  | prepare session entityId ub dataSize requestId =>
    have hstep : (if process.applicationRuns then _ else none) = some process' := hstep
    split at hstep
    · cases hstep
      exact prepare_traffic h
    · cases hstep
  | handle => exact happlication nofun hstep
  | deleteSession session => exact happlication nofun hstep
  | proceed sessions memory => exact happlication nofun hstep

theorem step_known {action : SharedAction σ} (hkeeps : action.deletes = false)
    (h : process.Known config) (hstep : process.step dev config action = some process') :
    process'.Known config := by
  rcases h with h | h
  · exact .inl (step_ready dev hkeeps h hstep)
  · have hs := step_unused dev hkeeps h hstep
    split at hs
    · exact .inl hs
    · exact .inr hs

end SharedProcess

end XrceClient
