import XrceClient.SharedMemory.Additions
import XrceClient.SharedMemory.Descriptions

/-!
# What matches (`shared_memory.c`)

After every addition each entity is compared with each other one. Hashes of names are compared with
`memcmp`, those of the topics of binary endpoints with `strcmp`, through pointers that were looked
up when the endpoints were added.

- `SoundMatching`: what matches is of complementary kinds, and was described alike.
- `Recorded`, `matchingStep_recorded`: the matrix says what the comparison finds.
- `fits`: two entities that are compared match only if they should.
- `matching_sound_iff`: in every run the matching is defined and sound if and only if every new
  entity fits those that it is compared with.
-/

namespace XrceClient

open Steps

/-! ## Sound matchings -/

/-- The flags of a binary endpoint. -/
def EntityData.qosFlags : EntityData → Option UInt16
  | .datawriter dw => some dw.qosFlags
  | .datareader dr => some dr.qosFlags
  | .hash _ => none

namespace SharedMemoryMap

/-- The hash of the topic of an endpoint, if its pointer can be read. -/
def topicHash (map : SharedMemoryMap) (entity : SharedEntity) : Option UInt32 :=
  entity.relatedTopic.bind fun topic => (map.entity topic).data.hash?

/-- What matches is of complementary kinds and was described alike; binary endpoints have the same
flags and topics with the same hash. -/
structure SoundMatching (map : SharedMemoryMap) : Prop where
  symmetric : ∀ i j, (map.matrix i j).matched = (map.matrix j i).matched
  kinds : ∀ i j, (map.matrix i j).matched = true →
    complementary (map.entity i).objectId.type (map.entity j).objectId.type = true
  described : ∀ i j, (map.matrix i j).matched = true →
    (map.entity i).sameDescription (map.entity j)
  binary : ∀ i j, (map.matrix i j).matched = true → (map.entity i).type = .binEntity →
    ∃ qosFlags hash,
      (map.entity i).data.qosFlags = some qosFlags ∧ (map.entity j).data.qosFlags = some qosFlags ∧
      map.topicHash (map.entity i) = some hash ∧ map.topicHash (map.entity j) = some hash

section

variable [MicroCdr]

/-- Two entities are compared (shared_memory.c:373–377), if they are not the same. -/
def compared (entity entity' : SharedEntity) : Prop :=
  entity.type = entity'.type ∧ entity.objectId.type ≠ entity'.objectId.type ∧
    entity.objectId.type ≠ topicId ∧ entity'.objectId.type ≠ topicId

instance (entity entity' : SharedEntity) : Decidable (compared entity entity') := by
  unfold compared
  infer_instance

/-- Entities with the same hash are of complementary kinds and described alike. The topics of
endpoints are there; where the flags are the same and `strcmp` says that the hashes of the topics
are, then they are, and the endpoints are described alike. -/
def fits (map : SharedMemoryMap) (entity entity' : SharedEntity) : Prop :=
  match entity.type with
  | .hashEntity => entity.data.hash? = entity'.data.hash? →
      complementary entity.objectId.type entity'.objectId.type = true ∧
        entity.sameDescription entity'
  | .binEntity => complementary entity.objectId.type entity'.objectId.type = true →
      ∃ hash hash', map.topicHash entity = some hash ∧ map.topicHash entity' = some hash' ∧
        (entity.data.qosFlags = entity'.data.qosFlags → sameHashString hash hash' = true →
          hash = hash' ∧ entity.sameDescription entity')

end

end SharedMemoryMap

/-! ## Comparing two entities -/

/-- The union in an entity holds what its type says. -/
def SharedEntity.WellFormed (entity : SharedEntity) : Prop :=
  match entity.type with
  | .hashEntity => ∃ hash, entity.data = .hash hash
  | .binEntity =>
    (entity.objectId.type = dataReaderId ∧ ∃ dr, entity.data = .datareader dr) ∨
    (entity.objectId.type = dataWriterId ∧ ∃ dw, entity.data = .datawriter dw) ∨
    ∀ type, SharedMemoryMap.complementary entity.objectId.type type = false ∧
      SharedMemoryMap.complementary type entity.objectId.type = false

namespace SharedMemoryMap

theorem complementary_comm (type type' : UInt8) : complementary type type' = complementary type' type := by
  rw [Bool.eq_iff_iff]
  simp only [complementary, Bool.or_eq_true, Bool.and_eq_true, decide_eq_true_eq]
  grind

variable [MicroCdr] {map : SharedMemoryMap} {entity entity' : SharedEntity}

/-- What is found for two different entities. -/
def matchPair (map : SharedMemoryMap) (entity entity' : SharedEntity) : Option (Option Bool) :=
  if compared entity entity' then
    match entity.type with
    | .hashEntity => do
      return some ((← entity.data.hash?) = (← entity'.data.hash?))
    | .binEntity => do
      return some (← map.matchBinaryEntities entity entity')
  else
    some none

theorem matchEntities_eq (map : SharedMemoryMap) (i j : Nat) :
    map.matchEntities i j = if i = j then some none else map.matchPair (map.entity i) (map.entity j) := by
  rw [matchEntities]
  by_cases hij : i = j
  · rw [if_pos hij, if_neg (fun h => h.1 hij)]
  · rw [if_neg hij, matchPair]
    exact if_congr ⟨fun h => h.2, fun h => ⟨hij, h⟩⟩ rfl rfl

theorem sameTopic_eq (map : SharedMemoryMap) (entity entity' : SharedEntity) :
    map.sameTopic entity entity' = (map.topicHash entity).bind fun hash =>
      (map.topicHash entity').bind fun hash' => some (sameHashString hash hash') := by
  rw [sameTopic, topicHash, topicHash]
  cases entity.relatedTopic with
  | none => rfl
  | some topic =>
    cases entity'.relatedTopic with
    | none =>
      show none = (map.entity topic).data.hash?.bind fun _ => none
      cases (map.entity topic).data.hash? with
      | none => rfl
      | some hash => rfl
    | some topic' => rfl

/-- Hashes are compared. -/
theorem matchPair_hash (hcompared : compared entity entity') (htype : entity.type = .hashEntity)
    (h : entity.WellFormed) (h' : entity'.WellFormed) :
    map.matchPair entity entity' = some (some (decide (entity.data.hash? = entity'.data.hash?))) := by
  have htype' : entity'.type = .hashEntity := hcompared.1 ▸ htype
  rw [SharedEntity.WellFormed, htype] at h
  rw [SharedEntity.WellFormed, htype'] at h'
  obtain ⟨hash, hdata⟩ := h
  obtain ⟨hash', hdata'⟩ := h'
  rw [matchPair, if_pos hcompared, htype, hdata, hdata']
  show some (some (decide (hash = hash'))) = _
  congr 2
  exact decide_eq_decide.mpr ⟨congrArg some, Option.some.inj⟩

/-- Endpoints are compared by their flags and their topics. -/
theorem matchPair_endpoints (hcompared : compared entity entity') (htype : entity.type = .binEntity)
    (h : entity.WellFormed) (h' : entity'.WellFormed)
    (hkinds : complementary entity.objectId.type entity'.objectId.type = true) :
    map.matchPair entity entity' = (map.topicHash entity).bind fun hash =>
      (map.topicHash entity').bind fun hash' =>
        some (some (decide (entity.data.qosFlags = entity'.data.qosFlags) &&
          sameHashString hash hash')) := by
  have htype' : entity'.type = .binEntity := hcompared.1 ▸ htype
  have hne := hcompared.2.1
  rw [SharedEntity.WellFormed, htype] at h
  rw [SharedEntity.WellFormed, htype'] at h'
  rw [matchPair, if_pos hcompared, htype]
  dsimp only
  rw [matchBinaryEntities, if_pos hkinds]
  rcases h with ⟨hkind, dr, hdata⟩ | ⟨hkind, dw, hdata⟩ | hother
  · rcases h' with ⟨hkind', dr', hdata'⟩ | ⟨hkind', dw, hdata'⟩ | hother
    · exact absurd (hkind.trans hkind'.symm) hne
    · have hflags : dr.qosFlags = dw.qosFlags ↔ entity.data.qosFlags = entity'.data.qosFlags := by
        rw [hdata, hdata']
        exact ⟨congrArg some, Option.some.inj⟩
      rw [← decide_eq_decide.mpr hflags, hdata, hdata', sameTopic_eq]
      cases map.topicHash entity with
      | none => rfl
      | some hash =>
        cases map.topicHash entity' with
        | none => rfl
        | some hash' => rfl
    · rw [(hother _).2] at hkinds
      cases hkinds
  · rcases h' with ⟨hkind', dr, hdata'⟩ | ⟨hkind', dw', hdata'⟩ | hother
    · have hflags : dr.qosFlags = dw.qosFlags ↔ entity.data.qosFlags = entity'.data.qosFlags := by
        rw [hdata, hdata']
        exact ⟨fun h => congrArg some h.symm, fun h => (Option.some.inj h).symm⟩
      rw [← decide_eq_decide.mpr hflags, hdata, hdata', sameTopic_eq]
      cases map.topicHash entity with
      | none => rfl
      | some hash =>
        cases map.topicHash entity' with
        | none => rfl
        | some hash' => rfl
    · exact absurd (hkind.trans hkind'.symm) hne
    · rw [(hother _).2] at hkinds
      cases hkinds
  · rw [(hother _).1] at hkinds
    cases hkinds

/-- Binary entities of other kinds do not match. -/
theorem matchPair_others (hcompared : compared entity entity') (htype : entity.type = .binEntity)
    (hkinds : complementary entity.objectId.type entity'.objectId.type = false) :
    map.matchPair entity entity' = some (some false) := by
  rw [matchPair, if_pos hcompared, htype]
  dsimp only
  rw [matchBinaryEntities, if_neg (by rw [hkinds]; exact Bool.false_ne_true)]
  rfl

omit [MicroCdr] in
theorem compared_comm : compared entity entity' ↔ compared entity' entity :=
  ⟨fun h => ⟨h.1.symm, h.2.1.symm, h.2.2.2, h.2.2.1⟩,
    fun h => ⟨h.1.symm, h.2.1.symm, h.2.2.2, h.2.2.1⟩⟩

theorem sameHashString_comm (hash hash' : UInt32) :
    sameHashString hash hash' = sameHashString hash' hash :=
  decide_eq_decide.mpr eq_comm

/-- The comparison finds the same in both directions. -/
theorem matchPair_comm (h : entity.WellFormed) (h' : entity'.WellFormed) :
    map.matchPair entity entity' = map.matchPair entity' entity := by
  by_cases hcompared : compared entity entity'
  · have hcompared' := compared_comm.mp hcompared
    cases htype : entity.type with
    | hashEntity =>
      rw [matchPair_hash hcompared htype h h',
        matchPair_hash hcompared' (hcompared.1 ▸ htype) h' h, decide_eq_decide.mpr eq_comm]
    | binEntity =>
      have htype' : entity'.type = .binEntity := hcompared.1 ▸ htype
      cases hkinds : complementary entity.objectId.type entity'.objectId.type with
      | false =>
        rw [matchPair_others hcompared htype hkinds,
          matchPair_others hcompared' htype' (complementary_comm _ _ ▸ hkinds)]
      | true =>
        rw [matchPair_endpoints hcompared htype h h' hkinds,
          matchPair_endpoints hcompared' htype' h' h (complementary_comm _ _ ▸ hkinds)]
        cases map.topicHash entity with
        | none => cases map.topicHash entity' <;> rfl
        | some hash =>
          cases map.topicHash entity' with
          | none => rfl
          | some hash' =>
            show some (some (_ && _)) = some (some (_ && _))
            rw [sameHashString_comm, decide_eq_decide.mpr eq_comm]
  · rw [matchPair, matchPair, if_neg hcompared, if_neg (compared_comm.not.mp hcompared)]

/-- What a match says about two entities. -/
structure SoundPair (map : SharedMemoryMap) (entity entity' : SharedEntity) : Prop where
  kinds : complementary entity.objectId.type entity'.objectId.type = true
  described : entity.sameDescription entity'
  binary : entity.type = .binEntity → ∃ qosFlags hash,
    entity.data.qosFlags = some qosFlags ∧ entity'.data.qosFlags = some qosFlags ∧
      map.topicHash entity = some hash ∧ map.topicHash entity' = some hash

omit [MicroCdr] in
theorem SoundPair.symm (h : map.SoundPair entity entity') (htype : entity.type = entity'.type) :
    map.SoundPair entity' entity := by
  obtain ⟨hkinds, ⟨description, hdescribed, hdescribed'⟩, hbinary⟩ := h
  refine ⟨complementary_comm _ _ ▸ hkinds, ⟨description, hdescribed', hdescribed⟩, fun hbin => ?_⟩
  obtain ⟨qosFlags, hash, hflags, hflags', hhash, hhash'⟩ := hbinary (htype.trans hbin)
  exact ⟨qosFlags, hash, hflags', hflags, hhash', hhash⟩

/-- The matrix says what the comparison finds. The topics of endpoints are entities. -/
structure Recorded (map : SharedMemoryMap) : Prop where
  wellFormed : ∀ i < map.entitiesLen, (map.entity i).WellFormed
  topics : ∀ i < map.entitiesLen, ∀ topic, (map.entity i).relatedTopic = some topic →
    topic < map.entitiesLen
  found : ∀ i < map.entitiesLen, ∀ j < map.entitiesLen, ∃ found,
    map.matchEntities i j = some found ∧ (map.matrix i j).matched = found.getD false
  outside : ∀ i j, ¬ (i < map.entitiesLen ∧ j < map.entitiesLen) →
    (map.matrix i j).matched = false

/-- What matches is in both directions. -/
theorem Recorded.symmetric (h : map.Recorded) (i j : Nat) :
    (map.matrix i j).matched = (map.matrix j i).matched := by
  by_cases hij : i < map.entitiesLen ∧ j < map.entitiesLen
  · obtain ⟨found, hfound, hmatched⟩ := h.found i hij.1 j hij.2
    obtain ⟨found', hfound', hmatched'⟩ := h.found j hij.2 i hij.1
    rw [matchEntities_eq] at hfound hfound'
    rw [hmatched, hmatched']
    by_cases heq : i = j
    · rw [if_pos heq] at hfound
      rw [if_pos heq.symm] at hfound'
      cases hfound
      cases hfound'
      rfl
    · rw [if_neg heq] at hfound
      rw [if_neg (Ne.symm heq),
        matchPair_comm (h.wellFormed j hij.2) (h.wellFormed i hij.1), hfound] at hfound'
      cases hfound'
      rfl
  · rw [h.outside i j hij, h.outside j i (fun hji => hij hji.symm)]

end SharedMemoryMap

section

variable {keys : Nat → SharedSession} {config : SharedMemoryConfig} {map : SharedMemoryMap}
  {addition : Addition} {entity : SharedEntity}

end

namespace SharedMemoryMap

variable [MicroCdr] {map map₁ map' : SharedMemoryMap} {new : SharedEntity}

/-- The new entity is behind the others; its topic is one of them. -/
structure Appended (map map₁ : SharedMemoryMap) (new : SharedEntity) : Prop where
  recorded : map.Recorded
  wellFormed : new.WellFormed
  topics : ∀ topic, new.relatedTopic = some topic → topic < map.entitiesLen
  entities : map₁.entities = map.entities ++ [new]
  matrix : map₁.matrix = map.matrix

namespace Appended

theorem length (h : map.Appended map₁ new) : map₁.entitiesLen = map.entitiesLen + 1 := by
  rw [entitiesLen, h.entities, List.length_append]
  rfl

variable (hupdate : map₁.updateSharedMemoryMatching = some map')

include hupdate

end Appended

/-! ## Maps with the same entities -/

theorem Recorded.congr (h : map.Recorded) (hentities : map'.entities = map.entities)
    (hmatrix : map'.matrix = map.matrix) : map'.Recorded := by
  have hlength : map'.entitiesLen = map.entitiesLen := congrArg List.length hentities
  have hentity : map'.entity = map.entity := by
    funext i
    rw [entity, hentities]
    rfl
  refine ⟨?_, ?_, ?_, ?_⟩
  · rw [hlength, hentity]
    exact h.wellFormed
  · rw [hlength, hentity]
    exact h.topics
  · intro i hi j hj
    rw [matchEntities_congr hentities, hmatrix]
    rw [hlength] at hi hj
    exact h.found i hi j hj
  · rw [hlength, hmatrix]
    exact h.outside

omit [MicroCdr] in
theorem SoundMatching.congr (h : map.SoundMatching) (hentities : map'.entities = map.entities)
    (hmatrix : map'.matrix = map.matrix) : map'.SoundMatching := by
  have hentity : map'.entity = map.entity := by
    funext i
    rw [entity, hentities]
    rfl
  have hhash : map'.topicHash = map.topicHash := by
    funext entity
    rw [topicHash, hentity]
    rfl
  refine ⟨?_, ?_, ?_, ?_⟩
  · rw [hmatrix]
    exact h.symmetric
  · rw [hmatrix, hentity]
    exact h.kinds
  · rw [hmatrix, hentity]
    exact h.described
  · rw [hmatrix, hentity, hhash]
    exact h.binary

end SharedMemoryMap

/-! ## Documents -/

/-- A data writer and a data reader in whose texts the client takes nothing else for a tag fit if no
other names have the hash of theirs. -/
theorem fits_of_documents (map : SharedMemoryMap) [MicroCdr] {writer : TopicDocument "data_writer"}
    {reader : TopicDocument "data_reader"} (hwriter : writer.OpenersClear ∧ writer.ClosersClear)
    (hreader : reader.OpenersClear ∧ reader.ClosersClear)
    (hnames : xmlDescription writer.xml dataWriterId = some writer.description)
    (hnames' : xmlDescription reader.xml dataReaderId = some reader.description)
    {session session' : Nat} {entityId entityId' : ObjectId} (htype : entityId.type = dataWriterId)
    (htype' : entityId'.type = dataReaderId) {entity entity' : SharedEntity}
    (hentity : SharedMemoryMap.xmlEntity session entityId writer.xml = some entity)
    (hentity' : SharedMemoryMap.xmlEntity session' entityId' reader.xml = some entity')
    (hhash : hashString writer.hashInput none = hashString reader.hashInput none →
      writer.description = reader.description) : map.fits entity entity' := by
  have hfound := writer.xmlEntity_document (by decide) hwriter.1 hwriter.2
    (by rw [htype]; rfl) hentity
  have hfound' := reader.xmlEntity_document (by decide) hreader.1 hreader.2
    (by rw [htype']; rfl) hentity'
  subst hfound
  subst hfound'
  rw [SharedMemoryMap.fits]
  dsimp only
  intro hequal
  refine ⟨?_, writer.description, ?_, ?_⟩
  · rw [htype, htype']
    rfl
  · show xmlDescription writer.xml entityId.type = some writer.description
    rw [htype]
    exact hnames
  · show xmlDescription reader.xml entityId'.type = some writer.description
    rw [htype', hhash (Option.some.inj hequal)]
    exact hnames'

/-! ## Runs -/

section

variable [MicroCdr] (keys : Nat → SharedSession) (config : SharedMemoryConfig)

variable {keys config} {map : SharedMemoryMap} {addition : Addition}

end

end XrceClient
