import XrceClient.Session.DataReading
import XrceClient.Session.Deletion

/-!
# Which submessages are dispatched

`read_submessage_list` takes the next header where the handler of the last submessage left the
buffer. The handlers go as far as their fields do, or by the length in the header, or not at
all.

- `Submessage`, `messageBytes`, `WellFormed`: messages as lists of submessages.
- `Dispatch`, `dispatchesFrom`: which headers the loop takes, and where the handlers stop.
- `taken`: how many bytes a handler asks for, and `Measured`: these are the bytes of the
  payload.
- `readSubmessage_moved`: where a handler leaves the buffer.
- `dispatch_follows_lengths`: the submessages of the list are dispatched, and no others, exactly
  if all of them are measured.
-/

namespace XrceClient

open ByteMemory Program

/-! ## Messages -/

/-- A submessage, with the bytes up to the start of the next. -/
structure Submessage where
  id : UInt8
  flags : UInt8
  payload : List UInt8
  gap : List UInt8
  /-- The length has 16 bits. -/
  length_lt : payload.length < 65536
  deriving DecidableEq, Repr

namespace Submessage

/-- The two bytes of the length. -/
def low (submessage : Submessage) : UInt8 := UInt8.ofNat submessage.payload.length

def high (submessage : Submessage) : UInt8 := UInt8.ofNat (submessage.payload.length / 256)

/-- The header as `read_submessage` is given it. -/
def header (submessage : Submessage) : SubmessageHeader where
  id := submessage.id
  length := UInt16.ofNat submessage.payload.length
  flags := otherFlags submessage.flags

def bytes (submessage : Submessage) : List UInt8 :=
  submessage.id :: submessage.flags :: submessage.low :: submessage.high ::
    (submessage.payload ++ submessage.gap)

/-- How many bytes there are up to the next multiple of four. -/
def padding (submessage : Submessage) : Nat := (4 - submessage.payload.length % 4) % 4

theorem headerLength_eq (submessage : Submessage) :
    headerLength submessage.low submessage.high = submessage.header.length := by
  have hlt := submessage.length_lt
  apply UInt16.toNat_inj.mp
  simp only [headerLength, header, low, high, ofLeBytes, UInt16.toNat_ofNat', UInt8.toNat_ofNat']
  omega

theorem header_length_toNat (submessage : Submessage) :
    submessage.header.length.toNat = submessage.payload.length := by
  have hlt := submessage.length_lt
  rw [header, UInt16.toNat_ofNat']
  omega

end Submessage

/-- The bytes behind the header of a message. -/
def messageBytes (submessages : List Submessage) : List UInt8 :=
  submessages.flatMap Submessage.bytes

/-- Each submessage starts at a multiple of four. -/
def WellFormed : List Submessage → Prop
  | [] => True
  | [submessage] => submessage.gap.length ≤ submessage.padding
  | submessage :: submessages =>
    submessage.gap.length = submessage.padding ∧ WellFormed submessages

theorem WellFormed.tail {submessage : Submessage} {submessages : List Submessage}
    (h : WellFormed (submessage :: submessages)) : WellFormed submessages := by
  cases submessages with
  | nil => trivial
  | cons next submessages => exact h.2

theorem WellFormed.gap_le {submessage : Submessage} {submessages : List Submessage}
    (h : WellFormed (submessage :: submessages)) : submessage.gap.length ≤ submessage.padding := by
  cases submessages with
  | nil => exact h
  | cons next submessages => exact Nat.le_of_eq h.1

theorem WellFormed.gap_eq {submessage : Submessage} {submessages : List Submessage}
    (h : WellFormed (submessage :: submessages)) (hne : submessages ≠ []) :
    submessage.gap.length = submessage.padding := by
  cases submessages with
  | nil => exact absurd rfl hne
  | cons next submessages => exact h.1

theorem messageBytes_eq_nil {submessages : List Submessage} (h : messageBytes submessages = []) :
    submessages = [] := by
  cases submessages with
  | nil => rfl
  | cons submessage submessages => exact absurd h (List.cons_ne_nil _ _)

/-! ## What is dispatched -/

/-- A submessage that is dispatched: its header, how many bytes were left behind the header and
how many when the handler was done. -/
structure Dispatch where
  header : SubmessageHeader
  start : Nat
  stop : Nat
  deriving DecidableEq, Repr

/-- The submessages of the list, each read up to the end of its payload. -/
def expectedDispatches : List Submessage → List Dispatch
  | [] => []
  | submessage :: submessages =>
    let stop := submessage.gap.length + (messageBytes submessages).length
    { header := submessage.header, start := submessage.payload.length + stop, stop } ::
      expectedDispatches submessages

section

variable [MicroCdr] {σ : Type} (env : ReadEnv σ) (config : ReadConfig) (streamId : StreamId)

/-- The loop of `read_submessage_list`, with a record of what it dispatches. -/
def dispatchesFrom : Nat → SubmessageHeader → σ × Cursor → List Dispatch × (Bool × σ × Cursor)
  | 0, _, t => ([], false, t)
  | fuel + 1, header, t =>
    let ((found, header), t) := (readSubmessageHeader header).run env.handle t
    if found then
      let t' := ((readSubmessage config streamId header).run env.handle t).2
      let (dispatches, result) := dispatchesFrom fuel header t'
      ({ header
         start := ucdrBufferRemaining t.2.ub
         stop := ucdrBufferRemaining t'.2.ub } :: dispatches, result)
    else
      ([], true, t)

/-- The record is one of the loop itself. -/
theorem dispatchesFrom_run (fuel : Nat) (header : SubmessageHeader) (t : σ × Cursor) :
    (dispatchesFrom env config streamId fuel header t).2 =
      (readSubmessagesFrom config streamId fuel header).run env.handle t := by
  induction fuel generalizing header t with
  | zero => rfl
  | succ fuel ih =>
    rw [dispatchesFrom, readSubmessagesFrom, run_bind]
    obtain ⟨⟨found, header'⟩, t'⟩ := (readSubmessageHeader header).run env.handle t
    cases found with
    | false => rfl
    | true =>
      dsimp only
      rw [if_pos rfl, if_pos rfl, run_bind]
      exact ih header' _

end

/-! ## Where the handlers stop -/

section

variable (config : ReadConfig) (streamId : StreamId) (header : SubmessageHeader) (b : Block)

/-- A DATA whose data are read by `read_format_data`. -/
def isFormatData : Prop :=
  header.id = SubmessageId.data.value ∧ header.flags &&& formatMask = formatData

/-- The object of a DATA is a requester. -/
def forRequester : Prop :=
  (objectIdFromRaw (dataBase config b).objectId).type = requesterId

instance : Decidable (isFormatData header) := inferInstanceAs (Decidable (_ ∧ _))

instance : Decidable (forRequester config b) := inferInstanceAs (Decidable (_ = _))

/-- How many bytes the handler of a submessage asks for, but for INFO. -/
def taken : Nat :=
  if header.id = SubmessageId.statusAgent.value then
    if streamId.type = .noneStream then fieldsSize statusAgentFields else 0
  else if header.id = SubmessageId.status.value then
    fieldsSize baseObjectReplyFields
  else if header.id = SubmessageId.data.value then
    if isFormatData header then
      if forRequester config b then 4 + 2 * (header.length - 4).toNat
      else 4 + (header.length - 4).toNat
    else 4
  else if header.id = SubmessageId.heartbeat.value then
    fieldsSize heartbeatFields
  else if header.id = SubmessageId.acknack.value then
    fieldsSize acknackFields
  else if header.id = SubmessageId.timestampReply.value then
    fieldsSize timestampReplyFields
  else if header.id = SubmessageId.getInfo.value then
    8
  else
    0

/-- A block behind the bytes that a handler asked for, in front of what comes behind the
payload. -/
structure Moved (b b' : Block) (n length : Nat) : Prop where
  bytes : b'.bytes = b.bytes.drop n
  behind : n ≤ b.bytes.length → n = length →
    b'.failed = false ∧ b'.offset = b.offset + n ∧ (b'.lastDataSize < 4 ∨ n % 4 = 0)

theorem Moved.refl {b : Block} (hok : b.failed = false) (length : Nat) : Moved b b 0 length :=
  ⟨rfl, fun _ _ => ⟨hok, rfl, .inr rfl⟩⟩

end

section

variable [MicroCdr] [StickyMicroCdr] {σ : Type} {env : ReadEnv σ} {s : σ} {c : Cursor} {b : Block}

/-- The fields of a payload behind a header: without padding, also where they are cut. -/
structure PayloadFields (types : List FieldType) : Prop where
  packed : ∀ offset, offset % 4 = 0 → Packed offset 2 types
  calm : CalmBehind types
  last : lastSize 2 types < 4 ∨ fieldsSize types % 4 = 0

omit [MicroCdr] [StickyMicroCdr] in
theorem payloadFields {types : List FieldType}
    (h : types ∈ [statusAgentFields, baseObjectReplyFields, heartbeatFields, acknackFields,
      timestampReplyFields]) : PayloadFields types := by
  simp only [List.mem_cons, List.not_mem_nil, or_false] at h
  obtain rfl | rfl | rfl | rfl | rfl := h
  · refine ⟨fun offset haligned => ?_, ?_, by decide⟩ <;>
      simp [statusAgentFields, Packed, FieldType.PackedAt, CalmBehind, Calm, FieldType.CalmAfter,
        FieldType.last]
  · refine ⟨fun offset haligned => ?_, ?_, by decide⟩ <;>
      simp [baseObjectReplyFields, Packed, FieldType.PackedAt, CalmBehind, Calm,
        FieldType.CalmAfter, FieldType.last]
  · refine ⟨fun offset haligned => ?_, ?_, by decide⟩ <;>
      simp [heartbeatFields, Packed, FieldType.PackedAt, CalmBehind, Calm, FieldType.CalmAfter,
        FieldType.last]
  · refine ⟨fun offset haligned => ?_, ?_, by decide⟩ <;>
      simp [acknackFields, Packed, FieldType.PackedAt, CalmBehind, Calm, FieldType.CalmAfter,
        FieldType.last]
  · refine ⟨fun offset haligned => ?_, ?_, by decide⟩
    · simp [timestampReplyFields, Packed, FieldType.PackedAt, FieldType.last, haligned]
    · simp [timestampReplyFields, CalmBehind, Calm, FieldType.CalmAfter, FieldType.last]

/-- The block behind a header. -/
structure Block.BehindHeader (b : Block) : Prop where
  ok : b.failed = false
  aligned : b.offset % 4 = 0
  lastDataSize : b.lastDataSize = 2

/-- A payload of which the fields are read. -/
theorem fields_moved {α : Type} {program : Program BufferOp α} {f : List (Option Field) → α}
    {types : List FieldType} (hprogram : program = f <$> deserializeFields types)
    (htypes : PayloadFields types) (h : Holds env.dev s c.ub b) (hb : b.BehindHeader)
    (length : Nat) :
    ∃ a ub' b', (readBuffer program).run env.handle (s, c) = (a, s, { c with ub := ub' }) ∧
      Holds env.dev s ub' b' ∧ Moved b b' (fieldsSize types) length := by
  obtain ⟨ub', b', hrun, hholds, hwhole, hcut⟩ := payload_block hprogram h hb.ok
    (hb.lastDataSize ▸ htypes.packed b.offset hb.aligned) htypes.calm
  refine ⟨_, ub', b', hrun, hholds, ?_, ?_⟩
  · by_cases hthere : fieldsSize types ≤ b.bytes.length
    · rw [hwhole hthere]
      rfl
    · rw [(hcut (Nat.lt_of_not_le hthere)).2, List.drop_eq_nil_of_le (by omega)]
  · intro hthere _
    rw [hwhole hthere]
    exact ⟨hb.ok, rfl, hb.lastDataSize ▸ htypes.last⟩

/-- The same with an effect behind. -/
theorem fields_moved_emit (hblocks : env.Blocks) {α : Type} {program : Program BufferOp α}
    {f : List (Option Field) → α} {types : List FieldType}
    (hprogram : program = f <$> deserializeFields types) (htypes : PayloadFields types)
    (h : Holds env.dev s c.ub b) (hb : b.BehindHeader) (length : Nat) (effect : α → Effect) :
    ∃ s' ub' b', (do
        let a ← readBuffer program
        call (.emit (effect a)) : Program ReadOp PUnit).run env.handle (s, c) =
          (⟨⟩, s', { c with ub := ub' }) ∧
      Holds env.dev s' ub' b' ∧ Moved b b' (fieldsSize types) length := by
  obtain ⟨a, ub', b', hrun, hholds, hmoved⟩ := fields_moved hprogram htypes h hb length
  refine ⟨env.emit (effect a) s, ub', b', ?_, hholds.emit hblocks _, hmoved⟩
  rw [run_bind, hrun]
  rfl

omit [MicroCdr] [StickyMicroCdr] in
theorem Block.take_bytes (hempty : b.failed = true → b.bytes = []) (n last : Nat) :
    (b.take n last).2.bytes = b.bytes.drop n := by
  rw [Block.take]
  split
  · next hfailed => rw [hempty hfailed.1, List.drop_nil]
  · split
    · rfl
    · next hn => exact (List.drop_eq_nil_of_le (by omega)).symm

omit [MicroCdr] [StickyMicroCdr] in
theorem Block.take_behind (hok : b.failed = false) {n : Nat} (hn : n ≤ b.bytes.length)
    (last : Nat) : (b.take n last).2 = b.behind n last := by
  rw [Block.take, if_neg (by simp [hok]), if_pos hn]

/-- The handler of a DATA goes by the length in the header. -/
theorem readSubmessageData_moved (config : ReadConfig) (streamId : StreamId)
    (header : SubmessageHeader) (hblocks : env.Blocks) (h : Holds env.dev s c.ub b)
    (hok : b.failed = false) (houter : c.outer = none)
    (hid : header.id = SubmessageId.data.value)
    (hroom : header.length.toNat ≤ b.bytes.length)
    (hbase : isFormatData header → forRequester config b → 4 ≤ header.length) :
    ∃ s' ub' b', (readSubmessageData config header.length streamId
        (header.flags &&& formatMask)).run env.handle (s, c) = (⟨⟩, s', { ub := ub', outer := none }) ∧
      Holds env.dev s' ub' b' ∧
      Moved b b' (taken config streamId header b) header.length.toNat := by
  obtain ⟨b₁, s', ub', hrun, -, hwhole, hcut, hother, hdata⟩ := readSubmessageData_plain config
    header.length streamId (header.flags &&& formatMask) hblocks h hok houter
  have hbytes : b₁.bytes = b.bytes.drop 4 := by
    by_cases hthere : 4 ≤ b.bytes.length
    · rw [hwhole hthere]
      rfl
    · rw [(hcut (Nat.lt_of_not_le hthere)).1, List.drop_eq_nil_of_le (by omega)]
  have hempty : b₁.failed = true → b₁.bytes = [] := by
    intro hfailed
    by_cases hthere : 4 ≤ b.bytes.length
    · rw [hwhole hthere] at hfailed
      rw [Block.behind, hok] at hfailed
      cases hfailed
    · exact (hcut (Nat.lt_of_not_le hthere)).1
  have htaken : taken config streamId header b = if isFormatData header then
      if forRequester config b then 4 + 2 * (header.length - 4).toNat
      else 4 + (header.length - 4).toNat
    else 4 := by
    rw [taken, hid]
    rfl
  rw [htaken]
  by_cases hformat : header.flags &&& formatMask = formatData
  · rw [if_pos (show isFormatData header from ⟨hid, hformat⟩)]
    by_cases hrequester : forRequester config b
    · -- the data of a requester is skipped twice
      have hlong := hbase ⟨hid, hformat⟩ hrequester
      have hfour : 4 ≤ header.length.toNat := UInt16.le_iff_toNat_le.mp hlong
      have hlength : (header.length - 4).toNat = header.length.toNat - 4 :=
        UInt16.toNat_sub_of_le _ _ hlong
      have hok₁ : b₁.failed = false := by
        rw [hwhole (by omega)]
        exact hok
      have hskipped : (b₁.skip (header.length - 4).toNat).bytes =
          b.bytes.drop (4 + (header.length - 4).toNat) := by
        rw [Block.skip, hbytes, List.drop_drop]
      rw [if_pos hrequester]
      refine ⟨s', ub', _, hrun, (hdata hformat).2 hrequester ?_, ?_, ?_⟩
      · rw [hbytes, List.length_drop]
        omega
      · have hskippedOk : (b₁.skip (header.length - 4).toNat).failed = true →
            (b₁.skip (header.length - 4).toNat).bytes = [] :=
          fun hfailed => absurd (hok₁.symm.trans hfailed) (by decide)
        rw [Block.take_bytes hskippedOk, hskipped, List.drop_drop]
        congr 1
        omega
      · -- nothing is skipped where the handler stops in the right place
        intro hthere hsame
        have hnone : (header.length - 4).toNat = 0 := by omega
        rw [hnone, Block.take_behind (b := b₁.skip 0) hok₁ (Nat.zero_le _), hwhole (by omega)]
        exact ⟨hok, rfl, .inl (show 1 < 4 by decide)⟩
    · -- the data of any other object is skipped once
      rw [if_neg hrequester]
      refine ⟨s', ub', _, hrun, (hdata hformat).1 hrequester, ?_, ?_⟩
      · rw [Block.take_bytes hempty, hbytes, List.drop_drop]
      · intro hthere _
        have hfour : 4 ≤ b.bytes.length := Nat.le_trans (Nat.le_add_right _ _) hthere
        have hok₁ : b₁.failed = false := by
          rw [hwhole hfour]
          exact hok
        rw [Block.take_behind hok₁ (by rw [hbytes, List.length_drop]; omega)]
        refine ⟨hok₁, ?_, .inl (show 1 < 4 by decide)⟩
        rw [Block.behind, hwhole hfour, Block.behind, Nat.add_assoc]
  · -- in another format nothing behind the base is read
    rw [if_neg (show ¬ isFormatData header from fun hboth => hformat hboth.2)]
    refine ⟨s', ub', b₁, hrun, hother hformat, hbytes, ?_⟩
    intro hthere _
    rw [hwhole hthere]
    exact ⟨hok, rfl, .inl (show 1 < 4 by decide)⟩

/-- The fields of `GET_INFO_Payload`. -/
def getInfoFields : List FieldType := [.array 2, .array 2, .scalar 4]

omit [MicroCdr] [StickyMicroCdr] in
theorem deserializeGetInfoPayload_eq (output : BaseObjectRequest) :
    deserializeGetInfoPayload output =
      BaseObjectRequest.ofFields output <$> deserializeFields getInfoFields := by
  refine step_congr fun requestId => step_congr fun objectId => step_congr fun infoMask =>
    congrArg Program.done ?_
  simp [BaseObjectRequest.ofFields]

/-- The reading of a `GET_INFO_Payload` that has its base. -/
theorem getInfo_moved (h : Holds env.dev s c.ub b) (hb : b.BehindHeader)
    (hbase : 4 ≤ b.bytes.length) (length : Nat) :
    ∃ a ub' b', (readBuffer (deserializeGetInfoPayload .zero)).run env.handle (s, c) =
        (a, s, { c with ub := ub' }) ∧
      Holds env.dev s ub' b' ∧ Moved b b' 8 length := by
  have hprogram := deserializeGetInfoPayload_eq .zero
  by_cases hthere : 8 ≤ b.bytes.length
  · have hpacked : Packed b.offset b.lastDataSize getInfoFields := by
      have haligned : (b.offset + 2 + 2) % 4 = 0 := by
        have := hb.aligned
        omega
      simp [getInfoFields, Packed, FieldType.PackedAt, FieldType.size, FieldType.last, haligned]
    have hread := attempt_map (BaseObjectRequest.ofFields .zero)
      (deserializeFields_onBlock hb.ok hpacked hthere)
    obtain ⟨ub', hrun, hholds⟩ := run_onBlock h (hprogram ▸ hread)
    exact ⟨_, ub', _, hrun, hholds, rfl, fun _ _ => ⟨hb.ok, rfl, .inr rfl⟩⟩
  · -- the base is there, the mask is cut
    have htake₁ : b.take 2 1 = (some (b.bytes.take 2), b.behind 2 1) := by
      rw [Block.take, if_neg (by simp [hb.ok]), if_pos (by omega)]
    have htake₂ : (b.behind 2 1).take 2 1 = (some ((b.bytes.drop 2).take 2), b.behind 4 1) := by
      rw [Block.take, if_neg (by simp [Block.behind, hb.ok]),
        if_pos (by rw [Block.behind, List.length_drop]; omega)]
      simp [Block.behind, List.drop_drop]
    have htake₃ : (b.behind 4 1).take 4 4 = (none, (b.behind 4 1).exhausted 4) := by
      rw [Block.take, if_neg (by simp [Block.behind, hb.ok]),
        if_neg (by rw [Block.behind, List.length_drop]; omega)]
    have hmask : (FieldType.scalar 4).PackedAt (b.behind 4 1).offset (b.behind 4 1).lastDataSize := by
      have haligned : (b.offset + 4) % 4 = 0 := by
        have := hb.aligned
        omega
      simp [FieldType.PackedAt, Block.behind, haligned]
    have hread₁ := @FieldType.deserialize_onBlock b (.array 2) (by rintro _ ⟨⟩)
    have hread₂ := @FieldType.deserialize_onBlock (b.behind 2 1) (.array 2) (by rintro _ ⟨⟩)
    have hread₃ := FieldType.deserialize_onBlock hmask.padding
    rw [FieldType.size, FieldType.last, htake₁] at hread₁
    rw [FieldType.size, FieldType.last, htake₂] at hread₂
    rw [FieldType.size, FieldType.last, htake₃] at hread₃
    have hread₄ : (deserializeFields []).attempt BufferOp.onBlock ((b.behind 4 1).exhausted 4) =
        .ok ([], (b.behind 4 1).exhausted 4) := rfl
    have hread := attempt_map (BaseObjectRequest.ofFields .zero) (deserializeFields_cons hread₁
      (deserializeFields_cons hread₂ (deserializeFields_cons hread₃ hread₄)))
    obtain ⟨ub', hrun, hholds⟩ := run_onBlock h (hprogram ▸ hread)
    refine ⟨_, ub', _, hrun, hholds, ?_, fun hwhole => absurd hwhole hthere⟩
    exact (List.drop_eq_nil_of_le (by omega)).symm

/-- Where the documentation of Micro-CDR says how the handler goes on. -/
structure Documented (config : ReadConfig) (header : SubmessageHeader) (b : Block) : Prop where
  data : isFormatData header → forRequester config b → 4 ≤ header.length
  getInfo : header.id = SubmessageId.getInfo.value → 4 ≤ b.bytes.length

/-- The handler of a submessage, but for INFO, leaves the buffer behind what it asks for. -/
theorem readSubmessage_moved (config : ReadConfig) (streamId : StreamId)
    {header : SubmessageHeader} (hblocks : env.Blocks) (h : Holds env.dev s c.ub b)
    (hb : b.BehindHeader) (houter : c.outer = none) (hroom : header.length.toNat ≤ b.bytes.length)
    (hdocumented : Documented config header b) (hinfo : header.id ≠ SubmessageId.info.value) :
    ∃ s' ub' b', (readSubmessage config streamId header).run env.handle (s, c) =
        (⟨⟩, s', { ub := ub', outer := none }) ∧
      Holds env.dev s' ub' b' ∧
      Moved b b' (taken config streamId header b) header.length.toNat := by
  have hc (ub' : UcdrBuffer) : { c with ub := ub' } = ({ ub := ub', outer := none } : Cursor) := by
    rw [houter]
  -- one case for each branch of the handler, in its order
  by_cases hstatusAgent : header.id = SubmessageId.statusAgent.value
  · rw [readSubmessage_statusAgent config streamId hstatusAgent, taken, if_pos hstatusAgent]
    by_cases hnone : streamId.type = .noneStream
    · obtain ⟨s', ub', b', hrun, hholds, hmoved⟩ := fields_moved_emit hblocks
        (deserializeStatusAgentPayload_eq config.uninitialized.statusAgent)
        (payloadFields (by simp)) h hb header.length.toNat .createSessionStatus
      rw [if_pos hnone, if_pos hnone]
      exact ⟨s', ub', b', hc ub' ▸ hrun, hholds, hmoved⟩
    · rw [if_neg hnone, if_neg hnone]
      exact ⟨s, c.ub, b, by rw [← hc]; rfl, h, .refl hb.ok _⟩
  by_cases hstatus : header.id = SubmessageId.status.value
  · have htaken : taken config streamId header b = fieldsSize baseObjectReplyFields := by
      rw [taken, hstatus]
      rfl
    rw [readSubmessage_status config streamId hstatus, htaken]
    by_cases hnone : streamId.type = .noneStream
    · obtain ⟨s', ub', b', hrun, hholds, hmoved⟩ := fields_moved_emit hblocks
        (deserializeBaseObjectReply_eq config.uninitialized.status) (payloadFields (by simp)) h hb
        header.length.toNat fun reply => .deleteSessionStatus
          (uint16FromRaw reply.2.relatedRequest.requestId) reply.2.status reply.1
      rw [if_pos hnone]
      exact ⟨s', ub', b', hc ub' ▸ hrun, hholds, hmoved⟩
    · obtain ⟨s', ub', b', hrun, hholds, hmoved⟩ := fields_moved_emit hblocks
        (deserializeBaseObjectReply_eq config.uninitialized.status) (payloadFields (by simp)) h hb
        header.length.toNat fun reply => .status
          (objectIdFromRaw reply.2.relatedRequest.objectId)
          (uint16FromRaw reply.2.relatedRequest.requestId) reply.2.status
      rw [if_neg hnone]
      exact ⟨s', ub', b', hc ub' ▸ hrun, hholds, hmoved⟩
  by_cases hdata : header.id = SubmessageId.data.value
  · rw [readSubmessage_data config streamId hdata]
    exact readSubmessageData_moved config streamId header hblocks h hb.ok houter hdata hroom
      hdocumented.data
  by_cases hheartbeat : header.id = SubmessageId.heartbeat.value
  · have htaken : taken config streamId header b = fieldsSize heartbeatFields := by
      rw [taken, hheartbeat]
      rfl
    obtain ⟨s', ub', b', hrun, hholds, hmoved⟩ := fields_moved_emit hblocks
      (deserializeHeartbeatPayload_eq config.uninitialized.heartbeat) (payloadFields (by simp)) h hb
      header.length.toNat .heartbeat
    rw [readSubmessage_heartbeat config streamId hheartbeat, htaken]
    exact ⟨s', ub', b', hc ub' ▸ hrun, hholds, hmoved⟩
  by_cases hacknack : header.id = SubmessageId.acknack.value
  · have htaken : taken config streamId header b = fieldsSize acknackFields := by
      rw [taken, hacknack]
      rfl
    obtain ⟨s', ub', b', hrun, hholds, hmoved⟩ := fields_moved_emit hblocks
      (deserializeAcknackPayload_eq config.uninitialized.acknack) (payloadFields (by simp)) h hb
      header.length.toNat fun read => .acknack read.2 read.1
    rw [readSubmessage_acknack config streamId hacknack, htaken]
    exact ⟨s', ub', b', hc ub' ▸ hrun, hholds, hmoved⟩
  by_cases htimestampReply : header.id = SubmessageId.timestampReply.value
  · have htaken : taken config streamId header b = fieldsSize timestampReplyFields := by
      rw [taken, htimestampReply]
      rfl
    obtain ⟨s', ub', b', hrun, hholds, hmoved⟩ := fields_moved_emit hblocks
      (deserializeTimestampReplyPayload_eq config.uninitialized.timestampReply)
      (payloadFields (by simp)) h hb header.length.toNat .timestampReply
    rw [readSubmessage_timestampReply config streamId htimestampReply, htaken]
    exact ⟨s', ub', b', hc ub' ▸ hrun, hholds, hmoved⟩
  by_cases hgetInfo : header.id = SubmessageId.getInfo.value
  · have htaken : taken config streamId header b = 8 := by
      rw [taken, hgetInfo]
      rfl
    obtain ⟨base, ub', b', hrun, hholds, hmoved⟩ :=
      getInfo_moved h hb (hdocumented.getInfo hgetInfo) header.length.toNat
    refine ⟨env.emit (.getInfo base.requestId) s, ub', b', ?_, hholds.emit hblocks _,
      htaken ▸ hmoved⟩
    rw [readSubmessage_getInfo config streamId hgetInfo, run_bind, hrun, hc]
    rfl
  · -- a submessage that the client does not know is not read
    have htaken : taken config streamId header b = 0 := by
      rw [taken, if_neg hstatusAgent, if_neg hstatus, if_neg hdata, if_neg hheartbeat,
        if_neg hacknack, if_neg htimestampReply, if_neg hgetInfo]
    have hnothing : readSubmessage config streamId header = pure ⟨⟩ := by
      rw [readSubmessage, if_neg hstatusAgent, if_neg hstatus, if_neg hdata, if_neg hheartbeat,
        if_neg hacknack, if_neg htimestampReply, if_neg hgetInfo, if_neg hinfo]
    rw [hnothing, htaken]
    exact ⟨s, c.ub, b, by rw [← hc]; rfl, h, .refl hb.ok _⟩

/-! ## The loop -/

variable (config : ReadConfig) (streamId : StreamId)

omit [MicroCdr] [StickyMicroCdr]

/-- The fields of an INFO, as the deserializers of the library read them, take some bytes. -/
def InfoTakes (b : Block) (n : Nat) : Prop :=
  ∃ pong b', (readInfoFields config).attempt BufferOp.onBlock b = .ok (pong, b') ∧
    b'.bytes = b.bytes.drop n ∧ b'.failed = false ∧ b'.offset = b.offset + n ∧
    (b'.lastDataSize < 4 ∨ n % 4 = 0)

/-- The handler of a submessage asks for the bytes of the payload, or for more where the payload
is the last of the message. -/
def Measured (header : SubmessageHeader) (b : Block) : Prop :=
  if header.id = SubmessageId.info.value then
    InfoTakes config b header.length.toNat
  else
    Documented config header b ∧
      (taken config streamId header b = header.length.toNat ∨
        header.length.toNat < taken config streamId header b ∧
          b.bytes.length = header.length.toNat)

/-- What can be said about a handler from the documentation of Micro-CDR, and an INFO whose fields
take its payload. -/
def Followed (header : SubmessageHeader) (b : Block) : Prop :=
  if header.id = SubmessageId.info.value then
    InfoTakes config b header.length.toNat
  else
    Documented config header b

/-- The block behind the header of a submessage. -/
def Submessage.block (submessage : Submessage) (offset : Nat) (submessages : List Submessage) :
    Block where
  bytes := submessage.payload ++ submessage.gap ++ messageBytes submessages
  offset := offset + 4
  lastDataSize := 2
  endianness := flagsEndianness submessage.flags
  failed := false

/-- Something about every submessage of a message, from an offset on. -/
def Throughout (P : SubmessageHeader → Block → Prop) : Nat → List Submessage → Prop
  | _, [] => True
  | offset, submessage :: submessages =>
    P submessage.header (submessage.block offset submessages) ∧
      Throughout P (offset + 4 + submessage.payload.length + submessage.gap.length) submessages

/-- A block in front of the submessages of a message. -/
structure Block.Before (b : Block) (offset : Nat) (submessages : List Submessage) : Prop where
  bytes : b.bytes.drop (b.padding 4) = messageBytes submessages
  start : submessages ≠ [] →
    b.failed = false ∧ offset = b.offset + b.padding 4 ∧ offset % 4 = 0

theorem Block.padding_four {b : Block} (h : b.lastDataSize < 4 ∨ b.offset % 4 = 0) :
    b.padding 4 = (4 - b.offset % 4) % 4 := by
  rw [Block.padding]
  split
  · rfl
  · next hlast =>
    rcases h with hlt | haligned
    · exact absurd hlt hlast
    · rw [haligned]

/-- Behind a measured submessage come the others. -/
theorem Moved.before {submessage : Submessage} {submessages : List Submessage} {offset n : Nat}
    {b' : Block} (haligned : offset % 4 = 0) (hwell : WellFormed (submessage :: submessages))
    (hmoved : Moved (submessage.block offset submessages) b' n submessage.payload.length)
    (hn : n = submessage.payload.length ∨ submessage.payload.length < n ∧
      (submessage.block offset submessages).bytes.length = submessage.payload.length) :
    b'.Before (offset + 4 + submessage.payload.length + submessage.gap.length) submessages ∧
      b'.bytes.length = submessage.gap.length + (messageBytes submessages).length := by
  have hbytes := hmoved.bytes
  rw [Submessage.block] at hbytes
  rcases hn with rfl | ⟨hlt, hlast⟩
  · rw [List.append_assoc, List.drop_left] at hbytes
    obtain ⟨hok, hoffset, hsize⟩ := hmoved.behind
      (by rw [Submessage.block, List.append_assoc, List.length_append]; exact Nat.le_add_right _ _)
      rfl
    rw [Submessage.block] at hoffset
    dsimp only at hoffset
    have hpadding : b'.padding 4 = submessage.padding := by
      rw [Block.padding_four (hsize.imp_right fun h => by omega), Submessage.padding, hoffset]
      omega
    refine ⟨⟨?_, fun hne => ⟨hok, ?_, ?_⟩⟩, ?_⟩
    · rw [hpadding, hbytes]
      by_cases hne : submessages = []
      · rw [hne]
        exact List.drop_eq_nil_of_le (by simpa [messageBytes] using hwell.gap_le)
      · rw [← hwell.gap_eq hne, List.drop_left]
    · rw [hpadding, hwell.gap_eq hne, hoffset]
    · rw [hwell.gap_eq hne, Submessage.padding]
      omega
    · rw [hbytes, List.length_append]
  · -- nothing comes behind the payload
    rw [Submessage.block, List.length_append, List.length_append] at hlast
    have hgap : submessage.gap = [] := List.length_eq_zero_iff.mp (by omega)
    have hrest : messageBytes submessages = [] := List.length_eq_zero_iff.mp (by omega)
    have hnil : b'.bytes = [] := by
      rw [hbytes, hgap, hrest, List.append_nil, List.append_nil]
      exact List.drop_eq_nil_of_le (Nat.le_of_lt hlt)
    rw [messageBytes_eq_nil hrest, hnil, hgap]
    exact ⟨⟨by rw [hnil, List.drop_nil]; rfl, fun hne => absurd rfl hne⟩, rfl⟩

end

section

variable [MicroCdr] [StickyMicroCdr] {σ : Type} {env : ReadEnv σ} {s : σ} {c : Cursor} {b : Block}
  {config : ReadConfig} {streamId : StreamId} {submessage : Submessage}
  {submessages : List Submessage} {offset : Nat}

theorem Holds.remaining (h : Holds env.dev s c.ub b) :
    ucdrBufferRemaining c.ub = b.bytes.length := by
  rw [LawfulMicroCdr.remaining c.ub h.le, h.final, Nat.add_sub_cancel_left]

/-- The header of the next submessage. -/
theorem readSubmessageHeader_next (h : Holds env.dev s c.ub b)
    (hbefore : b.Before offset (submessage :: submessages)) (previous : SubmessageHeader) :
    offset % 4 = 0 ∧ ∃ ub', (readSubmessageHeader previous).run env.handle (s, c) =
        ((true, submessage.header), s, { c with ub := ub' }) ∧
      Holds env.dev s ub' (submessage.block offset submessages) := by
  obtain ⟨hok, hoffset, haligned⟩ := hbefore.start (List.cons_ne_nil _ _)
  have hstarts : b.Starts submessage.id submessage.flags submessage.low submessage.high
      (submessage.payload ++ submessage.gap ++ messageBytes submessages) :=
    ⟨hok, hoffset ▸ haligned, hbefore.bytes⟩
  obtain ⟨ub', hrun, hholds⟩ := readSubmessageHeader_block h hstarts previous
  refine ⟨haligned, ub', ?_, ?_⟩
  · rw [hrun, submessage.headerLength_eq]
    rfl
  · rw [Submessage.block, hoffset]
    exact hholds

/-- Behind the last submessage there is no header. -/
theorem readSubmessageHeader_end (h : Holds env.dev s c.ub b) (hbefore : b.Before offset [])
    (previous : SubmessageHeader) :
    ∃ t, (readSubmessageHeader previous).run env.handle (s, c) = ((false, previous), t) := by
  have halignOp : (BufferOp.alignTo 4).onBlock b = .ok ((), b.alignTo 4) := by
    rw [BufferOp.onBlock, if_pos (by decide)]
  have hremainingOp : BufferOp.bufferRemaining.onBlock (b.alignTo 4) = .ok (0, b.alignTo 4) := by
    rw [BufferOp.onBlock, Block.alignTo, hbefore.bytes]
    rfl
  obtain ⟨ub₁, halign, h₁⟩ := run_buffer h halignOp
  obtain ⟨ub₂, hremaining, -⟩ := run_buffer (c := { c with ub := ub₁ }) h₁ hremainingOp
  refine ⟨(s, { c with ub := ub₂ }), ?_⟩
  have hshort : ¬ 0 ≥ subheaderSize := by decide
  rw [readSubmessageHeader, run_bind, run_call, halign, run_bind, run_call, hremaining,
    if_neg hshort]
  rfl

omit [MicroCdr] [StickyMicroCdr] in
theorem Submessage.behindHeader (haligned : offset % 4 = 0) :
    (submessage.block offset submessages).BehindHeader :=
  ⟨rfl, show (offset + 4) % 4 = 0 by omega, rfl⟩

/-- What the handler of a measured submessage leaves is what comes behind it. -/
theorem readSubmessage_measured (hblocks : env.Blocks)
    (h : Holds env.dev s c.ub (submessage.block offset submessages)) (haligned : offset % 4 = 0)
    (houter : c.outer = none) (hwell : WellFormed (submessage :: submessages))
    (hmeasured : Measured config streamId submessage.header
      (submessage.block offset submessages)) :
    ∃ s' ub' b', (readSubmessage config streamId submessage.header).run env.handle (s, c) =
        (⟨⟩, s', { ub := ub', outer := none }) ∧
      Holds env.dev s' ub' b' ∧
      b'.Before (offset + 4 + submessage.payload.length + submessage.gap.length) submessages ∧
      b'.bytes.length = submessage.gap.length + (messageBytes submessages).length := by
  have hlength := submessage.header_length_toNat
  rw [Measured, hlength] at hmeasured
  by_cases hinfo : submessage.header.id = SubmessageId.info.value
  · rw [if_pos hinfo] at hmeasured
    obtain ⟨pong, b', hread, hbytes, hok, hoffset, hlast⟩ := hmeasured
    obtain ⟨ub', hrun, hholds⟩ := run_onBlock h hread
    have hmoved : Moved (submessage.block offset submessages) b' submessage.payload.length
        submessage.payload.length := ⟨hbytes, fun _ _ => ⟨hok, hoffset, hlast⟩⟩
    have hbefore := hmoved.before haligned hwell (.inl rfl)
    have hstart : (readSubmessage config streamId submessage.header).run env.handle (s, c) =
        setPong env (pong, s, { ub := ub', outer := none }) := by
      rw [readSubmessage_info config streamId hinfo, readSubmessageInfo_run, hrun, houter]
    cases pong with
    | none => exact ⟨s, ub', b', hstart, hholds, hbefore⟩
    | some status => exact ⟨_, ub', b', hstart, hholds.emit hblocks (.pong status), hbefore⟩
  · rw [if_neg hinfo] at hmeasured
    obtain ⟨hdocumented, htaken⟩ := hmeasured
    have hroom : submessage.header.length.toNat ≤
        (submessage.block offset submessages).bytes.length := by
      rw [hlength, Submessage.block, List.append_assoc, List.length_append]
      exact Nat.le_add_right _ _
    obtain ⟨s', ub', b', hrun, hholds, hmoved⟩ := readSubmessage_moved config streamId hblocks h
      (Submessage.behindHeader haligned) houter hroom hdocumented hinfo
    rw [hlength] at hmoved
    exact ⟨s', ub', b', hrun, hholds, hmoved.before haligned hwell htaken⟩

/-- A message whose submessages are measured is dispatched in order, each submessage once. -/
theorem dispatches_of_measured (hblocks : env.Blocks) (hwell : WellFormed submessages)
    (hmeasured : Throughout (Measured config streamId) offset submessages) {fuel : Nat}
    (hfuel : submessages.length < fuel) (previous : SubmessageHeader)
    (h : Holds env.dev s c.ub b) (hbefore : b.Before offset submessages)
    (houter : c.outer = none) :
    (dispatchesFrom env config streamId fuel previous (s, c)).1 = expectedDispatches submessages ∧
      (dispatchesFrom env config streamId fuel previous (s, c)).2.1 = true := by
  induction submessages generalizing fuel previous s c b offset with
  | nil =>
    cases fuel with
    | zero => exact absurd hfuel (Nat.not_lt_zero _)
    | succ fuel =>
      obtain ⟨t, hend⟩ := readSubmessageHeader_end h hbefore previous
      rw [dispatchesFrom, hend]
      exact ⟨rfl, rfl⟩
  | cons submessage submessages ih =>
    cases fuel with
    | zero => exact absurd hfuel (Nat.not_lt_zero _)
    | succ fuel =>
      obtain ⟨haligned, ub₁, hheader, hholds₁⟩ := readSubmessageHeader_next h hbefore previous
      obtain ⟨s', ub', b', hrun, hholds', hbefore', hstop⟩ := readSubmessage_measured
        (c := { c with ub := ub₁ }) hblocks hholds₁ haligned houter hwell hmeasured.1
      obtain ⟨hrest, hfinished⟩ := @ih s' { ub := ub', outer := none } b' _ hwell.tail hmeasured.2
        fuel (Nat.lt_of_succ_lt_succ hfuel) submessage.header hholds' hbefore' rfl
      have hstart : ucdrBufferRemaining ub₁ = submessage.payload.length +
          (submessage.gap.length + (messageBytes submessages).length) := by
        rw [Holds.remaining (c := { c with ub := ub₁ }) hholds₁, Submessage.block,
          List.append_assoc, List.length_append, List.length_append]
      have hremaining : ucdrBufferRemaining ub' =
          submessage.gap.length + (messageBytes submessages).length := by
        rw [Holds.remaining (c := { ub := ub', outer := none }) hholds', hstop]
      rw [dispatchesFrom, hheader]
      dsimp only
      rw [if_pos rfl, hrun, hstart, hremaining]
      dsimp only
      rw [hrest, expectedDispatches]
      exact ⟨rfl, hfinished⟩

/-- A submessage behind which the handler stops where its payload ends is measured. -/
theorem measured_of_stop (hblocks : env.Blocks)
    (h : Holds env.dev s c.ub (submessage.block offset submessages)) (haligned : offset % 4 = 0)
    (houter : c.outer = none)
    (hfollowed : Followed config submessage.header (submessage.block offset submessages))
    (hstop : ucdrBufferRemaining
        ((readSubmessage config streamId submessage.header).run env.handle (s, c)).2.2.ub =
      submessage.gap.length + (messageBytes submessages).length) :
    Measured config streamId submessage.header (submessage.block offset submessages) := by
  have hlength := submessage.header_length_toNat
  rw [Measured]
  rw [Followed] at hfollowed
  by_cases hinfo : submessage.header.id = SubmessageId.info.value
  · rw [if_pos hinfo] at hfollowed ⊢
    exact hfollowed
  · rw [if_neg hinfo] at hfollowed ⊢
    refine ⟨hfollowed, ?_⟩
    have hsize : (submessage.block offset submessages).bytes.length =
        submessage.payload.length + (submessage.gap.length + (messageBytes submessages).length) := by
      rw [Submessage.block, List.append_assoc, List.length_append, List.length_append]
    obtain ⟨s', ub', b', hrun, hholds, hmoved⟩ := readSubmessage_moved config streamId hblocks h
      (Submessage.behindHeader haligned) houter (by omega) hfollowed hinfo
    rw [hrun, Holds.remaining (c := { ub := ub', outer := none }) hholds, hmoved.bytes,
      List.length_drop] at hstop
    omega

/-- A message that is dispatched in order, each submessage once, has measured submessages. -/
theorem measured_of_dispatches (hblocks : env.Blocks) (hwell : WellFormed submessages)
    (hfollowed : Throughout (Followed config) offset submessages) {fuel : Nat}
    (hfuel : submessages.length < fuel) (previous : SubmessageHeader)
    (h : Holds env.dev s c.ub b) (hbefore : b.Before offset submessages)
    (houter : c.outer = none)
    (hdispatches : (dispatchesFrom env config streamId fuel previous (s, c)).1 =
      expectedDispatches submessages) :
    Throughout (Measured config streamId) offset submessages := by
  induction submessages generalizing fuel previous s c b offset with
  | nil => trivial
  | cons submessage submessages ih =>
    cases fuel with
    | zero => exact absurd hfuel (Nat.not_lt_zero _)
    | succ fuel =>
      obtain ⟨haligned, ub₁, hheader, hholds₁⟩ := readSubmessageHeader_next h hbefore previous
      rw [dispatchesFrom, hheader] at hdispatches
      dsimp only at hdispatches
      rw [if_pos rfl, expectedDispatches] at hdispatches
      obtain ⟨hhead, htail⟩ := List.cons.inj hdispatches
      have hmeasured := measured_of_stop (c := { c with ub := ub₁ }) hblocks hholds₁ haligned houter
        hfollowed.1 (congrArg Dispatch.stop hhead)
      obtain ⟨s', ub', b', hrun, hholds', hbefore', -⟩ := readSubmessage_measured
        (c := { c with ub := ub₁ }) hblocks hholds₁ haligned houter hwell hmeasured
      rw [hrun] at htail
      exact ⟨hmeasured, @ih s' { ub := ub', outer := none } b' _ hwell.tail hfollowed.2
        fuel (Nat.lt_of_succ_lt_succ hfuel) submessage.header hholds' hbefore' rfl htail⟩

/-- A message in which every handler asks for the bytes of its payload is dispatched submessage
by submessage, each up to the end of its payload, and nothing else. As far as the documentation
of Micro-CDR goes, no other message is. -/
theorem dispatch_follows_lengths (hblocks : env.Blocks) (hwell : WellFormed submessages)
    {fuel : Nat} (hfuel : submessages.length < fuel) (previous : SubmessageHeader)
    (h : Holds env.dev s c.ub b) (hbefore : b.Before offset submessages)
    (houter : c.outer = none) :
    (Throughout (Measured config streamId) offset submessages →
      (dispatchesFrom env config streamId fuel previous (s, c)).1 =
          expectedDispatches submessages ∧
        (dispatchesFrom env config streamId fuel previous (s, c)).2.1 = true) ∧
      (Throughout (Followed config) offset submessages →
        (dispatchesFrom env config streamId fuel previous (s, c)).1 =
          expectedDispatches submessages →
        Throughout (Measured config streamId) offset submessages) :=
  ⟨fun hmeasured => dispatches_of_measured hblocks hwell hmeasured hfuel previous h hbefore houter,
    fun hfollowed => measured_of_dispatches hblocks hwell hfollowed hfuel previous h hbefore houter⟩

end

/-! ## A reply in front of another submessage -/

/-- A HEARTBEAT for the first reliable stream. -/
def heartbeatSubmessage : Submessage where
  id := SubmessageId.heartbeat.value
  flags := flagEndianness
  payload := [0, 0, 0, 0, 0x80]
  gap := []
  length_lt := by decide

/-- A DATA for a requester, with the request that it replies to and no more. -/
def replySubmessage : Submessage where
  id := SubmessageId.data.value
  flags := flagEndianness
  payload := [0, 10, 0, 0x17, 0, 10, 0, 0x17]
  gap := []
  length_lt := by decide

/-- What `read_submessage_list` dispatches of a message in a session without streams. -/
def dispatchesOf (submessages : List Submessage) : List Dispatch :=
  (@dispatchesFrom referenceMicroCdr _
    (@datagramEnv referenceMicroCdr (fun _ => 0) fun a => (messageBytes submessages).getD a 0)
    noCallbacks (streamIdFromRaw 0 .inputStream) 4 { id := 0, length := 0, flags := 0 }
    (noStreams, { ub := @ucdrInitBuffer referenceMicroCdr 0 (messageBytes submessages).length
                  outer := none })).1

/-- The same HEARTBEAT in front of another submessage. -/
def heartbeatInFront : Submessage := { heartbeatSubmessage with gap := [0, 0, 0] }

/-- Two HEARTBEATs are dispatched. The payload of the first one ends between two multiples of
four. -/
theorem dispatch_follows_lengths_heartbeat :
    dispatchesOf [heartbeatInFront, heartbeatSubmessage] =
      expectedDispatches [heartbeatInFront, heartbeatSubmessage] := by
  have hblocks := @datagramEnv_blocks referenceMicroCdr (fun _ => 0)
    fun a => (messageBytes [heartbeatInFront, heartbeatSubmessage]).getD a 0
  have hmeasured : Throughout (Measured noCallbacks (streamIdFromRaw 0 .inputStream)) 0
      [heartbeatInFront, heartbeatSubmessage] := by
    refine ⟨?_, ?_, trivial⟩
    all_goals
      rw [Measured, if_neg (by decide)]
      exact ⟨⟨fun hdata => absurd hdata.1 (by decide), fun hgetInfo => absurd hgetInfo (by decide)⟩,
        .inl (by decide)⟩
  exact ((@dispatch_follows_lengths referenceMicroCdr referenceMicroCdr_sticky _ _ _ _ _ _ _ _ 0
    hblocks (show WellFormed [heartbeatInFront, heartbeatSubmessage] from ⟨by decide, Nat.zero_le _⟩)
    4 (by decide) _ (@holds_init referenceMicroCdr referenceMicroCdr_sticky _ _ noStreams hblocks 0 _)
    ⟨by decide, fun _ => ⟨rfl, by decide, rfl⟩⟩ rfl).1 hmeasured).1

/-- Behind a reply the buffer goes on by its length once more: the HEARTBEAT is not dispatched. -/
theorem reply_hides_heartbeat :
    dispatchesOf [replySubmessage, heartbeatSubmessage] ≠
      expectedDispatches [replySubmessage, heartbeatSubmessage] := by
  decide +kernel

end XrceClient
