import XrceClient.Session.Dispatch
import XrceClient.Session.FragmentReading

/-!
# How far a fragmented message is read

The reader of a message goes from one submessage to the next by what the headers and the payloads
say. How many bytes that takes is told here by the fragments of the message.

- `Rest.header`: the header that is next.
- `FragmentedMessage.payload`: what the handler of a submessage takes.
- `FragmentedMessage.extent`: whether the submessages lie in the fragments.
- `readSubmessage_goes`, `readSubmessagesFrom_goes`: the handlers and the reader take these bytes.
-/

namespace XrceClient

open ByteMemory

/-! ## Submessages in fragments -/

/-- The header that is next, if there is one in the fragment, and what is left behind it
(submessage.c:21–39). -/
def Rest.header (r : Rest) : Option (SubmessageHeader × Rest) :=
  match (r.alignTo 4).bytes with
  | id :: flags :: low :: high :: _ =>
    some ({ id, length := headerLength low high, flags := otherFlags flags },
      { (r.alignTo 4).skip 4 with
        offset := (r.alignTo 4).offset + 4
        endianness := flagsEndianness flags })
  | _ => none

/-- The payload of the first fragment, behind the size of the slot and the subheader. -/
def Rest.behindSubheader [MicroCdr] (fragment : List UInt8) : Rest where
  fragment := 0
  place := 8
  bytes := fragment.drop subheaderSize
  offset := 0
  endianness := machineEndianness

/-- The fields that the handler of a submessage reads, but for DATA and INFO. -/
def handlerFields (streamId : StreamId) (id : UInt8) : List FieldType :=
  if id = SubmessageId.statusAgent.value then
    if streamId.type = .noneStream then statusAgentFields else []
  else if id = SubmessageId.status.value then baseObjectReplyFields
  else if id = SubmessageId.heartbeat.value then heartbeatFields
  else if id = SubmessageId.acknack.value then acknackFields
  else if id = SubmessageId.timestampReply.value then timestampReplyFields
  else if id = SubmessageId.getInfo.value then getInfoFields
  else []

namespace FragmentedMessage

variable [MicroCdr] (message : FragmentedMessage)

/-- Behind bytes that are taken. -/
def pass (n : Nat) (r : Rest) : Except Ending Rest := Prod.snd <$> message.take n r

/-- A byte. -/
def byte (r : Rest) : Except Ending (UInt8 × Rest) :=
  (fun (bs, r) => (bs.headD 0, r)) <$> message.take 1 r

/-- A callback of the user takes what it takes. -/
def called (callback : ReadCallback) (b : RestBuffer) : Except Ending Unit :=
  (fun _ => ()) <$> callback.attempt (BufferOp.onRest message) b

/-- The callback of `read_format_data` reads from a copy of the buffer, a replier's behind the
identity of the request, and a requester's behind the request that is answered
(read_access.c:173–241). -/
def dataCalled (config : ReadConfig) (length : UInt16) (streamId : StreamId) (objectId : ObjectId)
    (requestId : UInt16) (r : Rest) : Except Ending Unit :=
  let temp := message.copy r
  if objectId.type = dataReaderId then
    match config.onTopic with
    | some onTopic => message.called (onTopic objectId requestId streamId length) temp
    | none => return
  else if objectId.type = replierId then
    match config.onRequest with
    | some onRequest => do
      let (bytes, temp) ← message.take 24 temp.toRest
      let sampleId :=
        SampleIdentity.ofFields (decodeFields machineEndianness sampleIdentityFields bytes)
      message.called (onRequest objectId requestId sampleId (length - 24)) (message.copy temp)
    | none => return
  else if objectId.type = requesterId then
    match config.onReply with
    | some onReply => do
      let (bytes, temp) ← message.take 4 temp.toRest
      let request :=
        BaseObjectRequest.ofFields .zero
          (decodeFields machineEndianness baseObjectRequestFields bytes)
      message.called (onReply objectId requestId (uint16FromRaw request.requestId) (length - 4))
        (message.copy temp)
    | none => return
  else
    return

/-- Of a DATA the request is taken, and its data, by the length in the header. The data of a
requester is skipped once more (read_access.c:240). -/
def data (config : ReadConfig) (streamId : StreamId) (header : SubmessageHeader) (r : Rest) :
    Except Ending Rest := do
  let (bytes, r) ← message.take 4 r
  let base := BaseObjectRequest.ofFields config.uninitialized.base
    (decodeFields machineEndianness baseObjectRequestFields bytes)
  if header.flags &&& formatMask = formatData then
    let objectId := objectIdFromRaw base.objectId
    let length := header.length - 4
    message.dataCalled config length streamId objectId (uint16FromRaw base.requestId) r
    if objectId.type = requesterId then
      if length.toNat ≤ r.bytes.length then message.pass length.toNat (r.skip length.toNat)
      else throw .undocumented
    else
      message.pass length.toNat r
  else
    return r

/-- The activity of an INFO, if there is one, with its kind and the availability of an agent
(session.c:1122–1139). -/
def activity (success : Bool) (r : Rest) : Except Ending Rest := do
  let (optionalActivity, r) ← message.byte r
  if optionalActivity ≠ 0 then
    let (kind, r) ← message.byte r
    if success = true ∧ kind.toNat = objkAgent then
      if r.padding 2 ≤ r.bytes.length then message.pass 2 (r.alignTo 2) else throw .undocumented
    else
      return r
  else
    return r

/-- Of an INFO the reply is taken, a configuration, if there is one, and an activity
(session.c:1105–1140). -/
def info (variant : Program BufferOp Bool) (r : Rest) : Except Ending Rest := do
  let r ← message.pass 6 r
  let (optionalConfig, r) ← message.byte r
  if optionalConfig ≠ 0 then
    let (success, b) ← variant.attempt (BufferOp.onRest message) { r with lastDataSize := 1 }
    message.activity success b.toRest
  else
    message.activity true r

/-- What is left behind the payload of a submessage. -/
def payload (config : ReadConfig) (streamId : StreamId) (header : SubmessageHeader) (r : Rest) :
    Except Ending Rest :=
  if header.id = SubmessageId.data.value then
    message.data config streamId header r
  else if header.id = SubmessageId.info.value then
    message.info config.deserializeObjectVariant r
  else
    message.pass (fieldsSize (handlerFields streamId header.id)) r

/-- One submessage after the other. -/
def extentFrom (config : ReadConfig) (streamId : StreamId) : Nat → Rest → Except Ending Unit
  | 0, _ => return
  | fuel + 1, r =>
    match r.header with
    | some (header, r) => do
      let r ← message.payload config streamId header r
      extentFrom config streamId fuel r
    | none => return

/-- Whether the submessages, at most so many, lie in the fragments. There is nothing else in a ring
that the message takes as a whole. -/
def extent (config : ReadConfig) (fuel : Nat) (streamId : StreamId) : Except Ending Unit :=
  if message.history ≤ message.fragments.length then
    return
  else
    match message.fragments with
    | [] => throw .undocumented
    | fragment :: _ =>
      if subheaderSize ≤ fragment.length ∧ fragment.length + 4 ≤ message.stride then
        message.extentFrom config streamId fuel
          (message.copy (Rest.behindSubheader fragment)).toRest
      else
        throw .undocumented

end FragmentedMessage

/-! ## What is taken of the fragments -/

section

variable [MicroCdr] {message : FragmentedMessage} {r r' : Rest} {b b' : RestBuffer}

namespace FragmentedMessage

theorem room_next (h : message.room r = .ok r') : r'.offset = r.offset ∧
    (r.endianness = machineEndianness → r'.endianness = machineEndianness) := by
  rw [room] at h
  split at h
  · cases h
    exact ⟨rfl, id⟩
  · split at h
    · split at h
      · cases h
        exact ⟨rfl, fun _ => rfl⟩
      · cases h
    · split at h <;> cases h

theorem take_next {n : Nat} {bs : List UInt8} (h : message.take n r = .ok (bs, r')) :
    bs.length = n ∧ r'.offset = r.offset + n ∧
      (r.endianness = machineEndianness → r'.endianness = machineEndianness) := by
  induction n generalizing r bs with
  | zero =>
    cases h
    exact ⟨rfl, rfl, id⟩
  | succ n ih =>
    rw [take] at h
    simp only [bind, Except.bind] at h
    split at h
    · cases h
    · next r₁ hroom =>
      split at h
      · cases h
      · next rest hrest =>
        cases h
        obtain ⟨hoffset, hmachine⟩ := room_next hroom
        obtain ⟨hlength, hoffset', hmachine'⟩ := ih hrest
        have hnext : r₁.next.offset = r₁.offset + 1 := rfl
        exact ⟨congrArg (· + 1) hlength, by omega, fun h => hmachine' (hmachine h)⟩

/-- Some bytes, and then others. -/
theorem take_add (n k : Nat) (r : Rest) :
    message.take (n + k) r = (do
      let (bs, r₁) ← message.take n r
      let (cs, r₂) ← message.take k r₁
      return (bs ++ cs, r₂)) := by
  induction n generalizing r with
  | zero =>
    rw [Nat.zero_add]
    simp only [take, bind, Except.bind]
    cases message.take k r <;> rfl
  | succ n ih =>
    rw [Nat.succ_add]
    simp only [take, bind, Except.bind]
    cases message.room r with
    | error e => rfl
    | ok r₁ =>
      dsimp only
      rw [ih]
      simp only [bind, Except.bind]
      cases message.take n r₁.next with
      | error e => rfl
      | ok result =>
        dsimp only [pure, Except.pure]
        cases message.take k result.2 <;> rfl

/-- Bytes of the fragment. -/
theorem take_inside {front rest : List UInt8} (hbytes : r.bytes = front ++ rest) :
    message.take front.length r =
      .ok (front, { r.skip front.length with offset := r.offset + front.length }) := by
  induction front generalizing r with
  | nil => rfl
  | cons byte front ih =>
    have hroom : message.room r = .ok r := by
      rw [room, if_pos (by rw [hbytes]; exact List.cons_ne_nil _ _)]
    have hnext : r.next.bytes = front ++ rest := by
      rw [Rest.next, Rest.skip, hbytes]
      rfl
    rw [List.length_cons, take, hroom]
    simp only [bind, Except.bind]
    rw [ih hnext, hbytes]
    simp only [pure, Except.pure, Rest.next, Rest.skip, hbytes, List.drop_drop]
    simp [Nat.add_comm]
    omega

end FragmentedMessage

omit [MicroCdr] in
theorem Rest.pad_zero (r : Rest) : r.pad 0 = r := by
  rw [Rest.pad, Rest.skip, Nat.zero_min]
  rfl

/-- A scalar that needs no padding. -/
theorem onRest_deserialize (e : Option Endianness) {width : Nat} (hwidth : width ∈ [1, 2, 4, 8])
    (hpad : b.padding width = 0) :
    (BufferOp.deserialize e width).onRest message b =
      (fun (bs, r) => (some (decodeScalar (e.getD b.endianness) bs),
        { r with lastDataSize := width : RestBuffer })) <$> message.take width b.toRest := by
  rw [BufferOp.onRest, if_pos ⟨hwidth, by omega⟩, RestBuffer.alignTo, hpad, Rest.pad_zero]
  cases message.take width b.toRest <;> rfl

/-- A field that needs no padding. -/
theorem deserialize_onRest {type : FieldType} (h : type.PackedAt b.offset b.lastDataSize) :
    type.deserialize.attempt (BufferOp.onRest message) b =
      (fun (bs, r) => (some (type.decode b.endianness bs),
        { r with lastDataSize := type.last : RestBuffer })) <$>
        message.take type.size b.toRest := by
  cases type with
  | scalar width =>
    have hpad : b.padding width = 0 := by
      rw [RestBuffer.padding, Rest.padding]
      split
      · next hlt => rw [h.2 hlt, Nat.sub_zero, Nat.mod_self]
      · rfl
    refine (Program.attempt_bind _ (Program.call _) _ b).trans ?_
    rw [Program.attempt_call, onRest_deserialize none h.1 hpad]
    cases hbytes : message.take width b.toRest with
    | error e =>
      rw [FieldType.size, hbytes]
      rfl
    | ok result =>
      rw [FieldType.size, hbytes]
      rfl
  | array size =>
    refine (Program.attempt_bind _ (Program.call _) _ b).trans ?_
    rw [Program.attempt_call, BufferOp.onRest]
    cases hbytes : message.take size b.toRest with
    | error e =>
      rw [FieldType.size, hbytes]
      rfl
    | ok result =>
      rw [FieldType.size, hbytes]
      rfl

/-- A field that has no byte order. -/
def FieldType.Unordered : FieldType → Prop
  | scalar width => width = 1
  | array _ => True

/-- Fields that need no padding are read from the bytes that are taken. Their values are known where
the byte order is that of the machine, which a buffer over another fragment has. -/
theorem deserializeFields_onRest {types : List FieldType}
    (hpacked : Packed b.offset b.lastDataSize types) :
    match message.take (fieldsSize types) b.toRest with
    | .error e => (deserializeFields types).attempt (BufferOp.onRest message) b = .error e
    | .ok (bs, r) => ∃ fields, (deserializeFields types).attempt (BufferOp.onRest message) b =
        .ok (fields, { r with lastDataSize := lastSize b.lastDataSize types }) ∧
      fields.all Option.isSome = true ∧
      (b.endianness = machineEndianness ∨ (∀ type ∈ types, type.Unordered) →
        fields = decodeFields machineEndianness types bs) := by
  induction types generalizing b with
  | nil => exact ⟨[], rfl, rfl, fun _ => rfl⟩
  | cons type types ih =>
    obtain ⟨hfield, hpacked⟩ := hpacked
    have hread := @deserialize_onRest _ message b type hfield
    rw [fieldsSize_cons, FragmentedMessage.take_add]
    cases htake : message.take type.size b.toRest with
    | error e =>
      rw [htake] at hread
      exact (Program.attempt_bind _ _ _ b).trans (by rw [hread]; rfl)
    | ok result =>
      obtain ⟨bs, r₁⟩ := result
      rw [htake] at hread
      obtain ⟨hlength, hoffset, hmachine⟩ := FragmentedMessage.take_next htake
      have hrest := @ih { r₁ with lastDataSize := type.last } (hoffset ▸ hpacked)
      have hattempt : (deserializeFields (type :: types)).attempt (BufferOp.onRest message) b =
          ((fun fields => some (type.decode b.endianness bs) :: fields) <$>
            deserializeFields types).attempt (BufferOp.onRest message)
            { r₁ with lastDataSize := type.last } :=
        (Program.attempt_bind _ _ _ b).trans (by rw [hread]; rfl)
      rw [hattempt]
      simp only [bind, Except.bind]
      cases htake' : message.take (fieldsSize types) r₁ with
      | error e =>
        dsimp only at hrest ⊢
        rw [htake'] at hrest
        exact (Program.attempt_bind _ _ _ _).trans (by rw [hrest])
      | ok result =>
        obtain ⟨cs, r₂⟩ := result
        dsimp only at hrest
        rw [htake'] at hrest
        obtain ⟨fields, hfields, hall, hvalues⟩ := hrest
        refine ⟨some (type.decode b.endianness bs) :: fields,
          (Program.attempt_bind _ _ _ _).trans (by rw [hfields]; rfl), ?_, ?_⟩
        · rw [List.all_cons, hall]
          rfl
        · intro hknown
          have hdecode : type.decode b.endianness bs = type.decode machineEndianness bs := by
            rcases hknown with hsame | hunordered
            · rw [hsame]
            · cases type with
              | array size => rfl
              | scalar width =>
                have hwidth : width = 1 := hunordered _ List.mem_cons_self
                obtain ⟨byte, rfl⟩ := List.length_eq_one_iff.mp (hlength.trans hwidth)
                rw [FieldType.decode, FieldType.decode, decodeScalar_singleton,
                  decodeScalar_singleton]
          rw [hvalues (hknown.imp hmachine fun h type hmem => h type (List.mem_cons_of_mem _ hmem)),
            decodeFields, if_pos (by rw [List.length_append]; omega), hdecode, ← hlength,
            List.take_left, List.drop_left]

/-- A Micro-CDR program of a reading function that has the buffer for itself. -/
theorem attempt_readBuffer {α : Type} (program : Program BufferOp α) {c : RestCursor}
    (halone : ¬ (c.outer.isSome = true ∧ c.cleanupFlag = true)) :
    (readBuffer program).attempt message.handle c =
      (fun (a, buffer) => (a, { c with buffer })) <$>
        program.attempt (BufferOp.onRest message) c.buffer := by
  induction program generalizing c with
  | done a => rfl
  | step op next ih =>
    rw [readBuffer, Program.translate, Program.attempt, FragmentedMessage.handle, if_neg halone,
      Program.attempt]
    cases op.onRest message c.buffer with
    | error e => rfl
    | ok result => exact @ih result.1 { c with buffer := result.2 } halone

/-- A payload whose values are known. -/
theorem payload_onRest {α : Type} {program : Program BufferOp α} {f : List (Option Field) → α}
    {types : List FieldType} (hprogram : program = f <$> deserializeFields types)
    (hpacked : Packed b.offset b.lastDataSize types)
    (hknown : b.endianness = machineEndianness ∨ ∀ type ∈ types, type.Unordered) :
    program.attempt (BufferOp.onRest message) b =
      (fun (bs, r) => (f (decodeFields machineEndianness types bs),
        { r with lastDataSize := lastSize b.lastDataSize types : RestBuffer })) <$>
        message.take (fieldsSize types) b.toRest := by
  have hfields := @deserializeFields_onRest _ message b types hpacked
  rw [hprogram, Program.attempt_map]
  cases htake : message.take (fieldsSize types) b.toRest with
  | error e =>
    rw [htake] at hfields
    rw [hfields]
    rfl
  | ok result =>
    obtain ⟨bs, r⟩ := result
    rw [htake] at hfields
    obtain ⟨fields, hread, -, hvalues⟩ := hfields
    rw [hread, hvalues hknown]
    rfl

/-- A call of a reading function that has no copy of its buffer. -/
theorem attempt_call_buffer {β : Type} (op : BufferOp β) (b : RestBuffer) (cleanupFlag : Bool) :
    (Program.call (.buffer op)).attempt message.handle { buffer := b, outer := none, cleanupFlag } =
      (fun (a, buffer) => (a, { buffer, outer := none, cleanupFlag })) <$> op.onRest message b := by
  rw [Program.attempt_call, FragmentedMessage.handle, if_neg (by simp)]
  cases op.onRest message b <;> rfl

/-! ## The handlers -/

/-- A reading function takes what is told. Behind it the next header is aligned by the offset. -/
def Goes {α : Type} (result : Except Ending (α × RestCursor)) (told : Except Ending Rest) : Prop :=
  match told with
  | .error e => result = .error e
  | .ok r => ∃ a last cleanupFlag,
      result = .ok (a, { buffer := { r with lastDataSize := last }, outer := none, cleanupFlag }) ∧
        (last < 4 ∨ r.offset % 4 = 0)

/-- The handler that reads the fields of a payload. -/
theorem fields_goes {α : Type} {program : Program BufferOp α} {f : List (Option Field) → α}
    {types : List FieldType} (hprogram : program = f <$> deserializeFields types)
    (hpacked : Packed r.offset 2 types) (haligned : r.offset % 4 = 0)
    (hlast : lastSize 2 types < 4 ∨ fieldsSize types % 4 = 0) (cleanupFlag : Bool)
    (effect : α → Effect) :
    Goes ((do
        let a ← readBuffer program
        Program.call (.emit (effect a)) : Program ReadOp PUnit).attempt message.handle
          { buffer := { r with lastDataSize := 2 }, outer := none, cleanupFlag })
      (message.pass (fieldsSize types) r) := by
  have hfields := @deserializeFields_onRest _ message { r with lastDataSize := 2 } types hpacked
  have hread := @attempt_readBuffer _ message α program
    { buffer := { r with lastDataSize := 2 }, outer := none, cleanupFlag } (by simp)
  dsimp only at hread
  rw [hprogram, Program.attempt_map] at hread
  rw [FragmentedMessage.pass, Program.attempt_bind, hprogram, hread]
  dsimp only at hfields
  cases htake : message.take (fieldsSize types) r with
  | error e =>
    rw [htake] at hfields
    rw [hfields]
    rfl
  | ok result =>
    obtain ⟨bs, r'⟩ := result
    rw [htake] at hfields
    obtain ⟨fields, hok, -⟩ := hfields
    obtain ⟨-, hoffset, -⟩ := FragmentedMessage.take_next htake
    rw [hok]
    refine ⟨_, _, _, rfl, hlast.imp_right fun h => ?_⟩
    dsimp only
    omega

/-- The callback of a DATA reads what is told, from a copy of the buffer. -/
def Calls (result : Except Ending (PUnit × RestCursor)) (aside : RestBuffer)
    (told : Except Ending Unit) : Prop :=
  match told with
  | .error e => result = .error e
  | .ok _ => ∃ buffer, result = .ok (⟨⟩, { buffer, outer := some aside, cleanupFlag := false })

theorem called_calls (callback : ReadCallback) (effect : List UInt8 → Effect)
    (b aside : RestBuffer) :
    Calls ((do
        let read ← readBuffer callback
        Program.call (.emit (effect read)) : Program ReadOp PUnit).attempt message.handle
          { buffer := b, outer := some aside, cleanupFlag := false })
      aside (message.called callback b) := by
  have hread := @attempt_readBuffer _ message _ callback
    { buffer := b, outer := some aside, cleanupFlag := false } (by simp)
  rw [Program.attempt_bind, hread, FragmentedMessage.called]
  cases callback.attempt (BufferOp.onRest message) b with
  | error e => rfl
  | ok result => exact ⟨_, rfl⟩

theorem topic_calls (config : ReadConfig) (length : UInt16) (streamId : StreamId)
    {objectId : ObjectId} (hkind : objectId.type = dataReaderId) (requestId : UInt16) (r : Rest)
    (aside : RestBuffer) :
    Calls ((readTopic config length streamId objectId requestId).attempt message.handle
        { buffer := message.copy r, outer := some aside, cleanupFlag := false })
      aside (message.dataCalled config length streamId objectId requestId r) := by
  rw [readTopic, FragmentedMessage.dataCalled, if_pos hkind]
  cases config.onTopic with
  | none => exact ⟨_, rfl⟩
  | some onTopic => exact called_calls _ _ _ _

/-- A callback for data with an identity in front. -/
theorem identified_calls {α : Type} {program : Program BufferOp (Bool × α)}
    {f : List (Option Field) → α} {types : List FieldType}
    (hprogram : program =
      (fun fields => (fields.all Option.isSome, f fields)) <$> deserializeFields types)
    (hpacked : Packed 0 0 types) (hsize : fieldsSize types < 65536) (length : UInt16)
    (callback : α → UInt16 → ReadCallback) (effect : α → UInt16 → List UInt8 → Effect) (r : Rest)
    (aside : RestBuffer) :
    Calls ((do
        let offset ← Program.call (.buffer .offset)
        let (ok, identity) ← readBuffer program
        if ok then
          let offset' ← Program.call (.buffer .offset)
          let rest := UInt16.ofNat (length.toNat + 65536 - (offset' - offset) % 65536)
          Program.call .rebaseTemp
          let read ← readBuffer (callback identity rest)
          Program.call (.emit (effect identity rest read)) : Program ReadOp PUnit).attempt
          message.handle { buffer := message.copy r, outer := some aside, cleanupFlag := false })
      aside (do
        let (bytes, temp) ← message.take (fieldsSize types) (message.copy r).toRest
        message.called (callback (f (decodeFields machineEndianness types bytes))
          (length - UInt16.ofNat (fieldsSize types))) (message.copy temp)) := by
  have hread := @payload_onRest _ message (message.copy r) _ _ _ _ hprogram hpacked (.inl rfl)
  have hbuffer := @attempt_readBuffer _ message _ program
    { buffer := message.copy r, outer := some aside, cleanupFlag := false } (by simp)
  dsimp only at hbuffer
  rw [hread] at hbuffer
  have hoffset (b : RestBuffer) : (Program.call (.buffer .offset)).attempt message.handle
      { buffer := b, outer := some aside, cleanupFlag := false } =
        .ok (b.offset, { buffer := b, outer := some aside, cleanupFlag := false }) := by
    rw [Program.attempt_call, FragmentedMessage.handle, if_neg (by simp)]
    rfl
  rw [Program.attempt_bind_of_ok _ (hoffset _), Program.attempt_bind, hbuffer]
  cases htake : message.take (fieldsSize types) (message.copy r).toRest with
  | error e => rfl
  | ok result =>
    obtain ⟨bytes, temp⟩ := result
    obtain ⟨hlength, hbehind, -⟩ := FragmentedMessage.take_next htake
    have hrest := length_behind length hbehind hsize
    have hall := decodeFields_all machineEndianness (Nat.le_of_eq hlength.symm)
    have hrebase : (Program.call .rebaseTemp).attempt message.handle
        { buffer := { temp with lastDataSize := lastSize (message.copy r).lastDataSize types },
          outer := some aside, cleanupFlag := false } =
        .ok (⟨⟩, { buffer := message.copy temp, outer := some aside, cleanupFlag := false }) := rfl
    dsimp only [Functor.map, Except.map]
    rw [hall, if_pos rfl, Program.attempt_bind_of_ok _ (hoffset _)]
    dsimp only
    rw [hrest, Program.attempt_bind_of_ok _ hrebase]
    exact called_calls _ _ _ _

theorem request_calls (config : ReadConfig) (length : UInt16) (streamId : StreamId)
    {objectId : ObjectId} (hkind : objectId.type = replierId) (requestId : UInt16) (r : Rest)
    (aside : RestBuffer) :
    Calls ((readRequest config length objectId requestId).attempt message.handle
        { buffer := message.copy r, outer := some aside, cleanupFlag := false })
      aside (message.dataCalled config length streamId objectId requestId r) := by
  rw [readRequest, FragmentedMessage.dataCalled, if_neg (by rw [hkind]; decide), if_pos hkind]
  cases config.onRequest with
  | none => exact ⟨_, rfl⟩
  | some onRequest =>
    have hpacked : Packed 0 0 sampleIdentityFields := by
      simp [sampleIdentityFields, Packed, FieldType.PackedAt, FieldType.size]
    exact identified_calls deserializeSampleIdentity_eq hpacked (by decide) length
      (onRequest objectId requestId) (.onRequest objectId requestId) r aside

theorem reply_calls (config : ReadConfig) (length : UInt16) (streamId : StreamId)
    {objectId : ObjectId} (hkind : objectId.type = requesterId) (requestId : UInt16) (r : Rest)
    (aside : RestBuffer) :
    Calls ((readReply config length objectId requestId).attempt message.handle
        { buffer := message.copy r, outer := some aside, cleanupFlag := false })
      aside (message.dataCalled config length streamId objectId requestId r) := by
  rw [readReply, FragmentedMessage.dataCalled, if_neg (by rw [hkind]; decide),
    if_neg (by rw [hkind]; decide), if_pos hkind]
  cases config.onReply with
  | none => exact ⟨_, rfl⟩
  | some onReply =>
    exact identified_calls (deserializeBaseObjectRequest_all .zero) ⟨trivial, trivial, trivial⟩
      (by decide) length
      (fun request => onReply objectId requestId (uint16FromRaw request.requestId))
      (fun request => .onReply objectId requestId (uint16FromRaw request.requestId)) r aside

/-- Without a kind that the client knows nothing is called. -/
theorem dataCalled_other {config : ReadConfig} {length : UInt16} {streamId : StreamId}
    {objectId : ObjectId} {requestId : UInt16} {r : Rest}
    (hkind : objectId.type ∉ [dataReaderId, replierId, requesterId]) :
    message.dataCalled config length streamId objectId requestId r = .ok ⟨⟩ := by
  simp only [List.mem_cons, List.not_mem_nil, or_false, not_or] at hkind
  rw [FragmentedMessage.dataCalled, if_neg hkind.1, if_neg hkind.2.1, if_neg hkind.2.2]
  rfl

/-- Behind the callback the buffer is where it was. -/
theorem Calls.goes {program rest : Program ReadOp PUnit} {c : RestCursor} {b : RestBuffer}
    {told : Except Ending Unit} {told' : Except Ending Rest}
    (h : Calls (program.attempt message.handle c) b told)
    (hrest : Goes (rest.attempt message.handle
      { buffer := b, outer := none, cleanupFlag := false }) told') :
    Goes ((do
        program
        Program.call .closeTemp
        rest : Program ReadOp PUnit).attempt message.handle c) (do
          told
          told') := by
  rw [Program.attempt_bind]
  cases told with
  | error e =>
    rw [show program.attempt message.handle c = .error e from h]
    rfl
  | ok _ =>
    obtain ⟨buffer, hbuffer⟩ := h
    rw [hbuffer]
    exact hrest

/-- The data are passed by the length in the header, wherever the callback read to. -/
theorem readFormatData_goes (config : ReadConfig) (length : UInt16) (streamId : StreamId)
    (objectId : ObjectId) (requestId : UInt16) (b : RestBuffer) (cleanupFlag : Bool) :
    Goes ((readFormatData config length streamId objectId requestId).attempt message.handle
        { buffer := b, outer := none, cleanupFlag })
      (do
        message.dataCalled config length streamId objectId requestId b.toRest
        if objectId.type = requesterId then
          if length.toNat ≤ b.bytes.length then
            message.pass length.toNat (b.toRest.skip length.toNat)
          else throw .undocumented
        else
          message.pass length.toNat b.toRest) := by
  have hopen : (Program.call .openTemp).attempt message.handle
      { buffer := b, outer := none, cleanupFlag } =
      .ok (⟨⟩, { buffer := message.copy b.toRest, outer := some b, cleanupFlag }) := rfl
  have hflag (flag : Bool) (c : RestCursor) :
      (Program.call (.setCleanupFlag flag)).attempt message.handle c =
        .ok (⟨⟩, { c with cleanupFlag := flag }) := rfl
  have hadvance (b : RestBuffer) : Goes ((do
      Program.call (.setCleanupFlag true)
      Program.call (.buffer (.advanceBuffer length.toNat)) : Program ReadOp PUnit).attempt
        message.handle { buffer := b, outer := none, cleanupFlag := false })
      (message.pass length.toNat b.toRest) := by
    rw [Program.attempt_bind_of_ok _ (hflag _ _), Program.attempt_call, FragmentedMessage.handle,
      if_neg (by simp), BufferOp.onRest, FragmentedMessage.pass]
    dsimp only
    cases message.take length.toNat b.toRest with
    | error e => rfl
    | ok result => exact ⟨_, _, _, rfl, .inl (by show 1 < 4; decide)⟩
  rw [readFormatData, Program.attempt_bind_of_ok _ hopen, Program.attempt_bind_of_ok _ (hflag _ _)]
  dsimp only
  by_cases hreader : objectId.type = dataReaderId
  · have hne : ¬ objectId.type = requesterId := by
      rw [hreader]
      decide
    rw [if_pos hreader, if_neg hne]
    exact (topic_calls config length streamId hreader requestId b.toRest b).goes (hadvance b)
  · rw [if_neg hreader]
    by_cases hreplier : objectId.type = replierId
    · have hne : ¬ objectId.type = requesterId := by
        rw [hreplier]
        decide
      rw [if_pos hreplier, if_neg hne]
      exact (request_calls config length streamId hreplier requestId b.toRest b).goes (hadvance b)
    · rw [if_neg hreplier]
      by_cases hrequester : objectId.type = requesterId
      · rw [if_pos hrequester, if_pos hrequester]
        refine (reply_calls config length streamId hrequester requestId b.toRest b).goes ?_
        rw [Program.attempt_bind, Program.attempt_call, FragmentedMessage.handle]
        dsimp only
        by_cases hlength : length.toNat ≤ b.bytes.length
        · rw [if_pos hlength, if_pos hlength]
          exact hadvance { b with toRest := b.toRest.skip length.toNat }
        · rw [if_neg hlength, if_neg hlength]
          rfl
      · rw [if_neg hrequester, if_neg hrequester, dataCalled_other (by simp [*])]
        exact hadvance b

/-- The handler of a DATA. -/
theorem readSubmessageData_goes (config : ReadConfig) (streamId : StreamId)
    (header : SubmessageHeader) (r : Rest) (cleanupFlag : Bool) :
    Goes ((readSubmessageData config header.length streamId
        (header.flags &&& formatMask)).attempt message.handle
        { buffer := { r with lastDataSize := 2 }, outer := none, cleanupFlag })
      (message.data config streamId header r) := by
  have hread := @payload_onRest _ message { r with lastDataSize := 2 } _ _ _ _
    (deserializeBaseObjectRequest_all config.uninitialized.base) ⟨trivial, trivial, trivial⟩
    (.inr (by simp [baseObjectRequestFields, FieldType.Unordered]))
  have hbuffer := @attempt_readBuffer _ message _
    (deserializeBaseObjectRequest config.uninitialized.base)
    { buffer := { r with lastDataSize := 2 }, outer := none, cleanupFlag } (by simp)
  dsimp only at hbuffer
  rw [hread] at hbuffer
  rw [readSubmessageData, Program.attempt_bind, hbuffer, FragmentedMessage.data]
  have hsize : fieldsSize baseObjectRequestFields = 4 := rfl
  rw [hsize]
  dsimp only
  cases message.take 4 r with
  | error e => rfl
  | ok result =>
    obtain ⟨bytes, r'⟩ := result
    have hlast : lastSize 2 baseObjectRequestFields = 1 := rfl
    dsimp only [Functor.map, Except.map]
    rw [Program.attempt_bind_of_ok _ (show (Program.call (.emit _)).attempt message.handle _ =
      .ok (⟨⟩, _) from rfl), readSubmessageFormat, hlast]
    change Goes _ (if header.flags &&& formatMask = formatData then _ else _)
    by_cases hformat : header.flags &&& formatMask = formatData
    · rw [if_pos hformat, if_pos hformat]
      exact readFormatData_goes _ _ _ _ _ { r' with lastDataSize := 1 } _
    · rw [if_neg hformat, if_neg hformat]
      exact ⟨_, _, _, rfl, .inl (show 1 < 4 by decide)⟩

/-! ## The headers -/

omit [MicroCdr] in
theorem RestBuffer.alignTo_four (haligned : b.lastDataSize < 4 ∨ b.offset % 4 = 0) :
    b.alignTo 4 = { b.toRest.alignTo 4 with lastDataSize := 4 } := by
  have hpadding : b.padding 4 = b.toRest.padding 4 := by
    rw [RestBuffer.padding]
    split
    · rfl
    · next hlast =>
      rw [Rest.padding, haligned.resolve_left hlast]
  rw [RestBuffer.alignTo, hpadding]
  rfl

omit [MicroCdr] in
theorem Rest.alignTo_offset (r : Rest) : (r.alignTo 4).offset % 4 = 0 := by
  show (r.offset + (4 - r.offset % 4) % 4) % 4 = 0
  omega

omit [MicroCdr] in
/-- Behind a header the offset is a multiple of four, and there were bytes for it. -/
theorem Rest.header_some {found : SubmessageHeader} (h : r.header = some (found, r')) :
    r'.offset % 4 = 0 ∧ 4 ≤ r.bytes.length := by
  have haligned := r.alignTo_offset
  have hbytes : (r.alignTo 4).bytes = r.bytes.drop (min (r.padding 4) r.bytes.length) := rfl
  rw [Rest.header] at h
  split at h
  · next heq =>
    cases h
    rw [hbytes] at heq
    have hlength := congrArg List.length heq
    rw [List.length_drop] at hlength
    simp only [List.length_cons] at hlength
    refine ⟨?_, by omega⟩
    show ((r.alignTo 4).offset + 4) % 4 = 0
    omega
  · cases h

/-- A scalar that lies in the fragment and needs no padding. -/
theorem deserialize_inside (e : Option Endianness) {front rest : List UInt8}
    (hwidth : front.length ∈ [1, 2, 4, 8]) (hpad : b.padding front.length = 0)
    (hbytes : b.bytes = front ++ rest) :
    (BufferOp.deserialize e front.length).onRest message b =
      .ok (some (decodeScalar (e.getD b.endianness) front),
        { fragment := b.fragment, place := b.place + front.length, bytes := rest,
          offset := b.offset + front.length, endianness := b.endianness,
          lastDataSize := front.length }) := by
  rw [onRest_deserialize e hwidth hpad, FragmentedMessage.take_inside hbytes]
  dsimp only [Functor.map, Except.map, Rest.skip]
  rw [hbytes, List.drop_left]

/-- The header that is next is read, if there is one. -/
theorem readSubmessageHeader_rest (header : SubmessageHeader)
    (haligned : b.lastDataSize < 4 ∨ b.offset % 4 = 0) (cleanupFlag : Bool) :
    match b.toRest.header with
    | some (found, r) => (readSubmessageHeader header).attempt message.handle
        { buffer := b, outer := none, cleanupFlag } =
          .ok ((true, found),
            { buffer := { r with lastDataSize := 2 }, outer := none, cleanupFlag })
    | none => ∃ b', (readSubmessageHeader header).attempt message.handle
        { buffer := b, outer := none, cleanupFlag } =
          .ok ((false, header), { buffer := b', outer := none, cleanupFlag }) := by
  have hcall {β : Type} (op : BufferOp β) (b : RestBuffer) :=
    @attempt_call_buffer _ message β op b cleanupFlag
  have halign : (Program.call (.buffer (.alignTo 4))).attempt message.handle
      { buffer := b, outer := none, cleanupFlag } =
      .ok ((), { buffer := { b.toRest.alignTo 4 with lastDataSize := 4 }, outer := none,
                 cleanupFlag }) := by
    rw [hcall, BufferOp.onRest, if_pos (by decide), RestBuffer.alignTo_four haligned]
    rfl
  have hoffset := b.toRest.alignTo_offset
  rw [readSubmessageHeader, Program.attempt_bind_of_ok _ halign]
  rw [Program.attempt_bind_of_ok _ (hcall _ _), Rest.header]
  generalize b.toRest.alignTo 4 = r at hoffset ⊢
  obtain ⟨fragment, place, bytes, offset, endianness⟩ := r
  dsimp only at hoffset ⊢
  rcases bytes with _ | ⟨id, _ | ⟨flags, _ | ⟨low, _ | ⟨high, rest⟩⟩⟩⟩
  · exact ⟨_, rfl⟩
  · exact ⟨_, rfl⟩
  · exact ⟨_, rfl⟩
  · exact ⟨_, rfl⟩
  · have hid := @deserialize_inside _ message
      { fragment, place, bytes := id :: flags :: low :: high :: rest, offset, endianness,
        lastDataSize := 4 } none [id] (flags :: low :: high :: rest) (by simp) rfl rfl
    have hflags := @deserialize_inside _ message
      { fragment, place := place + 1, bytes := flags :: low :: high :: rest, offset := offset + 1,
        endianness, lastDataSize := 1 } none [flags] (low :: high :: rest) (by simp) rfl rfl
    have heven : (2 - (offset + 1 + 1) % 2) % 2 = 0 := by omega
    have hlength := @deserialize_inside _ message
      { fragment, place := place + 1 + 1, bytes := low :: high :: rest, offset := offset + 1 + 1,
        endianness, lastDataSize := 1 } (some .littleEndianness) [low, high] rest (by simp)
      heven rfl
    rw [if_pos (by simp [subheaderSize])]
    refine (Program.attempt_bind_of_ok _ ((hcall _ _).trans (congrArg _ hid))).trans ?_
    refine (Program.attempt_bind_of_ok _ ((hcall _ _).trans (congrArg _ hflags))).trans ?_
    refine (Program.attempt_bind_of_ok _ ((hcall _ _).trans (congrArg _ hlength))).trans ?_
    simp only [Option.map_some, Option.getD_some, decodeScalar_singleton, UInt8.ofNat_toNat]
    rfl

/-! ## The loop -/

/-- A byte that is deserialized. -/
theorem byte_onRest : (BufferOp.deserialize none 1).onRest message b =
    (fun (x, r) => (some x.toNat, { r with lastDataSize := 1 : RestBuffer })) <$>
      message.byte b.toRest := by
  have hpad : b.padding 1 = 0 := by
    rw [RestBuffer.padding, Rest.padding]
    split
    · exact Nat.mod_one _
    · rfl
  rw [onRest_deserialize none (by decide) hpad, FragmentedMessage.byte]
  cases htake : message.take 1 b.toRest with
  | error e => rfl
  | ok result =>
    obtain ⟨bs, r⟩ := result
    obtain ⟨byte, rfl⟩ := List.length_eq_one_iff.mp (FragmentedMessage.take_next htake).1
    dsimp only [Functor.map, Except.map]
    rw [decodeScalar_singleton]
    rfl

/-- The end of the handler of an INFO. -/
theorem activity_goes (activeSession : UInt8) (success : Bool) (b : RestBuffer)
    (cleanupFlag : Bool) :
    Goes ((do
        let optionalActivity ← Program.call (.buffer (.deserialize none 1))
        let success := success && optionalActivity.isSome
        if optionalActivity.getD 0 ≠ 0 then
          let kind ← Program.call (.buffer (.deserialize none 1))
          let success := success && kind.isSome
          if success && kind.getD 0 = objkAgent then
            let availability ← Program.call (.buffer (.deserialize none 2))
            let success := success && availability.isSome
            let available := 0 < availability.getD 0 ∧ availability.getD 0 < 32768
            Program.call (.emit (.pong
              (if success ∧ available then
                if activeSession ≠ 0 then pongInSessionStatus else pongNoSessionStatus
              else noPongStatus))) : Program ReadOp PUnit).attempt message.handle
        { buffer := b, outer := none, cleanupFlag })
      (message.activity success b.toRest) := by
  rw [Program.attempt_bind, attempt_call_buffer, byte_onRest, FragmentedMessage.activity]
  cases message.byte b.toRest with
  | error e => rfl
  | ok result =>
    obtain ⟨optionalActivity, r⟩ := result
    have hzero : (some optionalActivity.toNat).getD 0 ≠ 0 ↔ optionalActivity ≠ 0 := by
      rw [Ne, Ne, ← UInt8.toNat_inj]
      rfl
    dsimp only [Functor.map, Except.map]
    change Goes _ (if optionalActivity ≠ 0 then _ else _)
    by_cases hactivity : optionalActivity ≠ 0
    · rw [if_pos hactivity, if_pos (hzero.mpr hactivity), Program.attempt_bind,
        attempt_call_buffer, byte_onRest]
      dsimp only
      cases message.byte r with
      | error e => rfl
      | ok result =>
        obtain ⟨kind, r⟩ := result
        dsimp only [Functor.map, Except.map]
        change Goes _ (if success = true ∧ kind.toNat = objkAgent then _ else _)
        by_cases hagent : success = true ∧ kind.toNat = objkAgent
        · have hagent' : (success && (some optionalActivity.toNat).isSome &&
              (some kind.toNat).isSome && decide ((some kind.toNat).getD 0 = objkAgent)) = true := by
            simp [hagent]
          rw [if_pos hagent, if_pos hagent', Program.attempt_bind, attempt_call_buffer,
            BufferOp.onRest]
          have hpadding (r : Rest) :
              ({ r with lastDataSize := 1 } : RestBuffer).padding 2 = r.padding 2 := rfl
          rw [hpadding, FragmentedMessage.pass]
          dsimp only
          by_cases hpad : r.padding 2 ≤ r.bytes.length
          · have haligned : (({ r with lastDataSize := 1 } : RestBuffer).alignTo 2).toRest =
                r.alignTo 2 := rfl
            rw [if_pos hpad, if_pos ⟨by decide, hpad⟩, haligned]
            cases message.take 2 (r.alignTo 2) with
            | error e => rfl
            | ok result => exact ⟨_, _, _, rfl, .inl (show 2 < 4 by decide)⟩
          · rw [if_neg hpad, if_neg fun h => hpad h.2]
            rfl
        · have hagent' : ¬ (success && (some optionalActivity.toNat).isSome &&
              (some kind.toNat).isSome && decide ((some kind.toNat).getD 0 = objkAgent)) = true := by
            simpa using hagent
          rw [if_neg hagent, if_neg hagent']
          exact ⟨_, _, _, rfl, .inl (show 1 < 4 by decide)⟩
    · rw [if_neg hactivity, if_neg (fun h => hactivity (hzero.mp h))]
      exact ⟨_, _, _, rfl, .inl (show 1 < 4 by decide)⟩

/-- The handler of an INFO. -/
theorem readSubmessageInfo_goes (config : ReadConfig) (r : Rest) (haligned : r.offset % 4 = 0)
    (cleanupFlag : Bool) :
    Goes ((readSubmessageInfo config).attempt message.handle
        { buffer := { r with lastDataSize := 2 }, outer := none, cleanupFlag })
      (message.info config.deserializeObjectVariant r) := by
  have hread := @payload_onRest _ message { r with lastDataSize := 2 } _ _ _ _
    (deserializeBaseObjectReply_eq Uninitialized.zero.status)
    ((payloadFields (by simp)).packed r.offset haligned)
    (.inr (by simp [baseObjectReplyFields, FieldType.Unordered]))
  have hbuffer := @attempt_readBuffer _ message _
    (deserializeBaseObjectReply Uninitialized.zero.status)
    { buffer := { r with lastDataSize := 2 }, outer := none, cleanupFlag } (by simp)
  dsimp only at hbuffer
  rw [hread] at hbuffer
  have hsize : fieldsSize baseObjectReplyFields = 6 := rfl
  rw [readSubmessageInfo, Program.attempt_bind, hbuffer, FragmentedMessage.info,
    FragmentedMessage.pass, hsize]
  dsimp only
  cases htake : message.take 6 r with
  | error e => rfl
  | ok result =>
    obtain ⟨bytes, r⟩ := result
    obtain ⟨hlength, -⟩ := FragmentedMessage.take_next htake
    rcases bytes with
      _ | ⟨b₀, _ | ⟨b₁, _ | ⟨b₂, _ | ⟨b₃, _ | ⟨b₄, _ | ⟨b₅, _ | _⟩⟩⟩⟩⟩⟩ <;> cases hlength
    dsimp only [Functor.map, Except.map]
    rw [Program.attempt_bind, attempt_call_buffer, byte_onRest]
    change Goes _ (message.byte r >>= _)
    dsimp only
    cases message.byte r with
    | error e => rfl
    | ok result =>
      obtain ⟨optionalConfig, r⟩ := result
      have hzero : (some optionalConfig.toNat).getD 0 ≠ 0 ↔ optionalConfig ≠ 0 := by
        rw [Ne, Ne, ← UInt8.toNat_inj]
        rfl
      dsimp only [Functor.map, Except.map]
      change Goes _ (if optionalConfig ≠ 0 then _ else _)
      by_cases hconfig : optionalConfig ≠ 0
      · rw [if_pos hconfig, if_pos (hzero.mpr hconfig), Program.attempt_bind,
          attempt_readBuffer _ (by simp)]
        dsimp only
        cases config.deserializeObjectVariant.attempt (BufferOp.onRest message)
            { r with lastDataSize := 1 } with
        | error e => rfl
        | ok result => exact activity_goes _ _ result.2 _
      · rw [if_neg hconfig, if_neg (fun h => hconfig (hzero.mp h))]
        exact activity_goes _ _ { r with lastDataSize := 1 } _

/-- The handler of a submessage. -/
theorem readSubmessage_goes (config : ReadConfig) (streamId : StreamId) (header : SubmessageHeader)
    (r : Rest) (haligned : r.offset % 4 = 0) (cleanupFlag : Bool) :
    Goes ((readSubmessage config streamId header).attempt message.handle
        { buffer := { r with lastDataSize := 2 }, outer := none, cleanupFlag })
      (message.payload config streamId header r) := by
  have hpayload (hdata : header.id ≠ SubmessageId.data.value)
      (hinfo : header.id ≠ SubmessageId.info.value) :
      message.payload config streamId header r =
        message.pass (fieldsSize (handlerFields streamId header.id)) r := by
    rw [FragmentedMessage.payload, if_neg hdata, if_neg hinfo]
  have hnothing : Goes ((pure ⟨⟩ : Program ReadOp PUnit).attempt message.handle
      { buffer := { r with lastDataSize := 2 }, outer := none, cleanupFlag }) (message.pass 0 r) :=
    ⟨_, _, _, rfl, .inl (show 2 < 4 by decide)⟩
  -- the fields of a payload, and the effect of the submessage
  have hfields {α : Type} {program : Program BufferOp α} {f : List (Option Field) → α}
      {types : List FieldType} (hprogram : program = f <$> deserializeFields types)
      (htypes : types ∈ [statusAgentFields, baseObjectReplyFields, heartbeatFields, acknackFields,
        timestampReplyFields]) (effect : α → Effect) :=
    @fields_goes _ message r α program f types hprogram
      ((payloadFields htypes).packed r.offset haligned) haligned (payloadFields htypes).last
      cleanupFlag effect
  by_cases hstatusAgent : header.id = SubmessageId.statusAgent.value
  · rw [hpayload (by rw [hstatusAgent]; decide) (by rw [hstatusAgent]; decide),
      readSubmessage_statusAgent config streamId hstatusAgent, handlerFields, if_pos hstatusAgent]
    by_cases hnone : streamId.type = .noneStream
    · rw [if_pos hnone, if_pos hnone]
      exact hfields (deserializeStatusAgentPayload_eq config.uninitialized.statusAgent) (by simp)
        .createSessionStatus
    · rw [if_neg hnone, if_neg hnone]
      exact hnothing
  by_cases hstatus : header.id = SubmessageId.status.value
  · have htypes : handlerFields streamId header.id = baseObjectReplyFields := by
      rw [hstatus]
      rfl
    rw [hpayload (by rw [hstatus]; decide) (by rw [hstatus]; decide), htypes,
      readSubmessage_status config streamId hstatus]
    by_cases hnone : streamId.type = .noneStream
    · rw [if_pos hnone]
      exact hfields (deserializeBaseObjectReply_eq config.uninitialized.status) (by simp)
        fun reply => .deleteSessionStatus (uint16FromRaw reply.2.relatedRequest.requestId)
          reply.2.status reply.1
    · rw [if_neg hnone]
      exact hfields (deserializeBaseObjectReply_eq config.uninitialized.status) (by simp)
        fun reply => .status (objectIdFromRaw reply.2.relatedRequest.objectId)
          (uint16FromRaw reply.2.relatedRequest.requestId) reply.2.status
  by_cases hdata : header.id = SubmessageId.data.value
  · rw [readSubmessage_data config streamId hdata, FragmentedMessage.payload, if_pos hdata]
    exact readSubmessageData_goes config streamId header r cleanupFlag
  by_cases hheartbeat : header.id = SubmessageId.heartbeat.value
  · have htypes : handlerFields streamId header.id = heartbeatFields := by
      rw [hheartbeat]
      rfl
    rw [hpayload hdata (by rw [hheartbeat]; decide), htypes,
      readSubmessage_heartbeat config streamId hheartbeat]
    exact hfields (deserializeHeartbeatPayload_eq config.uninitialized.heartbeat) (by simp)
      .heartbeat
  by_cases hacknack : header.id = SubmessageId.acknack.value
  · have htypes : handlerFields streamId header.id = acknackFields := by
      rw [hacknack]
      rfl
    rw [hpayload hdata (by rw [hacknack]; decide), htypes,
      readSubmessage_acknack config streamId hacknack]
    exact hfields (deserializeAcknackPayload_eq config.uninitialized.acknack) (by simp)
      fun read => .acknack read.2 read.1
  by_cases htimestampReply : header.id = SubmessageId.timestampReply.value
  · have htypes : handlerFields streamId header.id = timestampReplyFields := by
      rw [htimestampReply]
      rfl
    rw [hpayload hdata (by rw [htimestampReply]; decide), htypes,
      readSubmessage_timestampReply config streamId htimestampReply]
    exact hfields (deserializeTimestampReplyPayload_eq config.uninitialized.timestampReply)
      (by simp) .timestampReply
  by_cases hgetInfo : header.id = SubmessageId.getInfo.value
  · have htypes : handlerFields streamId header.id = getInfoFields := by
      rw [hgetInfo]
      rfl
    have hpacked : Packed r.offset 2 getInfoFields := by
      have hbehind : (r.offset + 2 + 2) % 4 = 0 := by omega
      simp [getInfoFields, Packed, FieldType.PackedAt, FieldType.size, FieldType.last, hbehind]
    rw [hpayload hdata (by rw [hgetInfo]; decide), htypes,
      readSubmessage_getInfo config streamId hgetInfo]
    exact fields_goes (deserializeGetInfoPayload_eq .zero) hpacked haligned (.inr (by decide))
      cleanupFlag fun base => .getInfo base.requestId
  by_cases hinfo : header.id = SubmessageId.info.value
  · have hread : readSubmessage config streamId header = readSubmessageInfo config := by
      rw [readSubmessage, if_neg hstatusAgent, if_neg hstatus, if_neg hdata, if_neg hheartbeat,
        if_neg hacknack, if_neg htimestampReply, if_neg hgetInfo, if_pos hinfo]
    rw [hread, FragmentedMessage.payload, if_neg hdata, if_pos hinfo]
    exact readSubmessageInfo_goes config r haligned cleanupFlag
  · -- a submessage that the client does not know is not read
    have hread : readSubmessage config streamId header = pure ⟨⟩ := by
      rw [readSubmessage, if_neg hstatusAgent, if_neg hstatus, if_neg hdata, if_neg hheartbeat,
        if_neg hacknack, if_neg htimestampReply, if_neg hgetInfo, if_neg hinfo]
    have htypes : handlerFields streamId header.id = [] := by
      rw [handlerFields, if_neg hstatusAgent, if_neg hstatus, if_neg hheartbeat, if_neg hacknack,
        if_neg htimestampReply, if_neg hgetInfo]
    rw [hread, hpayload hdata hinfo, htypes]
    exact hnothing

/-- The reader takes the submessages, one after the other. -/
theorem readSubmessagesFrom_goes (config : ReadConfig) (streamId : StreamId) (fuel : Nat)
    (header : SubmessageHeader) (haligned : b.lastDataSize < 4 ∨ b.offset % 4 = 0)
    (cleanupFlag : Bool) :
    match message.extentFrom config streamId fuel b.toRest with
    | .error e => (readSubmessagesFrom config streamId fuel header).attempt message.handle
        { buffer := b, outer := none, cleanupFlag } = .error e
    | .ok _ => ∃ result, (readSubmessagesFrom config streamId fuel header).attempt message.handle
        { buffer := b, outer := none, cleanupFlag } = .ok result := by
  induction fuel generalizing b header cleanupFlag with
  | zero => exact ⟨_, rfl⟩
  | succ fuel ih =>
    have hheader := @readSubmessageHeader_rest _ message b header haligned cleanupFlag
    rw [FragmentedMessage.extentFrom, readSubmessagesFrom]
    cases hnext : b.toRest.header with
    | none =>
      rw [hnext] at hheader
      obtain ⟨b', hread⟩ := hheader
      rw [Program.attempt_bind_of_ok _ hread]
      exact ⟨_, rfl⟩
    | some next =>
      obtain ⟨found, r⟩ := next
      rw [hnext] at hheader
      dsimp only at hheader ⊢
      have hpayload := @readSubmessage_goes _ message config streamId found r
        (Rest.header_some hnext).1 cleanupFlag
      rw [Program.attempt_bind_of_ok _ hheader]
      dsimp only
      rw [if_pos rfl, Program.attempt_bind]
      cases htold : message.payload config streamId found r with
      | error e =>
        rw [htold] at hpayload
        rw [show _ = Except.error e from hpayload]
        rfl
      | ok r' =>
        rw [htold] at hpayload
        obtain ⟨a, last, flag, hread, haligned'⟩ := hpayload
        rw [hread]
        exact ih (b := { r' with lastDataSize := last }) found haligned' flag

end

end XrceClient
