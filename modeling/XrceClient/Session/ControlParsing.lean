import XrceClient.Session.ControlWriting
import XrceClient.Session.Dispatch

/-!
# Parsing the control messages

What a session writes by itself is read with the deserializers of the library: the header of
the message, the header of the submessage, and the payload.

- `ControlMessage`: the six messages, with the values that are sent.
- `ControlWellFormed`: the message parses as its header and one submessage, whose length is the
  length of its payload, and the payload decodes to the values.
- `controlMessage_split`, `controlMessage_fields`: the bytes of a message.
- `serializeCreateClientPayload_behind`: with properties there is more than sixteen bytes.
- `control_message_wellFormed_iff`: all of them are well formed but the answer to GET_INFO, and
  CREATE_CLIENT where it has properties.
-/

namespace XrceClient

open ByteMemory Program

/-! ## The messages and their values -/

/-- A message of the session layer, with what it says. -/
inductive ControlMessage where
  | createClient (profile : BuildProfile) (mtu : UInt16)
  | delete
  | heartbeat (payload : HeartbeatPayload)
  | acknack (payload : AcknackPayload)
  | timestamp (transmitTimestamp : Time)
  | info (requestId : List UInt8)

/-- The `DELETE_Payload` of a session (session_info.c:105–109). -/
def logoutRequest : BaseObjectRequest where
  requestId := [0, UInt8.ofNat requestLogout.toNat]
  objectId := objectIdClient

/-- The base of the answer to GET_INFO. -/
def infoReply (requestId : List UInt8) : BaseObjectReply where
  relatedRequest := { requestId, objectId := [0, 0] }
  status := 0
  implementationStatus := 0

namespace ControlMessage

def id : ControlMessage → SubmessageId
  | createClient _ _ => .createClient
  | delete => .delete
  | heartbeat _ => .heartbeat
  | acknack _ => .acknack
  | timestamp _ => .timestamp
  | info _ => .info

/-- The bytes that are sent. -/
def bytes [MicroCdr] (info : SessionInfo) : ControlMessage → List UInt8
  | createClient profile mtu => createSessionMessage profile info mtu
  | delete => deleteSessionMessage info
  | heartbeat payload => heartbeatMessage info payload
  | acknack payload => acknackMessage info payload
  | timestamp transmitTimestamp => timestampMessage info transmitTimestamp
  | .info requestId => infoMessage info requestId

/-- The session that the header names. -/
def sessionId (info : SessionInfo) : ControlMessage → UInt8
  | createClient _ _ => info.id &&& sessionIdWithoutClientKey
  | _ => info.id

/-- The values are of the types of the source. -/
def Fits : ControlMessage → Prop
  | acknack payload => payload.nackBitmap.length = 2
  | timestamp transmitTimestamp =>
    transmitTimestamp.seconds < 2 ^ 32 ∧ transmitTimestamp.nanoseconds < 2 ^ 32
  | info requestId => requestId.length = 2
  | _ => True

/-- The message has a submessage, and no properties. -/
def Plain : ControlMessage → Prop
  | createClient profile _ => profile.properties = []
  | info _ => False
  | _ => True

end ControlMessage

/-! ## Deserializers (`xrce_types.c`) -/

section

variable (deserializePropertySeq : Program BufferOp (Bool × List Property))
  (deserializeObjectVariant deserializeActivityInfoVariant : Program BufferOp Bool)

/-- `uxr_deserialize_CLIENT_Representation` (xrce_types.c:422–440), for any reading of the
properties. What cannot be read is left empty. -/
def deserializeClientRepresentation : Program BufferOp (Bool × ClientRepresentation) := do
  let xrceCookie ← call (.deserializeArray 4)
  let xrceVersion ← call (.deserializeArray 2)
  let xrceVendorId ← call (.deserializeArray 2)
  let clientKey ← call (.deserializeArray 4)
  let sessionId ← call (.deserialize none 1)
  let optionalProperties ← call (.deserialize none 1)
  let (ok, properties) ←
    if optionalProperties.getD 0 ≠ 0 then deserializePropertySeq else pure (true, [])
  let mtu ← call (.deserialize none 2)
  return (xrceCookie.isSome && xrceVersion.isSome && xrceVendorId.isSome && clientKey.isSome &&
      sessionId.isSome && optionalProperties.isSome && ok && mtu.isSome,
    { xrceCookie := xrceCookie.getD []
      xrceVersion := xrceVersion.getD []
      xrceVendorId := xrceVendorId.getD []
      clientKey := clientKey.getD []
      sessionId := UInt8.ofNat (sessionId.getD 0)
      optionalProperties := optionalProperties.getD 0 ≠ 0
      properties
      mtu := UInt16.ofNat (mtu.getD 0) })

/-- `uxr_deserialize_INFO_Payload` (xrce_types.c:2367–2375): the base, and whether there is a
configuration and an activity. -/
def deserializeInfoPayload : Program BufferOp (Bool × BaseObjectReply × Bool × Bool) := do
  let (ok₁, base) ← deserializeBaseObjectReply Uninitialized.zero.status
  let optionalConfig ← call (.deserialize none 1)
  let ok₂ ← if optionalConfig.getD 0 ≠ 0 then deserializeObjectVariant else pure true
  let optionalActivity ← call (.deserialize none 1)
  let ok₃ ← if optionalActivity.getD 0 ≠ 0 then deserializeActivityInfoVariant else pure true
  return (ok₁ && optionalConfig.isSome && ok₂ && optionalActivity.isSome && ok₃,
    base, optionalConfig.getD 0 ≠ 0, optionalActivity.getD 0 ≠ 0)

/-- A payload decodes to a value, and nothing of it is left. -/
def DecodesTo {α : Type} (program : Program BufferOp α) (value : α) (b : Block)
    (behind : List UInt8) : Prop :=
  ∃ b', program.attempt BufferOp.onBlock b = .ok (value, b') ∧ b'.bytes = behind

/-- The payload in a block decodes to what was sent, whatever is in the output. -/
def ControlMessage.DecodesFrom (info : SessionInfo) (b : Block) (behind : List UInt8) :
    ControlMessage → Prop
  | .createClient profile mtu =>
    DecodesTo (deserializeClientRepresentation deserializePropertySeq)
      (true, clientRepresentation profile info mtu) b behind
  | .delete => ∀ output, DecodesTo (deserializeBaseObjectRequest output) (true, logoutRequest) b behind
  | .heartbeat payload => ∀ output, DecodesTo (deserializeHeartbeatPayload output) payload b behind
  | .acknack payload => ∀ output, DecodesTo (deserializeAcknackPayload output) (true, payload) b behind
  | .timestamp transmitTimestamp =>
    ∀ output, DecodesTo (deserializeTime output) transmitTimestamp b behind
  | .info requestId =>
    DecodesTo (deserializeInfoPayload deserializeObjectVariant deserializeActivityInfoVariant)
      (true, infoReply requestId, false, false) b behind

/-- The message parses as a header of the session and a submessage, whose length is that of its
payload, and the payload decodes to what was sent. -/
def ControlWellFormed [MicroCdr] (info : SessionInfo) (message : ControlMessage) : Prop :=
  ∃ b submessage,
    deserializeMessageHeader.attempt BufferOp.onBlock (messageBlock (message.bytes info)) =
      .ok ((message.sessionId info, 0, 0,
        if sessionIdWithoutClientKey > message.sessionId info then info.key
        else List.replicate clientKeySize 0), b) ∧
    b.Before b.offset [submessage] ∧ b.offset % 4 = 0 ∧ WellFormed [submessage] ∧
    submessage.id = message.id.value ∧
    message.DecodesFrom deserializePropertySeq deserializeObjectVariant
      deserializeActivityInfoVariant info (submessage.block b.offset []) submessage.gap

end

/-! ## The header -/

section

variable [MicroCdr]

/-- The header of a control message is read from its bytes. -/
theorem deserializeControlHeader (sessionId : UInt8) {key : List UInt8}
    (hkey : key.length = clientKeySize) (rest : List UInt8) :
    ∃ last, deserializeMessageHeader.attempt BufferOp.onBlock
        (messageBlock (messageHeaderBytes sessionId 0 0 key ++ rest)) =
      .ok ((sessionId, 0, 0,
        if sessionIdWithoutClientKey > sessionId then key else List.replicate clientKeySize 0),
        { bytes := rest
          offset := (messageHeaderBytes sessionId 0 0 key).length
          lastDataSize := last
          endianness := machineEndianness
          failed := false }) := by
  obtain ⟨last, hread, -⟩ := deserializeMessageHeader_onBlock sessionId 0 0 0 hkey rest
  have hlength : (messageHeaderBytes sessionId 0 0 key).length =
      4 + (if sessionIdWithoutClientKey > sessionId then key else []).length := by
    rw [messageHeaderBytes, List.length_append]
    rfl
  rw [hlength]
  exact ⟨last, hread⟩

end

/-! ## The bytes of a message -/

section

variable [MicroCdr]

/-- The buffer of a message, behind the room for its header. -/
def controlBuffer (info : SessionInfo) (size : Nat) : UcdrBuffer where
  init := 0
  iterator := sessionHeaderOffset info
  final := size
  offset := sessionHeaderOffset info
  lastDataSize := 0
  endianness := machineEndianness
  error := false
  onFullBuffer := none

variable [LawfulMicroCdr]

theorem controlBuffer_eq (info : SessionInfo) (size : Nat) :
    ucdrInitBufferOriginOffset 0 size 0 (sessionHeaderOffset info) = controlBuffer info size := by
  rw [LawfulMicroCdr.init, Nat.zero_add, Nat.zero_add]
  rfl

/-- A message is its header and what was written behind. -/
theorem controlMessage_split {info : SessionInfo} {size : Nat}
    {contents : Memory → UcdrBuffer → Memory × UcdrBuffer} {stamp : Memory → Nat → Memory}
    {header : List UInt8} (hstamp : ∀ m, stamp m 0 = write m 0 header)
    (hlength : header.length = sessionHeaderOffset info) {m : Memory} {ub : UcdrBuffer}
    (hcontents : contents (fun _ => 0) (controlBuffer info size) = (m, ub)) (hinit : ub.init = 0)
    (hle : sessionHeaderOffset info ≤ ub.iterator) :
    controlMessage info size contents stamp =
      header ++ read m (sessionHeaderOffset info) (ub.iterator - sessionHeaderOffset info) := by
  obtain ⟨n, hn⟩ := Nat.exists_eq_add_of_le hle
  rw [controlMessage, controlBuffer_eq, hcontents]
  dsimp only
  rw [hinit, hstamp, Nat.sub_zero, hn, Nat.add_sub_cancel_left, ← hlength, read_append,
    read_write_self, Nat.zero_add, read_write_disjoint m (.inr (Nat.le_of_eq (Nat.zero_add _)))]

omit [MicroCdr] [LawfulMicroCdr] in
theorem sessionHeaderOffset_cases (info : SessionInfo) :
    sessionHeaderOffset info = 8 ∨ sessionHeaderOffset info = 4 := by
  rw [sessionHeaderOffset]
  split
  · exact .inl rfl
  · exact .inr rfl

/-- The buffer behind the header of a submessage. -/
theorem controlBuffer_submessage (info : SessionInfo) {size : Nat} (id : UInt8) (length : UInt16)
    (hsize : sessionHeaderOffset info + 4 ≤ size) (m : Memory) :
    (bufferSubmessageHeader Device.plain m (controlBuffer info size) id length 0).2 =
      (write m (sessionHeaderOffset info) (submessageHeaderBytes id length 0),
        { controlBuffer info size with
          iterator := sessionHeaderOffset info + 4
          offset := sessionHeaderOffset info + 4
          lastDataSize := 2 }) := by
  have haligned : sessionHeaderOffset info % 4 = 0 := by
    rcases sessionHeaderOffset_cases info with h | h <;> rw [h]
  have hpad : (controlBuffer info size).padding 4 = 0 := padding_eq_zero fun _ => haligned
  have hput := bufferSubmessageHeader_put m (controlBuffer info size) id length 0 rfl
    (by rw [hpad]; exact hsize) (by rw [hpad]; exact haligned)
  rw [hpad] at hput
  exact hput

/-- A message whose payload are fields without padding. -/
theorem controlMessage_fields {info : SessionInfo} {size : Nat} {stamp : Memory → Nat → Memory}
    {header : List UInt8} (hstamp : ∀ m, stamp m 0 = write m 0 header)
    (hlength : header.length = sessionHeaderOffset info) (id : UInt8) (length : UInt16)
    {serialize : Memory → UcdrBuffer → Bool × Memory × UcdrBuffer} {fields : List Field}
    (hserialize : ∀ m ub, (serialize m ub).2 = (serializeFields Device.plain m ub fields).2)
    (hpacked : ∀ offset, offset % 4 = 0 → Packed offset 2 (fields.map Field.type))
    (hsize : maxHeaderSize + subheaderSize + fieldsSize (fields.map Field.type) ≤ size) :
    controlMessage info size
        (fun buffer ub =>
          let (_, buffer, ub) := bufferSubmessageHeader Device.plain buffer ub id length 0
          (serialize buffer ub).2) stamp =
      header ++ (submessageHeaderBytes id length 0 ++ encodeFields machineEndianness fields) := by
  rw [show maxHeaderSize = 8 from rfl, subheaderSize] at hsize
  have hoffset := sessionHeaderOffset_cases info
  have hheader := @controlBuffer_submessage _ _ info size id length (by omega) fun _ => 0
  have hfields := @serializeFields_plain _ _ fields
    (write (fun _ => 0) (sessionHeaderOffset info) (submessageHeaderBytes id length 0))
    { controlBuffer info size with
      iterator := sessionHeaderOffset info + 4
      offset := sessionHeaderOffset info + 4
      lastDataSize := 2 } rfl
    (hpacked (sessionHeaderOffset info + 4) (by omega))
    (show sessionHeaderOffset info + 4 + fieldsSize (fields.map Field.type) ≤ size by omega)
  refine (controlMessage_split hstamp hlength (Eq.trans ?_ (congrArg Prod.snd hfields)) rfl
    (show sessionHeaderOffset info ≤ sessionHeaderOffset info + 4 +
      fieldsSize (fields.map Field.type) by omega)).trans ?_
  · rw [← hserialize]
    exact congrArg (fun t : Memory × UcdrBuffer => (serialize t.1 t.2).2) hheader
  · have hsum : sessionHeaderOffset info + 4 + fieldsSize (fields.map Field.type) -
        sessionHeaderOffset info = (submessageHeaderBytes id length 0 ++
          encodeFields machineEndianness fields).length := by
      rw [List.length_append, submessageHeaderBytes_length, encodeFields_length]
      omega
    dsimp only
    rw [hsum, show sessionHeaderOffset info + 4 = sessionHeaderOffset info +
      (submessageHeaderBytes id length 0).length by rw [submessageHeaderBytes_length],
      show (controlBuffer info size).endianness = machineEndianness from rfl, ← write_append,
      read_write_self]

/-- The submessage with a header and fields for a payload. -/
def controlSubmessage (id : UInt8) (fields : List Field)
    (hlength : fieldsSize (fields.map Field.type) < 65536) : Submessage where
  id
  flags := machineEndianness.value
  payload := encodeFields machineEndianness fields
  gap := []
  length_lt := by rw [encodeFields_length]; exact hlength

omit [LawfulMicroCdr] in
theorem controlSubmessage_bytes (id : UInt8) {fields : List Field} {length : UInt16}
    (hlt : fieldsSize (fields.map Field.type) < 65536)
    (hlength : length.toNat = fieldsSize (fields.map Field.type)) :
    submessageHeaderBytes id length 0 ++ encodeFields machineEndianness fields =
      (controlSubmessage id fields hlt).bytes := by
  rw [submessageHeaderBytes, encodeScalar_singleton, encodeScalar_singleton, UInt8.zero_or, hlength,
    Submessage.bytes, Submessage.low, Submessage.high, controlSubmessage, encodeFields_length,
    List.append_nil]
  rfl

omit [LawfulMicroCdr] in
@[simp] theorem flagsEndianness_value : flagsEndianness machineEndianness.value = machineEndianness := by
  cases machineEndianness <;> rfl

omit [MicroCdr] [LawfulMicroCdr] in
/-- A payload that is all fields without padding decodes to them. -/
theorem decodesTo_fields {α : Type} {program : Program BufferOp α} {f : List (Option Field) → α}
    {fields : List Field} {b : Block} {rest : List UInt8}
    (hprogram : program = f <$> deserializeFields (fields.map Field.type))
    (hfits : ∀ field ∈ fields, field.Fits) (hok : b.failed = false)
    (hpacked : Packed b.offset b.lastDataSize (fields.map Field.type))
    (hbytes : b.bytes = encodeFields b.endianness fields ++ rest) :
    DecodesTo program (f (fields.map some)) b rest := by
  have hroom : fieldsSize (fields.map Field.type) ≤ b.bytes.length := by
    rw [hbytes, List.length_append, encodeFields_length]
    exact Nat.le_add_right _ _
  have hread := attempt_map f (deserializeFields_onBlock hok hpacked hroom)
  rw [hbytes, decodeFields_encodeFields _ hfits] at hread
  refine ⟨_, hprogram ▸ hread, ?_⟩
  rw [Block.behind, hbytes, ← encodeFields_length b.endianness, List.drop_left]

end

/-! ## The messages that are well formed -/

section

variable [MicroCdr]

omit [MicroCdr] in
theorem controlHeader_length {info : SessionInfo} (hkey : info.key.length = clientKeySize)
    (message : ControlMessage) :
    (messageHeaderBytes (message.sessionId info) 0 0 info.key).length =
      sessionHeaderOffset info := by
  have hclient : (messageHeaderBytes (info.id &&& sessionIdWithoutClientKey) 0 0 info.key).length =
      sessionHeaderOffset info := by
    have hall : ∀ b : BitVec 8, 128 > (b &&& 128) ↔ 128 > b := by decide
    have hkeyed : sessionIdWithoutClientKey > (info.id &&& sessionIdWithoutClientKey) ↔
        sessionIdWithoutClientKey > info.id := hall info.id.toBitVec
    rw [← messageHeaderBytes_length hkey 0 0, messageHeaderBytes, messageHeaderBytes,
      if_congr hkeyed rfl rfl]
    rfl
  cases message with
  | createClient profile mtu => exact hclient
  | delete => exact messageHeaderBytes_length hkey 0 0
  | heartbeat payload => exact messageHeaderBytes_length hkey 0 0
  | acknack payload => exact messageHeaderBytes_length hkey 0 0
  | timestamp transmitTimestamp => exact messageHeaderBytes_length hkey 0 0
  | info requestId => exact messageHeaderBytes_length hkey 0 0

/-- What is behind the header of a message. -/
def controlBlock (info : SessionInfo) (last : Nat) (bytes : List UInt8) : Block where
  bytes
  offset := sessionHeaderOffset info
  lastDataSize := last
  endianness := machineEndianness
  failed := false

theorem controlBlock_before (info : SessionInfo) {last : Nat} {bytes : List UInt8}
    (submessages : List Submessage) :
    (controlBlock info last bytes).Before (sessionHeaderOffset info) submessages ↔
      bytes = messageBytes submessages := by
  have haligned : sessionHeaderOffset info % 4 = 0 := by
    rcases sessionHeaderOffset_cases info with h | h <;> rw [h]
  have hpad : (controlBlock info last bytes).padding 4 = 0 :=
    Block.padding_eq_zero fun _ => .inl haligned
  constructor
  · intro hbefore
    have hbytes := hbefore.bytes
    rw [hpad, List.drop_zero] at hbytes
    exact hbytes
  · intro hbytes
    refine ⟨?_, fun _ => ⟨rfl, ?_, haligned⟩⟩
    · rw [hpad, List.drop_zero]
      exact hbytes
    · rw [hpad]
      rfl

variable {deserializePropertySeq : Program BufferOp (Bool × List Property)}
  {deserializeObjectVariant deserializeActivityInfoVariant : Program BufferOp Bool}

/-- A message of which the bytes behind the header are known. -/
theorem controlWellFormed_iff {info : SessionInfo} (hkey : info.key.length = clientKeySize)
    {message : ControlMessage} {behind : List UInt8}
    (hbytes : message.bytes info =
      messageHeaderBytes (message.sessionId info) 0 0 info.key ++ behind) :
    ControlWellFormed deserializePropertySeq deserializeObjectVariant
        deserializeActivityInfoVariant info message ↔
      ∃ submessage : Submessage, behind = submessage.bytes ∧ WellFormed [submessage] ∧
        submessage.id = message.id.value ∧
        message.DecodesFrom deserializePropertySeq deserializeObjectVariant
          deserializeActivityInfoVariant info
          (submessage.block (sessionHeaderOffset info) []) submessage.gap := by
  obtain ⟨last, hread⟩ := deserializeControlHeader (message.sessionId info) hkey behind
  rw [← hbytes, controlHeader_length hkey message] at hread
  have hmessage (submessage : Submessage) : messageBytes [submessage] = submessage.bytes :=
    List.append_nil _
  constructor
  · rintro ⟨b, submessage, hread', hbefore, -, hwell, hid, hdecodes⟩
    obtain ⟨-, rfl⟩ := Prod.mk.inj (Except.ok.inj (hread.symm.trans hread'))
    have hbehind := (controlBlock_before info [submessage]).mp hbefore
    exact ⟨submessage, hbehind.trans (hmessage submessage), hwell, hid, hdecodes⟩
  · rintro ⟨submessage, hbehind, hwell, hid, hdecodes⟩
    refine ⟨_, submessage, hread, ?_, ?_, hwell, hid, hdecodes⟩
    · exact (controlBlock_before info [submessage]).mpr (hbehind.trans (hmessage submessage).symm)
    · show sessionHeaderOffset info % 4 = 0
      rcases sessionHeaderOffset_cases info with h | h <;> rw [h]

variable [LawfulMicroCdr]

/-- A message whose submessage has the length of its fields. -/
theorem controlWellFormed_of_fields {info : SessionInfo} (hkey : info.key.length = clientKeySize)
    (message : ControlMessage) (size : Nat) (length : UInt16) (fields : List Field)
    {serialize : Memory → UcdrBuffer → Bool × Memory × UcdrBuffer} {stamp : Memory → Nat → Memory}
    (hbytes : message.bytes info = controlMessage info size
      (fun buffer ub =>
        let (_, buffer, ub) :=
          bufferSubmessageHeader Device.plain buffer ub message.id.value length 0
        (serialize buffer ub).2) stamp)
    (hstamp : ∀ m, stamp m 0 = write m 0 (messageHeaderBytes (message.sessionId info) 0 0 info.key))
    (hserialize : ∀ m ub, (serialize m ub).2 = (serializeFields Device.plain m ub fields).2)
    (hlength : length.toNat = fieldsSize (fields.map Field.type))
    (hsize : maxHeaderSize + subheaderSize + length.toNat ≤ size)
    (hpacked : ∀ offset, offset % 4 = 0 → Packed offset 2 (fields.map Field.type))
    (hdecodes : ∀ b : Block, b.failed = false →
      Packed b.offset b.lastDataSize (fields.map Field.type) →
      b.bytes = encodeFields b.endianness fields ++ [] →
      message.DecodesFrom deserializePropertySeq deserializeObjectVariant
        deserializeActivityInfoVariant info b []) :
    ControlWellFormed deserializePropertySeq deserializeObjectVariant
      deserializeActivityInfoVariant info message := by
  have hlt : fieldsSize (fields.map Field.type) < 65536 := hlength ▸ length.toNat_lt
  have haligned : (sessionHeaderOffset info + 4) % 4 = 0 := by
    rcases sessionHeaderOffset_cases info with h | h <;> rw [h]
  refine (controlWellFormed_iff hkey (hbytes.trans (controlMessage_fields hstamp
    (controlHeader_length hkey message) message.id.value length hserialize hpacked
    (hlength ▸ hsize)))).mpr ⟨controlSubmessage message.id.value fields hlt,
      controlSubmessage_bytes _ hlt hlength, Nat.zero_le _, rfl, hdecodes _ rfl ?_ ?_⟩
  · exact hpacked _ haligned
  · rw [Submessage.block, controlSubmessage, flagsEndianness_value]
    exact List.append_nil _

/-! ## The payloads that are sent -/

theorem delete_wellFormed {info : SessionInfo} (hkey : info.key.length = clientKeySize) :
    ControlWellFormed deserializePropertySeq deserializeObjectVariant
      deserializeActivityInfoVariant info .delete := by
  refine controlWellFormed_of_fields hkey _ deleteSessionMaxMsgSize deleteClientPayloadSize
    logoutRequest.fields rfl (stampSessionHeader_plain info hkey 0 0 · 0) (fun _ _ => rfl) rfl
    (by decide) ?_ ?_
  · intro offset haligned
    exact ⟨trivial, trivial, trivial⟩
  · intro b hok hpacked hbytes output
    refine decodesTo_fields (deserializeBaseObjectRequest_eq output) ?_ hok hpacked hbytes
    simp [BaseObjectRequest.fields, Field.Fits]

theorem heartbeat_wellFormed {info : SessionInfo} (hkey : info.key.length = clientKeySize)
    (payload : HeartbeatPayload) :
    ControlWellFormed deserializePropertySeq deserializeObjectVariant
      deserializeActivityInfoVariant info (.heartbeat payload) := by
  refine controlWellFormed_of_fields hkey _ heartbeatMaxMsgSize heartbeatPayloadSize
    payload.fields rfl (stampSessionHeader_plain info hkey 0 0 · 0) (fun _ _ => rfl) rfl
    (by decide) ?_ ?_
  · intro offset haligned
    exact (@payloadFields heartbeatFields (by simp)).packed offset haligned
  · intro b hok hpacked hbytes output
    have hfits : ∀ field ∈ payload.fields, field.Fits := by
      simp [HeartbeatPayload.fields, Field.Fits, payload.firstUnackedSeqNr.toNat_lt,
        payload.lastUnackedSeqNr.toNat_lt, payload.streamId.toNat_lt]
    have hdecodes := decodesTo_fields (deserializeHeartbeatPayload_eq output) hfits hok hpacked
      hbytes
    simpa [HeartbeatPayload.fields, HeartbeatPayload.ofFields, scalarAt] using hdecodes

theorem acknack_wellFormed {info : SessionInfo} (hkey : info.key.length = clientKeySize)
    {payload : AcknackPayload} (hbitmap : payload.nackBitmap.length = 2) :
    ControlWellFormed deserializePropertySeq deserializeObjectVariant
      deserializeActivityInfoVariant info (.acknack payload) := by
  have htypes : payload.fields.map Field.type = acknackFields := by
    simp [AcknackPayload.fields, Field.type, acknackFields, hbitmap]
  refine controlWellFormed_of_fields hkey _ acknackMaxMsgSize acknackPayloadSize
    payload.fields rfl (stampSessionHeader_plain info hkey 0 0 · 0) (fun _ _ => rfl)
    (by rw [htypes]; rfl) (by decide) ?_ ?_
  · intro offset haligned
    rw [htypes]
    exact (@payloadFields acknackFields (by simp)).packed offset haligned
  · intro b hok hpacked hbytes output
    have hfits : ∀ field ∈ payload.fields, field.Fits := by
      simp [AcknackPayload.fields, Field.Fits, payload.firstUnackedSeqNum.toNat_lt,
        payload.streamId.toNat_lt]
    have hdecodes := decodesTo_fields (htypes ▸ deserializeAcknackPayload_eq output) hfits hok
      hpacked hbytes
    simpa [AcknackPayload.fields, AcknackPayload.ofFields, scalarAt, arrayAt] using hdecodes

omit [MicroCdr] [LawfulMicroCdr] in
theorem deserializeTime_eq (output : Time) :
    deserializeTime output =
      (fun fields => Time.ofFields output fields 0) <$> deserializeFields [.scalar 4, .scalar 4] := by
  refine step_congr fun seconds => step_congr fun nanoseconds => congrArg Program.done ?_
  simp [Time.ofFields]

theorem timestamp_wellFormed {info : SessionInfo} (hkey : info.key.length = clientKeySize)
    {transmitTimestamp : Time} (hseconds : transmitTimestamp.seconds < 2 ^ 32)
    (hnanoseconds : transmitTimestamp.nanoseconds < 2 ^ 32) :
    ControlWellFormed deserializePropertySeq deserializeObjectVariant
      deserializeActivityInfoVariant info (.timestamp transmitTimestamp) := by
  refine controlWellFormed_of_fields hkey _ timestampMaxMsgSize timestampPayloadSize
    transmitTimestamp.fields rfl (stampSessionHeader_plain info hkey 0 0 · 0) (fun _ _ => rfl) rfl
    (by decide) ?_ ?_
  · intro offset haligned
    simp [Time.fields, Field.type, Packed, FieldType.PackedAt, FieldType.size, FieldType.last,
      haligned]
  · intro b hok hpacked hbytes output
    have hfits : ∀ field ∈ transmitTimestamp.fields, field.Fits := by
      simpa [Time.fields, Field.Fits] using ⟨hseconds, hnanoseconds⟩
    have hdecodes := decodesTo_fields (deserializeTime_eq output) hfits hok hpacked hbytes
    simpa [Time.fields, Time.ofFields, scalarAt] using hdecodes

/-- The payload of CREATE_CLIENT, where it has no properties. -/
def ClientRepresentation.fields (representation : ClientRepresentation) : List Field :=
  [.array representation.xrceCookie, .array representation.xrceVersion,
    .array representation.xrceVendorId, .array representation.clientKey,
    .scalar 1 representation.sessionId.toNat, .scalar 1 0, .scalar 2 representation.mtu.toNat]

omit [MicroCdr] [LawfulMicroCdr] in
theorem attempt_array {α : Type} {b : Block} {front rest : List UInt8} {n : Nat}
    {f : Option (List UInt8) → Program BufferOp α} {result : Except Unit (α × Block)}
    (hok : b.failed = false) (hbytes : b.bytes = front ++ rest) (hlength : front.length = n)
    (hnext : (f (some front)).attempt BufferOp.onBlock
      { b with bytes := rest, offset := b.offset + n, lastDataSize := 1 } = result) :
    (call (.deserializeArray n) >>= f).attempt BufferOp.onBlock b = result := by
  subst hlength
  exact (Program.attempt_bind_of_ok _
    ((Program.attempt_call _ _ _).trans (onBlock_deserializeArray hok hbytes))).trans hnext

omit [MicroCdr] [LawfulMicroCdr] in
theorem attempt_scalar {α : Type} {b : Block} {rest : List UInt8} {width value : Nat}
    {f : Option Nat → Program BufferOp α} {result : Except Unit (α × Block)}
    (hok : b.failed = false) (hwidth : width ∈ [1, 2, 4, 8]) (hpad : b.padding width = 0)
    (hbytes : b.bytes = encodeScalar b.endianness width value ++ rest)
    (hfits : value < 256 ^ width)
    (hnext : (f (some value)).attempt BufferOp.onBlock (b.next width rest) = result) :
    (call (.deserialize none width) >>= f).attempt BufferOp.onBlock b = result := by
  have hlength := encodeScalar_length b.endianness width value
  have hread := onBlock_deserialize none (by rw [hlength]; exact hwidth) hok
    (by rw [hlength]; exact hpad) hbytes
  rw [hlength, Option.getD_none, decodeScalar_encodeScalar _ hfits] at hread
  exact (Program.attempt_bind_of_ok _ ((Program.attempt_call _ _ _).trans hread)).trans hnext

omit [MicroCdr] [LawfulMicroCdr] in
/-- Without properties, the representation of a client is its fields. -/
theorem deserializeClientRepresentation_plain {info : SessionInfo} {mtu : UInt16}
    (hkey : info.key.length = clientKeySize) {b : Block} (hok : b.failed = false)
    (haligned : b.offset % 2 = 0)
    (hbytes : b.bytes = encodeFields b.endianness
      (clientRepresentation ⟨false, none⟩ info mtu).fields ++ []) :
    DecodesTo (deserializeClientRepresentation deserializePropertySeq)
      (true, clientRepresentation ⟨false, none⟩ info mtu) b [] := by
  obtain ⟨bytes, offset, last, e, failed⟩ := b
  dsimp only at hok haligned hbytes
  have hfields : bytes = [0x58, 0x52, 0x43, 0x45] ++ ([0x01, 0x00] ++ ([0x01, 0x0F] ++ (info.key ++
      (encodeScalar e 1 info.id.toNat ++ (encodeScalar e 1 0 ++
        (encodeScalar e 2 mtu.toNat ++ [])))))) := by
    rw [hbytes]
    simp [encodeFields, ClientRepresentation.fields, clientRepresentation, Field.encode]
  subst hok hfields
  refine ⟨⟨[], offset + 16, 2, e, false⟩, ?_, rfl⟩
  -- the six fields in front of the properties, which are not there
  refine attempt_array rfl rfl rfl ?_
  refine attempt_array rfl rfl rfl ?_
  refine attempt_array rfl rfl rfl ?_
  refine attempt_array rfl rfl hkey ?_
  refine attempt_scalar rfl (by simp) (Block.padding_eq_zero fun _ => .inl (Nat.mod_one _)) rfl
    info.id.toNat_lt ?_
  refine attempt_scalar rfl (by simp) (Block.padding_eq_zero fun _ => .inl (Nat.mod_one _)) rfl
    (by decide) ?_
  refine (Program.attempt_bind_of_ok _ rfl).trans ?_
  refine attempt_scalar rfl (by simp) ?_ rfl mtu.toNat_lt ?_
  · refine Block.padding_eq_zero fun _ => .inl ?_
    show (offset + 4 + 2 + 2 + 4 + 1 + 1) % 2 = 0
    omega
  · simp only [Option.getD_some, UInt8.ofNat_toNat, UInt16.ofNat_toNat]
    rfl

theorem createClient_wellFormed {info : SessionInfo} (hkey : info.key.length = clientKeySize)
    {profile : BuildProfile} (hnone : profile.properties = []) (mtu : UInt16) :
    ControlWellFormed deserializePropertySeq deserializeObjectVariant
      deserializeActivityInfoVariant info (.createClient profile mtu) := by
  obtain rfl : profile = ⟨false, none⟩ := by
    obtain ⟨sharedMemory, timeout⟩ := profile
    cases sharedMemory <;> cases timeout <;> simp [BuildProfile.properties] at hnone ⊢
  have htypes : (clientRepresentation ⟨false, none⟩ info mtu).fields.map Field.type =
      [.array 4, .array 2, .array 2, .array 4, .scalar 1, .scalar 1, .scalar 2] := by
    simp [ClientRepresentation.fields, clientRepresentation, Field.type, hkey, clientKeySize]
  refine controlWellFormed_of_fields hkey _ (createSessionMaxMsgSize ⟨false, none⟩)
    createClientPayloadSize (clientRepresentation ⟨false, none⟩ info mtu).fields rfl
    (serializeMessageHeader_plain · 0 _ 0 0 hkey) (fun _ _ => rfl) (by rw [htypes]; rfl) (by decide)
    ?_ ?_
  · intro offset haligned
    have heven : (offset + 4 + 2 + 2 + 4 + 1 + 1) % 2 = 0 := by omega
    rw [htypes]
    simp [Packed, FieldType.PackedAt, FieldType.size, FieldType.last, heven]
  · intro b hok hpacked hbytes
    rw [htypes] at hpacked
    have heven : (b.offset + 4 + 2 + 2 + 4 + 1 + 1) % 2 = 0 :=
      hpacked.2.2.2.2.2.2.1.2 (show 1 < 2 by decide)
    exact deserializeClientRepresentation_plain hkey hok (by omega) hbytes

end

/-! ## The messages that are not -/

section

variable [MicroCdr] [StickyMicroCdr]

/-- The fields of an answer to GET_INFO. -/
def infoFields (requestId : List UInt8) : List Field :=
  [.array requestId, .array [0, 0], .scalar 1 0, .scalar 1 0, .scalar 1 0, .scalar 1 0]

/-- No more than four bytes come behind what a reader of the answer to GET_INFO takes for the
header of a submessage. -/
theorem infoMessage_short {info : SessionInfo} (hkey : info.key.length = clientKeySize)
    (requestId : List UInt8) :
    ∃ behind, (ControlMessage.info requestId).bytes info =
        messageHeaderBytes ((ControlMessage.info requestId).sessionId info) 0 0 info.key ++ behind ∧
      behind.length ≤ 8 := by
  obtain ⟨ub, hub⟩ : ∃ ub, ub = controlBuffer info 12 := ⟨_, rfl⟩
  have hoffset := sessionHeaderOffset_cases info
  have hforward : Forward (fun _ => 0) ub
      (serializeInfoPayload Device.plain (fun _ => 0) ub { requestId, objectId := [0, 0] }).2 := by
    refine @serializeFields_forward _ _ (infoFields requestId) ?_ _ _ ?_
    · simp [infoFields, Field.type]
    · rw [hub]
      show sessionHeaderOffset info ≤ 12
      omega
  obtain ⟨t, ht⟩ : ∃ t, t =
      (serializeInfoPayload Device.plain (fun _ => 0) ub { requestId, objectId := [0, 0] }).2 :=
    ⟨_, rfl⟩
  rw [← ht] at hforward
  have hbound := hforward.bound
  have hfinal := hforward.final
  rw [hub] at hfinal
  have hle : sessionHeaderOffset info ≤ t.2.iterator := by
    have hforward_le := hforward.le
    rw [hub] at hforward_le
    exact hforward_le
  have hsplit := @controlMessage_split _ _ info 12
    (fun buffer ub => (serializeInfoPayload Device.plain buffer ub
      { requestId, objectId := [0, 0] }).2)
    (stampControlHeader info) _ (stampSessionHeader_plain info hkey 0 0 · 0)
    (messageHeaderBytes_length hkey 0 0) t.1 t.2 (by rw [ht, hub])
    (hforward.init.trans (by rw [hub]; rfl)) hle
  refine ⟨_, hsplit, ?_⟩
  rw [read_length]
  have hsize : t.2.final = 12 := hfinal
  omega

omit [MicroCdr] [StickyMicroCdr] in
theorem baseObjectReply_short (e : Endianness) {bytes : List UInt8} (hshort : bytes.length < 6) :
    scalarAt (decodeFields e baseObjectReplyFields bytes) 3 = none := by
  simp only [baseObjectReplyFields, decodeFields, FieldType.size, List.length_drop]
  split
  · split
    · split
      · rw [if_neg (by omega)]
        rfl
      · rfl
    · rfl
  · rfl

omit [MicroCdr] [StickyMicroCdr] in
/-- A payload of less than six bytes has no base of a reply. -/
theorem not_decodesTo_info {deserializeObjectVariant deserializeActivityInfoVariant : Program BufferOp Bool}
    {value : BaseObjectReply × Bool × Bool} {b : Block} {behind : List UInt8}
    (hok : b.failed = false) (hpacked : Packed b.offset b.lastDataSize baseObjectReplyFields)
    (hshort : b.bytes.length < 6) :
    ¬ DecodesTo (deserializeInfoPayload deserializeObjectVariant deserializeActivityInfoVariant)
      (true, value) b behind := by
  rintro ⟨b', hread, -⟩
  obtain ⟨b₁, hfields, -⟩ := deserializeFields_cut hok hpacked (payloadFields (by simp)).calm hshort
  have hbase := attempt_map (fun fields => ((arrayAt fields 0).isSome && (arrayAt fields 1).isSome &&
    (scalarAt fields 2).isSome && (scalarAt fields 3).isSome,
      BaseObjectReply.ofFields Uninitialized.zero.status fields)) hfields
  rw [← deserializeBaseObjectReply_eq, baseObjectReply_short _ hshort, Option.isSome_none,
    Bool.and_false] at hbase
  rw [deserializeInfoPayload, Program.attempt_bind_of_ok _ hbase] at hread
  obtain ⟨config, b₂, -, hread⟩ := attempt_bind_ok _ hread
  dsimp only at hread
  split at hread <;> obtain ⟨ok₂, b₃, -, hread⟩ := attempt_bind_ok _ hread <;>
    obtain ⟨activity, b₄, -, hread⟩ := attempt_bind_ok _ hread <;>
    split at hread <;> obtain ⟨ok₃, b₅, -, hread⟩ := attempt_bind_ok _ hread <;>
    exact absurd (congrArg (·.1.1) (Except.ok.inj hread)) (by simp)

/-- The answer to GET_INFO has no header of a submessage. -/
theorem info_not_wellFormed {deserializePropertySeq : Program BufferOp (Bool × List Property)}
    {deserializeObjectVariant deserializeActivityInfoVariant : Program BufferOp Bool}
    {info : SessionInfo} (hkey : info.key.length = clientKeySize) (requestId : List UInt8) :
    ¬ ControlWellFormed deserializePropertySeq deserializeObjectVariant
      deserializeActivityInfoVariant info (.info requestId) := by
  obtain ⟨behind, hbytes, hshort⟩ := infoMessage_short hkey requestId
  rw [controlWellFormed_iff hkey hbytes]
  rintro ⟨submessage, rfl, -, -, hdecodes⟩
  rw [ControlMessage.DecodesFrom] at hdecodes
  have haligned : (sessionHeaderOffset info + 4) % 4 = 0 := by
    rcases sessionHeaderOffset_cases info with h | h <;> rw [h]
  refine not_decodesTo_info rfl ((payloadFields (by simp)).packed _ haligned) ?_ hdecodes
  simp only [Submessage.bytes, Submessage.block, messageBytes, List.length_cons, List.length_append,
    List.flatMap_nil, List.length_nil] at hshort ⊢
  omega

/-! ## Properties -/

omit [StickyMicroCdr] in
/-- An integer that needs padding goes behind it. -/
theorem serialize_behind [LawfulMicroCdr] (m : Memory) {ub : UcdrBuffer} (e : Endianness)
    {k : Nat} (v : Nat) (hk : k ∈ [1, 2, 4, 8]) (hok : ub.error = false)
    (hroom : ub.iterator + ub.padding k + k ≤ ub.final) :
    (ucdrSerialize Device.plain m ub e k v).1 = true ∧
      (ucdrSerialize Device.plain m ub e k v).2.2.iterator = ub.iterator + ub.padding k + k := by
  have halign := LawfulMicroCdr.alignTo ub k hk (by omega)
  rw [Nat.min_eq_left (by omega)] at halign
  have hput := puts_plain (encodeScalar e k v) m (ucdrAlignTo ub k) (by rw [halign]; exact hok)
    (by rw [halign, encodeScalar_length]; exact hroom)
  rw [LawfulMicroCdr.serialize e hk (by omega) hput, halign, encodeScalar_length]
  exact ⟨rfl, rfl⟩

/-- A property is its four fields. -/
def Property.fields (property : Property) : List Field :=
  [.scalar 4 (property.name.length + 1), .array (property.name ++ [0]),
    .scalar 4 (property.value.length + 1), .array (property.value ++ [0])]

theorem serializeProperties_forward (properties : List Property) {m : Memory} {ub : UcdrBuffer}
    (hle : ub.iterator ≤ ub.final) :
    Forward m ub (serializeProperties Device.plain properties m ub).2 := by
  induction properties generalizing m ub with
  | nil => exact .refl hle
  | cons property properties ih =>
    have hproperty : Forward m ub (serializeProperty Device.plain m ub property).2 :=
      @serializeFields_forward _ _ property.fields (by simp [Property.fields, Field.type]) _ _ hle
    rw [serializeProperties]
    rcases hcall : serializeProperty Device.plain m ub property with ⟨ok, m', ub'⟩
    rw [hcall] at hproperty
    cases ok with
    | true => exact hproperty.trans (ih hproperty.bound)
    | false => exact hproperty

/-- The number of the properties takes the place of the `mtu`, and what is written ends behind the
length of a payload without them. -/
theorem serializePropertySeq_behind (properties : List Property) {m : Memory} {ub : UcdrBuffer}
    (hok : ub.error = false) (hroom : ub.iterator + ub.padding 4 + 4 ≤ ub.final) :
    Forward m ub (serializePropertySeq Device.plain m ub properties).2 ∧
      ub.iterator + ub.padding 4 + 4 ≤
        (serializePropertySeq Device.plain m ub properties).2.2.iterator := by
  obtain ⟨hsize, hiterator⟩ := serialize_behind m ub.endianness properties.length
    (show 4 ∈ [1, 2, 4, 8] by simp) hok hroom
  have hforward := StickyMicroCdr.serialize_forward m ub.endianness properties.length
    (show 4 ∈ [1, 2, 4, 8] by simp) (Nat.le_trans (by omega) hroom)
  rw [serializePropertySeq]
  rcases hcall : ucdrSerialize Device.plain m ub ub.endianness 4 properties.length with ⟨ok, m', ub'⟩
  rw [hcall] at hsize hiterator hforward
  dsimp only at hsize hiterator
  subst hsize
  have hrest := @serializeProperties_forward _ _ properties m' ub' hforward.bound
  exact ⟨hforward.trans hrest, hiterator ▸ hrest.le⟩

/-- The fields of a representation up to its properties. -/
def ClientRepresentation.frontFields (representation : ClientRepresentation) : List Field :=
  [.array representation.xrceCookie, .array representation.xrceVersion,
    .array representation.xrceVendorId, .array representation.clientKey,
    .scalar 1 representation.sessionId.toNat, .scalar 1 representation.optionalProperties.toNat]

omit [StickyMicroCdr] in
theorem serializeCreateClientPayload_eq (m : Memory) (ub : UcdrBuffer)
    {representation : ClientRepresentation} (hoptional : representation.optionalProperties = true)
    {t₁ t₂ : Memory × UcdrBuffer}
    (ht₁ : t₁ = (serializeFields Device.plain m ub representation.frontFields).2)
    (ht₂ : t₂ = (serializePropertySeq Device.plain t₁.1 t₁.2 representation.properties).2) :
    (serializeCreateClientPayload Device.plain m ub representation).2 =
      (ucdrSerialize Device.plain t₂.1 t₂.2 t₂.2.endianness 2 representation.mtu.toNat).2 := by
  obtain ⟨cookie, version, vendor, key, sessionId, optionalProperties, properties, mtu⟩ :=
    representation
  dsimp only at hoptional
  subst hoptional ht₂ ht₁
  rfl

/-- With properties, the payload of CREATE_CLIENT is longer than its length says. -/
theorem serializeCreateClientPayload_behind {representation : ClientRepresentation} {m : Memory}
    {ub : UcdrBuffer} (htypes : representation.frontFields.map Field.type =
      [.array 4, .array 2, .array 2, .array 4, .scalar 1, .scalar 1])
    (hoptional : representation.optionalProperties = true) (hok : ub.error = false)
    (haligned : ub.offset % 4 = 0) (hroom : ub.iterator + 20 ≤ ub.final) :
    Forward m ub (serializeCreateClientPayload Device.plain m ub representation).2 ∧
      ub.iterator + 20 ≤
        (serializeCreateClientPayload Device.plain m ub representation).2.2.iterator := by
  have hpacked : Packed ub.offset ub.lastDataSize (representation.frontFields.map Field.type) := by
    rw [htypes]
    simp [Packed, FieldType.PackedAt, FieldType.last]
  have hsize : fieldsSize (representation.frontFields.map Field.type) = 14 := by
    rw [htypes]
    rfl
  have hlast : lastSize ub.lastDataSize (representation.frontFields.map Field.type) = 1 := by
    rw [htypes]
    rfl
  have hfields := @serializeFields_plain _ _ representation.frontFields m ub hok hpacked
    (by rw [hsize]; omega)
  have hfront : Forward m ub (serializeFields Device.plain m ub representation.frontFields).2 :=
    @serializeFields_forward _ _ representation.frontFields (by simp [htypes]) _ _ (by omega)
  rw [hsize, hlast] at hfields
  obtain ⟨t₁, ht₁⟩ : ∃ t₁, t₁ = (serializeFields Device.plain m ub representation.frontFields).2 :=
    ⟨_, rfl⟩
  rw [← ht₁] at hfront
  rw [hfields] at ht₁
  -- the number of the properties lies at a multiple of four
  have hpad : t₁.2.padding 4 = 2 := by
    rw [ht₁, UcdrBuffer.padding]
    dsimp only
    rw [if_pos (by decide)]
    omega
  have hroom₁ : t₁.2.iterator + t₁.2.padding 4 + 4 ≤ t₁.2.final := by
    rw [hpad, ht₁]
    dsimp only
    omega
  obtain ⟨hseq, hbehind⟩ := @serializePropertySeq_behind _ _ representation.properties t₁.1 t₁.2
    (by rw [ht₁]; exact hok) hroom₁
  obtain ⟨t₂, ht₂⟩ : ∃ t₂, t₂ =
    (serializePropertySeq Device.plain t₁.1 t₁.2 representation.properties).2 := ⟨_, rfl⟩
  rw [← ht₂] at hseq hbehind
  have hmtu := StickyMicroCdr.serialize_forward t₂.1 t₂.2.endianness representation.mtu.toNat
    (show 2 ∈ [1, 2, 4, 8] by simp) hseq.bound
  have hfront₁ : t₁ = (serializeFields Device.plain m ub representation.frontFields).2 := by
    rw [hfields, ht₁]
  rw [serializeCreateClientPayload_eq m ub hoptional hfront₁ ht₂]
  refine ⟨(hfront.trans hseq).trans hmtu, Nat.le_trans ?_ hmtu.le⟩
  rw [hpad, ht₁] at hbehind
  exact Nat.le_trans (Nat.le_of_eq (by dsimp only)) hbehind

omit [MicroCdr] [StickyMicroCdr] in
/-- A submessage of which the header says how long it is. -/
theorem Submessage.payload_length {submessage : Submessage} {id flags low high : UInt8}
    {rest : List UInt8} (hbytes : submessage.bytes = id :: flags :: low :: high :: rest) :
    submessage.payload.length = (headerLength low high).toNat := by
  obtain ⟨-, -, hlow, hhigh, -⟩ : submessage.id = id ∧ submessage.flags = flags ∧
      submessage.low = low ∧ submessage.high = high ∧
      submessage.payload ++ submessage.gap = rest := by
    simpa [Submessage.bytes] using hbytes
  rw [← hlow, ← hhigh, submessage.headerLength_eq, submessage.header_length_toNat]

/-- A CREATE_CLIENT with properties has more behind its header than the length says. -/
theorem createClient_not_wellFormed
    {deserializePropertySeq : Program BufferOp (Bool × List Property)}
    {deserializeObjectVariant deserializeActivityInfoVariant : Program BufferOp Bool}
    {info : SessionInfo} (hkey : info.key.length = clientKeySize) {profile : BuildProfile}
    (hproperties : profile.properties ≠ []) (mtu : UInt16) :
    ¬ ControlWellFormed deserializePropertySeq deserializeObjectVariant
      deserializeActivityInfoVariant info (.createClient profile mtu) := by
  have hoptional : (clientRepresentation profile info mtu).optionalProperties = true ∧
      49 ≤ createSessionMaxMsgSize profile := by
    obtain ⟨sharedMemory, timeout⟩ := profile
    cases sharedMemory <;> cases timeout <;>
      simp [BuildProfile.properties, clientRepresentation, createSessionMaxMsgSize,
        BuildProfile.sharedMemoryAddSize, BuildProfile.hardLivelinessCheckAddSize, maxHeaderSize,
        minHeaderSize, clientKeySize, subheaderSize, createClientPayloadSize] at hproperties ⊢
  obtain ⟨hoptional, hsize⟩ := hoptional
  have hoffset := sessionHeaderOffset_cases info
  -- the buffer behind the header of the submessage
  obtain ⟨m, hm⟩ : ∃ m, m = write (fun _ => 0) (sessionHeaderOffset info)
    (submessageHeaderBytes SubmessageId.createClient.value createClientPayloadSize 0) := ⟨_, rfl⟩
  obtain ⟨ub, hub⟩ : ∃ ub, ub = { controlBuffer info (createSessionMaxMsgSize profile) with
    iterator := sessionHeaderOffset info + 4
    offset := sessionHeaderOffset info + 4
    lastDataSize := 2 } := ⟨_, rfl⟩
  have hheader : (bufferSubmessageHeader Device.plain (fun _ => 0)
      (controlBuffer info (createSessionMaxMsgSize profile)) SubmessageId.createClient.value
      createClientPayloadSize 0).2 = (m, ub) := by
    rw [controlBuffer_submessage info _ _ (by omega), hm, hub]
  have hiterator : ub.iterator = sessionHeaderOffset info + 4 := by rw [hub]
  obtain ⟨hforward, hbehind⟩ := @serializeCreateClientPayload_behind _ _
    (clientRepresentation profile info mtu) m ub
    (by simp [ClientRepresentation.frontFields, clientRepresentation, Field.type, hkey,
      clientKeySize])
    hoptional (by rw [hub]; rfl) (by rw [hub]; dsimp only; omega)
    (by rw [hub]; show sessionHeaderOffset info + 4 + 20 ≤ createSessionMaxMsgSize profile; omega)
  obtain ⟨t, ht⟩ : ∃ t, t =
    (serializeCreateClientPayload Device.plain m ub (clientRepresentation profile info mtu)).2 :=
    ⟨_, rfl⟩
  rw [← ht] at hforward hbehind
  have hbytes := @controlMessage_split _ _ info (createSessionMaxMsgSize profile)
    (fun buffer ub =>
      let (_, buffer, ub) := bufferSubmessageHeader Device.plain buffer ub
        SubmessageId.createClient.value createClientPayloadSize 0
      (serializeCreateClientPayload Device.plain buffer ub
        (clientRepresentation profile info mtu)).2)
    (stampCreateSessionHeader info) _ (serializeMessageHeader_plain · 0 _ 0 0 hkey)
    (controlHeader_length hkey (.createClient profile mtu)) t.1 t.2
    (ht ▸ congrArg (fun t : Memory × UcdrBuffer => (serializeCreateClientPayload Device.plain t.1
      t.2 (clientRepresentation profile info mtu)).2) hheader)
    (hforward.init.trans (by rw [hub]; rfl)) (by omega)
  rw [@controlWellFormed_iff _ _ _ _ info hkey (.createClient profile mtu) _ hbytes]
  rintro ⟨submessage, hsubmessage, hwell, -, -⟩
  -- the header is the one that was written
  obtain ⟨n, hn⟩ : ∃ n, t.2.iterator - sessionHeaderOffset info = 4 + n :=
    Nat.exists_eq_add_of_le (by omega)
  have hfour : read t.1 (sessionHeaderOffset info) 4 =
      submessageHeaderBytes SubmessageId.createClient.value createClientPayloadSize 0 := by
    have hself := read_write_self (fun _ => 0) (sessionHeaderOffset info)
      (submessageHeaderBytes SubmessageId.createClient.value createClientPayloadSize 0)
    rw [submessageHeaderBytes_length, ← hm] at hself
    exact (read_congr fun a _ ha => hforward.kept a (by omega)).trans hself
  have hlength : submessage.payload.length = 16 := by
    rw [hn, read_append, hfour, submessageHeaderBytes, encodeScalar_singleton,
      encodeScalar_singleton] at hsubmessage
    exact @Submessage.payload_length submessage _ _ 16 0 _ hsubmessage.symm
  have hgap := hwell.gap_le
  have htotal := congrArg List.length hsubmessage
  rw [read_length] at htotal
  simp only [Submessage.bytes, List.length_cons, List.length_append] at htotal
  rw [Submessage.padding, hlength] at hgap
  omega

/-- The control messages are well formed but for the answer to GET_INFO, and a CREATE_CLIENT that
has properties. -/
theorem control_message_wellFormed_iff
    (deserializePropertySeq : Program BufferOp (Bool × List Property))
    (deserializeObjectVariant deserializeActivityInfoVariant : Program BufferOp Bool)
    {info : SessionInfo} (hkey : info.key.length = clientKeySize) {message : ControlMessage}
    (hfits : message.Fits) :
    ControlWellFormed deserializePropertySeq deserializeObjectVariant
      deserializeActivityInfoVariant info message ↔ message.Plain := by
  cases message with
  | createClient profile mtu =>
    constructor
    · intro hwell
      by_contra hproperties
      exact createClient_not_wellFormed hkey hproperties mtu hwell
    · intro hnone
      exact createClient_wellFormed hkey hnone mtu
  | delete => exact ⟨fun _ => trivial, fun _ => delete_wellFormed hkey⟩
  | heartbeat payload => exact ⟨fun _ => trivial, fun _ => heartbeat_wellFormed hkey payload⟩
  | acknack payload => exact ⟨fun _ => trivial, fun _ => acknack_wellFormed hkey hfits⟩
  | timestamp transmitTimestamp =>
    exact ⟨fun _ => trivial, fun _ => timestamp_wellFormed hkey hfits.1 hfits.2⟩
  | info requestId => exact ⟨fun hwell => info_not_wellFormed hkey requestId hwell, False.elim⟩

end

/-- A session without a client key. -/
def keylessSession : SessionInfo where
  id := 0x81
  key := [0xAA, 0xAA, 0xBB, 0xBB]
  lastRequestedStatus := 0
  lastRequestId := 0

/-- The HEARTBEAT of a session without a client key. -/
theorem control_message_wellFormed_heartbeat :
    @ControlWellFormed (pure (true, [])) (pure true) (pure true) referenceMicroCdr keylessSession
      (.heartbeat { firstUnackedSeqNr := 1, lastUnackedSeqNr := 2, streamId := 0x80 }) :=
  (@control_message_wellFormed_iff referenceMicroCdr referenceMicroCdr_sticky _ _ _ keylessSession
    rfl (.heartbeat { firstUnackedSeqNr := 1, lastUnackedSeqNr := 2, streamId := 0x80 })
    trivial).mpr trivial

/-- The answer to GET_INFO, and CREATE_CLIENT with the profile for shared memory, are not well
formed. -/
theorem info_and_createClient_malformed :
    ¬ @ControlWellFormed (pure (true, [])) (pure true) (pure true) referenceMicroCdr keylessSession
      (.info [0, 3]) ∧
    ¬ @ControlWellFormed (pure (true, [])) (pure true) (pure true) referenceMicroCdr keylessSession
      (.createClient { sharedMemory := true, hardLivelinessCheck := none } 512) :=
  ⟨@info_not_wellFormed referenceMicroCdr referenceMicroCdr_sticky _ _ _ _ rfl _,
    @createClient_not_wellFormed referenceMicroCdr referenceMicroCdr_sticky _ _ _ _ rfl _
      (by decide) _⟩

end XrceClient
