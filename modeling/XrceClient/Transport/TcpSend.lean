import Mathlib.Data.List.TakeDrop
import XrceClient.Base.ByteMemory

/-!
# Sending over TCP (`tcp_transport.c`)

A message is sent as its size in two bytes and its payload. The platform takes as many of the
bytes that it is given as it likes, and is asked again for the rest.

- `TcpWriter`: what the platform does with the bytes that it is given.
- `sendTcpMsg`: the two loops.
- `SizeKept`: how often, and how much at a time, the size bytes are taken.
- `send_framed_iff`: exactly then the bytes taken are the front of the frame, and all of it if
  the message was sent.
-/

namespace XrceClient

open ByteMemory

/-- The result of `uxr_write_tcp_data_platform`: how many bytes were taken, and the error code. -/
structure TcpWritten where
  accepted : Nat
  errcode : UInt8
  deriving DecidableEq, Repr

/-- `uxr_write_tcp_data_platform` (tcp_transport_internal.h), which takes no more than it is
given, and `uxr_disconnect_tcp_platform`. -/
structure TcpWriter (σ : Type) where
  write : σ → List UInt8 → TcpWritten × σ
  disconnect : σ → σ
  accepted_le : ∀ platform bytes, (write platform bytes).1.accepted ≤ bytes.length

/-- `UXR_MAX_WRITE_TCP_ATTEMPTS` (tcp_transport.c:5). -/
def maxWriteTcpAttempts : Nat := 16

/-- What `send_tcp_msg` works on. `accepted` are the bytes that the platform has taken. -/
structure TcpSending (σ : Type) where
  platform : σ
  bytesSent : Nat
  errorCode : UInt8
  accepted : List UInt8

variable {σ : Type} (writer : TcpWriter σ)

/-- The shape of the two loops of `send_tcp_msg`: the platform is given bytes, depending on how
many were taken before, until `total` were taken, there is an error, or `attempts` calls have
been made. -/
def sendLoop (request : Nat → List UInt8) (total : Nat) :
    Nat → TcpSending σ → Bool × TcpSending σ
  | 0, sending => (false, sending)
  | attempts + 1, sending =>
    let bytes := request sending.bytesSent
    let written := (writer.write sending.platform bytes).1
    let platform := (writer.write sending.platform bytes).2
    if 0 < written.accepted then
      let sending :=
        { sending with
          platform
          bytesSent := sending.bytesSent + written.accepted
          accepted := sending.accepted ++ bytes.take written.accepted }
      if sending.bytesSent = total then (true, sending)
      else sendLoop request total attempts sending
    else if 0 < written.errcode then
      (false, { sending with platform, errorCode := written.errcode })
    else sendLoop request total attempts { sending with platform }

/-- `msg_size_buf` (tcp_transport.c:42–44). -/
def msgSizeBuf (len : Nat) : List UInt8 :=
  [UInt8.ofNat (0x00FF &&& len), UInt8.ofNat ((0xFF00 &&& len) >>> 8)]

/-- The loop that sends the size (tcp_transport.c:48–69). It gives both bytes every time. -/
def sendMsgSize (buf : List UInt8) (sending : TcpSending σ) : Bool × TcpSending σ :=
  sendLoop writer (fun _ => msgSizeBuf buf.length) 2 maxWriteTcpAttempts sending

/-- The loop that sends the payload (tcp_transport.c:75–99). -/
def sendMsgPayload (buf : List UInt8) (sending : TcpSending σ) : Bool × TcpSending σ :=
  sendLoop writer (fun bytesSent => buf.drop bytesSent) buf.length maxWriteTcpAttempts
    { sending with bytesSent := 0 }

/-- `send_tcp_msg` (tcp_transport.c:33–113). -/
def sendTcpMsg (buf : List UInt8) (platform : σ) (errorCode : UInt8) : Bool × TcpSending σ :=
  let (sizeSent, sending) := sendMsgSize writer buf ⟨platform, 0, errorCode, []⟩
  let (payloadSent, sending) := if sizeSent then sendMsgPayload writer buf sending
    else (false, sending)
  if payloadSent then (true, sending)
  else (false, { sending with platform := writer.disconnect sending.platform })

/-! ## What is meant -/

/-- A message as it goes over the connection. -/
def tcpFrame (buf : List UInt8) : List UInt8 := msgSizeBuf buf.length ++ buf

/-- The bytes taken are a front part of the frame, and the message counts as sent exactly if they
are all of it. -/
def SentFramed (buf : List UInt8) (r : Bool × TcpSending σ) : Prop :=
  r.2.accepted <+: tcpFrame buf ∧ (r.1 = true ↔ r.2.accepted = tcpFrame buf)

instance (buf : List UInt8) (r : Bool × TcpSending σ) : Decidable (SentFramed buf r) :=
  inferInstanceAs (Decidable (_ ∧ _))

namespace TcpWriter

/-- What the platform answers when it is given the same bytes again and again. -/
def answers (bytes : List UInt8) : Nat → σ → List TcpWritten
  | 0, _ => []
  | n + 1, platform =>
    (writer.write platform bytes).1 :: answers bytes n (writer.write platform bytes).2

/-- How much it takes each time that it takes something, up to the first error. -/
def counts (bytes : List UInt8) (n : Nat) (platform : σ) : List Nat :=
  (((writer.answers bytes n platform).takeWhile fun w => 0 < w.accepted ∨ w.errcode = 0).map
    TcpWritten.accepted).filter (0 < ·)

end TcpWriter

/-- The size bytes are taken at once, or not at all, or one of them and then nothing. Otherwise
the two bytes are equal, and the second one was taken alone or what was taken of them too often
looks like the payload. -/
def SizeKept (buf : List UInt8) : List Nat → Prop
  | [] | [_] | 2 :: _ => True
  | c :: c' :: rest =>
    (msgSizeBuf buf.length)[0]! = (msgSizeBuf buf.length)[1]! ∧
      (c' = 1 ∨ ∀ b ∈ buf.take (c + c' + rest.sum - 2), b = (msgSizeBuf buf.length)[0]!)

/-! ## The two loops -/

section

variable {writer} {buf : List UInt8} {sending : TcpSending σ}

@[simp] theorem msgSizeBuf_length (len : Nat) : (msgSizeBuf len).length = 2 := rfl

theorem TcpWriter.counts_succ (bytes : List UInt8) (n : Nat) (platform : σ) :
    writer.counts bytes (n + 1) platform =
      if 0 < (writer.write platform bytes).1.accepted then
        (writer.write platform bytes).1.accepted ::
          writer.counts bytes n (writer.write platform bytes).2
      else if 0 < (writer.write platform bytes).1.errcode then []
      else writer.counts bytes n (writer.write platform bytes).2 := by
  have herrcode : (writer.write platform bytes).1.errcode = 0 ↔
      ¬ 0 < (writer.write platform bytes).1.errcode := by
    simp [UInt8.lt_iff_toNat_lt, ← UInt8.toNat_inj]
  rw [counts, answers]
  split
  · next h => simp [counts, h]
  · split
    · next h herr => simp [h, herrcode.not.mpr (not_not.mpr herr)]
    · next h herr => simp [counts, h, herrcode.mpr herr]

/-- What is taken is something, and no more than the bytes that are given. -/
theorem TcpWriter.mem_counts {bytes : List UInt8} {n c : Nat} {platform : σ}
    (h : c ∈ writer.counts bytes n platform) : 0 < c ∧ c ≤ bytes.length := by
  induction n generalizing platform with
  | zero => cases h
  | succ n ih =>
    rw [counts_succ] at h
    split at h
    · next hpos =>
      rcases List.mem_cons.mp h with rfl | h
      · exact ⟨hpos, writer.accepted_le _ _⟩
      · exact ih h
    · split at h
      · cases h
      · exact ih h

theorem TcpWriter.counts_length_le (bytes : List UInt8) (n : Nat) (platform : σ) :
    (writer.counts bytes n platform).length ≤ n := by
  induction n generalizing platform with
  | zero => exact Nat.le_refl 0
  | succ n ih =>
    have hrest := ih (writer.write platform bytes).2
    rw [counts_succ]
    split
    · exact Nat.succ_le_succ hrest
    · split
      · exact Nat.zero_le _
      · exact Nat.le_succ_of_le hrest

/-- How the loop over the size bytes goes on, when `sent` of them were taken: whether it ends
with both, and what is taken until then. -/
def takenOfSize (size : List UInt8) : Nat → List Nat → Bool × List UInt8
  | _, [] => (false, [])
  | sent, c :: cs =>
    if sent + c = 2 then (true, size.take c)
    else ((takenOfSize size (sent + c) cs).1, size.take c ++ (takenOfSize size (sent + c) cs).2)

/-- The loop over the size bytes does what the answers of the platform say. -/
theorem sendLoop_size (size : List UInt8) (n : Nat) (sending : TcpSending σ) :
    (sendLoop writer (fun _ => size) 2 n sending).1 =
        (takenOfSize size sending.bytesSent (writer.counts size n sending.platform)).1 ∧
      (sendLoop writer (fun _ => size) 2 n sending).2.accepted = sending.accepted ++
        (takenOfSize size sending.bytesSent (writer.counts size n sending.platform)).2 := by
  induction n generalizing sending with
  | zero => exact ⟨rfl, (List.append_nil _).symm⟩
  | succ n ih =>
    rw [TcpWriter.counts_succ, sendLoop]
    dsimp only
    split
    · rw [takenOfSize]
      split
      · exact ⟨rfl, rfl⟩
      · obtain ⟨hresult, haccepted⟩ := ih
          { sending with
            platform := (writer.write sending.platform size).2
            bytesSent := sending.bytesSent + (writer.write sending.platform size).1.accepted
            accepted := sending.accepted ++
              size.take (writer.write sending.platform size).1.accepted }
        exact ⟨hresult, by rw [haccepted, List.append_assoc]⟩
    · split
      · exact ⟨rfl, (List.append_nil _).symm⟩
      · exact ih { sending with platform := (writer.write sending.platform size).2 }

/-- The loop over the payload sends a front part of it, and ends well exactly with all of it. -/
theorem sendLoop_payload (n : Nat) {sent : Nat} (hsent : sending.bytesSent = sent)
    (hless : sent < buf.length) {before : List UInt8}
    (haccepted : sending.accepted = before ++ buf.take sent) :
    ∃ k, (sendLoop writer (fun k => buf.drop k) buf.length n sending).2.accepted =
        before ++ buf.take k ∧ k ≤ buf.length ∧
      ((sendLoop writer (fun k => buf.drop k) buf.length n sending).1 = true ↔
        k = buf.length) := by
  induction n generalizing sending sent with
  | zero => exact ⟨sent, haccepted, Nat.le_of_lt hless, by simp [sendLoop]; omega⟩
  | succ n ih =>
    rw [sendLoop]
    dsimp only
    have hle := writer.accepted_le sending.platform (buf.drop sending.bytesSent)
    rw [List.length_drop] at hle
    subst hsent
    have hmore : sending.accepted ++ (buf.drop sending.bytesSent).take
        (writer.write sending.platform (buf.drop sending.bytesSent)).1.accepted =
        before ++ buf.take (sending.bytesSent +
          (writer.write sending.platform (buf.drop sending.bytesSent)).1.accepted) := by
      rw [haccepted, List.append_assoc, List.take_add]
    split
    · split
      · next hall => exact ⟨_, hmore, by omega, by simp [hall]⟩
      · next hall =>
        have hmany : sending.bytesSent +
          (writer.write sending.platform (buf.drop sending.bytesSent)).1.accepted ≠ buf.length := hall
        have hless' : sending.bytesSent +
          (writer.write sending.platform (buf.drop sending.bytesSent)).1.accepted < buf.length := by
            omega
        exact ih rfl hless' hmore
    · split
      · exact ⟨sending.bytesSent, haccepted, Nat.le_of_lt hless, by simp; omega⟩
      · exact ih rfl hless haccepted

/-! ## What is taken of the size -/

theorem msgSizeBuf_eq (len : Nat) : msgSizeBuf len = leBytes 2 len := by
  have hlow (n : Nat) : UInt8.ofNat (0x00FF &&& n) = UInt8.ofNat n := by
    apply UInt8.toNat_inj.mp
    rw [UInt8.toNat_ofNat', UInt8.toNat_ofNat', Nat.and_comm,
      show (0x00FF : Nat) = 2 ^ 8 - 1 from rfl, Nat.and_two_pow_sub_one_eq_mod, Nat.mod_mod]
  have hhigh : (0xFF00 &&& len) >>> 8 = 0x00FF &&& len / 256 := by
    rw [Nat.shiftRight_and_distrib, Nat.shiftRight_eq_div_pow len]
    rfl
  rw [msgSizeBuf, hhigh, hlow, hlow]
  rfl

/-- Only long messages have two equal size bytes. -/
theorem length_of_sizeBytes_eq {len : Nat} (hpos : 0 < len) (hlen : len < 2 ^ 16)
    (heq : (msgSizeBuf len)[0]! = (msgSizeBuf len)[1]!) : 257 ≤ len := by
  rw [msgSizeBuf_eq] at heq
  have h : len % 256 = len / 256 % 256 := by
    have hnat := congrArg UInt8.toNat heq
    simpa [leBytes] using hnat
  rw [Nat.mod_eq_of_lt (show len / 256 < 256 by omega)] at h
  omega

/-- Once more than two bytes were taken, the loop goes on until it gives up. -/
theorem takenOfSize_beyond (size : List UInt8) {sent : Nat} (hsent : 2 < sent) (cs : List Nat) :
    takenOfSize size sent cs = (false, (cs.map size.take).flatten) := by
  induction cs generalizing sent with
  | nil => rfl
  | cons c cs ih =>
    rw [takenOfSize, if_neg (by omega), ih (by omega)]
    rfl

/-- Of two equal bytes, every answer takes some copies. -/
theorem flatten_take_replicate (b : UInt8) {cs : List Nat} (h : ∀ c ∈ cs, c ≤ 2) :
    (cs.map [b, b].take).flatten = List.replicate cs.sum b := by
  induction cs with
  | nil => rfl
  | cons c cs ih =>
    have hc := h c List.mem_cons_self
    have htake : [b, b].take c = List.replicate c b := by
      rw [show [b, b] = List.replicate 2 b from rfl, List.take_replicate, Nat.min_eq_left hc]
    rw [List.map_cons, List.flatten_cons, List.sum_cons, ← List.replicate_append_replicate,
      htake, ih fun c hc => h c (List.mem_cons_of_mem _ hc)]

theorem sum_le_of_le_two {cs : List Nat} (h : ∀ c ∈ cs, c ≤ 2) : cs.sum ≤ 2 * cs.length := by
  induction cs with
  | nil => exact Nat.le_refl 0
  | cons c cs ih =>
    have hc := h c List.mem_cons_self
    have hrest := ih fun c hc => h c (List.mem_cons_of_mem _ hc)
    rw [List.sum_cons, List.length_cons]
    omega

/-- Copies of a byte are a front part of a list exactly if the list begins with as many. -/
theorem replicate_prefix_iff {b : UInt8} {n : Nat} (hn : n ≤ buf.length) :
    List.replicate n b <+: buf ↔ ∀ c ∈ buf.take n, c = b := by
  rw [List.prefix_iff_eq_take, List.length_replicate, eq_comm, List.eq_replicate_iff,
    List.length_take, Nat.min_eq_left hn]
  exact ⟨And.right, fun h => ⟨rfl, h⟩⟩

/-- What the answers about the size bytes come to, and when that is no part of a frame. -/
theorem takenOfSize_framed (hpos : 0 < buf.length) (hlen : buf.length < 2 ^ 16) {cs : List Nat}
    (hcs : ∀ c ∈ cs, 0 < c ∧ c ≤ 2) (hmany : cs.length ≤ maxWriteTcpAttempts) :
    ((takenOfSize (msgSizeBuf buf.length) 0 cs).1 = true ∧
        (SizeKept buf cs ↔ (takenOfSize (msgSizeBuf buf.length) 0 cs).2 = msgSizeBuf buf.length) ∧
        (takenOfSize (msgSizeBuf buf.length) 0 cs).2.length = 2) ∨
      ((takenOfSize (msgSizeBuf buf.length) 0 cs).1 = false ∧
        (SizeKept buf cs ↔ (takenOfSize (msgSizeBuf buf.length) 0 cs).2 <+: tcpFrame buf) ∧
        (takenOfSize (msgSizeBuf buf.length) 0 cs).2 ≠ tcpFrame buf) := by
  have hlong := @length_of_sizeBytes_eq buf.length hpos hlen
  obtain ⟨lo, hi, hsize⟩ : ∃ lo hi, msgSizeBuf buf.length = [lo, hi] := ⟨_, _, rfl⟩
  have hframe : tcpFrame buf = lo :: hi :: buf := by
    rw [tcpFrame, hsize]
    rfl
  rw [hframe]
  rw [hsize] at hlong ⊢
  change lo = hi → _ at hlong
  have htwo {c : Nat} (hc : c ∈ cs) : c = 1 ∨ c = 2 := by
    have := hcs c hc
    omega
  match cs with
  | [] => exact .inr ⟨rfl, by simp [SizeKept, takenOfSize], by simp [takenOfSize]⟩
  | [c] =>
    rcases htwo List.mem_cons_self with rfl | rfl
    · exact .inr ⟨rfl, by simp [SizeKept, takenOfSize], by simp [takenOfSize]⟩
    · exact .inl ⟨rfl, by simp [SizeKept, takenOfSize], rfl⟩
  | c :: c' :: rest =>
    rcases htwo List.mem_cons_self with rfl | rfl
    swap
    · exact .inl ⟨rfl, by simp [SizeKept, takenOfSize], rfl⟩
    rcases htwo (List.mem_cons_of_mem _ List.mem_cons_self) with rfl | rfl
    · refine .inl ⟨rfl, ?_, rfl⟩
      simp [SizeKept, takenOfSize, hsize]
    -- three bytes or more are taken for the size, which is then never sent
    · have hrest {c : Nat} (hc : c ∈ rest) : c ≤ 2 :=
        (hcs c (List.mem_cons_of_mem _ (List.mem_cons_of_mem _ hc))).2
      have htaken : takenOfSize [lo, hi] 0 (1 :: 2 :: rest) =
          (false, lo :: lo :: hi :: (rest.map [lo, hi].take).flatten) := by
        rw [takenOfSize, takenOfSize, if_neg (by decide), if_neg (by decide),
          takenOfSize_beyond _ (by decide)]
        rfl
      rw [htaken]
      refine .inr ⟨rfl, ?_⟩
      by_cases heq : lo = hi
      · subst heq
        have hsum := sum_le_of_le_two fun c hc => hrest hc
        have hlong := hlong rfl
        have hcount : rest.length + 2 ≤ 16 := hmany
        rw [flatten_take_replicate _ fun c hc => hrest hc, ← List.replicate_succ]
        constructor
        · rw [List.cons_prefix_cons, List.cons_prefix_cons, replicate_prefix_iff (by omega)]
          simp [SizeKept, hsize, show 1 + 2 + rest.sum - 2 = rest.sum + 1 by omega]
        · intro h
          have hlength := congrArg List.length h
          simp only [List.length_cons, List.length_replicate] at hlength
          omega
      · simp [SizeKept, hsize, heq, List.cons_prefix_cons]

/-! ## The whole message -/

/-- What is sent, once the answers about the size bytes are known. -/
theorem sendTcpMsg_follows (hpayload : buf ≠ []) (platform : σ) (errorCode : UInt8)
    {taken : List UInt8} {sizeSent : Bool}
    (htaken : takenOfSize (msgSizeBuf buf.length) 0 (writer.counts (msgSizeBuf buf.length)
      maxWriteTcpAttempts platform) = (sizeSent, taken)) :
    if sizeSent then
      ∃ k, (sendTcpMsg writer buf platform errorCode).2.accepted = taken ++ buf.take k ∧
        k ≤ buf.length ∧ ((sendTcpMsg writer buf platform errorCode).1 = true ↔ k = buf.length)
    else
      (sendTcpMsg writer buf platform errorCode).2.accepted = taken ∧
        (sendTcpMsg writer buf platform errorCode).1 = false := by
  obtain ⟨hresult, haccepted⟩ := @sendLoop_size σ writer (msgSizeBuf buf.length)
    maxWriteTcpAttempts ⟨platform, 0, errorCode, []⟩
  rw [htaken] at hresult haccepted
  rw [sendTcpMsg, sendMsgSize]
  generalize sendLoop writer (fun _ => msgSizeBuf buf.length) 2 maxWriteTcpAttempts
    ⟨platform, 0, errorCode, []⟩ = r at hresult haccepted
  obtain ⟨result, sending⟩ := r
  cases hresult
  change sending.accepted = [] ++ taken at haccepted
  rw [List.nil_append] at haccepted
  cases sizeSent with
  | false => exact ⟨haccepted, rfl⟩
  | true =>
    obtain ⟨k, haccepted, hk, hresult⟩ := @sendLoop_payload σ writer buf
      { sending with bytesSent := 0 } maxWriteTcpAttempts 0 rfl
      (List.length_pos_iff.mpr hpayload) taken (by simpa using haccepted)
    refine ⟨k, ?_, hk, ?_⟩
    all_goals
      dsimp only [sendMsgPayload]
      generalize sendLoop writer (fun bytesSent => buf.drop bytesSent) buf.length
        maxWriteTcpAttempts { sending with bytesSent := 0 } = r at haccepted hresult
      obtain ⟨_ | _, sending'⟩ := r
    · exact haccepted
    · exact haccepted
    · exact hresult
    · exact hresult

/-- **The framing of a message.** What the platform takes during a call is the front of the frame,
all of it exactly if the message counts as sent, under the condition on the answers about the
size bytes and under no other. -/
theorem send_framed_iff (hpos : 0 < buf.length) (hlen : buf.length < 2 ^ 16) (platform : σ)
    (errorCode : UInt8) :
    SentFramed buf (sendTcpMsg writer buf platform errorCode) ↔
      SizeKept buf
        (writer.counts (msgSizeBuf buf.length) maxWriteTcpAttempts platform) := by
  have hfollows := sendTcpMsg_follows (List.length_pos_iff.mp hpos) platform errorCode
    (Prod.eta (takenOfSize (msgSizeBuf buf.length) 0 (writer.counts (msgSizeBuf buf.length)
      maxWriteTcpAttempts platform))).symm
  have hcounts {c : Nat} (hc : c ∈ writer.counts (msgSizeBuf buf.length) maxWriteTcpAttempts
      platform) : 0 < c ∧ c ≤ 2 := TcpWriter.mem_counts hc
  rcases takenOfSize_framed hpos hlen (fun _ hc => hcounts hc)
    (TcpWriter.counts_length_le (msgSizeBuf buf.length) maxWriteTcpAttempts platform) with
    ⟨hsent, hkept, htwo⟩ | ⟨hsent, hkept, hpart⟩
  all_goals rw [hsent] at hfollows
  · obtain ⟨k, haccepted, hk, hresult⟩ := hfollows
    rw [SentFramed, haccepted, hresult, hkept, tcpFrame]
    constructor
    · rintro ⟨hbegins, -⟩
      have hfront := (List.prefix_append _ _).trans hbegins
      rw [List.prefix_iff_eq_take, htwo] at hfront
      exact hfront
    · intro hsize
      rw [hsize]
      refine ⟨(List.prefix_append_right_inj _).mpr (List.take_prefix _ _), ?_⟩
      rw [List.append_cancel_left_eq, List.take_eq_self_iff]
      omega
  · obtain ⟨haccepted, hresult⟩ := hfollows
    rw [SentFramed, haccepted, hresult, hkept]
    exact ⟨And.left, fun h => ⟨h, fun hf => absurd hf Bool.false_ne_true, fun h => absurd h hpart⟩⟩

end

/-- A platform that takes as much as it is given, but no more than `most` bytes at a time. -/
def atMostWriter (most : Nat) : TcpWriter Unit where
  write _ bytes := (⟨min most bytes.length, 0⟩, ())
  disconnect := id
  accepted_le _ _ := Nat.min_le_right _ _

/-- Two bytes at a time keep the framing. -/
theorem send_framed_twoAtATime :
    SentFramed [7, 8, 9] (sendTcpMsg (atMostWriter 2) [7, 8, 9] () 0) ↔
      SizeKept [7, 8, 9] ((atMostWriter 2).counts (msgSizeBuf 3) maxWriteTcpAttempts ()) :=
  send_framed_iff (by decide) (by decide) () 0

/-- One byte at a time makes the peer wait for 257 bytes, and the message counts as sent. -/
theorem send_oneAtATime_garbles :
    (sendTcpMsg (atMostWriter 1) [7] () 0).1 = true ∧
      (sendTcpMsg (atMostWriter 1) [7] () 0).2.accepted = [1, 1, 7] ∧
      ¬ SentFramed [7] (sendTcpMsg (atMostWriter 1) [7] () 0) := by
  decide +kernel

end XrceClient
