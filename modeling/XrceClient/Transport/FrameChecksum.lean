import XrceClient.Base.ShiftRegister
import XrceClient.Transport.FramingStreams

/-!
# What the checksum of a frame keeps out

The checksum is a CRC-16, and finds every burst of errors up to 16 bits long. That it keeps
such payloads from being reported is said of all runs, also of those that lose flags: these
are runs over a stream without the flags that were lost.

- `bitwiseCrc`: the checksum, a bit at a time; `updateCrc_eq` is about the table.
- `BurstIn`: payloads that differ within 16 successive bits; `crcOf_ne_of_burst`.
- `HasFrame`, `HasFrameAt`: a frame in a stream, with its checksum.
- `StandAt`: messages in frames, one behind the other; `messagesIn_sound`.
- `FlagsLost`, `Hears`: a run that may lose flags; `readCalls_hears`.
- `framing_detects_bursts`.
-/

namespace XrceClient

open ByteMemory FramingIo ShiftRegister

/-! ## A bit at a time -/

/-- One bit of the checksum, with the polynomial reflected. -/
def crcShift (crc : UInt16) : UInt16 :=
  if crc &&& 1 = 1 then (crc >>> 1) ^^^ 0xA001 else crc >>> 1

/-- The checksum, a bit at a time. -/
def bitwiseCrc (payload : List UInt8) : UInt16 :=
  payload.foldl (fun crc octet => crcShift^[8] (crc ^^^ octet.toUInt16)) 0

/-- The polynomial as the register has it. -/
def crcPoly : BitVec 16 := 0xA001

theorem crcPoly_msb : crcPoly.msb = true := by decide

theorem isOdd_iff (crc : UInt16) : crc &&& 1 = 1 ↔ crc.toBitVec.getLsbD 0 = true := by
  have hodd : (crc &&& 1).toNat = crc.toNat % 2 := Nat.and_one_is_mod _
  have hbit : crc.toBitVec.getLsbD 0 = decide (crc.toNat % 2 = 1) := Nat.testBit_zero _
  rw [hbit, decide_eq_true_iff, ← hodd]
  constructor
  · intro h
    rw [h]
    rfl
  · intro h
    exact UInt16.toNat_inj.mp h

theorem crcShift_toBitVec (crc : UInt16) :
    (crcShift crc).toBitVec = shift crcPoly crc.toBitVec := by
  rw [crcShift]
  split
  · next h =>
    rw [shift_low ((isOdd_iff crc).mp h)]
    rfl
  · next h =>
    rw [shift_clear (by simpa using fun hlow => h ((isOdd_iff crc).mpr hlow))]
    rfl

theorem crcShift_iterate_toBitVec (n : Nat) (crc : UInt16) :
    (crcShift^[n] crc).toBitVec = (shift crcPoly)^[n] crc.toBitVec := by
  induction n generalizing crc with
  | zero => rfl
  | succ n ih => rw [Function.iterate_succ_apply, ih, crcShift_toBitVec]; rfl

/-- The table has eight shifts of each octet. -/
theorem crc16Table_getD (i : Fin 256) :
    crc16Table.getD i 0 = crcShift^[8] (UInt16.ofNat i) := by
  revert i
  decide +kernel

/-- An octet through the table is eight bits. -/
theorem updateCrc_eq (crc : UInt16) (octet : UInt8) :
    updateCrc crc octet = crcShift^[8] (crc ^^^ octet.toUInt16) := by
  obtain ⟨low, hlow⟩ : ∃ low, low = (crc ^^^ octet.toUInt16) &&& 0xFF := ⟨_, rfl⟩
  have hlt : low.toNat < 256 := by
    rw [hlow, UInt16.toNat_and]
    exact Nat.lt_succ_of_le Nat.and_le_right
  have htable := crc16Table_getD ⟨low.toNat, hlt⟩
  dsimp only at htable
  rw [UInt16.ofNat_toNat] at htable
  -- the octet itself is gone from the part that is moved down
  have hmoved : (crc ^^^ octet.toUInt16).toBitVec >>> 8 = crc.toBitVec >>> 8 := by
    rw [UInt16.toBitVec_xor, BitVec.ushiftRight_xor_distrib]
    have hzero : octet.toUInt16.toBitVec >>> 8 = 0#16 := by
      refine BitVec.eq_of_toNat_eq ?_
      have hoctet := octet.toNat_lt
      simp [Nat.shiftRight_eq_div_pow]
      omega
    rw [hzero, BitVec.xor_zero]
  have hsame : ∀ i < 8, low.toBitVec.getLsbD i = (crc ^^^ octet.toUInt16).toBitVec.getLsbD i := by
    intro i hi
    have hmask : ∀ i < 8, (255 : UInt16).toBitVec.getLsbD i = true := by decide
    rw [hlow, UInt16.toBitVec_and, BitVec.getLsbD_and, hmask i hi, Bool.and_true]
  have hnothing : low.toBitVec >>> 8 = 0#16 := by
    refine BitVec.eq_of_toNat_eq ?_
    simp [Nat.shiftRight_eq_div_pow]
    omega
  have hsplit := @shift_iterate_split 16 crcPoly 8 _ _ hsame hnothing
  refine UInt16.toBitVec_inj.mp ?_
  rw [crcShift_iterate_toBitVec, hsplit, hmoved, ← crcShift_iterate_toBitVec, ← htable, updateCrc,
    ← hlow]
  rfl

theorem crcOf_eq_bitwiseCrc (payload : List UInt8) : crcOf payload = bitwiseCrc payload := by
  rw [crcOf, bitwiseCrc]
  congr 1
  funext crc octet
  exact updateCrc_eq crc octet

/-! ## Bursts of errors -/

/-- The bits of an octet, in the order in which they are sent. -/
def octetBits (octet : UInt8) : List Bool := (List.range 8).map octet.toNat.testBit

/-- The bits of a payload. -/
def bitsOf (payload : List UInt8) : List Bool := payload.flatMap octetBits

theorem octetBits_length (octet : UInt8) : (octetBits octet).length = 8 := by simp [octetBits]

theorem ofBits_octetBits (octet : UInt8) :
    ofBits 16 (octetBits octet) = octet.toUInt16.toBitVec := by
  refine BitVec.eq_of_getLsbD_eq fun i hi => ?_
  rw [getLsbD_ofBits]
  show _ = octet.toNat.testBit i
  by_cases hlow : i < 8
  · simp [octetBits, hlow, hi]
  · -- an octet has no more bits
    have hlt : octet.toNat < 2 ^ i :=
      Nat.lt_of_lt_of_le octet.toNat_lt (Nat.pow_le_pow_right (by decide) (Nat.le_of_not_lt hlow))
    rw [Nat.testBit_lt_two_pow hlt]
    simp [octetBits, hlow]

theorem octetBits_injective : Function.Injective octetBits := by
  intro octet octet' h
  have hnumber := congrArg (ofBits 16) h
  rw [ofBits_octetBits, ofBits_octetBits] at hnumber
  have hvalue := congrArg BitVec.toNat hnumber
  exact UInt8.toNat_inj.mp hvalue

theorem length_bitsOf (payload : List UInt8) : (bitsOf payload).length = 8 * payload.length := by
  induction payload with
  | nil => rfl
  | cons octet payload ih =>
    have hcons : bitsOf (octet :: payload) = octetBits octet ++ bitsOf payload := rfl
    rw [hcons, List.length_append, octetBits_length, ih, List.length_cons]
    omega

theorem bitsOf_injective : Function.Injective bitsOf := by
  intro payload
  induction payload with
  | nil =>
    rintro (_ | ⟨octet, payload'⟩) h
    · rfl
    · have hlength := congrArg List.length h
      simp [length_bitsOf] at hlength
  | cons octet payload ih =>
    rintro (_ | ⟨octet', payload'⟩) h
    · have hlength := congrArg List.length h
      simp [length_bitsOf] at hlength
    · have hboth := List.append_inj h ((octetBits_length _).trans (octetBits_length _).symm)
      rw [octetBits_injective hboth.1, ih hboth.2]

/-- The checksum is what is in the register behind the bits. -/
theorem foldl_updateCrc_toBitVec (crc : UInt16) (payload : List UInt8) :
    (payload.foldl updateCrc crc).toBitVec = feed crcPoly crc.toBitVec (bitsOf payload) := by
  induction payload generalizing crc with
  | nil => rfl
  | cons octet payload ih =>
    have hoctet : (updateCrc crc octet).toBitVec = feed crcPoly crc.toBitVec (octetBits octet) := by
      rw [feed_short (by rw [octetBits_length]; decide), octetBits_length, ofBits_octetBits,
        updateCrc_eq, crcShift_iterate_toBitVec, UInt16.toBitVec_xor]
    rw [List.foldl_cons, ih, hoctet, ← feed_append]
    rfl

/-- Of a payload came another of the same length, by errors within 16 successive bits. -/
structure BurstIn (sent received : List UInt8) : Prop where
  length : sent.length = received.length
  ne : sent ≠ received
  within : ∃ k, ∀ i, (bitsOf sent)[i]? ≠ (bitsOf received)[i]? → k ≤ i ∧ i < k + 16

/-- The checksum finds a burst. -/
theorem crcOf_ne_of_burst {sent received : List UInt8} (h : BurstIn sent received) :
    crcOf sent ≠ crcOf received := by
  intro heq
  have hburst : Burst 16 (bitsOf sent) (bitsOf received) := by
    refine ⟨?_, fun hbits => h.ne (bitsOf_injective hbits), h.within⟩
    rw [length_bitsOf, length_bitsOf, h.length]
  refine feed_ne_of_burst crcPoly_msb hburst 0 ?_
  have hregister := congrArg UInt16.toBitVec heq
  rwa [crcOf, crcOf, foldl_updateCrc_toBitVec, foldl_updateCrc_toBitVec] at hregister

/-! ## Messages stand in frames -/

/-- The bytes are the octets to a reader who takes one after the other. -/
inductive ReadsAs : List UInt8 → List UInt8 → Prop
  | nil : ReadsAs [] []
  | snoc {bytes used octets : List UInt8} {octet : UInt8} (front : ReadsAs bytes octets)
      (last : framing.Reads used (some octet)) : ReadsAs (bytes ++ used) (octets ++ [octet])

/-- The first octets are in front. -/
theorem ReadsAs.take {bytes octets : List UInt8} (h : ReadsAs bytes octets) {k : Nat}
    (hk : k ≤ octets.length) :
    ∃ front rest, bytes = front ++ rest ∧ ReadsAs front (octets.take k) := by
  induction h with
  | nil => exact ⟨[], [], rfl, by rw [List.take_nil]; exact .nil⟩
  | @snoc bytes used octets octet hfront hlast ih =>
    rcases Nat.lt_or_ge octets.length k with hwhole | hless
    · rw [List.take_of_length_le (by rw [List.length_append]; exact hwhole)]
      exact ⟨bytes ++ used, [], (List.append_nil _).symm, .snoc hfront hlast⟩
    · obtain ⟨front, rest, rfl, hreads⟩ := ih hless
      refine ⟨front, rest ++ used, List.append_assoc _ _ _, ?_⟩
      rwa [List.take_append_of_le_length hless]

/-- In the same bytes as many octets are the same. -/
theorem ReadsAs.deterministic {bytes bytes' rest rest' octets octets' : List UInt8}
    (h : ReadsAs bytes octets) (h' : ReadsAs bytes' octets')
    (hsame : bytes ++ rest = bytes' ++ rest') (hlength : octets.length = octets'.length) :
    bytes = bytes' ∧ octets = octets' := by
  induction h generalizing bytes' octets' rest rest' with
  | nil =>
    cases h' with
    | nil => exact ⟨rfl, rfl⟩
    | snoc front last => simp at hlength
  | @snoc bytes used octets octet hfront hlast ih =>
    cases h' with
    | nil => simp at hlength
    | @snoc bytes' used' octets' octet' hfront' hlast' =>
      rw [List.length_append, List.length_append] at hlength
      rw [List.append_assoc, List.append_assoc] at hsame
      obtain ⟨rfl, rfl⟩ := ih hfront' hsame (Nat.add_right_cancel hlength)
      obtain ⟨rfl, rfl⟩ := hlast.deterministic hlast' (List.append_cancel_left hsame)
      exact ⟨rfl, rfl⟩

/-- The octets that the receiver has taken of a frame, if it is in one. -/
def Awaited.Taken (addr : UInt8) : Awaited → List UInt8 → Prop
  | .beginFlag, _ => True
  | .srcAddr, octets => octets = []
  | .dstAddr src, octets => octets = [src]
  | .lenLsb src, octets => octets = [src, addr]
  | .lenMsb src lsb, octets => ∃ l : UInt8, lsb = l.toUInt16 ∧ octets = [src, addr, l]
  | .payload src length kept, octets =>
    ∃ l m : UInt8, length = (l.toUInt16 + m.toUInt16 <<< 8).toNat ∧ kept.length < length ∧
      octets = src :: addr :: l :: m :: kept
  | .crcLsb src kept, octets =>
    ∃ l m : UInt8, kept.length = (l.toUInt16 + m.toUInt16 <<< 8).toNat ∧
      octets = src :: addr :: l :: m :: kept
  | .crcMsb src kept lsb, octets =>
    ∃ l m c : UInt8, kept.length = (l.toUInt16 + m.toUInt16 <<< 8).toNat ∧ lsb = c.toUInt16 ∧
      octets = src :: addr :: l :: m :: (kept ++ [c])

/-- The octets are a frame for the address. -/
def IsFrame (addr : UInt8) (octets : List UInt8) (src : UInt8) (payload : List UInt8)
    (checksum : UInt16) : Prop :=
  ∃ l m c d : UInt8, payload.length = (l.toUInt16 + m.toUInt16 <<< 8).toNat ∧
    checksum = c.toUInt16 + d.toUInt16 <<< 8 ∧
    octets = src :: addr :: l :: m :: (payload ++ [c, d])

/-- A frame for the address stands in the bytes. -/
def HasFrame (addr : UInt8) (bytes : List UInt8) (src : UInt8) (payload : List UInt8)
    (checksum : UInt16) : Prop :=
  ∃ before frame after octets, bytes = before ++ framingBeginFlag :: (frame ++ after) ∧
    ReadsAs frame octets ∧ IsFrame addr octets src payload checksum

/-- A frame for the address begins at a place in the bytes. -/
def HasFrameAt (addr : UInt8) (bytes : List UInt8) (place : Nat) (src : UInt8)
    (payload : List UInt8) (checksum : UInt16) : Prop :=
  ∃ before frame after octets, before.length = place ∧
    bytes = before ++ framingBeginFlag :: (frame ++ after) ∧ ReadsAs frame octets ∧
      IsFrame addr octets src payload checksum

theorem HasFrameAt.hasFrame {addr : UInt8} {bytes : List UInt8} {place : Nat} {src : UInt8}
    {payload : List UInt8} {checksum : UInt16}
    (h : HasFrameAt addr bytes place src payload checksum) :
    HasFrame addr bytes src payload checksum := by
  obtain ⟨before, frame, after, octets, -, hbytes, hreads, hframe⟩ := h
  exact ⟨before, frame, after, octets, hbytes, hreads, hframe⟩

/-- At one place there is one frame. -/
theorem HasFrameAt.unique {addr : UInt8} {bytes : List UInt8} {place : Nat} {src src' : UInt8}
    {payload payload' : List UInt8} {checksum checksum' : UInt16}
    (h : HasFrameAt addr bytes place src payload checksum)
    (h' : HasFrameAt addr bytes place src' payload' checksum') :
    payload = payload' ∧ checksum = checksum' := by
  obtain ⟨before, frame, after, octets, rfl, rfl, hreads, l, m, c, d, hlength, rfl, rfl⟩ := h
  obtain ⟨before', frame', after', octets', hplace, hsame, hreads', l', m', c', d', hlength', rfl,
    rfl⟩ := h'
  obtain ⟨rfl, hbehind⟩ := List.append_inj hsame hplace.symm
  have hframes := (List.cons.inj hbehind).2
  -- the lengths are in the first four octets
  obtain ⟨front, rest, rfl, hfront⟩ := hreads.take (k := 4) (by simp)
  obtain ⟨front', rest', rfl, hfront'⟩ := hreads'.take (k := 4) (by simp)
  rw [List.append_assoc, List.append_assoc] at hframes
  obtain ⟨-, hfour⟩ := hfront.deterministic hfront' hframes rfl
  simp only [List.take_succ_cons, List.take_zero, List.cons.injEq, and_true, true_and] at hfour
  obtain ⟨rfl, rfl, rfl⟩ := hfour
  have hsize : payload.length = payload'.length := hlength.trans hlength'.symm
  rw [← List.append_assoc, ← List.append_assoc] at hframes
  obtain ⟨-, hoctets⟩ := hreads.deterministic hreads' hframes (by simp [hsize])
  obtain ⟨rfl, hcrc⟩ := List.append_inj (List.cons.inj (List.cons.inj (List.cons.inj
    (List.cons.inj hoctets).2).2).2).2 hsize
  simp only [List.cons.injEq, and_true] at hcrc
  obtain ⟨rfl, rfl⟩ := hcrc
  exact ⟨rfl, rfl⟩

section

variable {addr : UInt8} {len : Nat}

theorem taken_ofPayload {src l m : UInt8} {payload octets : List UInt8}
    (hle : payload.length ≤ (l.toUInt16 + m.toUInt16 <<< 8).toNat)
    (hoctets : octets = src :: addr :: l :: m :: payload) :
    (Awaited.ofPayload src (l.toUInt16 + m.toUInt16 <<< 8).toNat payload).Taken addr octets := by
  rw [Awaited.ofPayload]
  by_cases hmore : payload.length < (l.toUInt16 + m.toUInt16 <<< 8).toNat
  · rw [if_pos hmore]
    exact ⟨l, m, rfl, hmore, hoctets⟩
  · rw [if_neg hmore]
    exact ⟨l, m, by omega, hoctets⟩

/-- An octet more, wherever the receiver is in the frame. Behind the last one it waits for the next
frame. -/
theorem Awaited.Taken.accept {a : Awaited} {octets : List UInt8} (h : a.Taken addr octets)
    (octet : UInt8) :
    (a.accept addr len octet).1.Taken addr (octets ++ [octet]) ∧
      ((a.accept addr len octet).2 = [] ∨ ∃ message, (a.accept addr len octet).2 = [message] ∧
        (a.accept addr len octet).1 = .beginFlag ∧
          IsFrame addr (octets ++ [octet]) message.1 message.2 (crcOf message.2)) := by
  cases a with
  | beginFlag => exact ⟨trivial, .inl rfl⟩
  | srcAddr =>
    refine ⟨?_, .inl rfl⟩
    rw [show octets = [] from h]
    rfl
  | dstAddr src =>
    refine ⟨?_, .inl rfl⟩
    rw [show octets = [src] from h]
    show (if octet = addr then Awaited.lenLsb src else .beginFlag).Taken addr [src, octet]
    by_cases hown : octet = addr
    · rw [if_pos hown, hown]
      rfl
    · rw [if_neg hown]
      trivial
  | lenLsb src =>
    refine ⟨⟨octet, rfl, ?_⟩, .inl rfl⟩
    rw [show octets = [src, addr] from h]
    rfl
  | lenMsb src lsb =>
    obtain ⟨l, rfl, rfl⟩ := h
    refine ⟨?_, .inl rfl⟩
    simp only [Awaited.accept]
    split
    · trivial
    · exact taken_ofPayload (Nat.zero_le _) rfl
  | payload src length kept =>
    obtain ⟨l, m, rfl, hmore, rfl⟩ := h
    refine ⟨taken_ofPayload ?_ rfl, .inl rfl⟩
    rw [List.length_append, List.length_singleton]
    exact hmore
  | crcLsb src kept =>
    obtain ⟨l, m, hlength, rfl⟩ := h
    exact ⟨⟨l, m, octet, hlength, rfl, rfl⟩, .inl rfl⟩
  | crcMsb src kept lsb =>
    obtain ⟨l, m, c, hlength, rfl, rfl⟩ := h
    refine ⟨trivial, ?_⟩
    simp only [Awaited.accept]
    split
    · next hcrc =>
      exact .inr ⟨_, rfl, trivial, l, m, c, octet, hlength, hcrc.2, by simp⟩
    · exact .inl rfl

/-- The bytes behind the last flag are what the receiver has taken. It begins behind `start`. -/
def Received (addr : UInt8) (start : Nat) (bytes : List UInt8) (s : Receiver) : Prop :=
  s.awaited = .beginFlag ∧ start ≤ bytes.length ∨ ∃ before frame octets, start ≤ before.length ∧
    bytes = before ++ framingBeginFlag :: (frame ++ if s.escaped then [framingEscFlag] else []) ∧
      ReadsAs frame octets ∧ s.awaited.Taken addr octets

/-- A byte more. Where a message is reported, the next one begins behind it. -/
theorem Received.step {start : Nat} {bytes : List UInt8} {s : Receiver}
    (h : Received addr start bytes s) (b : UInt8) :
    ((receiver addr len).step s b).2 = [] ∧
        Received addr start (bytes ++ [b]) ((receiver addr len).step s b).1 ∨
      ∃ place message, ((receiver addr len).step s b).2 = [message] ∧ start ≤ place ∧
        HasFrameAt addr (bytes ++ [b]) place message.1 message.2 (crcOf message.2) ∧
          Received addr (place + 1) (bytes ++ [b]) ((receiver addr len).step s b).1 := by
  rw [receiver_step]
  have hstart : start ≤ bytes.length := by
    rcases h with ⟨-, hle⟩ | ⟨before, frame, octets, hle, rfl, -, -⟩
    · exact hle
    · rw [List.length_append]
      omega
  by_cases hflag : b = framingBeginFlag
  · rw [if_pos hflag]
    exact .inl ⟨rfl, .inr ⟨bytes, [], [], hstart, by rw [hflag]; rfl, .nil, rfl⟩⟩
  rw [if_neg hflag]
  by_cases houtside : s.awaited = .beginFlag
  · rw [if_pos houtside]
    exact .inl ⟨rfl, .inl ⟨rfl, by rw [List.length_append]; omega⟩⟩
  rw [if_neg houtside]
  obtain ⟨before, frame, octets, hle, hbytes, hreads, htaken⟩ :=
    h.resolve_left fun hbegin => houtside hbegin.1
  -- one or two bytes are the next octet
  have hoctet {used : List UInt8} {octet : UInt8} (hused : framing.Reads used (some octet))
      (hsplit : bytes ++ [b] = before ++ framingBeginFlag :: (frame ++ used)) :
      (s.awaited.accept addr len octet).2 = [] ∧
          Received addr start (bytes ++ [b]) ⟨(s.awaited.accept addr len octet).1, false⟩ ∨
        ∃ place message, (s.awaited.accept addr len octet).2 = [message] ∧ start ≤ place ∧
          HasFrameAt addr (bytes ++ [b]) place message.1 message.2 (crcOf message.2) ∧
            Received addr (place + 1) (bytes ++ [b])
              ⟨(s.awaited.accept addr len octet).1, false⟩ := by
    obtain ⟨hnext, hnone | ⟨message, hmessage, hbegin, hframe⟩⟩ :=
      @Awaited.Taken.accept addr len _ _ htaken octet
    · refine .inl ⟨hnone, .inr ⟨before, frame ++ used, _, hle, ?_, .snoc hreads hused, hnext⟩⟩
      rw [hsplit]
      simp
    · refine .inr ⟨before.length, message, hmessage, hle,
        ⟨before, frame ++ used, [], _, rfl, ?_, .snoc hreads hused, hframe⟩, .inl ⟨hbegin, ?_⟩⟩
      · rw [hsplit, List.append_nil]
      · rw [hsplit, List.length_append, List.length_cons]
        omega
  by_cases hescaped : s.escaped = true
  · rw [if_pos hescaped]
    rw [if_pos hescaped] at hbytes
    exact hoctet (.masked b hflag) (by rw [hbytes]; simp; rfl)
  rw [if_neg hescaped]
  rw [if_neg hescaped, List.append_nil] at hbytes
  by_cases hesc : b = framingEscFlag
  · rw [if_pos hesc]
    refine .inl ⟨rfl, .inr ⟨before, frame, octets, hle, ?_, hreads, htaken⟩⟩
    rw [hbytes, hesc]
    simp
  · rw [if_neg hesc]
    exact hoctet (.plain b hflag hesc) (by rw [hbytes]; simp)

theorem HasFrameAt.append {bytes : List UInt8} {place : Nat} {src : UInt8} {payload : List UInt8}
    {checksum : UInt16} (h : HasFrameAt addr bytes place src payload checksum)
    (more : List UInt8) : HasFrameAt addr (bytes ++ more) place src payload checksum := by
  obtain ⟨before, frame, after, octets, hplace, rfl, hreads, hframe⟩ := h
  exact ⟨before, frame, after ++ more, octets, hplace, by simp, hreads, hframe⟩

/-- Messages stand in frames of their own, one behind the other, each with its checksum. -/
structure StandAt (addr : UInt8) (bytes : List UInt8) (reports : List (Nat × UInt8 × List UInt8)) :
    Prop where
  ordered : (reports.map Prod.fst).Pairwise (· < ·)
  frames : ∀ report ∈ reports,
    HasFrameAt addr bytes report.1 report.2.1 report.2.2 (crcOf report.2.2)

/-- Wherever the receiver is: the messages behind more bytes stand in frames. -/
theorem Received.run {start : Nat} {bytes : List UInt8} {s : Receiver}
    (h : Received addr start bytes s) (more : List UInt8) :
    ∃ reports, reports.map Prod.snd = ((receiver addr len).run s more).2 ∧
      StandAt addr (bytes ++ more) reports ∧ ∀ place ∈ reports.map Prod.fst, start ≤ place := by
  induction more generalizing start bytes s with
  | nil => exact ⟨[], rfl, ⟨.nil, nofun⟩, nofun⟩
  | cons b more ih =>
    have hsplit : bytes ++ b :: more = bytes ++ [b] ++ more := by simp
    rw [Transducer.run_cons, hsplit]
    rcases @Received.step addr len start bytes s h b with
      ⟨hnone, hnext⟩ | ⟨place, message, hmessage, hle, hframe, hnext⟩
    · rw [hnone]
      exact ih hnext
    · obtain ⟨reports, hreports, hstand, hbehind⟩ := ih hnext
      refine ⟨(place, message) :: reports, ?_, ⟨.cons hbehind hstand.ordered, ?_⟩, ?_⟩
      · rw [List.map_cons, hreports, hmessage]
        rfl
      · rintro report (_ | ⟨_, hmem⟩)
        · exact hframe.append more
        · exact hstand.frames report hmem
      · rintro place' (_ | ⟨_, hmem⟩)
        · exact hle
        · exact Nat.le_trans hle (Nat.le_of_lt (hbehind place' hmem))

/-- The messages in a stream stand in frames. -/
theorem messagesIn_sound (bytes : List UInt8) : ∃ reports,
    reports.map Prod.snd = messagesIn addr len bytes ∧ StandAt addr bytes reports := by
  obtain ⟨reports, hreports, hstand, -⟩ :=
    @Received.run addr len 0 [] ⟨.beginFlag, false⟩ (.inl ⟨rfl, Nat.le_refl _⟩) bytes
  exact ⟨reports, hreports, hstand⟩

/-- A frame in which a burst has changed the payload is none in which a message stands. -/
theorem StandAt.not_burst {bytes : List UInt8} {reports : List (Nat × UInt8 × List UInt8)}
    (h : StandAt addr bytes reports) {place : Nat} {src : UInt8} {payload sent : List UInt8}
    (hburst : BurstIn sent payload)
    (hframe : HasFrameAt addr bytes place src payload (crcOf sent)) :
    place ∉ reports.map Prod.fst := by
  intro hmem
  obtain ⟨report, hreport, rfl⟩ := List.mem_map.mp hmem
  obtain ⟨rfl, hcrc⟩ := hframe.unique (h.frames report hreport)
  exact crcOf_ne_of_burst hburst hcrc

end

/-! ## Runs that may lose flags -/

/-- The bytes that are left where some flags are left out, each with the escape byte in front of
it if there is one. -/
inductive FlagsLost : List UInt8 → List UInt8 → Prop
  | nil : FlagsLost [] []
  | kept {bytes heard : List UInt8} (b : UInt8) (rest : FlagsLost bytes heard) :
      FlagsLost (b :: bytes) (b :: heard)
  | lost {used bytes heard : List UInt8} (isFlag : framing.Reads used none)
      (rest : FlagsLost bytes heard) : FlagsLost (used ++ bytes) heard

theorem FlagsLost.refl (bytes : List UInt8) : FlagsLost bytes bytes := by
  induction bytes with
  | nil => exact .nil
  | cons b bytes ih => exact .kept b ih

theorem FlagsLost.append {bytes bytes' heard heard' : List UInt8} (h : FlagsLost bytes heard)
    (h' : FlagsLost bytes' heard') : FlagsLost (bytes ++ bytes') (heard ++ heard') := by
  induction h with
  | nil => exact h'
  | kept b rest ih => exact .kept b ih
  | lost isFlag rest ih =>
    rw [List.append_assoc]
    exact .lost isFlag ih

/-- The reader has done what the receiver does with the bytes that it has used, less some
flags. -/
structure Hears (addr : UInt8) (len : Nat) (r r' : FramedRead)
    (messages : List (UInt8 × List UInt8)) : Prop where
  listens : r'.Listens addr
  hears : ∃ used heard, r.unread = used ++ r'.unread ∧ FlagsLost used heard ∧
    (receiver addr len).run r.receives heard = (r'.receives, messages)

section

variable {addr : UInt8} {len fuel : Nat} {r r' r'' : FramedRead}
  {messages messages' : List (UInt8 × List UInt8)}

theorem Follows.hears (h : Follows addr len r r' messages) : Hears addr len r r' messages := by
  obtain ⟨used, hunread, hrun⟩ := h.consumes
  exact ⟨h.listens, used, used, hunread, .refl used, hrun⟩

theorem Hears.trans (h : Hears addr len r r' messages) (h' : Hears addr len r' r'' messages') :
    Hears addr len r r'' (messages ++ messages') := by
  obtain ⟨used, heard, hunread, hlost, hrun⟩ := h.hears
  obtain ⟨used', heard', hunread', hlost', hrun'⟩ := h'.hears
  refine ⟨h'.listens, used ++ used', heard ++ heard', ?_, hlost.append hlost', ?_⟩
  · rw [hunread, hunread', List.append_assoc]
  · rw [Transducer.run_append, hrun, hrun']

/-- A turn, whether or not it loses a flag. -/
theorem readTurn_hears (h : r.Listens addr) (hrv : r.rv = 0) :
    (∃ r', readTurn len r = (false, r') ∧ r'.rv = 0 ∧ Hears addr len r r' []) ∨
      ∃ r', readTurn len r = (true, r') ∧ Hears addr len r r' r'.message := by
  by_cases hloses : r.LosesFlag
  · -- the flag is used and not heard
    obtain ⟨used, r', heq, hreads, hunread, hsame, hlistens, hrv'⟩ :=
      @readTurn_loses addr len r h hloses
    refine .inl ⟨r', heq, hrv'.trans hrv, hlistens, used, [], hunread, ?_, ?_⟩
    · rw [← List.append_nil used]
      exact .lost hreads .nil
    · rw [hsame]
      rfl
  · have hturned := @readTurn_turned addr len r h hrv hloses
    generalize readTurn len r = result at hturned
    cases hturned with
    | goesOn r' follows rv less => exact .inl ⟨r', rfl, rv, follows.hears⟩
    | leaves r' follows idle => exact .inr ⟨r', rfl, follows.hears⟩

theorem readTurns_hears (h : r.Listens addr) (hrv : r.rv = 0)
    (hturns : readTurns len fuel r = some r') : Hears addr len r r' r'.message := by
  induction fuel generalizing r with
  | zero => cases hturns
  | succ fuel ih =>
    rw [readTurns] at hturns
    rcases @readTurn_hears addr len r h hrv with ⟨r₁, heq, hrv₁, hhears⟩ | ⟨r₁, heq, hhears⟩
    · rw [heq] at hturns
      exact hhears.trans (ih hhears.listens hrv₁ hturns)
    · rw [heq] at hturns
      cases hturns
      exact hhears

theorem readFramedMsg_hears (h : r.Listens addr) (hcall : readFramedMsg len fuel r = some r') :
    Hears addr len r r' r'.message := by
  obtain ⟨hbegin, hrv, -⟩ := @beginCall_follows addr len r h
  rw [readFramedMsg_eq] at hcall
  by_cases hmore : r.beginCall.io.rbTail ≠ r.beginCall.io.rbHead
  · rw [if_pos hmore] at hcall
    exact hbegin.hears.trans (readTurns_hears hbegin.listens hrv hcall)
  · rw [if_neg hmore] at hcall
    cases hcall
    exact (hbegin.noMessage hrv).hears

/-- The messages of a run are those in the bytes that it has used, less some flags. -/
theorem readCalls_hears {n : Nat} (h : r.Listens addr)
    (hcalls : readCalls len fuel n r = some (messages, r')) : Hears addr len r r' messages := by
  induction n generalizing r messages with
  | zero =>
    cases hcalls
    exact (Follows.refl h).hears
  | succ n ih =>
    cases hcall : readFramedMsg len fuel r with
    | none =>
      rw [readCalls, hcall] at hcalls
      cases hcalls
    | some r₁ =>
      have hfirst := readFramedMsg_hears h hcall
      cases hrest : readCalls len fuel n r₁ with
      | none => simp [readCalls, hcall, hrest] at hcalls
      | some result =>
        obtain ⟨messages₁, r₁'⟩ := result
        have hboth := readCalls_succ hcall hrest
        rw [hboth] at hcalls
        cases hcalls
        exact hfirst.trans (ih hfirst.listens hrest)

end

/-! ## Bursts are not reported -/

/-- The table gives the CRC-16 with the reflected polynomial; payloads that differ by a burst have
different checksums; and in every run, whatever the stream, the cuts and the flags that are lost,
the payload of a reported message is none that a burst has made of the payload that its checksum
was sent for: the messages stand in the stream one behind the other, and at no place where a frame
has the checksum of another payload. -/
theorem framing_detects_bursts :
    (∀ payload, crcOf payload = bitwiseCrc payload) ∧
      (∀ sent received, BurstIn sent received → crcOf sent ≠ crcOf received) ∧
      ∀ (addr : UInt8) (len fuel n : Nat) (io : FramingIo) (delivers : Nat → Nat)
        (bytes : List UInt8) (buf : Memory) (remoteAddr : UInt8) (rv : Nat)
        (messages : List (UInt8 × List UInt8)) (reader' : FramedRead),
        readCalls len fuel n (readerOf io addr delivers bytes buf remoteAddr rv) =
            some (messages, reader') →
          ∃ used heard, bytes = used ++ reader'.unread ∧ FlagsLost used heard ∧
            (∀ message ∈ messages, ∃ checksum,
              HasFrame addr heard message.1 message.2 checksum ∧
                ∀ sent, BurstIn sent message.2 → checksum ≠ crcOf sent) ∧
            ∃ reports, reports.map Prod.snd = messages ∧ StandAt addr heard reports ∧
              ∀ place src payload sent, BurstIn sent payload →
                HasFrameAt addr heard place src payload (crcOf sent) →
                  place ∉ reports.map Prod.fst := by
  refine ⟨crcOf_eq_bitwiseCrc, fun _ _ => crcOf_ne_of_burst, ?_⟩
  intro addr len fuel n io delivers bytes buf remoteAddr rv messages reader' hcalls
  obtain ⟨hlistens, hreceives, hunread⟩ :=
    readerOf_listens io addr delivers bytes buf remoteAddr rv
  obtain ⟨used, heard, hsplit, hlost, hrun⟩ := (readCalls_hears hlistens hcalls).hears
  rw [hreceives] at hrun
  have hmessages : messages = messagesIn addr len heard := by
    rw [messagesIn, hrun]
  obtain ⟨reports, hreports, hstand⟩ := @messagesIn_sound addr len heard
  rw [← hmessages] at hreports
  refine ⟨used, heard, hunread.symm.trans hsplit, hlost, fun message hmem => ?_, reports, hreports,
    hstand, fun _ _ _ _ => hstand.not_burst⟩
  obtain ⟨report, hreport, rfl⟩ := List.mem_map.mp (hreports ▸ hmem)
  exact ⟨_, (hstand.frames report hreport).hasFrame,
    fun sent hburst => (crcOf_ne_of_burst hburst).symm⟩

/-- The message `[5]`, reported from a stream with a broken frame in front of it, was not sent
as `[4]`. -/
theorem framing_detects_bursts_broken :
    ∃ messages reader', readCalls 8 40 4
        (readerOf (framingIOFor 1) 1 (fun _ => 1) brokenStream (fun _ => 0) 0 0) =
          some (messages, reader') ∧ messages = [(2, [5])] ∧
        ∀ message ∈ messages, ∃ heard checksum, HasFrame 1 heard message.1 message.2 checksum ∧
          checksum ≠ crcOf [4] := by
  have hrun : (readCalls 8 40 4 (readerOf (framingIOFor 1) 1 (fun _ => 1) brokenStream
      (fun _ => 0) 0 0)).map Prod.fst = some [(2, [5])] := by decide +kernel
  obtain ⟨⟨messages, reader'⟩, hcalls, hmessages⟩ := Option.map_eq_some_iff.mp hrun
  dsimp only at hmessages
  obtain ⟨used, heard, -, -, hsound, -⟩ :=
    framing_detects_bursts.2.2 1 8 40 4 (framingIOFor 1) (fun _ => 1) brokenStream (fun _ => 0) 0 0
      messages reader' hcalls
  refine ⟨messages, reader', hcalls, hmessages, fun message hmem => ?_⟩
  obtain ⟨checksum, hframe, hsent⟩ := hsound message hmem
  refine ⟨heard, checksum, hframe, hsent [4] ?_⟩
  rw [hmessages, List.mem_singleton] at hmem
  rw [hmem]
  -- the octets differ in their lowest bit
  refine ⟨rfl, by decide, 0, fun i hi => ⟨Nat.zero_le i, ?_⟩⟩
  by_contra hlarge
  refine hi ?_
  rw [List.getElem?_eq_none, List.getElem?_eq_none] <;> rw [length_bitsOf] <;> simp <;> omega

end XrceClient
