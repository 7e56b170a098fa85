import XrceClient.Transport.FramingWrite

/-!
# The ring of the reader

What the reader has taken from the transport and not used yet, and what it does to the
bytes that are still to be read: `getNextOctet` takes a stuffed octet from their start, and
`framingReadTransport` moves bytes from the transport into the ring.

- `unread`: the bytes in the ring, and behind them the bytes of the transport.
- `Later`: the transport after some calls of the callback.
-/

namespace XrceClient

open ByteMemory

namespace FramingIo

/-- The positions of the ring lie in the block. -/
structure RingOk (io : FramingIo) : Prop where
  tail : io.rbTail < framingBufferSize
  head : io.rbHead < framingBufferSize

/-- The bytes in the ring. -/
def ring (io : FramingIo) : List UInt8 :=
  ringContents framingBufferSize io.rb io.rbTail io.rbHead

variable {io : FramingIo}

theorem ring_eq_nil_iff (h : io.RingOk) : io.ring = [] ↔ io.rbHead = io.rbTail :=
  ringContents_eq_nil_iff h.tail h.head

theorem next_lt (n : Nat) : n % framingBufferSize < framingBufferSize :=
  Nat.mod_lt _ (by decide)

/-- The first byte of the ring. -/
theorem ring_cons (h : io.RingOk) {b : UInt8} {bs : List UInt8} (hring : io.ring = b :: bs) :
    io.rbHead ≠ io.rbTail ∧ io.rb io.rbTail = b ∧
      { io with rbTail := (io.rbTail + 1) % framingBufferSize }.ring = bs := by
  have hne : io.rbHead ≠ io.rbTail := by
    intro heq
    rw [(ring_eq_nil_iff h).mpr heq] at hring
    cases hring
  rw [ring, ringContents_pop h.tail h.head hne] at hring
  exact ⟨hne, (List.cons.inj hring).1, (List.cons.inj hring).2⟩

theorem hasRoom (h : io.ring.length ≤ 1) : io.ring.length + 1 < framingBufferSize :=
  Nat.lt_of_le_of_lt (Nat.succ_le_succ h) (by decide)

theorem ringOk_next (h : io.RingOk) :
    { io with rbTail := (io.rbTail + 1) % framingBufferSize }.RingOk := ⟨next_lt _, h.head⟩

/-- A frame condition: only the ring has changed. -/
def RingOnly (io io' : FramingIo) : Prop :=
  io' = { io with rb := io'.rb, rbHead := io'.rbHead, rbTail := io'.rbTail }

theorem RingOnly.refl (io : FramingIo) : io.RingOnly io := rfl

theorem RingOnly.trans {io io' io'' : FramingIo} (h : io.RingOnly io') (h' : io'.RingOnly io'') :
    io.RingOnly io'' := by
  rw [RingOnly] at h h' ⊢
  rw [h', h]

theorem RingOnly.localAddr {io io' : FramingIo} (h : io.RingOnly io') :
    io'.localAddr = io.localAddr := by
  rw [h]

end FramingIo

open FramingIo

/-! ## Taking an octet -/

section

variable {io : FramingIo}

/-- The first of the stuffed octets, with the flags of the protocol. -/
theorem framing_cases (octet : UInt8) (octets : List UInt8) :
    (framing.stuff (octet :: octets) = octet :: framing.stuff octets ∧
        framingBeginFlag ≠ octet ∧ framingEscFlag ≠ octet) ∨
      ∃ c, framing.stuff (octet :: octets) = framingEscFlag :: c :: framing.stuff octets ∧
        framingBeginFlag ≠ c ∧ c ^^^ framingXorFlag = octet := by
  rcases @Stuffing.stuff_cons_cases framing octet octets with ⟨h, hbegin, hesc⟩ | ⟨c, h, hbegin, hmask⟩
  · exact .inl ⟨h, hbegin.symm, hesc.symm⟩
  · exact .inr ⟨c, h, hbegin.symm, hmask⟩

/-- Of the stuffed octets in front of the unread bytes, the first one is taken; or its bytes are
not all in the ring yet. -/
theorem getNextOctet_stuff (h : io.RingOk) {octet : UInt8} {octets pending rest : List UInt8}
    (hunread : io.ring ++ pending = framing.stuff (octet :: octets) ++ rest) :
    (∃ io', getNextOctet io = (true, octet, io') ∧ io'.RingOk ∧ io.RingOnly io' ∧
        io'.ring ++ pending = framing.stuff octets ++ rest ∧
        io'.ring.length < io.ring.length) ∨
      (getNextOctet io = (false, 0, io) ∧ io.ring.length ≤ 1 ∧ pending ≠ []) := by
  cases hring : io.ring with
  | nil =>
    refine .inr ⟨?_, Nat.zero_le _, ?_⟩
    · rw [getNextOctet, if_neg (not_not.mpr ((ring_eq_nil_iff h).mp hring))]
    · rintro rfl
      rw [hring, List.append_nil, Stuffing.stuff_cons] at hunread
      have hnil := (List.append_eq_nil_iff.mp hunread.symm).1
      exact Stuffing.stuffOctet_ne_nil octet (List.append_eq_nil_iff.mp hnil).1
  | cons b bs =>
    obtain ⟨hne, hfirst, hrest⟩ := ring_cons h hring
    rw [hring] at hunread
    -- the octet is in the ring as it is, or as two bytes
    rcases framing_cases octet octets with
      ⟨hplain, hbegin, hesc⟩ | ⟨c, hspecial, hbegin, hmask⟩
    · -- a byte that stands for itself
      rw [hplain] at hunread
      obtain ⟨rfl, htail⟩ := List.cons.inj hunread
      refine .inl ⟨_, ?_, ringOk_next h, rfl, ?_, ?_⟩
      · rw [getNextOctet, if_pos hne, hfirst, if_pos hesc]
        dsimp only
        rw [decide_eq_true hbegin]
      · rw [hrest]
        exact htail
      · rw [hrest]
        exact Nat.lt_succ_self _
    · -- the escape byte, and the masked byte behind it
      rw [hspecial] at hunread
      obtain ⟨rfl, htail⟩ := List.cons.inj hunread
      have hesc : ¬ framingEscFlag ≠ io.rb io.rbTail := not_not.mpr hfirst.symm
      cases bs with
      | nil =>
        have hempty := (ring_eq_nil_iff (ringOk_next h)).mp hrest
        refine .inr ⟨?_, Nat.le_refl 1, ?_⟩
        · rw [getNextOctet, if_pos hne, if_neg hesc]
          dsimp only at hempty ⊢
          rw [if_neg (not_not.mpr hempty.symm)]
        · rintro rfl
          cases htail
      | cons b' bs =>
        obtain ⟨rfl, htail'⟩ := List.cons.inj htail
        obtain ⟨hne', hsecond, hrest'⟩ := ring_cons (ringOk_next h) hrest
        dsimp only at hne' hsecond hrest'
        rw [Nat.mod_add_mod] at hrest'
        refine .inl ⟨{ io with rbTail := (io.rbTail + 2) % framingBufferSize }, ?_,
          ⟨next_lt _, h.head⟩, rfl, ?_, ?_⟩
        · rw [getNextOctet, if_pos hne, if_neg hesc]
          dsimp only
          rw [if_pos (Ne.symm hne'), hsecond, if_pos hbegin, hmask]
        · rw [hrest']
          exact htail'
        · rw [hrest', List.length_cons]
          exact Nat.lt_succ_of_lt (Nat.lt_succ_self _)

end

/-- What `uxr_get_next_octet` makes of the bytes in the ring: an octet, or a flag; or they are
not enough. -/
inductive NextOctet (io : FramingIo) : Bool × UInt8 × FramingIo → Prop
  | taken (used : List UInt8) (octet : UInt8) (io' : FramingIo)
      (reads : framing.Reads used (some octet)) (ring : io.ring = used ++ io'.ring)
      (ok : io'.RingOk) (only : io.RingOnly io') : NextOctet io (true, octet, io')
  | flag (used : List UInt8) (io' : FramingIo) (reads : framing.Reads used none)
      (ring : io.ring = used ++ io'.ring) (ok : io'.RingOk) (only : io.RingOnly io') :
      NextOctet io (false, framingBeginFlag, io')
  | short (ring : io.ring = [] ∨ io.ring = [framingEscFlag]) : NextOctet io (false, 0, io)

theorem getNextOctet_next {io : FramingIo} (h : io.RingOk) : NextOctet io (getNextOctet io) := by
  cases hring : io.ring with
  | nil =>
    rw [getNextOctet, if_neg (not_not.mpr ((ring_eq_nil_iff h).mp hring))]
    exact .short (.inl hring)
  | cons b bs =>
    obtain ⟨hne, hfirst, hrest⟩ := ring_cons h hring
    rw [getNextOctet, if_pos hne, hfirst]
    by_cases hesc : framingEscFlag = b
    · -- the escape byte, and what is behind it
      rw [if_neg (not_not.mpr hesc)]
      dsimp only
      cases bs with
      | nil =>
        have hempty := (ring_eq_nil_iff (ringOk_next h)).mp hrest
        dsimp only at hempty
        rw [if_neg (not_not.mpr hempty.symm)]
        exact .short (.inr (by rw [hring, hesc]))
      | cons c bs =>
        obtain ⟨hne', hsecond, hrest'⟩ := ring_cons (ringOk_next h) hrest
        dsimp only at hne' hsecond hrest'
        rw [Nat.mod_add_mod] at hrest'
        have hok' : { io with rbTail := (io.rbTail + 2) % framingBufferSize }.RingOk :=
          ⟨next_lt _, h.head⟩
        rw [if_pos (Ne.symm hne'), hsecond]
        by_cases hbegin : framingBeginFlag = c
        · rw [if_neg (not_not.mpr hbegin), ← hbegin]
          refine .flag [framingEscFlag, framingBeginFlag] _ .escapedFlag ?_ hok' rfl
          rw [hring, ← hesc, hrest', hbegin]
          rfl
        · rw [if_pos hbegin]
          refine .taken [framingEscFlag, c] _ _ (.masked c (Ne.symm hbegin)) ?_ hok' rfl
          rw [hring, ← hesc, hrest']
          rfl
    · rw [if_pos hesc]
      dsimp only
      by_cases hbegin : framingBeginFlag = b
      · rw [decide_eq_false (not_not.mpr hbegin), ← hbegin]
        refine .flag [framingBeginFlag] _ .flag ?_ (ringOk_next h) rfl
        rw [hring, hrest, hbegin]
        rfl
      · rw [decide_eq_true hbegin]
        refine .taken [b] b _ (.plain b (Ne.symm hbegin) (Ne.symm hesc)) ?_ (ringOk_next h) rfl
        rw [hring, hrest]
        rfl

/-! ## The read callback -/

/-- The next call of the callback delivers something. -/
def ReadTransport.Delivers (transport : ReadTransport) : Prop :=
  0 < transport.delivers transport.calls ∧ transport.pending ≠ []

instance (transport : ReadTransport) : Decidable transport.Delivers :=
  inferInstanceAs (Decidable (_ ∧ _))

/-- A transport after some calls of its callback. What the calls deliver comes from the front of
what is pending; where nothing was delivered although something is pending, no call meant to. -/
structure ReadTransport.Later (transport transport' : ReadTransport) : Prop where
  delivers : transport'.delivers = transport.delivers
  calls : transport.calls ≤ transport'.calls
  pending : ∃ bs, transport.pending = bs ++ transport'.pending
  idle : transport'.pending = transport.pending → transport.pending ≠ [] →
    ∀ k, transport.calls ≤ k → k < transport'.calls → transport.delivers k = 0

namespace ReadTransport

variable {t t' t'' : ReadTransport}

theorem Later.refl (t : ReadTransport) : t.Later t :=
  ⟨rfl, Nat.le_refl _, ⟨[], rfl⟩, fun _ _ _ h h' => absurd h' (Nat.not_lt.mpr h)⟩

theorem Later.length_le (h : t.Later t') : t'.pending.length ≤ t.pending.length := by
  obtain ⟨bs, hbs⟩ := h.pending
  rw [hbs, List.length_append]
  exact Nat.le_add_left _ _

theorem Later.eq_of_length (h : t.Later t') (hlength : t.pending.length ≤ t'.pending.length) :
    t'.pending = t.pending := by
  obtain ⟨bs, hbs⟩ := h.pending
  rw [hbs, List.length_append] at hlength
  have hnil : bs = [] := List.length_eq_zero_iff.mp (by omega)
  rw [hbs, hnil, List.nil_append]

theorem Later.trans (h : t.Later t') (h' : t'.Later t'') : t.Later t'' := by
  obtain ⟨bs, hbs⟩ := h.pending
  obtain ⟨bs', hbs'⟩ := h'.pending
  refine ⟨h'.delivers.trans h.delivers, Nat.le_trans h.calls h'.calls,
    ⟨bs ++ bs', by rw [hbs, hbs', List.append_assoc]⟩, ?_⟩
  intro hsame hpending k hk hk'
  have hlength := congrArg List.length hsame
  have hle := h.length_le
  have hle' := h'.length_le
  have hsame₁ : t'.pending = t.pending := h.eq_of_length (by omega)
  have hsame₂ : t''.pending = t'.pending := h'.eq_of_length (by omega)
  rcases Nat.lt_or_ge k t'.calls with hearly | hlate
  · exact h.idle hsame₁ hpending k hk hearly
  · rw [← h.delivers]
    exact h'.idle hsame₂ (hsame₁ ▸ hpending) k hlate hk'

/-- A call for at least one byte. -/
theorem later_read {size : Nat} (hsize : 0 < size) : t.Later (t.read size).2 := by
  refine ⟨rfl, Nat.le_succ _, ⟨_, (List.take_append_drop _ _).symm⟩, ?_⟩
  intro hsame hpending k hk hk'
  have hcall : k = t.calls := Nat.le_antisymm (Nat.le_of_lt_succ hk') hk
  have hlength := congrArg List.length hsame
  simp only [read, List.length_drop] at hlength
  have hpos := List.length_pos_iff.mpr hpending
  rw [hcall]
  omega

end ReadTransport

/-! ## Reading into the ring -/

/-- Bytes were moved from the transport into the ring. -/
structure MovesIn (io : FramingIo) (transport : ReadTransport) (bytesRead : Nat) (io' : FramingIo)
    (transport' : ReadTransport) : Prop where
  ok : io'.RingOk
  only : io.RingOnly io'
  moved : ∃ bs, io'.ring = io.ring ++ bs ∧ transport.pending = bs ++ transport'.pending ∧
    bs.length = bytesRead
  later : transport.Later transport'

section

variable {io io' : FramingIo} {transport transport' : ReadTransport} {bytesRead : Nat}

theorem MovesIn.unread (h : MovesIn io transport bytesRead io' transport') :
    io'.ring ++ transport'.pending = io.ring ++ transport.pending := by
  obtain ⟨bs, hring, hpending, -⟩ := h.moved
  rw [hring, hpending, List.append_assoc]

theorem MovesIn.trans {io'' : FramingIo} {transport'' : ReadTransport} {bytesRead' : Nat}
    (h : MovesIn io transport bytesRead io' transport')
    (h' : MovesIn io' transport' bytesRead' io'' transport'') :
    MovesIn io transport (bytesRead + bytesRead') io'' transport'' := by
  obtain ⟨bs, hring, hpending, hlength⟩ := h.moved
  obtain ⟨bs', hring', hpending', hlength'⟩ := h'.moved
  refine ⟨h'.ok, h.only.trans h'.only, ⟨bs ++ bs', ?_, ?_, ?_⟩, h.later.trans h'.later⟩
  · rw [hring', hring, List.append_assoc]
  · rw [hpending, hpending', List.append_assoc]
  · rw [List.length_append, hlength, hlength']

/-- One call, for bytes that have room before the end of the block and before `tail`. -/
theorem readIntoRing_movesIn (h : io.RingOk) (transport : ReadTransport) {size : Nat}
    (hsize : 0 < size) (hend : io.rbHead + size ≤ framingBufferSize)
    (hroom : io.ring.length + size < framingBufferSize) :
    MovesIn io transport (readIntoRing io transport size).1 (readIntoRing io transport size).2.1
      (readIntoRing io transport size).2.2 := by
  have hle : (transport.read size).1.length ≤ size := by
    rw [ReadTransport.read, List.length_take]
    omega
  rw [ring, ringContents_length] at hroom
  generalize hread : transport.read size = result at hle
  rw [readIntoRing, hread]
  have hpending : transport.pending = result.1 ++ result.2.pending := by
    rw [← hread]
    exact (List.take_append_drop _ _).symm
  have hlater : transport.Later result.2 := hread ▸ ReadTransport.later_read hsize
  refine ⟨⟨h.tail, next_lt _⟩, rfl, ⟨result.1, ?_, hpending, rfl⟩, hlater⟩
  exact ringContents_write h.tail h.head (by omega) (by omega)

theorem readIntoRing_pos_iff (io : FramingIo) (transport : ReadTransport) {size : Nat}
    (hsize : 0 < size) : 0 < (readIntoRing io transport size).1 ↔ transport.Delivers := by
  rw [ReadTransport.Delivers, ← List.length_pos_iff]
  simp only [readIntoRing, ReadTransport.read, List.length_take]
  omega

/-- The two parts of the room: up to the end of the block, and at its start. -/
structure Room (io : FramingIo) (avLen : Nat × Nat) : Prop where
  fits : io.rbHead + avLen.1 ≤ framingBufferSize
  free : io.ring.length + avLen.1 + avLen.2 < framingBufferSize
  second : 0 < avLen.2 → io.rbHead + avLen.1 = framingBufferSize

theorem availableLength_room (h : io.RingOk) (hreset : io.rbHead = io.rbTail → io.rbHead = 0) :
    Room io (availableLength io) ∧
      (io.ring.length + 1 < framingBufferSize → 0 < (availableLength io).1) := by
  have ht := h.tail
  have hh := h.head
  have hlength : io.ring.length = ringLength framingBufferSize io.rbTail io.rbHead :=
    ringContents_length
  rw [availableLength]
  rw [framingBufferSize] at *
  rcases ringLength_cases ht hh with ⟨hle, hring⟩ | ⟨hlt, hring⟩
  · split
    · next heq =>
      have hzero := hreset heq
      refine ⟨⟨?_, ?_, ?_⟩, ?_⟩ <;> dsimp only [framingBufferSize] <;> omega
    · split
      · split
        · refine ⟨⟨?_, ?_, ?_⟩, ?_⟩ <;> dsimp only [framingBufferSize] <;> omega
        · refine ⟨⟨?_, ?_, ?_⟩, ?_⟩ <;> dsimp only [framingBufferSize] <;> omega
      · omega
  · rw [if_neg (by omega), if_neg (by omega)]
    refine ⟨⟨?_, ?_, ?_⟩, ?_⟩ <;> dsimp only [framingBufferSize] <;> omega

/-- A limit leaves room, and asks for something where there is room for something. -/
theorem limitLength_room {avLen : Nat × Nat} (hroom : Room io avLen) {maxSize : Nat}
    (hmax : 0 < maxSize) (hsome : 0 < avLen.1) :
    Room io (limitLength maxSize avLen) ∧ 0 < (limitLength maxSize avLen).1 := by
  obtain ⟨hfits, hfree, hsecond⟩ := hroom
  rw [limitLength]
  split
  · exact ⟨⟨by dsimp only; omega, by dsimp only; omega, nofun⟩, hmax⟩
  · split
    · exact ⟨⟨hfits, by dsimp only; omega, fun _ => hsecond (by omega)⟩, hsome⟩
    · exact ⟨⟨hfits, hfree, hsecond⟩, hsome⟩

/-- Bytes that are asked for where there is room, in one part or in two. -/
theorem readParts_movesIn (h : io.RingOk) (transport : ReadTransport) {avLen : Nat × Nat}
    (hroom : Room io avLen) (hsome : 0 < avLen.1) :
    let first := readIntoRing io transport avLen.1
    let second := readIntoRing first.2.1 first.2.2 avLen.2
    MovesIn io transport first.1 first.2.1 first.2.2 ∧
      (0 < first.1 ∧ first.1 = avLen.1 ∧ 0 < avLen.2 →
        MovesIn io transport (first.1 + second.1) second.2.1 second.2.2) := by
  intro first second
  have hfirst := readIntoRing_movesIn h transport hsome hroom.fits
    (Nat.lt_of_le_of_lt (Nat.le_add_right _ _) hroom.free)
  refine ⟨hfirst, ?_⟩
  rintro ⟨-, hall, hmore⟩
  -- the first part ends at the end of the block
  have hhead : first.2.1.rbHead = 0 := by
    change (io.rbHead + first.1) % framingBufferSize = 0
    rw [hall, hroom.second hmore, Nat.mod_self]
  obtain ⟨bs, hring, -, hlength⟩ := hfirst.moved
  have hfree := hroom.free
  have hbound : first.2.1.ring.length + avLen.2 < framingBufferSize := by
    rw [hring, List.length_append, hlength]
    change _ + first.1 + avLen.2 < _
    rw [hall]
    exact hfree
  have hend : first.2.1.rbHead + avLen.2 ≤ framingBufferSize := by
    rw [hhead]
    omega
  exact hfirst.trans (readIntoRing_movesIn hfirst.ok first.2.2 hmore hend hbound)

/-- An empty ring begins at the start of the block. -/
def FramingIo.rewind (io : FramingIo) : FramingIo :=
  if io.rbHead = io.rbTail then { io with rbHead := 0, rbTail := 0 } else io

theorem rewind_ok (h : io.RingOk) :
    io.rewind.RingOk ∧ io.RingOnly io.rewind ∧ io.rewind.ring = io.ring ∧
      io.rewind.rb = io.rb ∧ (io.rewind.rbHead = io.rewind.rbTail → io.rewind.rbHead = 0) := by
  have hpos : 0 < framingBufferSize := by decide
  unfold rewind
  split
  · next hempty =>
    have hok : { io with rbHead := 0, rbTail := 0 }.RingOk := ⟨hpos, hpos⟩
    refine ⟨hok, rfl, ?_, rfl, fun _ => rfl⟩
    rw [(ring_eq_nil_iff h).mpr hempty]
    exact (ring_eq_nil_iff hok).mpr rfl
  · next hne => exact ⟨h, RingOnly.refl io, rfl, rfl, fun hempty => absurd hempty hne⟩

/-- A read takes up to two calls of the callback, behind the ring that was rewound. -/
theorem framingReadTransport_eq (transport : ReadTransport) (maxSize : Nat) :
    framingReadTransport io transport maxSize =
      let avLen := limitLength maxSize (availableLength io.rewind)
      let first := readIntoRing io.rewind transport avLen.1
      let second := readIntoRing first.2.1 first.2.2 avLen.2
      if 0 < avLen.1 then
        if 0 < first.1 ∧ first.1 = avLen.1 ∧ 0 < avLen.2 then (first.1 + second.1, second.2)
        else first
      else (0, io.rewind, transport) := rfl

/-- The ring is read into; and one that has room is read into by a call of the callback. -/
theorem framingReadTransport_movesIn (h : io.RingOk) (transport : ReadTransport) {maxSize : Nat}
    (hmax : 0 < maxSize) :
    MovesIn io transport (framingReadTransport io transport maxSize).1
        (framingReadTransport io transport maxSize).2.1
        (framingReadTransport io transport maxSize).2.2 ∧
      (io.ring.length + 1 < framingBufferSize →
        transport.calls < (framingReadTransport io transport maxSize).2.2.calls ∧
          (0 < (framingReadTransport io transport maxSize).1 ↔ transport.Delivers)) := by
  obtain ⟨hok₀, honly₀, hring₀, -, hzero⟩ := rewind_ok h
  obtain ⟨hroom, hsome⟩ := availableLength_room hok₀ hzero
  have hstart {n : Nat} {io' : FramingIo} {transport' : ReadTransport}
      (hmoves : MovesIn io.rewind transport n io' transport') :
      MovesIn io transport n io' transport' :=
    ⟨hmoves.ok, honly₀.trans hmoves.only, hring₀ ▸ hmoves.moved, hmoves.later⟩
  rw [framingReadTransport_eq]
  dsimp only
  by_cases hav : 0 < (availableLength io.rewind).1
  · obtain ⟨hroom', hsome'⟩ := limitLength_room hroom hmax hav
    rw [if_pos hsome']
    obtain ⟨hfirst, hsecond⟩ := readParts_movesIn hok₀ transport hroom' hsome'
    have hpos := readIntoRing_pos_iff io.rewind transport hsome'
    split
    · next hmore =>
      refine ⟨hstart (hsecond hmore), fun _ => ⟨Nat.lt_succ_of_lt (Nat.lt_succ_self _), ?_⟩⟩
      exact ⟨fun _ => hpos.mp hmore.1, fun _ => Nat.lt_of_lt_of_le hmore.1 (Nat.le_add_right _ _)⟩
    · exact ⟨hstart hfirst, fun _ => ⟨Nat.lt_succ_self _, hpos⟩⟩
  · have hnone : ¬ 0 < (limitLength maxSize (availableLength io.rewind)).1 := by
      rw [limitLength]
      split
      · omega
      · split <;> exact hav
    rw [if_neg hnone]
    refine ⟨hstart ⟨hok₀, RingOnly.refl io.rewind, ⟨[], (List.append_nil _).symm, rfl, rfl⟩,
      ReadTransport.Later.refl _⟩, fun hshort => absurd (hsome (hring₀ ▸ hshort)) hav⟩

end

end XrceClient
