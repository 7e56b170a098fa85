import XrceClient.Session.CutReading

/-!
# What the deserializers accept

From any buffer that stands in its block a deserializer reads a value that the type of the source
has room for, or nothing.

- `UcdrBuffer.Sound`: the buffer is in error, or in front of its end. Reading keeps it.
- `ReadsOnly`: what is read has a property; `ReadsOnly.bind` for one part and those behind it.
- `readsOnly_…`: integers, bytes, strings, sequences and optional content.
-/

namespace XrceClient

open ByteMemory

/-- Optional content that fits, if there is some. -/
def OptionFits {α : Type} (fits : α → Prop) (content : Option α) : Prop := ∀ a ∈ content, fits a

/-- A buffer stands in its block, unless it is in error. -/
def UcdrBuffer.Sound (ub : UcdrBuffer) : Prop := ub.error = true ∨ ub.iterator ≤ ub.final

section

variable {α β : Type}

/-- From a sound buffer the deserializer reads nothing, or what has the property. -/
def ReadsOnly (deserialize : StateM (Memory × UcdrBuffer) (Option α)) (fits : α → Prop) : Prop :=
  ∀ m ub, ub.Sound → ∃ result ub', deserialize.run (m, ub) = (result, m, ub') ∧ ub'.Sound ∧
    OptionFits fits result

theorem ReadsOnly.sound {p : StateM (Memory × UcdrBuffer) (Option α)} {fits : α → Prop}
    (hp : ReadsOnly p fits) {s : Memory × UcdrBuffer} (hsound : s.2.Sound) :
    (p.run s).2.2.Sound := by
  obtain ⟨result, ub', hrun, hsound', -⟩ := hp s.1 s.2 hsound
  rw [show p.run s = (result, s.1, ub') from hrun]
  exact hsound'

theorem readsOnly_pure {result : Option α} {fits : α → Prop} (h : OptionFits fits result) :
    ReadsOnly (pure result) fits :=
  fun _ ub hsound => ⟨result, ub, rfl, hsound, h⟩

theorem ReadsOnly.bind {p : StateM (Memory × UcdrBuffer) (Option α)}
    {f : Option α → StateM (Memory × UcdrBuffer) (Option β)} {fits : α → Prop}
    {fits' : β → Prop} (hp : ReadsOnly p fits)
    (hf : ∀ result, OptionFits fits result → ReadsOnly (f result) fits') :
    ReadsOnly (p >>= f) fits' := by
  intro m ub hsound
  obtain ⟨result, ub₁, hrun, hsound₁, hfits⟩ := hp m ub hsound
  obtain ⟨result', ub₂, hrun', hsound₂, hfits'⟩ := hf result hfits m ub₁ hsound₁
  refine ⟨result', ub₂, ?_, hsound₂, hfits'⟩
  rw [StateT.run_bind, hrun]
  exact hrun'

theorem ReadsOnly.bind_pure {p : StateM (Memory × UcdrBuffer) (Option α)} {fits : α → Prop}
    {fits' : β → Prop} (hp : ReadsOnly p fits) {f : Option α → Option β}
    (hf : ∀ result, OptionFits fits result → OptionFits fits' (f result)) :
    ReadsOnly (p >>= fun result => pure (f result)) fits' :=
  hp.bind fun result hfits => readsOnly_pure (hf result hfits)

theorem ReadsOnly.map {p : StateM (Memory × UcdrBuffer) (Option α)} {fits : α → Prop}
    {fits' : β → Prop} (hp : ReadsOnly p fits) {f : α → β} (hf : ∀ a, fits a → fits' (f a)) :
    ReadsOnly (Option.map f <$> p) fits' := by
  refine hp.bind_pure (f := Option.map f) fun result hfits => ?_
  intro b hb
  obtain ⟨a, ha, rfl⟩ := Option.mem_map.mp hb
  exact hf a (hfits a ha)

theorem ReadsOnly.mono {p : StateM (Memory × UcdrBuffer) (Option α)} {fits fits' : α → Prop}
    (hp : ReadsOnly p fits) (h : ∀ a, fits a → fits' a) : ReadsOnly p fits' := by
  intro m ub hsound
  obtain ⟨result, ub', hrun, hsound', hfits⟩ := hp m ub hsound
  exact ⟨result, ub', hrun, hsound', fun a ha => h a (hfits a ha)⟩

end

/-! ## Parts -/

section

variable [MicroCdr] [BoundedMicroCdr] {α : Type}

/-- An integer is read, or the buffer is in error. -/
theorem readsOnly_scalar {width : Nat} (hwidth : width ∈ [1, 2, 4, 8]) :
    ReadsOnly (readScalar Device.plain width) fun _ => True := by
  intro m ub hsound
  by_cases herror : ub.error = true
  · obtain ⟨ub', hread, herror'⟩ := broken_scalar hwidth m ub herror
    exact ⟨none, ub', hread, .inl herror', fun _ _ => trivial⟩
  have hok : ub.error = false := Bool.eq_false_iff.mpr herror
  have hle : ub.iterator ≤ ub.final := hsound.resolve_left herror
  by_cases hpad : ub.iterator + ub.padding width ≤ ub.final
  · have halign := LawfulMicroCdr.alignTo ub width hwidth hle
    rw [Nat.min_eq_left hpad] at halign
    by_cases hroom : ub.iterator + ub.padding width + width ≤ ub.final
    · have hget := gets_room Device.plain width m (ucdrAlignTo ub width)
        (by rw [halign]; exact hok) (by rw [halign]; exact hroom)
      have hread := LawfulMicroCdr.deserialize ub.endianness hwidth hpad hget
      rw [halign] at hread
      exact ⟨_, _, hread, .inr hroom, fun _ _ => trivial⟩
    · obtain ⟨ub', hstops, herror'⟩ := @getStops_plain width m (ucdrAlignTo ub width)
        (by rw [halign]; exact hok) (by rw [halign]; exact hpad)
        (by rw [halign]; exact Nat.lt_of_not_le hroom)
      exact ⟨none, _, LawfulMicroCdr.deserialize_stops ub.endianness hwidth hpad hstops,
        .inl herror', fun _ _ => trivial⟩
  · obtain ⟨ub', hread, herror'⟩ := BoundedMicroCdr.deserialize_cut m ub.endianness hwidth hok hle
      (Nat.lt_of_not_le hpad)
    exact ⟨none, ub', hread, .inl herror', fun _ _ => trivial⟩

/-- As many bytes are read as are wanted, or the buffer is in error. -/
theorem readsOnly_array (n : Nat) :
    ReadsOnly (readArray Device.plain n) fun bytes => bytes.length = n := by
  intro m ub hsound
  by_cases hn : n = 0
  · subst hn
    refine ⟨some [], _, LawfulMicroCdr.deserializeArray (Gets.zero m ub), hsound, ?_⟩
    intro bytes hbytes
    obtain rfl := Option.some.inj hbytes
    rfl
  by_cases herror : ub.error = true
  · have hread : ucdrDeserializeArray Device.plain m ub n = _ :=
      StickyMicroCdr.deserializeArray_error m (Nat.pos_of_ne_zero hn) herror
    exact ⟨none, _, hread, .inl herror, fun _ hmem => absurd hmem nofun⟩
  have hok : ub.error = false := Bool.eq_false_iff.mpr herror
  have hle : ub.iterator ≤ ub.final := hsound.resolve_left herror
  by_cases hroom : ub.iterator + n ≤ ub.final
  · have hget := gets_room Device.plain n m ub hok hroom
    refine ⟨_, _, LawfulMicroCdr.deserializeArray hget, .inr hroom, ?_⟩
    intro bytes hbytes
    obtain rfl := Option.some.inj hbytes
    exact read_length _ _ _
  · obtain ⟨ub', hstops, herror'⟩ := getStops_plain m hok hle (Nat.lt_of_not_le hroom)
    exact ⟨none, _, LawfulMicroCdr.deserializeArray_stops hstops, .inl herror',
      fun _ hmem => absurd hmem nofun⟩

omit [MicroCdr] [BoundedMicroCdr] in
/-- A sequence with too many items is refused, and the buffer is in error. -/
theorem readsOnly_refused (fits : α → Prop) :
    ReadsOnly (do
      setError
      return none) fits :=
  fun _ ub _ => ⟨none, { ub with error := true }, rfl, .inl rfl, fun _ hmem => absurd hmem nofun⟩

namespace XrceTypes

/-- The bytes of a sequence have room in its output. -/
theorem readsOnly_sequence (capacity : Nat) :
    ReadsOnly (deserializeSequence Device.plain capacity) fun bytes => bytes.length ≤ capacity := by
  refine (readsOnly_scalar (by simp)).bind fun length _ => ?_
  split
  · exact readsOnly_refused _
  · next hle =>
    refine (readsOnly_array (length.getD 0)).bind_pure fun bytes hlength => ?_
    intro a ha
    obtain ⟨-, -, hbytes⟩ := Option.bind_eq_some_iff.mp ha
    rw [hlength a hbytes]
    exact Nat.not_lt.mp hle

omit [MicroCdr] [BoundedMicroCdr] in
theorem readsOnly_items {item : StateM (Memory × UcdrBuffer) (Option α)} {fits : α → Prop}
    (hitem : ReadsOnly item fits) (n : Nat) :
    ReadsOnly (deserializeItems item n) fun items => items.length = n ∧ ∀ a ∈ items, fits a := by
  induction n with
  | zero =>
    refine readsOnly_pure ?_
    intro items hitems
    obtain rfl := Option.some.inj hitems
    exact ⟨rfl, fun _ hmem => absurd hmem List.not_mem_nil⟩
  | succ n ih =>
    refine hitem.bind fun result hresult => ?_
    cases result with
    | none => exact readsOnly_pure fun _ hmem => absurd hmem nofun
    | some a =>
      refine ih.bind_pure fun rest hrest => ?_
      intro items hitems
      obtain ⟨others, hothers, rfl⟩ := Option.mem_map.mp hitems
      obtain ⟨hlength, hothers⟩ := hrest others hothers
      refine ⟨congrArg (· + 1) hlength, ?_⟩
      intro b hb
      rcases List.mem_cons.mp hb with rfl | hb
      · exact hresult b rfl
      · exact hothers b hb

/-- A sequence has no more items than there is room for. -/
theorem readsOnly_seq (sequenceMax : Nat) {item : StateM (Memory × UcdrBuffer) (Option α)}
    {fits : α → Prop} (hitem : ReadsOnly item fits) :
    ReadsOnly (deserializeSeq Device.plain sequenceMax item) fun items =>
      items.length ≤ sequenceMax ∧ ∀ a ∈ items, fits a := by
  refine (readsOnly_scalar (by simp)).bind fun size _ => ?_
  split
  · exact readsOnly_refused _
  · next hle =>
    cases size with
    | none => exact readsOnly_pure fun _ hmem => absurd hmem nofun
    | some size =>
      refine (readsOnly_items hitem size).mono fun items hitems => ⟨?_, hitems.2⟩
      rw [hitems.1]
      exact Nat.not_lt.mp hle

theorem readsOnly_optional {content : StateM (Memory × UcdrBuffer) (Option α)} {fits : α → Prop}
    (hcontent : ReadsOnly content fits) :
    ReadsOnly (deserializeOptional Device.plain content) (OptionFits fits) := by
  refine (readsOnly_scalar (by simp)).bind fun flag _ => ?_
  have hif : ReadsOnly (ifSet flag (Option.map some <$> content) none) (OptionFits fits) := by
    rw [ifSet]
    split
    · refine hcontent.map fun a ha b hb => ?_
      obtain rfl := Option.some.inj hb
      exact ha
    · refine readsOnly_pure fun value hvalue a ha => ?_
      obtain rfl := Option.some.inj hvalue
      exact absurd ha nofun
  refine hif.bind_pure fun value hvalue a ha => ?_
  obtain ⟨-, -, ha⟩ := Option.bind_eq_some_iff.mp ha
  exact hvalue a ha

theorem readsOnly_baseObjectRequest :
    ReadsOnly (deserializeBaseObjectRequest Device.plain) BaseObjectRequest.Fits := by
  refine (readsOnly_array 2).bind fun requestId hrequest => ?_
  refine (readsOnly_array 2).bind_pure fun objectId hobject => ?_
  intro base hbase
  obtain ⟨request, hmem, hbase⟩ := Option.bind_eq_some_iff.mp hbase
  obtain ⟨object, hmem', hbase⟩ := Option.bind_eq_some_iff.mp hbase
  obtain rfl := Option.some.inj hbase
  exact ⟨hrequest request hmem, hobject object hmem'⟩

end XrceTypes

end

end XrceClient
