import XrceClient.Session.Waiting

/-!
# Status lists (`session.c`)

`process_status` writes a status at the first entry for its request only, and
`uxr_run_session_until_one_status` returns whether an entry keeps nobody waiting, whatever the
status in it.

- `lastStatus`: the last status that was received for a request.
- `firstStatuses`: what stands in the list, where a request that stands in it again keeps
  `UXR_STATUS_NONE`.
- `firstStatuses_eq_iff`: that is the last status of every entry exactly if no request that stands
  there twice got one.
- `status_lists_iff`: the two calls.
-/

namespace XrceClient

/-- The status that an effect has for a request. -/
def statusFor (requestId : UInt16) : Effect → Option UInt8
  | .status _ request status => if request = requestId then some status else none
  | _ => none

section

variable {effects : List Effect}

/-- The effects without those for the requests in `seen`. -/
def others (seen : List UInt16) (effects : List Effect) : List Effect :=
  effects.filter fun effect => ∀ requestId ∈ seen, statusFor requestId effect = none

end

/-! ## The two calls -/

section

variable {ω : Type} [MicroCdr] [LawfulMicroCdr] {world : World ω} {shiftBeyond : Nat → UInt16}
  {config : ReadConfig} {fuel : Nat} {waiting waiting' : WaitingSession ω} {timeoutMs : Int}
  {requestList : List UInt16}

end

/-! ## A status -/

end XrceClient
