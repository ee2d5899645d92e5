import GuestInit.Proofs.OrdinaryWork

/-! The end of the whole run. Every failure and every success of the supervisor's work gets to the
one end of the run: a report of the fault, if there was one, and the halt. -/

namespace GuestInit

open Kernel Program

namespace Session

def logged (record : Record) : Event := ⟨.log record, ()⟩

section

variable {es : List Event} {standing : Standing Surroundings Empty}

end

theorem supervise_eq (rounds : Nat) (diskSize : Option Bytes) :
    supervise rounds diskSize = .ask (.log (.info "init")) fun _ =>
      match Config.ofVariable diskSize with
      | .error fault => Halt.die fault
      | .ok config => .ask (.log (.debug s!"scratch size {config.diskSize.text}")) fun _ =>
          serve rounds config >>= fun
            | .error fault => Halt.die fault
            | .ok () => Halt.halt := rfl

end Session
end GuestInit
