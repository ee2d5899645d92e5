import GuestInit.Fault
import GuestInit.Kernel

/-! The end of every run. The guest is disposable: nothing is tried again, it is halted and the
host makes a new one. -/

namespace GuestInit.Halt

open GuestInit.Action

/-- Halts the guest. A process 1 that ends stops the guest as well, so it does where the kernel
refuses to halt. -/
def halt : Action Empty := do
  log (.info "halting")
  let reply ← call (.reboot Kernel.haltSystem)
  log (.error s!"reboot: {(IoError.errno reply.errno).message}")
  exit 1

/-- Reports a fault and halts. -/
def die (fault : Fault) : Action Empty := do
  log (.error fault.message)
  halt

end GuestInit.Halt
