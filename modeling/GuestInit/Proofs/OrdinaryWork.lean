import GuestInit.Proofs.Duties

/-! The supervisor's work, from the boot to the last cleanup. No part of it ends the process, halts
the machine or reports an error, as long as no fork returns in a child. -/

namespace GuestInit

open Kernel Program

theorem Command.routineRecord_level {command : Command} {status : ExitStatus} {record : Record}
    (h : command.routineRecord status = some record) : record.level = .debug := by
  cases hp : command.privilege with
  | master => simp [routineRecord, hp] at h
  | worker =>
    obtain rfl : Record.debug _ = record := by simpa [routineRecord, hp] using h
    rfl

theorem Setting.Remark.level {setting : Setting} {record : Record} (h : setting.Remark record) :
    record.level = .info ∨ record.level = .debug := by
  cases h with
  | judged hrecord => exact .inr (Command.routineRecord_level hrecord)
  | mounted | started | refusal => exact .inr rfl
  | step | cleanup | finished => exact .inl rfl

namespace Kernel

/-- A fork does not return in the child. -/
def Forkless : Event → Prop
  | ⟨.call .fork, reply⟩ => reply.value ≠ 0
  | _ => True

end Kernel

/-- Where nothing is known of the script, nothing is asked of answers but how a fork returns. -/
theorem Setting.admits_of_all {setting : Setting} {e : Event} (htold : ∀ command, setting.Told command)
    (hunread : ∀ cause, setting.Unread cause) (hfork : Forkless e ∨ setting.Born) :
    setting.Admits e := by
  unfold Admits
  split
  · exact fun hchild => hfork.resolve_left fun hforkless => hforkless hchild
  · exact hunread _
  · exact ⟨fun command _ => htold command, fun cause _ => hunread cause⟩
  · trivial

/-- A setting of which nothing is known but that there are no children. -/
def Setting.childless (config : Config) : Setting := ⟨config, fun _ => True, fun _ => True, False⟩

end GuestInit
