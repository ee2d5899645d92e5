import GuestInit.Session
import GuestInit.Proofs.PrivilegeDrop
import GuestInit.Proofs.Rounds
import GuestInit.Proofs.SweepLoops

/-! All that the supervisor does between the configuration and the halt, and all that may come of it:
a list of everything it requests, of everything it remarks, and of the faults it may end with, each
function of the work being held to that list. -/

namespace GuestInit

open Kernel Program

namespace Script

/-- A command of the script, if as much of it can be read. -/
def Holds (script : Script) (command : Command) : Prop :=
  ∃ k, (script.after k).next.1 = .ok (some command)

/-- A read of the script may fail so. -/
def Unreadable (script : Script) (cause : IoError) : Prop :=
  ∃ k, (script.after k).next.1 = .error (.readScript cause)

theorem Holds.of_next {script : Script} {command : Command} (h : script.next.2.Holds command) :
    script.Holds command := by
  obtain ⟨k, hread⟩ := h
  exact ⟨k + 1, hread⟩

theorem Unreadable.of_next {script : Script} {cause : IoError} (h : script.next.2.Unreadable cause) :
    script.Unreadable cause := by
  obtain ⟨k, hread⟩ := h
  exact ⟨k + 1, hread⟩

end Script

/-- The kernel refused, with an error number. -/
def IoError.Numbered (cause : IoError) : Prop := ∃ code, cause = .errno code

theorem IoError.numbered (code : Int) : (IoError.errno code).Numbered := ⟨code, rfl⟩

/-- Why a call did not succeed: the kernel refused it, or a string could not be handed over. -/
inductive IoError.Refusal : IoError → Prop
  | errno (code : Int) : Refusal (.errno code)
  | nulInData : Refusal .nulInData

/-- What the supervisor finds where it works. -/
structure Setting where
  config : Config
  /-- The commands it may be told to execute. -/
  Told : Command → Prop
  /-- How opening or reading the control script may fail. -/
  Unread : IoError → Prop
  /-- Whether a fork may return in a child. -/
  Born : Prop

namespace Setting

/-- The script has no other commands and no other errors. -/
structure Covers (setting : Setting) (script : Script) : Prop where
  told : ∀ command, script.Holds command → setting.Told command
  unread : ∀ cause, script.Unreadable cause → setting.Unread cause

theorem Covers.next {setting : Setting} {script : Script} (h : setting.Covers script) :
    setting.Covers script.next.2 :=
  ⟨fun _ hholds => h.told _ hholds.of_next, fun _ hfails => h.unread _ hfails.of_next⟩

/-- An answer that agrees with the setting. -/
def Admits (setting : Setting) : Event → Prop
  | ⟨.call .fork, reply⟩ => reply.value = 0 → setting.Born
  | ⟨.openScript _, .error cause⟩ => setting.Unread cause
  | ⟨.openScript _, .ok (fd, source)⟩ => setting.Covers (.ofFile fd source)
  | _ => True

variable (setting : Setting)

/-- What is reported of the work while it goes well. -/
inductive Remark : Record → Prop
  | mounted {mount : Mount} (h : mount ∈ Mount.table setting.config) : Remark mount.mountedRecord
  | step {command : Command} (h : setting.Told command) : Remark (ControlLoop.stepRecord command)
  | started (command : Command) (pid : Int) : Remark (Launch.startedRecord command pid)
  | judged {command : Command} {status : ExitStatus} {record : Record}
      (h : command.routineRecord status = some record) : Remark record
  | refusal (ipcClass : Ipc.Class) (id code : Int) :
      Remark (Ipc.refusalRecord ipcClass id (.errno code))
  | cleanup (collected removed : Nat) : Remark (Cleanup.cleanupRecord collected removed)
  | finished (steps : Nat) : Remark (ControlLoop.finishedRecord steps)

/-- What may end the work. -/
inductive Trouble : Fault → Prop
  | unmounted {mount : Mount} (h : mount ∈ Mount.table setting.config) {cause : IoError}
      (hcause : cause.Refusal) :
      Trouble (.mount mount.target cause)
  | unlimited (code : Int) : Trouble (.resourceLimit (.errno code))
  | noInput {cause : IoError} (hcause : cause.Refusal) :
      Trouble (.openFile setting.config.inputDevice cause)
  | unopened {cause : IoError} (h : setting.Unread cause) :
      Trouble (.openFile setting.config.controlPath cause)
  | unread {cause : IoError} (h : setting.Unread cause) : Trouble (.readScript cause)
  | tooLong (line limit : Nat) : Trouble (.lineTooLong line limit)
  | malformed (line : Nat) (cause : ArgumentError) : Trouble (.malformedLine line cause)
  | noFork (code : Int) : Trouble (.fork (.errno code))
  | noWait (code : Int) : Trouble (.wait (.errno code))
  | failed {command : Command} (h : setting.Told command) (status : ExitStatus) :
      Trouble (.masterStep command.line command.programName status)
  | unswept (ipcClass : Ipc.Class) (code : Int) : Trouble (.ipcInfo ipcClass (.errno code))
  | unkilled (code : Int) : Trouble (.kill (.errno code))

/-- The steps of a child of which only the name is told. -/
def childSteps : List String :=
  ["close control script", "set groups", "set gid", "set uid", "reopen std streams"]

/-- What may end a child before it becomes its program. -/
inductive ChildTrouble : Launch.ChildFailure → Prop
  | refused {what : String} (h : what ∈ childSteps) (code : Int) : ChildTrouble (.of what (.errno code))
  | empty : ChildTrouble ⟨"execve", "empty command"⟩
  | notExecuted {command : Command} (h : setting.Told command) (code : Int) :
      ChildTrouble (.of s!"execve {command.programName}" (.errno code))

/-- All that is requested, by the supervisor or by a child. -/
inductive Duty : Request → Prop
  | call {c : Call} (h : ∀ command, c ≠ .reboot command) : Duty (.call c)
  | openScript (path : Bytes) : Duty (.openScript path)
  | remark {record : Record} (h : setting.Remark record) : Duty (.log record)
  | complaint (h : setting.Born) {failure : Launch.ChildFailure}
      (hfailure : setting.ChildTrouble failure) : Duty (.log (.error failure.message))
  | exit (h : setting.Born) (status : Nat) : Duty (.exit status)

end Setting

variable {setting : Setting}

section Boot

theorem perform_within {mount : Mount} (h : mount ∈ Mount.table setting.config) :
    mount.perform.run.Within setting.Admits setting.Duty (FailsAs setting.Trouble) := by
  unfold Mount.perform
  split
  · exact Attempt.within_throw (.unmounted h .nulInData)
  · exact Attempt.within_discard
      (Attempt.within_call (.call nofun) fun code => .unmounted h (.errno code))

theorem performAll_within {mounts : List Mount} (h : mounts ⊆ Mount.table setting.config) :
    (Mount.performAll mounts).run.Within setting.Admits setting.Duty (FailsAs setting.Trouble) := by
  induction mounts with
  | nil => trivial
  | cons mount rest ih =>
    obtain ⟨hmount, hrest⟩ := List.cons_subset.mp h
    refine Attempt.within_bind (perform_within hmount) fun _ => ?_
    exact Attempt.within_bind (Attempt.within_log (.remark (.mounted hmount))) fun _ => ih hrest

theorem bindInput_within (path : Bytes) :
    (Boot.bindInput path).run.Within setting.Admits setting.Duty
      (FailsAs IoError.Refusal) := by
  unfold Boot.bindInput
  split
  · exact Attempt.within_throw .nulInData
  · refine Attempt.within_bind (Attempt.within_call (.call nofun) .errno) fun fd => ?_
    unfold Boot.moveToInput
    split
    · trivial
    · refine within_ask_iff.mpr ⟨.call nofun, fun reply _ => ?_⟩
      refine within_ask_iff.mpr ⟨.call nofun, fun _ _ => ?_⟩
      cases hresult : reply.result with
      | ok value => trivial
      | error cause =>
        obtain ⟨-, rfl⟩ := Reply.result_eq_error hresult
        exact .errno reply.errno

theorem prepare_within : (Boot.prepare setting.config).run.Within setting.Admits setting.Duty
    (FailsAs setting.Trouble) := by
  refine Attempt.within_bind (performAll_within (List.Subset.refl _)) fun _ => ?_
  refine Attempt.within_bind
    (Attempt.within_discard (Attempt.within_call (.call nofun) .unlimited)) fun _ => ?_
  exact Attempt.within_adapt (bindInput_within _) fun _ => .noInput

end Boot

namespace Ipc

/-- A table refuses with error numbers. -/
def Numbered : Exchange TableAccess → Prop
  | ⟨.maxIndex, answer⟩ => FailsAs IoError.Numbered answer
  | ⟨.remove _, answer⟩ => FailsAs IoError.Numbered answer
  | ⟨.describe _, _⟩ | ⟨.note _, _⟩ => True

/-- All that a sweep reports is part of the work. -/
def Duty (setting : Setting) : Request → Prop
  | .note record => setting.Remark record
  | .maxIndex | .describe _ | .remove _ => True

theorem describeFrom_within (count : Nat) (index : Int) (found : List Int) :
    (describeFrom count index found).Within Numbered (Duty setting) fun _ => True :=
  describeFrom_invariant (motive := fun _ _ _ => True) (fun _ => trivial) (fun _ _ => trivial)
    count trivial

theorem removeAll_within (ipcClass : Class) (ids : List Int) (removed : Nat) :
    (removeAll ipcClass ids removed).Within Numbered (Duty setting) fun _ => True := by
  refine removeAll_invariant (motive := fun _ _ _ => True) (fun _ => trivial) (fun _ _ => trivial)
    (fun _ hrefused => ?_) trivial
  obtain ⟨code, rfl⟩ := hrefused
  exact ⟨.refusal ipcClass _ code, fun _ _ => trivial⟩

theorem live_within (ipcClass : Class) :
    (live ipcClass).Within Numbered (Duty setting) (FailsAs setting.Trouble) := by
  refine within_ask_iff.mpr ⟨trivial, fun answer hanswer => ?_⟩
  cases answer with
  | error cause =>
    obtain ⟨code, rfl⟩ := hanswer
    exact .unswept ipcClass code
  | ok most => exact (describeFrom_within (most + 1).toNat 0 []).bind fun ids _ => trivial

theorem sweep_within (ipcClass : Class) :
    (sweep ipcClass).Within Numbered (Duty setting) (FailsAs setting.Trouble) := by
  refine (live_within ipcClass).bind fun result hresult => ?_
  cases result with
  | error fault => exact hresult
  | ok ids => exact (removeAll_within ipcClass ids 0).bind fun _ _ => trivial

end Ipc

section Cleanup

section
variable {allowed : Event → Prop} {guard : Request → Prop}

theorem attempt_within {c : Call} (h : guard (.call c)) {kind : IoError → Prop}
    (hkind : ∀ code, kind (.errno code)) :
    (Action.attempt c).Within allowed guard (FailsAs kind) :=
  within_ask_iff.mpr ⟨h, fun reply _ => failsAs_result hkind reply⟩

theorem signalled_numbered {signal : Except IoError Int} (h : FailsAs IoError.Numbered signal) :
    FailsAs IoError.Numbered (Cleanup.signalled signal) := by
  cases signal with
  | ok _ => trivial
  | error cause =>
    unfold Cleanup.signalled
    dsimp only
    split
    · trivial
    · exact h

theorem killAll_within (hkill : guard (.call (.kill everyProcess sigkill)))
    (hwait : guard (.call (.waitpid anyChild))) (rounds collected : Nat) :
    (Cleanup.killAll rounds collected).Within allowed guard (FailsAs IoError.Numbered) := by
  induction rounds generalizing collected with
  | zero => trivial
  | succ rounds ih =>
    refine (attempt_within hkill IoError.numbered).bind fun signal hsignal => ?_
    have hsignalled := signalled_numbered hsignal
    revert hsignalled
    cases Cleanup.signalled signal with
    | error cause => exact id
    | ok _ =>
      intro _
      refine (attempt_within hwait IoError.numbered).bind fun result hresult => ?_
      cases result with
      | ok value => exact ih (collected + 1)
      | error cause =>
        dsimp only
        split
        · trivial
        · split
          · exact ih collected
          · exact hresult

end

theorem log_within {record : Record} (h : setting.Remark record) :
    (Action.log record).Within setting.Admits setting.Duty fun _ => True :=
  within_ask_iff.mpr ⟨.remark h, fun _ _ => trivial⟩

theorem askTable_within (ipcClass : Ipc.Class) (q : Ipc.Request) (h : Ipc.Duty setting q) :
    (Cleanup.askTable ipcClass q).Within setting.Admits setting.Duty
      fun answer => Ipc.Numbered ⟨q, answer⟩ := by
  cases q with
  | maxIndex => exact attempt_within (.call nofun) IoError.numbered
  | describe index => exact within_ask_iff.mpr ⟨.call nofun, fun _ _ => trivial⟩
  | remove id =>
    refine (attempt_within (.call nofun) IoError.numbered).bind fun result hresult => ?_
    cases result with
    | ok _ => trivial
    | error cause => exact hresult
  | note record => exact log_within h

theorem sweepAll_within (classes : List Ipc.Class) (removed : Nat) :
    (Cleanup.sweepAll classes removed).Within setting.Admits setting.Duty
      (FailsAs setting.Trouble) := by
  induction classes generalizing removed with
  | nil => trivial
  | cons ipcClass rest ih =>
    have hsweep : (Cleanup.sweep ipcClass).Within setting.Admits setting.Duty
        (FailsAs setting.Trouble) := (Ipc.sweep_within ipcClass).interpret (askTable_within ipcClass)
    refine hsweep.bind fun result hresult => ?_
    cases result with
    | error fault => exact hresult
    | ok more => exact ih (removed + more)

theorem reap_within (rounds : Nat) :
    (Cleanup.reap rounds).Within setting.Admits setting.Duty (FailsAs setting.Trouble) := by
  refine (killAll_within (.call nofun) (.call nofun) rounds 0).bind fun result hresult => ?_
  cases result with
  | error cause =>
    obtain ⟨code, rfl⟩ := hresult
    exact .unkilled code
  | ok collected =>
    refine (sweepAll_within Ipc.Class.all 0).bind fun result hresult => ?_
    cases result with
    | error fault => exact hresult
    | ok removed =>
      dsimp only
      split
      · exact within_ask_iff.mpr ⟨.remark (.cleanup collected removed), fun _ _ => trivial⟩
      · trivial

end Cleanup

section Launch

theorem wait_within (rounds : Nat) (pid : Int) :
    (Launch.wait rounds pid).Within setting.Admits setting.Duty (FailsAs IoError.Numbered) := by
  induction rounds with
  | zero => trivial
  | succ rounds ih =>
    rw [Launch.wait, Action.call_bind]
    refine within_ask_iff.mpr ⟨.call nofun, fun reply _ => ?_⟩
    have hreply := failsAs_result IoError.numbered reply
    revert hreply
    cases reply.result with
    | ok value => exact fun _ => trivial
    | error cause =>
      intro hcause
      dsimp only
      split
      · exact ih
      · exact hcause

/-- A call of the child, whose failure is told by the name of the step. -/
theorem step_within {what : String} (h : what ∈ Setting.childSteps) {c : Call}
    (hc : ∀ command, c ≠ .reboot command) :
    (Attempt.call (.of what) c).run.Within setting.Admits setting.Duty
      (FailsAs setting.ChildTrouble) :=
  Attempt.within_call (.call hc) (.refused h)

theorem giveUpScript_within (script : Option Int) :
    (Launch.giveUpScript script).run.Within setting.Admits setting.Duty
      (FailsAs setting.ChildTrouble) := by
  cases script with
  | none => trivial
  | some fd => exact Attempt.within_discard (step_within (by decide) nofun)

theorem giveUpGroups_within : Launch.giveUpGroups.run.Within setting.Admits setting.Duty
    (FailsAs setting.ChildTrouble) := by
  unfold Launch.giveUpGroups
  rw [Attempt.run_lift_call_bind]
  refine within_ask_iff.mpr ⟨.call nofun, fun reply _ => ?_⟩
  split
  · exact Attempt.within_discard (step_within (by decide) nofun)
  · trivial

theorem bindStreams_within (streams : Streams) :
    (Launch.bindStreams streams).run.Within setting.Admits setting.Duty
      (FailsAs setting.ChildTrouble) := by
  cases streams with
  | inherited => trivial
  | null =>
    have hcall (c : Call) (hc : ∀ command, c ≠ .reboot command) :
        (Attempt.call id c).run.Within setting.Admits setting.Duty (FailsAs IoError.Numbered) :=
      Attempt.within_call (.call hc) IoError.numbered
    have hnull : Launch.bindNullStreams.run.Within setting.Admits setting.Duty
        (FailsAs IoError.Numbered) := by
      refine Attempt.within_bind (hcall _ nofun) fun fd => ?_
      refine Attempt.within_bind (Attempt.within_discard (hcall _ nofun)) fun _ => ?_
      refine Attempt.within_bind (Attempt.within_discard (hcall _ nofun)) fun _ => ?_
      refine Attempt.within_bind (Attempt.within_discard (hcall _ nofun)) fun _ => ?_
      split
      · exact within_ask_iff.mpr ⟨.call nofun, fun _ _ => trivial⟩
      · trivial
    refine Attempt.within_adapt hnull fun cause hcause => ?_
    obtain ⟨code, rfl⟩ := hcause
    exact .refused (by decide) code

/-- What a child gives up and takes on is its own business, and only its failures are told. -/
theorem takeOn_within (identity : Identity) (script : Option Int) :
    (Launch.takeOn identity script).run.Within setting.Admits setting.Duty
      (FailsAs setting.ChildTrouble) := by
  refine Attempt.within_bind (giveUpScript_within script) fun _ => ?_
  refine Attempt.within_bind giveUpGroups_within fun _ => ?_
  refine Attempt.within_bind
    (Attempt.within_discard (step_within (by decide) (by nofun))) fun _ => ?_
  refine Attempt.within_bind
    (Attempt.within_discard (step_within (by decide) (by nofun))) fun _ => ?_
  exact within_ask_iff.mpr ⟨.call nofun, fun _ _ => bindStreams_within identity.streams⟩

theorem programName_of_split {command : Command} {program : Bytes} {rest : Arguments}
    (h : Arguments.split command.raw = .ok (program :: rest)) :
    command.programName = Utf8.lossy program := by
  simp [Command.programName, h, Arguments.program?]

theorem execute_within {command : Command} (htold : setting.Told command) {arguments : Arguments}
    (h : Launch.arguments command = .ok arguments) :
    (Launch.execute arguments).Within setting.Admits setting.Duty setting.ChildTrouble := by
  cases arguments with
  | nil => exact .empty
  | cons program rest =>
    refine within_ask_iff.mpr ⟨.call nofun, fun reply _ => ?_⟩
    rw [← programName_of_split (Launch.split_of_arguments h)]
    exact .notExecuted htold reply.errno

theorem die_within (hborn : setting.Born) {failure : Launch.ChildFailure}
    (h : setting.ChildTrouble failure) :
    failure.die.Within setting.Admits setting.Duty fun _ => True :=
  within_ask_iff.mpr ⟨.complaint hborn h, fun _ _ =>
    within_ask_iff.mpr ⟨.exit hborn 1, fun never _ => never.elim⟩⟩

theorem child_within (hborn : setting.Born) {command : Command} (htold : setting.Told command)
    {arguments : Arguments} (h : Launch.arguments command = .ok arguments) (identity : Identity)
    (script : Option Int) :
    (Launch.child arguments identity script).Within setting.Admits setting.Duty fun _ => True := by
  refine (takeOn_within identity script).bind fun result hresult => ?_
  cases result with
  | error failure => exact die_within hborn hresult
  | ok _ => exact (execute_within htold h).bind fun _ hfailure => die_within hborn hfailure

theorem arguments_trouble (command : Command) : FailsAs setting.Trouble (Launch.arguments command) := by
  unfold Launch.arguments Command.arguments
  cases Arguments.split command.raw with
  | error cause => exact .malformed command.line cause
  | ok arguments =>
    show FailsAs _ (arguments.terminated.mapError _ >>= fun _ => pure arguments)
    cases arguments.terminated with
    | error cause => exact .malformed command.line cause
    | ok _ => trivial

theorem launch_within (rounds : Nat) (identities : Identities) {command : Command}
    (htold : setting.Told command) (script : Option Int) :
    (Launch.launch rounds identities command script).Within setting.Admits setting.Duty
      (FailsAs setting.Trouble) := by
  unfold Launch.launch
  have harguments : FailsAs setting.Trouble (Launch.arguments command) := arguments_trouble command
  cases hprepared : Launch.arguments command with
  | error fault => rwa [hprepared] at harguments
  | ok arguments =>
    simp only [Action.attempt_bind]
    refine within_ask_iff.mpr ⟨.call nofun, fun reply hfork => ?_⟩
    cases hresult : reply.result with
    | error cause =>
      obtain ⟨-, rfl⟩ := Reply.result_eq_error hresult
      exact .noFork reply.errno
    | ok pid =>
      obtain ⟨-, rfl⟩ := Reply.result_eq_ok hresult
      dsimp only
      split
      · rename_i hchild
        exact (child_within (hfork hchild) htold hprepared _ script).bind fun never _ => never.elim
      · refine within_ask_iff.mpr ⟨.remark (.started command reply.value), fun _ _ => ?_⟩
        refine (wait_within rounds reply.value).bind fun result hresult => ?_
        exact hresult.mapError fun cause hcause => by
          obtain ⟨code, rfl⟩ := hcause
          exact .noWait code

end Launch

namespace ControlLoop

/-- The collaborators fail as the setting has it. -/
def Admits (setting : Setting) : Exchange Collaborators → Prop
  | ⟨.launch _ _, answer⟩ => FailsAs setting.Trouble answer
  | ⟨.reap, answer⟩ => FailsAs setting.Trouble answer
  | ⟨.note _, _⟩ => True

/-- All that the loop requests is part of the work. -/
def Duty (setting : Setting) : Request → Prop
  | .note record => setting.Remark record
  | .launch command _ => setting.Told command
  | .reap => True

theorem step_within {command : Command} (htold : setting.Told command) (script : Option Int) :
    (step command script).Within (Admits setting) (Duty setting) (FailsAs setting.Trouble) := by
  rw [step_eq]
  refine within_ask_iff.mpr ⟨.step htold, fun _ _ => ?_⟩
  refine within_ask_iff.mpr ⟨htold, fun answer hanswer => ?_⟩
  cases answer with
  | error fault => exact hanswer
  | ok status =>
    dsimp only
    have hreap : (request Collaborators .reap).Within (Admits setting) (Duty setting)
        (FailsAs setting.Trouble) := within_ask_iff.mpr ⟨trivial, fun _ hreaped => hreaped⟩
    rcases command.passes_or_failed status with hpass | ⟨hpriv, hstatus⟩
    · rw [Command.judge_of_passes hpass]
      cases hrecord : command.routineRecord status with
      | none => exact hreap
      | some record => exact within_ask_iff.mpr ⟨.judged hrecord, fun _ _ => hreap⟩
    · rw [Command.judge_of_failed hpriv hstatus]
      exact .failed htold status

theorem runFrom_within (steps : Nat) {script : Script} (hcovers : setting.Covers script) :
    (runFrom steps script).Within (Admits setting) (Duty setting)
      fun outcome => FailsAs setting.Trouble outcome.1 := by
  induction script using Script.next_induction generalizing steps with
  | failed script fault hread =>
    rw [runFrom_of_error hread]
    rcases Script.next_error_cases hread with ⟨cause, rfl⟩ | ⟨line, rfl⟩
    · exact .unread (hcovers.unread cause ⟨0, hread⟩)
    · exact .tooLong line Script.longestLine
  | ended script hread =>
    rw [runFrom_of_end hread]
    exact within_ask_iff.mpr ⟨.finished steps, fun _ _ => trivial⟩
  | command script command hread ih =>
    rw [runFrom_of_command hread]
    have htold : setting.Told command := hcovers.told command ⟨0, hread⟩
    refine (step_within htold script.descriptor).bind fun answer hanswer => ?_
    cases answer with
    | error fault => exact hanswer
    | ok _ => exact ih (steps + 1) hcovers.next

end ControlLoop

section Session

theorem collaborate_within (rounds : Nat) (identities : Identities) (q : ControlLoop.Request)
    (h : ControlLoop.Duty setting q) :
    (Session.collaborate rounds identities q).Within setting.Admits setting.Duty
      fun answer => ControlLoop.Admits setting ⟨q, answer⟩ := by
  cases q with
  | note record => exact log_within h
  | launch command script => exact launch_within rounds identities h script
  | reap => exact reap_within rounds

theorem execute_script_within (rounds : Nat) (identities : Identities) {script : Script}
    (hcovers : setting.Covers script) :
    (Session.execute rounds identities script).Within setting.Admits setting.Duty
      fun outcome => FailsAs setting.Trouble outcome.1 :=
  (ControlLoop.runFrom_within 0 hcovers).interpret (collaborate_within rounds identities)

/-- In any setting, the work requests nothing but what is listed, and ends with no other fault. -/
theorem serve_within (setting : Setting) (rounds : Nat) :
    (Session.serve rounds setting.config).Within setting.Admits setting.Duty
      (FailsAs setting.Trouble) := by
  refine prepare_within.bind fun result hresult => ?_
  cases result with
  | error fault => exact hresult
  | ok _ =>
    refine within_ask_iff.mpr ⟨.openScript _, fun answer hanswer => ?_⟩
    rcases answer with cause | ⟨fd, source⟩
    · exact .unopened hanswer
    · refine (execute_script_within rounds _ hanswer).bind fun outcome houtcome => ?_
      rcases outcome with ⟨_ | _, _⟩
      · exact houtcome
      · trivial

end Session

namespace Halt

variable {allowed : Event → Prop} {guard : Request → Prop} {post : Empty → Prop}

theorem halt_within (hhalting : guard (.log (.info "halting")))
    (hreboot : guard (.call (.reboot haltSystem)))
    (hrefused : ∀ code, guard (.log (.error s!"reboot: {(IoError.errno code).message}")))
    (hexit : guard (.exit 1)) : halt.Within allowed guard post :=
  within_ask_iff.mpr ⟨hhalting, fun _ _ => within_ask_iff.mpr ⟨hreboot, fun reply _ =>
    within_ask_iff.mpr ⟨hrefused reply.errno, fun _ _ =>
      within_ask_iff.mpr ⟨hexit, fun never _ => never.elim⟩⟩⟩⟩

theorem die_within {fault : Fault} (hfault : guard (.log (.error fault.message)))
    (hhalt : halt.Within allowed guard post) : (die fault).Within allowed guard post :=
  within_ask_iff.mpr ⟨hfault, fun _ _ => hhalt⟩

end Halt

end GuestInit
