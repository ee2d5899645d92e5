import GuestInit.Proofs.Duties
import GuestInit.Proofs.Readiness
import GuestInit.Proofs.Lines
import GuestInit.Proofs.OneLine

/-! The tag in front of the supervisor's lines, by which the host tells them from a program's. Only
one thing the supervisor says can break out of its line: the name of a program, since a line of the
control script can spell a newline without having one. -/

namespace GuestInit

open Kernel Program

/-- A source of which no read fails makes no script unreadable. -/
theorem Script.not_unreadable {script : Script} {bytes : Bytes} {cause : IoError}
    (h : script.source.Delivers bytes) : ¬ script.Unreadable cause := by
  rintro ⟨k, hread⟩
  induction k generalizing script bytes with
  | zero => exact (Script.delivers_next h).2 cause hread
  | succ k ih =>
    obtain ⟨rest, hrest⟩ := (Script.delivers_next h).1
    exact ih hrest hread

theorem Script.Holds.newline_notMem_raw {script : Script} {command : Command}
    (h : script.Holds command) : Bytes.newline ∉ command.raw := by
  obtain ⟨k, hnext⟩ := h
  generalize script.after k = script at hnext
  rcases hread : script.source.readLine (Script.longestLine + 1) with ⟨_ | text, source⟩
  · simp [Script.next, hread] at hnext
  · by_cases hne : text = []
    · simp [Script.next, hread, hne] at hnext
    · rw [Script.next_of_read hread hne] at hnext
      dsimp only at hnext
      split at hnext
      · cases hnext
      · have hline := Script.newline_notMem_withoutNewline hread
        obtain rfl := Option.some.inj (Except.ok.inj hnext)
        rw [Command.parse_raw]
        split
        · exact fun hmem => hline (List.mem_of_mem_tail hmem)
        · exact hline

namespace DiskSize

theorem oneLine_of_isWellFormed {text : List Char} (h : isWellFormed text = true) : '\n' ∉ text := by
  intro hmem
  have hsplit : '\n' ∈ text.reverse.takeWhile isUnit ++ text.reverse.dropWhile isUnit := by
    rwa [List.takeWhile_append_dropWhile, List.mem_reverse]
  rcases List.mem_append.mp hsplit with hunit | hstem
  · exact absurd (List.all_eq_true.mp List.all_takeWhile _ hunit) (by decide)
  · simp only [isWellFormed, Bool.and_eq_true, List.all_eq_true] at h
    exact absurd (h.1.2 '\n' (List.mem_reverse.mpr hstem)) (by decide)

theorem parse_oneLine (value : Option String) :
    (∀ size, parse value = .ok size → OneLine size.text) ∧
      ∀ fault, parse value = .error fault → OneLine fault.message := by
  unfold parse
  dsimp only
  split
  · refine ⟨nofun, fun fault h => ?_⟩
    obtain rfl := Except.error.inj h
    unfold Fault.message
    simp +decide
  · split
    · rename_i hwellFormed
      refine ⟨fun size h => ?_, nofun⟩
      obtain rfl := Except.ok.inj h
      exact oneLine_of_isWellFormed hwellFormed
    · refine ⟨nofun, fun fault h => ?_⟩
      obtain rfl := Except.error.inj h
      unfold Fault.message
      simp +decide [OneLine.encode]

theorem ofVariable_oneLine (value : Option Bytes) :
    (∀ size, ofVariable value = .ok size → OneLine size.text) ∧
      ∀ fault, ofVariable value = .error fault → OneLine fault.message := by
  unfold ofVariable
  split
  · exact parse_oneLine none
  · split
    · exact parse_oneLine _
    · refine ⟨nofun, fun fault h => ?_⟩
      obtain rfl := Except.error.inj h
      unfold Fault.message
      simp +decide [OneLine.encode]

end DiskSize

namespace Setting

variable {setting : Setting}

theorem mounted_oneLine {size : DiskSize} {mount : Mount}
    (h : mount ∈ Mount.table (Config.ofDiskSize size)) :
    OneLine mount.fstype ∧ Bytes.newline ∉ mount.target := by
  simp only [Mount.table, Config.ofDiskSize, List.mem_cons, List.not_mem_nil, or_false] at h
  rcases h with rfl | rfl | rfl | rfl <;> dsimp only <;> decide

/-- The setting is that of a run, and the texts of its errors stay on one line. -/
structure Plain (setting : Setting) : Prop where
  config : ∃ size, setting.config = Config.ofDiskSize size
  told : ∀ command, setting.Told command → Bytes.newline ∉ command.raw
  unread : ∀ cause, setting.Unread cause → OneLine cause.message

theorem Remark.oneLine (hplain : setting.Plain) {record : Record} (h : setting.Remark record) :
    OneLine record.message := by
  obtain ⟨size, hsize⟩ := hplain.config
  cases h with
  | @mounted mount hmount =>
    rw [hsize] at hmount
    obtain ⟨hfstype, htarget⟩ := mounted_oneLine hmount
    simp +decide [Mount.mountedRecord, Record.debug, hfstype, OneLine.lossy htarget]
  | @step command htold =>
    have hraw := OneLine.lossy (hplain.told command htold)
    have hname : OneLine command.privilege.name := by cases command.privilege <;> decide
    simp +decide [ControlLoop.stepRecord, Record.info, hraw.trim, hname]
  | started command pid => simp +decide [Launch.startedRecord, Record.debug]
  | @judged command status record hrecord =>
    cases hp : command.privilege with
    | master => simp [Command.routineRecord, hp] at hrecord
    | worker =>
      obtain rfl : Record.debug _ = record := by simpa [Command.routineRecord, hp] using hrecord
      simp +decide [Record.debug]
  | refusal ipcClass id code =>
    have hname : OneLine ipcClass.name := by cases ipcClass <;> decide
    simp +decide [Ipc.refusalRecord, Record.debug, hname]
  | cleanup collected removed => simp +decide [Cleanup.cleanupRecord, Record.info]
  | finished steps => simp +decide [ControlLoop.finishedRecord, Record.info]

theorem Remark.isShown {record : Record} (h : setting.Remark record) :
    record.level.isShown = true := by
  rcases h.level with hlevel | hlevel <;> rw [hlevel] <;> rfl

/-- The reports that name a program whose name has a newline in it. -/
inductive Misnamed (Told : Command → Prop) : String → Prop
  | failed {command : Command} (htold : Told command) (hname : ¬ OneLine command.programName)
      (status : ExitStatus) :
      Misnamed Told (Fault.masterStep command.line command.programName status).message
  | notExecuted {command : Command} (htold : Told command)
      (hname : ¬ OneLine command.programName) (code : Int) :
      Misnamed Told
        (Launch.ChildFailure.of s!"execve {command.programName}" (.errno code)).message

theorem refusal_oneLine {cause : IoError} (h : cause.Refusal) : OneLine cause.message := by
  cases h with
  | errno code => exact OneLine.errno_message code
  | nulInData => decide

theorem Trouble.oneLine (hplain : setting.Plain) {fault : Fault} (h : setting.Trouble fault) :
    OneLine fault.message ∨ Misnamed setting.Told fault.message := by
  obtain ⟨size, hsize⟩ := hplain.config
  by_cases hmisnamed : Misnamed setting.Told fault.message
  · exact .inr hmisnamed
  left
  cases h with
  | @failed command htold status =>
    have hname : OneLine command.programName :=
      Decidable.byContradiction fun hname => hmisnamed (.failed htold hname status)
    clear hmisnamed
    generalize command.programName = name at hname
    unfold Fault.message
    simp +decide [hname]
  | @unmounted mount hmount cause hcause =>
    rw [hsize] at hmount
    have htarget := OneLine.lossy (mounted_oneLine hmount).2
    unfold Fault.message
    simp +decide [htarget, refusal_oneLine hcause]
  | @noInput cause hcause =>
    have hpath : OneLine (Utf8.lossy (Config.ofDiskSize size).inputDevice) :=
      OneLine.lossy (by simp only [Config.ofDiskSize]; decide)
    unfold Fault.message
    simp +decide [hsize, hpath, refusal_oneLine hcause]
  | @unopened cause hcause =>
    have hpath : OneLine (Utf8.lossy (Config.ofDiskSize size).controlPath) :=
      OneLine.lossy (by simp only [Config.ofDiskSize]; decide)
    unfold Fault.message
    simp +decide [hsize, hpath, hplain.unread cause hcause]
  | @unread cause hcause =>
    unfold Fault.message
    simp +decide [hplain.unread cause hcause]
  | @malformed line cause =>
    have hcause : OneLine cause.message := by
      unfold ArgumentError.message
      cases cause <;> simp +decide
    unfold Fault.message
    simp +decide [hcause]
  | @unswept ipcClass code =>
    have hname : OneLine ipcClass.name := by cases ipcClass <;> decide
    unfold Fault.message
    simp +decide [hname]
  | unlimited | tooLong | noFork | noWait | unkilled =>
    unfold Fault.message
    simp +decide

theorem ChildTrouble.oneLine {failure : Launch.ChildFailure} (h : setting.ChildTrouble failure) :
    OneLine failure.message ∨ Misnamed setting.Told failure.message := by
  cases h with
  | @refused what hwhat code =>
    have hname : OneLine what := by
      revert what
      decide
    exact .inl (by simp +decide [Launch.ChildFailure.message, Launch.ChildFailure.of, hname])
  | empty => exact .inl (by decide)
  | @notExecuted command htold code =>
    by_cases hname : OneLine command.programName
    · left
      generalize command.programName = name at hname
      simp +decide [Launch.ChildFailure.message, Launch.ChildFailure.of, hname]
    · exact .inr (.notExecuted htold hname code)

end Setting

namespace Session

/-- A command of a control script that was opened in a run. -/
def Told (es : List Event) (command : Command) : Prop :=
  ∃ path fd source, ⟨.openScript path, .ok (fd, source)⟩ ∈ es ∧
    (Script.ofFile fd source).Holds command

/-- How the control script of a run cannot be opened, or cannot be read. -/
def Unread (es : List Event) (cause : IoError) : Prop :=
  (∃ path, ⟨.openScript path, .error cause⟩ ∈ es) ∨
    ∃ path fd source, ⟨.openScript path, .ok (fd, source)⟩ ∈ es ∧
      (Script.ofFile fd source).Unreadable cause

def setting (es : List Event) (config : Config) : Setting := ⟨config, Told es, Unread es, True⟩

theorem setting_admits {es : List Event} {e : Event} (he : e ∈ es) (config : Config) :
    (setting es config).Admits e := by
  unfold Setting.Admits
  split
  · exact fun _ => trivial
  · exact .inl ⟨_, he⟩
  · exact ⟨fun _ hholds => ⟨_, _, _, he, hholds⟩, fun _ hfails => .inr ⟨_, _, _, he, hfails⟩⟩
  · trivial

/-- What goes to the console is a text for one line, or names a program that does not fit on one. -/
def Tells (es : List Event) : Request → Prop
  | .log record => OneLine record.message ∨ Setting.Misnamed (Told es) record.message
  | .complain text => ∃ message, OneLine message ∧ text = Console.tagged message
  | .call _ | .openScript _ | .exit _ => True

section

variable {es : List Event}

theorem serve_tells (rounds : Nat) (size : DiskSize)
    (hunread : ∀ cause, Unread es cause → OneLine cause.message) :
    (serve rounds (.ofDiskSize size)).Within (· ∈ es) (Tells es)
      (FailsAs fun fault => Tells es (.log (.error fault.message))) := by
  have hplain : (setting es (.ofDiskSize size)).Plain := by
    refine ⟨⟨size, rfl⟩, fun command htold => ?_, hunread⟩
    obtain ⟨_, _, _, _, hholds⟩ := htold
    exact hholds.newline_notMem_raw
  have hserve := serve_within (setting es (.ofDiskSize size)) rounds
  refine (hserve.mono fun result hresult => ?_).relax (fun e he => setting_admits he _) fun q hq => ?_
  · cases result with
    | error fault => exact hresult.oneLine hplain
    | ok _ => trivial
  · cases hq with
    | call | openScript | exit => trivial
    | remark h => exact .inl (h.oneLine hplain)
    | complaint _ hfailure => exact hfailure.oneLine

theorem halt_tells : Halt.halt.Within (· ∈ es) (Tells es) fun _ => True :=
  Halt.halt_within (.inl (by decide)) trivial (fun code => .inl (by simp +decide [Record.error])) trivial

/-- Where the console cannot be set up, that is said on one line of standard error. -/
theorem setUpConsole_tells (isSet : Bool) :
    (setUpConsole isSet).Within (· ∈ es) (Tells es) fun _ => True := by
  cases isSet with
  | false => trivial
  | true => exact within_ask_iff.mpr ⟨⟨_, by decide, rfl⟩, fun _ _ => trivial⟩

theorem supervise_tells (rounds : Nat) (diskSize : Option Bytes)
    (hunread : ∀ cause, Unread es cause → OneLine cause.message) :
    (supervise rounds diskSize).Within (· ∈ es) (Tells es) fun _ => True := by
  obtain ⟨haccepted, hrefused⟩ := DiskSize.ofVariable_oneLine diskSize
  refine (setUpConsole_tells false).bind fun _ _ => ?_
  refine within_ask_iff.mpr ⟨.inl (by decide), fun _ _ => ?_⟩
  unfold Config.ofVariable
  cases hsize : DiskSize.ofVariable diskSize with
  | error fault => exact Halt.die_within (.inl (hrefused fault hsize)) halt_tells
  | ok size =>
    have hscratch : OneLine s!"scratch size {size.text}" := by simp +decide [haccepted size hsize]
    refine within_ask_iff.mpr ⟨.inl hscratch, fun _ _ => ?_⟩
    refine (serve_tells rounds size hunread).bind fun result hresult => ?_
    cases result with
    | error fault => exact Halt.die_within hresult halt_tells
    | ok _ => exact halt_tells

theorem start_tells (rounds pid : Nat) (diskSize : Option Bytes)
    (hunread : ∀ cause, Unread es cause → OneLine cause.message) :
    (start rounds pid diskSize).Within (· ∈ es) (Tells es) fun _ => True := by
  unfold start
  split
  · exact (supervise_tells rounds diskSize hunread).bind fun never _ => never.elim
  · exact within_ask_iff.mpr ⟨⟨"must run as process 1", by decide, rfl⟩, fun _ _ => trivial⟩

end

section Shown

/-- What is logged is not too detailed for the console. -/
def Shown : Request → Prop
  | .log record => record.level.isShown = true
  | .call _ | .openScript _ | .complain _ | .exit _ => True

/-- A setting of which nothing is known. -/
def anySetting (config : Config) : Setting := ⟨config, fun _ => True, fun _ => True, True⟩

theorem anySetting_admits (config : Config) (e : Event) : (anySetting config).Admits e :=
  Setting.admits_of_all (fun _ => trivial) (fun _ => trivial) (.inr trivial)

theorem serve_shows (rounds : Nat) (config : Config) :
    (serve rounds config).Within (fun _ => True) Shown fun _ => True := by
  have hserve := serve_within (anySetting config) rounds
  refine (hserve.mono fun _ _ => trivial).relax (fun e _ => anySetting_admits config e) fun q hq => ?_
  cases hq with
  | remark h => exact h.isShown
  | complaint => rfl
  | call | openScript | exit => trivial

theorem halt_shows : Halt.halt.Within (fun _ => True) Shown fun _ => True :=
  Halt.halt_within rfl trivial (fun _ => rfl) trivial

theorem supervise_shows (rounds : Nat) (diskSize : Option Bytes) :
    (supervise rounds diskSize).Within (fun _ => True) Shown fun _ => True := by
  rw [supervise_eq]
  refine within_ask_iff.mpr ⟨rfl, fun _ _ => ?_⟩
  cases Config.ofVariable diskSize with
  | error fault => exact Halt.die_within rfl halt_shows
  | ok config =>
    refine within_ask_iff.mpr ⟨rfl, fun _ _ => ?_⟩
    refine (serve_shows rounds config).bind fun result _ => ?_
    cases result with
    | error fault => exact Halt.die_within rfl halt_shows
    | ok _ => exact halt_shows

/-- Everything that the supervisor or a child logs goes to the console: no level it uses is one that
the console leaves out. -/
theorem start_shown (rounds pid : Nat) (diskSize : Option Bytes) (es : List Event)
    (standing : Standing Surroundings Nat) (htrace : (start rounds pid diskSize).Trace es standing)
    (record : Record) (hlog : .log record ∈ requests es standing) :
    Console.recordLines record = Console.lines ("init: " ++ record.message ++ "\n") := by
  have hstart : (start rounds pid diskSize).Within (fun _ => True) Shown fun _ => True := by
    unfold start
    split
    · exact (supervise_shows rounds diskSize).bind fun never _ => never.elim
    · exact within_ask_iff.mpr ⟨trivial, fun _ _ => trivial⟩
  have hshown : record.level.isShown = true :=
    hstart.requests htrace (fun _ _ => trivial) _ hlog
  rw [Console.recordLines, if_pos hshown]
  rfl

end Shown

/-- Whatever the control script holds, whatever the variable is set to, and whatever the kernel
answers, also in a child: every line on the console has the tag, unless it is of a report that names
a program with a newline in its name. -/
theorem start_tagged (rounds pid : Nat) (diskSize : Option Bytes) (es : List Event)
    (standing : Standing Surroundings Nat) (htrace : (start rounds pid diskSize).Trace es standing)
    (hunread : ∀ cause, Unread es cause → OneLine cause.message) :
    (∀ text, .complain text ∈ requests es standing → ∀ line ∈ Console.lines text, Console.Tagged line) ∧
    ∀ record, .log record ∈ requests es standing →
      (∀ line ∈ Console.recordLines record, Console.Tagged line) ∨
        Setting.Misnamed (Told es) record.message := by
  have htells := (start_tells rounds pid diskSize hunread).requests htrace fun _ => id
  refine ⟨fun text hcomplain => ?_, fun record hlog => ?_⟩
  · obtain ⟨message, hmessage, rfl⟩ := htells _ hcomplain
    rw [Console.lines_tagged hmessage]
    exact fun line hline => ⟨message, List.mem_singleton.mp hline⟩
  · exact (htells _ hlog).imp_left Console.recordLines_tagged

/-- A run of the script `a\\nb`, of which the program, once the escape is read, has a newline in its
name, up to the halt after it failed. -/
def misnamedRun : List Event :=
  let config := Config.ofDiskSize default
  let boot := (Mount.table config).flatMap (fun mount =>
      [answered mount.call ⟨0, 0, 0⟩, logged mount.mountedRecord]) ++
    [answered (.setrlimit processLimit 100 100) ⟨0, 0, 0⟩,
     answered (.openFile config.inputDevice readOnly) ⟨0, 0, 0⟩]
  let command : Command := ⟨1, .master, Bytes.ofString "a\\nb"⟩
  prologue config boot (40, .ofBytes (Bytes.ofString "a\\nb\n")) ++
    [logged (ControlLoop.stepRecord command), answered .fork ⟨1000, 0, 0⟩,
     logged (Launch.startedRecord command 1000), answered (.waitpid 1000) ⟨1000, 0, 0x100⟩,
     logged (.error (Fault.masterStep 1 command.programName (.code 1)).message),
     logged (.info "halting")]

theorem misnamedRun_trace :
    (start 1 1 none).Trace misnamedRun (.pending (.call (.reboot haltSystem))) := by
  let config := Config.ofDiskSize default
  let command : Command := ⟨1, .master, Bytes.ofString "a\\nb"⟩
  let script : Script := .ofFile 40 (.ofBytes (Bytes.ofString "a\\nb\n"))
  let fault : Fault := .masterStep 1 command.programName (.code 1)
  have hexecute : (execute 1 config.identities script).Trace
      [logged (ControlLoop.stepRecord command), answered .fork ⟨1000, 0, 0⟩,
       logged (Launch.startedRecord command 1000), answered (.waitpid 1000) ⟨1000, 0, 0x100⟩]
      (.returned (.error fault, script.next.2)) := by
    have hread : script.next.1 = .ok (some command) := rfl
    rw [execute, ControlLoop.run, ControlLoop.runFrom_of_command hread]
    iterate 4 refine .ask _ ?_
    exact .done _
  have hexecuted : (execute 1 config.identities script >>= fun outcome =>
      .done (outcome.1.map fun _ => ())).Trace _ (.returned (.error fault)) :=
    trace_bind_returned_iff.mpr ⟨_, _, [], (List.append_nil _).symm, hexecute, .done _⟩
  refine trace_bind_iff.mpr (.inr (.inl ⟨_, rfl, ?_⟩))
  iterate 13 refine .ask _ ?_
  exact trace_bind_iff.mpr (.inl ⟨_, _, [_, _], rfl, hexecuted, .ask _ (.ask _ (.pending _ _))⟩)

/-- That run, in which only the report of the failed step breaks out of its line. -/
theorem start_tagged_misnamed :
    (start 1 1 none).Trace misnamedRun (.pending (.call (.reboot haltSystem))) ∧
    (∀ cause, Unread misnamedRun cause → OneLine cause.message) ∧
    ∀ record, .log record ∈ requests misnamedRun
        (.pending (.call (.reboot haltSystem)) : Standing Surroundings Nat) →
      (∀ line ∈ Console.recordLines record, Console.Tagged line) ∨
        Setting.Misnamed (Told misnamedRun) record.message := by
  have hopened {path : Bytes} {answer : Except IoError (Int × Source)}
      (hmem : ⟨.openScript path, answer⟩ ∈ misnamedRun) :
      path = (Config.ofDiskSize default).controlPath ∧
        answer = .ok (40, .ofBytes (Bytes.ofString "a\\nb\n")) := by
    simpa [misnamedRun, prologue, logged, answered, Mount.table] using hmem
  have hunread : ∀ cause, Unread misnamedRun cause → OneLine cause.message := by
    rintro cause (⟨path, hmem⟩ | ⟨path, fd, source, hmem, hfails⟩)
    · cases (hopened hmem).2
    · obtain ⟨rfl, rfl⟩ := Prod.mk.inj (Except.ok.inj (hopened hmem).2)
      exact absurd hfails (Script.not_unreadable (Source.delivers_ofBytes _))
  exact ⟨misnamedRun_trace, hunread,
    (start_tagged 1 1 none misnamedRun _ misnamedRun_trace hunread).2⟩

/-- The line that the report continues on could be a program's. -/
theorem misnamed_line_untagged :
    ∃ es standing record, (start 1 1 none).Trace es standing ∧ .log record ∈ requests es standing ∧
      ∃ line ∈ Console.recordLines record, ¬ Console.Tagged line := by
  let command : Command := ⟨1, .master, Bytes.ofString "a\\nb"⟩
  let record : Record := .error (Fault.masterStep 1 command.programName (.code 1)).message
  have hlogged : logged record ∈ misnamedRun := List.mem_append_right _ (by simp [record, command])
  refine ⟨misnamedRun, _, record, misnamedRun_trace, ?_, "b) exited with status 1", ?_, ?_⟩
  · exact List.mem_append_left _ (List.mem_map_of_mem hlogged)
  · decide +kernel
  · rintro ⟨message, hline⟩
    have hfirst := congrArg (fun line : String => line.toList.head?) hline
    simp at hfirst

end Session
end GuestInit
