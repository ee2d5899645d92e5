import GuestInit.ControlLoop
import GuestInit.Proofs.Trace

/-! The course of the control loop. Whatever the launcher and the reaper answer, a run is a number
of rounds, in each of which one command is announced, launched, judged and cleaned up after, and
then a tail that says why there was no further round. The tail alone decides the result. -/

namespace GuestInit

namespace Script

/-- The script after some reads. -/
def after (script : Script) : Nat → Script
  | 0 => script
  | n + 1 => script.next.2.after n

@[simp] theorem after_zero (script : Script) : script.after 0 = script := rfl
@[simp] theorem after_succ (script : Script) (n : Nat) :
    script.after (n + 1) = script.next.2.after n := rfl

@[simp] theorem next_descriptor (script : Script) :
    script.next.2.descriptor = script.descriptor := by
  unfold next
  split
  · rfl
  · rfl
  · dsimp only
    split <;> rfl

/-- A read fails because the source does, or because the line is too long. -/
theorem next_error_cases {script : Script} {fault : Fault} (h : script.next.1 = .error fault) :
    (∃ cause, fault = .readScript cause) ∨ ∃ line, fault = .lineTooLong line longestLine := by
  unfold next at h
  split at h
  · exact .inl ⟨_, (Except.error.inj h).symm⟩
  · cases h
  · dsimp only at h
    split at h
    · exact .inr ⟨_, (Except.error.inj h).symm⟩
    · cases h

/-- Induction on what is left of a script: a command that is read takes at least one byte out of the
source. -/
@[elab_as_elim]
theorem next_induction {motive : Script → Prop}
    (failed : ∀ script fault, script.next.1 = .error fault → motive script)
    (ended : ∀ script, script.next.1 = .ok none → motive script)
    (command : ∀ script command, script.next.1 = .ok (some command) → motive script.next.2 →
      motive script) (script : Script) : motive script := by
  induction hsize : script.source.size using Nat.strongRecOn generalizing script with
  | ind size ih =>
    rcases hread : script.next.1 with fault | (_ | read)
    · exact failed script fault hread
    · exact ended script hread
    · exact command script read hread (ih _ (hsize ▸ size_next_lt hread) _ rfl)

end Script

namespace Command

/-- The run may go on after a command that ended so. -/
def Passes (command : Command) (status : ExitStatus) : Prop :=
  command.privilege = .worker ∨ status = .code 0

/-- What is reported of a command after which the run goes on. -/
def routineRecord (command : Command) (status : ExitStatus) : Option Record :=
  match command.privilege with
  | .worker => some (.debug s!"worker step {command.line} {status.text}")
  | .master => none

theorem judge_of_passes {command : Command} {status : ExitStatus} (h : command.Passes status) :
    command.judge status = .ok (command.routineRecord status) := by
  cases hp : command.privilege with
  | worker => simp [judge, routineRecord, hp]
  | master =>
    have hs : status = .code 0 := h.resolve_left (by simp [hp])
    simp [judge, routineRecord, hp, hs]

theorem judge_of_failed {command : Command} {status : ExitStatus}
    (hp : command.privilege = .master) (hs : status ≠ .code 0) :
    command.judge status = .error (.masterStep command.line command.programName status) := by
  simp [judge, hp, hs]

theorem passes_or_failed (command : Command) (status : ExitStatus) :
    command.Passes status ∨ (command.privilege = .master ∧ status ≠ .code 0) := by
  cases hp : command.privilege with
  | worker => exact .inl (.inl hp)
  | master =>
    by_cases hs : status = .code 0
    · exact .inl (.inr hs)
    · exact .inr ⟨rfl, hs⟩

end Command

namespace ControlLoop

open Program

/-- What the loop has to do with its collaborators. -/
abbrev Event := Exchange Collaborators

def noted (record : Record) : Event := ⟨.note record, ()⟩

def launched (command : Command) (script : Option Int) (answer : Except Fault ExitStatus) : Event :=
  ⟨.launch command script, answer⟩

def reaped (answer : Except Fault Unit) : Event := ⟨.reap, answer⟩

/-- What is said before a command is launched. -/
def announced (command : Command) : Event := noted (.info
  s!"step {command.line} ({command.privilege.name}): {Blank.trim (Utf8.lossy command.raw)}")

/-- What is said at the end of the script. -/
def concluded (steps : Nat) : Event := noted (.info s!"control script finished after {steps} steps")

/-- A command that was launched, and how it ended. -/
structure Round where
  command : Command
  status : ExitStatus

namespace Round

/-- The events up to the cleanup. -/
def execution (script : Option Int) (round : Round) : List Event :=
  [announced round.command, launched round.command script (.ok round.status)] ++
    (round.command.routineRecord round.status).toList.map noted

def events (script : Option Int) (round : Round) : List Event :=
  round.execution script ++ [reaped (.ok ())]

end Round

/-- Where the execution of a command broke off. -/
inductive Break where
  | notLaunched (fault : Fault)
  | failed (status : ExitStatus)
  | notReaped (status : ExitStatus) (fault : Fault)

namespace Break

def events (script : Option Int) (command : Command) : Break → List Event
  | notLaunched fault => [announced command, launched command script (.error fault)]
  | failed status => [announced command, launched command script (.ok status)]
  | notReaped status fault => (Round.mk command status).execution script ++ [reaped (.error fault)]

def fault (command : Command) : Break → Fault
  | notLaunched fault => fault
  | failed status => .masterStep command.line command.programName status
  | notReaped _ fault => fault

/-- Only a command of the master fails, and only a command that did not fail is cleaned up after. -/
def Fits (command : Command) : Break → Prop
  | notLaunched _ => True
  | failed status => command.privilege = .master ∧ status ≠ .code 0
  | notReaped status _ => command.Passes status

end Break

/-- Why a run has no further round. -/
inductive Tail where
  | finished
  | unread (fault : Fault)
  | broken (command : Command) (at_ : Break)

namespace Tail

def events (script : Option Int) (steps : Nat) : Tail → List Event
  | finished => [concluded steps]
  | unread _ => []
  | broken command at_ => at_.events script command

def result (steps : Nat) : Tail → Except Fault Nat
  | finished => .ok steps
  | unread fault => .error fault
  | broken command at_ => .error (at_.fault command)

/-- What the next read has to give for a run to end so. -/
def Fits (script : Script) : Tail → Prop
  | finished => script.next.1 = .ok none
  | unread fault =>
    script.next.1 = .error fault ∧
      ((∃ cause, fault = .readScript cause) ∨ ∃ line, fault = .lineTooLong line 4096)
  | broken command at_ => script.next.1 = .ok (some command) ∧ at_.Fits command

end Tail

/-- The rounds execute the commands of a script in order, from the first one on, and the tail has
to do with the read after them. -/
structure Course (script : Script) (rounds : List Round) (tail : Tail) : Prop where
  reads : ∀ k round, rounds[k]? = some round →
    (script.after k).next.1 = .ok (some round.command)
  passed : ∀ round ∈ rounds, round.command.Passes round.status
  ends : tail.Fits (script.after rounds.length)

namespace Course

theorem nil {script : Script} {tail : Tail} (h : tail.Fits script) : Course script [] tail :=
  ⟨by simp, by simp, h⟩

theorem cons {script : Script} {round : Round} {rounds : List Round} {tail : Tail}
    (hread : script.next.1 = .ok (some round.command)) (hpass : round.command.Passes round.status)
    (h : Course script.next.2 rounds tail) : Course script (round :: rounds) tail where
  reads k r hk := by
    cases k with
    | zero =>
      obtain rfl : round = r := by simpa using hk
      exact hread
    | succ k => exact h.reads k r (by simpa using hk)
  passed := by simpa using ⟨hpass, h.passed⟩
  ends := h.ends

end Course

theorem step_eq (command : Command) (script : Option Int) :
    step command script = .ask (.note (stepRecord command)) fun _ =>
      .ask (.launch command script) fun answer =>
        match answer with
        | .error fault => .done (.error fault)
        | .ok status =>
          match command.judge status with
          | .error fault => .done (.error fault)
          | .ok record => noteIfAny record >>= fun _ => request Collaborators .reap := rfl

/-- What is left to do with a command that was judged. -/
theorem cleanup_returned {record : Option Record} {es : List Event} {result : Except Fault Unit}
    (h : (noteIfAny record >>= fun _ => request Collaborators .reap).Trace es
      (.returned result)) : es = record.toList.map noted ++ [reaped result] := by
  cases record with
  | none =>
    obtain ⟨answer, rest, rfl, hdone⟩ := trace_ask_returned_iff.mp h
    obtain ⟨rfl, hr⟩ := trace_done_iff.mp hdone
    cases hr
    rfl
  | some record =>
    obtain ⟨_, rest, rfl, hreap⟩ := trace_ask_returned_iff.mp h
    obtain ⟨answer, rest, rfl, hdone⟩ := trace_ask_returned_iff.mp hreap
    obtain ⟨rfl, hr⟩ := trace_done_iff.mp hdone
    cases hr
    rfl

/-- A command makes a whole round, or its execution breaks off with a fault. -/
theorem step_returned {command : Command} {script : Option Int} {es : List Event}
    {result : Except Fault Unit} (h : (step command script).Trace es (.returned result)) :
    (∃ status, command.Passes status ∧ result = .ok () ∧
      es = (Round.mk command status).events script) ∨
    ∃ at_ : Break, at_.Fits command ∧ result = .error (at_.fault command) ∧
      es = at_.events script command := by
  rw [step_eq] at h
  obtain ⟨_, rest, rfl, hlaunch⟩ := trace_ask_returned_iff.mp h
  obtain ⟨answer, rest, rfl, hjudge⟩ := trace_ask_returned_iff.mp hlaunch
  cases answer with
  | error fault =>
    obtain ⟨rfl, hr⟩ := trace_done_iff.mp hjudge
    cases hr
    exact .inr ⟨.notLaunched fault, trivial, rfl, rfl⟩
  | ok status =>
    dsimp only at hjudge
    rcases command.passes_or_failed status with hpass | ⟨hpriv, hstatus⟩
    · rw [Command.judge_of_passes hpass] at hjudge
      obtain rfl := cleanup_returned hjudge
      cases result with
      | ok _ => exact .inl ⟨status, hpass, rfl, rfl⟩
      | error fault => exact .inr ⟨.notReaped status fault, hpass, rfl, rfl⟩
    · rw [Command.judge_of_failed hpriv hstatus] at hjudge
      obtain ⟨rfl, hr⟩ := trace_done_iff.mp hjudge
      cases hr
      exact .inr ⟨.failed status, ⟨hpriv, hstatus⟩, rfl, rfl⟩

theorem runFrom_of_error {steps : Nat} {script : Script} {fault : Fault}
    (h : script.next.1 = .error fault) :
    runFrom steps script = .done (.error fault, script.next.2) := by
  rw [runFrom]
  split <;> simp_all

theorem runFrom_of_end {steps : Nat} {script : Script} (h : script.next.1 = .ok none) :
    runFrom steps script =
      note (finishedRecord steps) >>= fun _ => .done (.ok steps, script.next.2) := by
  rw [runFrom]
  split <;> simp_all

theorem runFrom_of_command {steps : Nat} {script : Script} {command : Command}
    (h : script.next.1 = .ok (some command)) :
    runFrom steps script = step command script.descriptor >>= fun
      | .error fault => .done (.error fault, script.next.2)
      | .ok () => runFrom (steps + 1) script.next.2 := by
  rw [runFrom]
  split
  · rename_i hnext
    simp [hnext] at h
  · rename_i hnext
    simp [hnext] at h
  · rename_i read rest hnext
    obtain rfl : read = command := by simpa [hnext] using h
    obtain rfl : script.next.2 = rest := by rw [hnext]
    rfl

/-- Every run that returns takes a course. -/
theorem runFrom_returned {steps : Nat} {script : Script} {es : List Event}
    {result : Except Fault Nat} {rest : Script}
    (h : (runFrom steps script).Trace es (.returned (result, rest))) :
    ∃ rounds tail, Course script rounds tail ∧
      es = rounds.flatMap (Round.events script.descriptor) ++
        tail.events script.descriptor (steps + rounds.length) ∧
      result = tail.result (steps + rounds.length) ∧ rest = script.after (rounds.length + 1) := by
  induction script using Script.next_induction generalizing steps es with
  | failed script fault hread =>
    rw [runFrom_of_error hread] at h
    obtain ⟨rfl, hr⟩ := trace_done_iff.mp h
    cases hr
    exact ⟨[], .unread fault, .nil ⟨hread, Script.next_error_cases hread⟩, rfl, rfl, rfl⟩
  | ended script hread =>
    rw [runFrom_of_end hread] at h
    obtain ⟨_, _, rfl, hdone⟩ := trace_ask_returned_iff.mp h
    obtain ⟨rfl, hr⟩ := trace_done_iff.mp hdone
    cases hr
    exact ⟨[], .finished, .nil hread, rfl, rfl, rfl⟩
  | command script command hread ih =>
    rw [runFrom_of_command hread] at h
    obtain ⟨answer, es₁, es₂, rfl, hstep, hrest⟩ := trace_bind_returned_iff.mp h
    rcases step_returned hstep with ⟨status, hpass, rfl, rfl⟩ | ⟨at_, hfits, rfl, rfl⟩
    · obtain ⟨rounds, tail, hcourse, rfl, rfl, rfl⟩ := ih hrest
      have hsteps : steps + 1 + rounds.length = steps + (rounds.length + 1) := by omega
      refine ⟨⟨command, status⟩ :: rounds, tail, .cons hread hpass hcourse, ?_, ?_, rfl⟩
      · simp [hsteps]
      · simp [hsteps]
    · obtain ⟨rfl, hr⟩ := trace_done_iff.mp hrest
      cases hr
      exact ⟨[], .broken command at_, .nil ⟨hread, hfits⟩, by simp [Tail.events], rfl, rfl⟩

theorem step_finishes (command : Command) (script : Option Int) :
    (step command script).Finishes := by
  rw [step_eq]
  intro _ answer
  cases answer with
  | error fault => trivial
  | ok status =>
    dsimp only
    rcases command.judge status with fault | (_ | record)
    · trivial
    · exact fun _ => trivial
    · exact fun _ _ => trivial

theorem runFrom_finishes (steps : Nat) (script : Script) : (runFrom steps script).Finishes := by
  induction script using Script.next_induction generalizing steps with
  | failed script fault hread =>
    rw [runFrom_of_error hread]
    trivial
  | ended script hread =>
    rw [runFrom_of_end hread]
    exact fun _ => trivial
  | command script command hread ih =>
    rw [runFrom_of_command hread]
    refine (step_finishes command script.descriptor).bind fun answer => ?_
    cases answer with
    | error fault => trivial
    | ok _ => exact ih (steps + 1)

/-- Against any launcher and any reaper, which may keep a state and answer anything, a run ends. It
makes whole rounds for the first commands of the script, in their order, and then the tail that
gives its result; and it has read once more than it has made rounds, so that nothing is read ahead
of a cleanup. -/
theorem run_course {σ : Type} (answer : σ → (q : Request) → Answer q × σ) (s : σ)
    (script : Script) :
    ∃ rounds tail, Course script rounds tail ∧
      (run script).exchanges (.always answer) s =
        rounds.flatMap (Round.events script.descriptor) ++
          tail.events script.descriptor rounds.length ∧
      ((run script).run (.always answer) s).1 =
        .returned (tail.result rounds.length, script.after (rounds.length + 1)) := by
  obtain ⟨⟨result, rest⟩, s', hrun⟩ := (runFrom_finishes 0 script).returns answer s
  obtain ⟨rounds, tail, hcourse, hes, hresult, hrest⟩ := runFrom_returned (trace_of_run hrun).1
  simp only [Nat.zero_add] at hes hresult
  exact ⟨rounds, tail, hcourse, hes, by rw [run, hrun, hresult, hrest]⟩

end ControlLoop
end GuestInit
