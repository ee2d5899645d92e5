import Mathlib.Data.List.Forall2
import GuestInit.Proofs.Crew

/-! How the commands of the worker end is nobody's concern. Two launchers that differ in nothing else
cannot be told apart by what the loop does: it gives the same result, launches and reaps the same in
the same order, and its reports differ only in how they say that a worker ended. -/

namespace GuestInit.ControlLoop

open Program

section

variable {σ σ' ρ : Type}

/-- The state of a launcher after some calls. -/
def Launcher.after (launcher : Launcher σ) (s : σ) : List (Command × Option Int) → σ
  | [] => s
  | (command, script) :: calls => launcher.after (launcher s command script).2 calls

/-- Answers to the launch of a command that are the same, unless they are both statuses and the
command is the worker's. -/
def SameButOutcome (command : Command) (answer answer' : Except Fault ExitStatus) : Prop :=
  answer = answer' ∨
    command.privilege = .worker ∧ ∃ status status', answer = .ok status ∧ answer' = .ok status'

/-- Launchers that answer the same after the same calls, but for how the worker's commands end. -/
def Agree (launcher : Launcher σ) (s : σ) (launcher' : Launcher σ') (s' : σ') : Prop :=
  ∀ calls command script,
    SameButOutcome command (launcher (launcher.after s calls) command script).1
      (launcher' (launcher'.after s' calls) command script).1

theorem Agree.after_launch {launcher : Launcher σ} {s : σ} {launcher' : Launcher σ'} {s' : σ'}
    (h : Agree launcher s launcher' s') (command : Command) (script : Option Int) :
    Agree launcher (launcher s command script).2 launcher' (launcher' s' command script).2 :=
  fun calls => h ((command, script) :: calls)

/-- Requests that are the same, unless they both report how a worker ended. -/
inductive Alike : Request → Request → Prop
  | refl (q : Request) : Alike q q
  | outcome (line : Nat) (status other : ExitStatus) :
      Alike (.note (.debug s!"worker step {line} {status.text}"))
        (.note (.debug s!"worker step {line} {other.text}"))

/-- The requests that a program makes of its collaborators, in order. -/
def asked {α : Type} (answer : σ → (q : Request) → Answer q × σ) (p : Program Collaborators α)
    (s : σ) : List Request :=
  (p.exchanges (.always answer) s).map Exchange.request

/-- Programs that give the same and ask alike. -/
def Indistinct {α : Type} (answer : σ → (q : Request) → Answer q × σ)
    (answer' : σ' → (q : Request) → Answer q × σ') (p p' : Program Collaborators α) (s : σ) (s' : σ') :
    Prop :=
  ∃ value, (p.run (.always answer) s).1 = .returned value ∧
    (p'.run (.always answer') s').1 = .returned value ∧
    List.Forall₂ Alike (asked answer p s) (asked answer' p' s')

namespace Indistinct

variable {α : Type} {answer : σ → (q : Request) → Answer q × σ}
  {answer' : σ' → (q : Request) → Answer q × σ'} {s : σ} {s' : σ'}

theorem done (value : α) : Indistinct answer answer' (.done value) (.done value) s s' :=
  ⟨value, rfl, rfl, .nil⟩

theorem ask {q q' : Request} {next : Answer q → Program Collaborators α}
    {next' : Answer q' → Program Collaborators α} (halike : Alike q q')
    (hnext : Indistinct answer answer' (next (answer s q).1) (next' (answer' s' q').1)
      (answer s q).2 (answer' s' q').2) :
    Indistinct answer answer' (.ask q next) (.ask q' next') s s' := by
  obtain ⟨value, hrun, hrun', hasked⟩ := hnext
  exact ⟨value, hrun, hrun', .cons halike hasked⟩

end Indistinct

/-- Statuses that are the same, or a worker's, are judged alike. -/
theorem judge_alike {command : Command} {status status' : ExitStatus}
    (h : status = status' ∨ command.privilege = .worker) :
    (∃ fault, command.judge status = .error fault ∧ command.judge status' = .error fault) ∨
    ∃ record record', command.judge status = .ok record ∧ command.judge status' = .ok record' ∧
      Option.Rel (fun note note' => Alike (.note note) (.note note')) record record' := by
  rcases h with rfl | hworker
  · cases hjudge : command.judge status with
    | error fault => exact .inl ⟨fault, rfl, rfl⟩
    | ok record =>
      refine .inr ⟨record, record, rfl, rfl, ?_⟩
      cases record with
      | none => exact .none
      | some note => exact .some (.refl _)
  · have hjudge : ∀ status, command.judge status =
        .ok (some (.debug s!"worker step {command.line} {status.text}")) := by
      intro status
      simp [Command.judge, hworker]
    exact .inr ⟨_, _, hjudge status, hjudge status', .some (.outcome command.line status status')⟩

variable {launcher : Launcher σ} {launcher' : Launcher σ'} {reaper : Reaper ρ} {s : σ} {s' : σ'}
  {r : ρ} {next : Except Fault Unit → Program Collaborators Outcome}

/-- After a command was judged, the two have the same left to do. -/
theorem cleanup_indistinct {record record' : Option Record}
    (hrecord : Option.Rel (fun note note' => Alike (.note note) (.note note')) record record')
    (hnext : Indistinct (crew launcher reaper) (crew launcher' reaper) (next (reaper r).1)
      (next (reaper r).1) (s, (reaper r).2) (s', (reaper r).2)) :
    Indistinct (crew launcher reaper) (crew launcher' reaper)
      ((noteIfAny record >>= fun _ => request Collaborators .reap) >>= next)
      ((noteIfAny record' >>= fun _ => request Collaborators .reap) >>= next) (s, r) (s', r) := by
  have hreap : Indistinct (crew launcher reaper) (crew launcher' reaper)
      (request Collaborators .reap >>= next) (request Collaborators .reap >>= next) (s, r) (s', r) :=
    .ask (.refl .reap) hnext
  cases hrecord with
  | none => exact hreap
  | some halike => exact .ask halike hreap

theorem conclude_indistinct {command : Command} {answer answer' : Except Fault ExitStatus}
    (hsame : SameButOutcome command answer answer')
    (hnext : ∀ result r', Indistinct (crew launcher reaper) (crew launcher' reaper) (next result)
      (next result) (s, r') (s', r')) :
    Indistinct (crew launcher reaper) (crew launcher' reaper) (conclude command answer >>= next)
      (conclude command answer' >>= next) (s, r) (s', r) := by
  have hstatuses {status status'} (h : status = status' ∨ command.privilege = .worker) :
      Indistinct (crew launcher reaper) (crew launcher' reaper) (conclude command (.ok status) >>= next)
        (conclude command (.ok status') >>= next) (s, r) (s', r) := by
    rcases judge_alike h with ⟨fault, hjudge, hjudge'⟩ | ⟨record, record', hjudge, hjudge', hrecord⟩
    · simp only [conclude, hjudge, hjudge']
      exact hnext (.error fault) r
    · simp only [conclude, hjudge, hjudge']
      exact cleanup_indistinct hrecord (hnext (reaper r).1 (reaper r).2)
  rcases hsame with rfl | ⟨hworker, status, status', rfl, rfl⟩
  · cases answer with
    | error fault => exact hnext (.error fault) r
    | ok status => exact hstatuses (.inl rfl)
  · exact hstatuses (.inr hworker)

theorem runFrom_indistinct (steps : Nat) (script : Script) (hagree : Agree launcher s launcher' s') :
    Indistinct (crew launcher reaper) (crew launcher' reaper) (runFrom steps script)
      (runFrom steps script) (s, r) (s', r) := by
  induction script using Script.next_induction generalizing steps s s' r with
  | failed script fault hread =>
    rw [runFrom_of_error hread]
    exact .done _
  | ended script hread =>
    rw [runFrom_of_end hread]
    exact .ask (.refl _) (.done _)
  | command script command hread ih =>
    rw [runFrom_of_command hread, step_bind]
    refine .ask (.refl _) (.ask (.refl _) ?_)
    have hlaunch : SameButOutcome command (launcher s command script.descriptor).1
        (launcher' s' command script.descriptor).1 := hagree [] command script.descriptor
    refine conclude_indistinct hlaunch fun result r' => ?_
    cases result with
    | error fault => exact .done _
    | ok _ => exact ih (steps + 1) (hagree.after_launch command script.descriptor)

end

/-- Whatever script is run and whatever the reaper does: two launchers that agree but for how the
worker's commands end lead to the same result, and to the same launches, cleanups and reports in the
same order, but for how a report says that a worker ended. -/
theorem run_ignores_outcomes {σ σ' ρ : Type} (script : Script) (reaper : Reaper ρ) (r : ρ)
    (launcher : Launcher σ) (s : σ) (launcher' : Launcher σ') (s' : σ')
    (hagree : Agree launcher s launcher' s') :
    ∃ outcome,
      ((run script).run (.always (crew launcher reaper)) (s, r)).1 = .returned outcome ∧
      ((run script).run (.always (crew launcher' reaper)) (s', r)).1 = .returned outcome ∧
      List.Forall₂ Alike (asked (crew launcher reaper) (run script) (s, r))
        (asked (crew launcher' reaper) (run script) (s', r)) :=
  runFrom_indistinct 0 script hagree

/-- A worker that is killed, with a different signal each time, is the same to the loop as one that
exits with status 0. -/
theorem run_ignores_outcomes_killed :
    let script := Script.ofSource (Source.ofBytes (Bytes.ofString "!a\nb\n"))
    let calm : Launcher Unit := fun _ _ _ => (.ok (.code 0), ())
    let rough : Launcher Nat := fun launched command _ =>
      (.ok (if command.privilege = .worker then .signal (launched + 1) else .code 0), launched + 1)
    let reaper : Reaper Nat := fun reaped => (.ok (), reaped + 1)
    Agree calm () rough 0 ∧ ∃ outcome,
      ((run script).run (.always (crew calm reaper)) ((), 0)).1 = .returned outcome ∧
      ((run script).run (.always (crew rough reaper)) (0, 0)).1 = .returned outcome ∧
      List.Forall₂ Alike (asked (crew calm reaper) (run script) ((), 0))
        (asked (crew rough reaper) (run script) (0, 0)) := by
  intro script calm rough reaper
  have hagree : Agree calm () rough 0 := by
    intro calls command descriptor
    cases hprivilege : command.privilege with
    | master => exact .inl (by simp [calm, rough, hprivilege])
    | worker => exact .inr ⟨hprivilege, .code 0, _, rfl, rfl⟩
  exact ⟨hagree, run_ignores_outcomes script reaper 0 calm () rough 0 hagree⟩

end GuestInit.ControlLoop
