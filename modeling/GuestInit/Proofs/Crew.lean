import GuestInit.Proofs.Rounds

/-! A launcher and a reaper with states of their own, as the collaborators of the loop. Neither hears
what the loop notes, and neither knows of the other. -/

namespace GuestInit.ControlLoop

open Program

/-- A launcher with a state of its own. -/
abbrev Launcher (σ : Type) := σ → Command → Option Int → Except Fault ExitStatus × σ

/-- A reaper with a state of its own. -/
abbrev Reaper (ρ : Type) := ρ → Except Fault Unit × ρ

/-- What the loop does with a command once it knows how it ended. -/
def conclude (command : Command) : Except Fault ExitStatus → Program Collaborators (Except Fault Unit)
  | .error fault => .done (.error fault)
  | .ok status =>
    match command.judge status with
    | .error fault => .done (.error fault)
    | .ok record => noteIfAny record >>= fun _ => request Collaborators .reap

section

variable {σ ρ : Type} {launcher : Launcher σ} {reaper : Reaper ρ} {s : σ} {r : ρ}
  {command : Command} {script : Option Int} {next : Except Fault Unit → Program Collaborators Outcome}

/-- A launcher and a reaper at work. -/
def crew (launcher : Launcher σ) (reaper : Reaper ρ) :
    σ × ρ → (q : Request) → Answer q × (σ × ρ)
  | state, .note _ => ((), state)
  | (s, r), .launch command script =>
    ((launcher s command script).1, ((launcher s command script).2, r))
  | (s, r), .reap => ((reaper r).1, (s, (reaper r).2))

theorem step_bind (command : Command) (script : Option Int) :
    (step command script >>= next) = .ask (.note (stepRecord command)) fun _ =>
      .ask (.launch command script) fun answer => conclude command answer >>= next := by
  rw [step_eq, ask_bind]
  refine congrArg _ (funext fun _ => ?_)
  rw [ask_bind]
  refine congrArg _ (funext fun answer => ?_)
  cases answer with
  | error fault => rfl
  | ok status => rfl

theorem run_note_bind {α : Type} (record : Record) (next : Unit → Program Collaborators α)
    (state : σ × ρ) :
    (note record >>= next).run (.always (crew launcher reaper)) state =
      (next ()).run (.always (crew launcher reaper)) state := rfl

theorem run_noteIfAny_bind {α : Type} (record : Option Record)
    (next : Unit → Program Collaborators α) (state : σ × ρ) :
    (noteIfAny record >>= next).run (.always (crew launcher reaper)) state =
      (next ()).run (.always (crew launcher reaper)) state := by
  cases record with
  | none => rfl
  | some record => exact run_note_bind record next state

/-- After a command whose end lets the run go on, and the cleanup, it is the next one's turn. -/
theorem run_conclude_bind {status : ExitStatus} (hpass : command.Passes status) :
    (conclude command (.ok status) >>= next).run (.always (crew launcher reaper)) (s, r) =
      (next (reaper r).1).run (.always (crew launcher reaper)) (s, (reaper r).2) := by
  simp only [conclude, Command.judge_of_passes hpass, Program.bind_bind, run_noteIfAny_bind]
  rfl

/-- A whole round, from the launch to the cleanup. -/
theorem run_step_bind {status : ExitStatus} (hlaunch : (launcher s command script).1 = .ok status)
    (hpass : command.Passes status) :
    (step command script >>= next).run (.always (crew launcher reaper)) (s, r) =
      (next (reaper r).1).run (.always (crew launcher reaper))
        ((launcher s command script).2, (reaper r).2) := by
  rw [step_bind]
  show (conclude command (launcher s command script).1 >>= next).run
    (.always (crew launcher reaper)) ((launcher s command script).2, r) = _
  rw [hlaunch, run_conclude_bind hpass]

end

end GuestInit.ControlLoop
