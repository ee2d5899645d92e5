import GuestInit.ControlLoop

/-! Rehearsing the control loop: a launcher and a reaper that answer from prepared lists, and a
protocol of all that happens. -/

namespace GuestInit.Rehearsal

inductive Event where
  /-- A line on the console. -/
  | line (text : String)
  /-- The launcher was given a command. -/
  | launch (arguments : Arguments) (command : Command) (script : Option Int)
  /-- What a launched program wrote to its standard output. -/
  | output (bytes : Bytes)
  | reap
deriving DecidableEq, Repr

structure Stage where
  /-- How the next commands end. Those beyond the list succeed. -/
  outcomes : List (Except Fault ExitStatus)
  /-- How the next cleanups end. Those beyond the list succeed. -/
  reaps : List (Except Fault Unit)
  /-- What happened, the latest event first. -/
  events : List Event

namespace Stage

def record (stage : Stage) (event : Event) : Stage := { stage with events := event :: stage.events }

def recordAll (stage : Stage) (events : List Event) : Stage := events.foldl record stage

/-- A launcher that splits the command and then answers the next prepared outcome. -/
def launch (stage : Stage) (command : Command) (script : Option Int) :
    Except Fault ExitStatus × Stage :=
  match command.arguments with
  | .error fault => (.error fault, stage)
  | .ok arguments =>
    ((stage.outcomes.head?).getD (.ok (.code 0)),
      { stage.record (.launch arguments command script) with outcomes := stage.outcomes.tail })

def reap (stage : Stage) : Except Fault Unit × Stage :=
  ((stage.reaps.head?).getD (.ok ()), { stage.record .reap with reaps := stage.reaps.tail })

end Stage

abbrev Launcher := Stage → Command → Option Int → Except Fault ExitStatus × Stage

def answer (launcher : Launcher) (stage : Stage) :
    (q : ControlLoop.Request) → Option (ControlLoop.Answer q) × Stage
  | .note record => (some (), stage.recordAll ((Console.recordLines record).map .line))
  | .launch command script =>
    (some (launcher stage command script).1, (launcher stage command script).2)
  | .reap => (some stage.reap.1, stage.reap.2)

def collaborators (launcher : Launcher) : Machine ControlLoop.Collaborators Stage :=
  ⟨answer launcher⟩

/-- What became of one run, and its events in order. -/
structure Protocol where
  result : Except Fault Nat
  events : List Event

/-- Runs the same script `times` times, each run going on where the one before left off. -/
def runs (launcher : Launcher) : (times : Nat) → Script → Stage → List Protocol
  | 0, _, _ => []
  | times + 1, script, stage =>
    match (ControlLoop.run script).run (collaborators launcher) { stage with events := [] } with
    | (.returned (result, script), stage) =>
      ⟨result, stage.events.reverse⟩ :: runs launcher times script stage
    | (.stopped, _) | (.unfinished, _) => []

end GuestInit.Rehearsal
