import GuestInit.Rehearsal.Kernel
import GuestInit.Rehearsal.Loop
import GuestInit.Proofs.CleanupOrder
import GuestInit.Proofs.Halting
import GuestInit.Proofs.Supervision

/-! Rehearsals as runs. What a guest to rehearse on remembers is what the program has requested, in
order, and the patience of a guest is enough for every loop. Main statement: a rehearsal of the whole
program is one of its traces, and not one that was cut off, so that all that holds of those holds of
it; likewise for the protocols of a rehearsed control loop. -/

namespace GuestInit

open Kernel Program

namespace Program

variable {I J : Interface} {α β σ : Type}

/-- From a state on, no loop is cut off, and where the program returns, the state meets `kept`. -/
def Lasts (R : Behaviour I σ) (kept : σ → Prop) : Program I α → σ → Prop
  | done _, s => kept s
  | unfinished, _ => False
  | ask q next, s => ∀ answer s', R s q answer s' → (next answer).Lasts R kept s'

section

variable {R : Behaviour I σ} {kept : σ → Prop} {p : Program I α} {s : σ}

theorem lasts_ask_iff {q : I.Request} {next : I.Answer q → Program I α} :
    (ask q next).Lasts R kept s ↔ ∀ answer s', R s q answer s' → (next answer).Lasts R kept s' :=
  Iff.rfl

theorem Lasts.bind {f : α → Program I β} (hp : p.Lasts R kept s)
    (hf : ∀ value s', kept s' → (f value).Lasts R kept s') : (p >>= f).Lasts R kept s := by
  induction p generalizing s with
  | done value => exact hf value s hp
  | unfinished => exact hp.elim
  | ask q next ih => exact fun answer s' hstep => ih answer (hp answer s' hstep)

theorem Finishes.lasts (hp : p.Finishes)
    (hkept : ∀ {s q answer s'}, kept s → R s q answer s' → kept s') (hs : kept s) :
    p.Lasts R kept s := by
  induction p generalizing s with
  | done value => exact hs
  | unfinished => exact hp.elim
  | ask q next ih => exact fun answer s' hstep => ih answer (hp answer) (hkept hs hstep)

theorem Finishes.interpret_lasts {p : Program J α} {carry : (q : J.Request) → Program I (J.Answer q)}
    (hp : p.Finishes) (hcarry : ∀ q s, kept s → (carry q).Lasts R kept s) (hs : kept s) :
    (p.interpret carry).Lasts R kept s := by
  induction p generalizing s with
  | done value => exact hs
  | unfinished => exact hp.elim
  | ask q next ih => exact (hcarry q s hs).bind fun answer s' hs' => ih answer (hp answer) hs'

theorem Lasts.standing_ne {machine : Machine I σ} (h : p.Lasts machine.behaviour kept s) :
    p.standing machine s ≠ .unfinished := by
  induction p generalizing s with
  | done value => nofun
  | unfinished => exact h.elim
  | ask q next ih =>
    rcases hanswer : machine.answer s q with ⟨_ | answer, s'⟩
    · simp [standing, hanswer]
    · simpa [standing, hanswer] using ih answer (h answer s' hanswer)

end

end Program

namespace Rehearsal

namespace Guest

variable {guest guest' : Guest} {reply : Reply}

/-- What a request adds to the trace of a guest. -/
def tracedBy : Request → List Request
  | .call c => [.call c]
  | .openScript path => [.openScript path]
  | .exit status => [.exit status]
  | .log _ | .complain _ => []

/-- What a request adds to the console of a guest. -/
def writtenBy : Request → List String
  | .log record => Console.recordLines record
  | .complain text => Console.lines text
  | .call _ | .openScript _ | .exit _ => []

/-- Prepared results are as many rounds, and one more is what is left without any. -/
def rounds (prepared : List (Kind × List Result)) : Nat :=
  prepared.foldr (fun entry rounds => entry.2.length + rounds) 1

@[simp] theorem rounds_cons (kind : Kind) (results : List Result)
    (prepared : List (Kind × List Result)) :
    rounds ((kind, results) :: prepared) = results.length + rounds prepared := rfl

theorem rounds_pos (prepared : List (Kind × List Result)) : 0 < rounds prepared := by
  induction prepared with
  | nil => exact Nat.one_pos
  | cons entry rest ih => exact Nat.add_pos_right _ ih

/-- A result that is taken is one less, and where none is prepared, nothing changes. -/
theorem takeResult_rounds (kind : Kind) (prepared : List (Kind × List Result)) :
    rounds (takeResult kind prepared).2 < rounds prepared ∨
      takeResult kind prepared = (none, prepared) := by
  induction prepared with
  | nil => exact .inr rfl
  | cons entry rest ih =>
    obtain ⟨other, results⟩ := entry
    by_cases hkind : other = kind
    · cases results with
      | nil => exact .inr (by simp [takeResult, hkind])
      | cons result results => exact .inl (by simp [takeResult, hkind])
    · rcases ih with hless | hnone
      · exact .inl (by simpa [takeResult, hkind] using hless)
      · exact .inr (by simp [takeResult, hkind, hnone])

/-- What a guest remembers of a run: its trace and its console. -/
def memory (guest : Guest) : List Request × List String := (guest.trace, guest.console)

@[simp] theorem control_memory (guest : Guest) (ipcClass : Ipc.Class) (operation : Ipc.Operation)
    (operand : Int) : (guest.control ipcClass operation operand).2.memory = guest.memory := by
  cases operation <;> rfl

@[simp] theorem result_memory (guest : Guest) (c : Call) :
    (guest.result c).2.memory = guest.memory := by
  cases c with
  | ipcControl ipcClass operation operand => exact control_memory guest ipcClass operation operand
  | _ => rfl

@[simp] theorem reply_memory (guest : Guest) (result : Result) :
    (guest.reply result).2.memory = guest.memory := by
  cases result <;> rfl

theorem reply_patience (guest : Guest) (result : Result) :
    (guest.reply result).2.patience = guest.patience := by
  cases result <;> rfl

/-- A call is traced, has its result, and may end the run. -/
theorem answerCall_guest (guest : Guest) (c : Call) :
    let resulted := (guest.traced (.call c)).result c
    ∃ ended, (guest.answerCall c).2 = { (resulted.2.reply resulted.1).2 with ended := ended } := by
  intro resulted
  unfold answerCall
  dsimp only
  split
  · exact ⟨_, rfl⟩
  · exact ⟨(resulted.2.reply resulted.1).2.ended, rfl⟩

theorem answerCall_memory (guest : Guest) (c : Call) :
    (guest.answerCall c).2.memory = (guest.traced (.call c)).memory := by
  obtain ⟨ended, hguest⟩ := guest.answerCall_guest c
  rw [hguest]
  exact (reply_memory ..).trans (result_memory ..)

/-- A request adds to what a guest remembers, and takes nothing away. -/
theorem answer_memory (guest : Guest) (q : Request) : (guest.answer q).2.memory =
    ((tracedBy q).reverse ++ guest.trace, (writtenBy q).reverse ++ guest.console) := by
  cases q with
  | call c => exact answerCall_memory guest c
  | openScript path => rfl
  | log record => rfl
  | complain text => rfl
  | exit status => rfl

/-- A call takes a result that was prepared for it, or has the usual one. Tables are not prepared. -/
theorem result_patience (guest : Guest) (c : Call) :
    (guest.result c).2.patience < guest.patience ∨
      ((guest.result c).2.patience = guest.patience ∧
        ∀ pid, c = .waitpid pid → (guest.result c).1 = Result.usual c) := by
  have hprepared (kind : Kind) (hkind : guest.result c =
      ((takeResult kind guest.prepared).1.getD (Result.usual c),
        { guest with prepared := (takeResult kind guest.prepared).2 })) :
      (guest.result c).2.patience < guest.patience ∨
        ((guest.result c).2.patience = guest.patience ∧
          ∀ pid, c = .waitpid pid → (guest.result c).1 = Result.usual c) := by
    rw [hkind]
    refine (takeResult_rounds kind guest.prepared).imp id fun hnone => ?_
    rw [hnone]
    exact ⟨rfl, fun _ _ => rfl⟩
  cases c with
  | ipcControl ipcClass operation operand =>
    refine .inr ⟨?_, nofun⟩
    cases operation <;> rfl
  | umask mask => exact .inr ⟨rfl, nofun⟩
  | _ => exact hprepared _ rfl

theorem answerCall_patience (guest : Guest) (c : Call) :
    (guest.answerCall c).2.patience = ((guest.traced (.call c)).result c).2.patience := by
  obtain ⟨ended, hguest⟩ := guest.answerCall_guest c
  rw [hguest]
  exact reply_patience ..

theorem answer_patience_le (guest : Guest) (q : Request) :
    (guest.answer q).2.patience ≤ guest.patience := by
  cases q with
  | call c =>
    rw [show (guest.answer (.call c)).2 = (guest.answerCall c).2 from rfl, answerCall_patience]
    rcases (guest.traced (.call c)).result_patience c with hless | ⟨heq, -⟩
    · exact Nat.le_of_lt hless
    · exact Nat.le_of_eq heq
  | openScript path => exact Nat.le_refl _
  | log record => exact Nat.le_refl _
  | complain text => exact Nat.le_refl _
  | exit status => exact Nat.le_refl _

/-- A wait that does not cost a guest patience has the usual reply: there is no child for one that
waits for any process, and the very process for one that waits for it. -/
theorem waitpid_patience {pid : Int} (h : machine.behaviour guest (.call (.waitpid pid)) reply guest') :
    guest'.patience < guest.patience ∨
      if pid = -1 then reply.value = -1 ∧ reply.errno = 10 else reply.value = pid := by
  have hanswer : guest.answerCall (.waitpid pid) = (some reply, guest') := h
  have hguest : guest' = (guest.answerCall (.waitpid pid)).2 := by rw [hanswer]
  let result := (guest.traced (.call (.waitpid pid))).result (.waitpid pid)
  have hreply : reply = (result.2.reply result.1).1 :=
    (Option.some.inj (congrArg Prod.fst hanswer)).symm
  rw [hguest, answerCall_patience]
  refine ((guest.traced (.call (.waitpid pid))).result_patience (.waitpid pid)).imp id ?_
  rintro ⟨-, husual⟩
  have husual : result.1 = Result.usual (.waitpid pid) := husual pid rfl
  rw [hreply, husual]
  by_cases hany : pid = -1
  · rw [if_pos hany, hany]
    exact ⟨rfl, rfl⟩
  · have hother : Result.usual (.waitpid pid) = .collected pid 0 := if_neg hany
    rw [if_neg hany, hother]
    rfl

end Guest

section Patience

variable {most rounds : Nat} {guest guest' : Guest}

/-- A guest with no more patience than so many rounds. -/
def Guest.TiresWithin (most : Nat) (guest : Guest) : Prop := guest.patience ≤ most

theorem tires_answer {q : Request} {answer : Answer q} (h : guest.TiresWithin most)
    (hstep : Guest.machine.behaviour guest q answer guest') : guest'.TiresWithin most := by
  obtain rfl : guest' = (guest.answer q).2 := (congrArg Prod.snd hstep).symm
  exact Nat.le_trans (guest.answer_patience_le q) h

theorem killAll_lasts {collected : Nat} (hmost : guest.TiresWithin most)
    (h : guest.TiresWithin rounds) :
    (Cleanup.killAll rounds collected).Lasts Guest.machine.behaviour (Guest.TiresWithin most)
      guest := by
  induction rounds generalizing collected guest with
  | zero => exact absurd h (Nat.not_le_of_lt (Guest.rounds_pos guest.prepared))
  | succ rounds ih =>
    rw [Cleanup.killAll_succ]
    refine lasts_ask_iff.mpr fun signal guest₁ hsignal => ?_
    have hmost₁ := tires_answer hmost hsignal
    have h₁ := tires_answer h hsignal
    by_cases hsignalled : Cleanup.Signalled signal
    · rw [if_pos hsignalled]
      refine lasts_ask_iff.mpr fun wait guest₂ hwait => ?_
      have hmost₂ := tires_answer hmost₁ hwait
      rcases Guest.waitpid_patience hwait with hless | ⟨hvalue, herrno⟩
      · -- the loop goes on in a guest that has become less patient, or ends
        have hgoes (collected : Nat) : (Cleanup.killAll rounds collected).Lasts _ _ guest₂ :=
          ih hmost₂ (Nat.le_of_lt_succ (Nat.lt_of_lt_of_le hless h₁))
        split
        · exact hgoes _
        split
        · exact hmost₂
        split
        · exact hgoes _
        · exact hmost₂
      · rw [if_neg (by omega), if_pos herrno]
        exact hmost₂
    · rw [if_neg hsignalled]
      exact hmost₁

theorem wait_lasts {pid : Int} (hpid : 0 ≤ pid) (hmost : guest.TiresWithin most)
    (h : guest.TiresWithin rounds) :
    (Launch.wait rounds pid).Lasts Guest.machine.behaviour (Guest.TiresWithin most) guest := by
  induction rounds generalizing guest with
  | zero => exact absurd h (Nat.not_le_of_lt (Guest.rounds_pos guest.prepared))
  | succ rounds ih =>
    rw [Launch.wait_succ]
    refine lasts_ask_iff.mpr fun reply guest₁ hwait => ?_
    have hmost₁ := tires_answer hmost hwait
    rcases Guest.waitpid_patience hwait with hless | hvalue
    · split
      · exact hmost₁
      split
      · exact ih hmost₁ (Nat.le_of_lt_succ (Nat.lt_of_lt_of_le hless h))
      · exact hmost₁
    · rw [if_neg (by omega)] at hvalue
      rw [if_pos (by omega)]
      exact hmost₁

end Patience

section Session

variable {most : Nat} {guest : Guest}

/-- What has no loop in it lasts in any guest. -/
theorem finishes_lasts {α : Type} {p : Action α} (hp : p.Finishes) (h : guest.TiresWithin most) :
    p.Lasts Guest.machine.behaviour (Guest.TiresWithin most) guest :=
  hp.lasts tires_answer h

theorem child_finishes (arguments : Arguments) (identity : Identity) (script : Option Int) :
    (Launch.child arguments identity script).Finishes := by
  refine finishes_of_trace fun es htrace => ?_
  obtain ⟨_, _, _, hstanding, -⟩ := Launch.child_life htrace
  cases hstanding

theorem prepare_finishes (config : Config) : (Boot.prepare config).run.Finishes := by
  refine finishes_of_trace fun es htrace => ?_
  obtain ⟨_, hfollows⟩ := Boot.prepare_follows htrace
  cases hfollows.attended

theorem reap_lasts (h : guest.TiresWithin most) :
    (Cleanup.reap most).Lasts Guest.machine.behaviour (Guest.TiresWithin most) guest := by
  rw [Cleanup.reap_eq]
  refine (killAll_lasts h h).bind fun killed guest' h' => ?_
  cases killed with
  | error cause => exact h'
  | ok collected => exact finishes_lasts (Cleanup.sweepAfter_answerable collected).finishes h'

theorem launch_lasts (identities : Identities) (command : Command) (script : Option Int)
    (h : guest.TiresWithin most) :
    (Launch.launch most identities command script).Lasts Guest.machine.behaviour
      (Guest.TiresWithin most) guest := by
  cases harguments : Launch.arguments command with
  | error fault =>
    rw [Launch.launch, harguments]
    exact h
  | ok arguments =>
    rw [Launch.launch_eq harguments]
    refine lasts_ask_iff.mpr fun reply guest₁ hfork => ?_
    have h₁ := tires_answer h hfork
    split
    · exact h₁
    split
    · exact finishes_lasts ((child_finishes _ _ _).bind fun never => never.elim) h₁
    · refine lasts_ask_iff.mpr fun _ guest₂ hstarted => ?_
      have h₂ := tires_answer h₁ hstarted
      exact (wait_lasts (by omega) h₂ h₂).bind fun _ _ => id

theorem execute_lasts (identities : Identities) (script : Script) (h : guest.TiresWithin most) :
    (Session.execute most identities script).Lasts Guest.machine.behaviour
      (Guest.TiresWithin most) guest := by
  refine (ControlLoop.runFrom_finishes 0 script).interpret_lasts (fun q guest h => ?_) h
  cases q with
  | note record => exact finishes_lasts (fun _ => trivial) h
  | launch command script => exact launch_lasts identities command script h
  | reap => exact reap_lasts h

theorem serve_lasts (config : Config) (h : guest.TiresWithin most) :
    (Session.serve most config).Lasts Guest.machine.behaviour (Guest.TiresWithin most) guest := by
  refine (finishes_lasts (prepare_finishes config) h).bind fun prepared guest₁ h₁ => ?_
  cases prepared with
  | error fault => exact h₁
  | ok _ =>
    refine lasts_ask_iff.mpr fun opened guest₂ hopen => ?_
    have h₂ := tires_answer h₁ hopen
    rcases opened with cause | ⟨fd, source⟩
    · exact h₂
    · exact (execute_lasts config.identities (.ofFile fd source) h₂).bind fun _ _ => id

theorem halt_finishes : Halt.halt.Finishes := fun _ _ _ => nofun

theorem supervise_lasts (diskSize : Option Bytes) (h : guest.TiresWithin most) :
    (Session.supervise most diskSize).Lasts Guest.machine.behaviour (Guest.TiresWithin most)
      guest := by
  have hdie (fault : Fault) : (Halt.die fault).Finishes := fun _ => halt_finishes
  rw [Session.supervise_eq]
  refine lasts_ask_iff.mpr fun _ guest₁ hinit => ?_
  have h₁ := tires_answer h hinit
  cases Config.ofVariable diskSize with
  | error fault => exact finishes_lasts (hdie fault) h₁
  | ok config =>
    refine lasts_ask_iff.mpr fun _ guest₂ hscratch => ?_
    refine (serve_lasts config (tires_answer h₁ hscratch)).bind fun result guest₃ h₃ => ?_
    cases result with
    | error fault => exact finishes_lasts (hdie fault) h₃
    | ok _ => exact finishes_lasts halt_finishes h₃

theorem start_lasts (pid : Nat) (diskSize : Option Bytes) (h : guest.TiresWithin most) :
    (Session.start most pid diskSize).Lasts Guest.machine.behaviour (Guest.TiresWithin most)
      guest := by
  unfold Session.start
  split
  · exact (supervise_lasts diskSize h).bind fun never => never.elim
  · exact finishes_lasts (fun _ => trivial) h

/-- The whole program, rehearsed with the patience of the guest for its loops, makes one of its runs
and is not cut off. The guest remembers every request of that run that is traced or written. -/
theorem perform_start (pid : Nat) (diskSize : Option Bytes) (guest : Guest) :
    ∃ es standing, (Session.start guest.patience pid diskSize).Trace es standing ∧
      standing ≠ .unfinished ∧
      (perform (Session.start guest.patience pid diskSize) guest).1 = standing.ending ∧
      (perform (Session.start guest.patience pid diskSize) guest).2.trace =
        ((requests es standing).flatMap Guest.tracedBy).reverse ++ guest.trace ∧
      (perform (Session.start guest.patience pid diskSize) guest).2.console =
        ((requests es standing).flatMap Guest.writtenBy).reverse ++ guest.console := by
  obtain ⟨htrace, hending⟩ :=
    trace_exchanges Guest.machine (Session.start guest.patience pid diskSize) guest
  have hlasts : guest.TiresWithin guest.patience := Nat.le_refl _
  refine ⟨_, _, htrace, (start_lasts pid diskSize hlasts).standing_ne, hending, ?_, ?_⟩
  · exact run_history Guest.machine Guest.trace
      (fun guest q => congrArg Prod.fst (guest.answer_memory q)) _ guest
  · exact run_history Guest.machine Guest.console
      (fun guest q => congrArg Prod.snd (guest.answer_memory q)) _ guest

end Session

section Loop

/-- The events of a request to the collaborators, given those of a launch. -/
def happened (launched : Command → Option Int → List Event) : ControlLoop.Request → List Event
  | .note record => (Console.recordLines record).map .line
  | .launch command script => launched command script
  | .reap => [.reap]

/-- The protocols of runs of a script, each of which goes on where the one before left off. -/
inductive Rehearsed (launched : Command → Option Int → List Event) :
    Nat → Script → List Protocol → Prop
  | none (script : Script) : Rehearsed launched 0 script []
  | more {times : Nat} {script rest : Script} {es : List (Exchange ControlLoop.Collaborators)}
      {result : Except Fault Nat} {protocols : List Protocol}
      (hrun : (ControlLoop.run script).Trace es (.returned (result, rest)))
      (hrest : Rehearsed launched times rest protocols) :
      Rehearsed launched (times + 1) script
        (⟨result, (requests es (.returned (result, rest))).flatMap (happened launched)⟩ :: protocols)

theorem recordAll_events (stage : Stage) (events : List Event) :
    (stage.recordAll events).events = events.reverse ++ stage.events := by
  induction events generalizing stage with
  | nil => rfl
  | cons event events ih =>
    rw [Stage.recordAll, List.foldl_cons, ← Stage.recordAll, ih, List.reverse_cons,
      List.append_assoc]
    rfl

theorem answer_events {launcher : Launcher} {launched : Command → Option Int → List Event}
    (h : ∀ stage command script,
      (launcher stage command script).2.events = (launched command script).reverse ++ stage.events)
    (stage : Stage) (q : ControlLoop.Request) :
    (answer launcher stage q).2.events = (happened launched q).reverse ++ stage.events := by
  cases q with
  | note record => exact recordAll_events stage _
  | launch command script => exact h stage command script
  | reap => rfl

/-- As many protocols are made as runs were asked for, each with all the events of its run and
nothing of the runs before it. -/
theorem runs_rehearsed {launcher : Launcher} {launched : Command → Option Int → List Event}
    (h : ∀ stage command script,
      (launcher stage command script).2.events = (launched command script).reverse ++ stage.events)
    (times : Nat) (script : Script) (stage : Stage) :
    Rehearsed launched times script (runs launcher times script stage) := by
  induction times generalizing script stage with
  | zero => exact .none script
  | succ times ih =>
    let machine := collaborators launcher
    let start : Stage := { stage with events := [] }
    have hanswers (stage : Stage) (q : ControlLoop.Request) :
        ∃ answer stage', machine.answer stage q = (some answer, stage') := by
      cases q <;> exact ⟨_, _, rfl⟩
    obtain ⟨⟨result, rest⟩, stage', hrun⟩ :=
      (ControlLoop.runFrom_finishes 0 script).returns_of_answers hanswers start
    have hrun : (ControlLoop.run script).run machine start =
        (.returned (result, rest), stage') := hrun
    obtain ⟨htrace, hending⟩ := trace_exchanges machine (ControlLoop.run script) start
    have hstanding := Standing.ending_eq_returned_iff.mp (hending.symm.trans (congrArg Prod.fst hrun))
    have hevents := run_history machine Stage.events (answer_events h) (ControlLoop.run script) start
    rw [hrun, hstanding] at hevents
    rw [hstanding] at htrace
    rw [runs, hrun]
    dsimp only at hevents ⊢
    rw [hevents, List.append_nil, List.reverse_reverse]
    exact .more htrace (ih rest stage')

/-- A launcher with prepared outcomes protocols each command whose line splits. -/
theorem runs_launch (times : Nat) (script : Script) (stage : Stage) :
    Rehearsed (fun command script => match command.arguments with
      | .ok arguments => [.launch arguments command script]
      | .error _ => []) times script (runs Stage.launch times script stage) := by
  refine runs_rehearsed (fun stage command script => ?_) times script stage
  rw [Stage.launch]
  cases command.arguments with
  | error fault => rfl
  | ok arguments => rfl

end Loop

end Rehearsal
end GuestInit
