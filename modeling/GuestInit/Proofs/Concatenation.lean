import GuestInit.Proofs.Indifference
import GuestInit.Proofs.LineByLine

/-! One script behind another. Main statement: if a script of whole lines is run to its end, then what
follows it is run as if it stood alone, by the launcher and the reaper as they were left, but with
higher line numbers; and if the run breaks off in the script, then what follows it makes no
difference. The loop carries nothing from one command to the next but the number of lines. -/

namespace GuestInit

namespace Command

/-- The same command `n` lines further down. -/
def shift (n : Nat) (command : Command) : Command := { command with line := command.line + n }

theorem parse_shift (n line : Nat) (text : Bytes) :
    (parse line text).shift n = parse (line + n) text := by
  cases text with
  | nil => rfl
  | cons first rest =>
    simp only [parse]
    split
    · rfl
    · rfl

end Command

/-- The same fault `n` lines further down. Not every fault names a line. -/
def Fault.shift (n : Nat) : Fault → Fault
  | lineTooLong line limit => lineTooLong (line + n) limit
  | malformedLine line cause => malformedLine (line + n) cause
  | masterStep line program status => masterStep (line + n) program status
  | fault => fault

theorem Command.arguments_shift (n : Nat) (command : Command) :
    (command.shift n).arguments = command.arguments.mapError (Fault.shift n) := by
  show (Arguments.split command.raw).mapError _ =
    ((Arguments.split command.raw).mapError _).mapError _
  cases Arguments.split command.raw with
  | ok arguments => rfl
  | error cause => rfl

/-- Nothing, or whole lines. -/
def Bytes.EndsLine (bytes : Bytes) : Prop := bytes = [] ∨ bytes.getLast? = some newline

namespace Source

variable {p : Bytes}

/-- A cut of whole lines is made within them. -/
theorem cutLine_append_of_endsLine (hp : p.EndsLine) (hne : p ≠ []) (room : Nat) (s : Bytes) :
    cutLine room (p ++ s) = ((cutLine room p).1, (cutLine room p).2 ++ s) := by
  refine cutLine_before rfl ?_ s
  by_cases hleft : (cutLine room p).2 = []
  · have hpiece : (cutLine room p).1 = p := by
      simpa [hleft] using cutLine_append room p
    rw [hpiece]
    exact .inr (hp.resolve_left hne)
  · exact .inl hleft

theorem endsLine_cutLine (hp : p.EndsLine) (room : Nat) : (cutLine room p).2.EndsLine := by
  by_cases hleft : (cutLine room p).2 = []
  · exact .inl hleft
  · have hne : p ≠ [] := by
      rintro rfl
      exact hleft (by rw [cutLine_nil])
    have hlast := hp.resolve_left hne
    rw [← cutLine_append room p, List.getLast?_append_of_ne_nil _ hleft] at hlast
    exact .inr hlast

end Source

namespace Script

variable {script script' : Script} {bytes p s : Bytes} {n : Nat}

/-- The first line of some bytes, as far as a line is read. -/
def firstLine (bytes : Bytes) : Option Bytes :=
  let piece := (Source.cutLine (longestLine + 1) bytes).1
  if piece = [] then none else some (withoutNewline piece)

/-- What a read gives is decided by the bytes and the number of the lines before them. -/
theorem next_of_delivers (h : script.source.Delivers bytes) :
    script.next.1 = reading (script.lines + 1) (firstLine bytes) ∧
      script.next.2.source.Delivers (Source.cutLine (longestLine + 1) bytes).2 := by
  obtain ⟨source, hread, hrest⟩ := h.readLine (longestLine + 1)
  by_cases hend : (Source.cutLine (longestLine + 1) bytes).1 = []
  · rw [hend] at hread
    unfold next
    rw [hread, firstLine, if_pos hend]
    exact ⟨rfl, hrest⟩
  · rw [next_of_read hread hend, firstLine, if_neg hend]
    refine ⟨?_, hrest⟩
    simp only [reading, gt_iff_lt, ← Nat.not_le, ite_not]

theorem lines_next_of_command {command : Command} (h : script.next.1 = .ok (some command)) :
    script.next.2.lines = script.lines + 1 := by
  unfold next at h ⊢
  split
  · simp_all
  · simp_all
  · dsimp only
    split
    · rfl
    · rfl

theorem reading_shift (n number : Nat) (line : Option Bytes) :
    reading (number + n) line =
      ((reading number line).map (Option.map (Command.shift n))).mapError (Fault.shift n) := by
  cases line with
  | none => rfl
  | some line =>
    by_cases hlength : line.length ≤ longestLine
    · simp only [reading, if_pos hlength, ← Command.parse_shift]
      rfl
    · simp only [reading, if_neg hlength]
      rfl

/-- Scripts with the same bytes to come read the same, but for the numbers of the lines. -/
theorem next_shift (h : script.source.Delivers bytes) (h' : script'.source.Delivers bytes)
    (hlines : script'.lines = script.lines + n) :
    script'.next.1 =
        (script.next.1.map (Option.map (Command.shift n))).mapError (Fault.shift n) ∧
      ∃ left, script.next.2.source.Delivers left ∧ script'.next.2.source.Delivers left := by
  obtain ⟨hread, hleft⟩ := next_of_delivers h
  obtain ⟨hread', hleft'⟩ := next_of_delivers h'
  refine ⟨?_, _, hleft, hleft'⟩
  rw [hread', hread, hlines, Nat.add_right_comm, reading_shift]

theorem next_eq_none_iff (h : script.source.Delivers bytes) :
    script.next.1 = .ok none ↔ bytes = [] := by
  constructor
  · intro hread
    rw [(next_of_delivers h).1] at hread
    cases bytes with
    | nil => rfl
    | cons byte rest =>
      have hpiece : (Source.cutLine (longestLine + 1) (byte :: rest)).1 ≠ [] := by
        simp only [Source.cutLine]
        split
        · simp
        · simp
      simp only [firstLine, if_neg hpiece, reading] at hread
      split at hread
      · simp at hread
      · simp at hread
  · rintro rfl
    exact next_of_delivers_nil h

/-- While there are lines left, it does not matter what is to come behind them. -/
theorem next_append (h : script.source.Delivers p) (h' : script'.source.Delivers (p ++ s))
    (hlines : script'.lines = script.lines) (hp : p.EndsLine) (hne : p ≠ []) :
    script'.next.1 = script.next.1 ∧
      ∃ left : Bytes, left.EndsLine ∧ script.next.2.source.Delivers left ∧
        script'.next.2.source.Delivers (left ++ s) := by
  obtain ⟨hread, hleft⟩ := next_of_delivers h
  obtain ⟨hread', hleft'⟩ := next_of_delivers h'
  have hcut := Source.cutLine_append_of_endsLine hp hne (longestLine + 1) s
  rw [hcut] at hleft'
  refine ⟨?_, _, Source.endsLine_cutLine hp (longestLine + 1), hleft, hleft'⟩
  rw [hread', hread, hlines, firstLine, firstLine, hcut]

end Script

namespace Program

variable {I : Interface} {α σ : Type}

/-- With these answers, a program makes these exchanges and returns this value. -/
structure Completes (answer : σ → (q : I.Request) → I.Answer q × σ) (p : Program I α) (s : σ)
    (es : List (Exchange I)) (value : α) (s' : σ) : Prop where
  exchanges_eq : p.exchanges (.always answer) s = es
  run_eq : p.run (.always answer) s = (.returned value, s')

variable {answer : σ → (q : I.Request) → I.Answer q × σ} {s s₁ s' : σ} {es : List (Exchange I)}

theorem completes_done (value : α) : (done value : Program I α).Completes answer s [] value s :=
  ⟨rfl, rfl⟩

theorem Completes.ask {q : I.Request} {a : I.Answer q} {next : I.Answer q → Program I α} {value : α}
    (hanswer : answer s q = (a, s₁)) (hnext : (next a).Completes answer s₁ es value s') :
    (ask q next).Completes answer s (⟨q, a⟩ :: es) value s' := by
  constructor
  · simp only [exchanges, Machine.always, hanswer, List.cons.injEq, true_and]
    exact hnext.exchanges_eq
  · simp only [run, Machine.always, hanswer]
    exact hnext.run_eq

end Program

namespace ControlLoop

open Program

variable {σ ρ : Type}

/-- In the state `s'` a launcher answers to commands `n` lines further down as it does in the state
`s` to the commands themselves, with its faults renamed. With `id` for `renamed` the number of a line
makes no difference at all; with `Fault.shift n` a fault names the line on which it arose. -/
def Launcher.LineBlind (launcher : Launcher σ) (n : Nat) (renamed : Fault → Fault) (s s' : σ) : Prop :=
  ∀ calls command script,
    (launcher (launcher.after s' (calls.map fun call => (call.1.shift n, call.2)))
        (command.shift n) script).1 =
      (launcher (launcher.after s calls) command script).1.mapError renamed

/-- The same round `n` lines further down. -/
def Round.shift (n : Nat) (round : Round) : Round := ⟨round.command.shift n, round.status⟩

/-- Only a fault of the launcher has to do with a line. -/
def Break.rename (renamed : Fault → Fault) : Break → Break
  | notLaunched fault => notLaunched (renamed fault)
  | failed status => failed status
  | notReaped status fault => notReaped status fault

/-- The same tail `n` lines further down, where the launcher's faults are renamed. -/
def Tail.shift (n : Nat) (renamed : Fault → Fault) : Tail → Tail
  | finished => finished
  | unread fault => unread (fault.shift n)
  | broken command at_ => broken (command.shift n) (at_.rename renamed)

/-- The same result `n` lines further down. -/
def shiftResult (n : Nat) : Except Fault Nat → Except Fault Nat
  | .ok steps => .ok (n + steps)
  | .error fault => .error (fault.shift n)

/-- The events of some rounds and a tail, where `steps` commands were executed before. -/
def course (script : Option Int) (steps : Nat) (rounds : List Round) (tail : Tail) : List Event :=
  rounds.flatMap (Round.events script) ++ tail.events script (steps + rounds.length)

theorem course_append (script : Option Int) (steps : Nat) (rounds rounds' : List Round) (tail : Tail) :
    course script steps (rounds ++ rounds') tail =
      rounds.flatMap (Round.events script) ++ course script (steps + rounds.length) rounds' tail := by
  simp only [course, List.flatMap_append, List.length_append, List.append_assoc, Nat.add_assoc]

theorem Tail.eq_finished_of_result {tail : Tail} {steps n : Nat} (h : tail.result steps = .ok n) :
    tail = .finished ∧ n = steps := by
  cases tail with
  | finished => exact ⟨rfl, (Except.ok.inj h).symm⟩
  | unread fault => cases h
  | broken command at_ => cases h

/-- A crew runs a script with these events and this result. What is left of the script does not matter. -/
def Ran (launcher : Launcher σ) (reaper : Reaper ρ) (script : Script) (state : σ × ρ)
    (events : List Event) (result : Except Fault Nat) (state' : σ × ρ) : Prop :=
  ∃ rest, (run script).Completes (crew launcher reaper) state events (result, rest) state'

theorem Ran.unique {launcher : Launcher σ} {reaper : Reaper ρ} {script : Script}
    {state state₁ state₂ : σ × ρ} {events events' : List Event} {result result' : Except Fault Nat}
    (h : Ran launcher reaper script state events result state₁)
    (h' : Ran launcher reaper script state events' result' state₂) :
    events = events' ∧ result = result' ∧ state₁ = state₂ := by
  obtain ⟨rest, hevents, hrun⟩ := h
  obtain ⟨rest', hevents', hrun'⟩ := h'
  obtain ⟨hending, hstate⟩ := Prod.mk.inj (hrun.symm.trans hrun')
  exact ⟨hevents.symm.trans hevents', congrArg Prod.fst (Ending.returned.inj hending), hstate⟩

section

variable (launcher : Launcher σ) (reaper : Reaper ρ)

/-- Where a crew breaks off a command. -/
inductive Breaks (command : Command) (script : Option Int) : σ × ρ → Break → σ × ρ → Prop
  | notLaunched {s r fault} (hlaunch : (launcher s command script).1 = .error fault) :
      Breaks command script (s, r) (.notLaunched fault) ((launcher s command script).2, r)
  | failed {s r status} (hlaunch : (launcher s command script).1 = .ok status)
      (hfailed : ¬ command.Passes status) :
      Breaks command script (s, r) (.failed status) ((launcher s command script).2, r)
  | notReaped {s r status fault} (hlaunch : (launcher s command script).1 = .ok status)
      (hpass : command.Passes status) (hreap : (reaper r).1 = .error fault) :
      Breaks command script (s, r) (.notReaped status fault)
        ((launcher s command script).2, (reaper r).2)

/-- What a crew makes of a script: rounds, and the tail behind them. -/
inductive Performs : Script → σ × ρ → List Round → Tail → σ × ρ → Prop
  | finished {script state} (hread : script.next.1 = .ok none) :
      Performs script state [] .finished state
  | unread {script state fault} (hread : script.next.1 = .error fault) :
      Performs script state [] (.unread fault) state
  | broken {script state command at_ state'} (hread : script.next.1 = .ok (some command))
      (hbreak : Breaks launcher reaper command script.descriptor state at_ state') :
      Performs script state [] (.broken command at_) state'
  | round {script s r command status rounds tail state'}
      (hread : script.next.1 = .ok (some command))
      (hlaunch : (launcher s command script.descriptor).1 = .ok status)
      (hpass : command.Passes status) (hreap : (reaper r).1 = .ok ())
      (hrest : Performs script.next.2 ((launcher s command script.descriptor).2, (reaper r).2)
        rounds tail state') :
      Performs script (s, r) (⟨command, status⟩ :: rounds) tail state'

end

variable {launcher : Launcher σ} {reaper : Reaper ρ} {state state' : σ × ρ} {command : Command}
  {script script' : Script} {rounds : List Round} {tail : Tail} {n : Nat} {renamed : Fault → Fault}

theorem exists_performs (launcher : Launcher σ) (reaper : Reaper ρ) (script : Script) (state : σ × ρ) :
    ∃ rounds tail state', Performs launcher reaper script state rounds tail state' := by
  induction script using Script.next_induction generalizing state with
  | failed script fault hread => exact ⟨[], .unread fault, state, .unread hread⟩
  | ended script hread => exact ⟨[], .finished, state, .finished hread⟩
  | command script command hread ih =>
    obtain ⟨s, r⟩ := state
    cases hlaunch : (launcher s command script.descriptor).1 with
    | error fault => exact ⟨[], _, _, .broken hread (.notLaunched hlaunch)⟩
    | ok status =>
      by_cases hpass : command.Passes status
      · cases hreap : (reaper r).1 with
        | error fault => exact ⟨[], _, _, .broken hread (.notReaped hlaunch hpass hreap)⟩
        | ok _ =>
          obtain ⟨rounds, tail, state', hrest⟩ := ih (_, _)
          exact ⟨_, tail, state', .round hread hlaunch hpass hreap hrest⟩
      · exact ⟨[], _, _, .broken hread (.failed hlaunch hpass)⟩

section

variable {es : List Event} {value : Outcome}
  {next : Except Fault Unit → Program Collaborators Outcome}

theorem noteIfAny_completes {record : Option Record} {next : Unit → Program Collaborators Outcome}
    (hnext : (next ()).Completes (crew launcher reaper) state es value state') :
    (noteIfAny record >>= next).Completes (crew launcher reaper) state
      (record.toList.map noted ++ es) value state' := by
  cases record with
  | none => exact hnext
  | some record => exact hnext.ask rfl

/-- A command that was launched, and after which the run goes on, is cleaned up after. -/
theorem execution_completes {script : Option Int} {s : σ} {r : ρ} {status : ExitStatus}
    (hlaunch : (launcher s command script).1 = .ok status) (hpass : command.Passes status)
    (hnext : (next (reaper r).1).Completes (crew launcher reaper)
      ((launcher s command script).2, (reaper r).2) es value state') :
    (step command script >>= next).Completes (crew launcher reaper) (s, r)
      ((Round.mk command status).execution script ++ reaped (reaper r).1 :: es) value state' := by
  rw [step_bind, Round.execution, List.append_assoc]
  refine .ask rfl (.ask (Prod.ext hlaunch rfl) ?_)
  simp only [conclude, Command.judge_of_passes hpass, Program.bind_bind]
  exact noteIfAny_completes (.ask rfl hnext)

theorem Breaks.completes {script : Option Int} {at_ : Break} {state₁ : σ × ρ}
    (h : Breaks launcher reaper command script state at_ state₁)
    (hnext : (next (.error (at_.fault command))).Completes (crew launcher reaper) state₁ es value
      state') :
    (step command script >>= next).Completes (crew launcher reaper) state
      (at_.events script command ++ es) value state' := by
  cases h with
  | notLaunched hlaunch =>
    rw [step_bind]
    exact .ask rfl (.ask (Prod.ext hlaunch rfl) hnext)
  | @failed s r status hlaunch hfailed =>
    obtain ⟨hmaster, hstatus⟩ := (command.passes_or_failed status).resolve_left hfailed
    rw [step_bind]
    refine .ask rfl (.ask (Prod.ext hlaunch rfl) ?_)
    simp only [conclude, Command.judge_of_failed hmaster hstatus]
    exact hnext
  | notReaped hlaunch hpass hreap =>
    have hcleanup := execution_completes hlaunch hpass (hreap ▸ hnext)
    rw [hreap] at hcleanup
    simpa only [Break.events, List.append_assoc, List.singleton_append] using hcleanup

end

/-- What a crew makes of a script is what the loop does with it. -/
theorem Performs.completes (h : Performs launcher reaper script state rounds tail state') (steps : Nat) :
    ∃ rest, (runFrom steps script).Completes (crew launcher reaper) state
      (course script.descriptor steps rounds tail)
      (tail.result (steps + rounds.length), rest) state' := by
  induction h generalizing steps with
  | finished hread =>
    rw [runFrom_of_end hread]
    exact ⟨_, .ask rfl (completes_done _)⟩
  | unread hread =>
    rw [runFrom_of_error hread]
    exact ⟨_, completes_done _⟩
  | @broken script state command at_ state' hread hbreak =>
    rw [runFrom_of_command hread]
    have hevents : course script.descriptor steps [] (.broken command at_) =
        at_.events script.descriptor command ++ [] := (List.append_nil _).symm
    rw [hevents]
    exact ⟨script.next.2, hbreak.completes (completes_done _)⟩
  | @round script s r command status rounds tail state' hread hlaunch hpass hreap _ ih =>
    obtain ⟨rest, hrest⟩ := ih (steps + 1)
    rw [Script.next_descriptor] at hrest
    have hsteps : steps + (rounds.length + 1) = steps + 1 + rounds.length := by omega
    have hevents : course script.descriptor steps (⟨command, status⟩ :: rounds) tail =
        (Round.mk command status).execution script.descriptor ++
          reaped (reaper r).1 :: course script.descriptor (steps + 1) rounds tail := by
      simp only [course, List.length_cons, hsteps, List.flatMap_cons, Round.events, hreap,
        List.append_assoc, List.cons_append, List.nil_append]
    rw [runFrom_of_command hread, hevents, List.length_cons, hsteps]
    refine ⟨rest, execution_completes hlaunch hpass ?_⟩
    rw [hreap]
    exact hrest

theorem Performs.ran (h : Performs launcher reaper script state rounds tail state') :
    Ran launcher reaper script state (course script.descriptor 0 rounds tail)
      (tail.result rounds.length) state' := by
  obtain ⟨rest, hrest⟩ := h.completes 0
  rw [Nat.zero_add] at hrest
  exact ⟨rest, hrest⟩

theorem Launcher.LineBlind.launch {s s' : σ} (h : launcher.LineBlind n renamed s s')
    (command : Command) (script : Option Int) :
    (launcher s' (command.shift n) script).1 = (launcher s command script).1.mapError renamed ∧
      launcher.LineBlind n renamed (launcher s command script).2
        (launcher s' (command.shift n) script).2 :=
  ⟨h [] command script, fun calls => h ((command, script) :: calls)⟩

/-- A command breaks off `n` lines further down as it does where it stands. -/
theorem Breaks.shift {script : Option Int} {at_ : Break}
    (h : Breaks launcher reaper command script state at_ state') {s' : σ}
    (hblind : launcher.LineBlind n renamed state.1 s') :
    ∃ s₁, Breaks launcher reaper (command.shift n) script (s', state.2) (at_.rename renamed)
      (s₁, state'.2) := by
  obtain ⟨hanswer, -⟩ := hblind.launch command script
  cases h with
  | notLaunched hlaunch =>
    rw [hlaunch] at hanswer
    exact ⟨_, .notLaunched hanswer⟩
  | failed hlaunch hfailed =>
    rw [hlaunch] at hanswer
    exact ⟨_, .failed hanswer hfailed⟩
  | notReaped hlaunch hpass hreap =>
    rw [hlaunch] at hanswer
    exact ⟨_, .notReaped hanswer hpass hreap⟩

/-- A script is run `n` lines further down as it is run by itself. -/
theorem Performs.shift {bytes : Bytes} (h : Performs launcher reaper script state rounds tail state')
    (hbytes : script.source.Delivers bytes) (hbytes' : script'.source.Delivers bytes)
    (hlines : script'.lines = script.lines + n) (hdescriptor : script'.descriptor = script.descriptor)
    {s' : σ} (hblind : launcher.LineBlind n renamed state.1 s') :
    ∃ s₁, Performs launcher reaper script' (s', state.2) (rounds.map (Round.shift n))
      (tail.shift n renamed) (s₁, state'.2) := by
  induction h generalizing script' bytes s' with
  | finished hread =>
    obtain ⟨hread', -⟩ := Script.next_shift hbytes hbytes' hlines
    rw [hread] at hread'
    exact ⟨s', .finished hread'⟩
  | unread hread =>
    obtain ⟨hread', -⟩ := Script.next_shift hbytes hbytes' hlines
    rw [hread] at hread'
    exact ⟨s', .unread hread'⟩
  | broken hread hbreak =>
    obtain ⟨hread', -⟩ := Script.next_shift hbytes hbytes' hlines
    rw [hread] at hread'
    rw [← hdescriptor] at hbreak
    obtain ⟨s₁, hbreak'⟩ := hbreak.shift hblind
    exact ⟨s₁, .broken hread' hbreak'⟩
  | @round script s r command status rounds tail state' hread hlaunch hpass hreap _ ih =>
    obtain ⟨hread', left, hleft, hleft'⟩ := Script.next_shift hbytes hbytes' hlines
    rw [hread] at hread'
    have hlines' : script'.next.2.lines = script.next.2.lines + n := by
      rw [Script.lines_next_of_command hread', Script.lines_next_of_command hread, hlines,
        Nat.add_right_comm]
    obtain ⟨hlaunch', hblind'⟩ := hblind.launch command script.descriptor
    rw [hlaunch] at hlaunch'
    obtain ⟨s₁, hrest⟩ := ih hleft hleft' hlines' (by simp [hdescriptor]) hblind'
    rw [← hdescriptor] at hlaunch' hrest
    exact ⟨s₁, .round hread' hlaunch' hpass hreap hrest⟩

/-- Where a run breaks off, it does not matter what is behind the lines of the script; and where it
does not, it goes on behind them. -/
theorem Performs.append {p s : Bytes} (h : Performs launcher reaper script state rounds tail state')
    (hbytes : script.source.Delivers p) (hbytes' : script'.source.Delivers (p ++ s))
    (hlines : script'.lines = script.lines) (hdescriptor : script'.descriptor = script.descriptor)
    (hp : p.EndsLine) :
    (tail ≠ .finished → Performs launcher reaper script' state rounds tail state') ∧
    (tail = .finished → ∃ last : Script, last.source.Delivers s ∧
      last.lines = script.lines + rounds.length ∧ last.descriptor = script.descriptor ∧
      ∀ {rounds' tail' state''}, Performs launcher reaper last state' rounds' tail' state'' →
        Performs launcher reaper script' state (rounds ++ rounds') tail' state'') := by
  induction h generalizing script' p with
  | finished hread =>
    obtain rfl := (Script.next_eq_none_iff hbytes).mp hread
    exact ⟨fun hstuck => absurd rfl hstuck,
      fun _ => ⟨script', hbytes', hlines, hdescriptor, fun hrest => hrest⟩⟩
  | unread hread =>
    have hne : p ≠ [] := fun hnil => by simp [(Script.next_eq_none_iff hbytes).mpr hnil] at hread
    obtain ⟨hread', -⟩ := Script.next_append hbytes hbytes' hlines hp hne
    exact ⟨fun _ => .unread (hread'.trans hread), nofun⟩
  | broken hread hbreak =>
    have hne : p ≠ [] := fun hnil => by simp [(Script.next_eq_none_iff hbytes).mpr hnil] at hread
    obtain ⟨hread', -⟩ := Script.next_append hbytes hbytes' hlines hp hne
    rw [← hdescriptor] at hbreak
    exact ⟨fun _ => .broken (hread'.trans hread) hbreak, nofun⟩
  | @round script s₁ r₁ command status rounds tail state' hread hlaunch hpass hreap _ ih =>
    have hne : p ≠ [] := fun hnil => by simp [(Script.next_eq_none_iff hbytes).mpr hnil] at hread
    obtain ⟨hread', left, hleft, hrest, hrest'⟩ := Script.next_append hbytes hbytes' hlines hp hne
    replace hread' := hread'.trans hread
    have hlines' : script'.next.2.lines = script.next.2.lines := by
      rw [Script.lines_next_of_command hread', Script.lines_next_of_command hread, hlines]
    obtain ⟨hstuck, hdone⟩ := ih hrest hrest' hlines' (by simp [hdescriptor]) hleft
    rw [← hdescriptor] at hlaunch hstuck hdone
    refine ⟨fun hne => .round hread' hlaunch hpass hreap (hstuck hne), fun hend => ?_⟩
    obtain ⟨last, hlast, hcount, hlastDescriptor, hgoes⟩ := hdone hend
    refine ⟨last, hlast, ?_, by simpa using hlastDescriptor,
      fun hmore => .round hread' hlaunch hpass hreap (hgoes hmore)⟩
    rw [hcount, Script.lines_next_of_command hread, List.length_cons]
    omega

/-- The result is shifted with the lines, if the crew itself names no others. -/
theorem Performs.result_shift (h : Performs launcher reaper script state rounds tail state')
    (hreaper : ∀ r fault, (reaper r).1 = .error fault → fault.shift n = fault) (steps : Nat) :
    (tail.shift n (Fault.shift n)).result (n + steps) = shiftResult n (tail.result steps) := by
  induction h with
  | finished hread => rfl
  | unread hread => rfl
  | broken hread hbreak =>
    cases hbreak with
    | notLaunched hlaunch => rfl
    | failed hlaunch hfailed => rfl
    | notReaped hlaunch hpass hreap => exact congrArg Except.error (hreaper _ _ hreap).symm
  | round _ _ _ _ _ ih => exact ih

/-- A script that is nothing, or whole lines, and then another script. If the run of the first one
alone ends with a fault, the run of both has the same events and the same fault. If it executes `n`
commands, then the run of both goes on, without the report that the script is finished, as the run
of the second one alone by the launcher and the reaper as they were left, but that all lines are `n`
lines further down and `n` steps have been made before. A launcher may not look at the numbers of
the lines for this, but for naming them in its faults. -/
theorem run_append (launcher : Launcher σ) (reaper : Reaper ρ) (state : σ × ρ)
    (descriptor : Option Int) {p s : Bytes} (hp : p.EndsLine) {first second whole : Source}
    (hfirst : first.Delivers p) (hsecond : second.Delivers s) (hwhole : whole.Delivers (p ++ s)) :
    ∃ events result between,
      Ran launcher reaper ⟨first, descriptor, 0⟩ state events result between ∧
      (∀ fault, result = .error fault →
        Ran launcher reaper ⟨whole, descriptor, 0⟩ state events (.error fault) between) ∧
      ∀ n, result = .ok n → ∃ before rounds tail s₁ r₁,
        events = before ++ [concluded n] ∧
        Ran launcher reaper ⟨second, descriptor, 0⟩ between (course descriptor 0 rounds tail)
          (tail.result rounds.length) (s₁, r₁) ∧
        ∀ renamed, launcher.LineBlind n renamed between.1 between.1 →
          (∃ s₂, Ran launcher reaper ⟨whole, descriptor, 0⟩ state
            (before ++ course descriptor n (rounds.map (Round.shift n)) (tail.shift n renamed))
            ((tail.shift n renamed).result (n + rounds.length)) (s₂, r₁)) ∧
          (renamed = Fault.shift n →
            (∀ r fault, (reaper r).1 = .error fault → fault.shift n = fault) →
            (tail.shift n renamed).result (n + rounds.length) =
              shiftResult n (tail.result rounds.length)) := by
  obtain ⟨rounds, tail, between, hperforms⟩ :=
    exists_performs launcher reaper ⟨first, descriptor, 0⟩ state
  obtain ⟨hstuck, hdone⟩ :=
    @Performs.append _ _ _ _ _ _ _ ⟨whole, descriptor, 0⟩ _ _ _ s hperforms hfirst hwhole rfl rfl hp
  refine ⟨_, _, between, hperforms.ran, fun fault hfault => ?_, fun n hn => ?_⟩
  · have hne : tail ≠ .finished := by
      rintro rfl
      cases hfault
    exact hfault ▸ (hstuck hne).ran
  · obtain ⟨rfl, rfl⟩ := Tail.eq_finished_of_result hn
    obtain ⟨last, hlast, hlines, hdescriptor, hgoes⟩ := hdone rfl
    obtain ⟨rounds', tail', ⟨s₁, r₁⟩, hsecondPerforms⟩ :=
      exists_performs launcher reaper ⟨second, descriptor, 0⟩ between
    refine ⟨rounds.flatMap (Round.events descriptor), rounds', tail', s₁, r₁, ?_,
      hsecondPerforms.ran, fun renamed hblind => ⟨?_, ?_⟩⟩
    · simp only [course, Tail.events, Nat.zero_add]
    · obtain ⟨s₂, hlastPerforms⟩ := hsecondPerforms.shift hsecond hlast hlines hdescriptor hblind
      have hran := (hgoes hlastPerforms).ran
      rw [course_append, List.length_append, List.length_map, Nat.zero_add] at hran
      exact ⟨s₂, hran⟩
    · rintro rfl hreaper
      exact hsecondPerforms.result_shift hreaper rounds'.length

/-- Three lines in a row, of which the last one has an open quote: it is the second line of its own
script, and the third one of both. And a line with an open quote that nothing behind it closes. -/
theorem run_append_unbalanced :
    let launcher : Launcher Nat := fun launched command _ =>
      (command.arguments.map fun _ => .code 0, launched + 1)
    let reaper : Reaper Nat := fun reaped => (.ok (), reaped + 1)
    let p : Bytes := [0x61, Bytes.newline]
    let s : Bytes := [Command.workerMarker, 0x62, Bytes.newline, 0x22, 0x63]
    let whole := Source.ofDeliveries
      [.data [0x61], .failure (.errno Errno.interrupted), .data (Bytes.newline :: s)]
    let open_ : Bytes := [0x22, Bytes.newline]
    p.EndsLine ∧ whole.Delivers (p ++ s) ∧
    (∀ launched, launcher.LineBlind 1 (Fault.shift 1) launched launched) ∧
    (∃ events between,
      Ran launcher reaper ⟨.ofBytes open_, none, 0⟩ (0, 0) events
        (.error (.malformedLine 1 .unbalancedQuotes)) between ∧
      Ran launcher reaper ⟨.ofBytes (open_ ++ s), none, 0⟩ (0, 0) events
        (.error (.malformedLine 1 .unbalancedQuotes)) between) ∧
    ∃ events between before rounds tail s₁ s₂ r₁,
      Ran launcher reaper ⟨.ofBytes p, none, 0⟩ (0, 0) events (.ok 1) between ∧
      Ran launcher reaper ⟨.ofBytes s, none, 0⟩ between (course none 0 rounds tail)
        (.error (.malformedLine 2 .unbalancedQuotes)) (s₁, r₁) ∧
      Ran launcher reaper ⟨whole, none, 0⟩ (0, 0)
        (before ++ course none 1 (rounds.map (Round.shift 1)) (tail.shift 1 (Fault.shift 1)))
        (.error (.malformedLine 3 .unbalancedQuotes)) (s₂, r₁) := by
  intro launcher reaper p s whole open_
  have hp : p.EndsLine := .inr rfl
  have hwhole : whole.Delivers (p ++ s) :=
    ⟨by simp [whole, Source.ofDeliveries, Delivery.Steady],
      by simp [whole, Source.ofDeliveries, Delivery.bytes, p], rfl⟩
  have hblind : ∀ launched, launcher.LineBlind 1 (Fault.shift 1) launched launched := by
    intro launched calls command script
    show (command.shift 1).arguments.map _ = (command.arguments.map _).mapError _
    rw [Command.arguments_shift]
    cases command.arguments with
    | ok arguments => rfl
    | error fault => rfl
  have hfirst : Performs launcher reaper ⟨.ofBytes p, none, 0⟩ (0, 0) [⟨⟨1, .master, [0x61]⟩, .code 0⟩]
      .finished (1, 1) := .round rfl rfl (.inr rfl) rfl (.finished rfl)
  have hsecond : Performs launcher reaper ⟨.ofBytes s, none, 0⟩ (1, 1)
      [⟨⟨1, .worker, [0x62]⟩, .code 0⟩]
      (.broken ⟨2, .master, [0x22, 0x63]⟩ (.notLaunched (.malformedLine 2 .unbalancedQuotes))) (3, 2) :=
    .round rfl rfl (.inl rfl) rfl (.broken rfl (.notLaunched rfl))
  have hopen : Performs launcher reaper ⟨.ofBytes open_, none, 0⟩ (0, 0) []
      (.broken ⟨1, .master, [0x22]⟩ (.notLaunched (.malformedLine 1 .unbalancedQuotes))) (1, 0) :=
    .broken rfl (.notLaunched rfl)
  have hopenLine : open_.EndsLine := .inr rfl
  obtain ⟨stuck, _, between', hstuck, hbreaks, -⟩ :=
    run_append launcher reaper (0, 0) none hopenLine (Source.delivers_ofBytes open_)
      (Source.delivers_ofBytes s) (Source.delivers_ofBytes (open_ ++ s))
  obtain ⟨-, rfl, -⟩ := hstuck.unique hopen.ran
  obtain ⟨events, result, between, hran, -, hgoes⟩ :=
    run_append launcher reaper (0, 0) none hp (Source.delivers_ofBytes p) (Source.delivers_ofBytes s)
      hwhole
  obtain ⟨-, rfl, rfl⟩ := hran.unique hfirst.ran
  obtain ⟨before, rounds, tail, s₁, r₁, -, hsecondRan, hboth⟩ := hgoes 1 rfl
  obtain ⟨-, hresult, -⟩ := hsecondRan.unique hsecond.ran
  obtain ⟨⟨s₂, hwholeRan⟩, hshift⟩ := hboth (Fault.shift 1) (hblind 1)
  have hreaper : ∀ r fault, (reaper r).1 = .error fault → fault.shift 1 = fault := by
    intro r fault hfault
    cases hfault
  rw [hshift rfl hreaper, hresult] at hwholeRan
  rw [hresult] at hsecondRan
  exact ⟨hp, hwhole, hblind, ⟨stuck, between', hstuck, hbreaks _ rfl⟩, events, (1, 1), before, rounds,
    tail, s₁, s₂, r₁, hran, hsecondRan, hwholeRan⟩

end ControlLoop
end GuestInit
