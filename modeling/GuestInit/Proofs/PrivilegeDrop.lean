import GuestInit.Proofs.Preparation

/-! What a child does between the fork and its end. It prepares itself, and then it becomes the
program of its line; nothing but a report stands between a failure and its exit. -/

namespace GuestInit

namespace Command

theorem parse_privilege (line : Nat) (text : Bytes) :
    (parse line text).privilege = if text.head? = some 0x21 then .worker else .master := by
  cases text with
  | nil => rfl
  | cons first rest => by_cases h : first = 0x21 <;> simp [parse, workerMarker, h]

theorem parse_raw (line : Nat) (text : Bytes) :
    (parse line text).raw = if text.head? = some 0x21 then text.tail else text := by
  cases text with
  | nil => rfl
  | cons first rest => by_cases h : first = 0x21 <;> simp [parse, workerMarker, h]

end Command

namespace Launch

open Kernel Program

/-- A child that reports a failure and then ends. -/
def Dies (failure : ChildFailure) (es : List Event) (q : Request) : Prop :=
  (es = [] ∧ q = .log (.error (failure.what ++ ": " ++ failure.why))) ∨
    (es = [⟨.log (.error (failure.what ++ ": " ++ failure.why)), ()⟩] ∧ q = .exit 1)

/-- The call with which a child becomes the program, if there is a program. All that the program
finds in its environment is three entries. -/
def execution : Arguments → List Call
  | [] => []
  | program :: rest => [.execve program (program :: rest) [Bytes.ofString "PATH=/usr/bin:/bin",
      Bytes.ofString "LANG=C", Bytes.ofString "HOME=/tmp"]]

/-- The life of a child, as far as it got. It never ends by itself but with an exit. -/
inductive Life (stages : List Stage) (arguments : Arguments) : List Event → Request → Prop
  | preparing {es q} (hadvance : Advance stages es (.pending q)) : Life stages arguments es q
  | refused {es es' failure q} (hadvance : Advance stages es (.returned (.error failure)))
      (hdies : Dies failure es' q) : Life stages arguments (es ++ es') q
  | executing {es c} (hadvance : Advance stages es (.returned (.ok ())))
      (hexecution : execution arguments = [c]) : Life stages arguments es (.call c)
  | notExecuted {es es' program rest reply c q} (hadvance : Advance stages es (.returned (.ok ())))
      (harguments : arguments = program :: rest) (hexecution : execution arguments = [c])
      (hdies : Dies (.of s!"execve {Utf8.lossy program}" (.errno reply.errno)) es' q) :
      Life stages arguments (es ++ answered c reply :: es') q
  | noProgram {es es' q} (hadvance : Advance stages es (.returned (.ok ())))
      (hempty : arguments = []) (hdies : Dies ⟨"execve", "empty command"⟩ es' q) :
      Life stages arguments (es ++ es') q

section

variable {es : List Event} {standing : Standing Surroundings Empty}

theorem die_dies {failure : ChildFailure} (h : failure.die.Trace es standing) :
    ∃ q, standing = .pending q ∧ Dies failure es q := by
  rcases trace_ask_iff.mp h with ⟨rfl, rfl⟩ | ⟨_, es', rfl, hexit⟩
  · exact ⟨_, rfl, .inl ⟨rfl, rfl⟩⟩
  · rcases trace_ask_iff.mp hexit with ⟨rfl, rfl⟩ | ⟨answer, _⟩
    · exact ⟨_, rfl, .inr ⟨rfl, rfl⟩⟩
    · exact answer.elim

theorem child_eq (arguments : Arguments) (identity : Identity) (control : Option Int) :
    child arguments identity control = (takeOn identity control).run >>= fun
      | .error failure => failure.die
      | .ok () => execute arguments >>= ChildFailure.die := rfl

theorem execute_life {stages : List Stage} {arguments : Arguments} {es' : List Event}
    (hadvance : Advance stages es (.returned (.ok ())))
    (h : (execute arguments >>= ChildFailure.die).Trace es' standing) :
    ∃ q, standing = .pending q ∧ Life stages arguments (es ++ es') q := by
  cases arguments with
  | nil =>
    obtain ⟨q, rfl, hdies⟩ := die_dies h
    exact ⟨q, rfl, .noProgram hadvance rfl hdies⟩
  | cons program rest =>
    rcases trace_ask_iff.mp h with ⟨rfl, rfl⟩ | ⟨reply, es', rfl, hdie⟩
    · rw [List.append_nil]
      exact ⟨_, rfl, .executing hadvance rfl⟩
    · obtain ⟨q, rfl, hdies⟩ := die_dies hdie
      exact ⟨q, rfl, .notExecuted hadvance rfl rfl hdies⟩

/-- A child only ever stands at a request, and leads the life laid down for it. -/
theorem child_life {arguments : Arguments} {identity : Identity} {control : Option Int}
    (h : (child arguments identity control).Trace es standing) :
    ∃ euid fd q, standing = .pending q ∧ Life (plan identity control euid fd) arguments es q := by
  rw [child_eq] at h
  rcases trace_bind_iff.mp h with ⟨result, es₁, es₂, rfl, hprepared, hrest⟩ | ⟨q, rfl, hprepared⟩ |
    ⟨rfl, hprepared⟩
  · obtain ⟨euid, fd, hadvance⟩ := takeOn_advance hprepared
    cases result with
    | error failure =>
      obtain ⟨q, rfl, hdies⟩ := die_dies hrest
      exact ⟨euid, fd, q, rfl, .refused hadvance hdies⟩
    | ok _ =>
      obtain ⟨q, rfl, hlife⟩ := execute_life hadvance hrest
      exact ⟨euid, fd, q, rfl, hlife⟩
  · obtain ⟨euid, fd, hadvance⟩ := takeOn_advance hprepared
    exact ⟨euid, fd, q, rfl, .preparing hadvance⟩
  · obtain ⟨euid, fd, hadvance⟩ := takeOn_advance hprepared
    exact absurd rfl hadvance.ne_unfinished

end

theorem split_of_arguments {command : Command} {arguments : Arguments}
    (h : Launch.arguments command = .ok arguments) :
    Arguments.split command.raw = .ok arguments := by
  unfold Launch.arguments Command.arguments at h
  cases hsplit : Arguments.split command.raw with
  | error cause =>
    rw [hsplit] at h
    cases h
  | ok split =>
    rw [hsplit] at h
    change (split.terminated.mapError _ >>= fun _ => pure split) = Except.ok arguments at h
    cases hterminated : split.terminated with
    | error cause =>
      rw [hterminated] at h
      cases h
    | ok _ =>
      rw [hterminated] at h
      exact congrArg Except.ok (Except.ok.inj h)

/-- A child got through its preparation, and no failure that matters was among the answers. -/
def Prepared (stages : List Stage) (es : List Event) : Prop :=
  ∃ es₁ es₂, es = es₁ ++ es₂ ∧ Advance stages es₁ (.returned (.ok ()))

/-- The system calls of a child that stands at a request. -/
def made (es : List Event) (q : Request) : List Call := calls (es.map Exchange.request ++ [q])

/-- What the life of a child comes to: nothing is skipped, nothing is done in another order, no
failure is survived, and the program is not reached but after all of it. -/
structure Contained (stages : List Stage) (arguments : Arguments) (es : List Event) (q : Request) :
    Prop where
  life : Life stages arguments es q
  made_within : made es q <+: stages.map Stage.call ++ execution arguments
  dies : ∀ before after stage reply refusal, es = before ++ answered stage.call reply :: after →
    stages[before.length]? = some stage → stage.refusal = some refusal → reply.value < 0 →
      Dies (.of refusal (.errno reply.errno)) after q
  executes_iff : (∃ path argv envp, .execve path argv envp ∈ made es q) ↔
    Prepared stages es ∧ arguments ≠ []

section

variable {stages : List Stage} {arguments : Arguments} {es es' : List Event} {q : Request}
  {failure : ChildFailure}

theorem Dies.made_eq (h : Dies failure es q) : made es q = [] := by
  rcases h with ⟨rfl, rfl⟩ | ⟨rfl, rfl⟩
  · rfl
  · rfl

theorem made_append (es es' : List Event) (q : Request) :
    made (es ++ es') q = calls (es.map Exchange.request) ++ made es' q := by
  simp [made]

/-- The calls of a child are those of its stages and then the execution, as far as it got. -/
theorem Life.made_cases (h : Life stages arguments es q) :
    (made es q <+: stages.map Stage.call ∧ (¬ Prepared stages es ∨ arguments = [])) ∨
      (made es q = stages.map Stage.call ++ execution arguments ∧ Prepared stages es ∧
        arguments ≠ []) := by
  cases h with
  | preparing hadvance =>
    refine .inl ⟨hadvance.calls_within, .inl ?_⟩
    rintro ⟨es₁, es₂, heq, hfinished⟩
    have hall : es ++ [] = es₁ ++ es₂ := by rwa [List.append_nil]
    have hreturned := hadvance.finished_of_append hfinished hall fun _ _ => rfl
    cases hreturned
  | @refused es₁ es₂ failure _ hadvance hdies =>
    have hwithin := hadvance.calls_within
    refine .inl ⟨by simpa [made_append, hdies.made_eq, requests] using hwithin, .inl ?_⟩
    rintro ⟨es₃, es₄, heq, hfinished⟩
    have hreturned := hadvance.finished_of_append hfinished heq fun _ hpending => by cases hpending
    cases hreturned
  | @executing _ c hadvance hexecution =>
    refine .inr ⟨?_, ⟨es, [], by simp, hadvance⟩, ?_⟩
    · rw [made, calls_append, hadvance.calls_eq, hexecution]
      rfl
    · rintro rfl
      cases hexecution
  | @notExecuted es₁ es₂ program rest reply c _ hadvance harguments hexecution hdies =>
    refine .inr ⟨?_, ⟨es₁, _, rfl, hadvance⟩, by simp [harguments]⟩
    have hrest : made (answered c reply :: es₂) q = c :: made es₂ q := rfl
    rw [made_append, hadvance.calls_eq, hexecution, hrest, hdies.made_eq]
  | @noProgram es₁ es₂ _ hadvance hempty hdies =>
    have hmade : made (es₁ ++ es₂) q = stages.map Stage.call := by
      rw [made_append, hadvance.calls_eq, hdies.made_eq, List.append_nil]
    exact .inl ⟨hmade ▸ List.prefix_rfl, .inr hempty⟩

/-- Only the stages and the execution are calls: where a child dies, it makes none. -/
theorem Dies.answered_notMem {c : Call} {reply : Reply} (h : Dies failure es q) :
    answered c reply ∉ es := by
  rcases h with ⟨rfl, rfl⟩ | ⟨rfl, rfl⟩
  · simp
  · simp [answered]

/-- An event in a sequence of two runs is one of the first run, or comes after that. -/
theorem append_eq_cases {before after rest : List Event} {e : Event}
    (heq : es ++ rest = before ++ e :: after) :
    (∃ between, es = before ++ e :: between ∧ after = between ++ rest) ∨
      (es.length ≤ before.length ∧ e ∈ rest) := by
  rcases List.append_eq_append_iff.mp heq with ⟨between, rfl, hrest⟩ | ⟨between, rfl, hrest⟩
  · exact .inr ⟨by simp, by simp [hrest]⟩
  · cases between with
    | nil =>
      obtain rfl : rest = e :: after := by simpa using hrest.symm
      exact .inr ⟨by simp, by simp⟩
    | cons e' between =>
      obtain ⟨rfl, rfl⟩ := List.cons.inj hrest
      exact .inl ⟨between, rfl, rfl⟩

/-- The first failure that matters leaves a child nothing to do but to report it and to end. -/
theorem Life.dies {before after : List Event} {stage : Stage} {reply : Reply} {refusal : String}
    (h : Life stages arguments es q) (hes : es = before ++ answered stage.call reply :: after)
    (hstage : stages[before.length]? = some stage) (hrefusal : stage.refusal = some refusal)
    (hfailed : reply.value < 0) : Dies (.of refusal (.errno reply.errno)) after q := by
  have hbefore : before.length < stages.length := (List.getElem?_eq_some_iff.mp hstage).1
  have hfinished {es₁ es₂ : List Event} (hadvance : Advance stages es₁ (.returned (.ok ())))
      (heq : es₁ ++ es₂ = before ++ answered stage.call reply :: after) : False := by
    rcases append_eq_cases heq with ⟨between, rfl, -⟩ | ⟨hlength, -⟩
    · have hreturned := (hadvance.eq_nil_of_failed hstage hrefusal hfailed).2
      cases hreturned
    · rw [hadvance.length_of_finished] at hlength
      omega
  cases h with
  | preparing hadvance =>
    rw [hes] at hadvance
    have hreturned := (hadvance.eq_nil_of_failed hstage hrefusal hfailed).2
    cases hreturned
  | @refused es₁ es₂ failure _ hadvance hdies =>
    rcases append_eq_cases hes with ⟨between, rfl, rfl⟩ | ⟨-, hmem⟩
    · obtain ⟨rfl, hreturned⟩ := hadvance.eq_nil_of_failed hstage hrefusal hfailed
      cases hreturned
      exact hdies
    · exact absurd hmem hdies.answered_notMem
  | executing hadvance _ => exact (hfinished hadvance ((List.append_nil es).trans hes)).elim
  | notExecuted hadvance _ _ _ => exact (hfinished hadvance hes).elim
  | noProgram hadvance _ _ => exact (hfinished hadvance hes).elim

theorem Life.contained (h : Life stages arguments es q)
    (hstages : ∀ path argv envp, .execve path argv envp ∉ stages.map Stage.call) :
    Contained stages arguments es q where
  life := h
  made_within := by
    rcases h.made_cases with ⟨hwithin, -⟩ | ⟨heq, -⟩
    · exact hwithin.trans (List.prefix_append _ _)
    · exact heq ▸ List.prefix_rfl
  dies before after stage reply refusal := h.dies
  executes_iff := by
    constructor
    · rintro ⟨path, argv, envp, hmem⟩
      rcases h.made_cases with ⟨hwithin, -⟩ | ⟨-, hprepared⟩
      · exact absurd (hwithin.subset hmem) (hstages path argv envp)
      · exact hprepared
    · rintro ⟨hprepared, harguments⟩
      rcases h.made_cases with ⟨-, hnot⟩ | ⟨heq, -⟩
      · rcases hnot with hunprepared | hempty
        · exact absurd hprepared hunprepared
        · exact absurd hempty harguments
      · obtain ⟨program, rest, rfl⟩ := List.exists_cons_of_ne_nil harguments
        refine ⟨program, program :: rest, [Bytes.ofString "PATH=/usr/bin:/bin",
          Bytes.ofString "LANG=C", Bytes.ofString "HOME=/tmp"], ?_⟩
        simp [heq, execution]

end

/-- The launch of a command goes on in the child with the life of the child. -/
theorem launch_life {rounds : Nat} {identities : Identities} {command : Command}
    {control : Option Int} {reply : Reply} {es : List Event}
    {standing : Standing Surroundings (Except Fault ExitStatus)} (hchild : reply.value = 0)
    (h : (launch rounds identities command control).Trace (answered .fork reply :: es) standing) :
    ∃ arguments euid fd q, Arguments.split command.raw = .ok arguments ∧ standing = .pending q ∧
      Life (plan (identities.get command.privilege) control euid fd) arguments es q := by
  unfold launch at h
  cases harguments : Launch.arguments command with
  | error fault =>
    rw [harguments] at h
    cases h
  | ok arguments =>
    simp only [harguments, Action.attempt_bind] at h
    rcases trace_ask_iff.mp h with ⟨hes, -⟩ | ⟨reply', es', hes, hpid⟩
    · cases hes
    · obtain rfl : reply = reply' := answered_inj (List.cons.inj hes).1
      obtain rfl : es = es' := (List.cons.inj hes).2
      simp only [Reply.result_of_nonneg (Int.le_of_eq hchild.symm), hchild, if_true] at hpid
      have hsplit := split_of_arguments harguments
      rcases trace_bind_iff.mp hpid with ⟨never, _⟩ | ⟨q, rfl, hlife⟩ | ⟨rfl, hlife⟩
      · exact never.elim
      · obtain ⟨euid, fd, q', hq, hlife⟩ := child_life hlife
        cases hq
        exact ⟨arguments, euid, fd, q, hsplit, rfl, hlife⟩
      · obtain ⟨euid, fd, q', hq, hlife⟩ := child_life hlife
        cases hq

/-- Whatever the kernel answers, a child that was forked for a line of the control script gives up
its privileges before it becomes the program that the line names, and no failure on the way is
survived. It is the worker if and only if the line has the marker. -/
theorem launch_drops_privileges (rounds line : Nat) (text : Bytes) (identities : Identities)
    (control : Option Int) (reply : Reply) (es : List Event)
    (standing : Standing Surroundings (Except Fault ExitStatus)) (hchild : reply.value = 0)
    (htrace : (launch rounds identities (Command.parse line text) control).Trace
      (answered .fork reply :: es) standing) :
    ∃ arguments identity euid fd q,
      Arguments.split (if text.head? = some 0x21 then text.tail else text) = .ok arguments ∧
      identity = (if text.head? = some 0x21 then identities.worker else identities.master) ∧
      standing = .pending q ∧ Contained (plan identity control euid fd) arguments es q := by
  obtain ⟨arguments, euid, fd, q, hsplit, rfl, hlife⟩ := launch_life hchild htrace
  have hidentity : identities.get (Command.parse line text).privilege =
      if text.head? = some 0x21 then identities.worker else identities.master := by
    rw [Command.parse_privilege]
    split
    · rfl
    · rfl
  rw [Command.parse_raw] at hsplit
  exact ⟨arguments, _, euid, fd, q, hsplit, hidentity, rfl,
    hlife.contained (execve_notMem_plan _ control euid fd)⟩

/-- A child of the superuser gets through to the program of a worker's line. The null device is
opened under the number of the control script, which was given up. -/
theorem launch_drops_privileges_worker :
    let identities : Identities := ⟨.master, .worker⟩
    let es : List Event :=
      [answered (.close 3) ⟨0, 0, 0⟩, answered .geteuid ⟨0, 0, 0⟩,
       answered (.setgroups 0) ⟨0, 0, 0⟩, answered (.setgid 2) ⟨0, 0, 0⟩,
       answered (.setuid 2) ⟨0, 0, 0⟩, answered (.umask 0) ⟨0o22, 0, 0⟩,
       answered (.openFile (Bytes.ofString "/dev/null") 2) ⟨3, 0, 0⟩,
       answered (.dup2 3 0) ⟨0, 0, 0⟩, answered (.dup2 3 1) ⟨1, 0, 0⟩,
       answered (.dup2 3 2) ⟨2, 0, 0⟩, answered (.close 3) ⟨0, 0, 0⟩]
    let q : Request := .call (.execve (Bytes.ofString "x") [Bytes.ofString "x"]
      [Bytes.ofString "PATH=/usr/bin:/bin", Bytes.ofString "LANG=C", Bytes.ofString "HOME=/tmp"])
    (launch 1 identities (Command.parse 1 (Bytes.ofString "!x")) (some 3)).Trace
      (answered .fork ⟨0, 0, 0⟩ :: es) (.pending q) ∧
    ∃ arguments euid fd, Arguments.split (Bytes.ofString "x") = .ok arguments ∧
      Contained (plan .worker (some 3) euid fd) arguments es q := by
  intro identities es q
  have htrace : (launch 1 identities (Command.parse 1 (Bytes.ofString "!x")) (some 3)).Trace
      (answered .fork ⟨0, 0, 0⟩ :: es) (.pending q) := by
    iterate 12 refine .ask _ ?_
    exact .pending _ _
  obtain ⟨arguments, _, euid, fd, q', hsplit, rfl, hq, hcontained⟩ :=
    launch_drops_privileges 1 1 (Bytes.ofString "!x") identities (some 3) ⟨0, 0, 0⟩ es _ rfl htrace
  cases hq
  exact ⟨htrace, arguments, euid, fd, hsplit, hcontained⟩

end Launch
end GuestInit
