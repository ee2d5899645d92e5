import GuestInit.Launch
import GuestInit.Proofs.KernelTrace

/-! How a child prepares itself. Its calls are laid down beforehand, up to the two answers on which
later calls depend. It makes them one by one, in order, and the first failure that matters ends the
preparation. -/

namespace GuestInit.Launch

open Kernel Program

/-- A call that a child makes before it becomes the program. -/
structure Stage where
  call : Call
  /-- What is reported when the call fails. Of some calls the failure is nobody's concern. -/
  refusal : Option String
  /-- The answer, if later calls depend on it. -/
  answer : Option Int

namespace Stage

/-- The child goes on after such a reply. -/
structure Passes (stage : Stage) (reply : Reply) : Prop where
  succeeded : stage.refusal.isSome = true → 0 ≤ reply.value
  answers : ∀ value, stage.answer = some value → reply.value = value

def fatal (call : Call) (refusal : String) : Stage := ⟨call, some refusal, none⟩

end Stage

def scriptStages (control : Option Int) : List Stage :=
  (control.map fun fd => Stage.fatal (.close fd) "close control script").toList

def groupStages (euid : Int) : List Stage :=
  ⟨.geteuid, none, some euid⟩ ::
    if euid = 0 then [Stage.fatal (.setgroups 0) "set groups"] else []

def idStages (identity : Identity) : List Stage :=
  [Stage.fatal (.setgid identity.gid) "set gid", Stage.fatal (.setuid identity.uid) "set uid",
   ⟨.umask identity.umask, none, none⟩]

/-- The null device, opened for reading and writing, takes the place of each stream. Its own
descriptor is given up, if it is none of them. -/
def streamStages : Streams → (fd : Int) → List Stage
  | .inherited, _ => []
  | .null, fd =>
    [⟨.openFile (Bytes.ofString "/dev/null") 2, some "reopen std streams", some fd⟩,
     Stage.fatal (.dup2 fd 0) "reopen std streams",
     Stage.fatal (.dup2 fd 1) "reopen std streams",
     Stage.fatal (.dup2 fd 2) "reopen std streams"] ++
    if fd > 2 then [⟨.close fd, none, none⟩] else []

/-- All calls of a child but the last one. -/
def plan (identity : Identity) (control : Option Int) (euid fd : Int) : List Stage :=
  scriptStages control ++ (groupStages euid ++ (idStages identity ++
    streamStages identity.streams fd))

theorem execve_notMem_plan (identity : Identity) (control : Option Int) (euid fd : Int)
    (path : Bytes) (argv envp : List Bytes) :
    .execve path argv envp ∉ (plan identity control euid fd).map Stage.call := by
  have hscript : .execve path argv envp ∉ (scriptStages control).map Stage.call := by
    cases control <;> simp [scriptStages, Stage.fatal]
  have hgroups : .execve path argv envp ∉ (groupStages euid).map Stage.call := by
    by_cases h : euid = 0 <;> simp [groupStages, Stage.fatal, h]
  have hids : .execve path argv envp ∉ (idStages identity).map Stage.call := by
    simp [idStages, Stage.fatal]
  have hstreams : .execve path argv envp ∉ (streamStages identity.streams fd).map Stage.call := by
    cases identity.streams with
    | inherited => simp [streamStages]
    | null => by_cases h : fd > 2 <;> simp [streamStages, Stage.fatal, h]
  simp only [plan, List.map_append, List.mem_append, not_or]
  exact ⟨hscript, hgroups, hids, hstreams⟩

/-- How far a child has got through its stages. -/
inductive Advance :
    List Stage → List Event → Standing Surroundings (Except ChildFailure Unit) → Prop
  | finished : Advance [] [] (.returned (.ok ()))
  | pending (stage rest) : Advance (stage :: rest) [] (.pending (.call stage.call))
  | failed {stage reply refusal} (rest) (hrefusal : stage.refusal = some refusal)
      (hfailed : reply.value < 0) :
      Advance (stage :: rest) [answered stage.call reply]
        (.returned (.error (.of refusal (.errno reply.errno))))
  | passed {stage reply rest es standing} (hpasses : stage.Passes reply)
      (hrest : Advance rest es standing) :
      Advance (stage :: rest) (answered stage.call reply :: es) standing

theorem calls_stages (stages : List Stage) :
    calls (stages.map fun stage => .call stage.call) = stages.map Stage.call := by
  induction stages with
  | nil => rfl
  | cons stage rest ih => simp [ih]

namespace Advance

variable {stages first second : List Stage} {es es' : List Event}
  {standing : Standing Surroundings (Except ChildFailure Unit)}

theorem append (h : Advance first es (.returned (.ok ()))) (h' : Advance second es' standing) :
    Advance (first ++ second) (es ++ es') standing := by
  induction first generalizing es with
  | nil =>
    cases h
    exact h'
  | cons stage rest ih =>
    cases h with
    | passed hpasses hrest => exact .passed hpasses (ih hrest)

/-- Where a child does not get through its first stages, it does not matter what follows them. -/
theorem append_left (h : Advance first es standing) (hstuck : standing ≠ .returned (.ok ())) :
    Advance (first ++ second) es standing := by
  induction h with
  | finished => exact absurd rfl hstuck
  | pending stage rest => exact .pending stage (rest ++ second)
  | failed rest hrefusal hfailed => exact .failed (rest ++ second) hrefusal hfailed
  | passed hpasses _ ih => exact .passed hpasses (ih hstuck)

/-- The requests are calls, namely those of the first stages. -/
theorem requests_within (h : Advance stages es standing) :
    requests es standing <+: stages.map fun stage => .call stage.call := by
  induction h with
  | finished => exact List.prefix_rfl
  | pending stage rest => exact ⟨rest.map fun stage => .call stage.call, rfl⟩
  | @failed stage _ _ rest => exact ⟨rest.map fun stage => .call stage.call, rfl⟩
  | passed _ _ ih => exact List.cons_prefix_cons.mpr ⟨rfl, ih⟩

theorem requests_eq (h : Advance stages es (.returned (.ok ()))) :
    es.map Exchange.request = stages.map fun stage => .call stage.call := by
  induction stages generalizing es with
  | nil =>
    cases h
    rfl
  | cons stage rest ih =>
    cases h with
    | passed hpasses hrest => simp [answered, ih hrest]

/-- Answers after which a child has got through its stages leave nothing else to say of it. -/
theorem finished_of_append {rest rest' : List Event} (h : Advance stages es standing)
    (h' : Advance stages es' (.returned (.ok ()))) (heq : es ++ rest = es' ++ rest')
    (hlast : ∀ q, standing = .pending q → rest = []) : standing = .returned (.ok ()) := by
  induction h generalizing es' with
  | finished => rfl
  | pending stage stages =>
    cases h' with
    | passed hpasses hrest => simp [hlast _ rfl] at heq
  | failed stages hrefusal hfailed =>
    cases h' with
    | passed hpasses hrest =>
      have hreply := answered_inj (List.cons.inj heq).1
      have hvalue := hpasses.succeeded (by simp [hrefusal])
      rw [← hreply] at hvalue
      omega
  | passed hpasses hrest ih =>
    cases h' with
    | passed hpasses' hrest' =>
      have htail := (List.cons.inj heq).2
      exact ih hrest' htail hlast

/-- A failure that matters is the last thing that happens. -/
theorem eq_nil_of_failed {before after : List Event} {stage : Stage} {reply : Reply}
    {refusal : String} (h : Advance stages (before ++ answered stage.call reply :: after) standing)
    (hstage : stages[before.length]? = some stage) (hrefusal : stage.refusal = some refusal)
    (hfailed : reply.value < 0) :
    after = [] ∧ standing = .returned (.error (.of refusal (.errno reply.errno))) := by
  induction stages generalizing before with
  | nil => simp at hstage
  | cons first rest ih =>
    cases before with
    | nil =>
      obtain rfl : first = stage := by simpa using hstage
      generalize hes : [] ++ answered first.call reply :: after = es at h
      cases h with
      | pending => simp at hes
      | failed _ hrefusal' _ =>
        obtain rfl := answered_inj (List.cons.inj hes).1
        obtain rfl : refusal = _ := Option.some.inj (hrefusal.symm.trans hrefusal')
        exact ⟨(List.cons.inj hes).2, rfl⟩
      | passed hpasses hrest =>
        obtain rfl := answered_inj (List.cons.inj hes).1
        have hvalue := hpasses.succeeded (by simp [hrefusal])
        omega
    | cons e before =>
      generalize hes : e :: before ++ answered stage.call reply :: after = es at h
      cases h with
      | pending => simp at hes
      | failed => simp at hes
      | passed hpasses hrest =>
        obtain ⟨-, rfl⟩ := List.cons.inj hes
        exact ih hrest (by simpa using hstage)

theorem length_of_finished (h : Advance stages es (.returned (.ok ()))) :
    es.length = stages.length := by
  simpa using congrArg List.length h.requests_eq

theorem calls_within (h : Advance stages es standing) :
    calls (requests es standing) <+: stages.map Stage.call := by
  have hcalls : calls (requests es standing) <+: calls (stages.map fun stage => .call stage.call) :=
    h.requests_within.filterMap _
  rwa [calls_stages] at hcalls

theorem calls_eq (h : Advance stages es (.returned (.ok ()))) :
    calls (es.map Exchange.request) = stages.map Stage.call := by
  rw [h.requests_eq, calls_stages]

theorem ne_unfinished (h : Advance stages es standing) : standing ≠ .unfinished := by
  induction h with
  | finished => nofun
  | pending stage rest => nofun
  | failed rest hrefusal hfailed => nofun
  | passed _ _ ih => exact ih

end Advance

section Preparation

variable {es : List Event} {standing : Standing Surroundings (Except ChildFailure Unit)}

/-- A child that makes a call ends its preparation there, or goes on with the answer. -/
theorem advance_call {c : Call} {refusal : String} {next : Int → Attempt ChildFailure Unit}
    (h : (Attempt.call (.of refusal) c >>= next).run.Trace es standing) :
    (∀ answer rest, Advance (⟨c, some refusal, answer⟩ :: rest) es standing) ∨
      ∃ reply es', es = answered c reply :: es' ∧ 0 ≤ reply.value ∧
        (next reply.value).run.Trace es' standing := by
  rcases Attempt.trace_call_bind h with ⟨rfl, rfl⟩ | ⟨reply, hneg, rfl, rfl⟩ |
    ⟨reply, es', hvalue, rfl, hnext⟩
  · exact .inl fun answer rest => .pending ⟨c, some refusal, answer⟩ rest
  · exact .inl fun answer rest => @Advance.failed ⟨c, some refusal, answer⟩ reply _ rest rfl hneg
  · exact .inr ⟨reply, es', rfl, hvalue, hnext⟩

theorem advance_fatal {c : Call} {refusal : String}
    (h : (discard (Attempt.call (.of refusal) c) : Attempt ChildFailure Unit).run.Trace es
      standing) : Advance [Stage.fatal c refusal] es standing := by
  have hcall : (discard (Attempt.call (.of refusal) c) : Attempt ChildFailure Unit) =
      Attempt.call (.of refusal) c >>= fun _ => pure () := rfl
  rw [hcall] at h
  rcases advance_call h with hends | ⟨reply, es', rfl, hvalue, hdone⟩
  · exact hends none []
  · obtain ⟨rfl, rfl⟩ := trace_done_iff.mp hdone
    exact .passed ⟨fun _ => hvalue, nofun⟩ .finished

theorem advance_harmless {c : Call}
    (h : (ExceptT.lift (discard (Action.call c)) : Attempt ChildFailure Unit).run.Trace es
      standing) : Advance [⟨c, none, none⟩] es standing := by
  rcases trace_ask_iff.mp h with ⟨rfl, rfl⟩ | ⟨reply, es', rfl, hdone⟩
  · exact .pending ⟨c, none, none⟩ []
  · obtain ⟨rfl, rfl⟩ := trace_done_iff.mp hdone
    exact .passed ⟨nofun, nofun⟩ .finished

theorem advance_pure (h : (pure () : Attempt ChildFailure Unit).run.Trace es standing) :
    Advance [] es standing := by
  obtain ⟨rfl, rfl⟩ := trace_done_iff.mp h
  exact .finished

/-- Attempts in a row go through their stages in a row. -/
theorem advance_seq {p q : Attempt ChildFailure Unit} {first second : List Stage}
    (h : (p >>= fun _ => q).run.Trace es standing)
    (hp : ∀ {es standing}, p.run.Trace es standing → Advance first es standing)
    (hq : ∀ {es standing}, q.run.Trace es standing → Advance second es standing) :
    Advance (first ++ second) es standing := by
  rcases Attempt.trace_seq h with ⟨hfirst, hstuck⟩ | ⟨es₁, es₂, rfl, hfirst, hsecond⟩
  · exact (hp hfirst).append_left hstuck
  · exact (hp hfirst).append (hq hsecond)

theorem advance_fatal_seq {c : Call} {refusal : String} {q : Attempt ChildFailure Unit}
    {rest : List Stage}
    (h : (discard (Attempt.call (.of refusal) c) >>= fun _ => q).run.Trace es standing)
    (hq : ∀ {es standing}, q.run.Trace es standing → Advance rest es standing) :
    Advance (Stage.fatal c refusal :: rest) es standing := advance_seq h advance_fatal hq

theorem giveUpScript_advance {control : Option Int}
    (h : (giveUpScript control).run.Trace es standing) :
    Advance (scriptStages control) es standing := by
  cases control with
  | none => exact advance_pure h
  | some fd => exact advance_fatal h

theorem giveUpGroups_advance (h : giveUpGroups.run.Trace es standing) :
    ∃ euid, Advance (groupStages euid) es standing := by
  rw [giveUpGroups, Attempt.run_lift_call_bind] at h
  rcases trace_ask_iff.mp h with ⟨rfl, rfl⟩ | ⟨reply, es', rfl, hgroups⟩
  · exact ⟨0, .pending ⟨.geteuid, none, some 0⟩ _⟩
  · refine ⟨reply.value, .passed ⟨nofun, by simp⟩ ?_⟩
    by_cases hsuper : reply.value = 0
    · simp only [hsuper, if_true] at hgroups ⊢
      exact advance_fatal hgroups
    · simp only [hsuper, if_false] at hgroups ⊢
      exact advance_pure hgroups

theorem bindStreams_null : bindStreams .null = (do
    let fd ← Attempt.call (.of "reopen std streams") (.openFile (Bytes.ofString "/dev/null") 2)
    discard (Attempt.call (.of "reopen std streams") (.dup2 fd 0))
    discard (Attempt.call (.of "reopen std streams") (.dup2 fd 1))
    discard (Attempt.call (.of "reopen std streams") (.dup2 fd 2))
    if fd > 2 then ExceptT.lift (discard (Action.call (.close fd)))) := by
  simp only [bindStreams, bindNullStreams, Attempt.adapt_bind, Attempt.adapt_call,
    Attempt.adapt_discard, Function.comp_id, nullDevice, readWrite, standardInput, standardOutput,
    standardError]
  refine bind_congr fun fd => bind_congr fun _ => bind_congr fun _ => bind_congr fun _ => ?_
  by_cases habove : fd > 2
  · simp only [habove, if_true]
    rfl
  · simp only [habove, if_false]
    rfl

theorem bindStreams_advance {streams : Streams} (h : (bindStreams streams).run.Trace es standing) :
    ∃ fd, Advance (streamStages streams fd) es standing := by
  cases streams with
  | inherited => exact ⟨0, advance_pure h⟩
  | null =>
    rw [bindStreams_null] at h
    rcases advance_call h with hends | ⟨reply, es', rfl, hvalue, hbind⟩
    · exact ⟨0, hends (some 0) _⟩
    · refine ⟨reply.value, .passed ⟨fun _ => hvalue, by simp⟩ ?_⟩
      refine advance_fatal_seq hbind fun hbind => ?_
      refine advance_fatal_seq hbind fun hbind => ?_
      refine advance_fatal_seq hbind fun hclose => ?_
      by_cases habove : reply.value > 2
      · simp only [habove, if_true] at hclose ⊢
        exact advance_harmless hclose
      · simp only [habove, if_false] at hclose ⊢
        exact advance_pure hclose

/-- The part of the preparation in which the child takes its ids on. -/
def takeIds (identity : Identity) : Attempt ChildFailure Unit := do
  discard (Attempt.call (.of "set gid") (.setgid identity.gid))
  discard (Attempt.call (.of "set uid") (.setuid identity.uid))
  ExceptT.lift (discard (Action.call (.umask identity.umask)))

theorem takeIds_advance {identity : Identity} (h : (takeIds identity).run.Trace es standing) :
    Advance (idStages identity) es standing := by
  refine advance_fatal_seq h fun hrest => ?_
  exact advance_fatal_seq hrest advance_harmless

theorem takeOn_eq (identity : Identity) (control : Option Int) :
    takeOn identity control = giveUpScript control >>= fun _ => giveUpGroups >>= fun _ =>
      takeIds identity >>= fun _ => bindStreams identity.streams := by
  simp only [takeOn, takeIds, bind_assoc]

/-- A child prepares itself by the calls laid down for its identity, in their order. -/
theorem takeOn_advance {identity : Identity} {control : Option Int}
    (h : (takeOn identity control).run.Trace es standing) :
    ∃ euid fd, Advance (plan identity control euid fd) es standing := by
  rw [takeOn_eq] at h
  rcases Attempt.trace_seq h with ⟨hscript, hstuck⟩ | ⟨es₁, es, rfl, hscript, h⟩
  · exact ⟨0, 0, (giveUpScript_advance hscript).append_left hstuck⟩
  have hscript := giveUpScript_advance hscript
  rcases Attempt.trace_seq h with ⟨hgroups, hstuck⟩ | ⟨es₂, es, rfl, hgroups, h⟩
  · obtain ⟨euid, hgroups⟩ := giveUpGroups_advance hgroups
    exact ⟨euid, 0, hscript.append (hgroups.append_left hstuck)⟩
  obtain ⟨euid, hgroups⟩ := giveUpGroups_advance hgroups
  rcases Attempt.trace_seq h with ⟨hids, hstuck⟩ | ⟨es₃, es, rfl, hids, hstreams⟩
  · have hids := takeIds_advance hids
    exact ⟨euid, 0, hscript.append (hgroups.append (hids.append_left hstuck))⟩
  · obtain ⟨fd, hstreams⟩ := bindStreams_advance hstreams
    have hids := takeIds_advance hids
    exact ⟨euid, fd, hscript.append (hgroups.append (hids.append hstreams))⟩

end Preparation

end GuestInit.Launch
