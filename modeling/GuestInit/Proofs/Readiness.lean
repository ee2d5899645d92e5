import GuestInit.Proofs.Booting
import GuestInit.Proofs.Halting

/-! No command runs in a half-prepared guest. Whatever the run forks for comes after the whole boot: a
scratch size that was accepted, every stage of the boot, and the opening of the control script. -/

namespace GuestInit

open Kernel Program

/-- Where something is requested that the first part of a sequence never requests, that part is over. -/
theorem Program.past_of_requested {I : Interface} {α β : Type} {p : Program I α}
    {f : α → Program I β} {es : List (Exchange I)} {standing : Standing I β} {q : I.Request}
    (hp : ∀ es standing, p.Trace es standing → q ∉ requests es standing)
    (h : (p >>= f).Trace es standing) (hq : q ∈ requests es standing) :
    ∃ value es₁ es₂, es = es₁ ++ es₂ ∧ p.Trace es₁ (.returned value) ∧
      (f value).Trace es₂ standing ∧ q ∈ requests es₂ standing := by
  rcases trace_bind_iff.mp h with ⟨value, es₁, es₂, rfl, hfirst, hsecond⟩ | ⟨r, rfl, hfirst⟩ |
    ⟨rfl, hfirst⟩
  · have hnever : q ∉ es₁.map Exchange.request := by simpa [requests] using hp _ _ hfirst
    rw [requests_append, List.mem_append] at hq
    exact ⟨value, es₁, es₂, rfl, hfirst, hsecond, hq.resolve_left hnever⟩
  · exact absurd hq (hp _ _ hfirst)
  · exact absurd hq (hp _ _ hfirst)

/-- Requests without a certain one, at the start of a list, come before it. -/
theorem prefix_of_notMem {α : Type} {first rest before after : List α} {a : α}
    (h : first ++ rest = before ++ a :: after) (hfirst : a ∉ first) : first <+: before := by
  rcases List.append_eq_append_iff.mp h with ⟨more, rfl, -⟩ | ⟨more, rfl, hrest⟩
  · exact List.prefix_append _ _
  · cases more with
    | nil => simp
    | cons b more =>
      obtain ⟨rfl, -⟩ := List.cons.inj hrest
      simp at hfirst

namespace Boot

theorem fork_notMem_plan (config : Config) (fd : Int) :
    .fork ∉ (plan config fd).flatMap Stage.calls := by
  have hinput : .fork ∉ (inputStages config.inputDevice fd).flatMap Stage.calls := by
    by_cases h : fd = 0 <;> simp [inputStages, Stage.calls, Stage.moveToInput, h]
  simp [plan, filesystems, Stage.calls, Stage.mount, Stage.limitProcesses, Stage.openInput, hinput]

theorem prepare_forkless {config : Config} {es : List Event}
    {standing : Standing Surroundings (Except Fault Unit)}
    (h : (prepare config).run.Trace es standing) : .call .fork ∉ requests es standing := by
  obtain ⟨fd, hfollows⟩ := prepare_follows h
  intro hfork
  exact fork_notMem_plan config fd (hfollows.calls.subset (mem_calls.mpr hfork))

end Boot

namespace Session

/-- A halt forks nothing. -/
theorem die_forkless {fault : Fault} {es : List Event} {standing : Standing Surroundings Empty}
    (h : (Halt.die fault).Trace es standing) : .call .fork ∉ requests es standing := by
  have hdie : (Halt.die fault).Within (fun _ => True) (fun q => q ≠ Request.call .fork)
      (fun _ => True) :=
    Halt.die_within nofun (Halt.halt_within nofun nofun (fun _ => nofun) nofun)
  exact fun hfork => hdie.requests h (fun _ _ => trivial) _ hfork rfl

/-- All that comes before the first command: what is said of the configuration, the boot, and the
opening of the control script. -/
def prologue (config : Config) (boot : List Event) (script : Int × Source) : List Event :=
  [logged (.info "init"), logged (.debug s!"scratch size {config.diskSize.text}")] ++ boot ++
    [⟨.openScript config.controlPath, .ok script⟩]

theorem supervise_past {rounds : Nat} {diskSize : Option Bytes} {es : List Event}
    {standing : Standing Surroundings Empty} (h : (supervise rounds diskSize).Trace es standing)
    (hfork : .call .fork ∈ requests es standing) :
    ∃ config boot script rest, Config.ofVariable diskSize = .ok config ∧
      (Boot.prepare config).run.Trace boot (.returned (.ok ())) ∧
      es = prologue config boot script ++ rest := by
  rw [supervise_eq] at h
  rcases trace_ask_iff.mp h with ⟨rfl, rfl⟩ | ⟨_, es₁, rfl, hconfigured⟩
  · simp at hfork
  have hfork₁ : .call .fork ∈ requests es₁ standing := by simpa using hfork
  cases hconfig : Config.ofVariable diskSize with
  | error fault =>
    simp only [hconfig] at hconfigured
    exact absurd hfork₁ (die_forkless hconfigured)
  | ok config =>
    simp only [hconfig] at hconfigured
    rcases trace_ask_iff.mp hconfigured with ⟨rfl, rfl⟩ | ⟨_, es₂, rfl, hserve⟩
    · simp at hfork₁
    have hfork₂ : .call .fork ∈ requests es₂ standing := by simpa using hfork₁
    rw [serve, bind_assoc] at hserve
    obtain ⟨result, boot, es₃, rfl, hboot, hopen, hfork₃⟩ :=
      past_of_requested (fun _ _ => Boot.prepare_forkless) hserve hfork₂
    cases result with
    | error fault => exact absurd hfork₃ (die_forkless hopen)
    | ok _ =>
      rcases trace_ask_iff.mp hopen with ⟨rfl, rfl⟩ | ⟨answer, es₄, rfl, hexecute⟩
      · simp at hfork₃
      have hfork₄ : .call .fork ∈ requests es₄ standing := by simpa using hfork₃
      cases answer with
      | error cause => exact absurd hfork₄ (die_forkless hexecute)
      | ok script => exact ⟨config, boot, script, es₄, rfl, hboot, by simp [prologue, logged]⟩

theorem start_past {rounds pid : Nat} {diskSize : Option Bytes} {es : List Event}
    {standing : Standing Surroundings Nat} (h : (start rounds pid diskSize).Trace es standing)
    (hfork : .call .fork ∈ requests es standing) :
    pid = 1 ∧ ∃ config boot script rest, Config.ofVariable diskSize = .ok config ∧
      (Boot.prepare config).run.Trace boot (.returned (.ok ())) ∧
      es = prologue config boot script ++ rest := by
  unfold start at h
  split at h
  · rename_i hpid
    rcases trace_bind_iff.mp h with ⟨never, _⟩ | ⟨q, rfl, hsupervise⟩ | ⟨rfl, hsupervise⟩
    · exact never.elim
    · exact ⟨hpid, supervise_past hsupervise hfork⟩
    · exact ⟨hpid, supervise_past hsupervise hfork⟩
  · rcases trace_ask_iff.mp h with ⟨rfl, rfl⟩ | ⟨_, es', rfl, hdone⟩
    · simp at hfork
    · obtain ⟨rfl, rfl⟩ := trace_done_iff.mp hdone
      simp at hfork

/-- No command runs in a half-prepared guest. The boot returns, whatever the kernel answers. As far as
it has got, its calls are the first ones of its plan. It succeeds if and only if it got through all
stages of the plan, and otherwise its fault is that of the first stage that failed. And wherever a run
of the whole program forks, the scratch size was accepted, the boot got through all its stages, and the
control script was opened, before. -/
theorem fork_after_boot :
    (∀ config,
      (∀ (σ : Type) (reply : σ → Call → Reply × σ) (s : σ), ∃ result s',
        (Boot.prepare config).run.run (attended reply) s = (.returned result, s')) ∧
      ∀ es standing, (Boot.prepare config).run.Trace es standing → ∃ fd,
        calls (requests es standing) <+: (Boot.plan config fd).flatMap Boot.Stage.calls ∧
        ∀ result, standing = .returned result →
          (result = .ok () ↔ Boot.Passed (Boot.plan config fd) (answers es)) ∧
          ∀ fault, result = .error fault → Boot.Failed (Boot.plan config fd) (answers es) fault) ∧
    ∀ rounds pid diskSize es standing before after, (start rounds pid diskSize).Trace es standing →
      requests es standing = before ++ .call .fork :: after →
      pid = 1 ∧ ∃ config fd boot script rest,
        Config.ofVariable diskSize = .ok config ∧ Boot.Passed (Boot.plan config fd) (answers boot) ∧
        es = prologue config boot script ++ rest ∧
        (prologue config boot script).map Exchange.request <+: before := by
  refine ⟨fun config => ⟨fun σ => Boot.prepare_returns config, fun es standing htrace => ?_⟩, ?_⟩
  · obtain ⟨fd, hfollows⟩ := Boot.prepare_follows htrace
    refine ⟨fd, hfollows.calls, ?_⟩
    rintro result rfl
    refine ⟨⟨fun hok => hfollows.passed (hok ▸ rfl), fun hpassed => ?_⟩,
      fun fault herror => hfollows.failed fault (herror ▸ rfl)⟩
    cases result with
    | ok _ => rfl
    | error fault => exact absurd (hfollows.failed fault rfl) hpassed.not_failed
  · intro rounds pid diskSize es standing before after htrace hforked
    have hfork : .call .fork ∈ requests es standing := by simp [hforked]
    obtain ⟨rfl, config, boot, script, rest, hconfig, hboot, rfl⟩ := start_past htrace hfork
    obtain ⟨fd, hfollows⟩ := Boot.prepare_follows hboot
    refine ⟨rfl, config, fd, boot, script, rest, hconfig, hfollows.passed rfl, rfl, ?_⟩
    rw [requests_append] at hforked
    refine prefix_of_notMem hforked ?_
    have hforkless : .call .fork ∉ boot.map Exchange.request := by
      simpa [requests] using Boot.prepare_forkless hboot
    simpa [prologue, logged] using hforkless

/-- A boot in which the device cannot become standard input and cannot even be closed, and a run that
is about to fork for the first line of its script. -/
theorem fork_after_boot_busy :
    let config := Config.ofDiskSize default
    let mounted : List Event := (Boot.filesystems config).flatMap (fun mount =>
      [answered (Boot.Stage.mount mount).call ⟨0, 0, 0⟩, logged mount.mountedRecord])
    let limited : Event := answered (.setrlimit 6 100 100) ⟨0, 0, 0⟩
    let busy : List Event := mounted ++ [limited,
      answered (.openFile config.inputDevice 0) ⟨3, 0, 0⟩,
      answered (.dup2 3 0) ⟨-1, 16, 0⟩, answered (.close 3) ⟨-1, 9, 0⟩]
    let boot : List Event := mounted ++ [limited,
      answered (.openFile config.inputDevice 0) ⟨0, 0, 0⟩]
    let source := Source.ofBytes (Bytes.ofString "a\n")
    let announced : List Event := [logged (.info "step 1 (master): a")]
    let es : List Event := prologue config boot (3, source) ++ announced
    let fault : Fault := .openFile config.inputDevice (.errno 16)
    ((Boot.prepare config).run.Trace busy (.returned (.error fault)) ∧
      ∃ fd, Boot.Failed (Boot.plan config fd) (answers busy) fault) ∧
    ((start 1 1 none).Trace es (.pending (.call .fork)) ∧
      ∃ config fd boot script rest,
        Config.ofVariable none = .ok config ∧ Boot.Passed (Boot.plan config fd) (answers boot) ∧
        es = prologue config boot script ++ rest ∧
        (prologue config boot script).map Exchange.request <+: es.map Exchange.request) := by
  intro config mounted limited busy boot source announced es fault
  have hbusy : (Boot.prepare (Config.ofDiskSize default)).run.Trace busy
      (.returned (.error fault)) := by
    iterate 12 refine .ask _ ?_
    exact .done _
  have hexecute : (execute 1 config.identities (.ofFile 3 source)).Trace announced
      (.pending (.call .fork)) := by
    have hread : (Script.ofFile 3 source).next.1 = .ok (some ⟨1, .master, Bytes.ofString "a"⟩) := rfl
    rw [execute, ControlLoop.run, ControlLoop.runFrom_of_command hread]
    exact .ask _ (.pending _ _)
  have hexecuting : (execute 1 config.identities (.ofFile 3 source) >>= fun outcome =>
      .done (outcome.1.map fun _ => ())).Trace announced (.pending (.call .fork)) :=
    trace_bind_iff.mpr (.inr (.inl ⟨_, rfl, hexecute⟩))
  have hstart : (start 1 1 none).Trace es (.pending (.call .fork)) := by
    refine trace_bind_iff.mpr (.inr (.inl ⟨_, rfl, ?_⟩))
    iterate 13 refine .ask _ ?_
    exact trace_bind_iff.mpr (.inr (.inl ⟨_, rfl, hexecuting⟩))
  refine ⟨⟨hbusy, ?_⟩, hstart, ?_⟩
  · obtain ⟨fd, -, hreturned⟩ := (fork_after_boot.1 config).2 busy _ hbusy
    exact ⟨fd, (hreturned _ rfl).2 fault rfl⟩
  · have hforked : requests es (.pending (.call .fork) : Standing Surroundings Nat) =
        es.map Exchange.request ++ .call .fork :: [] := rfl
    exact (fork_after_boot.2 1 1 none es _ _ [] hstart hforked).2

end Session

end GuestInit
