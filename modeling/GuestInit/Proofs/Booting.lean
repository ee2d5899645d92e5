import GuestInit.Boot
import GuestInit.Proofs.KernelTrace

/-! The stages of the boot. They are laid down beforehand, up to the descriptor of the input device,
which later stages depend on. Each is one call, which has to succeed, and perhaps calls after it that
are made whether or not it did. The first stage that fails ends the boot. -/

namespace GuestInit

open Kernel Program

namespace Kernel

/-- The system calls that were answered, each with its reply. -/
def answers (es : List Event) : List (Call × Reply) :=
  es.filterMap fun
    | ⟨.call c, reply⟩ => some (c, reply)
    | _ => none

@[simp] theorem answers_nil : answers [] = [] := rfl
@[simp] theorem answers_answered (c : Call) (reply : Reply) (es : List Event) :
    answers (answered c reply :: es) = (c, reply) :: answers es := rfl
@[simp] theorem answers_append (es es' : List Event) :
    answers (es ++ es') = answers es ++ answers es' :=
  List.filterMap_append ..

theorem answers_calls (es : List Event) :
    (answers es).map Prod.fst = calls (es.map Exchange.request) := by
  induction es with
  | nil => rfl
  | cons e es ih =>
    rcases e with ⟨q, answer⟩
    cases q with
    | call c => exact congrArg (c :: ·) ih
    | openScript path => exact ih
    | log record => exact ih
    | complain text => exact ih
    | exit status => exact ih

theorem mem_calls {c : Call} {qs : List Request} : c ∈ calls qs ↔ .call c ∈ qs := by
  induction qs with
  | nil => simp
  | cons q qs ih =>
    cases q with
    | call c' => simp [ih]
    | openScript path => simpa [calls] using ih
    | log record => simpa [calls] using ih
    | complain text => simpa [calls] using ih
    | exit status => simpa [calls] using ih

/-- A kernel that answers every call, and a console. -/
def attended {σ : Type} (reply : σ → Call → Reply × σ) : Machine Surroundings σ where
  answer
    | s, .call c => (some (reply s c).1, (reply s c).2)
    | s, .log _ => (some (), s)
    | s, _ => (none, s)

/-- A run that has returned, or waits for the kernel or the console. -/
inductive Attended {α : Type} : Standing Surroundings α → Prop
  | returned (value : α) : Attended (.returned value)
  | calling (c : Call) : Attended (.pending (.call c))
  | logging (record : Record) : Attended (.pending (.log record))

/-- A program that never waits for anything else returns, whatever the kernel answers. -/
theorem returns_of_attended {α σ : Type} {p : Action α}
    (h : ∀ es standing, p.Trace es standing → Attended standing)
    (reply : σ → Call → Reply × σ) (s : σ) :
    ∃ value s', p.run (attended reply) s = (.returned value, s') := by
  induction p generalizing s with
  | done value => exact ⟨value, s, rfl⟩
  | unfinished => nomatch h [] .unfinished .unfinished
  | ask q next ih =>
    have hrest answer : ∀ es standing, (next answer).Trace es standing → Attended standing :=
      fun es standing htrace => h (⟨q, answer⟩ :: es) standing (.ask answer htrace)
    cases h [] (.pending q) (.pending q next) with
    | calling c => exact ih (reply s c).1 (hrest _) (reply s c).2
    | logging record => exact ih () (hrest ()) s

end Kernel

namespace Boot

/-- Something that is done to the guest before the first command. -/
structure Stage where
  call : Call
  /-- The strings that the call hands to the kernel. -/
  strings : List Bytes
  /-- The fault that a failure is. -/
  failed : IoError → Fault
  /-- The calls made after it, whether or not it failed. -/
  release : List Call
  /-- The value of the call, if later stages depend on it. -/
  answer : Option Int

namespace Stage

def calls (stage : Stage) : List Call := stage.call :: stage.release

/-- The kernel can take the strings. -/
def Fit (stage : Stage) : Prop := ∀ string ∈ stage.strings, Bytes.nul ∉ string

theorem fit_iff (stage : Stage) : stage.Fit ↔ ¬ stage.strings.any Bytes.hasNul = true := by
  simp [Fit]

/-- A stage that the boot got through, with the calls that were made in it. -/
inductive Passed (stage : Stage) : List (Call × Reply) → Prop
  | intro {reply released} (hfit : stage.Fit) (hreply : 0 ≤ reply.value)
      (hanswer : ∀ value, stage.answer = some value → reply.value = value)
      (hreleased : released.map Prod.fst = stage.release) :
      Passed stage ((stage.call, reply) :: released)

/-- A stage that the boot failed in: without a call, if the kernel cannot take a string, and otherwise
for what the kernel said to the call itself. -/
inductive Failed (stage : Stage) : List (Call × Reply) → Fault → Prop
  | unfit (hfit : ¬ stage.Fit) : Failed stage [] (stage.failed .nulInData)
  | refused {reply released} (hfit : stage.Fit) (hreply : reply.value < 0)
      (hreleased : released.map Prod.fst = stage.release) :
      Failed stage ((stage.call, reply) :: released) (stage.failed (.errno reply.errno))

theorem Passed.calls {stage : Stage} {made : List (Call × Reply)} (h : stage.Passed made) :
    made.map Prod.fst = stage.calls := by
  cases h with
  | intro _ _ _ hreleased => exact congrArg (stage.call :: ·) hreleased

theorem Failed.calls {stage : Stage} {made : List (Call × Reply)} {fault : Fault}
    (h : stage.Failed made fault) : made.map Prod.fst <+: stage.calls := by
  cases h with
  | unfit _ => exact List.nil_prefix
  | refused _ _ hreleased => exact ⟨[], by simp [Stage.calls, hreleased]⟩

def mount (mount : Mount) : Stage where
  call := .mount mount.source mount.target (Bytes.ofString mount.fstype) mount.flags
    (mount.data.map Bytes.ofString)
  strings := [mount.source, mount.target, Bytes.ofString mount.fstype] ++
    (mount.data.map Bytes.ofString).toList
  failed := .mount mount.target
  release := []
  answer := none

/-- Soft and hard limit of resource 6, the number of processes of one user. -/
def limitProcesses (most : UInt64) : Stage :=
  ⟨.setrlimit 6 most most, [], .resourceLimit, [], none⟩

/-- The device is opened as `fd`, for reading only. -/
def openInput (device : Bytes) (fd : Int) : Stage :=
  ⟨.openFile device 0, [device], .openFile device, [], some fd⟩

/-- The descriptor takes the place of standard input and is given up. -/
def moveToInput (device : Bytes) (fd : Int) : Stage :=
  ⟨.dup2 fd 0, [], .openFile device, [.close fd], none⟩

end Stage

/-- The filesystems of a prepared guest. Of the flags, 1 stands for reading only, 2 for no
set-user-id programs, 4 for no devices, and 8 for no programs at all. -/
def filesystems (config : Config) : List Mount :=
  [⟨Bytes.ofString "proc", Bytes.ofString "/proc", "proc", 14, none⟩,
   ⟨Bytes.ofString "sys", Bytes.ofString "/sys", "sysfs", 14, none⟩,
   ⟨Bytes.ofString "none", Bytes.ofString "/tmp", "tmpfs", 6,
    some ("mode=777,size=" ++ config.diskSize.text)⟩,
   ⟨config.taskDevice, config.taskMount, "squashfs", 7, none⟩]

theorem table_eq_filesystems (config : Config) : Mount.table config = filesystems config := rfl

/-- The stages after the device was opened. A device that is standard input by then is left there. -/
def inputStages (device : Bytes) (fd : Int) : List Stage :=
  if fd = 0 then [] else [.moveToInput device fd]

/-- All stages, for the descriptor that the input device gets. -/
def plan (config : Config) (fd : Int) : List Stage :=
  (filesystems config).map Stage.mount ++ .limitProcesses config.maxProcesses ::
    .openInput config.inputDevice fd :: inputStages config.inputDevice fd

/-- Stages that the boot got through one after the other. -/
inductive Passed : List Stage → List (Call × Reply) → Prop
  | nil : Passed [] []
  | cons {stage rest made made'} (hstage : stage.Passed made) (hrest : Passed rest made') :
      Passed (stage :: rest) (made ++ made')

/-- Stages of which one failed, after those before it were got through. -/
inductive Failed : List Stage → List (Call × Reply) → Fault → Prop
  | here {stage made fault} (rest) (hstage : stage.Failed made fault) :
      Failed (stage :: rest) made fault
  | later {stage rest made made' fault} (hstage : stage.Passed made)
      (hrest : Failed rest made' fault) : Failed (stage :: rest) (made ++ made') fault

/-- A boot, cut off anywhere, that keeps to stages. -/
structure Follows (stages : List Stage) (es : List Event)
    (standing : Standing Surroundings (Except Fault Unit)) : Prop where
  calls : calls (requests es standing) <+: stages.flatMap Stage.calls
  passed : standing = .returned (.ok ()) → Passed stages (answers es)
  failed : ∀ fault, standing = .returned (.error fault) → Failed stages (answers es) fault
  attended : Attended standing

theorem Passed.calls {stages : List Stage} {made : List (Call × Reply)} (h : Passed stages made) :
    made.map Prod.fst = stages.flatMap Stage.calls := by
  induction h with
  | nil => rfl
  | cons hstage _ ih => rw [List.map_append, List.flatMap_cons, hstage.calls, ih]

theorem Passed.append {first second : List Stage} {made made' : List (Call × Reply)}
    (h : Passed first made) (h' : Passed second made') : Passed (first ++ second) (made ++ made') := by
  induction h with
  | nil => exact h'
  | cons hstage _ ih =>
    rw [List.append_assoc]
    exact .cons hstage ih

theorem Passed.append_failed {first second : List Stage} {made made' : List (Call × Reply)}
    {fault : Fault} (h : Passed first made) (h' : Failed second made' fault) :
    Failed (first ++ second) (made ++ made') fault := by
  induction h with
  | nil => exact h'
  | cons hstage _ ih =>
    rw [List.append_assoc]
    exact .later hstage ih

theorem Failed.append_left {first : List Stage} {made : List (Call × Reply)} {fault : Fault}
    (h : Failed first made fault) (second : List Stage) : Failed (first ++ second) made fault := by
  induction h with
  | here rest hstage => exact .here (rest ++ second) hstage
  | later hstage _ ih => exact .later hstage ih

/-- A boot that got through all its stages failed in none. -/
theorem Passed.not_failed {stages : List Stage} {made : List (Call × Reply)} {fault : Fault}
    (h : Passed stages made) : ¬ Failed stages made fault := by
  induction h with
  | nil => nofun
  | @cons stage rest made made' hstage _ ih =>
    intro hfailed
    generalize hall : made ++ made' = all at hfailed
    cases hfailed with
    | here _ hbroken =>
      cases hstage with
      | intro hfit hreply _ _ =>
        cases hbroken with
        | unfit hunfit => exact hunfit hfit
        | refused _ hneg _ =>
          obtain ⟨-, rfl⟩ := Prod.mk.inj (List.cons.inj hall).1
          omega
    | later hstage' hrest =>
      have hlength := congrArg List.length (hstage.calls.trans hstage'.calls.symm)
      simp only [List.length_map] at hlength
      obtain ⟨-, rfl⟩ := List.append_inj hall hlength
      exact ih hrest

namespace Follows

variable {first second stages : List Stage} {stage : Stage} {es es' : List Event}
  {standing : Standing Surroundings (Except Fault Unit)}

theorem append (h : Follows first es (.returned (.ok ()))) (h' : Follows second es' standing) :
    Follows (first ++ second) (es ++ es') standing where
  calls := by
    have hfirst := (h.passed rfl).calls
    rw [answers_calls] at hfirst
    rw [requests_append, calls_append, hfirst, List.flatMap_append]
    exact (List.prefix_append_right_inj _).mpr h'.calls
  passed hok := by
    rw [answers_append]
    exact (h.passed rfl).append (h'.passed hok)
  failed fault herror := by
    rw [answers_append]
    exact (h.passed rfl).append_failed (h'.failed fault herror)
  attended := h'.attended

/-- Where the boot does not get through its first stages, it does not matter what follows them. -/
theorem append_left (h : Follows first es standing) (hstuck : standing ≠ .returned (.ok ()))
    (second : List Stage) : Follows (first ++ second) es standing where
  calls := by
    rw [List.flatMap_append]
    exact h.calls.trans (List.prefix_append _ _)
  passed hok := absurd hok hstuck
  failed fault herror := (h.failed fault herror).append_left second
  attended := h.attended

theorem calling (stage : Stage) (rest : List Stage) :
    Follows (stage :: rest) [] (.pending (.call stage.call)) where
  calls := ⟨stage.release ++ rest.flatMap Stage.calls, rfl⟩
  passed := nofun
  failed := nofun
  attended := .calling stage.call

/-- Nothing but records, before there is a stage. -/
theorem ended (h : answers es = []) : Follows [] es (.returned (.ok ())) where
  calls := by simp [requests, ← answers_calls, h]
  passed _ := by
    rw [h]
    exact .nil
  failed := nofun
  attended := .returned _

theorem through (h : stage.Passed (answers es)) : Follows [stage] es (.returned (.ok ())) where
  calls := by
    have hcalls := h.calls
    rw [answers_calls] at hcalls
    simp [requests, hcalls]
  passed _ := by
    rw [← List.append_nil (answers es)]
    exact .cons h .nil
  failed := nofun
  attended := .returned _

theorem broken {fault : Fault} (h : stage.Failed (answers es) fault) (rest : List Stage) :
    Follows (stage :: rest) es (.returned (.error fault)) where
  calls := by
    have hcalls := h.calls
    rw [answers_calls] at hcalls
    rw [requests, Standing.asked_returned, List.append_nil, List.flatMap_cons]
    exact hcalls.trans (List.prefix_append _ _)
  passed := nofun
  failed fault herror := by
    cases herror
    exact .here rest h
  attended := .returned _

end Follows

section Trace

variable {es : List Event} {standing : Standing Surroundings (Except Fault Unit)}

theorem follows_pure (h : (pure () : Attempt Fault Unit).run.Trace es standing) :
    Follows [] es standing := by
  obtain ⟨rfl, rfl⟩ := trace_done_iff.mp h
  exact .ended rfl

theorem follows_throw (stage : Stage) (hfit : ¬ stage.Fit)
    (h : (throw (stage.failed .nulInData) : Attempt Fault Unit).run.Trace es standing)
    (rest : List Stage) : Follows (stage :: rest) es standing := by
  obtain ⟨rfl, rfl⟩ := trace_done_iff.mp h
  exact .broken (.unfit hfit) rest

theorem follows_log {record : Record}
    (h : (Attempt.log record : Attempt Fault Unit).run.Trace es standing) :
    Follows [] es standing := by
  rcases trace_ask_iff.mp h with ⟨rfl, rfl⟩ | ⟨_, es', rfl, hdone⟩
  · exact ⟨List.nil_prefix, nofun, nofun, .logging record⟩
  · obtain ⟨rfl, rfl⟩ := trace_done_iff.mp hdone
    exact .ended rfl

/-- The boot ends in a stage that releases nothing, or goes on with the value of its call. -/
theorem follows_call (stage : Stage) (hfit : stage.Fit) (hrelease : stage.release = [])
    {next : Int → Attempt Fault Unit}
    (h : (Attempt.call stage.failed stage.call >>= next).run.Trace es standing) :
    (∀ rest, Follows (stage :: rest) es standing) ∨
      ∃ reply es', es = answered stage.call reply :: es' ∧ 0 ≤ reply.value ∧
        (next reply.value).run.Trace es' standing := by
  rcases Attempt.trace_call_bind h with ⟨rfl, rfl⟩ | ⟨reply, hneg, rfl, rfl⟩ |
    ⟨reply, es', hreply, rfl, hnext⟩
  · exact .inl (.calling stage)
  · exact .inl (.broken (.refused hfit hneg hrelease.symm))
  · exact .inr ⟨reply, es', rfl, hreply, hnext⟩

theorem follows_discard (stage : Stage) (hfit : stage.Fit) (hrelease : stage.release = [])
    (hanswer : stage.answer = none)
    (h : (discard (Attempt.call stage.failed stage.call) : Attempt Fault Unit).run.Trace es
      standing) : Follows [stage] es standing := by
  have hcall : (discard (Attempt.call stage.failed stage.call) : Attempt Fault Unit) =
      Attempt.call stage.failed stage.call >>= fun _ => pure () := rfl
  rw [hcall] at h
  rcases follows_call stage hfit hrelease h with hends | ⟨reply, es', rfl, hreply, hdone⟩
  · exact hends []
  · obtain ⟨rfl, rfl⟩ := trace_done_iff.mp hdone
    exact .through (.intro hfit hreply (by simp [hanswer]) hrelease.symm)

/-- Attempts in a row keep to their stages in a row. -/
theorem follows_seq {p q : Attempt Fault Unit} {first second : List Stage}
    (h : (p >>= fun _ => q).run.Trace es standing)
    (hp : ∀ {es standing}, p.run.Trace es standing → Follows first es standing)
    (hq : ∀ {es standing}, q.run.Trace es standing → Follows second es standing) :
    Follows (first ++ second) es standing := by
  rcases Attempt.trace_seq h with ⟨hfirst, hstuck⟩ | ⟨es₁, es₂, rfl, hfirst, hsecond⟩
  · exact (hp hfirst).append_left hstuck second
  · exact (hp hfirst).append (hq hsecond)

theorem perform_follows {mount : Mount} (h : mount.perform.run.Trace es standing) :
    Follows [.mount mount] es standing := by
  have hfit := (Stage.mount mount).fit_iff
  unfold Mount.perform at h
  split at h
  · rename_i hnul
    exact follows_throw (.mount mount) (fun hfits => hfit.mp hfits hnul) h []
  · rename_i hnul
    exact follows_discard (.mount mount) (hfit.mpr hnul) rfl rfl h

theorem performAll_follows {mounts : List Mount}
    (h : (Mount.performAll mounts).run.Trace es standing) :
    Follows (mounts.map Stage.mount) es standing := by
  induction mounts generalizing es standing with
  | nil => exact follows_pure h
  | cons mount rest ih =>
    exact follows_seq h perform_follows fun hrest => follows_seq hrest follows_log ih

theorem limitProcesses_follows {most : UInt64}
    (h : (Boot.limitProcesses Fault.resourceLimit most).run.Trace es standing) :
    Follows [.limitProcesses most] es standing := by
  have hfit : (Stage.limitProcesses most).Fit := by simp [Stage.Fit, Stage.limitProcesses]
  exact follows_discard (.limitProcesses most) hfit rfl rfl h

/-- What is done with the descriptor of the device, and what comes of it as a fault of the boot. -/
def moveDevice (device : Bytes) (fd : Int) : Attempt Fault Unit :=
  ExceptT.adapt (.openFile device) (moveToInput fd)

theorem bindInput_of_nul {device : Bytes} (h : device.hasNul = true) :
    (ExceptT.adapt (.openFile device) (bindInput device) : Attempt Fault Unit) =
      throw (.openFile device .nulInData) := by
  rw [bindInput, if_pos h]
  rfl

theorem bindInput_of_not_nul {device : Bytes} (h : ¬ device.hasNul = true) :
    (ExceptT.adapt (.openFile device) (bindInput device) : Attempt Fault Unit) =
      Attempt.call (.openFile device) (.openFile device 0) >>= moveDevice device := by
  rw [bindInput, if_neg h, Attempt.adapt_bind, Attempt.adapt_call]
  rfl

theorem moveDevice_follows {device : Bytes} {fd : Int}
    (h : (moveDevice device fd).run.Trace es standing) :
    Follows (inputStages device fd) es standing := by
  unfold moveDevice moveToInput standardInput at h
  unfold inputStages
  by_cases hinput : fd = 0
  · rw [if_pos hinput] at h ⊢
    exact follows_pure h
  · rw [if_neg hinput] at h ⊢
    have hfit : (Stage.moveToInput device fd).Fit := by simp [Stage.Fit, Stage.moveToInput]
    rcases trace_ask_iff.mp h with ⟨rfl, rfl⟩ | ⟨reply, es₁, rfl, hclose⟩
    · exact .calling (.moveToInput device fd) []
    rcases trace_ask_iff.mp hclose with ⟨rfl, rfl⟩ | ⟨closed, es₂, rfl, hdone⟩
    · exact ⟨⟨[], rfl⟩, nofun, nofun, .calling (.close fd)⟩
    obtain ⟨rfl, rfl⟩ := trace_done_iff.mp hdone
    by_cases hneg : reply.value < 0
    · rw [Reply.result_of_neg hneg]
      have hbroken : (Stage.moveToInput device fd).Failed
          [(.dup2 fd 0, reply), (.close fd, closed)]
          (.openFile device (.errno reply.errno)) := .refused hfit hneg rfl
      exact .broken hbroken []
    · have hvalue : 0 ≤ reply.value := by omega
      rw [Reply.result_of_nonneg hvalue]
      have hpassed : (Stage.moveToInput device fd).Passed
          [(.dup2 fd 0, reply), (.close fd, closed)] := .intro hfit hvalue nofun rfl
      exact .through hpassed

/-- The device is opened, and what is done with it then depends on its descriptor. -/
theorem bindInput_follows {device : Bytes}
    (h : (ExceptT.adapt (.openFile device) (bindInput device) : Attempt Fault Unit).run.Trace es
      standing) :
    ∃ fd, Follows (.openInput device fd :: inputStages device fd) es standing := by
  have hfit (fd : Int) : (Stage.openInput device fd).Fit ↔ ¬ device.hasNul = true := by
    simp [Stage.Fit, Stage.openInput]
  by_cases hnul : device.hasNul = true
  · rw [bindInput_of_nul hnul] at h
    have hunfit : ¬ (Stage.openInput device 0).Fit := fun hfits => (hfit 0).mp hfits hnul
    exact ⟨0, follows_throw (.openInput device 0) hunfit h _⟩
  · rw [bindInput_of_not_nul hnul] at h
    rcases follows_call (.openInput device 0) ((hfit 0).mpr hnul) rfl h with
      hends | ⟨reply, es', rfl, hreply, hmove⟩
    · exact ⟨0, hends _⟩
    · have hopened : Follows [.openInput device reply.value]
          [answered (.openFile device 0) reply] (.returned (.ok ())) :=
        .through (.intro ((hfit _).mpr hnul) hreply (fun _ => Option.some.inj) rfl)
      exact ⟨reply.value, hopened.append (moveDevice_follows hmove)⟩

/-- The boot keeps to its plan. -/
theorem prepare_follows {config : Config} (h : (prepare config).run.Trace es standing) :
    ∃ fd, Follows (plan config fd) es standing := by
  rw [prepare, table_eq_filesystems] at h
  rcases Attempt.trace_seq h with ⟨hmounts, hstuck⟩ | ⟨es₁, es, rfl, hmounts, h⟩
  · exact ⟨0, (performAll_follows hmounts).append_left hstuck _⟩
  have hmounts := performAll_follows hmounts
  rcases Attempt.trace_seq h with ⟨hlimit, hstuck⟩ | ⟨es₂, es, rfl, hlimit, h⟩
  · exact ⟨0, hmounts.append ((limitProcesses_follows hlimit).append_left hstuck _)⟩
  have hlimit := limitProcesses_follows hlimit
  obtain ⟨fd, hinput⟩ := bindInput_follows h
  exact ⟨fd, hmounts.append (hlimit.append hinput)⟩

end Trace

/-- The boot ends, whatever the kernel answers. -/
theorem prepare_returns {σ : Type} (config : Config) (reply : σ → Call → Reply × σ) (s : σ) :
    ∃ result s', (prepare config).run.run (attended reply) s = (.returned result, s') := by
  refine returns_of_attended (fun es standing htrace => ?_) reply s
  obtain ⟨fd, hfollows⟩ := prepare_follows htrace
  exact hfollows.attended

end Boot
end GuestInit
