import GuestInit.Proofs.HostileGuest
import GuestInit.Proofs.Relaunch

/-! Isolation between commands. A launcher may leave the guest in any state whatsoever: each command
but the first one still finds a clean guest, because the loop never skips a cleanup and no cleanup
succeeds in a guest that is not clean. -/

namespace GuestInit

open ControlLoop Program

namespace GuestKernel

variable {σ : Type}

/-- What a launcher may do to the guest, the commands it runs and all their descendants included. -/
abbrev Launcher (σ : Type) := σ → Command → Option Int → Except Fault ExitStatus → σ → Prop

/-- The surroundings of the control loop on a kernel, with the real cleanup. -/
def collaboration (K : GuestKernel σ) (rounds : Nat) (launcher : Launcher σ) :
    Behaviour Collaborators σ
  | s, .note record, answer, s' => K.respond s (.log record) answer s'
  | s, .launch command script, answer, s' => launcher s command script answer s'
  | s, .reap, answer, s' => K.respond.Returns (Cleanup.reap rounds) s answer s'

theorem collaboration_restores (K : GuestKernel σ) (rounds : Nat) (launcher : Launcher σ) :
    Restores (K.collaboration rounds launcher) K.Clean where
  reap reaped := (reap_safe rounds).returns reaped rfl
  note clean noted := clean.log noted

/-- Whatever commands do to the guest, the control loop with the real cleanup launches each command
but the first one in a clean guest, and leaves a clean guest behind if it returns without a fault
after one command at least. -/
theorem run_isolates (K : GuestKernel σ) (rounds : Nat) (launcher : Launcher σ) (script : Script)
    (s s' : σ) (es : List Event) (standing : Standing Collaborators Outcome)
    (htrace : (run script).Trace es standing)
    (hpath : (K.collaboration rounds launcher).Path s es s') :
    (∀ command descriptor, standing = .pending (.launch command descriptor) →
      (∃ e ∈ es, e.request.isLaunch = true) → K.Clean s') ∧
    (∀ steps rest, standing = .returned (.ok steps, rest) → 0 < steps → K.Clean s') :=
  run_restores (K.collaboration_restores rounds launcher) htrace hpath

/-- The second of two commands is launched in a clean guest, though the first one littered it. -/
theorem run_isolates_littered :
    let script : Script := .ofSource (.ofBytes (Bytes.ofString "a\nb\n"))
    let second : Command := ⟨2, .master, Bytes.ofString "b"⟩
    let litter : Launcher HostileGuest := fun _ _ _ answer after =>
      answer = .ok (.code 0) ∧ after = .littered
    ∃ es, (run script).Trace es (.pending (.launch second none)) ∧
      (HostileGuest.kernel.collaboration 2 litter).Path .vacant es .swept ∧
      HostileGuest.kernel.Clean .swept := by
  intro script second litter
  let first : Command := ⟨1, .master, Bytes.ofString "a"⟩
  let es : List Event := [announced first, launched first none (.ok (.code 0)),
    reaped (.ok ()), announced second]
  have htrace : (run script).Trace es (.pending (.launch second none)) :=
    run_second_launch rfl rfl rfl
  have hpath : (HostileGuest.kernel.collaboration 2 litter).Path .vacant es .swept := by
    refine .cons ⟨_, .refl _, rfl⟩ ?_
    refine .cons ⟨rfl, rfl⟩ ?_
    refine .cons HostileGuest.littered_reap ?_
    exact .cons ⟨_, .refl _, rfl⟩ (.nil _)
  have hall := run_isolates HostileGuest.kernel 2 litter script .vacant .swept es _ htrace hpath
  exact ⟨es, htrace, hpath, hall.1 second none rfl ⟨_, .tail _ (.head _), rfl⟩⟩

end GuestKernel
end GuestInit
