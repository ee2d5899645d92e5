import GuestInit.Ipc.Sweep
import GuestInit.Proofs.Safety

/-! Loop rules for a sweep. What one question to the table of a class does to an invariant of the
surroundings is all that is to be shown of it; the induction over the slots, and over the
identifiers found there, is made here. A sweep that is answered returns. -/

namespace GuestInit.Ipc

open Program

variable {σ : Type} {R : Behaviour TableAccess σ} {guard : σ → Request → Prop} {s : σ}

/-- An invariant of the next index and the identifiers found so far, the latest one first. -/
theorem describeFrom_invariant {motive : Int → List Int → σ → Prop}
    (asks : ∀ {index found s}, motive index found s → guard s (.describe index))
    (finds : ∀ {index found s answer s'}, motive index found s → R s (.describe index) answer s' →
      motive (index + 1) (answer.toList ++ found) s')
    (count : Nat) {index : Int} {found : List Int} (h : motive index found s) :
    (describeFrom count index found).Safe R guard
      (fun ids s' => motive (index + count) ids.reverse s') s := by
  induction count generalizing index found s with
  | zero => simpa [describeFrom] using h
  | succ count ih =>
    have hindex : index + 1 + (count : Int) = index + ((count + 1 : Nat) : Int) := by omega
    refine ⟨asks h, fun answer s₁ step => ?_⟩
    rw [← hindex]
    cases answer with
    | none => exact ih (finds h step)
    | some id => exact ih (finds h step)

/-- An invariant of the identifiers whose objects are yet to be removed, and of the number of
objects that were. -/
theorem removeAll_invariant {ipcClass : Class} {motive : List Int → Nat → σ → Prop}
    (asks : ∀ {id rest removed s}, motive (id :: rest) removed s → guard s (.remove id))
    (removes : ∀ {id rest removed s s'}, motive (id :: rest) removed s →
      R s (.remove id) (.ok ()) s' → motive rest (removed + 1) s')
    (refused : ∀ {id rest removed s cause s'}, motive (id :: rest) removed s →
      R s (.remove id) (.error cause) s' → guard s' (.note (refusalRecord ipcClass id cause)) ∧
        ∀ s'', R s' (.note (refusalRecord ipcClass id cause)) () s'' → motive rest removed s'')
    {ids : List Int} {removed : Nat} (h : motive ids removed s) :
    (removeAll ipcClass ids removed).Safe R guard (fun total s' => motive [] total s') s := by
  induction ids generalizing removed s with
  | nil => exact h
  | cons id rest ih =>
    refine ⟨asks h, fun answer s₁ step => ?_⟩
    cases answer with
    | ok _ => exact ih (removes h step)
    | error cause =>
      obtain ⟨hguard, hnoted⟩ := refused h step
      exact ⟨hguard, fun _ s₂ noted => ih (hnoted s₂ noted)⟩

/-- A sweep is one question, a loop over the slots, and a loop over what was found there. -/
theorem sweep_eq (ipcClass : Class) : sweep ipcClass =
    .ask .maxIndex fun
      | .error cause => .done (.error (.ipcInfo ipcClass cause))
      | .ok most => describeFrom (most + 1).toNat 0 [] >>= fun ids =>
        removeAll ipcClass ids 0 >>= fun removed => .done (.ok removed) := by
  refine congrArg (Program.ask (I := TableAccess) _) (funext fun answer => ?_)
  cases answer with
  | error cause => rfl
  | ok most => exact Program.bind_bind (describeFrom (most + 1).toNat 0 []) _ _

theorem describeFrom_answerable (count : Nat) (index : Int) (found : List Int) :
    (describeFrom count index found).Answerable := by
  induction count generalizing index found with
  | zero => trivial
  | succ count ih =>
    refine ⟨⟨none⟩, fun answer => ?_⟩
    cases answer with
    | none => exact ih (index + 1) found
    | some id => exact ih (index + 1) (id :: found)

theorem removeAll_answerable (ipcClass : Class) (ids : List Int) (removed : Nat) :
    (removeAll ipcClass ids removed).Answerable := by
  induction ids generalizing removed with
  | nil => trivial
  | cons id ids ih =>
    refine ⟨⟨.ok ()⟩, fun answer => ?_⟩
    cases answer with
    | ok _ => exact ih (removed + 1)
    | error cause => exact ⟨⟨()⟩, fun _ => ih removed⟩

theorem sweep_answerable (ipcClass : Class) : (sweep ipcClass).Answerable := by
  rw [sweep_eq]
  refine ⟨⟨.ok 0⟩, fun answer => ?_⟩
  cases answer with
  | error cause => trivial
  | ok most =>
    refine (describeFrom_answerable _ _ _).bind fun ids => ?_
    exact (removeAll_answerable ipcClass ids 0).bind fun _ => trivial

end GuestInit.Ipc
