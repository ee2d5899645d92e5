import GuestInit.Kernel
import GuestInit.Proofs.Safety

/-! Traces of what the supervisor and its children do, and of attempts among it. -/

namespace GuestInit

namespace Kernel

/-- What a run has to do with its surroundings. -/
abbrev Event := Exchange Surroundings

def answered (c : Call) (reply : Reply) : Event := ⟨.call c, reply⟩

theorem answered_inj {c : Call} {reply reply' : Reply} (h : answered c reply = answered c reply') :
    reply = reply' := by
  cases h
  rfl

/-- The system calls among requests. -/
def calls (qs : List Request) : List Call :=
  qs.filterMap fun
    | .call c => some c
    | _ => none

@[simp] theorem calls_nil : calls [] = [] := rfl
@[simp] theorem calls_call (c : Call) (qs : List Request) :
    calls (.call c :: qs) = c :: calls qs := rfl
@[simp] theorem calls_append (qs rs : List Request) : calls (qs ++ rs) = calls qs ++ calls rs :=
  List.filterMap_append ..

end Kernel

/-- Where there is an error, it is of a certain kind. -/
def FailsAs {ε α : Type} (kind : ε → Prop) : Except ε α → Prop
  | .ok _ => True
  | .error error => kind error

theorem FailsAs.mapError {ε ε' α : Type} {kind : ε → Prop} {kind' : ε' → Prop} {f : ε → ε'}
    {result : Except ε α} (h : FailsAs kind result) (hf : ∀ error, kind error → kind' (f error)) :
    FailsAs kind' (result.mapError f) := by
  cases result with
  | ok value => trivial
  | error error => exact hf error h

/-- A call fails with an error number. -/
theorem failsAs_result {kind : IoError → Prop} (h : ∀ code, kind (.errno code)) (reply : Kernel.Reply) :
    FailsAs kind reply.result := by
  cases hresult : reply.result with
  | ok value => trivial
  | error cause =>
    obtain ⟨-, rfl⟩ := Kernel.Reply.result_eq_error hresult
    exact h reply.errno

namespace Attempt

open Kernel Program

variable {ε ε' α β : Type}

/-- An attempt that goes on after another one is still in the first one, or got through it. -/
theorem trace_seq {p q : Attempt ε Unit} {es : List Event}
    {standing : Standing Surroundings (Except ε Unit)}
    (h : (p >>= fun _ => q).run.Trace es standing) :
    (p.run.Trace es standing ∧ standing ≠ .returned (.ok ())) ∨
      ∃ es₁ es₂, es = es₁ ++ es₂ ∧ p.run.Trace es₁ (.returned (.ok ())) ∧
        q.run.Trace es₂ standing := by
  have hbind : (p >>= fun _ => q).run = p.run >>= ExceptT.bindCont fun _ => q := rfl
  rw [hbind] at h
  rcases trace_bind_iff.mp h with ⟨result, es₁, es₂, rfl, hp, hq⟩ | ⟨r, rfl, hp⟩ | ⟨rfl, hp⟩
  · cases result with
    | ok _ => exact .inr ⟨es₁, es₂, rfl, hp, hq⟩
    | error failure =>
      obtain ⟨rfl, rfl⟩ := trace_done_iff.mp hq
      exact .inl ⟨by simpa using hp, nofun⟩
  · exact .inl ⟨hp, nofun⟩
  · exact .inl ⟨hp, nofun⟩

/-- An attempt that starts with a call waits for the answer, fails with it, or goes on with its value. -/
theorem trace_call_bind {failed : IoError → ε} {c : Call} {next : Int → Attempt ε α} {es : List Event}
    {standing : Standing Surroundings (Except ε α)}
    (h : (call failed c >>= next).run.Trace es standing) :
    (es = [] ∧ standing = .pending (.call c)) ∨
      (∃ reply, reply.value < 0 ∧ es = [answered c reply] ∧
        standing = .returned (.error (failed (.errno reply.errno)))) ∨
      ∃ reply rest, 0 ≤ reply.value ∧ es = answered c reply :: rest ∧
        (next reply.value).run.Trace rest standing := by
  rw [run_call_bind] at h
  rcases trace_ask_iff.mp h with hwaits | ⟨reply, rest, rfl, hnext⟩
  · exact .inl hwaits
  · by_cases hneg : reply.value < 0
    · rw [Reply.result_of_neg hneg] at hnext
      obtain ⟨rfl, rfl⟩ := trace_done_iff.mp hnext
      exact .inr (.inl ⟨reply, hneg, rfl, rfl⟩)
    · have hvalue : 0 ≤ reply.value := by omega
      rw [Reply.result_of_nonneg hvalue] at hnext
      exact .inr (.inr ⟨reply, rest, hvalue, rfl, hnext⟩)

section Within

variable {allowed : Event → Prop} {guard : Request → Prop} {kind : ε → Prop} {kind' : ε' → Prop}

theorem within_pure (a : α) : (pure a : Attempt ε α).run.Within allowed guard (FailsAs kind) :=
  trivial

theorem within_throw {error : ε} (h : kind error) :
    (throw error : Attempt ε α).run.Within allowed guard (FailsAs kind) := h

theorem within_bind {p : Attempt ε α} {f : α → Attempt ε β}
    (hp : p.run.Within allowed guard (FailsAs kind))
    (hf : ∀ a, (f a).run.Within allowed guard (FailsAs kind)) :
    (p >>= f).run.Within allowed guard (FailsAs kind) := by
  have hbind : (p >>= f).run = p.run >>= ExceptT.bindCont f := rfl
  rw [hbind]
  refine Within.bind hp fun result hresult => ?_
  cases result with
  | ok a => exact hf a
  | error error => exact hresult

theorem within_discard {p : Attempt ε α} (hp : p.run.Within allowed guard (FailsAs kind)) :
    (discard p : Attempt ε Unit).run.Within allowed guard (FailsAs kind) :=
  within_bind hp fun _ => within_pure ()

theorem within_adapt {p : Attempt ε α} {adapted : ε → ε'}
    (hp : p.run.Within allowed guard (FailsAs kind))
    (hadapted : ∀ error, kind error → kind' (adapted error)) :
    (ExceptT.adapt adapted p : Attempt ε' α).run.Within allowed guard (FailsAs kind') := by
  have hmap : (ExceptT.adapt adapted p : Attempt ε' α).run =
      p.run >>= fun result => .done (result.mapError adapted) :=
    (bind_pure_comp (Except.mapError adapted) p.run).symm
  rw [hmap]
  refine Within.bind hp fun result hresult => ?_
  cases result with
  | ok a => trivial
  | error error => exact hadapted error hresult

theorem within_call {failed : IoError → ε} {c : Call} (hc : guard (.call c))
    (hfailed : ∀ code, kind (failed (.errno code))) :
    (call failed c).run.Within allowed guard (FailsAs kind) := by
  refine within_ask_iff.mpr ⟨hc, fun reply _ => ?_⟩
  have hresult : FailsAs (kind ∘ failed) reply.result := failsAs_result hfailed reply
  exact hresult.mapError fun _ => id

theorem within_log {record : Record} (hrecord : guard (.log record)) :
    (log record : Attempt ε Unit).run.Within allowed guard (FailsAs kind) :=
  within_ask_iff.mpr ⟨hrecord, fun _ _ => trivial⟩

end Within

end Attempt
end GuestInit
