import GuestInit.Proofs.Trace

/-! Safety of programs: what every run of a program requests, and what it returns, in surroundings
that behave in a given way. It is computed along the tree, so it is proved one part of a program at
a time; `safe_iff` reads it back as a statement about traces. -/

namespace GuestInit.Program

variable {I J : Interface} {α β σ : Type}

/-- From a state on, each request meets `guard` in the state it is made in, and what is returned
meets `post`. Nothing is said of a run that does not return. -/
def Safe (R : Behaviour I σ) (guard : σ → I.Request → Prop) (post : α → σ → Prop) :
    Program I α → σ → Prop
  | done value, s => post value s
  | unfinished, _ => True
  | ask q next, s =>
    guard s q ∧ ∀ answer s', R s q answer s' → (next answer).Safe R guard post s'

/-- Whatever is requested. -/
abbrev anything : σ → I.Request → Prop := fun _ _ => True

section
variable {R : Behaviour I σ} {guard guard' : σ → I.Request → Prop} {post post' : α → σ → Prop}
  {s : σ}

@[simp] theorem safe_done_iff {value : α} :
    (done value : Program I α).Safe R guard post s ↔ post value s := Iff.rfl

@[simp] theorem safe_unfinished : (unfinished : Program I α).Safe R guard post s := trivial

theorem safe_ask_iff {q : I.Request} {next : I.Answer q → Program I α} :
    (ask q next).Safe R guard post s ↔
      guard s q ∧ ∀ answer s', R s q answer s' → (next answer).Safe R guard post s' := Iff.rfl

theorem Safe.mono {p : Program I α} (h : p.Safe R guard post s)
    (hpost : ∀ value s', post value s' → post' value s') : p.Safe R guard post' s := by
  induction p generalizing s with
  | done value => exact hpost value s h
  | unfinished => trivial
  | ask q next ih => exact ⟨h.1, fun answer s' step => ih answer (h.2 answer s' step)⟩

theorem Safe.mono_guard {p : Program I α} (h : p.Safe R guard post s)
    (hguard : ∀ s q, guard s q → guard' s q) : p.Safe R guard' post s := by
  induction p generalizing s with
  | done value => exact h
  | unfinished => trivial
  | ask q next ih =>
    exact ⟨hguard s q h.1, fun answer s' step => ih answer (h.2 answer s' step)⟩

theorem safe_bind_iff {p : Program I α} {f : α → Program I β} {post : β → σ → Prop} :
    (p >>= f).Safe R guard post s ↔
      p.Safe R guard (fun value s' => (f value).Safe R guard post s') s := by
  induction p generalizing s with
  | done value => exact Iff.rfl
  | unfinished => exact Iff.rfl
  | ask q next ih => simp only [ask_bind, safe_ask_iff, ih]

/-- A sequence is safe if its second part is, from wherever the first one gets to. -/
theorem Safe.bind {p : Program I α} {f : α → Program I β} {mid : α → σ → Prop}
    {post : β → σ → Prop} (hp : p.Safe R guard mid s)
    (hf : ∀ value s', mid value s' → (f value).Safe R guard post s') :
    (p >>= f).Safe R guard post s :=
  safe_bind_iff.mpr (hp.mono hf)

theorem safe_request {q : I.Request} {post : I.Answer q → σ → Prop} (hguard : guard s q)
    (hpost : ∀ answer s', R s q answer s' → post answer s') :
    (request I q).Safe R guard post s := ⟨hguard, hpost⟩

/-- A program that makes requests of its own for those of another one is safe, if the other one is
in surroundings that answer whatever the carrying out may return. -/
theorem Safe.interpret {R' : Behaviour J σ} {p : Program J α}
    {carry : (q : J.Request) → Program I (J.Answer q)}
    (h : p.Safe R' (fun s q => (carry q).Safe R guard (R' s q) s) post s) :
    (p.interpret carry).Safe R guard post s := by
  induction p generalizing s with
  | done value => exact h
  | unfinished => trivial
  | ask q next ih =>
    rw [interpret_ask]
    exact h.1.bind fun answer s' step => ih answer (h.2 answer s' step)

/-- Safety is a statement about all traces. -/
theorem safe_iff {p : Program I α} :
    p.Safe R guard post s ↔ ∀ es standing s', p.Trace es standing → R.Path s es s' →
      (∀ q, standing = .pending q → guard s' q) ∧
        ∀ value, standing = .returned value → post value s' := by
  constructor
  · intro h es standing s' htrace hpath
    induction htrace generalizing s with
    | done value =>
      obtain rfl := Behaviour.path_nil_iff.mp hpath
      exact ⟨nofun, fun _ heq => by cases heq; exact h⟩
    | unfinished => exact ⟨nofun, nofun⟩
    | pending q next =>
      obtain rfl := Behaviour.path_nil_iff.mp hpath
      exact ⟨fun _ heq => by cases heq; exact h.1, nofun⟩
    | ask answer _ ih =>
      obtain ⟨s₁, step, hrest⟩ := Behaviour.path_cons_iff.mp hpath
      exact ih (h.2 answer s₁ step) hrest
  · intro h
    induction p generalizing s with
    | done value => exact (h [] _ s (.done value) (.nil s)).2 value rfl
    | unfinished => trivial
    | ask q next ih =>
      refine ⟨(h [] _ s (.pending q next) (.nil s)).1 q rfl, fun answer s' step => ih answer ?_⟩
      intro es standing s'' htrace hpath
      exact h _ standing s'' (.ask answer htrace) (.cons step hpath)

theorem Safe.returns {p : Program I α} (h : p.Safe R guard post s) {value : α} {s' : σ}
    (hreturns : R.Returns p s value s') : post value s' := by
  obtain ⟨es, htrace, hpath⟩ := hreturns
  exact (safe_iff.mp h es _ s' htrace hpath).2 value rfl

/-- Exchanges that are kept stay where they are. -/
theorem Safe.recording_grows {p : Program I α} {guard : List (Exchange I) → I.Request → Prop}
    {post : α → List (Exchange I) → Prop} {kept : List (Exchange I)}
    (h : p.Safe (Behaviour.recording I) guard post kept) :
    p.Safe (Behaviour.recording I) guard (fun value kept' => post value kept' ∧ kept <+: kept')
      kept := by
  refine safe_iff.mpr fun es standing kept' htrace hpath => ?_
  have hsafe := safe_iff.mp h es standing kept' htrace hpath
  obtain rfl : kept' = kept ++ es := Behaviour.path_recording_iff.mp hpath
  exact ⟨hsafe.1, fun value hvalue => ⟨hsafe.2 value hvalue, List.prefix_append kept es⟩⟩

/-- Where all exchanges are kept, what holds of those kept at the end holds of the whole trace. -/
theorem Safe.recorded {p : Program I α} {guard : List (Exchange I) → I.Request → Prop}
    {post : α → List (Exchange I) → Prop} (h : p.Safe (Behaviour.recording I) guard post [])
    {es : List (Exchange I)} {value : α} (htrace : p.Trace es (.returned value)) : post value es :=
  h.returns ⟨es, htrace, Behaviour.path_recording_iff.mpr rfl⟩

end

/-- Surroundings without a state, in which some answers do not occur. -/
def answering (allowed : Exchange I → Prop) : Behaviour I Unit :=
  fun _ q answer _ => allowed ⟨q, answer⟩

@[simp] theorem path_answering_iff {allowed : Exchange I → Prop} {es : List (Exchange I)}
    {s s' : Unit} : (answering allowed).Path s es s' ↔ ∀ e ∈ es, allowed e := by
  induction es generalizing s with
  | nil => simp
  | cons e es ih => simp [ih, answering]

/-- All requests of a program meet `guard` and what it returns meets `post`, unless an answer occurs
that is not allowed. -/
def Within (allowed : Exchange I → Prop) (guard : I.Request → Prop) (post : α → Prop)
    (p : Program I α) : Prop :=
  p.Safe (answering allowed) (fun _ => guard) (fun value _ => post value) ()

section
variable {allowed allowed' : Exchange I → Prop} {guard guard' : I.Request → Prop}
  {post post' : α → Prop}

@[simp] theorem within_done_iff {value : α} :
    (done value : Program I α).Within allowed guard post ↔ post value := Iff.rfl

@[simp] theorem within_unfinished : (unfinished : Program I α).Within allowed guard post := trivial

@[simp] theorem within_ask_iff {q : I.Request} {next : I.Answer q → Program I α} :
    (ask q next).Within allowed guard post ↔
      guard q ∧ ∀ answer, allowed ⟨q, answer⟩ → (next answer).Within allowed guard post :=
  ⟨fun h => ⟨h.1, fun answer => h.2 answer ()⟩, fun h => ⟨h.1, fun answer _ => h.2 answer⟩⟩

theorem Within.mono {p : Program I α} (h : p.Within allowed guard post)
    (hpost : ∀ value, post value → post' value) : p.Within allowed guard post' :=
  Safe.mono h fun value _ => hpost value

/-- With fewer answers allowed, there is less to request. -/
theorem Within.relax {p : Program I α} (h : p.Within allowed guard post)
    (hallowed : ∀ e, allowed' e → allowed e) (hguard : ∀ q, guard q → guard' q) :
    p.Within allowed' guard' post := by
  induction p with
  | done value => exact h
  | unfinished => trivial
  | ask q next ih =>
    obtain ⟨hq, hnext⟩ := within_ask_iff.mp h
    exact within_ask_iff.mpr
      ⟨hguard q hq, fun answer hanswer => ih answer (hnext answer (hallowed _ hanswer))⟩

theorem Within.bind {p : Program I α} {f : α → Program I β} {post : β → Prop} {mid : α → Prop}
    (hp : p.Within allowed guard mid) (hf : ∀ a, mid a → (f a).Within allowed guard post) :
    (p >>= f).Within allowed guard post := Safe.bind hp fun a _ => hf a

/-- What carries out requests of a certain kind is all that a program needs that makes no others, if
it is prepared for what the carrying out may return. -/
theorem Within.interpret {allowed' : Exchange J → Prop} {kind : J.Request → Prop} {p : Program J α}
    {carry : (q : J.Request) → Program I (J.Answer q)} (hp : p.Within allowed' kind post)
    (hcarry : ∀ q, kind q → (carry q).Within allowed guard fun answer => allowed' ⟨q, answer⟩) :
    (p.interpret carry).Within allowed guard post := by
  have hcarried : p.Safe (answering allowed')
      (fun s q => (carry q).Safe (answering allowed) (fun _ => guard) (answering allowed' s q) s)
      (fun value _ => post value) () := Safe.mono_guard hp fun _ => hcarry
  exact Safe.interpret hcarried

/-- A program that makes requests of a certain kind only preserves what each of them preserves. -/
theorem Within.preserves {kind : I.Request → Prop} {p : Program I α} {R : Behaviour I σ}
    {guard : σ → I.Request → Prop} {inv : σ → Prop} {s : σ} (hp : p.Within (fun _ => True) kind post)
    (hguard : ∀ s q, kind q → inv s → guard s q)
    (hstep : ∀ s q answer s', kind q → inv s → R s q answer s' → inv s') (hs : inv s) :
    p.Safe R guard (fun value s' => post value ∧ inv s') s := by
  induction p generalizing s with
  | done value => exact ⟨hp, hs⟩
  | unfinished => trivial
  | ask q next ih =>
    obtain ⟨hq, hnext⟩ := within_ask_iff.mp hp
    exact ⟨hguard s q hq hs, fun answer s' step =>
      ih answer (hnext answer trivial) (hstep s q answer s' hq hs step)⟩

/-- What a run returns. -/
theorem Within.returned {p : Program I α} (h : p.Within allowed guard post)
    {es : List (Exchange I)} {value : α} (htrace : p.Trace es (.returned value))
    (hes : ∀ e ∈ es, allowed e) : post value :=
  Safe.returns h ⟨es, htrace, (@path_answering_iff _ _ _ () ()).mpr hes⟩

/-- What a run requests, its last request included. -/
theorem Within.requests {p : Program I α} (h : p.Within allowed guard post)
    {es : List (Exchange I)} {standing : Standing I α} (htrace : p.Trace es standing)
    (hes : ∀ e ∈ es, allowed e) : ∀ q ∈ requests es standing, guard q := by
  induction htrace with
  | done value => simp
  | unfinished => simp
  | pending q next => simpa using (within_ask_iff.mp h).1
  | ask answer _ ih =>
    simp only [List.forall_mem_cons] at hes
    simp only [requests_cons, List.forall_mem_cons]
    obtain ⟨hguard, hrest⟩ := within_ask_iff.mp h
    exact ⟨hguard, ih (hrest answer hes.1) hes.2⟩

end
end GuestInit.Program
