import GuestInit.Program

/-! Traces of programs. A trace lists the requests of a run with the answers to them, as far as the
run got, and says how it stands there. Every answer is taken into account, so what holds of all
traces of a program holds in any surroundings; a machine picks one of them. -/

namespace GuestInit

/-- A request that was answered. -/
structure Exchange (I : Interface) where
  request : I.Request
  answer : I.Answer request

/-- How a run stands after the exchanges so far. -/
inductive Standing (I : Interface) (α : Type) where
  | returned (value : α)
  /-- A request was made that is not answered, not yet or never. -/
  | pending (request : I.Request)
  | unfinished

/-- How a run stands whose value, should it return one, is put to use. -/
def Standing.map {I : Interface} {α β : Type} (f : α → β) : Standing I α → Standing I β
  | returned value => returned (f value)
  | pending request => pending request
  | unfinished => unfinished

/-- The request that is not answered, if there is one. -/
def Standing.asked {I : Interface} {α : Type} : Standing I α → List I.Request
  | pending q => [q]
  | returned _ | unfinished => []

/-- The ending of a run that stands so and does not go on. -/
def Standing.ending {I : Interface} {α : Type} : Standing I α → Ending α
  | returned value => .returned value
  | pending _ => .stopped
  | unfinished => .unfinished

/-- All requests of a run, in order. -/
def requests {I : Interface} {α : Type} (exchanges : List (Exchange I)) (standing : Standing I α) :
    List I.Request :=
  exchanges.map Exchange.request ++ standing.asked

section
variable {I : Interface} {α : Type}

@[simp] theorem Standing.asked_returned (value : α) :
    (returned value : Standing I α).asked = [] := rfl
@[simp] theorem Standing.asked_pending (q : I.Request) :
    (pending q : Standing I α).asked = [q] := rfl
@[simp] theorem Standing.asked_unfinished : (unfinished : Standing I α).asked = [] := rfl

theorem Standing.ending_eq_returned_iff {standing : Standing I α} {value : α} :
    standing.ending = .returned value ↔ standing = .returned value := by
  cases standing <;> simp [ending]

@[simp] theorem requests_nil (standing : Standing I α) :
    requests [] standing = standing.asked := rfl
@[simp] theorem requests_cons (e : Exchange I) (es : List (Exchange I)) (standing : Standing I α) :
    requests (e :: es) standing = e.request :: requests es standing := rfl
theorem requests_append (es₁ es₂ : List (Exchange I)) (standing : Standing I α) :
    requests (es₁ ++ es₂) standing = es₁.map Exchange.request ++ requests es₂ standing := by
  simp [requests]

end

namespace Program

variable {I : Interface} {α β σ : Type}

/-- The runs of a program, cut off anywhere. -/
inductive Trace : Program I α → List (Exchange I) → Standing I α → Prop
  | done (value : α) : Trace (done value) [] (.returned value)
  | unfinished : Trace unfinished [] .unfinished
  | pending (q : I.Request) (next : I.Answer q → Program I α) : Trace (ask q next) [] (.pending q)
  | ask {q : I.Request} {next : I.Answer q → Program I α} {es : List (Exchange I)}
      {standing : Standing I α} (answer : I.Answer q) (rest : Trace (next answer) es standing) :
      Trace (ask q next) (⟨q, answer⟩ :: es) standing

@[simp] theorem trace_done_iff {value : α} {es : List (Exchange I)} {standing : Standing I α} :
    Trace (Program.done value) es standing ↔ es = [] ∧ standing = .returned value := by
  constructor
  · rintro ⟨⟩
    exact ⟨rfl, rfl⟩
  · rintro ⟨rfl, rfl⟩
    exact .done value

@[simp] theorem trace_unfinished_iff {es : List (Exchange I)} {standing : Standing I α} :
    Trace (Program.unfinished : Program I α) es standing ↔ es = [] ∧ standing = .unfinished := by
  constructor
  · rintro ⟨⟩
    exact ⟨rfl, rfl⟩
  · rintro ⟨rfl, rfl⟩
    exact .unfinished

theorem trace_ask_iff {q : I.Request} {next : I.Answer q → Program I α} {es : List (Exchange I)}
    {standing : Standing I α} :
    Trace (Program.ask q next) es standing ↔
      (es = [] ∧ standing = .pending q) ∨
      ∃ answer rest, es = ⟨q, answer⟩ :: rest ∧ Trace (next answer) rest standing := by
  constructor
  · intro h
    cases h with
    | pending => exact .inl ⟨rfl, rfl⟩
    | ask answer rest => exact .inr ⟨answer, _, rfl, rest⟩
  · rintro (⟨rfl, rfl⟩ | ⟨answer, rest, rfl, htrace⟩)
    · exact .pending q next
    · exact .ask answer htrace

theorem trace_ask_returned_iff {q : I.Request} {next : I.Answer q → Program I α}
    {es : List (Exchange I)} {value : α} :
    Trace (Program.ask q next) es (.returned value) ↔
      ∃ answer rest, es = ⟨q, answer⟩ :: rest ∧ Trace (next answer) rest (.returned value) := by
  simp [trace_ask_iff]

/-- A run can be cut off at each of its requests. -/
theorem Trace.cut {p : Program I α} {es rest : List (Exchange I)} {q : I.Request}
    {answer : I.Answer q} {standing : Standing I α}
    (h : p.Trace (es ++ ⟨q, answer⟩ :: rest) standing) : p.Trace es (.pending q) := by
  induction es generalizing p with
  | nil =>
    cases h with
    | @ask _ next => exact .pending q next
  | cons e es ih =>
    cases h with
    | ask answer hrest => exact .ask answer (ih hrest)

/-- A run of a sequence got through the first program, or is still in it. -/
theorem trace_bind_iff {p : Program I α} {f : α → Program I β} {es : List (Exchange I)}
    {standing : Standing I β} :
    Trace (p >>= f) es standing ↔
      (∃ value es₁ es₂, es = es₁ ++ es₂ ∧ Trace p es₁ (.returned value) ∧
        Trace (f value) es₂ standing) ∨
      (∃ q, standing = .pending q ∧ Trace p es (.pending q)) ∨
      (standing = .unfinished ∧ Trace p es .unfinished) := by
  induction p generalizing es with
  | done value =>
    constructor
    · exact fun h => .inl ⟨value, [], es, rfl, .done value, h⟩
    · rintro (⟨a, es₁, es₂, rfl, ⟨⟩, h⟩ | ⟨q, _, ⟨⟩⟩ | ⟨_, ⟨⟩⟩)
      exact h
  | unfinished => simp [and_comm]
  | ask q next ih =>
    simp only [ask_bind, trace_ask_iff, ih]
    constructor
    · rintro (⟨rfl, rfl⟩ |
        ⟨answer, rest, rfl, ⟨value, es₁, es₂, rfl, h₁, h₂⟩ | ⟨r, rfl, h⟩ | ⟨rfl, h⟩⟩)
      · exact .inr (.inl ⟨q, rfl, .inl ⟨rfl, rfl⟩⟩)
      · exact .inl ⟨value, ⟨q, answer⟩ :: es₁, es₂, rfl, .inr ⟨answer, es₁, rfl, h₁⟩, h₂⟩
      · exact .inr (.inl ⟨r, rfl, .inr ⟨answer, rest, rfl, h⟩⟩)
      · exact .inr (.inr ⟨rfl, .inr ⟨answer, rest, rfl, h⟩⟩)
    · rintro (⟨value, es₁, es₂, rfl, ⟨_, h⟩ | ⟨answer, rest, rfl, h₁⟩, h₂⟩ |
        ⟨r, rfl, ⟨rfl, h⟩ | ⟨answer, rest, rfl, h⟩⟩ | ⟨rfl, ⟨_, h⟩ | ⟨answer, rest, rfl, h⟩⟩)
      · cases h
      · exact .inr ⟨answer, rest ++ es₂, rfl, .inl ⟨value, rest, es₂, rfl, h₁, h₂⟩⟩
      · cases h
        exact .inl ⟨rfl, rfl⟩
      · exact .inr ⟨answer, rest, rfl, .inr (.inl ⟨r, rfl, h⟩)⟩
      · cases h
      · exact .inr ⟨answer, rest, rfl, .inr (.inr ⟨rfl, h⟩)⟩

theorem trace_bind_returned_iff {p : Program I α} {f : α → Program I β} {es : List (Exchange I)}
    {value : β} :
    Trace (p >>= f) es (.returned value) ↔
      ∃ a es₁ es₂, es = es₁ ++ es₂ ∧ Trace p es₁ (.returned a) ∧
        Trace (f a) es₂ (.returned value) := by
  simp [trace_bind_iff]

theorem trace_map_iff {p : Program I α} {f : α → β} {es : List (Exchange I)}
    {standing : Standing I β} :
    Trace (p >>= fun value => .done (f value)) es standing ↔
      ∃ standing', Trace p es standing' ∧ standing = standing'.map f := by
  rw [trace_bind_iff]
  constructor
  · rintro (⟨value, es₁, es₂, rfl, hp, hdone⟩ | ⟨q, rfl, hp⟩ | ⟨rfl, hp⟩)
    · obtain ⟨rfl, rfl⟩ := trace_done_iff.mp hdone
      rw [List.append_nil]
      exact ⟨.returned value, hp, rfl⟩
    · exact ⟨.pending q, hp, rfl⟩
    · exact ⟨.unfinished, hp, rfl⟩
  · rintro ⟨standing', hp, rfl⟩
    cases standing' with
    | returned value => exact .inl ⟨value, es, [], (List.append_nil es).symm, hp, .done (f value)⟩
    | pending q => exact .inr (.inl ⟨q, rfl, hp⟩)
    | unfinished => exact .inr (.inr ⟨rfl, hp⟩)

end Program

/-- How surroundings with a state may answer. -/
abbrev Behaviour (I : Interface) (σ : Type) := σ → (q : I.Request) → I.Answer q → σ → Prop

namespace Behaviour

variable {I : Interface} {σ : Type}

/-- Exchanges that lead surroundings from one state to another. -/
inductive Path (R : Behaviour I σ) : σ → List (Exchange I) → σ → Prop
  | nil (s : σ) : Path R s [] s
  | cons {s s₁ s₂ : σ} {q : I.Request} {answer : I.Answer q} {es : List (Exchange I)}
      (step : R s q answer s₁) (rest : Path R s₁ es s₂) : Path R s (⟨q, answer⟩ :: es) s₂

@[simp] theorem path_nil_iff {R : Behaviour I σ} {s s' : σ} : R.Path s [] s' ↔ s' = s := by
  constructor
  · rintro ⟨⟩
    rfl
  · rintro rfl
    exact .nil s'

@[simp] theorem path_cons_iff {R : Behaviour I σ} {s s' : σ} {e : Exchange I}
    {es : List (Exchange I)} :
    R.Path s (e :: es) s' ↔ ∃ s₁, R s e.request e.answer s₁ ∧ R.Path s₁ es s' := by
  constructor
  · rintro (_ | ⟨step, rest⟩)
    exact ⟨_, step, rest⟩
  · rintro ⟨s₁, step, rest⟩
    exact .cons step rest

/-- Surroundings that answer anything, and keep all exchanges. -/
def recording (I : Interface) : Behaviour I (List (Exchange I)) :=
  fun kept q answer kept' => kept' = kept ++ [⟨q, answer⟩]

@[simp] theorem path_recording_iff {kept kept' es : List (Exchange I)} :
    (recording I).Path kept es kept' ↔ kept' = kept ++ es := by
  induction es generalizing kept with
  | nil => simp
  | cons e es ih => simp [ih, recording]

/-- A program may return a value, and leave its surroundings in a state. -/
def Returns {α : Type} (R : Behaviour I σ) (p : Program I α) (s : σ) (value : α) (s' : σ) : Prop :=
  ∃ es, p.Trace es (.returned value) ∧ R.Path s es s'

end Behaviour

namespace Machine

variable {I : Interface} {σ : Type}

def behaviour (machine : Machine I σ) : Behaviour I σ :=
  fun s q answer s' => machine.answer s q = (some answer, s')

/-- A machine that answers every request. -/
def always (answer : σ → (q : I.Request) → I.Answer q × σ) : Machine I σ :=
  ⟨fun s q => (some (answer s q).1, (answer s q).2)⟩

end Machine

namespace Program

variable {I J : Interface} {α β σ : Type}

/-- The exchanges of a run against a machine. -/
def exchanges (machine : Machine I σ) : Program I α → σ → List (Exchange I)
  | done _, _ | unfinished, _ => []
  | ask q next, s =>
    match machine.answer s q with
    | (some answer, s) => ⟨q, answer⟩ :: (next answer).exchanges machine s
    | (none, _) => []

/-- How a run against a machine stands at its end. -/
def standing (machine : Machine I σ) : Program I α → σ → Standing I α
  | done value, _ => .returned value
  | unfinished, _ => .unfinished
  | ask q next, s =>
    match machine.answer s q with
    | (some answer, s) => (next answer).standing machine s
    | (none, _) => .pending q

/-- A run against a machine, however it ends, is one of the traces of the program. -/
theorem trace_exchanges (machine : Machine I σ) (p : Program I α) (s : σ) :
    p.Trace (p.exchanges machine s) (p.standing machine s) ∧
      (p.run machine s).1 = (p.standing machine s).ending := by
  induction p generalizing s with
  | done value => exact ⟨.done value, rfl⟩
  | unfinished => exact ⟨.unfinished, rfl⟩
  | ask q next ih =>
    simp only [exchanges, standing, run]
    rcases machine.answer s q with ⟨_ | answer, s₁⟩
    · exact ⟨.pending q next, rfl⟩
    · exact ⟨.ask answer (ih answer s₁).1, (ih answer s₁).2⟩

/-- A machine that puts what each request makes in front of a history ends up with what all requests
of the run have made. -/
theorem run_history {γ : Type} (machine : Machine I σ) (history : σ → List γ)
    {made : I.Request → List γ}
    (h : ∀ s q, history (machine.answer s q).2 = (made q).reverse ++ history s)
    (p : Program I α) (s : σ) :
    history (p.run machine s).2 =
      ((requests (p.exchanges machine s) (p.standing machine s)).flatMap made).reverse ++
        history s := by
  induction p generalizing s with
  | done value => rfl
  | unfinished => rfl
  | ask q next ih =>
    have hstep := h s q
    simp only [exchanges, standing, run]
    generalize machine.answer s q = answered at hstep
    obtain ⟨_ | answer, s₁⟩ := answered
    · simpa [requests] using hstep
    · simp only at hstep
      simp [ih answer s₁, hstep]

/-- What a program returns against a machine, it returns at the end of one of its traces. -/
theorem trace_of_run {machine : Machine I σ} {p : Program I α} {s s' : σ} {value : α}
    (h : p.run machine s = (.returned value, s')) :
    p.Trace (p.exchanges machine s) (.returned value) ∧
      machine.behaviour.Path s (p.exchanges machine s) s' := by
  induction p generalizing s with
  | done a =>
    simp only [run, Prod.mk.injEq, Ending.returned.injEq] at h
    simp [exchanges, h]
  | unfinished => simp [run] at h
  | ask q next ih =>
    rcases hanswer : machine.answer s q with ⟨_ | answer, s₁⟩
    · simp [run, hanswer] at h
    · simp only [run, hanswer] at h
      have hrest := ih answer h
      simp only [exchanges, hanswer]
      exact ⟨.ask answer hrest.1, .cons hanswer hrest.2⟩

/-- No loop of the program is cut off. -/
def Finishes : Program I α → Prop
  | done _ => True
  | unfinished => False
  | ask _ next => ∀ answer, (next answer).Finishes

@[simp] theorem finishes_done (value : α) : (done value : Program I α).Finishes := trivial
@[simp] theorem finishes_ask_iff (q : I.Request) (next : I.Answer q → Program I α) :
    (ask q next).Finishes ↔ ∀ answer, (next answer).Finishes := Iff.rfl

theorem Finishes.bind {p : Program I α} {f : α → Program I β} (hp : p.Finishes)
    (hf : ∀ a, (f a).Finishes) : (p >>= f).Finishes := by
  induction p with
  | done a => exact hf a
  | unfinished => exact hp.elim
  | ask q next ih => exact fun answer => ih answer (hp answer)

/-- Where every request is answered, a program whose loops are not cut off returns. -/
theorem Finishes.returns_of_answers {machine : Machine I σ} {p : Program I α} (hp : p.Finishes)
    (hanswers : ∀ s q, ∃ answer s', machine.answer s q = (some answer, s')) (s : σ) :
    ∃ value s', p.run machine s = (.returned value, s') := by
  induction p generalizing s with
  | done a => exact ⟨a, s, rfl⟩
  | unfinished => exact hp.elim
  | ask q next ih =>
    obtain ⟨answer, s₁, hanswer⟩ := hanswers s q
    simp only [run, hanswer]
    exact ih answer (hp answer) s₁

theorem Finishes.returns {p : Program I α} (hp : p.Finishes)
    (answer : σ → (q : I.Request) → I.Answer q × σ) (s : σ) :
    ∃ value s', p.run (.always answer) s = (.returned value, s') :=
  hp.returns_of_answers (fun _ _ => ⟨_, _, rfl⟩) s

/-- Only a loop can be cut off. -/
theorem finishes_of_trace {p : Program I α} (h : ∀ es, ¬ p.Trace es .unfinished) : p.Finishes := by
  induction p with
  | done a => trivial
  | unfinished => exact h [] .unfinished
  | ask q next ih => exact fun answer => ih answer fun es htrace => h _ (.ask answer htrace)

/-- Every request can be answered, and no loop is cut off. -/
def Answerable : Program I α → Prop
  | done _ => True
  | unfinished => False
  | ask q next => Nonempty (I.Answer q) ∧ ∀ answer, (next answer).Answerable

theorem Answerable.bind {p : Program I α} {f : α → Program I β} (hp : p.Answerable)
    (hf : ∀ a, (f a).Answerable) : (p >>= f).Answerable := by
  induction p with
  | done a => exact hf a
  | unfinished => exact hp.elim
  | ask q next ih => exact ⟨hp.1, fun answer => ih answer (hp.2 answer)⟩

theorem Answerable.interpret {p : Program J α} {carry : (q : J.Request) → Program I (J.Answer q)}
    (hp : p.Answerable) (hcarry : ∀ q, (carry q).Answerable) : (p.interpret carry).Answerable := by
  induction p with
  | done a => trivial
  | unfinished => exact hp.elim
  | ask q next ih => exact (hcarry q).bind fun answer => ih answer (hp.2 answer)

theorem Answerable.finishes {p : Program I α} (hp : p.Answerable) : p.Finishes := by
  induction p with
  | done a => trivial
  | unfinished => exact hp.elim
  | ask q next ih => exact fun answer => ih answer (hp.2 answer)

theorem Answerable.returns {p : Program I α} (hp : p.Answerable) :
    ∃ es value, p.Trace es (.returned value) := by
  induction p with
  | done a => exact ⟨[], a, .done a⟩
  | unfinished => exact hp.elim
  | ask q next ih =>
    obtain ⟨⟨answer⟩, hnext⟩ := hp
    obtain ⟨es, value, htrace⟩ := ih answer (hnext answer)
    exact ⟨⟨q, answer⟩ :: es, value, .ask answer htrace⟩

/-- However far a run got, it may still return. -/
theorem Answerable.completes {p : Program I α} (hp : p.Answerable) {es : List (Exchange I)}
    {q : I.Request} (h : p.Trace es (.pending q)) :
    ∃ answer rest value, p.Trace (es ++ ⟨q, answer⟩ :: rest) (.returned value) := by
  induction p generalizing es with
  | done a => cases h
  | unfinished => cases h
  | ask r next ih =>
    obtain ⟨⟨answer⟩, hnext⟩ := hp
    rcases trace_ask_iff.mp h with ⟨rfl, hpending⟩ | ⟨first, rest, rfl, htrace⟩
    · obtain rfl := Standing.pending.inj hpending
      obtain ⟨es, value, hreturned⟩ := (hnext answer).returns
      exact ⟨answer, es, value, .ask answer hreturned⟩
    · obtain ⟨last, es, value, hreturned⟩ := ih first (hnext first) htrace
      exact ⟨last, es, value, .ask first hreturned⟩

theorem Answerable.not_cut {p : Program I α} (hp : p.Answerable) {es : List (Exchange I)} :
    ¬ p.Trace es .unfinished := by
  induction p generalizing es with
  | done a => nofun
  | unfinished => exact hp.elim
  | ask q next ih =>
    intro h
    rcases trace_ask_iff.mp h with ⟨-, hpending⟩ | ⟨answer, rest, -, htrace⟩
    · cases hpending
    · exact ih answer (hp.2 answer) htrace

end Program
end GuestInit
