/-! Programs as trees of requests. A program ends with a value, or asks its surroundings for
something and goes on with the answer. What the surroundings are is left open: an interface says
only which requests there are and what an answer to each looks like, and a machine that answers
them may be as hostile as it likes. -/

namespace GuestInit

/-- The requests a program may make, and the type of the answer to each. -/
structure Interface where
  Request : Type
  Answer : Request → Type

inductive Program (I : Interface) (α : Type) where
  | done (value : α)
  | ask (request : I.Request) (next : I.Answer request → Program I α)
  /-- A loop that was allowed only so many rounds has used them up. -/
  | unfinished

namespace Program

variable {I J : Interface} {α β γ σ : Type}

protected def bind : Program I α → (α → Program I β) → Program I β
  | done value, f => f value
  | ask request next, f => ask request fun answer => (next answer).bind f
  | unfinished, _ => unfinished

instance : Monad (Program I) where
  pure := done
  bind := Program.bind

@[simp] theorem pure_eq (value : α) : (pure value : Program I α) = done value := rfl
@[simp] theorem done_bind (value : α) (f : α → Program I β) : (done value >>= f) = f value := rfl
@[simp] theorem ask_bind (request : I.Request) (next : I.Answer request → Program I α)
    (f : α → Program I β) : (ask request next >>= f) = ask request fun answer => next answer >>= f :=
  rfl
@[simp] theorem unfinished_bind (f : α → Program I β) :
    ((unfinished : Program I α) >>= f) = unfinished := rfl

theorem bind_done (p : Program I α) : (p >>= done) = p := by
  induction p with
  | done => rfl
  | ask request next ih => simp only [ask_bind, ih]
  | unfinished => rfl

theorem bind_bind (p : Program I α) (f : α → Program I β) (g : β → Program I γ) :
    (p >>= f >>= g) = p >>= fun a => f a >>= g := by
  induction p with
  | done => rfl
  | ask request next ih => simp only [ask_bind, ih]
  | unfinished => rfl

instance : LawfulMonad (Program I) :=
  LawfulMonad.mk' _ bind_done (fun _ _ => rfl) bind_bind

/-- One request, and its answer as the value. -/
def request (I : Interface) (q : I.Request) : Program I (I.Answer q) := ask q done

@[simp] theorem request_bind (q : I.Request) (f : I.Answer q → Program I β) :
    (request I q >>= f) = ask q f := rfl

/-- Carries every request out by a program over another interface. -/
def interpret (carry : (q : I.Request) → Program J (I.Answer q)) : Program I α → Program J α
  | done value => done value
  | ask q next => carry q >>= fun answer => (next answer).interpret carry
  | unfinished => unfinished

@[simp] theorem interpret_done (carry : (q : I.Request) → Program J (I.Answer q)) (value : α) :
    (done value).interpret carry = done value := rfl
@[simp] theorem interpret_ask (carry : (q : I.Request) → Program J (I.Answer q)) (q : I.Request)
    (next : I.Answer q → Program I α) :
    (ask q next).interpret carry = carry q >>= fun answer => (next answer).interpret carry := rfl
@[simp] theorem interpret_unfinished (carry : (q : I.Request) → Program J (I.Answer q)) :
    (unfinished : Program I α).interpret carry = unfinished := rfl

theorem interpret_bind (carry : (q : I.Request) → Program J (I.Answer q)) (p : Program I α)
    (f : α → Program I β) :
    (p >>= f).interpret carry = p.interpret carry >>= fun a => (f a).interpret carry := by
  induction p with
  | done => rfl
  | ask q next ih => simp only [ask_bind, interpret_ask, ih, bind_assoc]
  | unfinished => rfl

end Program

/-- Surroundings with a state. An answer may be missing: the request does not return. -/
structure Machine (I : Interface) (σ : Type) where
  answer : σ → (q : I.Request) → Option (I.Answer q) × σ

inductive Ending (α : Type) where
  | returned (value : α)
  /-- The last request did not return. -/
  | stopped
  | unfinished
deriving DecidableEq, Repr

/-- The value of a program that returned. -/
def Ending.value? {α : Type} : Ending α → Option α
  | returned value => some value
  | stopped | unfinished => none

namespace Program

variable {I : Interface} {α β σ : Type}

/-- Runs a program against a machine. -/
def run (machine : Machine I σ) : Program I α → σ → Ending α × σ
  | done value, state => (.returned value, state)
  | unfinished, state => (.unfinished, state)
  | ask q next, state =>
    match machine.answer state q with
    | (some answer, state) => (next answer).run machine state
    | (none, state) => (.stopped, state)

theorem run_bind (machine : Machine I σ) (p : Program I α) (f : α → Program I β) (state : σ) :
    (p >>= f).run machine state =
      match p.run machine state with
      | (.returned value, state) => (f value).run machine state
      | (.stopped, state) => (.stopped, state)
      | (.unfinished, state) => (.unfinished, state) := by
  induction p generalizing state with
  | done => rfl
  | unfinished => rfl
  | ask q next ih =>
    simp only [ask_bind, run]
    rcases machine.answer state q with ⟨_ | answer, state⟩
    · rfl
    · exact ih answer state

end Program
end GuestInit
