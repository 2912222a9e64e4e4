import Mathlib.Control.Lawful

namespace MandateLedger.Process

/-! # Programs over an interface

A program asks its environment for one atomic operation at a time and
continues with the answer.  Everything between two operations is pure.  The
same program can then be run to completion over one state (`Program.run`), or
have its operations interleaved with those of other programs.
-/

/-- A finite program: either it is done, or it is about to perform `op`. -/
inductive Program (Op : Type) (Answer : Op → Type) (α : Type) where
  | done (value : α)
  | call (op : Op) (next : Answer op → Program Op Answer α)

namespace Program

variable {Op : Type} {Answer : Op → Type} {α β γ S : Type}

def bind : Program Op Answer α → (α → Program Op Answer β) → Program Op Answer β
  | .done value, rest => rest value
  | .call op next, rest => .call op (fun answer => (next answer).bind rest)

def request (op : Op) : Program Op Answer (Answer op) :=
  .call op .done

instance : Monad (Program Op Answer) where
  pure := .done
  bind := Program.bind

@[simp] theorem pure_eq (value : α) :
    (pure value : Program Op Answer α) = .done value := rfl

@[simp] theorem done_bind (value : α) (rest : α → Program Op Answer β) :
    (Program.done value >>= rest) = rest value := rfl

@[simp] theorem call_bind (op : Op) (next : Answer op → Program Op Answer α)
    (rest : α → Program Op Answer β) :
    (Program.call op next >>= rest) = .call op (fun answer => next answer >>= rest) := rfl

theorem bind_done (program : Program Op Answer α) :
    (program >>= fun value => .done value) = program := by
  induction program with
  | done value => rfl
  | call op next ih =>
      rw [call_bind]
      congr 1
      funext answer
      exact ih answer

theorem bind_assoc (program : Program Op Answer α) (first : α → Program Op Answer β)
    (second : β → Program Op Answer γ) :
    (program >>= first) >>= second = program >>= fun value => first value >>= second := by
  induction program with
  | done value => rfl
  | call op next ih =>
      simp only [call_bind]
      congr 1
      funext answer
      exact ih answer

instance : LawfulMonad (Program Op Answer) :=
  LawfulMonad.mk' _ bind_done (fun _ _ => rfl) bind_assoc

/-- Run a program to completion, performing each operation on one state. -/
def run (step : S → (op : Op) → Answer op × S) : Program Op Answer α → S → α × S
  | .done value, state => (value, state)
  | .call op next, state => (next (step state op).1).run step (step state op).2

@[simp] theorem run_done (step : S → (op : Op) → Answer op × S) (value : α) (state : S) :
    (Program.done value : Program Op Answer α).run step state = (value, state) := rfl

@[simp] theorem run_call (step : S → (op : Op) → Answer op × S) (op : Op)
    (next : Answer op → Program Op Answer α) (state : S) :
    (Program.call op next).run step state =
      (next (step state op).1).run step (step state op).2 := rfl

theorem run_bind (step : S → (op : Op) → Answer op × S) (program : Program Op Answer α)
    (rest : α → Program Op Answer β) (state : S) :
    (program >>= rest).run step state =
      (rest (program.run step state).1).run step (program.run step state).2 := by
  induction program generalizing state with
  | done value => rfl
  | call op next ih => exact ih _ _

end Program

/-- A program that may stop with an error. -/
abbrev Fallible (Op : Type) (Answer : Op → Type) (ε : Type) := ExceptT ε (Program Op Answer)

namespace Fallible

variable {Op : Type} {Answer : Op → Type} {α β ε δ : Type}

def ask (op : Op) : Fallible Op Answer ε (Answer op) := ExceptT.lift (Program.request op)

/-- Perform an operation that may itself fail, and pass its error on. -/
def attempt (op : Op) (answered : Answer op → Except δ α) (wrap : δ → ε) :
    Fallible Op Answer ε α := ExceptT.mk do
  let answer ← Program.request op
  return (answered answer).mapError wrap

theorem run_bind (first : Fallible Op Answer ε α) (rest : α → Fallible Op Answer ε β) :
    (first >>= rest).run = first.run >>= fun result =>
      match result with
      | .ok value => (rest value).run
      | .error error => .done (.error error) := by
  rw [ExceptT.run_bind]
  congr 1
  funext result
  cases result <;> rfl

end Fallible

end MandateLedger.Process
