/-!
# Runs

Everything that is used by one call after the other is a step function `σ → κ → α × σ`: it answers a
call in a state and says what the state is afterwards. This module says what a whole list of calls
does, and packages the inductions over it once:

* `after_invariant`: what every step keeps, every run keeps;
* `after_of_after?`: a run whose steps need not come through is, if it does, the run of the steps;
* `answers_eq_of_alike`: two states that no single call tells apart are told apart by no run.
-/

namespace Arcade.Run

variable {σ κ α : Type} {step : σ → κ → α × σ}

/-- The state after a run of calls. -/
def after (step : σ → κ → α × σ) (s : σ) (calls : List κ) : σ :=
  calls.foldl (fun s c => (step s c).2) s

/-- The answers to a run of calls. -/
def answers (step : σ → κ → α × σ) : σ → List κ → List α
  | _, [] => []
  | s, c :: rest => (step s c).1 :: answers step (step s c).2 rest

@[simp] theorem after_nil (s : σ) : after step s [] = s := rfl

@[simp] theorem after_cons (s : σ) (c : κ) (calls : List κ) :
    after step s (c :: calls) = after step (step s c).2 calls := rfl

theorem after_append (s : σ) (first second : List κ) :
    after step s (first ++ second) = after step (after step s first) second :=
  List.foldl_append

@[simp] theorem answers_nil (s : σ) : answers step s [] = [] := rfl

@[simp] theorem answers_cons (s : σ) (c : κ) (calls : List κ) :
    answers step s (c :: calls) = (step s c).1 :: answers step (step s c).2 calls := rfl

theorem answers_append (s : σ) (first second : List κ) :
    answers step s (first ++ second)
      = answers step s first ++ answers step (after step s first) second := by
  induction first generalizing s with
  | nil => rfl
  | cons c rest ih => rw [List.cons_append, answers_cons, ih, answers_cons, after_cons, List.cons_append]

/-- What every step with an allowed call keeps, every run of allowed calls keeps. -/
theorem after_invariant (Inv : σ → Prop) (Allowed : κ → Prop)
    (hstep : ∀ s c, Allowed c → Inv s → Inv (step s c).2) {calls : List κ}
    (hall : ∀ c ∈ calls, Allowed c) {s : σ} (hs : Inv s) : Inv (after step s calls) := by
  induction calls generalizing s with
  | nil => exact hs
  | cons c rest ih =>
      have hc : Allowed c := hall c List.mem_cons_self
      exact ih (fun d hd => hall d (List.mem_cons_of_mem c hd)) (hstep s c hc hs)

/-- The state after a run of calls each of which may have no answer. -/
def after? (step? : σ → κ → Option (α × σ)) (s : σ) : List κ → Option σ
  | [] => some s
  | c :: rest => (step? s c).bind fun r => after? step? r.2 rest

/-- If what comes through is answered by the step function, a run that comes through is its run. -/
theorem after_of_after? {step? : σ → κ → Option (α × σ)}
    (hstep : ∀ s c r, step? s c = some r → step s c = r) {calls : List κ} {s s' : σ}
    (h : after? step? s calls = some s') : after step s calls = s' := by
  induction calls generalizing s with
  | nil => exact Option.some.inj h
  | cons c rest ih =>
      obtain ⟨r, hr, hrest⟩ := Option.bind_eq_some_iff.mp h
      rw [after_cons, hstep s c r hr]
      exact ih hrest

/-- A run that comes through has come through its first calls. -/
theorem after?_append (step? : σ → κ → Option (α × σ)) (s : σ) (first second : List κ) :
    after? step? s (first ++ second) = (after? step? s first).bind fun s' => after? step? s' second := by
  induction first generalizing s with
  | nil => rfl
  | cons c rest ih =>
      rw [List.cons_append, after?, after?, Option.bind_assoc]
      exact Option.bind_congr fun r _ => ih r.2

/-- If related states answer every allowed call alike and stay related, they answer every run of
allowed calls alike. -/
theorem answers_eq_of_alike (Alike : σ → σ → Prop) (Allowed : κ → Prop)
    (hstep : ∀ s t c, Allowed c → Alike s t →
      (step s c).1 = (step t c).1 ∧ Alike (step s c).2 (step t c).2)
    {calls : List κ} (hall : ∀ c ∈ calls, Allowed c) {s t : σ} (h : Alike s t) :
    answers step s calls = answers step t calls := by
  induction calls generalizing s t with
  | nil => rfl
  | cons c rest ih =>
      obtain ⟨hanswer, hnext⟩ := hstep s t c (hall c List.mem_cons_self) h
      rw [answers_cons, answers_cons, hanswer,
        ih (fun d hd => hall d (List.mem_cons_of_mem c hd)) hnext]

end Arcade.Run
