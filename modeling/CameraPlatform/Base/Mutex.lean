import CameraPlatform.Base.Simulation
import Mathlib.Logic.Function.Basic

/-!
# Threads that share a value under a mutex

A call takes the mutex, works on the guarded value step by step, and gives the mutex back. A step is given
an input from outside and logs what it does. Each thread makes its calls in their order; a schedule says which
thread moves next, and a thread that waits for the mutex does not move.
-/

namespace Mutex
open History Simulation

variable {S C L I A : Type}

/-- What the calls do while they have the mutex. A step after which there is no point to go on from gives it
back. -/
structure Body (S C L I A : Type) where
  start : C → L
  step : S → L → I → S × Option L × List A

structure World (S C L A : Type) where
  guarded : S
  /-- The calls that each thread still has to make. -/
  calls : Nat → List C
  /-- The thread that has the mutex, and the point it is at. -/
  holder : Option (Nat × L) := none
  /-- The calls that were let in, each with its thread. -/
  order : List (Nat × C) := []
  log : List A := []

/-- A thread moves, if it can. -/
def Body.move (body : Body S C L I A) (w : World S C L A) (turn : Nat × I) : World S C L A :=
  match w.holder with
  | none =>
    match w.calls turn.1 with
    | [] => w
    | c :: cs =>
      { w with
        calls := Function.update w.calls turn.1 cs
        holder := some (turn.1, body.start c)
        order := w.order ++ [(turn.1, c)] }
  | some (t, l) =>
    if turn.1 = t then
      let (guarded, next, acts) := body.step w.guarded l turn.2
      { w with guarded, holder := next.map fun l => (t, l), log := w.log ++ acts }
    else w

/-- `Free` holds while no thread has the mutex, `At` at the point of the thread that has it. -/
def World.Holds (Free : List (Nat × C) → S → List A → Prop) (At : List (Nat × C) → L → S → List A → Prop)
    (w : World S C L A) : Prop :=
  match w.holder with
  | none => Free w.order w.guarded w.log
  | some (_, l) => At w.order l w.guarded w.log

section
variable {body : Body S C L I A}

/-- What one move can be. -/
theorem move_cases (body : Body S C L I A) (w : World S C L A) (turn : Nat × I) :
    body.move w turn = w ∨
    (∃ c cs, w.holder = none ∧ w.calls turn.1 = c :: cs ∧
      body.move w turn = { w with
        calls := Function.update w.calls turn.1 cs
        holder := some (turn.1, body.start c)
        order := w.order ++ [(turn.1, c)] }) ∨
    ∃ l, w.holder = some (turn.1, l) ∧
      body.move w turn = { w with
        guarded := (body.step w.guarded l turn.2).1
        holder := (body.step w.guarded l turn.2).2.1.map fun l => (turn.1, l)
        log := w.log ++ (body.step w.guarded l turn.2).2.2 } := by
  unfold Body.move
  cases hholder : w.holder with
  | none =>
    cases hcalls : w.calls turn.1 with
    | nil => exact .inl rfl
    | cons c cs => exact .inr (.inl ⟨c, cs, rfl, rfl, rfl⟩)
  | some holder =>
    obtain ⟨t, l⟩ := holder
    by_cases ht : turn.1 = t
    · subst ht
      exact .inr (.inr ⟨l, rfl, if_pos rfl⟩)
    · exact .inl (if_neg ht)

/-- The calls that were let in and those that are to come are the calls of the thread, in its order. -/
theorem order_calls (body : Body S C L I A) (w : World S C L A) (turns : List (Nat × I)) (t : Nat)
    (hw : w.order = []) :
    ((run body.move w turns).order.filter fun x => x.1 = t).map (·.2) ++ (run body.move w turns).calls t = w.calls t := by
  refine run_invariant
    (P := fun w' : World S C L A => (w'.order.filter fun x => x.1 = t).map (·.2) ++ w'.calls t = w.calls t)
    (by simp [hw]) (fun w' turn h => ?_) turns
  rcases move_cases body w' turn with heq | ⟨c, cs, -, hcalls, heq⟩ | ⟨l, -, heq⟩
  · rw [heq]
    exact h
  · rw [heq, ← h]
    simp only [List.filter_append, List.map_append]
    by_cases ht : turn.1 = t
    · subst ht
      simp [hcalls]
    · simp [ht, Function.update_of_ne (Ne.symm ht)]
  · rw [heq]
    exact h

/-- What has to be shown of each step, for the thread that has the mutex alone. -/
structure Outline (body : Body S C L I A) (Free : List (Nat × C) → S → List A → Prop)
    (At : List (Nat × C) → L → S → List A → Prop) : Prop where
  enter : ∀ {order s log} (t : Nat) (c : C), Free order s log → At (order ++ [(t, c)]) (body.start c) s log
  next : ∀ {order l s log l'} (i : I), At order l s log → (body.step s l i).2.1 = some l' →
    At order l' (body.step s l i).1 (log ++ (body.step s l i).2.2)
  leave : ∀ {order l s log} (i : I), At order l s log → (body.step s l i).2.1 = none →
    Free order (body.step s l i).1 (log ++ (body.step s l i).2.2)

section
variable {Free : List (Nat × C) → S → List A → Prop} {At : List (Nat × C) → L → S → List A → Prop}

theorem Outline.move (h : Outline body Free At) {w : World S C L A} (hw : w.Holds Free At) (turn : Nat × I) :
    (body.move w turn).Holds Free At := by
  rcases move_cases body w turn with heq | ⟨c, cs, hholder, -, heq⟩ | ⟨l, hholder, heq⟩
  · rw [heq]
    exact hw
  · rw [World.Holds, hholder] at hw
    rw [heq]
    exact h.enter turn.1 c hw
  · rw [World.Holds, hholder] at hw
    rw [heq, World.Holds]
    cases hnext : (body.step w.guarded l turn.2).2.1 with
    | none => exact h.leave turn.2 hw hnext
    | some l' => exact h.next turn.2 hw hnext

/-- It then holds under every schedule, for any number of threads. -/
theorem Outline.run (h : Outline body Free At) {w : World S C L A} (hw : w.Holds Free At) (turns : List (Nat × I)) :
    (run body.move w turns).Holds Free At :=
  run_invariant hw (fun _ turn hw => h.move hw turn) turns

end

/-! ### Calls as a whole -/

/-- Calls one after the other, each as a whole: `whole s c acts s'` is a call that finds `s` and leaves `s'`. -/
inductive Serial (whole : S → C → List A → S → Prop) (s₀ : S) : List (Nat × C) → S → List A → Prop
  | nil : Serial whole s₀ [] s₀ []
  | concat {order s log c acts s'} (t : Nat) (past : Serial whole s₀ order s log) (call : whole s c acts s') :
    Serial whole s₀ (order ++ [(t, c)]) s' (log ++ acts)

/-- The call that has the mutex, after the calls before it. -/
def Amid (whole : S → C → List A → S → Prop) (At : S → C → L → S → List A → Prop) (s₀ : S)
    (order : List (Nat × C)) (l : L) (s : S) (log : List A) : Prop :=
  ∃ past t c before s' acts, order = past ++ [(t, c)] ∧ log = before ++ acts ∧ Serial whole s₀ past s' before ∧
    At s' c l s acts

/-- The steps of one call make up a whole call: `At s₀ c l s acts` is what holds at point `l` of a call `c` that
found `s₀` and did `acts` since then. -/
structure Refines (body : Body S C L I A) (whole : S → C → List A → S → Prop) (At : S → C → L → S → List A → Prop) :
    Prop where
  start : ∀ s c, At s c (body.start c) s []
  next : ∀ {s₀ c l s acts l'} (i : I), At s₀ c l s acts → (body.step s l i).2.1 = some l' →
    At s₀ c l' (body.step s l i).1 (acts ++ (body.step s l i).2.2)
  leave : ∀ {s₀ c l s acts} (i : I), At s₀ c l s acts → (body.step s l i).2.1 = none →
    whole s₀ c (acts ++ (body.step s l i).2.2) (body.step s l i).1

section
variable {whole : S → C → List A → S → Prop} {At : S → C → L → S → List A → Prop}

theorem Refines.outline (h : Refines body whole At) (s₀ : S) : Outline body (Serial whole s₀) (Amid whole At s₀) := by
  refine ⟨?_, ?_, ?_⟩
  · intro order s log t c hserial
    exact ⟨order, t, c, log, s, [], rfl, (List.append_nil log).symm, hserial, h.start s c⟩
  · rintro order l s log l' i ⟨past, t, c, before, s', acts, horder, rfl, hserial, hat⟩ hnext
    exact ⟨past, t, c, before, s', _, horder, List.append_assoc .., hserial, h.next i hat hnext⟩
  · rintro order l s log i ⟨past, t, c, before, s', acts, rfl, rfl, hserial, hat⟩ hleave
    rw [List.append_assoc]
    exact .concat t hserial (h.leave i hat hleave)

/-- Every schedule amounts to the calls as a whole, in the order in which they got the mutex. -/
theorem Refines.run (h : Refines body whole At) (s₀ : S) (calls : Nat → List C) (turns : List (Nat × I)) :
    (run body.move { guarded := s₀, calls } turns).Holds (Serial whole s₀) (Amid whole At s₀) := by
  have h0 : World.Holds (Serial whole s₀) (Amid whole At s₀) ({ guarded := s₀, calls } : World S C L A) := Serial.nil
  exact (h.outline s₀).run h0 turns

end

/-- Calls that answer once, as the machine `call` does: the log is the trace of the machine. -/
theorem Serial.trace {call : S → C → A × S} {s₀ s : S} {order : List (Nat × C)} {log : List A}
    (h : Serial (fun s c acts s' => acts = [(call s c).1] ∧ s' = (call s c).2) s₀ order s log) :
    s = exec call s₀ (order.map (·.2)) ∧ log = Simulation.trace call s₀ (order.map (·.2)) := by
  induction h with
  | nil => exact ⟨rfl, rfl⟩
  | concat t _ hcall ih =>
    obtain ⟨rfl, rfl⟩ := hcall
    obtain ⟨rfl, rfl⟩ := ih
    rw [List.map_append, List.map_singleton, exec_concat, trace_concat]
    exact ⟨rfl, rfl⟩

end

end Mutex
