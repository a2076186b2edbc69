import CameraPlatform.Base.History

/-!
# Machines that answer their calls, and when one stands for another

A machine takes a call in a state and returns an answer and the next state. A relation that the calls
keep, and that makes the answers equal, makes the answers to every list of calls equal.
-/

namespace Simulation
open History

variable {S A B E O : Type}

/-- The state after some calls. -/
def exec (call : S → E → O × S) (s : S) (es : List E) : S := run (fun s e => (call s e).2) s es

/-- What the machine answers to some calls. -/
def trace (call : S → E → O × S) : S → List E → List O
  | _, [] => []
  | s, e :: es => (call s e).1 :: trace call (call s e).2 es

/-- What the machine answers to the calls that `keep` picks out of a run. -/
def heard (call : S → E → O × S) (keep : E → Bool) : S → List E → List O
  | _, [] => []
  | s, e :: es =>
    if keep e then (call s e).1 :: heard call keep (call s e).2 es else heard call keep (call s e).2 es

section
variable (call : S → E → O × S)

theorem exec_cons (s : S) (e : E) (es : List E) : exec call s (e :: es) = exec call (call s e).2 es := rfl

theorem exec_concat (s : S) (es : List E) (e : E) : exec call s (es ++ [e]) = (call (exec call s es) e).2 :=
  run_concat _ s es e

theorem trace_append (s : S) (es es' : List E) :
    trace call s (es ++ es') = trace call s es ++ trace call (exec call s es) es' := by
  induction es generalizing s with
  | nil => rfl
  | cons e es ih =>
    rw [List.cons_append, trace, ih, trace, exec_cons]
    rfl

theorem trace_concat (s : S) (es : List E) (e : E) :
    trace call s (es ++ [e]) = trace call s es ++ [(call (exec call s es) e).1] :=
  trace_append call s es [e]

end

/-- Related states answer the calls that meet `C` alike, and stay related. -/
structure Simulates (R : S → A → Prop) (C : E → Prop) (call : S → E → O × S) (spec : A → E → O × A) : Prop where
  answer : ∀ s a e, R s a → C e → (call s e).1 = (spec a e).1
  next : ∀ s a e, R s a → C e → R (call s e).2 (spec a e).2

namespace Simulates
variable {R : S → A → Prop} {C : E → Prop} {call : S → E → O × S} {spec : A → E → O × A}

theorem exec (h : Simulates R C call spec) {s : S} {a : A} (hR : R s a) {es : List E} (hes : ∀ e ∈ es, C e) :
    R (exec call s es) (Simulation.exec spec a es) := by
  induction es generalizing s a with
  | nil => exact hR
  | cons e es ih =>
    obtain ⟨he, hes⟩ := List.forall_mem_cons.mp hes
    exact ih (h.next s a e hR he) hes

/-- The abstract machine foretells every answer. -/
theorem trace (h : Simulates R C call spec) {s : S} {a : A} (hR : R s a) {es : List E} (hes : ∀ e ∈ es, C e) :
    trace call s es = Simulation.trace spec a es := by
  induction es generalizing s a with
  | nil => rfl
  | cons e es ih =>
    obtain ⟨he, hes⟩ := List.forall_mem_cons.mp hes
    rw [Simulation.trace, Simulation.trace, h.answer s a e hR he, ih (h.next s a e hR he) hes]

/-- The abstract machine is not told of the calls that `keep` leaves out. -/
theorem exec_filter {keep : E → Bool} (h : Simulates R (fun e => keep e = true) call spec)
    (hunmoved : ∀ s a e, R s a → keep e = false → R (call s e).2 a) {s : S} {a : A} (hR : R s a) (es : List E) :
    R (Simulation.exec call s es) (Simulation.exec spec a (es.filter keep)) := by
  induction es generalizing s a with
  | nil => exact hR
  | cons e es ih =>
    rw [exec_cons, List.filter_cons]
    cases he : keep e with
    | true => exact ih (h.next s a e hR he)
    | false => exact ih (hunmoved s a e hR he)

/-- When the abstract machine does not move at the calls that `keep` leaves out, the answers to the others are as if
these had been made alone. -/
theorem heard {keep : E → Bool} (h : Simulates R (fun e => keep e = true) call spec)
    (hunmoved : ∀ s a e, R s a → keep e = false → R (call s e).2 a) {s : S} {a : A} (hR : R s a) (es : List E) :
    heard call keep s es = Simulation.trace call s (es.filter keep) := by
  have hspec : Simulation.heard call keep s es = Simulation.trace spec a (es.filter keep) := by
    induction es generalizing s a with
    | nil => rfl
    | cons e es ih =>
      rw [Simulation.heard, List.filter_cons]
      cases he : keep e with
      | true =>
        rw [if_pos rfl, if_pos rfl, Simulation.trace, h.answer s a e hR he, ih (h.next s a e hR he)]
      | false => exact ih (hunmoved s a e hR he)
  rw [hspec, h.trace hR fun e he => (List.mem_filter.mp he).2]

end Simulates

end Simulation
