import Mathlib.Data.List.Induction
import Mathlib.Data.List.Nodup

/-!
# Runs and their histories

A run folds a step function over its events. A history of keyed writes is read through its last
write of each key.
-/

namespace History

section Run
variable {S E : Type} (step : S → E → S)

def run (s : S) (events : List E) : S := events.foldl step s

@[simp] theorem run_nil (s : S) : run step s [] = s := rfl

theorem run_cons (s : S) (e : E) (events : List E) : run step s (e :: events) = run step (step s e) events := rfl

@[simp] theorem run_concat (s : S) (events : List E) (e : E) :
    run step s (events ++ [e]) = step (run step s events) e := by
  simp [run]

theorem run_append (s : S) (as bs : List E) : run step s (as ++ bs) = run step (run step s as) bs :=
  List.foldl_append

variable {step}

/-- What holds at the start and is kept by each step holds after every run. -/
theorem run_invariant {P : S → Prop} {s : S} (h0 : P s) (hstep : ∀ s e, P s → P (step s e)) (events : List E) :
    P (run step s events) := by
  induction events using List.reverseRecOn with
  | nil => exact h0
  | append_singleton events e ih => rw [run_concat]; exact hstep _ _ ih

/-- The same for a relation between the state and the history that led to it. -/
theorem run_induction {P : List E → S → Prop} {s : S} (h0 : P [] s)
    (hstep : ∀ events s e, P events s → P (events ++ [e]) (step s e)) (events : List E) :
    P events (run step s events) := by
  induction events using List.reverseRecOn with
  | nil => exact h0
  | append_singleton events e ih => rw [run_concat]; exact hstep _ _ _ ih

/-- Every event of the run meets `C` in the state it finds. -/
def Along (step : S → E → S) (C : S → E → Prop) : S → List E → Prop
  | _, [] => True
  | s, e :: events => C s e ∧ Along step C (step s e) events

theorem along_concat {C : S → E → Prop} (s : S) (events : List E) (e : E) :
    Along step C s (events ++ [e]) ↔ Along step C s events ∧ C (run step s events) e := by
  induction events generalizing s with
  | nil => simp [Along]
  | cons a events ih => simp only [List.cons_append, Along, ih, run_cons, and_assoc]

/-- What every event that meets `C` keeps. -/
theorem along_invariant {P : S → Prop} {C : S → E → Prop} {s : S} (h0 : P s)
    (hstep : ∀ s e, P s → C s e → P (step s e)) {events : List E} (h : Along step C s events) :
    P (run step s events) := by
  induction events generalizing s with
  | nil => exact h0
  | cons e events ih => exact ih (hstep s e h0 h.1) h.2

/-- A condition on the events alone. -/
theorem along_forall {C : E → Prop} (s : S) (events : List E) :
    Along step (fun _ e => C e) s events ↔ ∀ e ∈ events, C e := by
  induction events generalizing s with
  | nil => simp [Along]
  | cons e events ih => rw [Along, ih, List.forall_mem_cons]

/-- What every step does. -/
theorem along_of_forall {C : S → E → Prop} (h : ∀ s e, C s e) (s : S) (events : List E) : Along step C s events := by
  induction events generalizing s with
  | nil => trivial
  | cons e events ih => exact ⟨h s e, ih _⟩

/-- Every state of the run has the property `P`, the first and the last one included. -/
def Throughout (step : S → E → S) (P : S → Prop) : S → List E → Prop
  | s, [] => P s
  | s, e :: events => P s ∧ Throughout step P (step s e) events

theorem Throughout.run {P : S → Prop} {s : S} {events : List E} (h : Throughout step P s events) :
    P (run step s events) := by
  induction events generalizing s with
  | nil => exact h
  | cons e events ih => exact ih h.2

/-- While `I` holds, the events that keep `P` are those that meet `C`, and these keep `I`: then the runs
through `P` are the runs along `C`. -/
theorem throughout_iff_along {I P : S → Prop} {C : S → E → Prop} (hP : ∀ s, I s → P s)
    (hiff : ∀ s e, I s → (P (step s e) ↔ C s e)) (hstep : ∀ s e, I s → C s e → I (step s e)) {s : S} (hs : I s)
    (events : List E) : Throughout step P s events ↔ Along step C s events := by
  induction events generalizing s with
  | nil => exact iff_of_true (hP s hs) trivial
  | cons e events ih =>
    constructor
    · rintro ⟨-, hrest⟩
      have hnext : P (step s e) := by
        cases events with
        | nil => exact hrest
        | cons => exact hrest.1
      have hc := (hiff s e hs).mp hnext
      exact ⟨hc, (ih (hstep s e hs hc)).mp hrest⟩
    · rintro ⟨hc, hrest⟩
      exact ⟨hP s hs, (ih (hstep s e hs hc)).mpr hrest⟩

/-- Where `P` says that a value is still `v`, and the events that meet `C` are those that leave it. -/
theorem throughout_iff_along_unchanged {V : Type} {W P : S → Prop} {C : S → E → Prop} {value : S → V} {v : V}
    (hP : ∀ s, W s → (P s ↔ value s = v)) (hW : ∀ s e, W s → W (step s e))
    (hC : ∀ s e, W s → (value (step s e) = value s ↔ C s e)) {s : S} (hs : W s) (hv : value s = v)
    (events : List E) : Throughout step P s events ↔ Along step C s events := by
  refine throughout_iff_along (I := fun s => W s ∧ value s = v) (fun s h => (hP s h.1).mpr h.2) ?_ ?_ ⟨hs, hv⟩ events
  · rintro s e ⟨hs, hv⟩
    rw [hP _ (hW s e hs), ← hC s e hs, hv]
  · rintro s e ⟨hs, hv⟩ hc
    exact ⟨hW s e hs, ((hC s e hs).mpr hc).trans hv⟩

end Run

section Last
variable {K V : Type} [DecidableEq K]

/-- The value of the last write of `k`. -/
def last (k : K) (writes : List (K × V)) : Option V := ((writes.filter fun w => w.1 = k).getLast?).map (·.2)

@[simp] theorem last_nil (k : K) : last k ([] : List (K × V)) = none := rfl

theorem last_concat (k : K) (writes : List (K × V)) (w : K × V) :
    last k (writes ++ [w]) = if w.1 = k then some w.2 else last k writes := by
  unfold last
  rw [List.filter_append]
  by_cases hw : w.1 = k <;> simp [hw]

theorem last_eq_none_iff {k : K} {writes : List (K × V)} : last k writes = none ↔ ∀ w ∈ writes, w.1 ≠ k := by
  simp [last]

theorem mem_of_last {k : K} {v : V} {writes : List (K × V)} (h : last k writes = some v) : (k, v) ∈ writes := by
  obtain ⟨w, hw, rfl⟩ := Option.map_eq_some_iff.mp h
  obtain ⟨hmem, hk⟩ := List.mem_filter.mp (List.mem_of_getLast? hw)
  rw [← of_decide_eq_true hk]
  exact hmem

/-- A key that is written once has the value written. -/
theorem last_eq_some_iff {k : K} {v : V} {writes : List (K × V)} (hnd : (writes.map Prod.fst).Nodup) :
    last k writes = some v ↔ (k, v) ∈ writes := by
  refine ⟨mem_of_last, fun h => ?_⟩
  cases hlast : last k writes with
  | none => exact absurd rfl (last_eq_none_iff.mp hlast (k, v) h)
  | some v' =>
    have hpair := List.inj_on_of_nodup_map hnd h (mem_of_last hlast) rfl
    rw [(Prod.mk.inj hpair).2]

/-- Only the writes of `k` count. -/
theorem last_congr {k : K} {as bs : List (K × V)}
    (h : (as.filter fun w => w.1 = k) = bs.filter fun w => w.1 = k) : last k as = last k bs := by
  rw [last, h, last]

end Last

end History
