import Mathlib.Logic.Relation

/-!
# Open paths in a graph of links

A path is open when none of its elements, but for the last one, is shut. This is about the links alone, and says
nothing of what moves along them.
-/

structure LinkGraph (α : Type) where
  links : List (α × α)
  shut : α → Bool

namespace LinkGraph
variable {α : Type} {N N' : LinkGraph α} {a b x : α} {l : List α}

def OpenLink (N : LinkGraph α) (a b : α) : Prop := N.shut a = false ∧ (a, b) ∈ N.links

/-- A path of links leads from `a` to `x`, and what it goes through is open. -/
def OpenPath (N : LinkGraph α) : α → α → Prop := Relation.ReflTransGen N.OpenLink

theorem openPath_iff : N.OpenPath a x ↔ x = a ∨ N.shut a = false ∧ ∃ b, (a, b) ∈ N.links ∧ N.OpenPath b x := by
  unfold OpenPath
  rw [Relation.ReflTransGen.cases_head_iff]
  constructor
  · rintro (rfl | ⟨b, ⟨hopen, hlink⟩, hpath⟩)
    · exact .inl rfl
    · exact .inr ⟨hopen, b, hlink, hpath⟩
  · rintro (rfl | ⟨hopen, b, hlink, hpath⟩)
    · exact .inl rfl
    · exact .inr ⟨b, ⟨hopen, hlink⟩, hpath⟩

theorem openPath_shut (h : N.shut a = true) : N.OpenPath a x ↔ x = a := by
  rw [openPath_iff, h]
  simp

/-- The end of a line. -/
theorem openPath_end (h : ∀ b, (a, b) ∉ N.links) : N.OpenPath a x ↔ x = a := by
  rw [openPath_iff]
  exact or_iff_left fun ⟨_, b, hb, _⟩ => h b hb

/-- An open element with one link. -/
theorem openPath_link (hopen : N.shut a = false) (hlink : ∀ c, (a, c) ∈ N.links ↔ c = b) :
    N.OpenPath a x ↔ x = a ∨ N.OpenPath b x := by
  rw [openPath_iff, and_iff_right hopen]
  simp only [hlink, exists_eq_left]

/-- Open elements, each with one link, which goes to the next. -/
def Line (N : LinkGraph α) : α → List α → Prop
  | _, [] => True
  | a, b :: l => N.shut a = false ∧ (∀ c, (a, c) ∈ N.links ↔ c = b) ∧ N.Line b l

/-- From the start of a line paths lead to each element of it, and on from the last one. -/
theorem Line.openPath_iff (h : N.Line a l) :
    N.OpenPath a x ↔ x ∈ (a :: l).dropLast ∨ N.OpenPath (l.getLastD a) x := by
  induction l generalizing a with
  | nil => simp
  | cons b l ih =>
    obtain ⟨hopen, hlink, hline⟩ := h
    rw [openPath_link hopen hlink, ih hline, List.dropLast_cons_cons, List.getLastD_cons, List.mem_cons, or_assoc]

/-- A path leads from each element of a line to the last one. -/
theorem Line.openPath_last (h : N.Line a l) (hx : x ∈ a :: l) : N.OpenPath x (l.getLastD a) := by
  induction l generalizing a with
  | nil =>
    obtain rfl := List.mem_singleton.mp hx
    exact .refl
  | cons b l ih =>
    rcases List.mem_cons.mp hx with rfl | hx
    · exact h.openPath_iff.mpr (.inr .refl)
    · rw [List.getLastD_cons]
      exact ih h.2.2 hx

/-- A path into a set that all links into it start in has started there. -/
theorem OpenPath.within {S : α → Prop} (h : N.OpenPath a x) (hclosed : ∀ a b, (a, b) ∈ N.links → S b → S a) (hx : S x) :
    S a := by
  induction h using Relation.ReflTransGen.head_induction_on with
  | refl => exact hx
  | head hstep _ ih => exact hclosed _ _ hstep.2 ih

/-! ### A graph with an element shut -/

variable [DecidableEq α]

def shutting (N : LinkGraph α) (b : α) : LinkGraph α := { N with shut := fun a => decide (a = b) || N.shut a }

theorem OpenPath.of_shutting (h : (N.shutting b).OpenPath a x) : N.OpenPath a x := by
  refine Relation.ReflTransGen.mono (fun c d hstep => ⟨?_, hstep.2⟩) _ _ h
  have hopen := hstep.1
  simp only [shutting, Bool.or_eq_false_iff] at hopen
  exact hopen.2

/-- A gate: where `b` is the only entrance to `x`, all paths to `x` go through `b`. -/
theorem no_openPath_gate (hne : x ≠ a) (hgate : ∀ c, N.OpenPath a c → (c, x) ∈ N.links → c = b) :
    ¬ (N.shutting b).OpenPath a x := by
  intro h
  rcases Relation.ReflTransGen.cases_tail h with heq | ⟨c, hpath, hopen, hlink⟩
  · exact hne heq
  · have hpassed : c = b := hgate c (OpenPath.of_shutting hpath) hlink
    simp [shutting, hpassed] at hopen

end LinkGraph
