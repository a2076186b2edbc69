import CameraPlatform.ApplicationRun
import CameraPlatform.GstKeeps
import CameraPlatform.GstSpares

/-!
# References to main loops, contexts and sources

What the calls on loops, contexts and sources do to the accounts of these objects, and of others.
-/

namespace CameraPlatform
namespace Gst
open ByteString RefHeap

variable {g₀ g g' : Gst} {x r n : Nat} {o : GObject}

/-! ### Sources -/

theorem obj_sourceDestroy (hx : x ≠ r) : (g.sourceDestroy r).obj x = g.obj x := by
  unfold sourceDestroy
  split
  · rw [obj_unref, obj_update, if_neg hx]
  · rfl

@[simp] theorem next_sourceDestroy (r : Nat) : (g.sourceDestroy r).next = g.next := by
  unfold sourceDestroy
  split <;> simp

@[simp] theorem next_sourceClear (r : Nat) : (g.sourceClear r).next = g.next :=
  (next_unref r).trans (next_sourceDestroy r)

theorem obj_sourceClear (hx : x ≠ r) : (g.sourceClear r).obj x = g.obj x :=
  (obj_unref r x).trans (obj_sourceDestroy hx)

theorem Held.sourceDestroy_other (h : Held g₀ g x n o) (hx : x ≠ r) : Held g₀ (g.sourceDestroy r) x n o := by
  unfold sourceDestroy
  split
  · exact (h.update_other hx _).unref_other hx
  · exact h

/-- An attached source that only its maker and its context hold is gone afterwards. -/
theorem Held.sourceClear {context : Nat} (h : Held g₀ g x 2 o) (hc : o.context = some context) :
    Held g₀ (g.sourceClear x) x 0 { o with context := none } := by
  have hattached : (g.obj x).bind (·.context) = some context := by rw [h.obj]; exact hc
  unfold Gst.sourceClear sourceDestroy
  rw [hattached]
  exact (h.update _).unref.unref

theorem Held.sourceClear_other (h : Held g₀ g x n o) (hx : x ≠ r) : Held g₀ (g.sourceClear r) x n o :=
  (h.sourceDestroy_other hx).unref_other hx

/-! ### Contexts -/

theorem mem_attachedTo {context : Nat} :
    x ∈ g.attachedTo context ↔ ∃ o, g.obj x = some o ∧ o.type = ascii "GSource" ∧ o.context = some context := by
  unfold attachedTo
  rw [List.mem_filter, List.mem_range]
  constructor
  · rintro ⟨-, h⟩
    obtain ⟨o, ho, htype⟩ := (Option.any_eq_true _ _).mp h
    exact ⟨o, ho, by simpa using htype⟩
  · rintro ⟨o, ho, htype, hcontext⟩
    exact ⟨lt_of_obj ho, by rw [ho]; simp [htype, hcontext]⟩

/-- What holds once the reference is dropped and does not change with the sources of the context. -/
theorem mainContextUnref_invariant {P : Gst → Prop} {context : Nat} (h0 : P (g.unref context))
    (hstep : ∀ g', P g' → ∀ s ∈ g.attachedTo context, P (g'.sourceDestroy s)) : P (g.mainContextUnref context) := by
  unfold mainContextUnref
  split
  · exact List.foldlRecOn (motive := P) _ _ h0 hstep
  · exact h0

/-- A context destroys its own sources only. -/
theorem Held.mainContextUnref_other {context : Nat} (h : Held g₀ g x n o) (hx : x ≠ context)
    (ha : x ∉ g.attachedTo context) : Held g₀ (g.mainContextUnref context) x n o :=
  mainContextUnref_invariant (P := fun g' => Held g₀ g' x n o) (h.unref_other hx) fun _ h _ hs =>
    h.sourceDestroy_other (ne_of_mem_of_not_mem hs ha).symm

theorem obj_mainContextUnref {context : Nat} (ha : x ∉ g.attachedTo context) :
    (g.mainContextUnref context).obj x = g.obj x :=
  mainContextUnref_invariant (P := fun g' => g'.obj x = g.obj x) (obj_unref ..) fun _ h _ hs =>
    (obj_sourceDestroy (ne_of_mem_of_not_mem hs ha).symm).trans h

@[simp] theorem next_mainContextUnref (context : Nat) : (g.mainContextUnref context).next = g.next :=
  mainContextUnref_invariant (P := fun g' => g'.next = g.next) (next_unref _) fun _ h s _ =>
    (next_sourceDestroy s).trans h

/-! ### Loops -/

theorem lastRef_iff (h : Held g₀ g x n o) : g.lastRef x = true ↔ n = 1 := by
  rw [lastRef, h.get]
  simp

/-- The main loop at `c + 1` has `n` references, and keeps its context at `c` while it is alive. -/
structure Loops (g₀ g : Gst) (c n : Nat) : Prop where
  context : Held g₀ g c (if n = 0 then 1 else 2) { type := ascii "GMainContext" }
  loop : Held g₀ g (c + 1) n { type := ascii "GMainLoop", context := some c }

namespace Loops
variable {c : Nat}

theorem spares (h : Loops g₀ g c n) {b : Nat} {S : Bytes → Option Nat → Prop} (hs : g.Spares b S g') (hc : c + 1 < b) :
    Loops g₀ g' c n := ⟨h.context.spares hs (by omega), h.loop.spares hs hc⟩

theorem ref (h : Loops g₀ g c (n + 1)) : Loops g₀ (g.ref (c + 1)) c (n + 2) :=
  ⟨h.context.ref_other (by omega), h.loop.ref⟩

/-- The loop drops its context with its last reference, and the context has another one then. -/
theorem mainLoopUnref_eq (h : Loops g₀ g c (n + 1)) :
    g.mainLoopUnref (c + 1) = if n = 0 then (g.unref (c + 1)).unref c else g.unref (c + 1) := by
  have hcontext : (g.obj (c + 1)).bind (·.context) = some c := by rw [h.loop.obj]; rfl
  unfold mainLoopUnref
  by_cases hn : n = 0
  · rw [if_pos ((lastRef_iff h.loop).mpr (by omega)), hcontext, if_pos hn]
    have hnot : ¬ (g.unref (c + 1)).lastRef c = true := by
      rw [lastRef_iff (h.context.unref_other (by omega))]
      simp
    show mainContextUnref _ c = _
    rw [mainContextUnref, if_neg hnot]
  · rw [if_neg (fun hlast => hn (by have := (lastRef_iff h.loop).mp hlast; omega)), if_neg hn]

theorem mainLoopUnref (h : Loops g₀ g c (n + 1)) : Loops g₀ (g.mainLoopUnref (c + 1)) c n := by
  have hcontext : Held g₀ (g.unref (c + 1)) c 2 { type := ascii "GMainContext" } :=
    h.context.unref_other (by omega)
  rw [h.mainLoopUnref_eq]
  split
  · next hn =>
    subst hn
    exact ⟨hcontext.unref, h.loop.unref.unref_other (by omega)⟩
  · next hn => exact ⟨by rw [if_neg hn]; exact hcontext, h.loop.unref⟩

theorem held_mainLoopUnref (h : Loops g₀ g c (n + 1)) {m : Nat} (hx : Held g₀ g x m o) (hc : x ≠ c) (hl : x ≠ c + 1) :
    Held g₀ (g.mainLoopUnref (c + 1)) x m o := by
  rw [h.mainLoopUnref_eq]
  split
  · exact (hx.unref_other hl).unref_other hc
  · exact hx.unref_other hl

theorem obj_mainLoopUnref (h : Loops g₀ g c (n + 1)) (x : Nat) : (g.mainLoopUnref (c + 1)).obj x = g.obj x := by
  rw [h.mainLoopUnref_eq]
  split <;> simp

theorem next_mainLoopUnref (h : Loops g₀ g c (n + 1)) : (g.mainLoopUnref (c + 1)).next = g.next := by
  rw [h.mainLoopUnref_eq]
  split <;> simp

end Loops

end Gst
end CameraPlatform
