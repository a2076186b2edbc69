import CameraPlatform.GstFrame

/-!
# Objects that stay as they are

`Keeps g g'` says that a part of the program left all objects of `g` as they were, whatever it did
to the references to them, and `Same f g g'` that it left what shows in `f`, their handlers for one.
-/

namespace CameraPlatform
open ByteString RefHeap

namespace Gst

/-- The objects of `g` are as they were. -/
structure Keeps (g g' : Gst) : Prop where
  next_le : g.next ≤ g'.next
  obj : ∀ x < g.next, g'.obj x = g.obj x

namespace Keeps
variable {g g' : Gst}

theorem refl : Keeps g g := ⟨Nat.le_refl _, fun _ _ => rfl⟩

theorem trans {g'' : Gst} (h : Keeps g g') (h' : Keeps g' g'') : Keeps g g'' :=
  ⟨Nat.le_trans h.next_le h'.next_le,
    fun x hx => (h'.obj x (Nat.lt_of_lt_of_le hx h.next_le)).trans (h.obj x hx)⟩

theorem alloc (h : Keeps g g') (fl : Bool) (o : GObject) : Keeps g (g'.alloc fl o) := by
  have := h.next_le
  refine ⟨by simp; omega, fun x hx => ?_⟩
  rw [obj_alloc, if_neg (by omega)]
  exact h.obj x hx

theorem ref (h : Keeps g g') (r : Nat) : Keeps g (g'.ref r) := ⟨by simpa using h.next_le, by simpa using h.obj⟩

theorem refSink (h : Keeps g g') (r : Nat) : Keeps g (g'.refSink r) :=
  ⟨by simpa using h.next_le, by simpa using h.obj⟩

theorem unref (h : Keeps g g') (r : Nat) : Keeps g (g'.unref r) := ⟨by simpa using h.next_le, by simpa using h.obj⟩

theorem setOwner (h : Keeps g g') (p r : Nat) : Keeps g (g'.setOwner p r) :=
  ⟨by simpa [next, Gst.setOwner] using h.next_le, by simpa using h.obj⟩

theorem clearObject (h : Keeps g g') (r : Option Nat) : Keeps g (g'.clearObject r) := by
  cases r with
  | none => exact h
  | some r => exact h.unref r

theorem update (h : Keeps g g') {r : Nat} (hr : g.next ≤ r) (f : GObject → GObject) : Keeps g (g'.update r f) := by
  refine ⟨by simpa using h.next_le, fun x hx => ?_⟩
  rw [obj_update, if_neg (by omega)]
  exact h.obj x hx

theorem setObject (h : Keeps g g') {r : Nat} (hr : g.next ≤ r) (key : Bytes) (v : GValue) :
    Keeps g (g'.setObject r key v) := h.update hr _

end Keeps

section
variable {g g' : Gst}

theorem handlersOf_congr {r : Nat} (h : g'.obj r = g.obj r) (signal : Signal) :
    g'.handlersOf r signal = g.handlersOf r signal := by
  rw [handlersOf, h, handlersOf]

theorem handlersOf_connect (r : Nat) (handler : Handler) {x : Nat} (hx : x < g.next) (signal : Signal) :
    (g.connect r handler).handlersOf x signal =
      g.handlersOf x signal ++ if x = r ∧ handler.signal = signal then [handler] else [] := by
  obtain ⟨o, ho⟩ : ∃ o, g.obj x = some o := ⟨_, congrArg (Option.map _) (List.getElem?_eq_getElem hx)⟩
  unfold Gst.handlersOf connect
  rw [obj_update, ho]
  by_cases hr : x = r
  · by_cases hs : handler.signal = signal <;> simp [hr, hs]
  · simp [hr]

theorem handlersOf_update {r : Nat} {f : GObject → GObject} (hf : ∀ o, (f o).handlers = o.handlers) (x : Nat)
    (signal : Signal) : (g.update r f).handlersOf x signal = g.handlersOf x signal := by
  unfold Gst.handlersOf
  rw [obj_update]
  split
  · cases g.obj x with
    | none => rfl
    | some o => simp [hf]
  · rfl

theorem handlersOf_alloc_self (fl : Bool) (o : GObject) (signal : Signal) :
    (g.alloc fl o).handlersOf g.next signal = o.handlers.filter fun h => h.signal = signal := by
  unfold Gst.handlersOf
  rw [obj_alloc, if_pos rfl]
  rfl

theorem keeps_mediaNew : Keeps g g.mediaNew :=
  (((((((Keeps.refl.alloc _ _).alloc _ _).alloc _ _).refSink _).setOwner _ _).refSink _).setOwner _ _)

variable (g) in
/-- A new medium has a bin of its own, with the appsrc in it and nothing else. -/
theorem mediaNew_spec :
    g.mediaNew.next = g.next + 3 ∧
      g.mediaNew.obj g.next = some { type := ascii "GstRTSPMedia", element := some (g.next + 1) } ∧
      g.mediaNew.name (g.next + 2) = ascii "profile_src" ∧
      ∀ x, g.mediaNew.owner x = some (g.next + 1) ↔ x = g.next + 2 := by
  have howner : ∀ x, g.mediaNew.owner x =
      if x = g.next + 2 then some (g.next + 1) else if x = g.next + 1 then some g.next else g.owner x := by
    intro x
    unfold mediaNew
    rw [owner_setOwner (by simp) (by simp), owner_refSink, owner_setOwner (by simp; omega) (by simp), owner_refSink]
    simp only [owner_alloc]
  refine ⟨by simp [mediaNew, next_setOwner], ?_, ?_, fun x => ?_⟩
  · simp [mediaNew, obj_alloc]
    omega
  · simp [mediaNew, name, obj_alloc]
  · rw [howner]
    split
    · next hx => exact iff_of_true rfl hx
    · next hx =>
      refine iff_of_false (fun h => ?_) hx
      split at h
      · simp at h
      · have := owner_lt_next h
        omega

variable (g) in
/-- `gst_bin_get_by_name` finds that appsrc. -/
theorem binGetByName_mediaNew : (g.mediaNew.ref (g.next + 1)).binGetByName (g.next + 1) (ascii "profile_src") =
    (some (g.next + 2), (g.mediaNew.ref (g.next + 1)).ref (g.next + 2)) := by
  obtain ⟨-, -, hname, howner⟩ := mediaNew_spec g
  have hmem : ∀ x, x ∈ (g.mediaNew.ref (g.next + 1)).heap.children (g.next + 1) ↔ x = g.next + 2 := fun x =>
    Heap.mem_children.trans (by rw [← howner x, ← owner_ref (g.next + 1)]; rfl)
  have hname' : (g.mediaNew.ref (g.next + 1)).name (g.next + 2) = ascii "profile_src" := by
    rw [← hname]; exact name_congr _ (obj_ref ..)
  unfold binGetByName
  split
  · next c hc =>
    obtain rfl : c = g.next + 2 := (hmem c).mp (List.mem_of_find?_eq_some hc)
    rfl
  · next hc =>
    have := List.find?_eq_none.mp hc (g.next + 2) ((hmem _).mpr rfl)
    simp [hname'] at this

/-! ### Parts of the objects -/

/-- The objects of `g` show the same in `f`. -/
structure Same {α : Type} (f : GObject → α) (g g' : Gst) : Prop where
  next_le : g.next ≤ g'.next
  read : ∀ {x : Nat}, x < g.next → (g'.obj x).map f = (g.obj x).map f

/-- The objects of `g` have the handlers they had. -/
abbrev SameHandlers (g g' : Gst) : Prop := Same GObject.handlers g g'

/-- The objects of `g` have the properties they had. -/
abbrev SameProps (g g' : Gst) : Prop := Same GObject.props g g'

theorem Same.handlers (h : SameHandlers g g') {x : Nat} (hx : x < g.next) (signal : Signal) :
    g'.handlersOf x signal = g.handlersOf x signal := by
  rw [handlersOf, h.read hx, handlersOf]

/-- An object shows the same after it. -/
theorem Same.exists_obj {α : Type} {f : GObject → α} (h : Same f g g') {x : Nat} {o : GObject} (ho : g.obj x = some o) :
    ∃ o', g'.obj x = some o' ∧ f o' = f o := by
  have hread := h.read (lt_of_obj ho)
  rw [ho] at hread
  exact Option.map_eq_some_iff.mp hread

theorem lt_of_prop {r : Nat} {key : Bytes} {v : GValue} (h : g.prop r key = some v) : r < g.next := lt_of_bind h

/-- Whatever is looked up in the part. -/
theorem Same.bind {α β : Type} {f : GObject → α} (h : Same f g g') (look : α → Option β) {x : Nat} (hx : x < g.next) :
    ((g'.obj x).bind fun o => look (f o)) = (g.obj x).bind fun o => look (f o) := by
  have hread : ∀ g : Gst, ((g.obj x).bind fun o => look (f o)) = ((g.obj x).map f).bind look := fun g => by
    rw [Option.bind_map]; rfl
  rw [hread, hread, h.read hx]

theorem Same.prop (h : SameProps g g') {x : Nat} (hx : x < g.next) (key : Bytes) :
    g'.prop x key = g.prop x key := h.bind (fun props => props key) hx

theorem Keeps.same {α : Type} {f : GObject → α} (h : Keeps g g') : Same f g g' :=
  ⟨h.next_le, fun hx => by rw [h.obj _ hx]⟩

namespace Same
variable {α : Type} {f : GObject → α}

theorem refl : Same f g g := Keeps.refl.same

theorem trans {g'' : Gst} (h : Same f g g') (h' : Same f g' g'') : Same f g g'' :=
  ⟨Nat.le_trans h.next_le h'.next_le, fun hx =>
    (h'.read (Nat.lt_of_lt_of_le hx h.next_le)).trans (h.read hx)⟩

theorem keeps {g'' : Gst} (h : Same f g g') (h' : Keeps g' g'') : Same f g g'' := h.trans h'.same

/-- What shows in `f` shows in what is computed from it. -/
theorem comp {β : Type} (h : Same f g g') (view : α → β) : Same (fun o => view (f o)) g g' := by
  refine ⟨h.next_le, fun {x} hx => ?_⟩
  have hread := congrArg (Option.map view) (h.read hx)
  rwa [Option.map_map, Option.map_map] at hread

/-- A write of another part. -/
theorem update (h : Same f g g') (r : Nat) {write : GObject → GObject} (hf : ∀ o, f (write o) = f o) :
    Same f g (g'.update r write) := by
  refine h.trans ⟨by simp, fun {x} _ => ?_⟩
  rw [obj_update]
  split
  · rw [Option.map_map]
    exact congrArg (Option.map · _) (funext hf)
  · rfl

end Same

end

end Gst

end CameraPlatform
