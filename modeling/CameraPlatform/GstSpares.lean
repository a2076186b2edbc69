import CameraPlatform.GstFrame

/-!
# Calls that spare objects

`Spares b S g g'` says of a part of the program that it works on objects from `b` on: objects below `b`
keep their cells, references included, unless another object owns them. It also makes no object
whose type and context are `S`. `Held g₀ g x n o` is the account of one such object, and `Fresh g₀ g` says
that nothing happened yet to the addresses that are free.
-/

namespace CameraPlatform
namespace Gst
open ByteString RefHeap

/-- Main loops, sources, and whatever else knows a context. -/
def Scheduled (type : Bytes) (context : Option Nat) : Prop :=
  type = ascii "GSource" ∨ type = ascii "GMainLoop" ∨ context.isSome = true

instance (type : Bytes) (context : Option Nat) : Decidable (Scheduled type context) :=
  inferInstanceAs (Decidable (_ ∨ _ ∨ _))

/-- No demand on new objects. -/
def Nothing (_ : Bytes) (_ : Option Nat) : Prop := False

structure Spares (b : Nat) (S : Bytes → Option Nat → Prop) (g g' : Gst) : Prop where
  le : b ≤ g.next
  next_le : g.next ≤ g'.next
  get : ∀ x < b, g.owner x = none →
    g'.heap.get x = g.heap.get x ∧ g'.heap.misused.count x = g.heap.misused.count x
  made : ∀ x o', g'.obj x = some o' → S o'.type o'.context → ∃ o, g.obj x = some o ∧ S o.type o.context

namespace Spares
variable {b : Nat} {S : Bytes → Option Nat → Prop} {g g' g'' : Gst}

theorem refl (hb : b ≤ g.next) : Spares b S g g :=
  ⟨hb, Nat.le_refl _, fun _ _ _ => ⟨rfl, rfl⟩, fun _ o ho hS => ⟨o, ho, hS⟩⟩

theorem owner (h : Spares b S g g') {x : Nat} (hx : x < b) (hown : g.owner x = none) : g'.owner x = none :=
  (Heap.owner_congr (h.get x hx hown).1).trans hown

theorem trans (h : Spares b S g g') (h' : Spares b S g' g'') : Spares b S g g'' := by
  refine ⟨h.le, Nat.le_trans h.next_le h'.next_le, fun x hx hown => ?_, fun x o'' ho'' hS => ?_⟩
  · obtain ⟨hget, hcount⟩ := h.get x hx hown
    obtain ⟨hget', hcount'⟩ := h'.get x hx (h.owner hx hown)
    exact ⟨hget'.trans hget, hcount'.trans hcount⟩
  · obtain ⟨o', ho', hS'⟩ := h'.made x o'' ho'' hS
    exact h.made x o' ho' hS'

theorem le' (h : Spares b S g g') : b ≤ g'.next := Nat.le_trans h.le h.next_le

/-- Without the demand on new objects. -/
theorem forget (h : Spares b S g g') : Spares b Nothing g g' :=
  ⟨h.le, h.next_le, h.get, fun _ _ _ hS => hS.elim⟩

/-! ### Calls -/

/-- What is counted outside the heap does not matter. -/
theorem heap (h : Spares b S g g') (heq : g''.heap = g'.heap) : Spares b S g g'' := by
  refine h.trans ⟨h.le', ?_, fun x _ _ => by rw [heq]; exact ⟨rfl, rfl⟩, fun x o' ho' hS => ⟨o', ?_, hS⟩⟩
  · rw [next, next, heq]
  · rw [obj, ← heq]; exact ho'

theorem fail (h : Spares b S g g') : Spares b S g g'.fail := h.heap rfl

theorem alloc (h : Spares b S g g') (fl : Bool) {o : GObject} (ho : ¬ S o.type o.context) :
    Spares b S g (g'.alloc fl o) := by
  have hle := h.le'
  refine h.trans ⟨hle, by simp, fun x hx _ => ⟨?_, rfl⟩, fun x o' ho' hS => ?_⟩
  · refine (Heap.get_alloc fl o x).trans (if_neg ?_)
    exact Nat.ne_of_lt (Nat.lt_of_lt_of_le hx hle)
  · rw [obj_alloc] at ho'
    split at ho'
    · obtain rfl := Option.some.inj ho'
      exact absurd hS ho
    · exact ⟨o', ho', hS⟩

theorem allocAll (h : Spares b S g g') {os : List GObject} (hos : ∀ o ∈ os, ¬ S o.type o.context) :
    Spares b S g (g'.allocAll os) := by
  induction os generalizing g' with
  | nil => exact h
  | cons o os ih =>
    exact ih (h.alloc true (hos o (List.mem_cons_self ..))) fun o' ho' => hos o' (List.mem_cons_of_mem _ ho')

variable {r : Nat}

/-- A call that changes the cell of one object. -/
theorem modify (h : Spares b S g g') (hr : b ≤ r) (f : Cell GObject → Cell GObject) (hf)
    (hS : ∀ c, S (f c).data.type (f c).data.context → S c.data.type c.data.context) :
    Spares b S g { g' with heap := g'.heap.modify r f hf } := by
  have hget : ∀ x, (g'.heap.modify r f hf).get x = if x = r then (g'.heap.get x).map f else g'.heap.get x :=
    fun x => Heap.get_modify r f hf x
  refine h.trans ⟨h.le', by simp [next], fun x hx _ => ⟨(hget x).trans (if_neg (by omega)), rfl⟩, fun x o' ho' hS' => ?_⟩
  obtain ⟨c', hc', rfl⟩ := Option.map_eq_some_iff.mp ho'
  rw [show Heap.get _ x = _ from hget x] at hc'
  split at hc'
  · obtain ⟨c, hc, rfl⟩ := Option.map_eq_some_iff.mp hc'
    exact ⟨c.data, by rw [obj, Heap.data, hc]; rfl, hS c hS'⟩
  · exact ⟨c'.data, by rw [obj, Heap.data, hc']; rfl, hS'⟩

/-- A write that leaves the type and the context. -/
theorem update (h : Spares b S g g') (hr : b ≤ r) {f : GObject → GObject}
    (hS : ∀ o, S (f o).type (f o).context → S o.type o.context) : Spares b S g (g'.update r f) :=
  h.modify hr _ _ fun c => hS c.data

theorem setObject (h : Spares b S g g') (hr : b ≤ r) (key : Bytes) (v : GValue) :
    Spares b S g (g'.setObject r key v) := h.update hr fun _ hS => hS

theorem connect (h : Spares b S g g') (hr : b ≤ r) (handler : Handler) : Spares b S g (g'.connect r handler) :=
  h.update hr fun _ hS => hS

theorem addGhostSink (h : Spares b S g g') (hr : b ≤ r) (e : Nat) : Spares b S g (g'.addGhostSink r e) :=
  h.update hr fun _ hS => hS

theorem ref (h : Spares b S g g') (hr : b ≤ r) : Spares b S g (g'.ref r) := h.modify hr _ _ fun _ hS => hS

theorem refSink (h : Spares b S g g') (hr : b ≤ r) : Spares b S g (g'.refSink r) :=
  h.modify hr _ _ fun c hS => by split at hS <;> exact hS

theorem setOwner (h : Spares b S g g') (hr : b ≤ r) (p : Nat) : Spares b S g (g'.setOwner p r) := by
  unfold Gst.setOwner Heap.setOwner
  split
  · exact h.modify hr _ _ fun _ hS => hS
  · exact h

theorem unref (h : Spares b S g g') (hr : b ≤ r) : Spares b S g (g'.unref r) := by
  refine h.trans ⟨h.le', by simp, fun x hx hown => ?_, fun x o' ho' hS => ?_⟩
  · exact Heap.unref_of_unowned (by omega) hown
  · exact ⟨o', (obj_unref r x).symm.trans ho', hS⟩

theorem clearObject (h : Spares b S g g') {p : Option Nat} (hp : ∀ r ∈ p, b ≤ r) :
    Spares b S g (g'.clearObject p) := by
  cases p with
  | none => exact h
  | some r => exact h.unref (hp r rfl)

theorem setState (h : Spares b S g g') (hr : b ≤ r) (fails : Bool) (state : GstState) :
    Spares b S g (g'.setState fails r state).2 := by
  unfold Gst.setState
  split
  · exact h.fail
  · exact h.update hr fun _ hS => hS

theorem factoryMake (h : Spares b S g g') (fails : Bool) {type : Bytes} (htype : ¬ S type none) (name : Bytes) :
    Spares b S g (g'.factoryMake fails type name).2 ∧ ∀ r ∈ (g'.factoryMake fails type name).1, b ≤ r := by
  unfold Gst.factoryMake
  split
  · exact ⟨h.fail, by rintro r ⟨⟩⟩
  · refine ⟨h.alloc true htype, ?_⟩
    rintro r ⟨⟩
    exact h.le'

theorem binAdd (h : Spares b S g g') (hr : b ≤ r) (bin : Nat) : Spares b S g (g'.binAdd bin r) := by
  unfold Gst.binAdd
  split
  · exact (h.fail.refSink hr).unref hr
  · split
    · exact h.fail
    · exact (h.refSink hr).setOwner hr bin

theorem binAddMany (h : Spares b S g g') (bin : Nat) {es : List Nat} (hes : ∀ e ∈ es, b ≤ e) :
    Spares b S g (g'.binAddMany bin es) := by
  induction es generalizing g' with
  | nil => exact h
  | cons e es ih => exact ih (h.binAdd (hes e (by simp)) bin) fun e he => hes e (List.mem_cons_of_mem _ he)

theorem linkPairs (h : Spares b S g g') (es : List Nat) : Spares b S g (Gst.linkPairs es g').2 := by
  fun_induction Gst.linkPairs es g' with
  | case1 _ _ _ _ _ ih => exact ih (h.heap rfl)
  | case2 => exact h.fail
  | case3 => exact h

theorem linkMany (h : Spares b S g g') (fails : Bool) (es : List Nat) : Spares b S g (g'.linkMany fails es).2 := by
  unfold Gst.linkMany
  split
  · exact h.fail
  · exact h.linkPairs es

theorem padLink (h : Spares b S g g') (fails : Bool) (tee bin : Nat) : Spares b S g (g'.padLink fails tee bin).2 := by
  unfold Gst.padLink
  split
  · exact h.heap rfl
  · exact h.fail

theorem sourceAttach (h : Spares b Nothing g g') (hr : b ≤ r) (context : Nat) :
    Spares b Nothing g (g'.sourceAttach r context) := by
  unfold Gst.sourceAttach
  exact (h.update hr fun _ => False.elim).ref hr

/-- A new medium is made of new objects. -/
theorem mediaNew : Spares g.next Nothing g g.mediaNew := by
  have hmade : Spares g.next Nothing g (((g.alloc false { type := ascii "GstRTSPMedia", element := some (g.next + 1) }).alloc
      true { type := ascii "bin" }).alloc true { type := ascii "appsrc", name := ascii "profile_src" }) :=
    (((refl (Nat.le_refl _)).alloc false nofun).alloc true nofun).alloc true nofun
  unfold Gst.mediaNew
  exact (((hmade.refSink (by omega)).setOwner (by omega) _).refSink (by omega)).setOwner (by omega) _

theorem pipelineNew (h : Spares b Scheduled g g') (fails : Bool) (name : Bytes) :
    Spares b Scheduled g (g'.pipelineNew fails name).2 ∧ ∀ r ∈ (g'.pipelineNew fails name).1, b ≤ r := by
  unfold Gst.pipelineNew
  split
  · exact ⟨h.fail, by rintro r ⟨⟩⟩
  · have hplain : ¬ Scheduled (ascii "pipeline") none := by decide
    refine ⟨((h.alloc true hplain).alloc false (by decide)).setOwner (Nat.le_succ_of_le h.le') _, ?_⟩
    rintro r ⟨⟩
    exact h.le'

end Spares

/-! ### One object -/

/-- The account of an object that nobody owns: it has `n` references, and since `g₀` none was dropped after the
last one. -/
structure Held (g₀ g : Gst) (x n : Nat) (o : GObject) : Prop where
  get : g.heap.get x = some ⟨n, false, none, o⟩
  misused : g.heap.misused.count x = g₀.heap.misused.count x

variable {g₀ g g' : Gst} {x r n : Nat} {o : GObject}

namespace Held

theorem owner (h : Held g₀ g x n o) : g.owner x = none := by
  rw [Gst.owner, Heap.owner, h.get]; rfl

theorem obj (h : Held g₀ g x n o) : g.obj x = some o := by
  rw [Gst.obj, Heap.data, h.get]; rfl

theorem lt (h : Held g₀ g x n o) : x < g.next := Heap.get_lt h.get

theorem spares (h : Held g₀ g x n o) {b : Nat} {S : Bytes → Option Nat → Prop} (hs : g.Spares b S g') (hx : x < b) :
    Held g₀ g' x n o := by
  obtain ⟨hget, hcount⟩ := hs.get x hx h.owner
  exact ⟨hget.trans h.get, hcount.trans h.misused⟩

theorem unref (h : Held g₀ g x (n + 1) o) : Held g₀ (g.unref x) x n o := by
  obtain ⟨hget, hcount⟩ := Heap.unref_self h.get rfl (Nat.succ_pos n)
  exact ⟨hget, hcount.trans h.misused⟩

theorem unref_other (h : Held g₀ g x n o) (hx : x ≠ r) : Held g₀ (g.unref r) x n o := by
  obtain ⟨hget, hcount⟩ := Heap.unref_of_unowned hx h.owner
  exact ⟨hget.trans h.get, hcount.trans h.misused⟩

theorem modify (h : Held g₀ g x n o) (r : Nat) (f : Cell GObject → Cell GObject) (hf) :
    ({ g with heap := g.heap.modify r f hf } : Gst).heap.get x =
      if x = r then some (f ⟨n, false, none, o⟩) else some ⟨n, false, none, o⟩ := by
  refine (Heap.get_modify r f hf x).trans ?_
  rw [h.get]; rfl

theorem ref (h : Held g₀ g x n o) : Held g₀ (g.ref x) x (n + 1) o :=
  ⟨(h.modify x _ _).trans (if_pos rfl), h.misused⟩

theorem ref_other (h : Held g₀ g x n o) (hx : x ≠ r) : Held g₀ (g.ref r) x n o :=
  ⟨(h.modify r _ _).trans (if_neg hx), h.misused⟩

theorem update (h : Held g₀ g x n o) (f : GObject → GObject) : Held g₀ (g.update x f) x n (f o) :=
  ⟨(h.modify x _ _).trans (if_pos rfl), h.misused⟩

theorem update_other (h : Held g₀ g x n o) (hx : x ≠ r) (f : GObject → GObject) : Held g₀ (g.update r f) x n o :=
  ⟨(h.modify r _ _).trans (if_neg hx), h.misused⟩

theorem alloc (h : Held g₀ g x n o) (fl : Bool) (o' : GObject) : Held g₀ (g.alloc fl o') x n o :=
  ⟨((Heap.get_alloc fl o' x).trans (if_neg (Nat.ne_of_lt h.lt))).trans h.get, h.misused⟩

/-- What is counted outside the heap does not matter. -/
theorem heap (h : Held g₀ g x n o) (heq : g'.heap = g.heap) : Held g₀ g' x n o :=
  ⟨by rw [heq]; exact h.get, by rw [heq]; exact h.misused⟩

theorem alloc_self (hm : g.heap.misused = g₀.heap.misused) (o : GObject) : Held g₀ (g.alloc false o) g.next 1 o :=
  ⟨(Heap.get_alloc false o g.next).trans (if_pos rfl), congrArg (List.count g.next) hm⟩

end Held

/-- Since `g₀`, no reference was dropped to an address that no object has. -/
def Fresh (g₀ g : Gst) : Prop := ∀ x, g.next ≤ x → g.heap.misused.count x = g₀.heap.misused.count x

namespace Fresh

theorem refl : Fresh g g := fun _ _ => rfl

theorem trans {g'' : Gst} (h : Fresh g g') (h' : Fresh g' g'') (hle : g'.next ≤ g''.next) : Fresh g g'' := fun x hx =>
  (h' x hx).trans (h x (Nat.le_trans hle hx))

theorem unref (h : Fresh g₀ g) (hr : r < g.next) : Fresh g₀ (g.unref r) := by
  intro x hx
  rw [next_unref] at hx
  have hne : x ≠ r := by omega
  exact (Heap.unref_of_unowned hne (Heap.owner_eq_none hx)).2.trans (h x hx)

/-- A call that drops no reference. -/
theorem of_misused (h : Fresh g₀ g) (hle : g.next ≤ g'.next) (hm : g'.heap.misused = g.heap.misused) : Fresh g₀ g' :=
  fun x hx => by rw [hm]; exact h x (Nat.le_trans hle hx)

theorem connect (h : Fresh g₀ g) (r : Nat) (handler : Handler) : Fresh g₀ (g.connect r handler) :=
  h.of_misused (by simp [Gst.connect]) rfl

theorem mediaNew : Fresh g g.mediaNew := by
  have howner : ∀ (g : Gst) (p r : Nat), (g.setOwner p r).heap.misused = g.heap.misused := by
    intro g p r
    unfold Gst.setOwner Heap.setOwner
    split <;> rfl
  refine refl.of_misused Spares.mediaNew.next_le ?_
  unfold Gst.mediaNew
  rw [howner]
  exact howner ..

/-- The account of an object that is newer than `g` goes back to `g₀`. -/
theorem held (h : Fresh g₀ g) (hx : g.next ≤ x) (hheld : Held g g' x n o) : Held g₀ g' x n o :=
  ⟨hheld.get, hheld.misused.trans (h x hx)⟩

end Fresh

end Gst
end CameraPlatform
