import CameraPlatform.Gst
import Mathlib.Data.List.Induction

/-!
# What the calls leave alone

No call but `update` changes the data of an object. `Grew g g'` says that `g'` is `g` with more
objects: the cells of `g` are untouched, links are only added, and failures only counted up.
-/

namespace CameraPlatform
namespace Gst
open ByteString RefHeap

variable {g g' : Gst}

/-! ### Data -/

theorem obj_alloc (fl : Bool) (o : GObject) (r : Nat) :
    (g.alloc fl o).obj r = if r = g.next then some o else g.obj r := g.heap.data_alloc fl o r

theorem obj_update (r : Nat) (f : GObject → GObject) (x : Nat) :
    (g.update r f).obj x = if x = r then (g.obj x).map f else g.obj x := g.heap.data_update r f x

theorem lt_of_obj {x : Nat} {o : GObject} (h : g.obj x = some o) : x < g.next := by
  obtain ⟨c, hc, -⟩ := Option.map_eq_some_iff.mp h
  exact Heap.get_lt hc

theorem obj_eq_none {x : Nat} (hx : g.next ≤ x) : g.obj x = none := by
  rw [obj, Heap.data, Heap.get_eq_none hx]; rfl

theorem lt_of_bind {α : Type} {π : GObject → Option α} {x : Nat} {a : α} (h : (g.obj x).bind π = some a) :
    x < g.next := by
  obtain ⟨o, ho, -⟩ := Option.bind_eq_some_iff.mp h
  exact lt_of_obj ho

@[simp] theorem obj_ref (r x : Nat) : (g.ref r).obj x = g.obj x := g.heap.data_ref r x
@[simp] theorem obj_refSink (r x : Nat) : (g.refSink r).obj x = g.obj x := g.heap.data_refSink r x
@[simp] theorem obj_unref (r x : Nat) : (g.unref r).obj x = g.obj x := g.heap.data_unref r x
@[simp] theorem obj_setOwner (p r x : Nat) : (g.setOwner p r).obj x = g.obj x := g.heap.data_setOwner p r x
@[simp] theorem obj_fail (x : Nat) : g.fail.obj x = g.obj x := rfl

@[simp] theorem obj_binAdd (bin e x : Nat) : (g.binAdd bin e).obj x = g.obj x := by
  unfold binAdd; split
  · simp
  · split <;> simp

@[simp] theorem obj_binAddMany (bin : Nat) (es : List Nat) (x : Nat) :
    (g.binAddMany bin es).obj x = g.obj x := by
  induction es generalizing g with
  | nil => rfl
  | cons e es ih => exact (@ih (g.binAdd bin e)).trans (obj_binAdd ..)

@[simp] theorem obj_linkPairs (es : List Nat) (x : Nat) : (linkPairs es g).2.obj x = g.obj x := by
  fun_induction linkPairs es g with
  | case1 a b es g _ ih => exact ih
  | case2 => rfl
  | case3 => rfl

@[simp] theorem obj_linkMany (fails : Bool) (es : List Nat) (x : Nat) :
    (g.linkMany fails es).2.obj x = g.obj x := by
  unfold linkMany; split <;> simp

@[simp] theorem obj_padLink (fails : Bool) (tee bin x : Nat) : (g.padLink fails tee bin).2.obj x = g.obj x := by
  unfold padLink; split <;> rfl

@[simp] theorem obj_messageUnref (m : Option Nat) (x : Nat) : (g.messageUnref m).obj x = g.obj x := by
  cases m
  · rfl
  · exact obj_unref ..

@[simp] theorem failures_clearObject (p : Option Nat) : (g.clearObject p).failures = g.failures := by
  cases p <;> rfl

theorem failures_factoryMake (fails : Bool) (type name : Bytes) :
    (g.factoryMake fails type name).2.failures = g.failures + fails.toNat := by
  cases fails <;> rfl

theorem prop_setObject (r : Nat) (key : Bytes) (v : GValue) (x : Nat) (k : Bytes) :
    (g.setObject r key v).prop x k = if x = r ∧ k = key ∧ (g.obj x).isSome then some v else g.prop x k := by
  rw [prop, setObject, obj_update, prop]
  by_cases hx : x = r
  · cases ho : g.obj x with
    | none => simp
    | some o => by_cases hk : k = key <;> simp [hx, hk]
  · simp [hx]

theorem name_congr (r : Nat) (h : g'.obj r = g.obj r) : g'.name r = g.name r := by rw [name, h]; rfl

/-! ### Owners -/

@[simp] theorem owner_alloc (fl : Bool) (o : GObject) (x : Nat) : (g.alloc fl o).owner x = g.owner x :=
  Heap.owner_alloc fl o x

@[simp] theorem owner_update (r : Nat) (f : GObject → GObject) (x : Nat) :
    (g.update r f).owner x = g.owner x := Heap.owner_update r f x

@[simp] theorem owner_ref (r x : Nat) : (g.ref r).owner x = g.owner x := Heap.owner_ref r x
@[simp] theorem owner_refSink (r x : Nat) : (g.refSink r).owner x = g.owner x := Heap.owner_refSink r x
@[simp] theorem owner_setObject (r : Nat) (key : Bytes) (v : GValue) (x : Nat) :
    (g.setObject r key v).owner x = g.owner x := owner_update ..

theorem owner_setOwner {p : Nat} (hp : p < g.next) {r : Nat} (hr : r < g.next) (x : Nat) :
    (g.setOwner p r).owner x = if x = r then some p else g.owner x := Heap.owner_setOwner hp hr x

theorem owner_lt_next {r p : Nat} (h : g.owner r = some p) : p < g.next := Heap.owner_lt_next h

theorem owner_eq_none {r : Nat} (h : g.next ≤ r) : g.owner r = none := Heap.owner_eq_none h

theorem lt_of_owner {r p : Nat} (h : g.owner r = some p) : r < g.next := by
  by_contra hr
  rw [owner_eq_none (Nat.le_of_not_lt hr)] at h
  cases h

/-! ### The number of objects -/

@[simp] theorem next_alloc (fl : Bool) (o : GObject) : (g.alloc fl o).next = g.next + 1 := Heap.next_alloc fl o
@[simp] theorem next_update (r : Nat) (f : GObject → GObject) : (g.update r f).next = g.next := Heap.next_update r f
@[simp] theorem next_setObject (r : Nat) (key : Bytes) (v : GValue) : (g.setObject r key v).next = g.next :=
  next_update ..
@[simp] theorem next_ref (r : Nat) : (g.ref r).next = g.next := Heap.next_ref r
@[simp] theorem next_refSink (r : Nat) : (g.refSink r).next = g.next := Heap.next_refSink r
@[simp] theorem next_unref (r : Nat) : (g.unref r).next = g.next := Heap.next_unref r
@[simp] theorem next_setOwner (p r : Nat) : (g.setOwner p r).next = g.next := Heap.next_setOwner p r
@[simp] theorem next_fail : g.fail.next = g.next := rfl

@[simp] theorem next_binAdd (bin e : Nat) : (g.binAdd bin e).next = g.next := by
  unfold binAdd; split
  · simp
  · split <;> simp

@[simp] theorem next_binAddMany (bin : Nat) (es : List Nat) : (g.binAddMany bin es).next = g.next := by
  induction es generalizing g with
  | nil => rfl
  | cons e es ih => exact (@ih (g.binAdd bin e)).trans (next_binAdd ..)

@[simp] theorem next_linkPairs (es : List Nat) (g : Gst) : (linkPairs es g).2.next = g.next := by
  fun_induction linkPairs es g with
  | case1 a b es g _ ih => exact ih
  | case2 => rfl
  | case3 => rfl

@[simp] theorem next_linkMany (fails : Bool) (es : List Nat) : (g.linkMany fails es).2.next = g.next := by
  unfold linkMany; split <;> simp

@[simp] theorem next_padLink (fails : Bool) (tee bin : Nat) : (g.padLink fails tee bin).2.next = g.next := by
  unfold padLink; split <;> rfl

/-! ### Several new objects -/

def allocAll (g : Gst) (os : List GObject) : Gst := os.foldl (fun g o => g.alloc true o) g

theorem allocAll_cons (o : GObject) (os : List GObject) : g.allocAll (o :: os) = (g.alloc true o).allocAll os :=
  rfl

@[simp] theorem next_allocAll (os : List GObject) : (g.allocAll os).next = g.next + os.length := by
  induction os generalizing g with
  | nil => rfl
  | cons o os ih => rw [allocAll_cons, ih, next_alloc, List.length_cons]; omega

theorem obj_allocAll (os : List GObject) {k : Nat} (hk : k < os.length) :
    (g.allocAll os).obj (g.next + k) = os[k]? := by
  induction os using List.reverseRecOn generalizing k with
  | nil => cases hk
  | append_singleton os o ih =>
    have hsnoc : g.allocAll (os ++ [o]) = (g.allocAll os).alloc true o := by simp [allocAll]
    rw [hsnoc, obj_alloc, next_allocAll]
    by_cases hlast : k = os.length
    · rw [if_pos (by rw [hlast]), hlast]; simp
    · have hlt : k < os.length := by simp at hk; omega
      rw [if_neg (by omega), ih hlt, List.getElem?_append_left hlt]

theorem obj_allocAll_of_lt (os : List GObject) {x : Nat} (hx : x < g.next) : (g.allocAll os).obj x = g.obj x := by
  induction os generalizing g with
  | nil => rfl
  | cons o os ih => rw [allocAll_cons, ih (by rw [next_alloc]; omega), obj_alloc, if_neg (by omega)]

@[simp] theorem owner_allocAll (os : List GObject) (x : Nat) : (g.allocAll os).owner x = g.owner x := by
  induction os generalizing g with
  | nil => rfl
  | cons o os ih => rw [allocAll_cons, ih, owner_alloc]

@[simp] theorem failures_allocAll (os : List GObject) : (g.allocAll os).failures = g.failures := by
  induction os generalizing g with
  | nil => rfl
  | cons o os ih => rw [allocAll_cons, ih]; rfl

/-! ### Writes of properties -/

/-- `g'` is `g` up to the properties of its objects. -/
structure SetOnly (g g' : Gst) : Prop where
  next : g'.next = g.next
  failures : g'.failures = g.failures
  links : g'.links = g.links
  owner : ∀ x, g'.owner x = g.owner x
  obj : ∀ x o, g.obj x = some o → ∃ props, g'.obj x = some { o with props }

namespace SetOnly

theorem refl : SetOnly g g := ⟨rfl, rfl, rfl, fun _ => rfl, fun _ o h => ⟨o.props, h⟩⟩

theorem setObject (h : SetOnly g g') (r : Nat) (key : Bytes) (v : GValue) :
    SetOnly g (g'.setObject r key v) := by
  refine ⟨(next_setObject ..).trans h.next, h.failures, h.links,
    fun x => (owner_setObject r key v x).trans (h.owner x), fun x o hx => ?_⟩
  obtain ⟨props, hx'⟩ := h.obj x o hx
  rw [Gst.setObject, obj_update, hx']
  split
  · exact ⟨_, rfl⟩
  · exact ⟨props, rfl⟩

theorem name (h : SetOnly g g') {x : Nat} {o : GObject} (hx : g.obj x = some o) : g'.name x = o.name := by
  obtain ⟨props, hx'⟩ := h.obj x o hx
  rw [Gst.name, hx']; rfl

end SetOnly

/-! ### Growth -/

/-- `g'` is `g` with more objects. -/
structure Grew (g g' : Gst) : Prop where
  next_le : g.next ≤ g'.next
  get : ∀ r < g.next, g'.heap.get r = g.heap.get r
  links : ∀ l ∈ g.links, l ∈ g'.links
  failures : g.failures ≤ g'.failures

namespace Grew

theorem refl : Grew g g := ⟨Nat.le_refl _, fun _ _ => rfl, fun _ h => h, Nat.le_refl _⟩

theorem trans {g'' : Gst} (h : Grew g g') (h' : Grew g' g'') : Grew g g'' :=
  ⟨Nat.le_trans h.next_le h'.next_le,
    fun r hr => (h'.get r (Nat.lt_of_lt_of_le hr h.next_le)).trans (h.get r hr),
    fun l hl => h'.links l (h.links l hl), Nat.le_trans h.failures h'.failures⟩

theorem obj_eq (h : Grew g g') {r : Nat} (hr : r < g.next) : g'.obj r = g.obj r := by
  rw [obj, Heap.data, h.get r hr]; rfl

theorem owner_eq (h : Grew g g') {r : Nat} (hr : r < g.next) : g'.owner r = g.owner r := by
  rw [owner, Heap.owner, h.get r hr]; rfl

theorem owner_lt (h : Grew g g') (x p : Nat) (hx : x < g.next) (hp : g'.owner x = some p) : p < g.next :=
  owner_lt_next ((h.owner_eq hx).symm.trans hp)

/-- One more step that changes no cell of `g`. -/
theorem step {g'' : Gst} (h : Grew g g') (hnext : g'.next ≤ g''.next)
    (hget : ∀ r < g.next, g''.heap.get r = g'.heap.get r) (hlinks : ∀ l ∈ g'.links, l ∈ g''.links)
    (hfail : g'.failures ≤ g''.failures) : Grew g g'' :=
  ⟨Nat.le_trans h.next_le hnext, fun r hr => (hget r hr).trans (h.get r hr),
    fun l hl => hlinks l (h.links l hl), Nat.le_trans h.failures hfail⟩

theorem fail (h : Grew g g') : Grew g g'.fail :=
  h.step (Nat.le_refl _) (fun _ _ => rfl) (fun _ h => h) (Nat.le_succ _)

theorem alloc (h : Grew g g') (fl : Bool) (o : GObject) : Grew g (g'.alloc fl o) := by
  refine h.step (by simp) (fun r hr => ?_) (fun _ h => h) (Nat.le_refl _)
  have := h.next_le
  show (g'.heap.alloc fl o).get r = _
  rw [Heap.get_alloc, if_neg]
  exact Nat.ne_of_lt (Nat.lt_of_lt_of_le hr h.next_le)

variable {r : Nat}

/-- A call that changes the cell of a new object only. -/
theorem modify (h : Grew g g') (hr : g.next ≤ r) (f : Cell GObject → Cell GObject) (hf) :
    Grew g { g' with heap := g'.heap.modify r f hf } := by
  refine h.step (by simp [next]) (fun x hx => ?_) (fun _ h => h) (Nat.le_refl _)
  show (g'.heap.modify r f hf).get x = _
  rw [Heap.get_modify, if_neg (by omega)]

theorem update (h : Grew g g') (hr : g.next ≤ r) (f : GObject → GObject) : Grew g (g'.update r f) :=
  h.modify hr ..

theorem setObject (h : Grew g g') (hr : g.next ≤ r) (key : Bytes) (v : GValue) :
    Grew g (g'.setObject r key v) := h.update hr _

theorem refSink (h : Grew g g') (hr : g.next ≤ r) : Grew g (g'.refSink r) := h.modify hr ..

theorem setOwner (h : Grew g g') (hr : g.next ≤ r) (p : Nat) : Grew g (g'.setOwner p r) := by
  unfold Gst.setOwner Heap.setOwner
  split
  · exact h.modify hr ..
  · exact h

theorem unref (h : Grew g g') (hr : g.next ≤ r) : Grew g (g'.unref r) := by
  refine h.step (by simp) (fun x hx => ?_) (fun _ h => h) (Nat.le_refl _)
  exact Heap.unref_get_of_lt hr (fun x p hx hp => h.owner_lt x p hx hp) hx

theorem clearObject (h : Grew g g') {p : Option Nat} (hp : ∀ r ∈ p, g.next ≤ r) :
    Grew g (g'.clearObject p) := by
  cases p with
  | none => exact h
  | some r => exact h.unref (hp r rfl)

theorem factoryMake (h : Grew g g') (fails : Bool) (type name : Bytes) :
    Grew g (g'.factoryMake fails type name).2 := by
  unfold Gst.factoryMake
  split
  · exact h.fail
  · exact h.alloc ..

/-- A factory call only makes new objects. -/
theorem factoryMake_le (h : Grew g g') (fails : Bool) (type name : Bytes) :
    ∀ r ∈ (g'.factoryMake fails type name).1, g.next ≤ r := by
  unfold Gst.factoryMake
  split
  · rintro r ⟨⟩
  · rintro r ⟨⟩
    exact h.next_le

theorem pipelineNew (h : Grew g g') (fails : Bool) (name : Bytes) :
    Grew g (g'.pipelineNew fails name).2 := by
  unfold Gst.pipelineNew
  split
  · exact h.fail
  · exact ((h.alloc _ _).alloc _ _).setOwner (Nat.le_succ_of_le h.next_le) _

theorem allocAll (h : Grew g g') (os : List GObject) : Grew g (g'.allocAll os) := by
  induction os generalizing g' with
  | nil => exact h
  | cons o os ih => exact ih (h.alloc true o)

theorem binAdd (h : Grew g g') (hr : g.next ≤ r) (bin : Nat) : Grew g (g'.binAdd bin r) := by
  unfold Gst.binAdd
  split
  · exact (h.fail.refSink hr).unref hr
  · split
    · exact h.fail
    · exact (h.refSink hr).setOwner hr bin

theorem binAddMany (h : Grew g g') (bin : Nat) {es : List Nat} (hes : ∀ e ∈ es, g.next ≤ e) :
    Grew g (g'.binAddMany bin es) := by
  induction es generalizing g' with
  | nil => exact h
  | cons e es ih => exact ih (h.binAdd (hes e (by simp)) bin) fun e he => hes e (List.mem_cons_of_mem _ he)

theorem link (h : Grew g g') (l : Nat × Nat) : Grew g { g' with links := g'.links ++ [l] } :=
  h.step (Nat.le_refl _) (fun _ _ => rfl) (fun _ h => List.mem_append_left _ h) (Nat.le_refl _)

theorem linkPairs (h : Grew g g') (es : List Nat) : Grew g (Gst.linkPairs es g').2 := by
  fun_induction Gst.linkPairs es g' with
  | case1 a b es g' _ ih => exact ih (h.link (a, b))
  | case2 => exact h.fail
  | case3 => exact h

theorem linkMany (h : Grew g g') (fails : Bool) (es : List Nat) : Grew g (g'.linkMany fails es).2 := by
  unfold Gst.linkMany
  split
  · exact h.fail
  · exact h.linkPairs es

theorem padLink (h : Grew g g') (fails : Bool) (tee bin : Nat) : Grew g (g'.padLink fails tee bin).2 := by
  unfold Gst.padLink
  split
  · exact h.link _
  · exact h.fail

end Grew

/-! ### Assembling a bin -/

theorem nameTaken_iff {bin e : Nat} :
    g.nameTaken bin e = true ↔ ∃ r, g.owner r = some bin ∧ g.name r = g.name e := by
  rw [nameTaken, List.any_eq_true]
  exact ⟨fun ⟨r, hr, hn⟩ => ⟨r, Heap.mem_children.mp hr, beq_iff_eq.mp hn⟩,
    fun ⟨r, hr, hn⟩ => ⟨r, Heap.mem_children.mpr hr, beq_iff_eq.mpr hn⟩⟩

section Assemble
variable {bin : Nat}

/-- An element without parent and with a new name is added. -/
theorem binAdd_eq {e : Nat} (hne : e ≠ bin) (howner : g.owner e = none)
    (hname : ∀ r, g.owner r = some bin → g.name r ≠ g.name e) :
    g.binAdd bin e = (g.refSink e).setOwner bin e := by
  have htaken : ¬ g.nameTaken bin e = true := fun h => by
    obtain ⟨r, hr, hn⟩ := nameTaken_iff.mp h
    exact hname r hr hn
  unfold binAdd
  rw [if_neg (by simp [hne, htaken]), howner]
  rfl

theorem owner_binAdd {e : Nat} (hbin : bin < g.next) (he : e < g.next) (hne : e ≠ bin)
    (howner : g.owner e = none) (hname : ∀ r, g.owner r = some bin → g.name r ≠ g.name e) (x : Nat) :
    (g.binAdd bin e).owner x = if x = e then some bin else g.owner x := by
  rw [binAdd_eq hne howner hname, owner_setOwner (by simpa using hbin) (by simpa using he), owner_refSink]

/-- Elements that can be put into `bin` together. -/
structure Fits (g : Gst) (bin : Nat) (es : List Nat) : Prop where
  bin_lt : bin < g.next
  lt : ∀ e ∈ es, e < g.next
  ne : ∀ e ∈ es, e ≠ bin
  owner : ∀ e ∈ es, g.owner e = none
  names : (es.map g.name).Nodup
  fresh : ∀ r, g.owner r = some bin → ∀ e ∈ es, g.name r ≠ g.name e

/-- Named elements fit into a bin whose children have no name. -/
theorem fits_of_names {es : List Nat} {names : List Bytes} (hbin : bin < g.next)
    (hes : ∀ e ∈ es, e < g.next ∧ e ≠ bin ∧ g.owner e = none) (hnames : es.map g.name = names)
    (hnodup : names.Nodup) (hnamed : [] ∉ names) (hfresh : ∀ r, g.owner r = some bin → g.name r = []) :
    g.Fits bin es := by
  refine ⟨hbin, fun e he => (hes e he).1, fun e he => (hes e he).2.1, fun e he => (hes e he).2.2,
    hnames ▸ hnodup, fun r hr e he heq => hnamed ?_⟩
  rw [← hnames, ← hfresh r hr, heq]
  exact List.mem_map_of_mem he

theorem Fits.step {e : Nat} {es : List Nat} (h : g.Fits bin (e :: es)) :
    (∀ x, (g.binAdd bin e).owner x = if x = e then some bin else g.owner x) ∧
      (g.binAdd bin e).Fits bin es := by
  have howner := owner_binAdd h.bin_lt (h.lt e (by simp)) (h.ne e (by simp)) (h.owner e (by simp))
    fun r hr => h.fresh r hr e (by simp)
  have hname : ∀ x, (g.binAdd bin e).name x = g.name x := fun x => name_congr x (obj_binAdd ..)
  have hnames := List.nodup_cons.mp h.names
  have hmem : ∀ x ∈ es, g.name e ≠ g.name x := fun x hx heq =>
    hnames.1 (heq ▸ List.mem_map_of_mem hx)
  refine ⟨howner, ?_, ?_, ?_, ?_, ?_, ?_⟩
  · simpa using h.bin_lt
  · exact fun x hx => by simpa using h.lt x (List.mem_cons_of_mem _ hx)
  · exact fun x hx => h.ne x (List.mem_cons_of_mem _ hx)
  · intro x hx
    rw [howner, if_neg (fun hxe => hmem x hx (by rw [hxe]))]
    exact h.owner x (List.mem_cons_of_mem _ hx)
  · rw [funext hname]; exact hnames.2
  · intro r hr x hx
    rw [howner] at hr
    rw [hname, hname]
    split at hr
    · next hre => rw [hre]; exact hmem x hx
    · exact h.fresh r hr x (List.mem_cons_of_mem _ hx)

/-- All of them become children, and nothing fails. -/
theorem binAddMany_spec {es : List Nat} (h : g.Fits bin es) :
    (∀ x, (g.binAddMany bin es).owner x = if x ∈ es then some bin else g.owner x) ∧
      (g.binAddMany bin es).failures = g.failures ∧ (g.binAddMany bin es).links = g.links := by
  induction es generalizing g with
  | nil => exact ⟨fun x => by simp [binAddMany], rfl, rfl⟩
  | cons e es ih =>
    obtain ⟨howner, hfits⟩ := h.step
    obtain ⟨howner', hfail, hlinks⟩ := ih hfits
    have heq := binAdd_eq (h.ne e (by simp)) (h.owner e (by simp)) fun r hr => h.fresh r hr e (by simp)
    refine ⟨fun x => ?_, hfail.trans (by rw [heq]; rfl), hlinks.trans (by rw [heq]; rfl)⟩
    show ((g.binAdd bin e).binAddMany bin es).owner x = _
    rw [howner', howner]
    by_cases hx : x ∈ es <;> by_cases hxe : x = e <;> simp [hx, hxe]

/-- Elements of one bin link. -/
theorem linkPairs_eq {es : List Nat} (h : ∀ e ∈ es, g.owner e = some bin) :
    linkPairs es g = (true, { g with links := g.links ++ es.zip es.tail }) := by
  fun_induction linkPairs es g with
  | case1 a b es g hs ih =>
    rw [ih fun e he => h e (List.mem_cons_of_mem _ he)]
    simp
  | case2 a b es g hs =>
    refine absurd ?_ hs
    rw [sameBin, h a (by simp), h b (by simp)]
    simp
  | case3 es g hes =>
    match es, hes with
    | [], _ => simp
    | [a], _ => simp
    | a :: b :: es, hes => exact absurd rfl (hes a b es)

theorem owner_unref_some {r x p : Nat} (h : (g.unref r).owner x = some p) : g.owner x = some p :=
  Heap.release_owner _ _ h

/-- An element whose name is taken does not get a parent. -/
theorem binAdd_taken {e : Nat} (h : g.nameTaken bin e = true) :
    g.failures < (g.binAdd bin e).failures ∧ ∀ x p, (g.binAdd bin e).owner x = some p → g.owner x = some p := by
  unfold binAdd
  rw [if_pos (.inr h)]
  refine ⟨Nat.lt_succ_self _, fun x p hp => ?_⟩
  exact (owner_refSink (g := g.fail) e x).symm.trans (owner_unref_some hp)

end Assemble

theorem failures_pipelineNew (fails : Bool) (name : Bytes) :
    (g.pipelineNew fails name).2.failures = g.failures + fails.toNat := by
  cases fails
  · unfold pipelineNew setOwner; rfl
  · rfl

/-- A new pipeline owns its bus and nothing else. -/
theorem pipelineNew_spec (name : Bytes) :
    let g' := (g.pipelineNew false name).2
    g'.next = g.next + 2 ∧ g'.failures = g.failures ∧
      g'.obj g.next = some { type := ascii "pipeline", name, bus := some (g.next + 1) } ∧
      g'.obj (g.next + 1) = some { type := ascii "bus" } ∧
      ∀ x, g'.owner x = if x = g.next + 1 then some g.next else g.owner x := by
  intro g'
  have hg : g' = ((g.alloc true { type := ascii "pipeline", name, bus := some (g.next + 1) }).alloc false
      { type := ascii "bus" }).setOwner g.next (g.next + 1) := rfl
  refine ⟨by rw [hg]; simp, failures_pipelineNew .., ?_, ?_, fun x => ?_⟩
  · rw [hg, obj_setOwner, obj_alloc, if_neg (by simp), obj_alloc, if_pos rfl]
  · rw [hg, obj_setOwner, obj_alloc, if_pos (by simp)]
  · have hlt : g.next < g.next + 1 + 1 := Nat.lt_succ_of_lt (Nat.lt_succ_self _)
    rw [hg, owner_setOwner (by rw [next_alloc, next_alloc]; exact hlt) (by simp)]
    simp

end Gst
end CameraPlatform
