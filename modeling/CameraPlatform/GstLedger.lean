import CameraPlatform.Base.RefLedger
import CameraPlatform.HostEvents

/-!
# The ledger of the elements

Elements are what factories, `gst_bin_new` and `gst_pipeline_new` return. Buses, sources and messages
are shared with the library and only need to be told apart from them: what a pipeline or a source
names as its bus, and what waits on a bus, is never an element.
-/

namespace CameraPlatform
open ByteString RefHeap

def GObject.isElement (o : GObject) : Bool := !([ascii "bus", ascii "GSource", ascii "GstMessage"].contains o.type)

namespace Gst

/-- A new object that is not an element. -/
def Aux (g₀ g : Gst) (r : Nat) : Prop := g₀.next ≤ r ∧ ∃ o, g.obj r = some o ∧ o.isElement = false

/-- A new element, or an address that is still free. -/
abbrev Element (g₀ g : Gst) (r : Nat) : Prop := g.heap.Tracked (fun o => o.isElement = true) g₀.next r

/-- `held` lists the references to elements that the program holds. -/
structure Account (g₀ g : Gst) (held : List Nat) : Prop where
  ledger : Heap.Ledger (fun o : GObject => o.isElement = true) g₀.heap g.heap held
  bus : ∀ x o y, g₀.next ≤ x → g.obj x = some o → o.bus = some y → Aux g₀ g y
  queue : ∀ x o y, g₀.next ≤ x → g.obj x = some o → y ∈ o.queue → Aux g₀ g y

section
variable {g₀ g g' : Gst} {held held' : List Nat} {r p : Nat}

theorem Aux.lt (h : Aux g₀ g r) : r < g.next := by
  obtain ⟨o, ho, -⟩ := h.2
  exact lt_of_obj ho

theorem Aux.not_element (h : Aux g₀ g r) : ¬ Element g₀ g r := fun he => by
  obtain ⟨o, ho, haux⟩ := h.2
  have hel : o.isElement = true := he.2 o ho
  rw [haux] at hel
  cases hel

instance : Plumbing GObject.type := ⟨fun _ _ => rfl, fun _ _ => rfl, fun _ _ => rfl⟩

theorem heap_linkMany (fails : Bool) (es : List Nat) : (g.linkMany fails es).2.heap = g.heap := by
  have hpairs : ∀ g : Gst, (Gst.linkPairs es g).2.heap = g.heap := fun g => by
    fun_induction Gst.linkPairs es g with
    | case1 a b es g _ ih => exact ih
    | case2 => rfl
    | case3 => rfl
  unfold Gst.linkMany
  split
  · rfl
  · exact hpairs g

/-- Elements are told by their type. -/
theorem Same.isElement (h : Same GObject.type g g') {o : GObject} (ho : g.obj r = some o) :
    ∃ o', g'.obj r = some o' ∧ o'.isElement = o.isElement := by
  obtain ⟨o', ho', htype⟩ := h.exists_obj ho
  exact ⟨o', ho', by rw [GObject.isElement, htype, GObject.isElement]⟩

theorem Aux.same (h : Aux g₀ g r) (hs : Same GObject.type g g') : Aux g₀ g' r := by
  obtain ⟨o, ho, haux⟩ := h.2
  obtain ⟨o', ho', hel⟩ := hs.isElement ho
  exact ⟨h.1, o', ho', hel.trans haux⟩

theorem Element.same (h : Element g₀ g r) (hr : r < g.next) (hs : Same GObject.type g g') : Element g₀ g' r := by
  obtain ⟨c, hc⟩ := Heap.exists_of_lt hr
  have ho : g.obj r = some c.data := congrArg (Option.map _) hc
  obtain ⟨o', ho', hel⟩ := hs.isElement ho
  refine ⟨h.1, fun o hro => ?_⟩
  obtain rfl : o' = o := Option.some.inj (ho'.symm.trans hro)
  exact hel.trans (h.2 _ ho)

namespace Account

theorem refl : Account g₀ g₀ [] := by
  have hlt : ∀ {x : Nat} {o : GObject}, g₀.next ≤ x → g₀.obj x ≠ some o := fun hx ho =>
    Nat.not_lt.mpr hx (lt_of_obj ho)
  exact ⟨.refl, fun x o y hx ho => absurd ho (hlt hx), fun x o y hx ho => absurd ho (hlt hx)⟩

theorem perm (h : Account g₀ g held) (hperm : held.Perm held') : Account g₀ g held' :=
  ⟨h.ledger.perm hperm, h.bus, h.queue⟩

theorem aux_iff (haux : Aux g₀ g r) : Account g₀ g (r :: held) ↔ Account g₀ g held :=
  ⟨fun h => ⟨(Heap.Ledger.untracked_iff haux.not_element haux.lt).mp h.ledger, h.bus, h.queue⟩,
    fun h => ⟨(Heap.Ledger.untracked_iff haux.not_element haux.lt).mpr h.ledger, h.bus, h.queue⟩⟩

/-- A step of the ledger that changes no object. -/
theorem step (h : Account g₀ g held) (hobj : ∀ x, g'.obj x = g.obj x)
    (hledger : Heap.Ledger (fun o : GObject => o.isElement = true) g₀.heap g'.heap held') :
    Account g₀ g' held' := by
  have haux : ∀ {y}, Aux g₀ g y → Aux g₀ g' y := fun h => ⟨h.1, by rw [hobj]; exact h.2⟩
  exact ⟨hledger, fun x o y hx ho hy => haux (h.bus x o y hx (hobj x ▸ ho) hy),
    fun x o y hx ho hy => haux (h.queue x o y hx (hobj x ▸ ho) hy)⟩

/-- What is counted outside the heap does not matter. -/
theorem heap (h : Account g₀ g held) (heq : g'.heap = g.heap) : Account g₀ g' held :=
  h.step (fun x => by rw [obj, heq]; rfl) (heq ▸ h.ledger)

theorem ref (h : Account g₀ g held) (hr : r < g.next) : Account g₀ (g.ref r) (r :: held) :=
  h.step (obj_ref r) (h.ledger.ref hr)

theorem unref (h : Account g₀ g (r :: held)) : Account g₀ (g.unref r) held :=
  h.step (obj_unref r) h.ledger.unref

theorem ref_aux (h : Account g₀ g held) (haux : Aux g₀ g r) : Account g₀ (g.ref r) held :=
  (aux_iff (haux.same (Keeps.refl.ref r).same)).mp (h.ref haux.lt)

theorem unref_aux (h : Account g₀ g held) (haux : Aux g₀ g r) : Account g₀ (g.unref r) held :=
  ((aux_iff haux).mpr h).unref

theorem refSink_floating (h : Account g₀ g held) (hr : r < g.next) (hfl : g.heap.floating r = true) :
    Account g₀ (g.refSink r) held :=
  h.step (obj_refSink r) (h.ledger.refSink_floating hr hfl)

theorem refSink_sunk (h : Account g₀ g held) (hr : r < g.next) (hfl : g.heap.floating r = false) :
    Account g₀ (g.refSink r) (r :: held) :=
  h.step (obj_refSink r) (h.ledger.refSink_sunk hr hfl)

theorem setOwner (h : Account g₀ g (r :: held)) (hp : Element g₀ g p) (hne : p ≠ r) (hfree : g.owner r = none)
    (hroot : g.owner p = none) (hmem : p ∈ held) : Account g₀ (g.setOwner p r) held :=
  h.step (obj_setOwner p r) (h.ledger.setOwner hp hne hfree hroot hmem)

theorem clearObject {o : Option Nat} (h : Account g₀ g (o.toList ++ held)) : Account g₀ (g.clearObject o) held := by
  cases o with
  | none => exact h
  | some r => exact h.unref

/-- A write that keeps the type and the bus, and names no element as a message. -/
theorem update (h : Account g₀ g held) (r : Nat) {f : GObject → GObject} (htype : ∀ o, (f o).type = o.type)
    (hbus : ∀ o, (f o).bus = o.bus)
    (hqueue : ∀ o y, y ∈ (f o).queue → y ∈ o.queue ∨ Aux g₀ g y) : Account g₀ (g.update r f) held := by
  have haux : ∀ {y}, Aux g₀ g y → Aux g₀ (g.update r f) y := fun h => h.same (Same.refl.update r htype)
  have hobj : ∀ {x o}, (g.update r f).obj x = some o → ∃ o', g.obj x = some o' ∧ (o = o' ∨ o = f o') := by
    intro x o ho
    rw [obj_update] at ho
    split at ho
    · obtain ⟨o', ho', rfl⟩ := Option.map_eq_some_iff.mp ho
      exact ⟨o', ho', .inr rfl⟩
    · exact ⟨o, ho, .inl rfl⟩
  refine ⟨h.ledger.update r fun o => by rw [GObject.isElement, htype]; rfl, fun x o y hx ho hy => haux ?_,
    fun x o y hx ho hy => haux ?_⟩
  · obtain ⟨o', ho', rfl | rfl⟩ := hobj ho
    · exact h.bus x _ y hx ho' hy
    · exact h.bus x o' y hx ho' (hbus o' ▸ hy)
  · obtain ⟨o', ho', rfl | rfl⟩ := hobj ho
    · exact h.queue x _ y hx ho' hy
    · exact (hqueue o' y hy).elim (h.queue x o' y hx ho') id

/-- A write of anything else. -/
theorem write (h : Account g₀ g held) (r : Nat) {f : GObject → GObject} (htype : ∀ o, (f o).type = o.type)
    (hbus : ∀ o, (f o).bus = o.bus) (hqueue : ∀ o, (f o).queue = o.queue) : Account g₀ (g.update r f) held :=
  h.update r htype hbus fun o _ hy => .inl (hqueue o ▸ hy)

theorem setObject (h : Account g₀ g held) (r : Nat) (key : Bytes) (v : GValue) :
    Account g₀ (g.setObject r key v) held := h.write r (fun _ => rfl) (fun _ => rfl) fun _ => rfl

theorem setState (h : Account g₀ g held) (fails : Bool) (r : Nat) (state : GstState) :
    Account g₀ (g.setState fails r state).2 held := by
  unfold Gst.setState
  split
  · exact h.heap rfl
  · exact h.write r (fun _ => rfl) (fun _ => rfl) fun _ => rfl

theorem steers (h : Account g₀ g held) (hg : Steers g g') : Account g₀ g' held := by
  cases hg with
  | refl => exact h
  | fail => exact h.heap rfl
  | setState fails r state => exact h.setState fails r state

/-! ### New objects -/

theorem grown (h : Account g₀ g held) (fl : Bool) {o : GObject}
    (hledger : Heap.Ledger (fun o : GObject => o.isElement = true) g₀.heap (g.alloc fl o).heap held')
    (hbus : ∀ y, o.bus = some y → Aux g₀ (g.alloc fl o) y) (hqueue : o.queue = []) :
    Account g₀ (g.alloc fl o) held' := by
  have haux : ∀ {y}, Aux g₀ g y → Aux g₀ (g.alloc fl o) y := fun h => h.same (Keeps.refl.alloc fl o).same
  refine ⟨hledger, fun x o' y hx ho hy => ?_, fun x o' y hx ho hy => ?_⟩
  all_goals
    rw [obj_alloc] at ho
    split at ho
    · obtain rfl := Option.some.inj ho
      first
        | exact hbus y hy
        | rw [hqueue] at hy; cases hy
  · exact haux (h.bus x o' y hx ho hy)
  · exact haux (h.queue x o' y hx ho hy)

theorem alloc (h : Account g₀ g held) (fl : Bool) {o : GObject} (ho : o.isElement = true) (hbus : o.bus = none)
    (hqueue : o.queue = []) : Account g₀ (g.alloc fl o) (g.next :: held) :=
  h.grown fl (h.ledger.alloc fl ho) (fun y hy => by rw [hbus] at hy; cases hy) hqueue

theorem alloc_aux (h : Account g₀ g held) (fl : Bool) {o : GObject} (ho : o.isElement = false)
    (hbus : ∀ y, o.bus = some y → Aux g₀ g y) (hqueue : o.queue = []) :
    Account g₀ (g.alloc fl o) held ∧ Aux g₀ (g.alloc fl o) g.next :=
  ⟨h.grown fl (h.ledger.alloc_untracked fl (by simp [ho]))
      (fun y hy => (hbus y hy).same (Keeps.refl.alloc fl o).same) hqueue,
    h.ledger.next_le, o, by rw [obj_alloc, if_pos rfl], ho⟩

theorem factoryMake (h : Account g₀ g held) (fails : Bool) {type name : Bytes}
    (htype : ({ type, name } : GObject).isElement = true) :
    Account g₀ (g.factoryMake fails type name).2 ((g.factoryMake fails type name).1.toList ++ held) := by
  unfold Gst.factoryMake
  split
  · exact h.heap rfl
  · exact h.alloc true htype rfl rfl

/-- The pipeline is listed, its bus is not. -/
theorem pipelineNew (h : Account g₀ g held) (fails : Bool) (name : Bytes) :
    Account g₀ (g.pipelineNew fails name).2 ((g.pipelineNew fails name).1.toList ++ held) := by
  cases fails with
  | true => exact h.heap rfl
  | false =>
    obtain ⟨hnext, -, hpipe, hbus, -⟩ := Gst.pipelineNew_spec (g := g) name
    have hgrew : g.Grew (g.pipelineNew false name).2 := Grew.refl.pipelineNew ..
    have haux : Aux g₀ (g.pipelineNew false name).2 (g.next + 1) :=
      ⟨Nat.le_succ_of_le h.ledger.next_le, _, hbus, by decide⟩
    have hobj : ∀ {x o}, (g.pipelineNew false name).2.obj x = some o → g.obj x = some o ∨
        (x = g.next ∧ o.bus = some (g.next + 1) ∧ o.queue = []) ∨ (o.bus = none ∧ o.queue = []) := by
      intro x o ho
      have hlt := lt_of_obj ho
      rw [hnext] at hlt
      rcases Nat.lt_trichotomy x g.next with hx | rfl | hx
      · exact .inl (hgrew.obj_eq hx ▸ ho)
      · rw [hpipe] at ho
        obtain rfl := Option.some.inj ho
        exact .inr (.inl ⟨rfl, rfl, rfl⟩)
      · obtain rfl : x = g.next + 1 := by omega
        rw [hbus] at ho
        obtain rfl := Option.some.inj ho
        exact .inr (.inr ⟨rfl, rfl⟩)
    have hold : ∀ {y}, Aux g₀ g y → Aux g₀ (g.pipelineNew false name).2 y := fun h => h.same hgrew.keeps.same
    refine ⟨?_, fun x o y hx ho hy => ?_, fun x o y hx ho hy => ?_⟩
    · -- the bus takes the pipeline as its owner
      have h1 := h.ledger.alloc true (a := { type := ascii "pipeline", name, bus := some (g.next + 1) })
        (by simp [GObject.isElement, ascii])
      have h2 := h1.alloc_untracked false (a := { type := ascii "bus" }) (by simp [GObject.isElement])
      have hne : g.next ≠ g.next + 1 := by omega
      have hnot : ¬ Heap.Tracked (fun o : GObject => o.isElement = true) g₀.heap.next
          ((g.heap.alloc true { type := ascii "pipeline", name, bus := some (g.next + 1) }).alloc false
            { type := ascii "bus" }) (g.next + 1) := fun ht => by
        have := ht.2 { type := ascii "bus" } (by
          rw [Heap.data_alloc, if_pos (by rw [Heap.next_alloc]; rfl)])
        revert this
        decide
      have h3 := (Heap.Ledger.untracked_iff hnot (by simp [Gst.next])).mpr h2
      refine h3.setOwner ⟨h.ledger.next_le, fun o ho => ?_⟩ hne ?_ ?_ (by simp [Gst.next])
      · rw [Heap.data_alloc, if_neg (by rw [Heap.next_alloc]; simp [Gst.next]), Heap.data_alloc,
          if_pos (show g.next = g.heap.next from rfl)] at ho
        obtain rfl := Option.some.inj ho
        simp [GObject.isElement, ascii]
      · rw [Heap.owner_alloc, Heap.owner_alloc]
        exact Heap.owner_eq_none (Nat.le_succ _)
      · rw [Heap.owner_alloc, Heap.owner_alloc]
        exact Heap.owner_eq_none (Nat.le_refl _)
    · rcases hobj ho with ho | ⟨-, hb, -⟩ | ⟨hb, -⟩
      · exact hold (h.bus x o y hx ho hy)
      · rw [hb] at hy
        exact Option.some.inj hy ▸ haux
      · rw [hb] at hy; cases hy
    · rcases hobj ho with ho | ⟨-, -, hq⟩ | ⟨-, hq⟩
      · exact hold (h.queue x o y hx ho hy)
      · rw [hq] at hy; cases hy
      · rw [hq] at hy; cases hy

/-! ### Assembling a bin -/

/-- Floating elements that fit into a bin change hands. -/
theorem binAddMany {es : List Nat} (h : Account g₀ g (es ++ held)) (hfits : g.Fits p es)
    (hfl : ∀ e ∈ es, g.heap.floating e = true) (hp : Element g₀ g p) (hroot : g.owner p = none) (hmem : p ∈ held) :
    Account g₀ (g.binAddMany p es) held ∧ (g.binAddMany p es).owner p = none ∧
      ∀ x ∉ es, (g.binAddMany p es).heap.floating x = g.heap.floating x := by
  induction es generalizing g with
  | nil => exact ⟨h, hroot, fun _ _ => rfl⟩
  | cons e es ih =>
    have hne := hfits.ne e (by simp)
    have heq := binAdd_eq hne (hfits.owner e (by simp)) fun r hr => hfits.fresh r hr e (by simp)
    have hfl' : ∀ x, x ≠ e → (g.binAdd p e).heap.floating x = g.heap.floating x := fun x hx => by
      rw [heq]
      show ((g.heap.refSink e).setOwner p e).floating x = _
      rw [Heap.floating_setOwner, Heap.floating_refSink_of_ne hx]
    obtain ⟨howner, hfits'⟩ := hfits.step
    have hsunk := h.refSink_floating (hfits.lt e (by simp)) (hfl e (by simp))
    have hown : Account g₀ ((g.refSink e).setOwner p e) (es ++ held) :=
      hsunk.setOwner ((Heap.Ledger.tracked_congr (obj_refSink e) p).mpr hp) (Ne.symm hne)
        ((owner_refSink e e).trans (hfits.owner e (by simp))) ((owner_refSink e p).trans hroot) (by simp [hmem])
    have hnames := List.nodup_cons.mp hfits.names
    rw [← heq] at hown
    obtain ⟨haccount, hroot', hfloating⟩ := @ih (g.binAdd p e) hown hfits'
      (fun x hx => by
        have hxe : x ≠ e := fun hxe => hnames.1 (List.mem_map.mpr ⟨x, hx, by rw [hxe]⟩)
        rw [hfl' x hxe]
        exact hfl x (List.mem_cons_of_mem _ hx))
      ((Heap.Ledger.tracked_congr (obj_binAdd p e) p).mpr hp) (by rw [howner, if_neg (Ne.symm hne)]; exact hroot)
    refine ⟨haccount, hroot', fun x hx => ?_⟩
    obtain ⟨hxe, hxs⟩ := not_or.mp fun h => hx (List.mem_cons.mpr h)
    exact (hfloating x hxs).trans (hfl' x hxe)

/-- The same once a property of an element was set. -/
theorem configured {es : List Nat} (h : Account g₀ g (es ++ p :: held)) (r : Nat) (key : Bytes) (v : GValue)
    (hfits : (g.setObject r key v).Fits p es) (hfl : ∀ e ∈ es, g.heap.floating e = true) (hp : Element g₀ g p)
    (hroot : g.owner p = none) :
    Account g₀ ((g.setObject r key v).binAddMany p es) (p :: held) ∧
      Element g₀ ((g.setObject r key v).binAddMany p es) p ∧
      ((g.setObject r key v).binAddMany p es).owner p = none := by
  have hlt : p < g.next := h.ledger.lt p (by simp)
  have hfl' : ∀ e ∈ es, (g.setObject r key v).heap.floating e = true := fun e he =>
    (Heap.floating_update _ _ e).trans (hfl e he)
  have hp' : Element g₀ (g.setObject r key v) p := hp.same hlt (Same.refl.update r fun _ => rfl)
  obtain ⟨haccount, howner, -⟩ := (h.setObject r key v).binAddMany hfits hfl' hp'
    ((owner_setObject r key v p).trans hroot) (by simp)
  exact ⟨haccount, (Heap.Ledger.tracked_congr (fun x => obj_binAddMany p es x) p).mpr hp', howner⟩

theorem linkMany (h : Account g₀ g held) (fails : Bool) (es : List Nat) :
    Account g₀ (g.linkMany fails es).2 held := h.heap (heap_linkMany fails es)

/-- New elements, floating and listed. -/
theorem allocAll (h : Account g₀ g held) (os : List GObject)
    (hos : ∀ o ∈ os, o.isElement = true ∧ o.bus = none ∧ o.queue = []) :
    Account g₀ (g.allocAll os) (List.range' g.next os.length ++ held) ∧
      (∀ x, g.next ≤ x → x < g.next + os.length → (g.allocAll os).heap.floating x = true) ∧
      ∀ x < g.next, (g.allocAll os).heap.floating x = g.heap.floating x := by
  induction os generalizing g held with
  | nil => exact ⟨h, fun x hx hx' => absurd hx' (Nat.not_lt.mpr hx), fun _ _ => rfl⟩
  | cons o os ih =>
    obtain ⟨hel, hbus, hqueue⟩ := hos o (by simp)
    obtain ⟨haccount, hnew, hold⟩ := @ih (g.alloc true o) _ (h.alloc true hel hbus hqueue)
      fun o ho => hos o (List.mem_cons_of_mem _ ho)
    have hfl : ∀ x, (g.alloc true o).heap.floating x = if x = g.next then true else g.heap.floating x :=
      Heap.floating_alloc true o
    rw [next_alloc] at haccount hnew hold
    refine ⟨haccount.perm ?_, fun x hx hx' => ?_, fun x hx => ?_⟩
    · rw [List.length_cons, List.range'_succ]
      exact List.perm_middle
    · rw [allocAll_cons]
      rcases Nat.eq_or_lt_of_le hx with rfl | hx
      · rw [hold _ (Nat.lt_succ_self _), hfl, if_pos rfl]
      · exact hnew x hx (by simp at hx'; omega)
    · rw [allocAll_cons, hold x (Nat.lt_succ_of_lt hx), hfl, if_neg (Nat.ne_of_lt hx)]

/-- A new pipeline, listed and held by nobody, and new elements behind it. -/
theorem pipelineParts (h : Account g₀ g held) (name : Bytes) (os : List GObject)
    (hos : ∀ o ∈ os, o.isElement = true ∧ o.bus = none ∧ o.queue = []) {g₁ : Gst}
    (hg₁ : g₁ = (g.pipelineNew false name).2) :
    Account g₀ (g₁.allocAll os) (List.range' (g.next + 2) os.length ++ g.next :: held) ∧
      (∀ x, g.next + 2 ≤ x → x < g.next + 2 + os.length → (g₁.allocAll os).heap.floating x = true) ∧
      (∀ x < g.next, (g₁.allocAll os).heap.floating x = g.heap.floating x) ∧
      Element g₀ (g₁.allocAll os) g.next ∧ (g₁.allocAll os).owner g.next = none := by
  have hpipe := h.pipelineNew false name
  have hgrew : g.Grew (g.pipelineNew false name).2 := Grew.refl.pipelineNew ..
  have hfst : (g.pipelineNew false name).1 = some g.next := rfl
  obtain ⟨hnext, -, hobj, -, howner⟩ := Gst.pipelineNew_spec (g := g) name
  rw [hfst, ← hg₁] at hpipe
  rw [← hg₁] at hgrew hnext hobj howner
  obtain ⟨haccount, hnew, hold⟩ := hpipe.allocAll os hos
  rw [hnext] at haccount hnew hold
  have hpipeline : (g₁.allocAll os).obj g.next =
      some { type := ascii "pipeline", name, bus := some (g.next + 1) } := by
    rw [obj_allocAll_of_lt _ (by omega)]; exact hobj
  refine ⟨haccount, hnew, fun x hx => ?_, ⟨h.ledger.next_le, fun o ho => ?_⟩, ?_⟩
  · rw [hold x (by omega), Heap.floating, hgrew.get x hx]
    rfl
  · obtain rfl := Option.some.inj (hpipeline.symm.trans ho)
    simp [GObject.isElement, ascii]
  · rw [owner_allocAll, howner, if_neg (by omega)]
    exact owner_eq_none (Nat.le_refl _)

/-! ### The bus and its sources -/

theorem getBus (h : Account g₀ g held) (fails : Bool) (hp : g₀.next ≤ p) :
    Account g₀ (g.getBus fails p).2 held ∧ ∀ bus ∈ (g.getBus fails p).1, Aux g₀ (g.getBus fails p).2 bus := by
  unfold Gst.getBus
  split
  · next bus hbus =>
    obtain ⟨o, ho, hb⟩ := Option.bind_eq_some_iff.mp hbus
    have haux := h.bus p o bus hp ho hb
    refine ⟨h.ref_aux haux, ?_⟩
    rintro _ ⟨⟩
    exact haux.same (Keeps.refl.ref bus).same
  · exact ⟨h.heap rfl, by rintro _ ⟨⟩⟩

theorem busCreateWatch (h : Account g₀ g held) (fails : Bool) {bus : Nat} (haux : Aux g₀ g bus) :
    Account g₀ (g.busCreateWatch fails bus).2 held ∧
      ∀ s ∈ (g.busCreateWatch fails bus).1, Aux g₀ (g.busCreateWatch fails bus).2 s := by
  unfold Gst.busCreateWatch
  split
  · exact ⟨h.heap rfl, by rintro _ ⟨⟩⟩
  · obtain ⟨haccount, hsource⟩ := h.alloc_aux false (o := { type := ascii "GSource", bus := some bus })
      (by simp [GObject.isElement]) (by rintro _ ⟨⟩; exact haux) rfl
    refine ⟨haccount, ?_⟩
    rintro _ ⟨⟩
    exact hsource

theorem sourceAttach (h : Account g₀ g held) {source : Nat} (haux : Aux g₀ g source) (context : Nat) :
    Account g₀ (g.sourceAttach source context) held :=
  (h.write source (f := fun o => { o with context := some context }) (fun _ => rfl) (fun _ => rfl)
    fun _ => rfl).ref_aux (haux.same (Same.refl.update source fun _ => rfl))

theorem sourceDestroy (h : Account g₀ g held) {source : Nat} (haux : Aux g₀ g source) :
    Account g₀ (g.sourceDestroy source) held := by
  unfold Gst.sourceDestroy
  split
  · exact (h.write source (f := fun o => { o with context := none }) (fun _ => rfl) (fun _ => rfl)
      fun _ => rfl).unref_aux
      (haux.same (Same.refl.update source fun _ => rfl))
  · exact h

theorem post (h : Account g₀ g held) (bus : Nat) (m : GstMessage) : Account g₀ (g.post bus m) held := by
  obtain ⟨haccount, haux⟩ := h.alloc_aux false (o := { type := ascii "GstMessage", message := some m })
    (by simp [GObject.isElement]) (by rintro _ ⟨⟩) rfl
  refine haccount.update bus (fun _ => rfl) (fun _ => rfl) fun o y hy => ?_
  rcases List.mem_append.mp hy with hy | hy
  · exact .inl hy
  · obtain rfl := List.mem_singleton.mp hy
    exact .inr haux

theorem postAll (h : Account g₀ g held) (bus : Nat) (ms : List GstMessage) : Account g₀ (g.postAll bus ms) held := by
  induction ms generalizing g with
  | nil => exact h
  | cons m ms ih => exact @ih (g.post bus m) (h.post bus m)

theorem busPop (h : Account g₀ g held) {bus : Nat} (hbus : g₀.next ≤ bus) :
    Account g₀ (g.busPop bus).2 held ∧ ∀ m ∈ (g.busPop bus).1, Aux g₀ (g.busPop bus).2 m := by
  refine ⟨h.update bus (fun _ => rfl) (fun _ => rfl) fun o y hy => .inl (List.mem_of_mem_tail hy), fun m hm => ?_⟩
  have hmem : m ∈ g.queue bus := List.mem_of_mem_head? hm
  unfold Gst.queue at hmem
  cases ho : g.obj bus with
  | none => rw [ho] at hmem; cases hmem
  | some o =>
    rw [ho] at hmem
    exact (h.queue bus o m hbus ho hmem).same (Same.refl.update bus fun _ => rfl)

theorem messageUnref (h : Account g₀ g held) {m : Option Nat} (hm : ∀ x ∈ m, Aux g₀ g x) :
    Account g₀ (g.messageUnref m) held := by
  cases m with
  | none => exact h.heap rfl
  | some m => exact h.unref_aux (hm m rfl)

theorem detachBusWatch (h : Account g₀ g held) {w : BusWatch} (hw : ∀ s ∈ w.busSource, Aux g₀ g s) :
    Account g₀ (w.detachBusWatch g).2 held := by
  unfold BusWatch.detachBusWatch
  split
  · next source hs =>
    have haux := hw source (by rw [hs]; rfl)
    exact (h.sourceDestroy haux).unref_aux (haux.same (Same.refl.sourceDestroy source))
  · exact h

theorem attachBusWatch (h : Account g₀ g held) {w : BusWatch} (hw : ∀ s ∈ w.busSource, Aux g₀ g s)
    (fails : WatchCall → Bool) (hp : g₀.next ≤ p) (context callback : Nat) :
    Account g₀ (w.attachBusWatch fails p context callback g).2.2 held ∧
      ∀ s ∈ (w.attachBusWatch fails p context callback g).2.1.busSource,
        Aux g₀ (w.attachBusWatch fails p context callback g).2.2 s := by
  have hnone : (w.detachBusWatch g).1.busSource = none := by rw [BusWatch.detachBusWatch_fst]
  obtain ⟨hbus, haux⟩ := (h.detachBusWatch hw).getBus (fails .getBus) hp
  unfold BusWatch.attachBusWatch
  simp only
  split
  · next g₁ hg₁ =>
    rw [hg₁] at hbus
    exact ⟨hbus, by rw [hnone]; rintro _ ⟨⟩⟩
  · next bus g₁ hg₁ =>
    rw [hg₁] at hbus haux
    obtain ⟨hwatch, hsource⟩ := hbus.busCreateWatch (fails .createWatch) (haux bus rfl)
    have hsame : Same GObject.type g₁ (g₁.busCreateWatch (fails .createWatch) bus).2 := Same.refl.busCreateWatch ..
    split
    · next g₂ hg₂ =>
      rw [hg₂] at hwatch
      exact ⟨hwatch, by rintro _ ⟨⟩⟩
    · next source g₂ hg₂ =>
      rw [hg₂] at hwatch hsource hsame
      have hattach : Same GObject.type g₂ (g₂.sourceAttach source context) := Same.refl.sourceAttach ..
      refine ⟨(hwatch.sourceAttach (hsource source rfl) context).unref_aux
        (((haux bus rfl).same hsame).same hattach), ?_⟩
      rintro _ ⟨⟩
      exact (hsource source rfl).same (hattach.keeps (Keeps.refl.unref bus))

theorem onBusMessageStatic (h : Account g₀ g held) (w : BusWatch) (hp : g₀.next ≤ p) :
    Account g₀ (w.onBusMessageStatic p g).2 held := by
  obtain ⟨hbus, haux⟩ := h.getBus false hp
  unfold BusWatch.onBusMessageStatic
  split
  · next g₁ hg₁ => rw [hg₁] at hbus; exact hbus
  · next bus g₁ hg₁ =>
    rw [hg₁] at hbus haux
    obtain ⟨hpop, hmsg⟩ := hbus.busPop (haux bus rfl).1
    have hsame : Same GObject.type g₁ (g₁.busPop bus).2 := Same.refl.busPop bus
    refine (hpop.unref_aux ((haux bus rfl).same hsame)).messageUnref fun m hm => ?_
    exact (hmsg m hm).same (Keeps.refl.unref bus).same

/-- A dispatch is as balanced as its handler. -/
theorem dispatch (h : Account g₀ g held) {source : Nat} (haux : Aux g₀ g source) {handler : Gst → List Report × Gst}
    (hhandler : ∀ g₁, Account g₀ g₁ held → Account g₀ (handler g₁).2 held)
    (hsame : ∀ g₁, Same GObject.type g₁ (handler g₁).2) (during : List GstMessage) :
    Account g₀ (g.dispatch source handler during).2 held := by
  unfold Gst.dispatch
  split
  · exact h
  · next bus hbus =>
    obtain ⟨o, ho, hb⟩ := Option.bind_eq_some_iff.mp hbus
    obtain ⟨_, -, hb⟩ := Option.bind_eq_some_iff.mp hb
    have hbusaux := h.bus source o bus haux.1 ho hb
    obtain ⟨hpop, hmsg⟩ := h.busPop hbusaux.1
    split
    · next g₁ hg₁ =>
      rw [hg₁] at hpop
      exact hpop.postAll bus during
    · next msg g₁ hg₁ =>
      rw [hg₁] at hpop hmsg
      exact (hhandler _ (hpop.postAll bus during)).unref_aux
        ((hmsg msg rfl).same ((Same.refl.postAll bus during).trans (hsame _)))

end Account

end

/-! ### What a ledger shows -/

/-- The elements that were made since `g`. -/
def MadeSince (g g' : Gst) (r : Nat) : Prop := g.next ≤ r ∧ ∃ o, g'.obj r = some o ∧ o.isElement = true

/-- No element was unreferenced after its release. -/
def NoneMisused (g g' : Gst) : Prop := ∀ r, MadeSince g g' r → g'.heap.misused.count r = g.heap.misused.count r

def AllReleased (g g' : Gst) : Prop := ∀ r, MadeSince g g' r → g'.alive r = false

section
variable {g g' : Gst} {held : List Nat} {r : Nat}

theorem MadeSince.element (h : MadeSince g g' r) : Element g g' r := by
  obtain ⟨o, ho, hel⟩ := h.2
  refine ⟨h.1, fun a ha => ?_⟩
  obtain rfl : o = a := Option.some.inj (ho.symm.trans ha)
  exact hel

theorem Account.noneMisused (h : Account g g' held) : NoneMisused g g' := fun r hr => h.ledger.misused r hr.element

theorem Account.allReleased (h : Account g g' []) : AllReleased g g' := fun r hr => by
  have hzero := h.ledger.released (by simp) hr.element
  rw [Bool.eq_false_iff]
  intro halive
  have := Heap.alive_iff.mp halive
  omega

end

end Gst

namespace VideoSource
variable {g₀ g : Gst} {held : List Nat}

theorem isElement_object (source : VideoSource) : (ProfileHost.sourceObject source).isElement = true := by
  cases source <;> simp [ProfileHost.sourceObject, GObject.isElement, ascii]

theorem account_createElement (h : g₀.Account g held) (fails : Bool) (source : VideoSource) :
    g₀.Account (source.createElement fails g).2 ((source.createElement fails g).1.toList ++ held) := by
  cases source <;> exact h.factoryMake fails (by simp [GObject.isElement, ascii])

end VideoSource

end CameraPlatform
