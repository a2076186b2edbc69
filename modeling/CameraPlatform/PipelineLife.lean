import CameraPlatform.Base.RefLedger
import CameraPlatform.BusHandler
import CameraPlatform.HostSpares

/-!
# Attached sources and the pipeline they belong to

`contextOf` says which sources are attached, and no call but those of the watch changes that.
`Live p bus g` says that the pipeline `p` is there with its bus, and that nothing the bus hands out
is the pipeline.
-/

namespace CameraPlatform
open ByteString RefHeap

instance : Gst.Plumbing GObject.bus := ⟨fun _ _ => rfl, fun _ _ => rfl, fun _ _ => rfl⟩

namespace Gst

/-- The context an object is attached to. -/
def contextOf (g : Gst) (x : Nat) : Option Nat := (g.obj x).bind (·.context)

section
variable {g g' g'' : Gst}

theorem contextOf_congr (h : ∀ x, g'.obj x = g.obj x) (x : Nat) : g'.contextOf x = g.contextOf x := by
  rw [contextOf, h]; rfl

@[simp] theorem contextOf_unref (r x : Nat) : (g.unref r).contextOf x = g.contextOf x := contextOf_congr (obj_unref r) x

@[simp] theorem contextOf_ref (r x : Nat) : (g.ref r).contextOf x = g.contextOf x := contextOf_congr (obj_ref r) x

theorem contextOf_eq_none {x : Nat} (hx : g.next ≤ x) : g.contextOf x = none := by
  rw [contextOf, obj_eq_none hx]; rfl

/-- A part of the program that attaches no source and detaches none. -/
structure Idle (g g' : Gst) : Prop where
  next_le : g.next ≤ g'.next
  contextOf : ∀ x, g'.contextOf x = g.contextOf x

namespace Idle

theorem refl : Idle g g := ⟨Nat.le_refl _, fun _ => rfl⟩

theorem trans (h : Idle g g') (h' : Idle g' g'') : Idle g g'' :=
  ⟨Nat.le_trans h.next_le h'.next_le, fun x => (h'.contextOf x).trans (h.contextOf x)⟩

/-- One more call that changes no object. -/
theorem more (h : Idle g g') (hnext : g''.next = g'.next) (hobj : ∀ x, g''.obj x = g'.obj x) : Idle g g'' :=
  h.trans ⟨Nat.le_of_eq hnext.symm, contextOf_congr hobj⟩

theorem heap (h : Idle g g') (heq : g''.heap = g'.heap) : Idle g g'' :=
  h.more (congrArg Heap.next heq) fun x => by rw [obj, heq]; rfl

theorem update (h : Idle g g') (r : Nat) {f : GObject → GObject} (hf : ∀ o, (f o).context = o.context) :
    Idle g (g'.update r f) :=
  h.trans ⟨Nat.le_of_eq (next_update r f).symm, fun x => bind_obj_update hf r x⟩

theorem alloc (h : Idle g g') (fl : Bool) {o : GObject} (ho : o.context = none) : Idle g (g'.alloc fl o) := by
  refine h.trans ⟨by simp, fun x => ?_⟩
  by_cases hx : x = g'.next
  · rw [contextOf_eq_none (Nat.le_of_eq hx.symm), Gst.contextOf, obj_alloc, if_pos hx]
    exact ho
  · rw [Gst.contextOf, obj_alloc, if_neg hx]
    rfl

theorem unref (h : Idle g g') (r : Nat) : Idle g (g'.unref r) := h.more (next_unref r) (obj_unref r)

theorem clearObject (h : Idle g g') (r : Option Nat) : Idle g (g'.clearObject r) := by
  cases r with
  | none => exact h
  | some r => exact h.unref r

theorem setObject (h : Idle g g') (r : Nat) (key : Bytes) (v : GValue) : Idle g (g'.setObject r key v) :=
  h.update r fun _ => by rfl

theorem setState (h : Idle g g') (fails : Bool) (r : Nat) (state : GstState) : Idle g (g'.setState fails r state).2 := by
  unfold Gst.setState
  split
  · exact h.heap rfl
  · exact h.update r fun _ => by rfl

theorem factoryMake (h : Idle g g') (fails : Bool) (type name : Bytes) : Idle g (g'.factoryMake fails type name).2 := by
  unfold Gst.factoryMake
  split
  · exact h.heap rfl
  · exact h.alloc _ rfl

theorem pipelineNew (h : Idle g g') (fails : Bool) (name : Bytes) : Idle g (g'.pipelineNew fails name).2 := by
  unfold Gst.pipelineNew
  split
  · exact h.heap rfl
  · exact ((h.alloc _ (by rfl)).alloc _ (by rfl)).more (next_setOwner _ _) (obj_setOwner _ _)

theorem allocAll (h : Idle g g') {os : List GObject} (hos : ∀ o ∈ os, o.context = none) : Idle g (g'.allocAll os) := by
  induction os generalizing g' with
  | nil => exact h
  | cons o os ih => exact ih (h.alloc true (hos o (List.mem_cons_self ..))) fun o' ho' => hos o' (List.mem_cons_of_mem _ ho')

theorem post (h : Idle g g') (bus : Nat) (m : GstMessage) : Idle g (g'.post bus m) :=
  (h.alloc false (by rfl)).update bus fun _ => by rfl

theorem postAll (h : Idle g g') (bus : Nat) (ms : List GstMessage) : Idle g (g'.postAll bus ms) := by
  induction ms generalizing g' with
  | nil => exact h
  | cons m ms ih => exact ih (h.post bus m)

theorem busPop (h : Idle g g') (bus : Nat) : Idle g (g'.busPop bus).2 := h.update bus fun _ => by rfl

theorem getBus (h : Idle g g') (fails : Bool) (p : Nat) : Idle g (g'.getBus fails p).2 := by
  unfold Gst.getBus
  split
  · exact h.more (next_ref _) (obj_ref _)
  · exact h.heap rfl

theorem onBusMessage (h : Idle g g') (fails : Bool) (p : Option Nat) (w : BusWatch) :
    Idle g (w.onBusMessage fails p g').2 := by
  have hbus : Idle g (g'.elementGetBus fails p).2 := by
    cases p with
    | none => exact h.heap rfl
    | some p => exact h.getBus fails p
  unfold BusWatch.onBusMessage
  generalize g'.elementGetBus fails p = got at hbus
  obtain ⟨bus, g₁⟩ := got
  cases bus with
  | none => exact hbus.heap rfl
  | some bus => exact ((hbus.busPop bus).unref bus).more (next_messageUnref _) (obj_messageUnref _)

theorem dispatch (h : Idle g g') {handler : Gst → List Report × Gst} (hhandler : ∀ g, Idle g (handler g).2)
    (source : Nat) (during : List GstMessage) : Idle g (g'.dispatch source handler during).2 := by
  unfold Gst.dispatch
  split
  · exact h
  · next bus hbus =>
    have hpop := h.busPop bus
    split
    · next g₁ hg₁ =>
      rw [hg₁] at hpop
      exact hpop.postAll bus during
    · next msg g₁ hg₁ =>
      rw [hg₁] at hpop
      exact ((hpop.postAll bus during).trans (hhandler _)).unref msg

/-- A part of the program that leaves the old objects as they are and schedules nothing. -/
theorem of_spares (hk : g.Keeps g') (hs : g.Spares 0 Scheduled g') : Idle g g' := by
  refine ⟨hk.next_le, fun x => ?_⟩
  by_cases hx : x < g.next
  · unfold Gst.contextOf
    rw [hk.obj x hx]
  · rw [contextOf_eq_none (Nat.le_of_not_lt hx)]
    cases hc : g'.contextOf x with
    | none => rfl
    | some c =>
      obtain ⟨o', ho', hcontext⟩ := Option.bind_eq_some_iff.mp hc
      obtain ⟨o, ho, -⟩ := hs.made x o' ho' (.inr (.inr (by rw [hcontext]; rfl)))
      exact absurd (lt_of_obj ho) hx

end Idle

end

/-- The pipeline `p` has not been released, and it is nothing that comes off its bus `bus`. -/
structure Live (p bus : Nat) (g : Gst) : Prop where
  alive : g.alive p = true
  unowned : g.owner p = none
  busOf : g.busOf p = some bus
  ne : p ≠ bus
  messages : p ∉ g.queue bus

namespace Live
variable {p bus r : Nat} {g g' : Gst}

theorem lt (h : Live p bus g) : p < g.next := lt_of_bind h.busOf

/-- The cell of the pipeline stays as it is. -/
theorem cell (h : Live p bus g) (hget : g'.heap.get p = g.heap.get p) (hqueue : p ∉ g'.queue bus) : Live p bus g' := by
  refine ⟨?_, ?_, ?_, h.ne, hqueue⟩
  · have halive := h.alive
    unfold Gst.alive Heap.alive at halive ⊢
    rw [hget]
    exact halive
  · exact (Heap.owner_congr hget).trans h.unowned
  · have hobj : g'.obj p = g.obj p := congrArg (Option.map _) hget
    rw [Gst.busOf, hobj]
    exact h.busOf

theorem heap (h : Live p bus g) (heq : g'.heap = g.heap) : Live p bus g' := by
  refine h.cell (by rw [heq]) ?_
  rw [queue_congr (g := g) bus (by rw [obj, heq]; rfl)]
  exact h.messages

/-- References and owners of other objects do not matter. -/
theorem others (h : Live p bus g) (hget : g'.heap.get p = g.heap.get p) (hobj : ∀ x, g'.obj x = g.obj x) :
    Live p bus g' := by
  refine h.cell hget ?_
  rw [queue_congr bus (hobj bus)]
  exact h.messages

theorem unref (h : Live p bus g) (hr : p ≠ r) : Live p bus (g.unref r) :=
  h.others (Heap.unref_of_unowned hr h.unowned).1 (obj_unref r)

theorem ref (h : Live p bus g) (hr : p ≠ r) : Live p bus (g.ref r) := by
  refine h.others ?_ (obj_ref r)
  rw [Gst.ref, Heap.ref, Heap.get_modify, if_neg hr]

theorem refSink (h : Live p bus g) (hr : p ≠ r) : Live p bus (g.refSink r) := by
  refine h.others ?_ (obj_refSink r)
  rw [Gst.refSink, Heap.refSink, Heap.get_modify, if_neg hr]

theorem setOwner (h : Live p bus g) (hr : p ≠ r) (q : Nat) : Live p bus (g.setOwner q r) := by
  refine h.others ?_ (obj_setOwner q r)
  rw [Gst.setOwner, Heap.setOwner]
  split
  · rw [Heap.get_modify, if_neg hr]
  · rfl

theorem alloc (h : Live p bus g) (fl : Bool) {o : GObject} (ho : o.queue = []) : Live p bus (g.alloc fl o) := by
  refine h.cell ((Heap.get_alloc fl o p).trans (if_neg (Nat.ne_of_lt h.lt))) ?_
  have hqueue : (g.alloc fl o).queue bus = if bus = g.next then [] else g.queue bus := by
    unfold Gst.queue
    rw [obj_alloc]
    split
    · exact ho
    · rfl
  rw [hqueue]
  split
  · simp
  · exact h.messages

/-- A write that keeps the bus of the pipeline. -/
theorem update (h : Live p bus g) (r : Nat) {f : GObject → GObject} (hbus : ∀ o, (f o).bus = o.bus)
    (hqueue : p ∉ (g.update r f).queue bus) : Live p bus (g.update r f) := by
  refine ⟨?_, (owner_update r f p).trans h.unowned, (bind_obj_update hbus r p).trans h.busOf, h.ne, hqueue⟩
  have halive := h.alive
  rw [Gst.alive, Heap.alive_iff] at halive ⊢
  exact (Heap.refs_update r f p).symm ▸ halive

theorem write (h : Live p bus g) (r : Nat) {f : GObject → GObject} (hbus : ∀ o, (f o).bus = o.bus)
    (hqueue : ∀ o, (f o).queue = o.queue) : Live p bus (g.update r f) := by
  refine h.update r hbus ?_
  rw [queue_update_of_queue hqueue]
  exact h.messages

theorem setObject (h : Live p bus g) (r : Nat) (key : Bytes) (v : GValue) : Live p bus (g.setObject r key v) :=
  h.write r (fun _ => by rfl) fun _ => by rfl

theorem setState (h : Live p bus g) (fails : Bool) (r : Nat) (state : GstState) :
    Live p bus (g.setState fails r state).2 := by
  unfold Gst.setState
  split
  · exact h.heap rfl
  · exact h.write r (fun _ => by rfl) fun _ => by rfl

theorem post (h : Live p bus g) (b : Nat) (m : GstMessage) : Live p bus (g.post b m) := by
  have halloc := h.alloc false (o := { type := ascii "GstMessage", message := some m }) rfl
  refine halloc.update b (fun _ => by rfl) fun hmem => ?_
  have hlt := h.lt
  have hqueue : ∀ x ∈ (g.post b m).queue bus, x = g.next ∨
      x ∈ (g.alloc false { type := ascii "GstMessage", message := some m }).queue bus := by
    intro x hx
    unfold Gst.post Gst.queue at hx
    rw [obj_update] at hx
    unfold Gst.queue
    split at hx
    · cases ho : (g.alloc false { type := ascii "GstMessage", message := some m }).obj bus with
      | none => rw [ho] at hx; cases hx
      | some o => rw [ho] at hx; simpa [or_comm] using hx
    · exact .inr hx
  rcases hqueue p hmem with heq | hmem
  · omega
  · exact halloc.messages hmem

theorem postAll (h : Live p bus g) (b : Nat) (ms : List GstMessage) : Live p bus (g.postAll b ms) := by
  induction ms generalizing g with
  | nil => exact h
  | cons m ms ih => exact ih (h.post b m)

theorem busPop (h : Live p bus g) (b : Nat) : Live p bus (g.busPop b).2 := by
  refine h.update b (fun _ => by rfl) fun hmem => h.messages ?_
  have hmem' : p ∈ (g.busPop b).2.queue bus := hmem
  rw [queue_busPop] at hmem'
  split at hmem'
  · exact List.mem_of_mem_tail hmem'
  · exact hmem'

theorem messageUnref (h : Live p bus g) {m : Option Nat} (hm : ∀ x ∈ m, p ≠ x) : Live p bus (g.messageUnref m) := by
  cases m with
  | none => exact h.heap rfl
  | some m => exact h.unref (hm m rfl)

/-! ### While it is built -/

/-- A new pipeline comes with its bus. -/
theorem pipelineNew (g : Gst) (name : Bytes) : Live g.next (g.next + 1) (g.pipelineNew false name).2 := by
  obtain ⟨-, -, hpipe, hbus, howner⟩ := Gst.pipelineNew_spec (g := g) name
  refine ⟨?_, ?_, ?_, by omega, ?_⟩
  · have hrefs : (g.pipelineNew false name).2.heap.refs g.next = 1 := by
      show (Heap.setOwner ((g.heap.alloc true _).alloc false _) g.next (g.next + 1)).refs g.next = 1
      rw [Heap.refs_setOwner, Heap.refs_alloc, Heap.refs_alloc]
      simp [Gst.next]
    rw [Gst.alive, Heap.alive_iff, hrefs]
    exact Nat.one_pos
  · rw [howner, if_neg (by omega)]
    exact owner_eq_none (Nat.le_refl _)
  · rw [Gst.busOf, hpipe]; rfl
  · rw [Gst.queue, hbus]
    simp

theorem fail (h : Live p bus g) : Live p bus g.fail := h.heap rfl

theorem binAdd (h : Live p bus g) (hr : p ≠ r) (bin : Nat) : Live p bus (g.binAdd bin r) := by
  unfold Gst.binAdd
  split
  · exact (h.fail.refSink hr).unref hr
  · split
    · exact h.fail
    · exact (h.refSink hr).setOwner hr bin

theorem binAddMany (h : Live p bus g) (bin : Nat) {es : List Nat} (hes : p ∉ es) : Live p bus (g.binAddMany bin es) := by
  induction es generalizing g with
  | nil => exact h
  | cons e es ih =>
    exact ih (h.binAdd (fun heq => hes (heq ▸ List.mem_cons_self ..)) bin) fun hmem => hes (List.mem_cons_of_mem _ hmem)

theorem linkPairs (h : Live p bus g) (es : List Nat) : Live p bus (Gst.linkPairs es g).2 := by
  fun_induction Gst.linkPairs es g with
  | case1 a b es g _ ih => exact ih (h.heap rfl)
  | case2 => exact h.fail
  | case3 => exact h

theorem allocAll (h : Live p bus g) {os : List GObject} (hos : ∀ o ∈ os, o.queue = []) : Live p bus (g.allocAll os) := by
  induction os generalizing g with
  | nil => exact h
  | cons o os ih => exact ih (h.alloc true (hos o (List.mem_cons_self ..))) fun o' ho' => hos o' (List.mem_cons_of_mem _ ho')

/-! ### While it is watched -/

theorem sourceDestroy (h : Live p bus g) {source : Nat} (hs : p ≠ source) : Live p bus (g.sourceDestroy source) := by
  unfold Gst.sourceDestroy
  split
  · exact (h.write source (fun _ => by rfl) fun _ => by rfl).unref hs
  · exact h

theorem newWatch (h : Live p bus g) (context : Nat) : Live p bus (g.newWatch bus context) := by
  have hlt := h.lt
  have hnew := (h.ref h.ne).alloc false (o := { type := ascii "GSource", bus := some bus }) rfl
  unfold Gst.newWatch Gst.sourceAttach
  exact ((hnew.write g.next (fun _ => by rfl) fun _ => by rfl).ref (by omega)).unref h.ne

/-- The message that is popped is none of the pipeline's. -/
theorem popped (h : Live p bus g) : ∀ x ∈ (g.busPop bus).1, p ≠ x := by
  intro x hx heq
  exact h.messages (heq ▸ List.mem_of_mem_head? hx)

theorem onBusMessage (h : Live p bus g) (fails : Bool) (w : BusWatch) :
    Live p bus (w.onBusMessage fails (some p) g).2 := by
  unfold BusWatch.onBusMessage Gst.elementGetBus
  cases fails with
  | true => exact h.heap rfl
  | false =>
    have hget : g.getBus false p = (some bus, g.ref bus) := by
      unfold Gst.getBus
      rw [show (g.obj p).bind (·.bus) = some bus from h.busOf]
    have href := h.ref h.ne
    simp only [hget]
    exact ((href.busPop bus).unref h.ne).messageUnref href.popped

theorem posted (h : Live p bus g) (during : List GstMessage) : Live p bus (BusWatch.posted g bus during) :=
  (h.busPop bus).postAll bus during

theorem dispatch (h : Live p bus g) {source : Nat} (hs : g.watched source = some bus) {handler : Gst → List Report × Gst}
    (hhandler : ∀ g', Live p bus g' → Live p bus (handler g').2) (during : List GstMessage) :
    Live p bus (g.dispatch source handler during).2 := by
  cases hq : g.queue bus with
  | nil =>
    rw [BusWatch.dispatch_of_nil hs hq]
    exact h.posted during
  | cons m rest =>
    rw [BusWatch.dispatch_of_cons hs hq]
    refine (hhandler _ (h.posted during)).unref fun heq => h.messages ?_
    rw [hq, heq]
    exact List.mem_cons_self ..

end Live

/-- A part of the program that neither the attached sources nor the pipelines take notice of. -/
structure Quiet (g g' : Gst) : Prop where
  same : Same GObject.bus g g'
  idle : Idle g g'
  live : ∀ {p bus : Nat}, Live p bus g → Live p bus g'

namespace Quiet
variable (g : Gst)

theorem refl : Quiet g g := ⟨.refl, .refl, id⟩

theorem of_steers {g' : Gst} (h : Steers g g') : Quiet g g' := by
  refine ⟨h.same, ?_, fun hlive => ?_⟩
  · cases h with
    | refl => exact .refl
    | fail => exact Idle.refl.heap rfl
    | setState fails r state => exact Idle.refl.setState fails r state
  · cases h with
    | refl => exact hlive
    | fail => exact hlive.fail
    | setState fails r state => exact hlive.setState fails r state

theorem setObject (r : Nat) (key : Bytes) (v : GValue) : Quiet g (g.setObject r key v) :=
  ⟨Same.refl.update r fun _ => rfl, Idle.refl.setObject r key v, fun h => h.setObject r key v⟩

theorem postAll (bus : Nat) (ms : List GstMessage) : Quiet g (g.postAll bus ms) :=
  ⟨Same.refl.postAll bus ms, Idle.refl.postAll bus ms, fun h => h.postAll bus ms⟩

end Quiet

end Gst

end CameraPlatform
