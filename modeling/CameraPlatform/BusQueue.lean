import CameraPlatform.GstFrame
import CameraPlatform.BusWatch

/-!
# What a dispatch takes from the bus

Two messages leave the bus at a dispatch: the library pops the oldest, and the handler pops the next
one and reports that. `Listens.dispatch_cons` says so.
-/

namespace CameraPlatform
open ByteString RefHeap

namespace Gst

/-- The message `r` is. -/
def content (g : Gst) (r : Nat) : Option GstMessage := (g.obj r).bind (·.message)

/-- The bus of the pipeline `r`. -/
def busOf (g : Gst) (r : Nat) : Option Nat := (g.obj r).bind (·.bus)

/-- The bus an attached source watches. -/
def watched (g : Gst) (source : Nat) : Option Nat := (g.obj source).bind fun o => o.context.bind fun _ => o.bus

section
variable {g g' : Gst} {α : Type}

theorem bind_obj_update {π : GObject → Option α} {f : GObject → GObject} (hf : ∀ o, π (f o) = π o) (r x : Nat) :
    ((g.update r f).obj x).bind π = (g.obj x).bind π := by
  rw [obj_update]
  split
  · rw [Option.bind_map]; exact congrArg (Option.bind _) (funext hf)
  · rfl

theorem bind_obj_alloc (π : GObject → Option α) (fl : Bool) (o : GObject) {x : Nat} (hx : x < g.next) :
    ((g.alloc fl o).obj x).bind π = (g.obj x).bind π := by
  rw [obj_alloc, if_neg (by omega)]

theorem queue_congr (x : Nat) (h : g'.obj x = g.obj x) : g'.queue x = g.queue x := by rw [queue, h]; rfl

theorem queue_update_of_queue {r : Nat} {f : GObject → GObject} (hf : ∀ o, (f o).queue = o.queue) (x : Nat) :
    (g.update r f).queue x = g.queue x := by
  unfold queue
  rw [obj_update]
  split
  · rw [Option.map_map]; exact congrArg (fun q => Option.getD q []) (congrArg (Option.map · _) (funext hf))
  · rfl

/-! ### Posting -/

@[simp] theorem next_post (bus : Nat) (m : GstMessage) : (g.post bus m).next = g.next + 1 := by
  unfold post; simp

theorem bind_obj_post {π : GObject → Option α} (hπ : ∀ o q, π { o with queue := q } = π o) (bus : Nat)
    (m : GstMessage) {x : Nat} (hx : x < g.next) : ((g.post bus m).obj x).bind π = (g.obj x).bind π :=
  (bind_obj_update (fun o => hπ o _) bus x).trans (bind_obj_alloc π _ _ hx)

theorem queue_post (bus : Nat) (m : GstMessage) {x : Nat} (hx : x < g.next) :
    (g.post bus m).queue x = if x = bus then g.queue x ++ [g.next] else g.queue x := by
  obtain ⟨o, ho⟩ : ∃ o, g.obj x = some o := ⟨_, congrArg (Option.map _) (List.getElem?_eq_getElem hx)⟩
  have ho' : (g.alloc false { type := ascii "GstMessage", message := some m }).obj x = some o := by
    rw [obj_alloc, if_neg (by omega), ho]
  unfold queue post
  rw [obj_update, ho, ho']
  split <;> rfl

theorem postAll_spec (bus : Nat) (ms : List GstMessage) :
    (g.postAll bus ms).next = g.next + ms.length ∧
    (∀ {β : Type} (π : GObject → Option β), (∀ o q, π { o with queue := q } = π o) → ∀ x < g.next,
      ((g.postAll bus ms).obj x).bind π = (g.obj x).bind π) ∧
    ∀ x < g.next, (g.postAll bus ms).queue x =
      if x = bus then g.queue x ++ List.range' g.next ms.length else g.queue x := by
  induction ms generalizing g with
  | nil => exact ⟨rfl, fun _ _ _ _ => rfl, fun x _ => by split <;> simp [postAll]⟩
  | cons m ms ih =>
    obtain ⟨hnext, hobj, hqueue⟩ := @ih (g.post bus m)
    have heq : g.postAll bus (m :: ms) = (g.post bus m).postAll bus ms := rfl
    rw [next_post] at hnext hobj hqueue
    rw [heq]
    refine ⟨by rw [hnext, List.length_cons]; omega, fun π hπ x hx => ?_, fun x hx => ?_⟩
    · rw [hobj π hπ x (by omega), bind_obj_post hπ bus m hx]
    · rw [hqueue x (by omega), queue_post bus m hx, List.length_cons, List.range'_succ]
      split <;> simp

/-! ### Popping -/

@[simp] theorem next_busPop (bus : Nat) : (g.busPop bus).2.next = g.next := next_update ..

theorem bind_obj_busPop {π : GObject → Option α} (hπ : ∀ o q, π { o with queue := q } = π o) (bus x : Nat) :
    ((g.busPop bus).2.obj x).bind π = (g.obj x).bind π := bind_obj_update (fun o => hπ o _) bus x

theorem queue_busPop (bus x : Nat) : (g.busPop bus).2.queue x = if x = bus then (g.queue x).tail else g.queue x := by
  unfold busPop queue
  rw [obj_update]
  split
  · cases g.obj x <;> rfl
  · rfl

@[simp] theorem next_messageUnref (m : Option Nat) : (g.messageUnref m).next = g.next := by
  cases m
  · rfl
  · exact next_unref ..

end
end Gst

/-- What the callback is told about the message `m`. -/
def BusWatch.report (callback : Nat) (g : Gst) (m : Nat) : Option Report :=
  ((g.content m).bind BusWatch.reportOf).map fun e => ⟨callback, m, e.1, e.2⟩

namespace BusWatch
variable {w : BusWatch} {g g' : Gst} {callback pipeline source bus : Nat}

theorem report_congr {m : Nat} (h : g'.content m = g.content m) : report callback g' m = report callback g m := by
  rw [report, h, report]

theorem handleBusMessage_eq (hw : w.appCallback = some callback) (m : Nat) :
    w.handleBusMessage g m = (report callback g m).toList := by
  unfold handleBusMessage report Gst.content
  rw [hw]
  cases (g.obj m).bind (·.message) with
  | none => rfl
  | some c =>
    simp only [Option.bind_some]
    cases reportOf c <;> rfl

/-- The handler reports the message it pops. -/
theorem onBusMessageStatic_spec (hw : w.appCallback = some callback) (hp : g.busOf pipeline = some bus) :
    (w.onBusMessageStatic pipeline g).1 = ((g.queue bus).head?.bind (report callback g)).toList ∧
    (w.onBusMessageStatic pipeline g).2.next = g.next ∧
    (∀ {β : Type} (π : GObject → Option β), (∀ o q, π { o with queue := q } = π o) → ∀ x,
      ((w.onBusMessageStatic pipeline g).2.obj x).bind π = (g.obj x).bind π) ∧
    ∀ x, (w.onBusMessageStatic pipeline g).2.queue x = if x = bus then (g.queue x).tail else g.queue x := by
  have hget : g.getBus false pipeline = (some bus, g.ref bus) := by
    unfold Gst.getBus
    rw [show (g.obj pipeline).bind (·.bus) = some bus from hp]
  have hqueue : (g.ref bus).queue = g.queue := funext fun x => Gst.queue_congr x (Gst.obj_ref ..)
  unfold onBusMessageStatic
  rw [hget]
  refine ⟨?_, ?_, ?_, ?_⟩
  · have hpop : (g.ref bus).busPop bus = ((g.queue bus).head?, ((g.ref bus).busPop bus).2) := by
      rw [← hqueue]
      rfl
    simp only
    rw [hpop]
    cases (g.queue bus).head? with
    | none => rfl
    | some m =>
      show w.handleBusMessage _ m = _
      rw [handleBusMessage_eq hw]
      refine congrArg Option.toList (report_congr ?_)
      unfold Gst.content
      rw [Gst.obj_unref, Gst.bind_obj_busPop (fun _ _ => by rfl), Gst.obj_ref]
  · simp
  · intro β π hπ x
    simp only [Gst.obj_messageUnref, Gst.obj_unref]
    rw [Gst.bind_obj_busPop hπ, Gst.obj_ref]
  · intro x
    rw [Gst.queue_congr x ((Gst.obj_messageUnref ..).trans (Gst.obj_unref ..)), Gst.queue_busPop, hqueue]

/-! ### One dispatch -/

/-- A watch that listens to the bus of its pipeline. -/
structure Listens (w : BusWatch) (callback pipeline source bus : Nat) (g : Gst) : Prop where
  appCallback : w.appCallback = some callback
  ofPipeline : g.busOf pipeline = some bus
  ofSource : g.watched source = some bus

/-- The heap once the library has popped its message and those of `during` are posted. -/
def posted (g : Gst) (bus : Nat) (during : List GstMessage) : Gst := (g.busPop bus).2.postAll bus during

section Dispatch
variable {during : List GstMessage}

theorem posted_keeps {α : Type} {π : GObject → Option α} (hπ : ∀ o q, π { o with queue := q } = π o) {x : Nat}
    (hx : x < g.next) : ((posted g bus during).obj x).bind π = (g.obj x).bind π := by
  obtain ⟨-, hobj, -⟩ := @Gst.postAll_spec (g.busPop bus).2 bus during
  exact (hobj π hπ x (by simpa using hx)).trans (Gst.bind_obj_busPop hπ bus x)

theorem next_posted : (posted g bus during).next = g.next + during.length := by
  obtain ⟨hnext, -, -⟩ := @Gst.postAll_spec (g.busPop bus).2 bus during
  rwa [Gst.next_busPop] at hnext

theorem queue_posted (hbus : bus < g.next) :
    (posted g bus during).queue bus = (g.queue bus).tail ++ List.range' g.next during.length := by
  obtain ⟨-, -, hqueue⟩ := @Gst.postAll_spec (g.busPop bus).2 bus during
  have := hqueue bus (by simpa using hbus)
  rwa [if_pos rfl, Gst.queue_busPop, if_pos rfl, Gst.next_busPop] at this

theorem Listens.busOf_posted (h : w.Listens callback pipeline source bus g) :
    (posted g bus during).busOf pipeline = some bus :=
  (posted_keeps (fun _ _ => by rfl) (Gst.lt_of_bind h.ofPipeline)).trans h.ofPipeline

theorem dispatch_of_nil {handler : Gst → List Report × Gst} (hs : g.watched source = some bus)
    (hq : g.queue bus = []) : g.dispatch source handler during = ([], posted g bus during) := by
  unfold Gst.dispatch
  rw [show (g.obj source).bind (fun o => o.context.bind fun _ => o.bus) = some bus from hs]
  have hpop : g.busPop bus = (none, (g.busPop bus).2) := by
    unfold Gst.busPop; rw [hq]; rfl
  simp only
  rw [hpop]
  rfl

theorem dispatch_of_cons {handler : Gst → List Report × Gst} (hs : g.watched source = some bus) {m : Nat}
    {rest : List Nat} (hq : g.queue bus = m :: rest) :
    g.dispatch source handler during =
      ((handler (posted g bus during)).1, (handler (posted g bus during)).2.unref m) := by
  unfold Gst.dispatch
  rw [show (g.obj source).bind (fun o => o.context.bind fun _ => o.bus) = some bus from hs]
  have hpop : g.busPop bus = (some m, (g.busPop bus).2) := by
    unfold Gst.busPop; rw [hq]; rfl
  simp only
  rw [hpop]
  rfl

variable (during) in
/-- What a dispatch does whatever it finds: the objects keep everything but their queues. -/
theorem Listens.dispatch_keeps (h : w.Listens callback pipeline source bus g) :
    (g.dispatch source (w.onBusMessageStatic pipeline) during).2.next = g.next + during.length ∧
    ∀ {α : Type} (π : GObject → Option α), (∀ o q, π { o with queue := q } = π o) → ∀ x < g.next,
      ((g.dispatch source (w.onBusMessageStatic pipeline) during).2.obj x).bind π = (g.obj x).bind π := by
  cases hq : g.queue bus with
  | nil =>
    rw [dispatch_of_nil h.ofSource hq]
    exact ⟨next_posted, fun π hπ x hx => posted_keeps hπ hx⟩
  | cons m rest =>
    rw [dispatch_of_cons h.ofSource hq]
    obtain ⟨-, hnext, hobj, -⟩ :=
      @onBusMessageStatic_spec w (posted g bus during) callback pipeline bus h.appCallback h.busOf_posted
    refine ⟨(Gst.next_unref m).trans (hnext.trans next_posted), fun π hπ x hx => ?_⟩
    rw [Gst.obj_unref, hobj π hπ x, posted_keeps hπ hx]

variable (during) in
/-- On an empty bus nothing is reported. -/
theorem Listens.dispatch_nil (h : w.Listens callback pipeline source bus g) (hbus : bus < g.next) (hq : g.queue bus = []) :
    (g.dispatch source (w.onBusMessageStatic pipeline) during).1 = [] ∧
    (g.dispatch source (w.onBusMessageStatic pipeline) during).2.queue bus = List.range' g.next during.length := by
  rw [dispatch_of_nil h.ofSource hq, queue_posted hbus, hq]
  exact ⟨rfl, rfl⟩

variable (during) in
/-- The oldest message is dropped, and the one after it, which may have been posted since, is
reported and dropped. -/
theorem Listens.dispatch_cons (h : w.Listens callback pipeline source bus g) (hbus : bus < g.next) {m : Nat}
    {rest : List Nat} (hq : g.queue bus = m :: rest) :
    let after := rest ++ List.range' g.next during.length
    let g' := (g.dispatch source (w.onBusMessageStatic pipeline) during).2
    (g.dispatch source (w.onBusMessageStatic pipeline) during).1 =
        (after.head?.bind (report callback g')).toList ∧ g'.queue bus = after.tail ∧
      ∀ x, g'.content x = (posted g bus during).content x := by
  intro after g'
  obtain ⟨hrep, -, hobj, hqueue⟩ :=
    @onBusMessageStatic_spec w (posted g bus during) callback pipeline bus h.appCallback h.busOf_posted
  have hg' : g' = (w.onBusMessageStatic pipeline (posted g bus during)).2.unref m := by
    show (g.dispatch _ _ _).2 = _
    rw [dispatch_of_cons h.ofSource hq]
  have hafter : (posted g bus during).queue bus = after := by rw [queue_posted hbus, hq]; rfl
  have hcontent : ∀ x, g'.content x = (posted g bus during).content x := by
    intro x
    rw [hg', Gst.content, Gst.obj_unref, hobj _ (fun _ _ => by rfl)]
    rfl
  refine ⟨?_, ?_, hcontent⟩
  · rw [dispatch_of_cons h.ofSource hq, hrep, hafter]
    exact congrArg Option.toList (congrArg (Option.bind _) (funext fun x => (report_congr (hcontent x)).symm))
  · rw [hg', Gst.queue_congr bus (Gst.obj_unref ..), hqueue, if_pos rfl, hafter]

end Dispatch

end BusWatch

/-- The heap with a new attached watch of the bus. -/
def Gst.newWatch (g : Gst) (bus context : Nat) : Gst :=
  (((g.ref bus).alloc false { type := ascii "GSource", bus := some bus }).sourceAttach g.next context).unref bus

theorem Gst.watched_newWatch (g : Gst) (bus context : Nat) :
    (g.newWatch bus context).watched g.next = some bus := by
  unfold Gst.newWatch Gst.watched Gst.sourceAttach
  rw [Gst.obj_unref, Gst.obj_ref, Gst.obj_update, if_pos rfl, Gst.obj_alloc, if_pos (Gst.next_ref bus).symm]
  rfl

/-! ### A pipeline bus in order -/

/-- Attaching fails at one of its two calls, or leaves a new watch. -/
theorem BusWatch.attach_cases {w : BusWatch} {g : Gst} {p bus : Nat} (fails : WatchCall → Bool) (context callback : Nat)
    (hbus : (w.detachBusWatch g).2.busOf p = some bus) :
    let d := w.detachBusWatch g
    let res := w.attachBusWatch fails p context callback g
    ((∃ c, fails c = true) ∧ res.1.ok = false ∧ res.2.1.busSource = none ∧
      (res.2.2 = d.2.fail ∨ res.2.2 = (d.2.ref bus).fail)) ∨
    ((∀ c, fails c = false) ∧ res.1.ok = true ∧
      res.2.1 = { appCallback := some callback, busSource := some d.2.next } ∧
      res.2.2 = d.2.newWatch bus context) := by
  intro d res
  have hres : res = w.attachBusWatch fails p context callback g := rfl
  have hget : d.2.getBus false p = (some bus, d.2.ref bus) := by
    unfold Gst.getBus
    rw [show (d.2.obj p).bind (·.bus) = some bus from hbus]
  have hnone : d.1.busSource = none := by
    show (w.detachBusWatch g).1.busSource = none
    unfold BusWatch.detachBusWatch
    cases hs : w.busSource with
    | none => exact hs
    | some source => rfl
  unfold BusWatch.attachBusWatch at hres
  rw [show w.detachBusWatch g = (d.1, d.2) from rfl] at hres
  cases hf : fails .getBus with
  | true =>
    simp only [hf, Gst.getBus] at hres
    rw [hres]
    exact .inl ⟨⟨_, hf⟩, rfl, hnone, .inl rfl⟩
  | false =>
    simp only [hf, hget] at hres
    cases hc : fails .createWatch with
    | true =>
      simp only [hc, Gst.busCreateWatch, if_true] at hres
      rw [hres]
      exact .inl ⟨⟨_, hc⟩, rfl, rfl, .inr rfl⟩
    | false =>
      simp only [hc, Gst.busCreateWatch, Bool.false_eq_true, if_false, Gst.next_ref] at hres
      rw [hres]
      exact .inr ⟨fun c => by cases c <;> assumption, rfl, rfl, rfl⟩

/-- The pipeline `p` has the bus `bus`, and the messages on it are distinct messages. -/
structure Intact (p bus : Nat) (g : Gst) : Prop where
  busOf : g.busOf p = some bus
  lt : bus < g.next
  nodup : (g.queue bus).Nodup
  exist : ∀ m ∈ g.queue bus, m < g.next

namespace Intact
variable {p bus : Nat} {g g' : Gst} {w : BusWatch}

theorem congr (h : Intact p bus g) (hnext : g.next ≤ g'.next) (hbus : g'.busOf p = g.busOf p)
    (hqueue : g'.queue bus = g.queue bus) : Intact p bus g' :=
  ⟨hbus.trans h.busOf, Nat.lt_of_lt_of_le h.lt hnext, hqueue ▸ h.nodup,
    fun m hm => Nat.lt_of_lt_of_le (h.exist m (hqueue ▸ hm)) hnext⟩

theorem of_obj (h : Intact p bus g) (hnext : g.next ≤ g'.next) (hobj : ∀ x < g.next, g'.obj x = g.obj x) :
    Intact p bus g' :=
  h.congr hnext (by rw [Gst.busOf, hobj p (Gst.lt_of_bind h.busOf)]; rfl) (Gst.queue_congr bus (hobj bus h.lt))

theorem ref (h : Intact p bus g) (r : Nat) : Intact p bus (g.ref r) := h.of_obj (by simp) (by simp)

theorem unref (h : Intact p bus g) (r : Nat) : Intact p bus (g.unref r) := h.of_obj (by simp) (by simp)

theorem messageUnref (h : Intact p bus g) (m : Option Nat) : Intact p bus (g.messageUnref m) :=
  h.of_obj (by simp) (by simp)

theorem alloc (h : Intact p bus g) (fl : Bool) (o : GObject) : Intact p bus (g.alloc fl o) :=
  h.of_obj (by simp) fun x hx => by rw [Gst.obj_alloc, if_neg (by omega)]

theorem update (h : Intact p bus g) (r : Nat) {f : GObject → GObject} (hbus : ∀ o, (f o).bus = o.bus)
    (hqueue : ∀ o, (f o).queue = o.queue) : Intact p bus (g.update r f) :=
  h.congr (by simp) (Gst.bind_obj_update hbus r p) (Gst.queue_update_of_queue hqueue bus)

theorem post (h : Intact p bus g) (b : Nat) (m : GstMessage) : Intact p bus (g.post b m) := by
  have hqueue := Gst.queue_post (g := g) b m h.lt
  refine ⟨(Gst.bind_obj_post (fun _ _ => by rfl) b m (Gst.lt_of_bind h.busOf)).trans h.busOf,
    by rw [Gst.next_post]; exact Nat.lt_succ_of_lt h.lt, ?_, fun x hx => ?_⟩
  · rw [hqueue]
    split
    · refine List.nodup_append.mpr ⟨h.nodup, by simp, ?_⟩
      intro a ha b hb
      rw [List.mem_singleton.mp hb]
      exact Nat.ne_of_lt (h.exist a ha)
    · exact h.nodup
  · rw [Gst.next_post]
    rw [hqueue] at hx
    split at hx
    · rcases List.mem_append.mp hx with hx | hx
      · exact Nat.lt_succ_of_lt (h.exist x hx)
      · rw [List.mem_singleton.mp hx]
        exact Nat.lt_succ_self _
    · exact Nat.lt_succ_of_lt (h.exist x hx)

theorem postAll (h : Intact p bus g) (b : Nat) (ms : List GstMessage) : Intact p bus (g.postAll b ms) := by
  induction ms generalizing g with
  | nil => exact h
  | cons m ms ih => exact ih (h.post b m)

theorem busPop (h : Intact p bus g) (b : Nat) : Intact p bus (g.busPop b).2 := by
  have hqueue := Gst.queue_busPop (g := g) b bus
  refine ⟨(Gst.bind_obj_busPop (fun _ _ => by rfl) b p).trans h.busOf, by rw [Gst.next_busPop]; exact h.lt, ?_,
    fun x hx => ?_⟩
  · rw [hqueue]
    split
    · exact h.nodup.tail
    · exact h.nodup
  · rw [Gst.next_busPop]
    rw [hqueue] at hx
    split at hx
    · exact h.exist x (List.mem_of_mem_tail hx)
    · exact h.exist x hx

theorem getBus (h : Intact p bus g) : g.getBus false p = (some bus, g.ref bus) := by
  unfold Gst.getBus
  rw [show (g.obj p).bind (·.bus) = some bus from h.busOf]

theorem onBusMessageStatic (h : Intact p bus g) : Intact p bus (w.onBusMessageStatic p g).2 := by
  unfold BusWatch.onBusMessageStatic
  rw [h.getBus]
  exact (((h.ref bus).busPop bus).unref bus).messageUnref _

/-- Whatever source is dispatched, and whatever bus it watches. -/
theorem dispatch (h : Intact p bus g) {handler : Gst → List Report × Gst}
    (hh : ∀ g, Intact p bus g → Intact p bus (handler g).2) (source : Nat) (during : List GstMessage) :
    Intact p bus (g.dispatch source handler during).2 := by
  unfold Gst.dispatch
  split
  · exact h
  · next b _ =>
    split
    · next g' hg' =>
      have heq : (g.busPop b).2 = g' := by rw [hg']
      exact heq ▸ (h.busPop b).postAll b during
    · next m g' hg' =>
      have heq : (g.busPop b).2 = g' := by rw [hg']
      exact (hh _ (heq ▸ (h.busPop b).postAll b during)).unref m

theorem detachBusWatch (h : Intact p bus g) : Intact p bus (w.detachBusWatch g).2 := by
  unfold BusWatch.detachBusWatch
  split
  · refine Intact.unref ?_ _
    unfold Gst.sourceDestroy
    split
    · exact (h.update _ (fun _ => by rfl) (fun _ => by rfl)).unref _
    · exact h
  · exact h

theorem sourceAttach (h : Intact p bus g) (source context : Nat) : Intact p bus (g.sourceAttach source context) :=
  (h.update source (fun _ => by rfl) (fun _ => by rfl)).ref source

section Attach
variable {fails : WatchCall → Bool} {context callback : Nat}

theorem fail (h : Intact p bus g) : Intact p bus g.fail := h.of_obj (by simp) (by simp)

theorem setState (h : Intact p bus g) (fails : Bool) (r : Nat) (state : GstState) :
    Intact p bus (g.setState fails r state).2 := by
  unfold Gst.setState
  split
  · exact h.fail
  · exact h.update r (fun _ => rfl) fun _ => rfl

theorem newWatch (h : Intact p bus g) (context : Nat) : Intact p bus (g.newWatch bus context) :=
  (((h.ref bus).alloc _ _).sourceAttach _ _).unref bus

theorem attachBusWatch (h : Intact p bus g) :
    Intact p bus (w.attachBusWatch fails p context callback g).2.2 := by
  have hd := h.detachBusWatch (w := w)
  rcases w.attach_cases fails context callback hd.busOf with ⟨-, -, -, heq | heq⟩ | ⟨-, -, -, heq⟩
  · rw [heq]; exact hd.fail
  · rw [heq]; exact (hd.ref bus).fail
  · rw [heq]; exact hd.newWatch context

/-- A watch that was attached listens to the bus. -/
theorem attach_listens (h : Intact p bus g)
    (hok : (w.attachBusWatch fails p context callback g).1.ok = true) :
    ∃ source, (w.attachBusWatch fails p context callback g).2.1.busSource = some source ∧
      (w.attachBusWatch fails p context callback g).2.1.Listens callback p source bus
        (w.attachBusWatch fails p context callback g).2.2 := by
  have hI := (@Intact.attachBusWatch p bus g w fails context callback h).busOf
  rcases w.attach_cases fails context callback h.detachBusWatch.busOf with ⟨-, hno, -⟩ | ⟨-, -, hw, heq⟩
  · rw [hno] at hok; cases hok
  · refine ⟨_, by rw [hw], by rw [hw], hI, ?_⟩
    rw [heq]
    exact Gst.watched_newWatch ..

end Attach

end Intact

end CameraPlatform
