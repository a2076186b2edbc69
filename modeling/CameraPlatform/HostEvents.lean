import CameraPlatform.Base.History
import CameraPlatform.GstKeeps
import CameraPlatform.HostReady

/-!
# The life of a `ProfileHost`

No call of a host connects a handler, and an appsink that a branch gets is a new object.
-/

namespace CameraPlatform
open ByteString RefHeap History

/-- The calls of a host, with what they depend on. -/
inductive HostEvent where
  | setVideoSource (source : Option VideoSource)
  | setupPipeline (faults : SetupFaults)
  | play (fails : Bool)
  | stop (fails : Bool)
  | setProfileEnabled (name : Bytes) (enabled : Bool)
  | attachBusWatch (fails : WatchCall → Bool) (context callback : Option Nat)
  | detachBusWatch
  | dispatch (during : List GstMessage)

namespace Gst
variable {g g' g'' : Gst}

/-- What the bus, its watches and the state of an element do not show in. -/
class Plumbing {α : Type} (f : GObject → α) : Prop where
  context : ∀ (o : GObject) (context : Option Nat), f { o with context } = f o
  queue : ∀ (o : GObject) (queue : List Nat), f { o with queue } = f o
  state : ∀ (o : GObject) (state : GstState), f { o with state } = f o

/-- What only the queue of a bus does not show in. -/
class Queueless {α : Type} (f : GObject → α) : Prop where
  queue : ∀ (o : GObject) (queue : List Nat), f { o with queue } = f o

instance {α : Type} {f : GObject → α} [Plumbing f] : Queueless f := ⟨Plumbing.queue⟩

instance : Plumbing GObject.handlers := ⟨fun _ _ => rfl, fun _ _ => rfl, fun _ _ => rfl⟩

instance : Plumbing GObject.props := ⟨fun _ _ => rfl, fun _ _ => rfl, fun _ _ => rfl⟩

theorem Grew.keeps (h : Grew g g') : Keeps g g' := ⟨h.next_le, fun _ hx => h.obj_eq hx⟩

/-- One more call that changes no object. -/
theorem Keeps.more (h : Keeps g g') (hnext : g''.next = g'.next) (hobj : ∀ x, g''.obj x = g'.obj x) : Keeps g g'' :=
  ⟨hnext ▸ h.next_le, fun x hx => (hobj x).trans (h.obj x hx)⟩

namespace Same
variable {α : Type} {f : GObject → α}

/-- What is counted outside the heap does not matter. -/
theorem heap (h : Same f g g') (heq : g''.heap = g'.heap) : Same f g g'' := by
  refine ⟨?_, fun {x} hx => Eq.trans ?_ (h.read hx)⟩
  · show g.next ≤ g''.heap.next
    rw [heq]
    exact h.next_le
  · rw [obj, heq]; rfl

theorem getBus (h : Same f g g') (fails : Bool) (pipeline : Nat) :
    Same f g (g'.getBus fails pipeline).2 := by
  unfold Gst.getBus
  split
  · exact h.keeps (Keeps.refl.ref _)
  · exact h.heap rfl

theorem busCreateWatch (h : Same f g g') (fails : Bool) (bus : Nat) :
    Same f g (g'.busCreateWatch fails bus).2 := by
  unfold Gst.busCreateWatch
  split
  · exact h.heap rfl
  · exact h.keeps (Keeps.refl.alloc _ _)

theorem messageUnref (h : Same f g g') (m : Option Nat) : Same f g (g'.messageUnref m) := by
  cases m with
  | none => exact h.heap rfl
  | some m => exact h.keeps (Keeps.refl.unref _)

section
variable [Queueless f]

theorem post (h : Same f g g') (bus : Nat) (m : GstMessage) : Same f g (g'.post bus m) := by
  unfold Gst.post
  exact (h.keeps (Keeps.refl.alloc _ _)).update bus fun _ => Queueless.queue ..

theorem postAll (h : Same f g g') (bus : Nat) (ms : List GstMessage) : Same f g (g'.postAll bus ms) := by
  induction ms generalizing g' with
  | nil => exact h
  | cons m ms ih => exact ih (h.post bus m)

theorem busPop (h : Same f g g') (bus : Nat) : Same f g (g'.busPop bus).2 := by
  unfold Gst.busPop
  exact h.update bus fun _ => Queueless.queue ..

theorem onBusMessageStatic (h : Same f g g') (w : BusWatch) (pipeline : Nat) :
    Same f g (w.onBusMessageStatic pipeline g').2 := by
  unfold BusWatch.onBusMessageStatic
  have hbus := h.getBus false pipeline
  split
  · next g1 hg1 => rw [hg1] at hbus; exact hbus
  · next bus g1 hg1 =>
    rw [hg1] at hbus
    exact ((hbus.busPop bus).keeps (Keeps.refl.unref _)).messageUnref _

theorem dispatch (h : Same f g g') (source : Nat) {handler : Gst → List Report × Gst}
    (hhandler : ∀ g₁, Same f g₁ (handler g₁).2) (during : List GstMessage) :
    Same f g (g'.dispatch source handler during).2 := by
  unfold Gst.dispatch
  split
  · exact h
  · next bus hbus =>
    have hpop := h.busPop bus
    split
    · next g₁ hg₁ =>
      rw [hg₁] at hpop
      exact hpop.postAll bus during
    · next msg g₁ hg₁ =>
      rw [hg₁] at hpop
      exact ((hpop.postAll bus during).trans (hhandler _)).keeps (Keeps.refl.unref msg)

end

variable [Plumbing f]

theorem sourceAttach (h : Same f g g') (source context : Nat) :
    Same f g (g'.sourceAttach source context) := by
  unfold Gst.sourceAttach
  exact (h.update source fun _ => Plumbing.context ..).keeps (Keeps.refl.ref _)

theorem sourceDestroy (h : Same f g g') (source : Nat) : Same f g (g'.sourceDestroy source) := by
  unfold Gst.sourceDestroy
  split
  · exact (h.update source fun _ => Plumbing.context ..).keeps (Keeps.refl.unref _)
  · exact h

theorem setState (h : Same f g g') (fails : Bool) (r : Nat) (state : GstState) :
    Same f g (g'.setState fails r state).2 := by
  unfold Gst.setState
  split
  · exact h.heap rfl
  · exact h.update r fun _ => Plumbing.state ..

theorem detachBusWatch (h : Same f g g') (w : BusWatch) : Same f g (w.detachBusWatch g').2 := by
  unfold BusWatch.detachBusWatch
  split
  · exact (h.sourceDestroy _).keeps (Keeps.refl.unref _)
  · exact h

theorem attachBusWatch (h : Same f g g') (fails : WatchCall → Bool) (pipeline context callback : Nat)
    (w : BusWatch) : Same f g (w.attachBusWatch fails pipeline context callback g').2.2 := by
  unfold BusWatch.attachBusWatch
  have hbus := (h.detachBusWatch w).getBus (fails .getBus) pipeline
  simp only
  split
  · next g1 hg1 => rw [hg1] at hbus; exact hbus
  · next bus g1 hg1 =>
    rw [hg1] at hbus
    have hwatch := hbus.busCreateWatch (fails .createWatch) bus
    split
    · next g2 hg2 => rw [hg2] at hwatch; exact hwatch
    · next source g2 hg2 =>
      rw [hg2] at hwatch
      exact (hwatch.sourceAttach source context).keeps (Keeps.refl.unref _)

end Same

/-- What a call that steers a pipeline comes down to: nothing, a failure, or a state set on one element. -/
inductive Steers (g : Gst) : Gst → Prop where
  | refl : Steers g g
  | fail : Steers g g.fail
  | setState (fails : Bool) (r : Nat) (state : GstState) : Steers g (g.setState fails r state).2

theorem Steers.same {α : Type} {f : GObject → α} [Plumbing f] (h : Steers g g') : Same f g g' := by
  cases h with
  | refl => exact .refl
  | fail => exact Same.refl.heap rfl
  | setState fails r state => exact Same.refl.setState fails r state

end Gst

namespace ProfileHost

def handle (s : ProfileHost × Gst) : HostEvent → ProfileHost × Gst
  | .setVideoSource source => ((s.1.setVideoSource source).2, s.2)
  | .setupPipeline faults => (s.1.setupPipeline faults s.2).2
  | .play fails => (s.1, (s.1.play fails s.2).2)
  | .stop fails => (s.1, (s.1.stop fails s.2).2)
  | .setProfileEnabled name enabled => (s.1.setProfileEnabled name enabled s.2).2
  | .attachBusWatch fails context callback => (s.1.attachBusWatch fails context callback s.2).2
  | .detachBusWatch => s.1.detachBusWatch s.2
  | .dispatch during =>
    match s.1.watch.busSource with
    | some source => (s.1, (s.2.dispatch source s.1.onBusMessageStatic during).2)
    | none => s

/-! ### What `setupPipeline` leaves alone -/

section Setup
variable {faults : SetupFaults} {h : ProfileHost} {g g' g₀ : Gst}

/-- A branch has no appsink, or a new one. -/
theorem createElement_appSink {fails : BinCall → Bool} {b : ProfileBin} {r : Nat}
    (hr : (b.createElement fails g).2.1.appSink = some r) :
    g.next ≤ r ∧ r < (b.createElement fails g).2.2.next ∧
      (b.createElement fails g).2.2.handlersOf r .newSample = [] := by
  by_cases hok : ∀ c, fails c = false
  · obtain ⟨b', g', heq, -, hbranch, -⟩ := @ProfileBin.createElement_ok fails b g hok
    rw [heq] at hr ⊢
    obtain rfl : g.next + 2 = r := Option.some.inj (hbranch.appSink.symm.trans hr)
    obtain ⟨o, ho, -, hhandlers⟩ := hbranch.sink
    have hroom := hbranch.room
    refine ⟨Nat.le_add_right _ 2, (by omega : g.next + 2 < g'.next), ?_⟩
    rw [Gst.handlersOf, ho, Option.map_some, hhandlers]
    rfl
  · have hc : ∃ c, fails c = true := by simpa using hok
    rw [(@ProfileBin.createElement_error fails b g hc).2.1] at hr
    cases hr

/-- An appsink that the bins have now: one they had, or a new one without handlers. -/
def SinkOf (bins : List ProfileBin) (g g' : Gst) (r : Nat) : Prop :=
  (∃ b ∈ bins, b.appSink = some r) ∨ g.next ≤ r ∧ r < g'.next ∧ g'.handlersOf r .newSample = []

variable (faults) in
theorem setupBranches_sinks (p tee k : Nat) (bs : List ProfileBin) (g : Gst) :
    g.Keeps (setupBranches faults p tee k bs g).2.2 ∧
      ∀ b ∈ (setupBranches faults p tee k bs g).2.1, ∀ r, b.appSink = some r →
        SinkOf bs g (setupBranches faults p tee k bs g).2.2 r := by
  induction bs generalizing k g with
  | nil => exact ⟨.refl, by simp [setupBranches]⟩
  | cons b bs ih =>
    have hkeeps := (@ProfileBin.grew_createElement (faults.bin k) b g).keeps
    have hsink := @createElement_appSink g (faults.bin k) b
    unfold setupBranches
    generalize b.createElement (faults.bin k) g = made at hkeeps hsink
    obtain ⟨bin, b', g₁⟩ := made
    -- the rest of the catalog, and the branch at hand once more objects were made
    have htail : ∀ x ∈ bs, ∀ r, x.appSink = some r → ∀ g', SinkOf (b :: bs) g g' r := fun x hx r hr _ =>
      .inl ⟨x, List.mem_cons_of_mem _ hx, hr⟩
    have hhead : ∀ {g' : Gst}, g₁.Keeps g' → ∀ r, b'.appSink = some r → SinkOf (b :: bs) g g' r := by
      intro g' hk r hr
      obtain ⟨hle, hlt, hh⟩ := hsink hr
      exact .inr ⟨hle, Nat.lt_of_lt_of_le hlt hk.next_le, (hk.same.handlers hlt _).trans hh⟩
    cases bin with
    | none =>
      refine ⟨hkeeps, fun x hx r hr => ?_⟩
      rcases List.mem_cons.mp hx with rfl | hx
      · exact hhead .refl r hr
      · exact htail x hx r hr _
    | some bin =>
      have hlink : g₁.Keeps ((g₁.binAdd p bin).padLink (faults.host (.padLink k)) tee bin).2 :=
        Gst.Keeps.refl.more (by simp) (by simp)
      simp only
      generalize (g₁.binAdd p bin).padLink (faults.host (.padLink k)) tee bin = linked at hlink
      obtain ⟨ok, g₂⟩ := linked
      cases ok with
      | false =>
        refine ⟨hkeeps.trans hlink, fun x hx r hr => ?_⟩
        rcases List.mem_cons.mp hx with rfl | hx
        · exact hhead hlink r hr
        · exact htail x hx r hr _
      | true =>
        obtain ⟨hrest, hsinks⟩ := ih (k + 1) g₂
        refine ⟨(hkeeps.trans hlink).trans hrest, fun x hx r hr => ?_⟩
        rcases List.mem_cons.mp hx with rfl | hx
        · exact hhead (hlink.trans hrest) r hr
        · rcases hsinks x hx r hr with ⟨y, hy, hyr⟩ | ⟨hle, hlt, hh⟩
          · exact htail y hy r hyr _
          · exact .inr ⟨Nat.le_trans (hkeeps.trans hlink).next_le hle, hlt, hh⟩

theorem cleanup_keeps (hk : g₀.Keeps g) (hp : ∀ p ∈ h.pipeline, g₀.next ≤ p) : g₀.Keeps (h.cleanup g).2 := by
  unfold cleanup
  cases h.isLinked with
  | true =>
    cases hpipeline : h.pipeline with
    | none => exact hk
    | some p => exact (hk.update (hp p hpipeline) _).unref p
  | false =>
    exact ((((hk.clearObject _).clearObject _).clearObject _).clearObject _).clearObject _

theorem finishSetup_spec (hp : ∀ p ∈ h.pipeline, g₀.next ≤ p) (loop : Option String × List ProfileBin × Gst)
    (hk : g₀.Keeps loop.2.2) :
    (h.finishSetup loop).2.1.profileBins = loop.2.1 ∧ g₀.Keeps (h.finishSetup loop).2.2 ∧
      loop.2.2.SameHandlers (h.finishSetup loop).2.2 := by
  obtain ⟨error, bins, g⟩ := loop
  cases error with
  | none => exact ⟨rfl, hk, .refl⟩
  | some reason =>
    refine ⟨rfl, cleanup_keeps (h := { h with isLinked := true, profileBins := bins }) hk hp, ?_⟩
    show g.SameHandlers (({ h with isLinked := true, profileBins := bins } : ProfileHost).cleanup g).2
    unfold cleanup
    cases h.pipeline with
    | none => exact .refl
    | some p => exact (Gst.Same.refl.setState false p .null).keeps (Gst.Keeps.refl.unref p)

variable (faults) in
theorem setupElements_sinks (hk : g₀.Keeps g) {pipeline source videoConvert sourceCaps tee : Nat}
    (hp : ∀ p ∈ h.pipeline, g₀.next ≤ p) (hs : g₀.next ≤ sourceCaps) :
    let res := setupElements faults h pipeline source videoConvert sourceCaps tee g
    g₀.Keeps res.2.2 ∧ ∀ b ∈ res.2.1.profileBins, ∀ r, b.appSink = some r → SinkOf h.profileBins g₀ res.2.2 r := by
  intro res
  have hset := hk.setObject hs (ascii "caps") (.caps (VideoCaps.toGstCaps {}))
  have hkeeps : g₀.Keeps (((g.setObject sourceCaps (ascii "caps") (.caps (VideoCaps.toGstCaps {}))).binAddMany
      pipeline [source, videoConvert, sourceCaps, tee]).linkMany (faults.host .link)
      [source, videoConvert, sourceCaps, tee]).2 :=
    hset.more (by simp) (by simp)
  have hres : res = setupElements faults h pipeline source videoConvert sourceCaps tee g := rfl
  unfold setupElements at hres
  simp only at hres
  generalize ((g.setObject sourceCaps (ascii "caps") (.caps (VideoCaps.toGstCaps {}))).binAddMany
      pipeline [source, videoConvert, sourceCaps, tee]).linkMany (faults.host .link)
      [source, videoConvert, sourceCaps, tee] = linked at hkeeps hres
  obtain ⟨ok, g₁⟩ := linked
  cases ok with
  | false =>
    rw [hres]
    exact ⟨hkeeps, fun b hb r hr => .inl ⟨b, hb, hr⟩⟩
  | true =>
    obtain ⟨hloop, hsinks⟩ := setupBranches_sinks faults pipeline tee 0 h.profileBins g₁
    obtain ⟨hbins, hfinal, hsame⟩ := finishSetup_spec hp _ (hkeeps.trans hloop)
    rw [hres]
    refine ⟨hfinal, fun b hb r hr => ?_⟩
    simp only [if_true, hbins] at hb
    rcases hsinks b hb r hr with ⟨b', hb', hr'⟩ | ⟨hle, hlt, hh⟩
    · exact .inl ⟨b', hb', hr'⟩
    · exact .inr ⟨Nat.le_trans hkeeps.next_le hle, Nat.lt_of_lt_of_le hlt hsame.next_le,
        (hsame.handlers hlt _).trans hh⟩

variable (faults h g) in
/-- However `setupPipeline` ends, it touches no older object. -/
theorem setupPipeline_sinks :
    g.Keeps (setupPipeline faults h g).2.2 ∧
      ∀ b ∈ (setupPipeline faults h g).2.1.profileBins, ∀ r, b.appSink = some r →
        SinkOf h.profileBins g (setupPipeline faults h g).2.2 r := by
  rcases setupPipeline_shape faults h g with ⟨-, reason, -, hres⟩ | ⟨source, -, -, hres⟩
  · rw [hres]
    exact ⟨.refl, fun b hb r hr => .inl ⟨b, hb, hr⟩⟩
  · have hkeeps := (grew_create faults h g source).keeps
    obtain ⟨hp, hc⟩ := create_new faults h g source
    rcases hres with hres | ⟨p, s, v, c, t, hcreate, hres⟩
    · rw [hres]
      exact ⟨cleanup_keeps hkeeps hp, fun b hb r hr => .inl ⟨b, hb, hr⟩⟩
    · rw [hres]
      exact setupElements_sinks faults hkeeps hp (hc c (by rw [hcreate]; rfl))

/-! ### What the other calls leave alone -/

/-- The appsinks of the profiles, by name. -/
def ports (h : ProfileHost) : List (Bytes × Option Nat) := h.profileBins.map fun b => (b.profile.name, b.appSink)

variable {s : ProfileHost × Gst}

/-- What a change of one entry does not show in. -/
theorem map_modify {α β : Type} (f : α → β) (change : α → α) (hf : ∀ a, f (change a) = f a) (as : List α) (i : Nat) :
    (as.modify i change).map f = as.map f := by
  induction as generalizing i with
  | nil => simp
  | cons a as ih => cases i <;> simp [hf, ih]

theorem setProfileEnabled_same {α : Type} {f : GObject → α} (hf : ∀ (o : GObject) props, f { o with props } = f o)
    (name : Bytes) (enabled : Bool) :
    Gst.Same f s.2 (s.1.setProfileEnabled name enabled s.2).2.2 ∧
      (s.1.setProfileEnabled name enabled s.2).2.1.ports = s.1.ports ∧
      (s.1.setProfileEnabled name enabled s.2).2.1.pipeline = s.1.pipeline := by
  unfold setProfileEnabled
  split
  · exact ⟨.refl, rfl, rfl⟩
  · next i hi =>
    refine ⟨?_, ?_, rfl⟩
    · simp only
      split
      · next b hb =>
        unfold ProfileBin.setDrop
        split
        · exact Gst.Same.refl.update _ fun _ => hf ..
        · exact .refl
      · exact .refl
    · refine map_modify _ _ (fun b => ?_) _ i
      unfold ProfileBin.setState
      split <;> rfl

theorem setPipelineState_steers (fails : Bool) (state : GstState) (reason : String) (h : ProfileHost) (g : Gst) :
    g.Steers (h.setPipelineState fails state reason g).2 := by
  unfold setPipelineState
  split
  · split
    · exact .setState ..
    · exact .fail
  · exact .refl

theorem attachBusWatch_same {α : Type} {f : GObject → α} [Gst.Plumbing f] (fails : WatchCall → Bool)
    (context callback : Option Nat) :
    Gst.Same f s.2 (s.1.attachBusWatch fails context callback s.2).2.2 ∧
      (s.1.attachBusWatch fails context callback s.2).2.1.profileBins = s.1.profileBins ∧
      (s.1.attachBusWatch fails context callback s.2).2.1.pipeline = s.1.pipeline := by
  unfold attachBusWatch
  split
  · split
    · exact ⟨Gst.Same.refl.attachBusWatch .., rfl, rfl⟩
    · exact ⟨.refl, rfl, rfl⟩
  · exact ⟨.refl, rfl, rfl⟩

theorem onBusMessageStatic_same {α : Type} {f : GObject → α} [Gst.Queueless f] (h : ProfileHost) (g : Gst) :
    Gst.Same f g (h.onBusMessageStatic g).2 := by
  unfold onBusMessageStatic
  split
  · exact Gst.Same.refl.onBusMessageStatic ..
  · exact .refl

theorem dispatch_same {α : Type} {f : GObject → α} [Gst.Queueless f] (source : Nat) (during : List GstMessage) :
    Gst.Same f s.2 (s.2.dispatch source s.1.onBusMessageStatic during).2 :=
  Gst.Same.refl.dispatch source (onBusMessageStatic_same s.1) during

variable (s) in
/-- Every call but a `setupPipeline` that finds no pipeline leaves the appsinks and the pipeline alone. -/
theorem handle_ports (e : HostEvent) (he : ∀ faults, e = .setupPipeline faults → s.1.pipeline.isSome = true) :
    s.2.SameHandlers (handle s e).2 ∧ (handle s e).1.ports = s.1.ports ∧
      (handle s e).1.pipeline = s.1.pipeline := by
  cases e with
  | setVideoSource source => exact ⟨.refl, rfl, rfl⟩
  | setupPipeline faults =>
    obtain ⟨reason, -, hres⟩ := @setupPipeline_refused faults s.1 s.2 (.inr (he faults rfl))
    rw [handle, hres]
    exact ⟨.refl, rfl, rfl⟩
  | play fails => exact ⟨(setPipelineState_steers ..).same, rfl, rfl⟩
  | stop fails => exact ⟨(setPipelineState_steers ..).same, rfl, rfl⟩
  | setProfileEnabled name enabled => exact setProfileEnabled_same (fun _ _ => rfl) name enabled
  | attachBusWatch fails context callback =>
    obtain ⟨hsame, hbins, hpipeline⟩ := @attachBusWatch_same s _ GObject.handlers _ fails context callback
    exact ⟨hsame, by rw [handle, ports, hbins]; rfl, hpipeline⟩
  | detachBusWatch => exact ⟨Gst.Same.refl.detachBusWatch _, rfl, rfl⟩
  | dispatch during =>
    cases hsource : s.1.watch.busSource with
    | none => simp only [handle, hsource]; exact ⟨.refl, trivial, trivial⟩
    | some source => simp only [handle, hsource]; exact ⟨dispatch_same .., trivial, trivial⟩

variable (s) in
/-- No call connects a handler, and every appsink is an old one or a new object. -/
theorem handle_sinks (e : HostEvent) :
    s.2.SameHandlers (handle s e).2 ∧
      ∀ b ∈ (handle s e).1.profileBins, ∀ r, b.appSink = some r → SinkOf s.1.profileBins s.2 (handle s e).2 r := by
  by_cases he : ∀ faults, e = .setupPipeline faults → s.1.pipeline.isSome = true
  · obtain ⟨hsame, hports, -⟩ := handle_ports s e he
    refine ⟨hsame, fun b hb r hr => ?_⟩
    have hmem : (b.profile.name, b.appSink) ∈ s.1.ports := hports ▸ List.mem_map_of_mem hb
    obtain ⟨b', hb', heq⟩ := List.mem_map.mp hmem
    exact .inl ⟨b', hb', (Prod.mk.inj heq).2.trans hr⟩
  · push Not at he
    obtain ⟨faults, rfl, -⟩ := he
    obtain ⟨hk, hsinks⟩ := setupPipeline_sinks faults s.1 s.2
    exact ⟨hk.same, hsinks⟩

end Setup

/-! ### The appsinks of a host that was set up -/

/-- Names and appsinks tell the profiles apart, and nothing is connected to the appsinks yet. -/
structure Ported (h : ProfileHost) (g : Gst) : Prop where
  pipeline : h.pipeline.isSome = true
  names : (h.ports.map (·.1)).Nodup
  apart : (h.ports.map (·.2)).Nodup
  sinks : ∀ x ∈ h.ports, ∃ r, x.2 = some r ∧ r < g.next ∧ g.handlersOf r .newSample = []

section Ports
variable {h : ProfileHost} {g : Gst} {s : ProfileHost × Gst}

theorem Ready.ported {ns : List Nat} (hr : h.Ready g ns) : h.Ported g := by
  obtain ⟨p, bus, hp, -⟩ := hr.pipeline
  obtain ⟨tee, start, hbuilt⟩ := hr.built
  have hsinks : ∀ {bins : List ProfileBin} {ns : List Nat}, List.Forall₂ (fun b n => b.Branch n g) bins ns →
      bins.map (·.appSink) = ns.map fun n => some (n + 2) := by
    intro bins ns hb
    induction hb with
    | nil => rfl
    | cons hb _ ih => rw [List.map_cons, List.map_cons, hb.appSink, ih]
  refine ⟨by rw [hp]; rfl, ?_, ?_, fun x hx => ?_⟩
  · rw [ports, List.map_map]
    exact hr.names
  · rw [ports, List.map_map]
    show (h.profileBins.map (·.appSink)).Nodup
    rw [hsinks hbuilt.branches]
    have hnodup : ns.Nodup := hbuilt.apart.imp (by intro a b hab; omega)
    exact List.Nodup.map (fun m n hmn => by simpa using hmn) hnodup
  · obtain ⟨b, hb, rfl⟩ := List.mem_map.mp hx
    obtain ⟨n, -, hbranch⟩ := hr.branch hb
    obtain ⟨o, ho, -, hhandlers⟩ := hbranch.sink
    have hroom := hbranch.room
    refine ⟨n + 2, hbranch.appSink, by omega, ?_⟩
    rw [Gst.handlersOf, ho, Option.map_some, hhandlers]
    rfl

theorem Ported.handle (hp : s.1.Ported s.2) (e : HostEvent) : (handle s e).1.Ported (handle s e).2 := by
  obtain ⟨hsame, hports, hpipeline⟩ := handle_ports s e fun _ _ => hp.pipeline
  refine ⟨hpipeline ▸ hp.pipeline, hports ▸ hp.names, hports ▸ hp.apart, fun x hx => ?_⟩
  obtain ⟨r, hr, hlt, hh⟩ := hp.sinks x (hports ▸ hx)
  exact ⟨r, hr, Nat.lt_of_lt_of_le hlt hsame.next_le, (hsame.handlers hlt _).trans hh⟩

theorem Ported.run (hp : s.1.Ported s.2) (events : List HostEvent) :
    (run ProfileHost.handle s events).1.Ported (run ProfileHost.handle s events).2 :=
  run_invariant (P := fun s : ProfileHost × Gst => s.1.Ported s.2) hp (fun _ e h => h.handle e) events

/-- The appsink of a profile is that of its branch. -/
theorem Ported.appSink (hp : h.Ported g) {b : ProfileBin} (hb : b ∈ h.profileBins) :
    h.appSinkForProfile b.profile.name = b.appSink := by
  have hnames := hp.names
  rw [ports, List.map_map] at hnames
  rw [appSinkForProfile, find_of_names hnames hb]
  rfl

end Ports

end ProfileHost

end CameraPlatform
