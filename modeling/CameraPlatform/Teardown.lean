import CameraPlatform.ApplicationStart

/-!
# Is the application torn down in order?

The contract of `stop` detaches the server first, and the context is to go after everything that was
attached to it. `stop` does not touch the server, and the destructor drops its context before its
members: the order holds exactly as long as nothing but signal sources was attached.
-/

namespace CameraPlatform
open ByteString RefHeap Gst

/-- The call is `initialize`. -/
def LifeCall.initializes : LifeCall → Bool
  | .initializeWith _ => true
  | _ => false

/-- Every reference to the object was dropped, and since `g₀` none more than once. -/
def Gst.Released (g₀ g : Gst) (x : Nat) : Prop :=
  g.alive x = false ∧ g.heap.misused.count x = g₀.heap.misused.count x

/-- The order of release that is documented, of a life that began with the heap `g₀`. -/
structure Life.Orderly (g₀ : Gst) (life : Life) : Prop where
  stopped : ∀ attached, .stopped attached ∈ life.log → attached = false
  contextReleased : ∀ attached, .contextReleased attached ∈ life.log → ∀ s ∈ attached, s < g₀.next
  released : ∀ x o, g₀.next ≤ x → life.app.bridge.gst.obj x = some o →
    o.type = ascii "GSource" ∨ o.type = ascii "GMainLoop" → Gst.Released g₀ life.app.bridge.gst x

theorem Gst.Held.released {g₀ g : Gst} {x : Nat} {o : GObject} (h : Held g₀ g x 0 o) : Gst.Released g₀ g x :=
  ⟨by rw [Gst.alive, Heap.alive, h.get]; rfl, h.misused⟩

namespace Application
open ProfileHost

variable {g₀ : Gst} {b k : Nat} {app app' app'' : Application}

/-! ### What running and stopping leave alone -/

/-- The same members, and the same sources. -/
structure Steady (app app' : Application) : Prop where
  host : app'.host = app.host
  rtsp : app'.rtsp = app.rtsp
  signals : app'.signals = app.signals
  tags : Tagged app.bridge.gst app'.bridge.gst
  made : ∀ x o', app'.bridge.gst.obj x = some o' → Scheduled o'.type o'.context →
    ∃ o, app.bridge.gst.obj x = some o ∧ Scheduled o.type o.context

namespace Steady

theorem refl : Steady app app := ⟨rfl, rfl, rfl, .refl, fun _ o ho hS => ⟨o, ho, hS⟩⟩

theorem trans (h : Steady app app') (h' : Steady app' app'') : Steady app app'' := by
  refine ⟨h'.host.trans h.host, h'.rtsp.trans h.rtsp, h'.signals.trans h.signals, h.tags.trans h'.tags, ?_⟩
  intro x o'' ho'' hS''
  obtain ⟨o', ho', hS'⟩ := h'.made x o'' ho'' hS''
  exact h.made x o' ho' hS'

theorem quiet (h : Steady app app') (hq : Quiet g₀ app) : Quiet g₀ app' := by
  refine ⟨by rw [h.host]; exact hq.busSource, by rw [h.rtsp]; exact hq.source, fun x o' hx ho' hS' => ?_⟩
  obtain ⟨o, ho, hS⟩ := h.made x o' ho' hS'
  rw [h.signals]
  exact hq.known x o hx ho hS

theorem busWatched {c : Nat} (h : Steady app app') (hw : BusWatched b c app) : BusWatched b c app' := by
  obtain ⟨s, hle, hs, hmem⟩ := hw
  exact ⟨s, hle, by rw [h.host]; exact hs, attachedTo_mono h.tags hmem⟩

end Steady

theorem Quiet.serverAttached (h : Quiet g₀ app) : app.serverAttached = false := by
  unfold Application.serverAttached
  cases hr : app.rtsp with
  | none => rfl
  | some r => rw [Option.bind_some, h.source r hr]; rfl

theorem tagged_setPipelineState (host : ProfileHost) (fails : Bool) (state : GstState) (reason : String) (g : Gst) :
    Tagged g (host.setPipelineState fails state reason g).2 := by
  have hsteers := setPipelineState_steers fails state reason host g
  generalize (host.setPipelineState fails state reason g).2 = g' at hsteers
  cases hsteers with
  | refl => exact .refl
  | fail => exact Gst.Same.refl.heap rfl
  | setState fails r state =>
    unfold Gst.setState
    cases fails
    · exact Gst.Same.refl.update _ fun _ => by rfl
    · exact Gst.Same.refl.heap rfl

/-- A call that changes the heap only. -/
theorem Started.withGst (h : Started g₀ b k app) {g : Gst} (hs : app.bridge.gst.Spares b Scheduled g)
    (ht : Tagged app.bridge.gst g) : Started g₀ b k (app.withGst g) ∧ Steady app (app.withGst g) :=
  ⟨⟨h.loops.spares hs h.base, h.mainLoop, h.context, fun s hmem => (h.held s hmem).spares hs (h.above s hmem).2, h.above,
    h.nodup, h.host, h.server, h.base, hs.le'⟩, ⟨rfl, rfl, rfl, ht, hs.made⟩⟩

/-- A reference to the loop is dropped, by its owner or by the call that runs it. -/
theorem Started.drop (h : Started g₀ b k app) {k' : Nat} {mainLoop : Option Nat}
    (hk : k + app.mainLoop.toList.length = k' + mainLoop.toList.length + 1)
    (hm : ∀ loop ∈ mainLoop, loop = g₀.next + 1) :
    let app' := { app.withGst (app.bridge.gst.mainLoopUnref (g₀.next + 1)) with mainLoop }
    Started g₀ b k' app' ∧ Steady app app' := by
  intro app'
  have hloops := h.loops
  rw [hk] at hloops
  have hobj := hloops.obj_mainLoopUnref
  have hnext := hloops.next_mainLoopUnref
  have hkeeps : app.bridge.gst.Keeps (app.bridge.gst.mainLoopUnref (g₀.next + 1)) :=
    ⟨Nat.le_of_eq hnext.symm, fun x _ => hobj x⟩
  refine ⟨⟨hloops.mainLoopUnref, hm, h.context, fun s hs => ?_, h.above, h.nodup, h.host, h.server, h.base,
    Nat.le_trans h.le hkeeps.next_le⟩, rfl, rfl, rfl, hkeeps.same, fun x o' ho' hS' => ⟨o', ?_, hS'⟩⟩
  · have habove := (h.above s hs).1
    exact hloops.held_mainLoopUnref (h.held s hs) (by omega) (by omega)
  · exact (hobj x).symm.trans ho'

/-- The call that runs the loop holds a reference to it. -/
theorem Started.ref (h : Started g₀ b k app) (hm : app.mainLoop = some (g₀.next + 1)) :
    let app' := app.withGst (app.bridge.gst.ref (g₀.next + 1))
    Started g₀ b (k + 1) app' ∧ Steady app app' := by
  intro app'
  have hlength : app.mainLoop.toList.length = 1 := by rw [hm]; rfl
  have hloops : Loops g₀ app.bridge.gst g₀.next (k + 1) := hlength ▸ h.loops
  have hkeeps : app.bridge.gst.Keeps (app.bridge.gst.ref (g₀.next + 1)) := Keeps.refl.ref _
  refine ⟨⟨?_, h.mainLoop, h.context, fun s hs => ?_, h.above, h.nodup, h.host, h.server, h.base,
    Nat.le_trans h.le hkeeps.next_le⟩, rfl, rfl, rfl, hkeeps.same, fun x o' ho' hS' => ⟨o', ?_, hS'⟩⟩
  · show Loops g₀ _ g₀.next (k + 1 + app.mainLoop.toList.length)
    rw [hlength]
    exact hloops.ref
  · have habove := (h.above s hs).1
    exact (h.held s hs).ref_other (by omega)
  · exact (obj_ref ..).symm.trans ho'

theorem Started.play (h : Started g₀ b k app) (fails : Bool) :
    Started g₀ b k (app.play fails).2 ∧ Steady app (app.play fails).2 :=
  h.withGst (spares_setPipelineState (Spares.refl h.le) h.host ..) (tagged_setPipelineState ..)

theorem Started.stop (h : Started g₀ b k app) (fails : Bool) :
    Started g₀ b k (app.stop fails) ∧ Steady app (app.stop fails) ∧ (app.stop fails).mainLoop = none := by
  obtain ⟨hstarted, hsteady⟩ := h.withGst (spares_setPipelineState (Spares.refl h.le) h.host fails .paused
    "Failed to set pipeline to PAUSED") (tagged_setPipelineState ..)
  unfold Application.stop
  simp only
  cases hm : app.mainLoop with
  | none =>
    refine ⟨hstarted, hsteady, ?_⟩
    show app.mainLoop = none
    exact hm
  | some loop =>
    obtain rfl := h.mainLoop loop hm
    have hlength : k + app.mainLoop.toList.length = k + (none : Option Nat).toList.length + 1 := by rw [hm]; rfl
    obtain ⟨hdropped, hsteady'⟩ := hstarted.drop hlength nofun
    exact ⟨hdropped, hsteady.trans hsteady', rfl⟩

end Application

namespace Life
open Application

variable {g₀ : Gst} {b k : Nat} {life life' life'' : Life}

/-- So far every `stop` found the server detached, and no context was dropped. -/
def Calm (life : Life) : Prop := ∀ e ∈ life.log, e = .stopped false

/-- What a call does to an application that was started. -/
structure Leads (g₀ : Gst) (b k : Nat) (life life' : Life) : Prop where
  started : Started g₀ b k life'.app
  steady : Steady life.app life'.app
  calm : Quiet g₀ life.app → life.Calm → life'.Calm

theorem Leads.trans {k' : Nat} (h : Leads g₀ b k life life') (h' : Leads g₀ b k' life' life'') :
    Leads g₀ b k' life life'' :=
  ⟨h'.started, h.steady.trans h'.steady, fun hq hc => h'.calm (h.steady.quiet hq) (h.calm hq hc)⟩

/-- A call that is not written down. -/
theorem Leads.silent {app : Application} {k' : Nat} (h : Started g₀ b k' app ∧ Steady life.app app) :
    Leads g₀ b k' life { life with app } := ⟨h.1, h.2, fun _ hc => hc⟩

theorem leads_stop (h : Started g₀ b k life.app) (fails : Bool) : Leads g₀ b k life (life.stop fails) := by
  obtain ⟨hstarted, hsteady, -⟩ := h.stop fails
  refine ⟨hstarted, hsteady, fun hq hc e he => ?_⟩
  rcases List.mem_append.mp he with he | he
  · exact hc e he
  · rw [List.mem_singleton.mp he, (hsteady.quiet hq).serverAttached]

theorem leads_stops (h : Started g₀ b k life.app) (during : List Bool) :
    Leads g₀ b k life (during.foldl (fun (life : Life) fails => life.stop fails) life) := by
  induction during generalizing life with
  | nil => exact .silent ⟨h, .refl⟩
  | cons fails during ih =>
    have hstop := leads_stop h fails
    exact hstop.trans (ih hstop.started)

theorem leads_run (h : Started g₀ b 0 life.app) (playFails : Bool) (during : List Bool) (stopFails : Bool) :
    Leads g₀ b 0 life (life.run playFails during stopFails) := by
  have hplay : Leads g₀ b 0 life { life with app := (life.app.play playFails).2 } := .silent (h.play playFails)
  unfold Life.run
  generalize ({ life with app := (life.app.play playFails).2 } : Life) = played at hplay
  simp only
  cases hm : played.app.mainLoop with
  | none => exact hplay.trans (leads_stop hplay.started stopFails)
  | some loop =>
    obtain rfl := hplay.started.mainLoop loop hm
    have href : Leads g₀ b 1 played { played with app := played.app.withGst (played.app.bridge.gst.ref (g₀.next + 1)) } :=
      .silent (hplay.started.ref hm)
    have hduring := href.trans (leads_stops href.started during)
    have hdropped : Leads g₀ b 0 _ _ := .silent (hduring.started.drop (by omega) hduring.started.mainLoop)
    exact (hplay.trans (hduring.trans hdropped)).trans (leads_stop hdropped.started stopFails)

/-! ### The destructor -/

/-- Attached sources that are cleared one after the other. -/
theorem clear_sources {g : Gst} {c : Nat} {sources : List Nat} (hnodup : sources.Nodup)
    (hheld : ∀ s ∈ sources, Held g₀ g s 2 { type := ascii "GSource", context := some c }) :
    let g' := sources.foldl (fun g source => g.sourceClear source) g
    g'.next = g.next ∧ (∀ s ∈ sources, Held g₀ g' s 0 { type := ascii "GSource" }) ∧
      ∀ x ∉ sources, g'.obj x = g.obj x ∧ ∀ n o, Held g₀ g x n o → Held g₀ g' x n o := by
  induction sources generalizing g with
  | nil => exact ⟨rfl, by simp, fun x _ => ⟨rfl, fun _ _ h => h⟩⟩
  | cons s sources ih =>
    obtain ⟨hs, hrest⟩ := List.nodup_cons.mp hnodup
    have hne : ∀ t ∈ sources, t ≠ s := fun t ht heq => hs (heq ▸ ht)
    have hcleared : Held g₀ (g.sourceClear s) s 0 { type := ascii "GSource" } := (hheld s (by simp)).sourceClear rfl
    obtain ⟨hnext, hall, hother⟩ := @ih (g.sourceClear s) hrest fun t ht =>
      (hheld t (List.mem_cons_of_mem _ ht)).sourceClear_other (hne t ht)
    refine ⟨hnext.trans (next_sourceClear s), fun t ht => ?_, fun x hx => ?_⟩
    · rcases List.mem_cons.mp ht with rfl | ht
      · exact (hother t hs).2 _ _ hcleared
      · exact hall t ht
    · rw [List.mem_cons, not_or] at hx
      obtain ⟨hobj, hheld'⟩ := hother x hx.2
      exact ⟨hobj.trans (obj_sourceClear hx.1), fun n o h => hheld' n o (h.sourceClear_other hx.1)⟩

theorem releaseSignals_gst (app : Application) : app.releaseSignals.bridge.gst =
    app.signals.foldl (fun g source => g.sourceClear source) app.bridge.gst := by
  unfold releaseSignals signals
  cases app.sigintSource <;> cases app.sigtermSource <;> rfl

/-- Members without sources spare the loop and the signal sources. -/
theorem spares_destroyMembers {app : Application} (hle : b ≤ app.bridge.gst.next) (hhost : app.host.From b)
    (hserver : ∀ r ∈ app.rtsp, r.From b) (hbus : app.host.watch.busSource = none)
    (hsource : ∀ r ∈ app.rtsp, r.source = none) :
    app.bridge.gst.Spares b Scheduled app.destroyMembers.bridge.gst := by
  unfold destroyMembers
  cases hr : app.rtsp with
  | none => exact ProfileHost.spares_destroy (Spares.refl hle) hhost hbus
  | some r =>
    have hdropped : app.bridge.gst.Spares b Scheduled (r.destroy app.bridge).gst :=
      RtspProfileServer.spares_destroy (Spares.refl hle) (hserver r hr) (hsource r hr)
    exact ProfileHost.spares_destroy hdropped hhost hbus

theorem loop_ne_source : ascii "GMainLoop" ≠ ascii "GSource" := by decide

/-- Of what was made, the loop and all sources are gone, and no source is attached. -/
def Cleared (g₀ : Gst) (b : Nat) (g : Gst) : Prop :=
  ∀ x o, g₀.next ≤ x → g.obj x = some o → Scheduled o.type o.context →
    x ≠ g₀.next ∧ x < b ∧ Held g₀ g x 0 o ∧ (o.type = ascii "GSource" → o.context = none)

/-- The destructor clears the signal sources, and without its loop the application has no others. -/
theorem cleared_releaseSignals {app : Application} (h : Started g₀ b 0 app) (hq : Quiet g₀ app)
    (hnone : app.mainLoop = none) :
    Cleared g₀ b app.releaseSignals.bridge.gst ∧ b ≤ app.releaseSignals.bridge.gst.next := by
  have hloops : Loops g₀ app.bridge.gst g₀.next 0 := by
    have := h.loops
    rwa [hnone] at this
  obtain ⟨hnext, hcleared, hother⟩ := clear_sources h.nodup h.held
  rw [releaseSignals_gst]
  refine ⟨fun x o hx ho hS => ?_, hnext ▸ h.le⟩
  by_cases hmem : x ∈ app.signals
  · have habove := h.above x hmem
    have hheld := hcleared x hmem
    obtain rfl := Option.some.inj (ho.symm.trans hheld.obj)
    exact ⟨by omega, habove.2, hheld, fun _ => rfl⟩
  · obtain ⟨hobj, hkeep⟩ := hother x hmem
    rcases hq.known x o hx (hobj.symm.trans ho) hS with rfl | hmem'
    · have hheld := hkeep _ _ hloops.loop
      obtain rfl := Option.some.inj (ho.symm.trans hheld.obj)
      exact ⟨by omega, h.base, hheld, fun htype => absurd htype loop_ne_source⟩
    · exact absurd hmem' hmem

theorem Cleared.attachedTo {g : Gst} (h : Cleared g₀ b g) {c : Nat} : ∀ s ∈ g.attachedTo c, s < g₀.next := by
  intro s hs
  obtain ⟨o, ho, htype, hcontext⟩ := mem_attachedTo.mp hs
  by_contra hge
  obtain ⟨-, -, -, hnull⟩ := h s o (Nat.le_of_not_lt hge) ho (.inl htype)
  rw [hnull htype] at hcontext
  cases hcontext

/-- What is gone stays gone when the context is dropped and the members are destroyed. -/
theorem Cleared.released {g g' : Gst} (h : Cleared g₀ b g) (hspares : (g.mainContextUnref g₀.next).Spares b Scheduled g')
    {x : Nat} {o : GObject} (hx : g₀.next ≤ x) (ho : g'.obj x = some o)
    (htype : o.type = ascii "GSource" ∨ o.type = ascii "GMainLoop") : Gst.Released g₀ g' x := by
  obtain ⟨o', ho', hS'⟩ := hspares.made x o ho (htype.imp id .inl)
  have hnot : x ∉ g.attachedTo g₀.next := fun hmem => Nat.not_lt.mpr hx (h.attachedTo x hmem)
  rw [obj_mainContextUnref hnot] at ho'
  obtain ⟨hne, hlt, hheld, -⟩ := h x o' hx ho' hS'
  exact ((hheld.mainContextUnref_other hne hnot).spares hspares hlt).released

/-- With nothing attached but the signal sources, all is released in order. -/
theorem orderly_destroy (h : Started g₀ b 0 life.app) (hq : Quiet g₀ life.app) (hc : life.Calm) (stopFails : Bool) :
    (life.destroy stopFails).Orderly g₀ := by
  have hstop := leads_stop h stopFails
  obtain ⟨-, -, hnone⟩ := h.stop stopFails
  have hquiet := hstop.steady.quiet hq
  have hcalm := hstop.calm hq hc
  have hnone' : (life.stop stopFails).app.mainLoop = none := hnone
  unfold Life.destroy
  simp only
  generalize life.stop stopFails = stopped at hstop hquiet hcalm hnone'
  have hstarted := hstop.started
  obtain ⟨hcleared, hle⟩ := cleared_releaseSignals hstarted hquiet hnone'
  have hfields : stopped.app.releaseSignals.context = some g₀.next ∧ stopped.app.releaseSignals.host = stopped.app.host ∧
      stopped.app.releaseSignals.rtsp = stopped.app.rtsp := ⟨hstarted.context, rfl, rfl⟩
  generalize stopped.app.releaseSignals = app at hcleared hle hfields
  obtain ⟨hctx, hhost, hrtsp⟩ := hfields
  -- the context is dropped, then the members
  have hreleased : app.releaseContext.bridge.gst = app.bridge.gst.mainContextUnref g₀.next ∧
      app.releaseContext.host = stopped.app.host ∧ app.releaseContext.rtsp = stopped.app.rtsp := by
    unfold releaseContext
    rw [hctx]
    exact ⟨rfl, hhost, hrtsp⟩
  have hspares : (app.bridge.gst.mainContextUnref g₀.next).Spares b Scheduled
      app.releaseContext.destroyMembers.bridge.gst := by
    generalize app.releaseContext = dropped at hreleased
    obtain ⟨hgst, hhost, hrtsp⟩ := hreleased
    have hnext : b ≤ dropped.bridge.gst.next := by
      rw [hgst, next_mainContextUnref]
      exact hle
    rw [← hgst]
    exact spares_destroyMembers hnext (hhost ▸ hstarted.host) (hrtsp ▸ hstarted.server) (hhost ▸ hquiet.busSource)
      (hrtsp ▸ hquiet.source)
  simp only [hctx]
  refine ⟨fun attached he => ?_, fun attached he => ?_, fun x o hx ho htype => hcleared.released hspares hx ho htype⟩
  · rcases List.mem_append.mp he with he | he
    · cases hcalm _ he
      rfl
    · cases List.mem_singleton.mp he
  · rcases List.mem_append.mp he with he | he
    · cases hcalm _ he
    · cases List.mem_singleton.mp he
      exact hcleared.attachedTo

/-- A watch that was attached is still there when the context is dropped. -/
theorem disorderly_destroy (h : Started g₀ b 0 life.app) (hw : BusWatched b g₀.next life.app) (stopFails : Bool) :
    ¬ (life.destroy stopFails).Orderly g₀ := by
  have hstop := leads_stop h stopFails
  have hwatched := hstop.steady.busWatched hw
  have hstarted := hstop.started
  intro hordered
  have hreleased := hordered.contextReleased ((life.stop stopFails).app.releaseSignals.bridge.gst.attachedTo g₀.next) ?_
  · obtain ⟨s, hle, -, hmem⟩ := hwatched
    have hbase := hstarted.base
    have hs : s ∉ (life.stop stopFails).app.signals := fun hmem => Nat.not_lt.mpr hle (hstarted.above s hmem).2
    obtain ⟨-, -, hother⟩ := clear_sources hstarted.nodup hstarted.held
    obtain ⟨o, ho, htype⟩ := mem_attachedTo.mp hmem
    have hstill := hreleased s (mem_attachedTo.mpr ⟨o, by rw [releaseSignals_gst, (hother s hs).1, ho], htype⟩)
    omega
  · have hctx : (life.stop stopFails).app.releaseSignals.context = some g₀.next := hstarted.context
    unfold Life.destroy
    simp only [hctx]
    exact List.mem_append_right _ (List.mem_singleton.mpr rfl)

/-! ### Whole lives -/

/-- Nothing was made yet. -/
structure Idle (g : Gst) (life : Life) : Prop where
  app : life.app = .new g
  calm : life.Calm

section
variable {g : Gst}

theorem new_members (g : Gst) : (new g).rtsp = none ∧ (new g).context = none ∧ (new g).mainLoop = none ∧
    (new g).signals = [] ∧ (new g).bridge.gst = g ∧ (new g).host.watch.busSource = none ∧ ∀ b, (new g).host.From b := by
  rw [new_eq]
  exact ⟨rfl, rfl, rfl, rfl, rfl, rfl, from_catalog _ _⟩

theorem new_stop (g : Gst) (fails : Bool) : (new g).stop fails = new g := by
  rw [new_eq]
  rfl

theorem new_play (g : Gst) (fails : Bool) : ((new g).play fails).2 = new g := by
  rw [new_eq]
  rfl

theorem Idle.stop (h : life.Idle g) (fails : Bool) : (life.stop fails).Idle g := by
  have happ : life.app.stop fails = new g := by rw [h.app, new_stop]
  refine ⟨happ, fun e he => ?_⟩
  rcases List.mem_append.mp he with he | he
  · exact h.calm e he
  · rw [List.mem_singleton.mp he, happ, serverAttached, (new_members g).1]
    rfl

theorem Idle.run (h : life.Idle g) (playFails : Bool) (during : List Bool) (stopFails : Bool) :
    (life.run playFails during stopFails).Idle g := by
  have happ : (life.app.play playFails).2 = new g := by rw [h.app, new_play]
  unfold Life.run
  simp only [happ, (new_members g).2.2.1]
  exact @Idle.stop { life with app := new g } g ⟨rfl, h.calm⟩ stopFails

theorem Idle.destroy (h : life.Idle g) (stopFails : Bool) : (life.destroy stopFails).Orderly g := by
  have hstop := h.stop stopFails
  unfold Life.destroy
  simp only
  generalize life.stop stopFails = stopped at hstop
  obtain ⟨hrtsp, hctx, -, hsignals, hgst, hbus, hfrom⟩ := new_members g
  rw [← hstop.app] at hrtsp hctx hsignals hgst hbus hfrom
  have hctx' : stopped.app.releaseSignals.context = none := hctx
  have hgst' : stopped.app.releaseSignals.bridge.gst = g := by rw [releaseSignals_gst, hsignals]; exact hgst
  have hcontext : stopped.app.releaseSignals.releaseContext = stopped.app.releaseSignals := by
    rw [releaseContext, hctx']
  have hspares : g.Spares g.next Scheduled stopped.app.releaseSignals.destroyMembers.bridge.gst := by
    have hservers : ∀ r ∈ stopped.app.rtsp, r.From g.next ∧ r.source = none := by rw [hrtsp]; exact nofun
    have := @spares_destroyMembers g.next stopped.app.releaseSignals (Nat.le_of_eq (by rw [hgst'])) (hfrom g.next)
      (fun r hr => (hservers r hr).1) hbus fun r hr => (hservers r hr).2
    rwa [hgst'] at this
  simp only [hctx', hcontext]
  refine ⟨fun attached he => ?_, fun attached he => ?_, fun x o hx ho htype => ?_⟩
  · cases hstop.calm _ he
    rfl
  · cases hstop.calm _ he
  · obtain ⟨o', ho', -⟩ := hspares.made x o ho (htype.imp id .inl)
    rw [Gst.obj_eq_none hx] at ho'
    cases ho'

theorem idle_calls {calls : List LifeCall} (h : life.Idle g) (hno : ∀ c ∈ calls, c.initializes = false) :
    (calls.foldl call life).Idle g := by
  induction calls generalizing life with
  | nil => exact h
  | cons c calls ih =>
    refine ih ?_ fun c hc => hno c (List.mem_cons_of_mem _ hc)
    cases c with
    | initializeWith faults => cases hno (.initializeWith faults) (by simp)
    | run playFails during stopFails => exact h.run ..
    | stop fails => exact h.stop fails

theorem leads_calls {calls : List LifeCall} (h : Started g₀ b 0 life.app) (hno : ∀ c ∈ calls, c.initializes = false) :
    Leads g₀ b 0 life (calls.foldl call life) := by
  induction calls generalizing life with
  | nil => exact .silent ⟨h, .refl⟩
  | cons c calls ih =>
    have hcall : Leads g₀ b 0 life (life.call c) := by
      cases c with
      | initializeWith faults => cases hno (.initializeWith faults) (by simp)
      | run playFails during stopFails => exact leads_run h ..
      | stop fails => exact leads_stop h fails
    exact hcall.trans (ih hcall.started fun c hc => hno c (List.mem_cons_of_mem _ hc))

/-- At most one call is `initialize`: there is none, or it splits the calls. -/
theorem calls_split {calls : List LifeCall} (hone : (calls.filter LifeCall.initializes).length ≤ 1) :
    (∀ c ∈ calls, c.initializes = false) ∨
    ∃ pre faults post, calls = pre ++ .initializeWith faults :: post ∧ (∀ c ∈ pre, c.initializes = false) ∧
      ∀ c ∈ post, c.initializes = false := by
  by_cases hall : ∀ c ∈ calls, c.initializes = false
  · exact .inl hall
  · push Not at hall
    obtain ⟨c, hc, hinit⟩ := hall
    obtain ⟨pre, post, rfl⟩ := List.append_of_mem hc
    have hc' : c.initializes = true := by simpa using hinit
    rw [List.filter_append, List.filter_cons_of_pos hc', List.length_append, List.length_cons] at hone
    have hnone : ∀ calls : List LifeCall, (calls.filter LifeCall.initializes).length = 0 →
        ∀ c ∈ calls, c.initializes = false := by
      intro calls hlen c hc
      simpa using List.filter_eq_nil_iff.mp (List.length_eq_zero_iff.mp hlen) c hc
    cases c with
    | initializeWith faults =>
      exact .inr ⟨pre, faults, post, rfl, hnone pre (by omega), hnone post (by omega)⟩
    | run _ _ _ => cases hc'
    | stop _ => cases hc'

/-- The order of release holds if and only if `initialize` is not called, or fails before the watch of the
bus is attached. -/
theorem teardown_orderly_iff (g : Gst) (calls : List LifeCall) (stopFails : Bool)
    (hone : (calls.filter LifeCall.initializes).length ≤ 1) :
    (Life.of g calls stopFails).Orderly g ↔ ∀ faults, .initializeWith faults ∈ calls → ¬ Watched faults := by
  have hidle : Idle g { app := .new g } := ⟨rfl, by simp [Calm]⟩
  unfold Life.of
  rcases calls_split hone with hno | ⟨pre, faults, post, rfl, hpre, hpost⟩
  · refine iff_of_true ((idle_calls hidle hno).destroy stopFails) fun faults hmem => ?_
    cases hno _ hmem
  · rw [List.foldl_append, List.foldl_cons]
    have hbefore := idle_calls hidle hpre
    generalize pre.foldl call _ = life at hbefore
    obtain ⟨b, hstarted, -, hcases⟩ := initializeWith_cases faults g
    rw [← hbefore.app] at hstarted hcases
    have hcall : Calm (life.call (.initializeWith faults)) := hbefore.calm
    have hafter := @leads_calls _ _ (life.call (.initializeWith faults)) _ hstarted hpost
    have hmem : LifeCall.initializeWith faults ∈ pre ++ .initializeWith faults :: post := by simp
    rcases hcases with ⟨hwatched, -, hquiet⟩ | ⟨hwatched, hbus, -⟩
    · have horderly := orderly_destroy hafter.started (hafter.steady.quiet hquiet) (hafter.calm hquiet hcall) stopFails
      refine iff_of_true horderly fun faults' hmem' => ?_
      rcases List.mem_append.mp hmem' with hmem' | hmem'
      · cases hpre _ hmem'
      · rcases List.mem_cons.mp hmem' with heq | hmem'
        · cases heq
          exact hwatched
        · cases hpost _ hmem'
    · refine iff_of_false (disorderly_destroy hafter.started (hafter.steady.busWatched hbus) stopFails) fun h => ?_
      exact h faults hmem hwatched

/-- The watch cannot be made, the application runs all the same, and a callback stops it. -/
theorem teardown_orderly_unwatched :
    let faults : InitFaults := ⟨fun _ => false, ⟨fun _ => false, fun _ _ => false⟩, fun c => c == .createWatch, none⟩
    let calls : List LifeCall := [.stop false, .initializeWith faults, .run false [false] false]
    (Life.of .init calls false).Orderly .init ↔ ∀ faults, .initializeWith faults ∈ calls → ¬ Watched faults := by
  intro faults calls
  exact teardown_orderly_iff .init calls false (by decide)

/-- The application is initialized and destroyed: `stop` leaves the source of the server attached. -/
theorem teardown_disorderly :
    ¬ (Life.of .init [.initializeWith ⟨fun _ => false, ⟨fun _ => false, fun _ _ => false⟩, fun _ => false, none⟩]
      false).Orderly .init := by
  intro h
  have := h.stopped true (by decide +kernel)
  cases this

end

end Life

end CameraPlatform
