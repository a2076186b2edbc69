import CameraPlatform.HostEvents
import CameraPlatform.VideoSetup

/-!
# The life of a `VideoPipeline`

Its five elements are there all together or not at all, and the caps of the capsfilter are the last
ones anybody set.
-/

namespace CameraPlatform
open ByteString RefHeap History

/-- The calls of a `VideoPipeline`, with what they depend on. -/
inductive VideoEvent where
  | setVideoSource (source : Option VideoSource)
  | setVideoSink (sink : Option VideoSink)
  | setCaps (caps : VideoCaps)
  | setupPipeline (fails : VideoCall → Bool)
  | play (getFails setFails : Bool)
  | pause (getFails setFails : Bool)
  | stop
  | seek (getFails seekFails : Bool)
  | attachBusWatch (fails : WatchCall → Bool) (context callback : Option Nat)
  | detachBusWatch
  | dispatch (during : List GstMessage)

namespace VideoPipeline

/-- The outcome of a call, if it returns one, and the state after it. -/
def call (s : VideoPipeline × Gst) : VideoEvent → Option PipelineOutcome × VideoPipeline × Gst
  | .setVideoSource source => (some (s.1.setVideoSource source).1, (s.1.setVideoSource source).2, s.2)
  | .setVideoSink sink => (some (s.1.setVideoSink sink).1, (s.1.setVideoSink sink).2, s.2)
  | .setCaps caps => (some (s.1.setCaps caps s.2).1, (s.1.setCaps caps s.2).2)
  | .setupPipeline fails => (some (s.1.setupPipeline fails s.2).1, (s.1.setupPipeline fails s.2).2)
  | .play getFails setFails => (some (s.1.play getFails setFails s.2).1, s.1, (s.1.play getFails setFails s.2).2)
  | .pause getFails setFails => (some (s.1.pause getFails setFails s.2).1, s.1, (s.1.pause getFails setFails s.2).2)
  | .stop => (some (s.1.stop s.2).1, (s.1.stop s.2).2)
  | .seek getFails seekFails => (some (s.1.seek getFails seekFails s.2).1, s.1, (s.1.seek getFails seekFails s.2).2)
  | .attachBusWatch fails context callback =>
    (some (s.1.attachBusWatch fails context callback s.2).1, (s.1.attachBusWatch fails context callback s.2).2)
  | .detachBusWatch => (none, s.1.detachBusWatch s.2)
  | .dispatch during =>
    match s.1.watch.busSource with
    | some source => (none, s.1, (s.2.dispatch source s.1.onBusMessageStatic during).2)
    | none => (none, s)

def handle (s : VideoPipeline × Gst) (e : VideoEvent) : VideoPipeline × Gst := (call s e).2

/-- The five elements. -/
def elements (v : VideoPipeline) : List (Option Nat) := [v.pipeline, v.source, v.videoConvert, v.videoCaps, v.sink]

def AllOrNone (v : VideoPipeline) : Prop := (∀ x ∈ v.elements, x.isSome) ∨ ∀ x ∈ v.elements, x = none

section
variable {v : VideoPipeline} {g : Gst} {s : VideoPipeline × Gst}

theorem isPipelineSetup_iff : v.isPipelineSetup = true ↔ ∀ x ∈ v.elements, x.isSome := by
  simp [isPipelineSetup, elements, and_assoc]

theorem elements_cleared (v : VideoPipeline) : ∀ x ∈ v.cleared.elements, x = none := by simp [elements, cleared]

theorem isPipelineSetup_of_elements (h : ∀ x ∈ v.elements, x = none) : v.isPipelineSetup = false := by
  rw [Bool.eq_false_iff, Ne, isPipelineSetup_iff]
  intro hall
  have := hall v.pipeline (by simp [elements])
  rw [h v.pipeline (by simp [elements])] at this
  cases this

theorem isPipelineSetup_cleared (v : VideoPipeline) : v.cleared.isPipelineSetup = false :=
  isPipelineSetup_of_elements (elements_cleared v)

theorem setCaps_fst (v : VideoPipeline) (caps : VideoCaps) (g : Gst) : (v.setCaps caps g).2.1 = { v with caps } := by
  unfold setCaps
  simp only
  split <;> rfl

theorem attachBusWatch_fst (fails : WatchCall → Bool) (context callback : Option Nat) (v : VideoPipeline) (g : Gst) :
    ∃ watch, (v.attachBusWatch fails context callback g).2.1 = { v with watch } := by
  unfold attachBusWatch
  split
  · split
    · exact ⟨_, rfl⟩
    · exact ⟨v.watch, rfl⟩
  · exact ⟨v.watch, rfl⟩

theorem dispatch_fst (s : VideoPipeline × Gst) (during : List GstMessage) : (handle s (.dispatch during)).1 = s.1 := by
  unfold handle call
  cases s.1.watch.busSource <;> rfl

/-! ### Set-up is all or nothing -/

/-- What `setupPipeline` and `stop` promise in a state. -/
structure SetupContract (s : VideoPipeline × Gst) : Prop where
  allOrNone : s.1.AllOrNone
  /-- On a set-up pipeline it fails and changes nothing. -/
  refused : s.1.isPipelineSetup = true → ∀ fails,
    (setupPipeline fails s.1 s.2).1.ok = false ∧ (setupPipeline fails s.1 s.2).2 = s
  /-- Any other failure leaves no element, and the configuration as it was. -/
  rollback : s.1.isPipelineSetup = false → ∀ fails, (setupPipeline fails s.1 s.2).1.ok = false →
    (∀ x ∈ (setupPipeline fails s.1 s.2).2.1.elements, x = none) ∧
    (setupPipeline fails s.1 s.2).2.1.videoSource = s.1.videoSource ∧
    (setupPipeline fails s.1 s.2).2.1.videoSink = s.1.videoSink ∧ (setupPipeline fails s.1 s.2).2.1.caps = s.1.caps
  /-- Without failing calls it succeeds exactly where there is a source and no pipeline yet. -/
  succeeds : (setupPipeline (fun _ => false) s.1 s.2).1.ok = true ↔
    s.1.isPipelineSetup = false ∧ s.1.videoSource.isSome = true
  /-- Whenever it succeeds there was no pipeline, and now there are all five elements, made by this call. -/
  built : ∀ fails, (setupPipeline fails s.1 s.2).1.ok = true → s.1.isPipelineSetup = false ∧
    ∀ x ∈ (setupPipeline fails s.1 s.2).2.1.elements,
      ∃ r, x = some r ∧ s.2.next ≤ r ∧ r < (setupPipeline fails s.1 s.2).2.2.next
  stopped : (∀ x ∈ (stop s.1 s.2).2.1.elements, x = none) ∧ (stop s.1 s.2).2.1.videoSource = s.1.videoSource

/-- What all operations keep while the sink factories are non-null. -/
structure Settled (v : VideoPipeline) : Prop where
  allOrNone : v.AllOrNone
  videoSink : v.videoSink.isSome = true

theorem Settled.congr {v' : VideoPipeline} (h : v.Settled) (helements : v'.elements = v.elements)
    (hsink : v'.videoSink = v.videoSink) : v'.Settled :=
  ⟨by unfold AllOrNone; rw [helements]; exact h.allOrNone, hsink ▸ h.videoSink⟩

theorem Settled.cleared (h : v.Settled) : v.cleared.Settled := ⟨.inr (elements_cleared v), h.videoSink⟩

theorem Settled.setupPipeline (h : v.Settled) (fails : VideoCall → Bool) (g : Gst) :
    (setupPipeline fails v g).2.1.Settled := by
  rcases setupPipeline_spec fails v g with ⟨-, -, heq⟩ | ⟨-, source, -, ⟨-, sink, -, heq⟩ | ⟨-, -, hv⟩⟩
  · rw [heq]; exact h
  · rw [heq]; exact ⟨.inl (isPipelineSetup_iff.mp rfl), h.videoSink⟩
  · rw [hv]; exact h.cleared

/-- A call that neither sets up nor stops keeps the elements. -/
theorem Settled.handle (h : s.1.Settled) {e : VideoEvent} (he : e ≠ .setVideoSink none) : (handle s e).1.Settled := by
  cases e with
  | setVideoSource source => exact h.congr rfl rfl
  | setVideoSink sink =>
    refine ⟨h.allOrNone, ?_⟩
    cases sink with
    | none => exact absurd rfl he
    | some sink => rfl
  | setCaps caps =>
    show (s.1.setCaps caps s.2).2.1.Settled
    rw [setCaps_fst]
    exact h.congr rfl rfl
  | setupPipeline fails => exact h.setupPipeline fails s.2
  | play | pause | seek => exact h
  | stop =>
    show (s.1.stop s.2).2.1.Settled
    rw [stop_fst]
    exact h.cleared
  | attachBusWatch fails context callback =>
    obtain ⟨watch, hwatch⟩ := attachBusWatch_fst fails context callback s.1 s.2
    show (s.1.attachBusWatch fails context callback s.2).2.1.Settled
    rw [hwatch]
    exact h.congr rfl rfl
  | detachBusWatch => exact h.congr rfl rfl
  | dispatch during => rw [dispatch_fst]; exact h

/-- The elements of a set-up that went through are new objects. -/
theorem setupPipeline_built {fails : VideoCall → Bool} {g : Gst} (hok : (setupPipeline fails v g).1.ok = true) :
    v.isPipelineSetup = false ∧ ∀ x ∈ (setupPipeline fails v g).2.1.elements,
      ∃ r, x = some r ∧ g.next ≤ r ∧ r < (setupPipeline fails v g).2.2.next := by
  rcases setupPipeline_spec fails v g with ⟨-, hno, -⟩ | ⟨hsetup, source, -, ⟨-, sink, -, heq⟩ | ⟨-, hno, -⟩⟩
  · rw [hno] at hok; cases hok
  · have hnext : (assembled source sink v.caps g).next = g.next + 6 := by
      simp [assembled, (made_spec g source sink).1]
    rw [heq]
    refine ⟨hsetup, fun x hx => ?_⟩
    simp only [hnext]
    simp only [elements, withElements, List.mem_cons, List.not_mem_nil, or_false] at hx
    rcases hx with rfl | rfl | rfl | rfl | rfl <;> exact ⟨_, rfl, by omega, by omega⟩
  · rw [hno] at hok; cases hok

theorem Settled.contract (h : s.1.Settled) : SetupContract s := by
  refine ⟨h.allOrNone, fun hsetup fails => ?_, fun hsetup fails hok => ?_, ?_, fun fails => setupPipeline_built, ?_, ?_⟩
  · rcases setupPipeline_spec fails s.1 s.2 with ⟨-, hok, heq⟩ | ⟨hnot, -⟩
    · exact ⟨hok, heq⟩
    · rw [hnot] at hsetup; cases hsetup
  · rcases setupPipeline_spec fails s.1 s.2 with ⟨hwhy, -, heq⟩ | ⟨-, source, -, ⟨-, sink, -, heq⟩ | ⟨-, -, hv⟩⟩
    · rw [heq]
      refine ⟨?_, rfl, rfl, rfl⟩
      rcases h.allOrNone with hall | hnone
      · rw [isPipelineSetup_iff.mpr hall] at hsetup; cases hsetup
      · exact hnone
    · rw [heq] at hok; cases hok
    · rw [hv]; exact ⟨elements_cleared s.1, rfl, rfl, rfl⟩
  · rcases setupPipeline_spec (fun _ => false) s.1 s.2 with
      ⟨hwhy, hok, -⟩ | ⟨hsetup, source, hsource, ⟨-, sink, -, heq⟩ | ⟨hfail, -⟩⟩
    · rw [hok]
      refine iff_of_false (by simp) ?_
      rintro ⟨hsetup, hsource⟩
      rcases hwhy with hwhy | hwhy
      · rw [hwhy] at hsetup; cases hsetup
      · rw [hwhy] at hsource; cases hsource
    · rw [heq]
      exact iff_of_true rfl ⟨hsetup, by rw [hsource]; rfl⟩
    · rcases hfail with ⟨c, hc⟩ | hnone
      · cases hc
      · have hsink := h.videoSink
        rw [hnone] at hsink; cases hsink
  · rw [stop_fst]; exact elements_cleared s.1
  · rw [stop_fst]; rfl

/-- In every state of every run without a null sink factory. -/
theorem setupPipeline_contract (g : Gst) (events : List VideoEvent) (h : ∀ e ∈ events, e ≠ .setVideoSink none) :
    SetupContract (run handle ({}, g) events) := by
  have hsettled : (run VideoPipeline.handle (({} : VideoPipeline), g) events).1.Settled :=
    along_invariant (P := fun s : VideoPipeline × Gst => s.1.Settled) ⟨.inr (by simp [elements]), rfl⟩
      (fun _ _ hs he => hs.handle he) ((along_forall _ events).mpr h)
  exact hsettled.contract

/-- A set-up whose link fails, then one that nothing keeps from succeeding. -/
theorem setupPipeline_contract_retry :
    SetupContract (run handle ({}, .init) [.setVideoSource (some .TestVideoSource),
      .setupPipeline fun c => c == .link, .setupPipeline fun _ => false]) :=
  setupPipeline_contract _ _ (by simp)

/-! ### The caps of the capsfilter -/

/-- The argument of the last `setCaps`. -/
def lastCaps (events : List VideoEvent) : VideoCaps :=
  ((events.filterMap fun
    | .setCaps caps => some caps
    | _ => none).getLast?).getD {}

/-- The caps that are kept, and that a capsfilter has. -/
structure Configured (caps : VideoCaps) (s : VideoPipeline × Gst) : Prop where
  kept : s.1.caps = caps
  element : s.1.isPipelineSetup = true →
    ∃ c, s.1.videoCaps = some c ∧ s.2.prop c (ascii "caps") = some (.caps caps.toGstCaps)

theorem prop_assembled (source : VideoSource) (sink : VideoSink) (caps : VideoCaps) (g : Gst) :
    (assembled source sink caps g).prop (g.next + 4) (ascii "caps") = some (.caps caps.toGstCaps) := by
  obtain ⟨-, -, -, -, -, -, hlater⟩ := made_spec g source sink
  have hfilter := hlater 1 (by decide)
  unfold assembled
  rw [Gst.prop, Gst.obj_linkPairs, Gst.obj_binAddMany, ← Gst.prop, Gst.prop_setObject,
    if_pos ⟨rfl, rfl, by rw [hfilter]; rfl⟩, setupCaps_eq]

section
variable {caps : VideoCaps} {s' : VideoPipeline × Gst}

theorem Configured.cleared (h : Configured caps s) (g : Gst) : Configured caps (s.1.cleared, g) :=
  ⟨h.kept, fun hsetup => by rw [isPipelineSetup_cleared] at hsetup; cases hsetup⟩

/-- A call that keeps the elements and their properties. -/
theorem Configured.same (h : Configured caps s) (hcaps : s'.1.caps = s.1.caps) (helements : s'.1.elements = s.1.elements)
    (hprops : s.2.SameProps s'.2) : Configured caps s' := by
  refine ⟨hcaps.trans h.kept, fun hsetup => ?_⟩
  obtain ⟨c, hc, hprop⟩ := h.element (isPipelineSetup_iff.mpr (helements ▸ isPipelineSetup_iff.mp hsetup))
  have hvideoCaps : s'.1.videoCaps = s.1.videoCaps := by
    simp only [elements, List.cons.injEq] at helements
    exact helements.2.2.2.1
  exact ⟨c, hvideoCaps.trans hc, (hprops.prop (Gst.lt_of_prop hprop) _).trans hprop⟩

theorem Configured.setupPipeline (h : Configured caps s) (fails : VideoCall → Bool) :
    Configured caps (setupPipeline fails s.1 s.2).2 := by
  rcases setupPipeline_spec fails s.1 s.2 with ⟨-, -, heq⟩ | ⟨-, source, -, ⟨-, sink, -, heq⟩ | ⟨-, -, hv⟩⟩
  · rw [heq]; exact h
  · rw [heq]
    refine ⟨h.kept, fun _ => ⟨s.2.next + 4, rfl, ?_⟩⟩
    rw [prop_assembled, h.kept]
  · have hcleared := h.cleared (VideoPipeline.setupPipeline fails s.1 s.2).2.2
    rw [← hv] at hcleared
    exact hcleared

theorem Configured.setCaps (h : Configured caps s) (caps' : VideoCaps) :
    Configured caps' (s.1.setCaps caps' s.2).2 := by
  refine ⟨by rw [setCaps_fst], fun hsetup => ?_⟩
  rw [setCaps_fst] at hsetup ⊢
  obtain ⟨c, hc, hprop⟩ := h.element hsetup
  have hwrite : (s.1.setCaps caps' s.2).2.2 = s.2.setObject c (ascii "caps") (.caps caps'.toGstCaps) := by
    unfold VideoPipeline.setCaps
    simp only
    rw [hsetup, hc]
  refine ⟨c, hc, ?_⟩
  rw [hwrite, Gst.prop_setObject, if_pos]
  obtain ⟨o, ho, -⟩ := Option.bind_eq_some_iff.mp hprop
  exact ⟨rfl, rfl, by rw [ho]; rfl⟩

theorem onBusMessageStatic_same {α : Type} {f : GObject → α} [Gst.Queueless f] (v : VideoPipeline) (g : Gst) :
    Gst.Same f g (v.onBusMessageStatic g).2 := by
  unfold onBusMessageStatic
  split
  · exact Gst.Same.refl.onBusMessageStatic ..
  · exact .refl

/-- What `play` and `pause` have in common: in one of `states` the pipeline is set to `state`. -/
def changeState (states : List GstState) (state : GstState) (failed refused : String) (getFails setFails : Bool)
    (v : VideoPipeline) (g : Gst) : PipelineOutcome × Gst :=
  match v.isPipelineSetup, v.pipeline with
  | true, some pipeline =>
    if v.isPipelineInState getFails states g then
      let (ok, g) := g.setState setFails pipeline state
      (if ok then .success else .failure failed, g)
    else (.failure refused, g)
  | _, _ => (.failure "Pipeline is not setup", g)

theorem play_eq (getFails setFails : Bool) (v : VideoPipeline) (g : Gst) : v.play getFails setFails g =
    v.changeState [.null, .ready, .paused] .playing "Failed to set pipeline to PLAYING state"
      "Invalid pipeline state for play" getFails setFails g := rfl

theorem pause_eq (getFails setFails : Bool) (v : VideoPipeline) (g : Gst) : v.pause getFails setFails g =
    v.changeState [.playing] .paused "Failed to set pipeline to PAUSED state"
      "Pipeline is not in PLAYING state, cannot pause" getFails setFails g := rfl

theorem changeState_steers (states : List GstState) (state : GstState) (failed refused : String)
    (getFails setFails : Bool) (v : VideoPipeline) (g : Gst) :
    g.Steers (v.changeState states state failed refused getFails setFails g).2 := by
  unfold changeState
  split
  · split
    · exact .setState ..
    · exact .refl
  · exact .refl

theorem play_steers (getFails setFails : Bool) (v : VideoPipeline) (g : Gst) : g.Steers (v.play getFails setFails g).2 := by
  rw [play_eq]
  exact changeState_steers ..

theorem pause_steers (getFails setFails : Bool) (v : VideoPipeline) (g : Gst) :
    g.Steers (v.pause getFails setFails g).2 := by
  rw [pause_eq]
  exact changeState_steers ..

theorem seek_steers (getFails seekFails : Bool) (v : VideoPipeline) (g : Gst) :
    g.Steers (v.seek getFails seekFails g).2 := by
  unfold seek
  split
  · split
    · split
      · exact .fail
      · exact .refl
    · exact .refl
  · exact .refl

theorem attachBusWatch_same {α : Type} {f : GObject → α} [Gst.Plumbing f] (fails : WatchCall → Bool)
    (context callback : Option Nat) (v : VideoPipeline) (g : Gst) :
    Gst.Same f g (v.attachBusWatch fails context callback g).2.2 := by
  unfold attachBusWatch
  split
  · split
    · exact Gst.Same.refl.attachBusWatch ..
    · exact .refl
  · exact .refl

/-- Only `setCaps` changes what the capsfilter should have. -/
theorem Configured.handle (h : Configured caps s) (e : VideoEvent) :
    Configured (match e with
      | .setCaps caps' => caps'
      | _ => caps) (VideoPipeline.handle s e) := by
  cases e with
  | setVideoSource source => exact h.same rfl rfl .refl
  | setVideoSink sink => exact h.same rfl rfl .refl
  | setCaps caps' => exact h.setCaps caps'
  | setupPipeline fails => exact h.setupPipeline fails
  | play getFails setFails => exact h.same rfl rfl (play_steers ..).same
  | pause getFails setFails => exact h.same rfl rfl (pause_steers ..).same
  | stop =>
    have hcleared := h.cleared (s.1.stop s.2).2.2
    rw [← stop_fst s.1 s.2] at hcleared
    exact hcleared
  | seek getFails seekFails => exact h.same rfl rfl (seek_steers ..).same
  | attachBusWatch fails context callback =>
    obtain ⟨watch, hwatch⟩ := attachBusWatch_fst fails context callback s.1 s.2
    have hfst : (VideoPipeline.handle s (.attachBusWatch fails context callback)).1 = { s.1 with watch } := hwatch
    exact h.same (by rw [hfst]) (by rw [hfst]; rfl) (attachBusWatch_same ..)
  | detachBusWatch => exact h.same rfl rfl (Gst.Same.refl.detachBusWatch _)
  | dispatch during =>
    refine h.same (congrArg _ (dispatch_fst s during)) (congrArg _ (dispatch_fst s during)) ?_
    unfold VideoPipeline.handle call
    cases s.1.watch.busSource with
    | none => exact .refl
    | some source => exact Gst.Same.refl.dispatch source (onBusMessageStatic_same s.1) during

end

theorem configured_run (g : Gst) (events : List VideoEvent) :
    Configured (lastCaps events) (run handle ({}, g) events) := by
  refine run_induction (P := fun events s => Configured (lastCaps events) s)
    ⟨rfl, fun hsetup => by cases hsetup⟩ (fun events s e ih => ?_) events
  have hstep := ih.handle e
  cases e <;> simpa [lastCaps] using hstep

/-- In every state of every run. -/
theorem capsfilter_caps (g : Gst) (events : List VideoEvent)
    (hsetup : (run handle ({}, g) events).1.isPipelineSetup = true) :
    ∃ c, (run handle ({}, g) events).1.videoCaps = some c ∧
      (run handle ({}, g) events).2.prop c (ascii "caps") = some (.caps (lastCaps events).toGstCaps) :=
  (configured_run g events).element hsetup

/-- Caps that are set before a set-up, and again before a rebuild. -/
theorem capsfilter_caps_rebuilt :
    let events : List VideoEvent := [.setVideoSource (some .TestVideoSource), .setCaps { width := 320 },
      .setupPipeline fun _ => false, .stop, .setCaps { width := 160 }, .setupPipeline fun _ => false]
    ∃ c, (run handle ({}, .init) events).1.videoCaps = some c ∧
      (run handle ({}, .init) events).2.prop c (ascii "caps") = some (.caps (lastCaps events).toGstCaps) :=
  capsfilter_caps _ _ (by decide)

end

end VideoPipeline

end CameraPlatform
