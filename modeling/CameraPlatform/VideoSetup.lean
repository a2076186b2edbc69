import CameraPlatform.HostSetup
import CameraPlatform.VideoPipeline

/-!
# What `VideoPipeline::setupPipeline` does

It is refused, or all five elements are made and linked, or every pointer ends up null: `stop` rolls
back whatever was there.
-/

namespace CameraPlatform
open ByteString RefHeap

namespace VideoPipeline

/-- No element and no watch is left. -/
def cleared (v : VideoPipeline) : VideoPipeline :=
  { v with source := none, pipeline := none, videoConvert := none, videoCaps := none, sink := none,
           watch := { v.watch with busSource := none } }

/-- The elements when they are made from the address `n` on; the bus of the pipeline is at `n + 2`. -/
def withElements (v : VideoPipeline) (n : Nat) : VideoPipeline :=
  { v with source := some n, pipeline := some (n + 1), videoConvert := some (n + 3), videoCaps := some (n + 4),
           sink := some (n + 5) }

def sinkObject : VideoSink → GObject
  | .AutoVideoSink => { type := ascii "autovideosink", name := ascii "video-sink" }
  | .FakeSink => { type := ascii "fakesink", name := ascii "fake-sink" }

/-- The elements that are made after the pipeline. -/
def laterParts (sink : VideoSink) : List GObject :=
  [{ type := ascii "videoconvert", name := ascii "video-convert" },
    { type := ascii "capsfilter", name := ascii "video-caps" }, sinkObject sink]

/-- The heap with all five elements, from the address `g.next` on. -/
def made (source : VideoSource) (sink : VideoSink) (g : Gst) : Gst :=
  ((g.alloc true (ProfileHost.sourceObject source)).pipelineNew false (ascii "video-pipeline")).2.allocAll
    (laterParts sink)

/-- The heap with these elements configured, added and linked. -/
def assembled (source : VideoSource) (sink : VideoSink) (caps : VideoCaps) (g : Gst) : Gst :=
  let es := [g.next, g.next + 3, g.next + 4, g.next + 5]
  (Gst.linkPairs es (((made source sink g).setObject (g.next + 4) (ascii "caps") (.caps (setupCaps caps))).binAddMany
    (g.next + 1) es)).2

/-- The elements `setupPipeline` gets before it looks whether they are all there. -/
def create (fails : VideoCall → Bool) (videoSource : VideoSource) (v : VideoPipeline) (g : Gst) : VideoPipeline × Gst :=
  let (source, g) := videoSource.createElement (fails .source) g
  let (pipeline, g) := g.pipelineNew (fails .pipeline) (ascii "video-pipeline")
  let (videoConvert, g) := g.factoryMake (fails .videoConvert) (ascii "videoconvert") (ascii "video-convert")
  let (videoCaps, g) := g.factoryMake (fails .videoCaps) (ascii "capsfilter") (ascii "video-caps")
  let (sink, g) := match v.videoSink with
    | some videoSink => videoSink.createElement (fails .sink) g
    | none => (none, g.nullUse)
  ({ v with source, pipeline, videoConvert, videoCaps, sink }, g)

section
variable {fails : VideoCall → Bool} {v : VideoPipeline} {g : Gst} {source : VideoSource} {sink : VideoSink}

theorem stop_fst (v : VideoPipeline) (g : Gst) : (v.stop g).2.1 = v.cleared := by
  have hdetach : (v.detachBusWatch g).1 = { v with watch := { v.watch with busSource := none } } := by
    rw [← BusWatch.detachBusWatch_fst v.watch g]; rfl
  unfold stop
  generalize v.detachBusWatch g = d at hdetach
  obtain ⟨v', g'⟩ := d
  obtain rfl := hdetach
  cases v.pipeline <;> rfl

theorem stop_ok (v : VideoPipeline) (g : Gst) : (v.stop g).1 = .success := by
  unfold stop
  generalize v.detachBusWatch g = d
  obtain ⟨v', g'⟩ := d
  simp only
  cases v'.pipeline <;> rfl

theorem createElement_source (source : VideoSource) (g : Gst) :
    source.createElement false g = (some g.next, g.alloc true (ProfileHost.sourceObject source)) := by
  cases source <;> rfl

theorem createElement_sink (sink : VideoSink) (g : Gst) :
    sink.createElement false g = (some g.next, g.alloc true (sinkObject sink)) := by
  cases sink <;> rfl

variable (g source sink) in
/-- The addresses and the owners of the new elements. -/
theorem made_spec :
    (made source sink g).next = g.next + 6 ∧ (made source sink g).failures = g.failures ∧
      (∀ x, (made source sink g).owner x = if x = g.next + 2 then some (g.next + 1) else g.owner x) ∧
      (made source sink g).obj g.next = some (ProfileHost.sourceObject source) ∧
      (made source sink g).obj (g.next + 1) =
        some { type := ascii "pipeline", name := ascii "video-pipeline", bus := some (g.next + 2) } ∧
      (made source sink g).obj (g.next + 2) = some { type := ascii "bus" } ∧
      ∀ k, k < 3 → (made source sink g).obj (g.next + 3 + k) = (laterParts sink)[k]? := by
  have hspec := Gst.pipelineNew_spec (g := g.alloc true (ProfileHost.sourceObject source)) (ascii "video-pipeline")
  have hsource : ((g.alloc true (ProfileHost.sourceObject source)).pipelineNew false
      (ascii "video-pipeline")).2.obj g.next = some (ProfileHost.sourceObject source) := by
    rw [(Gst.Grew.refl.pipelineNew ..).obj_eq (by simp), Gst.obj_alloc, if_pos rfl]
  unfold made
  generalize ((g.alloc true (ProfileHost.sourceObject source)).pipelineNew false (ascii "video-pipeline")).2 = g₁
    at hspec hsource ⊢
  obtain ⟨hnext, hfail, hpipe, hbus, howner⟩ := hspec
  rw [Gst.next_alloc] at hnext hpipe hbus howner
  refine ⟨?_, ?_, fun x => ?_, ?_, ?_, ?_, fun k hk => ?_⟩
  · rw [Gst.next_allocAll, hnext]; rfl
  · rw [Gst.failures_allocAll, hfail]; rfl
  · rw [Gst.owner_allocAll, howner, Gst.owner_alloc]
  · rw [Gst.obj_allocAll_of_lt _ (by omega)]; exact hsource
  · rw [Gst.obj_allocAll_of_lt _ (by omega)]; exact hpipe
  · rw [Gst.obj_allocAll_of_lt _ (by omega)]; exact hbus
  · rw [show g.next + 3 = g₁.next by omega, Gst.obj_allocAll _ hk]

theorem setupPipeline_made (hsetup : v.isPipelineSetup = false) (hsource : v.videoSource = some source)
    (hsink : v.videoSink = some sink) (hmade : ∀ c, c ≠ .link → fails c = false) :
    setupPipeline fails v g =
      setupElements fails (v.withElements g.next) (g.next + 1) g.next (g.next + 3) (g.next + 4) (g.next + 5)
        (made source sink g) := by
  have h1 := hmade .source (by decide)
  have h2 := hmade .pipeline (by decide)
  have h3 := hmade .videoConvert (by decide)
  have h4 := hmade .videoCaps (by decide)
  have h5 := hmade .sink (by decide)
  have hpipe : ((g.alloc true (ProfileHost.sourceObject source)).pipelineNew false
      (ascii "video-pipeline")).1 = some (g.next + 1) := by rw [← Gst.next_alloc]; rfl
  have hnext : ((g.alloc true (ProfileHost.sourceObject source)).pipelineNew false
      (ascii "video-pipeline")).2.next = g.next + 3 := (Gst.pipelineNew_spec _).1.trans (by rw [Gst.next_alloc])
  unfold setupPipeline made
  simp only [hsetup, hsource, hsink, h1, h2, h3, h4, h5, createElement_source, createElement_sink,
    Bool.false_eq_true, if_false]
  generalize (g.alloc true (ProfileHost.sourceObject source)).pipelineNew false (ascii "video-pipeline") = made
    at hpipe hnext ⊢
  obtain ⟨pipeline, g₁⟩ := made
  obtain rfl : pipeline = some (g.next + 1) := hpipe
  simp only [Gst.factoryMake, Bool.false_eq_true, if_false, Gst.next_alloc, hnext, withElements, hsource, hsink]
  rfl

/-- The sink factory changes no object that is there. -/
theorem grew_sink (sink : Option VideoSink) (f : Bool) {g₀ : Gst} (h : g₀.Grew g) :
    g₀.Grew (match sink with
      | some videoSink => videoSink.createElement f g
      | none => (none, g.nullUse)).2 := by
  cases sink with
  | none => exact h.step (Nat.le_refl _) (fun _ _ => rfl) (fun _ h => h) (Nat.le_refl _)
  | some videoSink => cases videoSink <;> exact h.factoryMake ..

variable (fails source v g) in
theorem grew_create : g.Grew (create fails source v g).2 := by
  have h1 : g.Grew (source.createElement (fails .source) g).2 := by
    cases source <;> exact Gst.Grew.refl.factoryMake ..
  exact grew_sink v.videoSink (fails .sink) (((h1.pipelineNew ..).factoryMake ..).factoryMake ..)

/-- If an element cannot be made, `stop` takes back what is there. -/
theorem setupPipeline_unmade (hsetup : v.isPipelineSetup = false) (hsource : v.videoSource = some source)
    (hfail : (∃ c, c ≠ .link ∧ fails c = true) ∨ v.videoSink = none) :
    setupPipeline fails v g = (.failure "Failed to create GStreamer elements",
      ((create fails source v g).1.stop (create fails source v g).2).2) := by
  unfold setupPipeline
  simp only [hsetup, hsource, Bool.false_eq_true, if_false]
  split
  · next h1 h2 h3 h4 h5 =>
    rcases hfail with ⟨c, hc, hf⟩ | hnone
    · cases c
      · rw [hf] at h2; cases source <;> cases h2
      · rw [hf] at h1; cases h1
      · rw [hf] at h3; cases h3
      · rw [hf] at h4; cases h4
      · rw [hf] at h5
        cases hs : v.videoSink with
        | none => rw [hs] at h5; cases h5
        | some sink => rw [hs] at h5; cases sink <;> cases h5
      · exact absurd rfl hc
    · rw [hnone] at h5; cases h5
  · rw [← hsource]; rfl

/-- A guard that turns the call away changes nothing. -/
theorem setupPipeline_refused (hwhy : v.isPipelineSetup = true ∨ v.videoSource = none) :
    ∃ reason, (ascii reason).isEmpty = false ∧ setupPipeline fails v g = (.failure reason, v, g) := by
  unfold setupPipeline
  split
  · exact ⟨"Pipeline is setup", rfl, rfl⟩
  · next hset =>
    rcases hwhy with hset' | hnone
    · exact absurd hset' hset
    · rw [hnone]
      exact ⟨"videoSource is not set", rfl, rfl⟩

variable (fails v g) in
/-- The call is turned away, or takes back what it created, or goes on with all of it. -/
theorem setupPipeline_shape :
    ((v.isPipelineSetup = true ∨ v.videoSource = none) ∧
      ∃ reason, (ascii reason).isEmpty = false ∧ setupPipeline fails v g = (.failure reason, v, g)) ∨
    v.isPipelineSetup = false ∧ ∃ source, v.videoSource = some source ∧
      (((∃ c, c ≠ .link ∧ fails c = true) ∨ v.videoSink = none) ∧
        setupPipeline fails v g = (.failure "Failed to create GStreamer elements",
          ((create fails source v g).1.stop (create fails source v g).2).2) ∨
      (∀ c, c ≠ .link → fails c = false) ∧ ∃ sink, v.videoSink = some sink ∧
        setupPipeline fails v g = setupElements fails (v.withElements g.next) (g.next + 1) g.next (g.next + 3)
          (g.next + 4) (g.next + 5) (made source sink g)) := by
  by_cases hwhy : v.isPipelineSetup = true ∨ v.videoSource = none
  · exact .inl ⟨hwhy, setupPipeline_refused hwhy⟩
  · obtain ⟨hset, hsome⟩ := not_or.mp hwhy
    have hsetup : v.isPipelineSetup = false := Bool.eq_false_iff.mpr hset
    obtain ⟨source, hsource⟩ := Option.ne_none_iff_exists'.mp hsome
    refine .inr ⟨hsetup, source, hsource, ?_⟩
    by_cases hunmade : (∃ c, c ≠ .link ∧ fails c = true) ∨ v.videoSink = none
    · exact .inl ⟨hunmade, setupPipeline_unmade hsetup hsource hunmade⟩
    · obtain ⟨hmade, hsink⟩ := not_or.mp hunmade
      have hmade' : ∀ c, c ≠ .link → fails c = false := by simpa using hmade
      obtain ⟨sink, hsink⟩ := Option.ne_none_iff_exists'.mp hsink
      exact .inr ⟨hmade', sink, hsink, setupPipeline_made hsetup hsource hsink hmade'⟩

variable (g source sink) in
/-- The four elements fit into the new pipeline. -/
theorem fits_made (value : GValue) :
    ((made source sink g).setObject (g.next + 4) (ascii "caps") value).Fits (g.next + 1)
      [g.next, g.next + 3, g.next + 4, g.next + 5] := by
  obtain ⟨hnext, -, howner, hsource, -, hbus, hlater⟩ := made_spec g source sink
  have hset : (made source sink g).SetOnly ((made source sink g).setObject (g.next + 4) (ascii "caps") value) :=
    Gst.SetOnly.refl.setObject ..
  generalize (made source sink g).setObject (g.next + 4) (ascii "caps") value = g₁ at hset
  have howner₁ : ∀ x, g₁.owner x = if x = g.next + 2 then some (g.next + 1) else g.owner x := fun x =>
    (hset.owner x).trans (howner x)
  have hmap : [g.next, g.next + 3, g.next + 4, g.next + 5].map g₁.name =
      (ProfileHost.sourceObject source).name :: (laterParts sink).map (·.name) := by
    simp only [List.map_cons, List.map_nil]
    rw [hset.name hsource, hset.name (hlater 0 (by decide)), hset.name (hlater 1 (by decide)),
      hset.name (hlater 2 (by decide))]
    rfl
  refine Gst.fits_of_names (by have := hset.next; omega) (fun e he => ?_) hmap
    (by cases source <;> cases sink <;> decide) (by cases source <;> cases sink <;> decide) fun r hr => ?_
  · simp only [List.mem_cons, List.not_mem_nil, or_false] at he
    refine ⟨by have := hset.next; omega, by omega, ?_⟩
    rw [howner₁, if_neg (by omega)]
    exact Gst.owner_eq_none (by omega)
  · rw [howner₁] at hr
    split at hr
    · next hr' => rw [hr', hset.name hbus]
    · exact absurd (Gst.owner_lt_next hr) (by omega)

/-- Elements that fit into the pipeline stay there, unless the link is made to fail. -/
theorem setupElements_fits {p a b c d : Nat} (h : (g.setObject c (ascii "caps")
    (.caps (setupCaps v.caps))).Fits p [a, b, c, d]) :
    (fails .link = false ∧ setupElements fails v p a b c d g = (.success, v, (Gst.linkPairs [a, b, c, d]
      ((g.setObject c (ascii "caps") (.caps (setupCaps v.caps))).binAddMany p [a, b, c, d])).2)) ∨
    (fails .link = true ∧ (setupElements fails v p a b c d g).1.ok = false ∧
      (setupElements fails v p a b c d g).2.1 = v.cleared) := by
  unfold setupElements Gst.linkMany
  cases hlink : fails .link with
  | true => exact .inr ⟨rfl, rfl, stop_fst ..⟩
  | false =>
    have hpairs := @Gst.linkPairs_eq _ p [a, b, c, d] fun e he =>
      ((Gst.binAddMany_spec h).1 e).trans (if_pos he)
    simp only [hpairs, Bool.false_eq_true, if_false, if_true, true_and, true_or]

variable (fails v g) in
/-- The set-up is refused, or all elements are there, or none is. -/
theorem setupPipeline_spec :
    ((v.isPipelineSetup = true ∨ v.videoSource = none) ∧ (setupPipeline fails v g).1.ok = false ∧
      (setupPipeline fails v g).2 = (v, g)) ∨
    (v.isPipelineSetup = false ∧ ∃ source, v.videoSource = some source ∧
      ((∀ c, fails c = false) ∧ (∃ sink, v.videoSink = some sink ∧
        setupPipeline fails v g = (.success, v.withElements g.next, assembled source sink v.caps g)) ∨
      ((∃ c, fails c = true) ∨ v.videoSink = none) ∧ (setupPipeline fails v g).1.ok = false ∧
        (setupPipeline fails v g).2.1 = v.cleared)) := by
  rcases setupPipeline_shape fails v g with
    ⟨hwhy, reason, -, hres⟩ | ⟨hsetup, source, hsource, ⟨hunmade, hres⟩ | ⟨hmade, sink, hsink, hres⟩⟩
  · rw [hres]
    exact .inl ⟨hwhy, rfl, rfl⟩
  · rw [hres, stop_fst]
    exact .inr ⟨hsetup, source, hsource, .inr ⟨hunmade.imp (fun ⟨c, _, hc⟩ => ⟨c, hc⟩) id, rfl, rfl⟩⟩
  · refine .inr ⟨hsetup, source, hsource, ?_⟩
    rw [hres]
    rcases setupElements_fits (v := v.withElements g.next) (fits_made g source sink _) with
      ⟨hlink, heq⟩ | ⟨hlink, hok, hv⟩
    · refine .inl ⟨fun c => ?_, sink, hsink, heq⟩
      by_cases hc : c = .link
      · rw [hc]; exact hlink
      · exact hmade c hc
    · exact .inr ⟨.inl ⟨.link, hlink⟩, hok, hv⟩

/-- The bus of a pipeline that was set up is new. -/
theorem setupPipeline_ok (hok : (setupPipeline fails v g).1.ok = true) :
    (setupPipeline fails v g).2.1.isPipelineSetup = true ∧
    ∃ p bus, (setupPipeline fails v g).2.1.pipeline = some p ∧
      ((setupPipeline fails v g).2.2.obj p).bind (·.bus) = some bus ∧
      bus < (setupPipeline fails v g).2.2.next ∧ (setupPipeline fails v g).2.2.queue bus = [] := by
  rcases setupPipeline_spec fails v g with ⟨-, hno, -⟩ | ⟨-, source, -, ⟨-, sink, -, hres⟩ | ⟨-, hno, -⟩⟩
  · rw [hno] at hok; cases hok
  · obtain ⟨hnext, -, -, -, hpipe, hbus, -⟩ := made_spec g source sink
    have hset : (made source sink g).SetOnly ((made source sink g).setObject (g.next + 4) (ascii "caps")
        (.caps (setupCaps v.caps))) := Gst.SetOnly.refl.setObject ..
    obtain ⟨props, hpipe'⟩ := hset.obj _ _ hpipe
    obtain ⟨props', hbus'⟩ := hset.obj _ _ hbus
    have hobj : ∀ x, (assembled source sink v.caps g).obj x =
        ((made source sink g).setObject (g.next + 4) (ascii "caps") (.caps (setupCaps v.caps))).obj x := fun x => by
      rw [assembled, Gst.obj_linkPairs, Gst.obj_binAddMany]
    rw [hres]
    refine ⟨rfl, g.next + 1, g.next + 2, rfl, ?_, ?_, ?_⟩
    · rw [hobj, hpipe']; rfl
    · simp [assembled, hnext]
    · rw [Gst.queue, hobj, hbus']; rfl
  · rw [hno] at hok; cases hok

end

end VideoPipeline

end CameraPlatform
