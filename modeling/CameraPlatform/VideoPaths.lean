import CameraPlatform.ValvePaths
import CameraPlatform.VideoEvents

/-!
# Where the links of a `VideoPipeline` lead

A pipeline is built from new elements, and nothing but its own links leads to them. So whatever was built
and torn down before, the paths to the sink start at the source and go through the capsfilter.
-/

namespace CameraPlatform
open ByteString RefHeap History

namespace Gst
variable {g g' : Gst} {x : Nat}

/-- Links lead from elements that exist to elements that exist. -/
def Closed (g : Gst) : Prop := ∀ l ∈ g.links, l.1 < g.next ∧ l.2 < g.next ∧ g.inlet l.2 < g.next

theorem Same.inlet (h : Same shape g g') (hx : x < g.next) : g'.inlet x = g.inlet x :=
  congrArg (Option.getD · x) (h.bind (fun s => s.2) hx)

theorem Closed.keep (h : g.Closed) (hlinks : g'.links = g.links) (hs : Same shape g g') : g'.Closed := by
  intro l hl
  obtain ⟨hfrom, hto, hinlet⟩ := h l (hlinks ▸ hl)
  rw [hs.inlet hto]
  have hnext := hs.next_le
  exact ⟨by omega, by omega, by omega⟩

end Gst

namespace VideoPipeline

section
variable {v : VideoPipeline} {g g' : Gst} {s s' : VideoPipeline × Gst} {n x : Nat} {caps : VideoCaps}

/-! ### What leaves the links -/

theorem links_stop (v : VideoPipeline) (g : Gst) : (v.stop g).2.2.links = g.links := by
  have hdetach : (v.detachBusWatch g).2.links = g.links := BusWatch.links_detachBusWatch ..
  unfold stop
  generalize v.detachBusWatch g = d at hdetach
  obtain ⟨v', g'⟩ := d
  simp only
  cases v'.pipeline with
  | some p => exact (Gst.links_unref ..).trans ((Gst.links_setState ..).trans hdetach)
  | none => simpa using hdetach

theorem stop_same (v : VideoPipeline) (g : Gst) : Gst.Same Gst.shape g (v.stop g).2.2 := by
  have hdetach : Gst.Same Gst.shape g (v.detachBusWatch g).2 := Gst.Same.refl.detachBusWatch _
  unfold stop
  generalize v.detachBusWatch g = d at hdetach
  obtain ⟨v', g'⟩ := d
  simp only
  cases v'.pipeline with
  | some p => exact (hdetach.setState false p .null).keeps (Gst.Keeps.refl.unref p)
  | none =>
    exact hdetach.keeps ((((Gst.Keeps.refl.clearObject _).clearObject _).clearObject _).clearObject _)

theorem links_create (fails : VideoCall → Bool) (source : VideoSource) (v : VideoPipeline) (g : Gst) :
    (create fails source v g).2.links = g.links := by
  have hsource : (source.createElement (fails .source) g).2.links = g.links := by
    cases source <;> exact g.links_factoryMake ..
  have hmade : ((((source.createElement (fails .source) g).2.pipelineNew (fails .pipeline)
      (ascii "video-pipeline")).2.factoryMake (fails .videoConvert) (ascii "videoconvert")
      (ascii "video-convert")).2.factoryMake (fails .videoCaps) (ascii "capsfilter") (ascii "video-caps")).2.links =
      g.links := by
    rw [Gst.links_factoryMake, Gst.links_factoryMake, Gst.links_pipelineNew, hsource]
  unfold create
  cases v.videoSink with
  | none => exact hmade
  | some sink => cases sink <;> exact (Gst.links_factoryMake ..).trans hmade

/-- Only a set-up links. -/
theorem handle_links {e : VideoEvent} (he : ∀ fails, e ≠ .setupPipeline fails) : (handle s e).2.links = s.2.links := by
  cases e with
  | setVideoSource | setVideoSink => rfl
  | setCaps caps =>
    show (s.1.setCaps caps s.2).2.2.links = _
    unfold setCaps
    simp only
    split <;> rfl
  | setupPipeline fails => exact absurd rfl (he fails)
  | play => exact (play_steers ..).links
  | pause => exact (pause_steers ..).links
  | stop => exact links_stop ..
  | seek => exact (seek_steers ..).links
  | attachBusWatch fails context callback =>
    show (s.1.attachBusWatch fails context callback s.2).2.2.links = _
    unfold attachBusWatch
    split
    · split
      · exact BusWatch.links_attachBusWatch ..
      · rfl
    · rfl
  | detachBusWatch => exact BusWatch.links_detachBusWatch ..
  | dispatch during =>
    unfold handle call
    cases s.1.watch.busSource with
    | none => rfl
    | some source =>
      refine Gst.links_dispatch _ source during fun g => ?_
      unfold onBusMessageStatic
      split
      · exact BusWatch.links_onBusMessageStatic ..
      · rfl

/-- No other call changes the shape of an element. -/
theorem handle_shape {e : VideoEvent} (he : ∀ fails, e ≠ .setupPipeline fails) :
    Gst.Same Gst.shape s.2 (handle s e).2 := by
  cases e with
  | setVideoSource | setVideoSink => exact .refl
  | setCaps caps =>
    show Gst.Same Gst.shape s.2 (s.1.setCaps caps s.2).2.2
    unfold setCaps
    simp only
    split
    · exact Gst.Same.refl.update _ fun _ => rfl
    · exact .refl
  | setupPipeline fails => exact absurd rfl (he fails)
  | play => exact (play_steers ..).same
  | pause => exact (pause_steers ..).same
  | stop => exact stop_same ..
  | seek => exact (seek_steers ..).same
  | attachBusWatch fails context callback => exact attachBusWatch_same ..
  | detachBusWatch => exact Gst.Same.refl.detachBusWatch _
  | dispatch during =>
    unfold handle call
    cases s.1.watch.busSource with
    | none => exact .refl
    | some source => exact Gst.Same.refl.dispatch source (onBusMessageStatic_same s.1) during

theorem handle_elements {e : VideoEvent} (he : ∀ fails, e ≠ .setupPipeline fails) (hstop : e ≠ .stop) :
    (handle s e).1.elements = s.1.elements := by
  cases e with
  | setVideoSource | setVideoSink => rfl
  | setCaps caps =>
    show (s.1.setCaps caps s.2).2.1.elements = _
    rw [setCaps_fst]
    rfl
  | setupPipeline fails => exact absurd rfl (he fails)
  | play | pause | seek | detachBusWatch => rfl
  | stop => exact absurd rfl hstop
  | attachBusWatch fails context callback =>
    obtain ⟨watch, hwatch⟩ := attachBusWatch_fst fails context callback s.1 s.2
    show (s.1.attachBusWatch fails context callback s.2).2.1.elements = _
    rw [hwatch]
    rfl
  | dispatch during => rw [dispatch_fst]

/-! ### A set-up that succeeds -/

/-- The objects that are made for a pipeline, in the order of their addresses. -/
def objects (source : VideoSource) (sink : VideoSink) : List GObject :=
  ProfileHost.sourceObject source :: { type := ascii "pipeline", name := ascii "video-pipeline" } ::
    { type := ascii "bus" } :: laterParts sink

/-- The links of a pipeline that was made at the address `n`. -/
def wiring (n : Nat) : List (Nat × Nat) := [(n, n + 3), (n + 3, n + 4), (n + 4, n + 5)]

/-- The elements of a pipeline that was made at the address `n`, and how they are linked; other links are among
elements that were there before. -/
structure Strung (n : Nat) (s : VideoPipeline × Gst) : Prop where
  elements : s.1.elements = [some (n + 1), some n, some (n + 3), some (n + 4), some (n + 5)]
  linked : ∀ l ∈ wiring n, l ∈ s.2.links
  others : ∀ l ∈ s.2.links, l ∈ wiring n ∨ l.1 < n ∧ l.2 < n ∧ s.2.inlet l.2 < n
  laid : ∃ source sink, s.2.Laid n ((objects source sink).map Gst.shape)

theorem objects_made (source : VideoSource) (sink : VideoSink) (g : Gst) :
    (made source sink g).Laid g.next ((objects source sink).map Gst.shape) := by
  obtain ⟨-, -, -, hsource, hpipe, hbus, hlater⟩ := made_spec g source sink
  intro k hk
  match k with
  | 0 => exact (congrArg (Option.map Gst.shape) hsource).trans rfl
  | 1 => exact (congrArg (Option.map Gst.shape) hpipe).trans rfl
  | 2 => exact (congrArg (Option.map Gst.shape) hbus).trans rfl
  | k + 3 =>
    have hlt : k + 3 < 6 := hk
    rw [show g.next + (k + 3) = g.next + 3 + k by omega, hlater k (by omega), ← List.getElem?_map]
    rfl

theorem links_made (source : VideoSource) (sink : VideoSink) (g : Gst) : (made source sink g).links = g.links := by
  unfold made
  rw [Gst.links_allocAll, Gst.links_pipelineNew, Gst.links_alloc]

theorem links_assembled (source : VideoSource) (sink : VideoSink) (caps : VideoCaps) (g : Gst) :
    (assembled source sink caps g).links = g.links ++ wiring g.next := by
  have hin := (Gst.binAddMany_spec (fits_made g source sink (.caps (setupCaps caps)))).1
  have hpairs := @Gst.linkPairs_eq _ (g.next + 1) [g.next, g.next + 3, g.next + 4, g.next + 5] fun e he =>
    (hin e).trans (if_pos he)
  unfold assembled
  simp only [hpairs]
  rw [Gst.links_binAddMany, Gst.links_setObject, links_made]
  rfl

theorem assembled_laid (source : VideoSource) (sink : VideoSink) (caps : VideoCaps) (g : Gst) :
    (assembled source sink caps g).Laid g.next ((objects source sink).map Gst.shape) := by
  have hset : Gst.Same Gst.shape (made source sink g) ((made source sink g).setObject (g.next + 4) (ascii "caps")
    (.caps (setupCaps caps))) := Gst.Same.refl.update _ fun _ => rfl
  intro k hk
  rw [← (objects_made source sink g).same hset k hk]
  unfold assembled
  rw [Gst.obj_linkPairs, Gst.obj_binAddMany]

theorem grew_made (source : VideoSource) (sink : VideoSink) (g : Gst) : g.Grew (made source sink g) :=
  ((Gst.Grew.refl.alloc ..).pipelineNew ..).allocAll _

theorem grew_assembled (source : VideoSource) (sink : VideoSink) (caps : VideoCaps) (g : Gst) :
    g.Grew (assembled source sink caps g) := by
  have hset := @Gst.Grew.setObject _ _ (g.next + 4) (grew_made source sink g) (by omega) (ascii "caps")
    (.caps (setupCaps caps))
  exact (hset.binAddMany (g.next + 1) (by simp)).linkPairs [g.next, g.next + 3, g.next + 4, g.next + 5]

/-- The links and the inlets of before stay below the new elements. -/
theorem Strung.setupPipeline (hc : g.Closed) (source : VideoSource) (sink : VideoSink) :
    Strung g.next (v.withElements g.next, assembled source sink v.caps g) := by
  refine ⟨rfl, fun l hl => ?_, fun l hl => ?_, source, sink, assembled_laid source sink v.caps g⟩
  · rw [links_assembled]
    exact List.mem_append_right _ hl
  · rw [links_assembled] at hl
    rcases List.mem_append.mp hl with hold | hnew
    · obtain ⟨hfrom, hto, hinlet⟩ := hc l hold
      refine .inr ⟨hfrom, hto, ?_⟩
      show (assembled source sink v.caps g).inlet l.2 < g.next
      rwa [(grew_assembled source sink v.caps g).keeps.same.inlet hto]
    · exact .inl hnew

/-! ### Paths -/

namespace Strung

theorem keep (h : Strung n s) (helements : s'.1.elements = s.1.elements) (hlinks : s'.2.links = s.2.links)
    (hs : Gst.Same Gst.shape s.2 s'.2) : Strung n s' := by
  obtain ⟨source, sink, hlaid⟩ := h.laid
  have hn : n < s.2.next := by
    obtain ⟨o, ho, -⟩ := Option.map_eq_some_iff.mp (hlaid 0 (Nat.zero_lt_succ _))
    exact Gst.lt_of_obj ho
  refine ⟨helements.trans h.elements, fun l hl => hlinks ▸ h.linked l hl, fun l hl => ?_, source, sink, hlaid.same hs⟩
  refine (h.others l (hlinks ▸ hl)).imp_right fun ⟨hfrom, hto, hinlet⟩ => ⟨hfrom, hto, ?_⟩
  rwa [hs.inlet (by omega)]

theorem out (h : Strung n s) {a b : Nat} (ha : n ≤ a) : (a, b) ∈ s.2.links ↔ (a, b) ∈ wiring n := by
  refine ⟨fun hl => ?_, h.linked (a, b)⟩
  exact (h.others (a, b) hl).resolve_right fun ⟨hfrom, _⟩ => Nat.not_lt.mpr ha hfrom

theorem line (h : Strung n s) : s.2.linkGraph.Line n [n + 3, n + 4, n + 5] := by
  obtain ⟨source, sink, hl⟩ := h.laid
  have hout : ∀ a b, n ≤ a → (∀ y, (a, y) ∈ wiring n ↔ y = b) → ∀ y, (a, y) ∈ s.2.links ↔ y = b := fun a b ha hb y =>
    (h.out ha).trans (hb y)
  have hsource : s.2.shut n = false := by cases source <;> exact hl.shut (k := 0) rfl
  have hsink : ∀ c, (n + 4, c) ∈ s.2.linkGraph.links ↔ c = n + 5 := by
    have hlink := hout (n + 4) (n + 5) (by omega) (by simp [wiring])
    cases sink <;> exact ProfileHost.Plumbed.link_iff hl (k := 5) rfl rfl hlink
  refine ⟨hsource, ProfileHost.Plumbed.link_iff hl (k := 3) rfl rfl (hout _ _ (by omega) ?_),
    hl.shut (k := 3) rfl, ProfileHost.Plumbed.link_iff hl (k := 4) rfl rfl (hout _ _ (by omega) ?_),
    hl.shut (k := 4) rfl, hsink, trivial⟩
  · simp [wiring]
  · simp [wiring]

/-- Paths to the sink stay in the pipeline. -/
theorem mem_of_openPath (h : Strung n s) (hpath : s.2.linkGraph.OpenPath x (n + 5)) : x ∈ [n, n + 3, n + 4, n + 5] := by
  refine hpath.within (S := fun y => y ∈ [n, n + 3, n + 4, n + 5]) (fun a b hlink hb => ?_) (by simp)
  obtain ⟨y, hl, rfl⟩ := Gst.mem_linkGraph.mp hlink
  rcases h.others (a, y) hl with hwire | ⟨-, -, (hinlet : s.2.inlet y < n)⟩
  · simp only [wiring, List.mem_cons, Prod.mk.injEq, List.not_mem_nil, or_false] at hwire
    simp only [List.mem_cons, List.not_mem_nil, or_false]
    omega
  · simp only [List.mem_cons, List.not_mem_nil, or_false] at hb
    omega

theorem openPath_sink (h : Strung n s) : s.2.linkGraph.OpenPath x (n + 5) ↔ x ∈ [n, n + 3, n + 4, n + 5] :=
  ⟨h.mem_of_openPath, fun hx => h.line.openPath_last hx⟩

theorem openPath_iff (h : Strung n s) : s.2.linkGraph.OpenPath n x ↔ x ∈ [n, n + 3, n + 4, n + 5] := by
  have hend : ∀ c, (n + 5, c) ∉ s.2.linkGraph.links := fun c hc => by
    obtain ⟨b, hb, -⟩ := Gst.mem_linkGraph.mp hc
    rw [h.out (by omega)] at hb
    simp [wiring] at hb
  rw [h.line.openPath_iff]
  show x ∈ [n, n + 3, n + 4] ∨ s.2.linkGraph.OpenPath (n + 5) x ↔ _
  rw [LinkGraph.openPath_end hend]
  simp only [List.mem_cons, List.not_mem_nil, or_false, or_assoc]

/-- All of it passes the capsfilter. -/
theorem filtered (h : Strung n s) : ¬ (s.2.linkGraph.shutting (n + 4)).OpenPath n (n + 5) := by
  refine LinkGraph.no_openPath_gate (by omega) fun c _ hlink => ?_
  obtain ⟨y, hl, hinlet⟩ := Gst.mem_linkGraph.mp hlink
  obtain ⟨source, sink, hlaid⟩ := h.laid
  rcases h.others (c, y) hl with hwire | ⟨-, -, (hold : s.2.inlet y < n)⟩
  · have hconvert : s.2.inlet (n + 3) = n + 3 := hlaid.inlet (k := 3) rfl
    have hfilter : s.2.inlet (n + 4) = n + 4 := hlaid.inlet (k := 4) rfl
    simp only [wiring, List.mem_cons, Prod.mk.injEq, List.not_mem_nil, or_false] at hwire
    rcases hwire with ⟨-, rfl⟩ | ⟨-, rfl⟩ | ⟨rfl, -⟩
    · omega
    · omega
    · rfl
  · omega

end Strung

/-! ### Over whole runs -/

/-- What all calls keep. -/
structure Piped (s : VideoPipeline × Gst) : Prop where
  closed : s.2.Closed
  strung : s.1.isPipelineSetup = true → ∃ n, Strung n s

theorem closed_wiring (h : Strung n s) : ∀ l ∈ wiring n, l.1 < s.2.next ∧ l.2 < s.2.next ∧ s.2.inlet l.2 < s.2.next := by
  obtain ⟨source, sink, hl⟩ := h.laid
  have hnext : n + 5 < s.2.next := by
    obtain ⟨o, ho, -⟩ := Option.map_eq_some_iff.mp (hl 5 (by simp [objects, laterParts]))
    exact Gst.lt_of_obj ho
  have hconvert : s.2.inlet (n + 3) = n + 3 := hl.inlet (k := 3) rfl
  have hcaps : s.2.inlet (n + 4) = n + 4 := hl.inlet (k := 4) rfl
  have hsink : s.2.inlet (n + 5) = n + 5 := by cases sink <;> exact hl.inlet (k := 5) rfl
  simp only [wiring, List.forall_mem_cons, hconvert, hcaps, hsink]
  refine ⟨by omega, by omega, by omega, by simp⟩

theorem Strung.closed (h : Strung n s) (hn : n ≤ s.2.next) : s.2.Closed := by
  intro l hl
  rcases h.others l hl with hwire | ⟨hfrom, hto, hinlet⟩
  · exact closed_wiring h l hwire
  · exact ⟨by omega, by omega, by omega⟩

/-- The heap when the elements of a set-up cannot be linked. -/
def configured (caps : VideoCaps) (p a b c d : Nat) (g : Gst) : Gst :=
  ((g.setObject c (ascii "caps") (.caps (setupCaps caps))).binAddMany p [a, b, c, d]).fail

theorem links_configured (caps : VideoCaps) (p a b c d : Nat) (g : Gst) : (configured caps p a b c d g).links = g.links :=
  Gst.links_binAddMany ..

theorem configured_same (caps : VideoCaps) (p a b c d : Nat) (g : Gst) :
    Gst.Same Gst.shape g (configured caps p a b c d g) := by
  have hset : Gst.Same Gst.shape g (g.setObject c (ascii "caps") (.caps (setupCaps caps))) :=
    Gst.Same.refl.update c fun _ => rfl
  refine hset.trans ⟨Nat.le_of_eq (Gst.next_binAddMany ..).symm, fun {x} _ => ?_⟩
  exact congrArg (Option.map Gst.shape) (Gst.obj_binAddMany ..)

theorem setupElements_unlinked {fails : VideoCall → Bool} {p a b c d : Nat} (hlink : fails .link = true) :
    setupElements fails v p a b c d g =
      (.failure "Failed to link elements in the pipeline", (v.stop (configured v.caps p a b c d g)).2) := by
  unfold setupElements Gst.linkMany
  rw [hlink]
  rfl

/-- A rollback. -/
theorem Piped.stopped (h : g.Closed) (v : VideoPipeline) (hlinks : g'.links = g.links) (hs : Gst.Same Gst.shape g g') :
    Piped (v.stop g').2 := by
  refine ⟨h.keep ((links_stop v g').trans hlinks) (hs.trans (stop_same v g')), fun hsetup => ?_⟩
  rw [stop_fst, isPipelineSetup_cleared] at hsetup
  cases hsetup

theorem Piped.setupPipeline (h : Piped s) (fails : VideoCall → Bool) : Piped (setupPipeline fails s.1 s.2).2 := by
  rcases setupPipeline_shape fails s.1 s.2 with
    ⟨-, reason, -, hres⟩ | ⟨-, source, -, ⟨-, hres⟩ | ⟨-, sink, -, hres⟩⟩
  · rw [hres]
    exact h
  · rw [hres]
    exact .stopped h.closed _ (links_create fails source s.1 s.2) (grew_create fails s.1 s.2 source).keeps.same
  · rw [hres]
    have hfits := fits_made s.2 source sink (.caps (setupCaps s.1.caps))
    rcases @setupElements_fits fails (s.1.withElements s.2.next) _ _ _ _ _ _ hfits with ⟨-, heq⟩ | ⟨hlink, -, -⟩
    · rw [heq]
      have hn : Strung s.2.next (s.1.withElements s.2.next, assembled source sink s.1.caps s.2) :=
        .setupPipeline h.closed ..
      exact ⟨hn.closed (grew_assembled ..).next_le, fun _ => ⟨s.2.next, hn⟩⟩
    · rw [setupElements_unlinked hlink]
      refine .stopped h.closed _ ?_ ?_
      · exact (links_configured ..).trans (links_made ..)
      · exact (grew_made source sink s.2).keeps.same.trans (configured_same ..)

theorem Piped.handle (h : Piped s) (e : VideoEvent) : Piped (handle s e) := by
  by_cases hset : ∃ fails, e = .setupPipeline fails
  · obtain ⟨fails, rfl⟩ := hset
    exact h.setupPipeline fails
  · have he : ∀ fails, e ≠ .setupPipeline fails := fun fails heq => hset ⟨fails, heq⟩
    refine ⟨h.closed.keep (handle_links he) (handle_shape he), fun hsetup => ?_⟩
    by_cases hstop : e = .stop
    · subst hstop
      change (s.1.stop s.2).2.1.isPipelineSetup = true at hsetup
      rw [stop_fst, isPipelineSetup_cleared] at hsetup
      cases hsetup
    · have helements : (VideoPipeline.handle s e).1.elements = s.1.elements := handle_elements he hstop
      obtain ⟨n, hn⟩ := h.strung (isPipelineSetup_iff.mpr (helements ▸ isPipelineSetup_iff.mp hsetup))
      exact ⟨n, hn.keep helements (handle_links he) (handle_shape he)⟩

theorem Piped.init (h : g.Closed) : Piped ({}, g) := ⟨h, fun hsetup => by cases hsetup⟩

end

/-- In every state of every run, however many pipelines were built before: links lead from the source to the
elements of this pipeline and nowhere else, from nothing else to the sink, and from the source to the sink only
through the capsfilter, which has the caps that were set last. -/
theorem frames_conform {g : Gst} (hg : g.Closed) (events : List VideoEvent)
    (hsetup : (run handle ({}, g) events).1.isPipelineSetup = true) :
    let s := run handle ({}, g) events
    ∃ source convert filter sink, s.1.source = some source ∧ s.1.videoConvert = some convert ∧
      s.1.videoCaps = some filter ∧ s.1.sink = some sink ∧
      (∀ x, s.2.linkGraph.OpenPath source x ↔ x ∈ [source, convert, filter, sink]) ∧
      (∀ x, s.2.linkGraph.OpenPath x sink ↔ x ∈ [source, convert, filter, sink]) ∧
      ¬ (s.2.linkGraph.shutting filter).OpenPath source sink ∧
      s.2.prop filter (ascii "caps") = some (.caps (lastCaps events).toGstCaps) := by
  intro s
  have hpiped : Piped s := run_induction (P := fun _ s => Piped s) (.init hg) (fun _ _ e ih => ih.handle e) events
  obtain ⟨n, hn⟩ := hpiped.strung hsetup
  obtain ⟨filter, hfilter, hprop⟩ := (configured_run g events).element hsetup
  have helements : s.1.elements = _ := hn.elements
  simp only [elements, List.cons.injEq, and_true] at helements
  obtain ⟨-, hsource, hconvert, hcaps, hsink⟩ := helements
  obtain rfl : filter = n + 4 := Option.some.inj (hfilter.symm.trans hcaps)
  exact ⟨n, n + 3, n + 4, n + 5, hsource, hconvert, hcaps, hsink, fun _ => hn.openPath_iff, fun _ => hn.openPath_sink,
    hn.filtered, hprop⟩

/-- A pipeline is built, its link failing once, torn down while it plays, and built again with other caps. -/
theorem frames_conform_rebuilt :
    let events : List VideoEvent := [.setVideoSource (some .TestVideoSource), .setupPipeline fun c => c == .link,
      .setupPipeline fun _ => false, .play false false, .stop, .setCaps { width := 160 }, .setupPipeline fun _ => false]
    let s := run handle ({}, .init) events
    ∃ source convert filter sink, s.1.source = some source ∧ s.1.videoConvert = some convert ∧
      s.1.videoCaps = some filter ∧ s.1.sink = some sink ∧
      (∀ x, s.2.linkGraph.OpenPath source x ↔ x ∈ [source, convert, filter, sink]) ∧
      (∀ x, s.2.linkGraph.OpenPath x sink ↔ x ∈ [source, convert, filter, sink]) ∧
      ¬ (s.2.linkGraph.shutting filter).OpenPath source sink ∧
      s.2.prop filter (ascii "caps") = some (.caps (lastCaps events).toGstCaps) := by
  intro events
  have hinit : Gst.init.Closed := fun l hl => by cases hl
  exact frames_conform hinit events (by decide)

end VideoPipeline

end CameraPlatform
