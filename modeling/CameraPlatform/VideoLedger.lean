import CameraPlatform.GstLedger
import CameraPlatform.VideoEvents

/-!
# The references of a `VideoPipeline`

The pipeline owns the other elements once they were added; until then `stop` forgets them as soon as
there is a pipeline.
-/

namespace CameraPlatform
open ByteString RefHeap History

namespace VideoPipeline

/-- Which of the elements that go into the pipeline `setupPipeline` gets. -/
def gets (fails : VideoCall → Bool) : List Bool :=
  [!fails .source, !fails .videoConvert, !fails .videoCaps, !fails .sink]

/-- A set-up that runs has a sink factory, which it calls without looking, and gets no pipeline, or all of its
elements, or none of them. -/
def Even (v : VideoPipeline) : VideoEvent → Prop
  | .setupPipeline fails => v.isPipelineSetup = true ∨ v.videoSource = none ∨ v.videoSink.isSome = true ∧
      (fails .pipeline = true ∨ (∀ x ∈ gets fails, x = true) ∨ ∀ x ∈ gets fails, x = false)
  | _ => True

/-- Nothing was released twice; without a pipeline, and after destruction, nothing is left. -/
structure Balanced (g : Gst) (s : VideoPipeline × Gst) : Prop where
  misused : g.NoneMisused s.2
  cleared : s.1.pipeline = none → g.AllReleased s.2
  destroyed : g.NoneMisused (s.1.stop s.2).2.2 ∧ g.AllReleased (s.1.stop s.2).2.2

/-- Of all elements only the pipeline is held. -/
structure Kept (g : Gst) (s : VideoPipeline × Gst) : Prop where
  account : g.Account s.2 s.1.pipeline.toList
  allOrNone : s.1.AllOrNone
  pipeline : ∀ p ∈ s.1.pipeline, g.next ≤ p
  watch : ∀ x ∈ s.1.watch.busSource, g.Aux s.2 x

section
variable {fails : VideoCall → Bool} {v : VideoPipeline} {g g₀ : Gst} {s : VideoPipeline × Gst} {source : VideoSource}
  {sink : VideoSink}

/-! ### `stop` -/

theorem account_stop_pipeline {p : Nat} (hp : v.pipeline = some p) (h : g₀.Account g [p])
    (hw : ∀ x ∈ v.watch.busSource, g₀.Aux g x) : g₀.Account (v.stop g).2.2 [] := by
  have hdetach := h.detachBusWatch hw
  unfold stop detachBusWatch
  simp only [hp]
  exact (hdetach.setState false p .null).unref

/-- Without a pipeline each element is released on its own. -/
theorem account_stop_elements (hp : v.pipeline = none) (hw : ∀ x ∈ v.watch.busSource, g₀.Aux g x)
    (h : g₀.Account g (v.source.toList ++ (v.videoConvert.toList ++ (v.videoCaps.toList ++ (v.sink.toList ++ []))))) :
    g₀.Account (v.stop g).2.2 [] := by
  have hdetach := h.detachBusWatch hw
  unfold stop detachBusWatch
  simp only [hp]
  exact hdetach.clearObject.clearObject.clearObject.clearObject

/-- What `stop` leaves when it releases everything. -/
theorem Kept.stopped (h : g₀.Account (v.stop g).2.2 []) : Kept g₀ (v.stop g).2 := by
  refine ⟨?_, ?_, ?_, ?_⟩ <;> rw [stop_fst]
  · exact h
  · exact .inr (elements_cleared v)
  · rintro _ ⟨⟩
  · rintro _ ⟨⟩

theorem Kept.nothing (h : Kept g₀ s) (hsetup : s.1.isPipelineSetup = false) : g₀.Account s.2 [] := by
  have hnone : s.1.pipeline = none := h.allOrNone.resolve_left (fun hall => by
    rw [isPipelineSetup_iff.mpr hall] at hsetup; cases hsetup) _ (by simp [elements])
  have haccount := h.account
  rwa [hnone] at haccount

theorem Kept.stop (h : Kept g₀ s) : Kept g₀ (s.1.stop s.2).2 := by
  refine .stopped ?_
  have haccount := h.account
  cases hp : s.1.pipeline with
  | some p => exact account_stop_pipeline hp (by rwa [hp] at haccount) h.watch
  | none =>
    have hnone : ∀ x ∈ s.1.elements, x = none := h.allOrNone.resolve_left fun hall => by
      have := hall s.1.pipeline (by simp [elements])
      rw [hp] at this; cases this
    refine account_stop_elements hp h.watch ?_
    rw [hnone s.1.source (by simp [elements]), hnone s.1.videoConvert (by simp [elements]),
      hnone s.1.videoCaps (by simp [elements]), hnone s.1.sink (by simp [elements])]
    rwa [hp] at haccount

theorem Kept.balanced (h : Kept g₀ s) : Balanced g₀ s := by
  have hstop := h.stop.account
  rw [stop_fst] at hstop
  refine ⟨h.account.noneMisused, fun hp => ?_, hstop.noneMisused, hstop.allReleased⟩
  have haccount := h.account
  rw [hp] at haccount
  exact haccount.allReleased

/-! ### `setupPipeline` -/

variable (source sink) in
/-- The new elements are listed, the four that go into the pipeline are floating. -/
theorem account_made (h : g₀.Account g []) :
    g₀.Account (made source sink g) ([g.next, g.next + 3, g.next + 4, g.next + 5] ++ [g.next + 1]) ∧
      (∀ e ∈ [g.next, g.next + 3, g.next + 4, g.next + 5], (made source sink g).heap.floating e = true) ∧
      g₀.Element (made source sink g) (g.next + 1) ∧ (made source sink g).owner (g.next + 1) = none := by
  have hsource := h.alloc true (VideoSource.isElement_object source) (by cases source <;> rfl) (by cases source <;> rfl)
  have hfloat : (g.alloc true (ProfileHost.sourceObject source)).heap.floating g.next = true := by
    show (g.heap.alloc true _).floating g.heap.next = true
    rw [Heap.floating_alloc, if_pos rfl]
  obtain ⟨haccount, hnew, hold, hp, hroot⟩ := hsource.pipelineParts (ascii "video-pipeline") (laterParts sink) (by
    cases sink <;> simp [laterParts, sinkObject, GObject.isElement, ascii]) rfl
  rw [Gst.next_alloc] at haccount hnew hold hp hroot
  unfold made
  refine ⟨haccount.perm ?_, fun e he => ?_, hp, hroot⟩
  · rw [List.perm_iff_count]
    intro x
    simp only [laterParts, List.length_cons, List.length_nil, List.range'_succ, List.range'_zero,
      List.cons_append, List.nil_append, List.count_cons, List.count_nil, Nat.add_assoc, Nat.reduceAdd]
    omega
  · simp only [List.mem_cons, List.not_mem_nil, or_false] at he
    rcases he with rfl | he
    · exact (hold _ (Nat.lt_succ_self _)).trans hfloat
    · exact hnew e (by omega) (by simp [laterParts]; omega)

theorem account_createSink {held : List Nat} (h : g₀.Account g held) (fails : Bool) (sink : Option VideoSink) :
    g₀.Account (match sink with
        | some videoSink => videoSink.createElement fails g
        | none => (none, g.nullUse)).2
      ((match sink with
        | some videoSink => videoSink.createElement fails g
        | none => (none, g.nullUse)).1.toList ++ held) := by
  cases sink with
  | none => exact h.heap rfl
  | some videoSink => cases videoSink <;> exact h.factoryMake fails (by simp [GObject.isElement, ascii])

/-- A set-up that gets everything leaves the pipeline as the only reference, or none. -/
theorem Kept.setupPipeline_made (h : Kept g₀ s) (hsetup : s.1.isPipelineSetup = false)
    (hsource : s.1.videoSource = some source) (hsink : s.1.videoSink = some sink)
    (hmade : ∀ c, c ≠ .link → fails c = false) : Kept g₀ (setupPipeline fails s.1 s.2).2 := by
  obtain ⟨haccount, hfloat, hpipe, hroot⟩ := account_made source sink (h.nothing hsetup)
  have hle : g₀.next ≤ s.2.next := h.account.ledger.next_le
  have hkeeps : s.2.Keeps (made source sink s.2) := (((Gst.Grew.refl.alloc _ _).pipelineNew ..).allocAll _).keeps
  have hkeeps₁ := hkeeps.setObject (Nat.le_add_right _ 4) (ascii "caps")
    (.caps (setupCaps (s.1.withElements s.2.next).caps))
  rw [VideoPipeline.setupPipeline_made hsetup hsource hsink hmade]
  unfold setupElements
  have hadded := (haccount.configured (s.2.next + 4) (ascii "caps") _
    (fits_made s.2 source sink (.caps (setupCaps (s.1.withElements s.2.next).caps))) hfloat hpipe hroot).1
  generalize (made source sink s.2).setObject (s.2.next + 4) (ascii "caps")
    (.caps (setupCaps (s.1.withElements s.2.next).caps)) = g₁ at hadded hkeeps₁
  have hlink := hadded.linkMany (fails .link) [s.2.next, s.2.next + 3, s.2.next + 4, s.2.next + 5]
  have hw : ∀ x ∈ s.1.watch.busSource, g₀.Aux ((g₁.binAddMany (s.2.next + 1) [s.2.next, s.2.next + 3, s.2.next + 4,
      s.2.next + 5]).linkMany (fails .link) [s.2.next, s.2.next + 3, s.2.next + 4, s.2.next + 5]).2 x :=
    fun x hx => (h.watch x hx).same (hkeeps₁.more (by simp) (by simp)).same
  simp only
  generalize (g₁.binAddMany (s.2.next + 1) [s.2.next, s.2.next + 3, s.2.next + 4, s.2.next + 5]).linkMany
    (fails .link) [s.2.next, s.2.next + 3, s.2.next + 4, s.2.next + 5] = linked at hlink hw ⊢
  obtain ⟨ok, g₂⟩ := linked
  cases ok with
  | true => exact ⟨hlink, .inl (isPipelineSetup_iff.mp rfl), by rintro _ ⟨⟩; omega, hw⟩
  | false => exact .stopped (account_stop_pipeline rfl hlink hw)

variable (fails v source) in
/-- Every element that was made is listed. -/
theorem account_create {held : List Nat} (h : g₀.Account g held) :
    g₀.Account (create fails source v g).2 ((create fails source v g).1.sink.toList ++
      ((create fails source v g).1.videoCaps.toList ++ ((create fails source v g).1.videoConvert.toList ++
        ((create fails source v g).1.pipeline.toList ++ ((create fails source v g).1.source.toList ++ held))))) := by
  have h1 := VideoSource.account_createElement h (fails .source) source
  have h2 := h1.pipelineNew (fails .pipeline) (ascii "video-pipeline")
  have hconvert : ({ type := ascii "videoconvert", name := ascii "video-convert" } : GObject).isElement = true := by
    simp [GObject.isElement, ascii]
  have hcaps : ({ type := ascii "capsfilter", name := ascii "video-caps" } : GObject).isElement = true := by
    simp [GObject.isElement, ascii]
  have h4 := (h2.factoryMake (fails .videoConvert) hconvert).factoryMake (fails .videoCaps) hcaps
  exact account_createSink h4 (fails .sink) v.videoSink

theorem create_pipeline (h : fails .pipeline = true) : (create fails source v g).1.pipeline = none := by
  simp [create, Gst.pipelineNew, h]

variable (source g) in
/-- Only the pipeline is there. -/
theorem create_gets (h : ∀ x ∈ gets fails, x = false) :
    (create fails source v g).1.source = none ∧ (create fails source v g).1.videoConvert = none ∧
      (create fails source v g).1.videoCaps = none ∧ (create fails source v g).1.sink = none := by
  simp only [gets, List.mem_cons, List.not_mem_nil, or_false, forall_eq_or_imp, forall_eq, Bool.not_eq_false'] at h
  obtain ⟨hsource, hconvert, hcaps, hsink⟩ := h
  unfold create
  simp only [hsource, hconvert, hcaps, hsink, Gst.factoryMake, if_true]
  refine ⟨by cases source <;> rfl, trivial, trivial, ?_⟩
  cases v.videoSink with
  | none => rfl
  | some videoSink => cases videoSink <;> rfl

/-- One that gets no pipeline, or nothing but the pipeline, leaves no reference. -/
theorem Kept.setupPipeline_unmade (h : Kept g₀ s) (hsetup : s.1.isPipelineSetup = false)
    (hsource : s.1.videoSource = some source)
    (hwhy : fails .pipeline = true ∨ ∀ x ∈ gets fails, x = false) : Kept g₀ (setupPipeline fails s.1 s.2).2 := by
  have hfail : (∃ c, c ≠ .link ∧ fails c = true) ∨ s.1.videoSink = none := by
    rcases hwhy with hp | hnot
    · exact .inl ⟨.pipeline, by decide, hp⟩
    · exact .inl ⟨.source, by decide, by simpa using hnot (!fails .source) (by simp [gets])⟩
  have haccount := account_create fails s.1 source (h.nothing hsetup)
  have hw : ∀ x ∈ (create fails source s.1 s.2).1.watch.busSource, g₀.Aux (create fails source s.1 s.2).2 x :=
    fun x hx => (h.watch x hx).same (grew_create fails s.1 s.2 source).keeps.same
  rw [VideoPipeline.setupPipeline_unmade hsetup hsource hfail]
  refine .stopped ?_
  cases hp : (create fails source s.1 s.2).1.pipeline with
  | none =>
    refine account_stop_elements hp hw (haccount.perm (List.perm_iff_count.mpr fun x => ?_))
    simp only [hp, Option.toList_none, List.count_append, List.count_nil]
    omega
  | some p =>
    have hnot : ∀ x ∈ gets fails, x = false := hwhy.resolve_left fun hf => by
      rw [create_pipeline hf] at hp; cases hp
    obtain ⟨hsrc, hconvert, hcaps, hsink⟩ := create_gets s.2 source hnot
    rw [hp, hsrc, hconvert, hcaps, hsink] at haccount
    exact account_stop_pipeline hp haccount hw

theorem Kept.setupPipeline (h : Kept g₀ s) (he : s.1.Even (.setupPipeline fails)) :
    Kept g₀ (setupPipeline fails s.1 s.2).2 := by
  rcases setupPipeline_spec fails s.1 s.2 with ⟨-, -, heq⟩ | ⟨hsetup, source, hsource, -⟩
  · rw [heq]; exact h
  · rcases he with hset | hnone | ⟨hsink, hpipe | hall | hnot⟩
    · rw [hset] at hsetup; cases hsetup
    · rw [hnone] at hsource; cases hsource
    · exact h.setupPipeline_unmade hsetup hsource (.inl hpipe)
    · by_cases hpipe : fails .pipeline = true
      · exact h.setupPipeline_unmade hsetup hsource (.inl hpipe)
      · simp only [gets, List.mem_cons, List.not_mem_nil, or_false, forall_eq_or_imp, forall_eq,
          Bool.not_eq_true'] at hall
        obtain ⟨hf1, hf2, hf3, hf4⟩ := hall
        obtain ⟨sink, hsink⟩ := Option.isSome_iff_exists.mp hsink
        refine h.setupPipeline_made hsetup hsource hsink fun c hc => ?_
        cases c with
        | source => exact hf1
        | pipeline => simpa using hpipe
        | videoConvert => exact hf2
        | videoCaps => exact hf3
        | sink => exact hf4
        | link => exact absurd rfl hc
    · exact h.setupPipeline_unmade hsetup hsource (.inr hnot)

/-! ### Runs -/

theorem Kept.congr {s' : VideoPipeline × Gst} (h : Kept g₀ s) (haccount : g₀.Account s'.2 s.1.pipeline.toList)
    (helements : s'.1.elements = s.1.elements) (hw : ∀ x ∈ s'.1.watch.busSource, g₀.Aux s'.2 x) : Kept g₀ s' := by
  have hp : s'.1.pipeline = s.1.pipeline := (List.cons.inj helements).1
  refine ⟨hp ▸ haccount, ?_, hp ▸ h.pipeline, hw⟩
  unfold AllOrNone
  rw [helements]
  exact h.allOrNone

theorem Kept.onBusMessageStatic {held : List Nat} (hp : ∀ p ∈ v.pipeline, g₀.next ≤ p) (h : g₀.Account g held) :
    g₀.Account (v.onBusMessageStatic g).2 held := by
  unfold VideoPipeline.onBusMessageStatic
  split
  · next p _ hpipe => exact h.onBusMessageStatic v.watch (hp p hpipe)
  · exact h

theorem Kept.handle (h : Kept g₀ s) {e : VideoEvent} (he : s.1.Even e) : Kept g₀ (handle s e) := by
  have hsame : ∀ {g' : Gst}, Gst.Same GObject.type s.2 g' → ∀ x ∈ s.1.watch.busSource, g₀.Aux g' x :=
    fun hs x hx => (h.watch x hx).same hs
  cases e with
  | setVideoSource source => exact h.congr h.account rfl h.watch
  | setVideoSink sink => exact h.congr h.account rfl h.watch
  | setCaps caps =>
    have haccount : g₀.Account (s.1.setCaps caps s.2).2.2 s.1.pipeline.toList := by
      unfold setCaps
      simp only
      split
      · exact h.account.setObject ..
      · exact h.account
    have hs : Gst.Same GObject.type s.2 (s.1.setCaps caps s.2).2.2 := by
      unfold setCaps
      simp only
      split
      · exact Gst.Same.refl.update _ fun _ => rfl
      · exact .refl
    have hfst : (VideoPipeline.handle s (.setCaps caps)).1 = { s.1 with caps } := setCaps_fst ..
    exact h.congr haccount (by rw [hfst]; rfl) (by rw [hfst]; exact hsame hs)
  | setupPipeline fails => exact h.setupPipeline he
  | play getFails setFails =>
    have hsteers := play_steers getFails setFails s.1 s.2
    exact h.congr (h.account.steers hsteers) rfl (hsame hsteers.same)
  | pause getFails setFails =>
    have hsteers := pause_steers getFails setFails s.1 s.2
    exact h.congr (h.account.steers hsteers) rfl (hsame hsteers.same)
  | stop => exact h.stop
  | seek getFails seekFails =>
    have hsteers := seek_steers getFails seekFails s.1 s.2
    exact h.congr (h.account.steers hsteers) rfl (hsame hsteers.same)
  | attachBusWatch fails context callback =>
    show Kept g₀ (s.1.attachBusWatch fails context callback s.2).2
    unfold attachBusWatch
    split
    · next context callback =>
      split
      · next p _ hpipe =>
        obtain ⟨haccount, hw⟩ := h.account.attachBusWatch h.watch fails (h.pipeline p hpipe) context callback
        exact h.congr haccount rfl hw
      · exact h
    · exact h
  | detachBusWatch =>
    refine h.congr (h.account.detachBusWatch h.watch) rfl ?_
    show ∀ x ∈ (s.1.watch.detachBusWatch s.2).1.busSource, _
    rw [BusWatch.detachBusWatch_fst]
    rintro _ ⟨⟩
  | dispatch during =>
    unfold VideoPipeline.handle call
    cases hs : s.1.watch.busSource with
    | none => exact h
    | some source =>
      have hd : Gst.Same GObject.type s.2 (s.2.dispatch source s.1.onBusMessageStatic during).2 :=
        Gst.Same.refl.dispatch source (onBusMessageStatic_same s.1) during
      exact h.congr (h.account.dispatch (h.watch source (by rw [hs]; rfl))
        (fun _ hg => Kept.onBusMessageStatic h.pipeline hg) (onBusMessageStatic_same s.1) during) rfl (hsame hd)

/-- Runs whose set-ups are even lose and leak nothing, in any of their states. -/
theorem setup_balanced (g : Gst) (events : List VideoEvent)
    (h : Along VideoPipeline.handle (fun s e => s.1.Even e) (({} : VideoPipeline), g) events) :
    Balanced g (run VideoPipeline.handle ({}, g) events) := by
  have hnew : Kept g (({} : VideoPipeline), g) :=
    ⟨.refl, .inr (by simp [elements]), by rintro _ ⟨⟩, by rintro _ ⟨⟩⟩
  exact (along_invariant hnew (fun _ _ hk heven => hk.handle heven) h).balanced

end

/-- A set-up without failing calls, its rollback and another one. -/
theorem setup_balanced_again : Balanced .init (run VideoPipeline.handle ({}, .init)
    [.setVideoSource (some .TestVideoSource), .setupPipeline fun _ => false, .stop,
      .setupPipeline fun c => c == .link]) :=
  setup_balanced _ _ ⟨trivial, .inr (.inr ⟨by decide, .inr (.inl (by decide))⟩), trivial,
    .inr (.inr ⟨by decide, .inr (.inl (by decide))⟩), trivial⟩

/-- Without a `videoconvert`, `stop` forgets the other elements. -/
theorem setup_unbalanced : ¬ Balanced .init (run VideoPipeline.handle ({}, .init)
    [.setVideoSource (some .TestVideoSource), .setupPipeline fun c => c == .videoConvert]) := by
  intro h
  have hleft := h.cleared (by decide) 0 ⟨by decide, ProfileHost.sourceObject .TestVideoSource, by rfl, by decide⟩
  revert hleft
  decide

end VideoPipeline

end CameraPlatform
