import CameraPlatform.HostSetup

/-!
# Is `setupPipeline` all or nothing?

A failed `setupPipeline` should leave a host that was not set up as it was. `Clean` is the exact
condition under which it does: the call may fail early (no source, a shared element, an element of
the first branch), but a failing link or a failing later branch leaves pointers behind.
-/

namespace CameraPlatform
open ByteString RefHeap

namespace ProfileHost

/-- The host behaves as one that was never set up. -/
structure NotSetUp (h : ProfileHost) : Prop where
  play : ∀ fails g, (h.play fails g).1.ok = false
  stop : ∀ fails g, (h.stop fails g).1.ok = false
  attachBusWatch : ∀ fails context callback g, (h.attachBusWatch fails context callback g).1.ok = false
  appSink : ∀ name, h.appSinkForProfile name = none
  later : ∀ faults source g, let res := setupPipeline faults (h.setVideoSource (some source)).2 g
    res.2.2.failures = g.failures → res.1.ok = true

/-- The elements of `b` are linked from the tee to the appsink. -/
structure BranchLinked (h : ProfileHost) (g : Gst) (b : ProfileBin) : Prop where
  linked : ∃ tee bin queue valve scale capsFilter enc appSink,
    h.tee = some tee ∧ b.bin = some bin ∧ b.valve = some valve ∧ b.appSink = some appSink ∧
    (g.obj bin).bind (·.ghostSink) = some queue ∧
    ∀ l ∈ [(tee, bin), (queue, valve), (valve, scale), (scale, capsFilter), (capsFilter, enc), (enc, appSink)],
      l ∈ g.links

/-- Every entry of the catalog has its branch and its appsink. -/
structure Complete (catalog : List ProfileInfo) (h : ProfileHost) (g : Gst) : Prop where
  profiles : h.profiles = catalog
  branches : ∀ b ∈ h.profileBins, h.BranchLinked g b
  appSinks : ∀ profile ∈ catalog, h.appSinkForProfile profile.name ≠ none

/-- What `setupPipeline` promises: all of the branches, or a host that is still not set up. -/
def AllOrNothing (h : ProfileHost) (res : PipelineOutcome × ProfileHost × Gst) : Prop :=
  (res.1.ok = true → res.2.1.Complete h.profiles res.2.2) ∧
    (h.NotSetUp → res.1.ok = false → res.2.1.NotSetUp)

/-- Nothing fails, or the first thing to fail comes before the links and the later branches. -/
def Clean (faults : SetupFaults) (h : ProfileHost) : Prop :=
  h.videoSource = none ∨ (∃ c ∈ makeCalls, faults.host c = true) ∨
    faults.host .link = false ∧
      (h.profileBins = [] ∨ (∃ c, faults.bin 0 c = true) ∨
        (∀ i < h.profileBins.length, (∀ c, faults.bin i c = false) ∧ faults.host (.padLink i) = false) ∧
          (h.profileBins.map fun b => ProfileBin.binName b.profile).Nodup)

section
variable {faults : SetupFaults} {h : ProfileHost} {g : Gst}

/-- A setup that fails on a host without pipeline has seen a call fail. -/
theorem setupPipeline_failed {source : VideoSource} (hsource : h.videoSource = some source)
    (hpipeline : h.pipeline = none) (hfail : (setupPipeline faults h g).1.ok = false) :
    g.failures < (setupPipeline faults h g).2.2.failures := by
  by_cases hmade : ∀ c ∈ makeCalls, faults.host c = false
  · rw [setupPipeline_made hsource hpipeline hmade] at hfail ⊢
    rcases setupElements_cases faults g source _ with
      ⟨-, -, -, hlt⟩ | ⟨-, g', hs, hf, -, -, -, hres⟩
    · exact hlt
    · rw [hres] at hfail ⊢
      have hloop := setupBranches_failed faults 0 h.profileBins hs
      generalize setupBranches faults g.next (g.next + 5) 0 h.profileBins g' = loop at hfail hloop ⊢
      obtain ⟨error, bins, g''⟩ := loop
      cases error with
      | none => cases hfail
      | some reason =>
        simp only [finishSetup, failures_cleanup]
        rw [← hf]
        exact hloop (by simp)
  · have hex : ∃ c ∈ makeCalls, faults.host c = true := by simpa using hmade
    exact (setupPipeline_unmade hsource hpipeline hex).2.2

theorem setPipelineState_of_none (hpipeline : h.pipeline = none) (fails : Bool) (state : GstState)
    (reason : String) (g : Gst) : (h.setPipelineState fails state reason g).1.ok = false := by
  unfold setPipelineState
  rw [hpipeline]
  split <;> rfl

/-- Only the pipeline pointer and the appsinks can be observed. -/
theorem notSetUp_iff : h.NotSetUp ↔ h.pipeline = none ∧ ∀ name, h.appSinkForProfile name = none := by
  constructor
  · intro hn
    refine ⟨?_, hn.appSink⟩
    by_contra hp
    have hsome : h.pipeline.isSome = true := Option.isSome_iff_ne_none.mpr hp
    have := hn.later ⟨fun _ => false, fun _ _ => false⟩ .TestVideoSource .init
    simp [setupPipeline, setVideoSource, hsome] at this
  · rintro ⟨hp, hsink⟩
    refine ⟨fun _ _ => setPipelineState_of_none hp .., fun _ _ => setPipelineState_of_none hp .., ?_, hsink, ?_⟩
    · intro fails context callback g
      unfold attachBusWatch
      rw [hp]
      cases context <;> cases callback <;> cases h.isLinked <;> rfl
    · intro faults source g res hfail
      by_contra hok
      have := @setupPipeline_failed faults (h.setVideoSource (some source)).2 g source rfl hp
        (Bool.eq_false_iff.mpr hok)
      exact absurd hfail (Nat.ne_of_gt this)

/-- A finished loop leaves a complete host. -/
theorem complete_of_built {start tee : Nat} {ns : List Nat} (htee : h.tee = some tee)
    (hb : Built tee start h.profileBins g ns) : h.Complete h.profiles g := by
  have hbranch : ∀ b ∈ h.profileBins, ∃ n, b.Branch n g ∧ (tee, n) ∈ g.links := by
    intro b hmem
    obtain ⟨i, hi⟩ := List.mem_iff_getElem?.mp hmem
    obtain ⟨n, -, hbr, -, hlink⟩ := hb.branch hi
    exact ⟨n, hbr, hlink⟩
  refine ⟨rfl, fun b hmem => ?_, fun profile hprofile => ?_⟩
  · obtain ⟨n, hbr, hlink⟩ := hbranch b hmem
    refine ⟨tee, n, n + 3, n + 1, n + 4, n + 5, n + 6, n + 2, htee, hbr.bin, hbr.valve, hbr.appSink, hbr.ghost, ?_⟩
    intro l hl
    rcases List.mem_cons.mp hl with rfl | hl
    · exact hlink
    · exact hbr.chain l hl
  · obtain ⟨b, hmem, rfl⟩ := List.mem_map.mp hprofile
    unfold appSinkForProfile find
    cases hfind : h.profileBins.find? fun c => c.profile.name == b.profile.name with
    | none => exact absurd (List.find?_eq_none.mp hfind b hmem) (by simp)
    | some c =>
      obtain ⟨n, hbr, -⟩ := hbranch c (List.mem_of_find?_eq_some hfind)
      rw [Option.bind_some, hbr.appSink]
      simp

/-- Clearing the first of the profiles with its name clears its appsink. -/
theorem appSink_cons {b b' : ProfileBin} {bs : List ProfileBin} (hb : h.profileBins = b :: bs)
    (hprofile : b'.profile = b.profile) (hnone : ∀ name, h.appSinkForProfile name = none)
    (hsink : b'.appSink = none) (name : Bytes) :
    ({ h with profileBins := b' :: bs }).appSinkForProfile name = none := by
  have hold := hnone name
  unfold appSinkForProfile find at hold ⊢
  rw [hb] at hold
  rw [List.find?_cons, hprofile]
  rw [List.find?_cons] at hold
  split at hold
  · exact hsink
  · exact hold

theorem clean_iff_of_made {source : VideoSource} (hsource : h.videoSource = some source)
    (hmade : ∀ c ∈ makeCalls, faults.host c = false) :
    Clean faults h ↔ faults.host .link = false ∧
      (h.profileBins = [] ∨ (∃ c, faults.bin 0 c = true) ∨
        (∀ i < h.profileBins.length, (∀ c, faults.bin i c = false) ∧ faults.host (.padLink i) = false) ∧
          (h.profileBins.map fun b => ProfileBin.binName b.profile).Nodup) := by
  refine ⟨?_, fun hc => .inr (.inr hc)⟩
  rintro (hnone | ⟨c, hc, hf⟩ | hc)
  · rw [hsource] at hnone; cases hnone
  · rw [hmade c hc] at hf; cases hf
  · exact hc

theorem complete_finish {p tee : Nat} (h₁ : ProfileHost) (hs : Shared p tee g) (htee : h₁.tee = some tee)
    (hok : (h₁.finishSetup (setupBranches faults p tee 0 h₁.profileBins g)).1.ok = true) :
    let res := h₁.finishSetup (setupBranches faults p tee 0 h₁.profileBins g)
    res.2.1.Complete h₁.profiles res.2.2 := by
  have hprofiles := setupBranches_profiles faults 0 h₁.profileBins hs
  have hbuilt := setupBranches_ok faults 0 h₁.profileBins hs
  generalize setupBranches faults p tee 0 h₁.profileBins g = loop at hok hprofiles hbuilt
  obtain ⟨error, bins, g'⟩ := loop
  cases error with
  | some reason => cases hok
  | none =>
    obtain ⟨ns, hns, -⟩ := hbuilt rfl
    have hcomplete := complete_of_built (h := { h₁ with isLinked := true, profileBins := bins }) htee hns
    have heq : h₁.profiles = bins.map (·.profile) := hprofiles.symm
    rw [heq]
    exact hcomplete

/-- A setup that succeeds is complete, whatever state it started from. -/
theorem setupPipeline_complete (hok : (setupPipeline faults h g).1.ok = true) :
    (setupPipeline faults h g).2.1.Complete h.profiles (setupPipeline faults h g).2.2 := by
  obtain ⟨source, g', -, -, -, hl, hres⟩ := setupPipeline_ok hok
  rw [hres] at hok ⊢
  exact complete_finish (h.withShared g.next) hl.shared rfl hok

/-- After the main link, the first branch decides what a failure leaves. -/
theorem rollsBack_finish {p tee : Nat} {h₁ : ProfileHost} (hs : Shared p tee g)
    (hbins : h₁.profileBins = h.profileBins) (hnone : ∀ name, h.appSinkForProfile name = none) :
    ((h₁.finishSetup (setupBranches faults p tee 0 h₁.profileBins g)).1.ok = false →
        (h₁.finishSetup (setupBranches faults p tee 0 h₁.profileBins g)).2.1.NotSetUp) ↔
      (h₁.profileBins = [] ∨ (∃ c, faults.bin 0 c = true) ∨ Goes faults p 0 h₁.profileBins g) := by
  have hprofiles := setupBranches_profiles faults 0 h₁.profileBins hs
  have hiff := setupBranches_iff faults 0 h₁.profileBins hs
  cases hloop : (setupBranches faults p tee 0 h₁.profileBins g).1 with
  | none =>
    have hgoes := hiff.mp hloop
    generalize setupBranches faults p tee 0 h₁.profileBins g = loop at hloop
    obtain ⟨error, bins, g'⟩ := loop
    obtain rfl : error = none := hloop
    exact ⟨fun _ => .inr (.inr hgoes), fun _ hok => by cases hok⟩
  | some reason =>
    have hgoes : ¬ Goes faults p 0 h₁.profileBins g := fun hg => by
      rw [hiff.mpr hg] at hloop; cases hloop
    cases hb : h₁.profileBins with
    | nil => rw [hb] at hloop; cases hloop
    | cons b bs =>
      obtain ⟨b', bs', hout, hsinkiff, hrest⟩ := setupBranches_head faults 0 b bs hs
      rw [hb] at hloop hprofiles hgoes
      rw [or_iff_right (List.cons_ne_nil b bs), or_iff_left hgoes, ← hsinkiff]
      rw [hout] at hprofiles
      have hprofile : b'.profile = b.profile := (List.cons.inj hprofiles).1
      generalize setupBranches faults p tee 0 (b :: bs) g = loop at hloop hout hrest
      obtain ⟨error, bins, g'⟩ := loop
      obtain rfl : error = some reason := hloop
      obtain rfl : bins = b' :: bs' := hout
      constructor
      · intro hback
        have hn := (hback rfl).appSink b'.profile.name
        have hfind : (b' :: bs').find? (fun c => c.profile.name == b'.profile.name) = some b' := by simp
        simpa [finishSetup, cleanup, appSinkForProfile, find, hfind] using hn
      · intro hb' _
        refine notSetUp_iff.mpr ⟨rfl, ?_⟩
        obtain ⟨rfl, -⟩ := hrest (hsinkiff.mp hb')
        exact appSink_cons (hbins ▸ hb) hprofile hnone hb'

/-- A failed setup leaves a host that is not set up exactly on the clean choices of failing calls. -/
theorem rollsBack_iff (hn : h.NotSetUp) :
    ((setupPipeline faults h g).1.ok = false → (setupPipeline faults h g).2.1.NotSetUp) ↔ Clean faults h := by
  obtain ⟨hpipeline, hsink⟩ := notSetUp_iff.mp hn
  cases hsource : h.videoSource with
  | none =>
    obtain ⟨reason, -, hres⟩ := @setupPipeline_refused faults h g (.inl hsource)
    rw [hres]
    exact ⟨fun _ => .inl hsource, fun _ _ => hn⟩
  | some source =>
    by_cases hmade : ∀ c ∈ makeCalls, faults.host c = false
    · rw [clean_iff_of_made hsource hmade, setupPipeline_made hsource hpipeline hmade]
      generalize hh : ({ h with
        pipeline := some g.next, source := some (g.next + 2), videoConvert := some (g.next + 3),
        sourceCaps := some (g.next + 4), tee := some (g.next + 5) } : ProfileHost) = h₁
      have hbins : h₁.profileBins = h.profileBins := by rw [← hh]
      rcases setupElements_cases faults g source h₁ with
        ⟨hlink, hfail, hres, -⟩ | ⟨hlink, g', hs, -, -, hshared, -, hres⟩
      · -- the failed main link leaves the pipeline pointer
        rw [hlink]
        refine ⟨fun hback => ?_, fun hc => by cases hc.1⟩
        have hnot := (notSetUp_iff.mp (hback hfail)).1
        rw [hres, ← hh] at hnot
        cases hnot
      · rw [hres, and_iff_right hlink, rollsBack_finish hs hbins hsink, hbins]
        refine or_congr_right (or_congr_right ⟨fun hg => ⟨?_, hg.names⟩, fun hg => ⟨?_, hg.2, ?_⟩⟩)
        · simpa using hg.calls
        · simpa using hg.1
        · exact fun b _ htaken => binName_not_shared _ (hshared _ htaken)
    · have hex : ∃ c ∈ makeCalls, faults.host c = true := by simpa using hmade
      obtain ⟨-, hclear, -⟩ := @setupPipeline_unmade faults h g source hsource hpipeline hex
      refine ⟨fun _ => .inr (.inl hex), fun _ _ => ?_⟩
      rw [hclear]
      exact notSetUp_iff.mpr ⟨rfl, hsink⟩

/-- `setupPipeline` keeps its promise exactly when a host that is not set up meets a clean choice of
failing calls. -/
theorem setupPipeline_allOrNothing_iff (faults : SetupFaults) (h : ProfileHost) (g : Gst) :
    h.AllOrNothing (setupPipeline faults h g) ↔ (h.NotSetUp → Clean faults h) :=
  ⟨fun hall hn => (rollsBack_iff hn).mp (hall.2 hn),
    fun hc => ⟨setupPipeline_complete, fun hn => (rollsBack_iff hn).mpr (hc hn)⟩⟩

/-- One profile, and its tee pad does not link: its appsink can still be asked for. -/
theorem setupPipeline_padLink_fails :
    let h := ((ProfileHost.new [{ name := ascii "hd" }]).setVideoSource (some .TestVideoSource)).2
    ¬ h.AllOrNothing (setupPipeline ⟨fun c => c == .padLink 0, fun _ _ => false⟩ h .init) := by
  intro h hall
  have hn : h.NotSetUp := notSetUp_iff.mpr ⟨rfl, fun name => by
    unfold appSinkForProfile find h
    cases hname : (ascii "hd" == name) <;> simp [ProfileHost.new, setVideoSource, hname]⟩
  have hsink := (hall.2 hn (by decide +kernel)).appSink (ascii "hd")
  revert hsink
  decide +kernel

end

end ProfileHost

end CameraPlatform
