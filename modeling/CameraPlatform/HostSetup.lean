import CameraPlatform.ProfileHost
import Mathlib.Data.List.Forall2

/-!
# What `setupPipeline` does

The loop over the branches is characterised by its calls and the names of the bins: branch `k` is
linked unless one of its calls fails or its bin is named like an earlier child of the pipeline.
-/

namespace CameraPlatform
open ByteString RefHeap

namespace ProfileHost

section Branches
variable {faults : SetupFaults} {p tee : Nat}

/-- The pipeline has a child of this name. -/
def Taken (p : Nat) (g : Gst) (name : Bytes) : Prop := ∃ r, g.owner r = some p ∧ g.name r = name

/-- The tee is a child of the pipeline. -/
structure Shared (p tee : Nat) (g : Gst) : Prop where
  pipeline_lt : p < g.next
  tee_lt : tee < g.next
  owner : g.owner tee = some p

theorem Shared.mono {g g' : Gst} (h : Shared p tee g) (hg : g.Grew g') : Shared p tee g' :=
  ⟨Nat.lt_of_lt_of_le h.pipeline_lt hg.next_le, Nat.lt_of_lt_of_le h.tee_lt hg.next_le,
    (hg.owner_eq h.tee_lt).trans h.owner⟩

/-- Adding and linking a finished branch: the name decides, unless the link is made to fail. -/
theorem addBranch_cases {g g' : Gst} {b : ProfileBin} {n : Nat} (fails : Bool) (hg : g.Grew g') (hn : g.next = n)
    (hs : Shared p tee g) (hb : b.Branch n g') (hfree : g'.owner n = none) :
    (((g'.binAdd p n).padLink fails tee n).1 = true ∧ fails = false ∧ ¬ Taken p g' (g'.name n) ∧
      (∀ x, ((g'.binAdd p n).padLink fails tee n).2.owner x = if x = n then some p else g'.owner x) ∧
      ((g'.binAdd p n).padLink fails tee n).2.links = g'.links ++ [(tee, n)] ∧
      ((g'.binAdd p n).padLink fails tee n).2.failures = g'.failures) ∨
    (((g'.binAdd p n).padLink fails tee n).1 = false ∧ (fails = true ∨ Taken p g' (g'.name n)) ∧
      g'.failures < ((g'.binAdd p n).padLink fails tee n).2.failures) := by
  have hs' := hs.mono hg
  have hnlt : n < g'.next := Nat.lt_of_lt_of_le (by omega) hb.room
  have hne : n ≠ p := by have := hs.pipeline_lt; omega
  have hghost : ((g'.binAdd p n).obj n).bind (·.ghostSink) = some (n + 3) := by
    rw [Gst.obj_binAdd]; exact hb.ghost
  by_cases htaken : g'.nameTaken p n = true
  · right
    obtain ⟨hfail, howner⟩ := Gst.binAdd_taken htaken
    have hnone : (g'.binAdd p n).owner n = none := by
      by_contra hne'
      obtain ⟨q, hq⟩ := Option.ne_none_iff_exists'.mp hne'
      rw [howner n q hq] at hfree
      cases hfree
    have hsame : (g'.binAdd p n).sameBin tee n = false := by
      rw [Gst.sameBin, hnone]
      cases (g'.binAdd p n).owner tee <;> rfl
    refine ⟨by simp [Gst.padLink, hsame], .inr (Gst.nameTaken_iff.mp htaken), ?_⟩
    simp only [Gst.padLink, hsame, Bool.and_false, Bool.false_eq_true, if_false]
    exact Nat.lt_succ_of_lt hfail
  · have hname : ∀ r, g'.owner r = some p → g'.name r ≠ g'.name n := fun r hr hrn =>
      htaken (Gst.nameTaken_iff.mpr ⟨r, hr, hrn⟩)
    have howner := Gst.owner_binAdd hs'.pipeline_lt hnlt hne hfree hname
    have htee : (g'.binAdd p n).owner tee = some p := by
      rw [howner, if_neg (by have := hs.tee_lt; omega)]; exact hs'.owner
    have hsame : (g'.binAdd p n).sameBin tee n = true := by
      rw [Gst.sameBin, htee, howner, if_pos rfl]; simp
    have hfail : (g'.binAdd p n).failures = g'.failures := by
      rw [Gst.binAdd_eq hne hfree hname]; rfl
    have hlinks : (g'.binAdd p n).links = g'.links := by
      rw [Gst.binAdd_eq hne hfree hname]; rfl
    cases fails with
    | false =>
      left
      have hlink : (g'.binAdd p n).padLink false tee n =
          (true, { g'.binAdd p n with links := (g'.binAdd p n).links ++ [(tee, n)] }) := by
        rw [Gst.padLink, if_pos (by rw [hghost, hsame]; rfl)]
      rw [hlink]
      exact ⟨rfl, rfl, fun h => htaken (Gst.nameTaken_iff.mpr h), howner, by rw [hlinks], hfail⟩
    | true =>
      right
      refine ⟨rfl, .inl rfl, ?_⟩
      show _ < Gst.failures _ + 1
      omega

/-- A branch that is added takes no link back. -/
theorem mem_links_addBranch {g : Gst} {l : Nat × Nat} (hl : l ∈ g.links) (fails : Bool) (n : Nat) :
    l ∈ ((g.binAdd p n).padLink fails tee n).2.links := by
  have hadd : l ∈ (g.binAdd p n).links := by
    unfold Gst.binAdd
    split
    · exact hl
    · split <;> exact hl
  unfold Gst.padLink
  split
  · exact List.mem_append_left _ hadd
  · exact hadd

theorem Taken.mono {g g' : Gst} {name : Bytes} (h : Taken p g name) (hg : g.Grew g') : Taken p g' name := by
  obtain ⟨r, hr, hn⟩ := h
  have hlt := Gst.lt_of_owner hr
  exact ⟨r, (hg.owner_eq hlt).trans hr, (Gst.name_congr r (hg.obj_eq hlt)).trans hn⟩

/-- Objects of a new branch are no children of the pipeline yet. -/
theorem taken_created {g g' : Gst} (hg : g.Grew g') (hp : p < g.next)
    (howner : ∀ x q, g'.owner x = some q → g.owner x = some q ∨ q = g.next) (name : Bytes) :
    Taken p g' name ↔ Taken p g name := by
  constructor
  · rintro ⟨r, hr, hn⟩
    rcases howner r p hr with hr | hr
    · exact ⟨r, hr, (Gst.name_congr r (hg.obj_eq (Gst.lt_of_owner hr))).symm.trans hn⟩
    · omega
  · exact fun h => h.mono hg

/-- The name of a new child joins the others. -/
theorem taken_added {g g' : Gst} {n : Nat} (hname : ∀ x, g'.name x = g.name x)
    (howner : ∀ x, g'.owner x = if x = n then some p else g.owner x) (hfree : g.owner n = none) (name : Bytes) :
    Taken p g' name ↔ Taken p g name ∨ name = g.name n := by
  constructor
  · rintro ⟨r, hr, hn⟩
    rw [hname] at hn
    rw [howner] at hr
    split at hr
    · next hrn => exact .inr (by rw [← hn, hrn])
    · exact .inl ⟨r, hr, hn⟩
  · rintro (⟨r, hr, hn⟩ | rfl)
    · refine ⟨r, ?_, (hname r).trans hn⟩
      rw [howner, if_neg (fun h => by rw [h, hfree] at hr; cases hr)]
      exact hr
    · exact ⟨n, by rw [howner, if_pos rfl], hname n⟩

variable {k : Nat} {b : ProfileBin} {bs : List ProfileBin} {g : Gst}

/-- One turn of the loop that links its branch. -/
structure Linked (faults : SetupFaults) (p tee k : Nat) (b b' : ProfileBin) (g g' : Gst) : Prop where
  calls : (∀ c, faults.bin k c = false) ∧ faults.host (.padLink k) = false
  free : ¬ Taken p g (ProfileBin.binName b.profile)
  profile : b'.profile = b.profile
  branch : b'.Branch g.next g'
  grew : g.Grew g'
  failures : g'.failures = g.failures
  link : (tee, g.next) ∈ g'.links
  taken : ∀ name, Taken p g' name ↔ Taken p g name ∨ name = ProfileBin.binName b.profile

variable (faults k b bs) in
/-- The loop stops at a failing `createElement`, stops at a failing pad link, or goes on. -/
theorem setupBranches_cons (hs : Shared p tee g) :
    (∃ g', setupBranches faults p tee k (b :: bs) g = (some "Failed to create profile bin element",
        { b with bin := none, valve := none, appSink := none } :: bs, g') ∧
      (∃ c, faults.bin k c = true) ∧ g.failures < g'.failures) ∨
    (∃ b' g', setupBranches faults p tee k (b :: bs) g =
        (some "Failed to link tee pad to profile bin sink pad", b' :: bs, g') ∧
      (∀ c, faults.bin k c = false) ∧
      (faults.host (.padLink k) = true ∨ Taken p g (ProfileBin.binName b.profile)) ∧
      b'.profile = b.profile ∧ b'.Branch g.next g' ∧ g.failures < g'.failures) ∨
    ∃ b' g', setupBranches faults p tee k (b :: bs) g =
        ((setupBranches faults p tee (k + 1) bs g').1, b' :: (setupBranches faults p tee (k + 1) bs g').2.1,
          (setupBranches faults p tee (k + 1) bs g').2.2) ∧ Linked faults p tee k b b' g g' := by
  by_cases hbin : ∀ c, faults.bin k c = false
  · obtain ⟨b', g1, hres, hprofile, hbranch, hfail, hfree, howner⟩ :=
      @ProfileBin.createElement_ok (faults.bin k) b g hbin
    have hgrew : g.Grew g1 := by
      have := @ProfileBin.grew_createElement (faults.bin k) b g
      rwa [hres] at this
    have htaken := taken_created (p := p) hgrew hs.pipeline_lt howner
    have hname : g1.name g.next = ProfileBin.binName b.profile := hprofile ▸ hbranch.name
    have hlinked : b'.Branch g.next ((g1.binAdd p g.next).padLink (faults.host (.padLink k)) tee g.next).2 :=
      hbranch.congr (fun x _ => by simp) (by simp) fun l hl => mem_links_addBranch hl ..
    right
    rcases addBranch_cases (faults.host (.padLink k)) hgrew rfl hs hbranch hfree with
      ⟨hok, hf, hnot, howner', hlinks, hfail'⟩ | ⟨hok, hwhy, hlt⟩
    · right
      rw [hname, htaken] at hnot
      have hnext : g.next < g1.next := Nat.lt_of_lt_of_le (by omega) hbranch.room
      have hgrew' : g.Grew ((g1.binAdd p g.next).padLink (faults.host (.padLink k)) tee g.next).2 :=
        (hgrew.binAdd (Nat.le_refl _) p).padLink ..
      refine ⟨b', _, ?_, ⟨hbin, hf⟩, hnot, hprofile, hlinked, hgrew', hfail'.trans hfail, ?_, ?_⟩
      · rw [setupBranches, hres]
        simp only [hok, if_true]
      · rw [hlinks]; simp
      · intro name
        rw [← htaken, ← hname]
        exact taken_added (fun x => Gst.name_congr x (by simp)) howner' hfree name
    · left
      refine ⟨b', _, ?_, hbin, ?_, hprofile, hlinked, Nat.lt_of_le_of_lt (Nat.le_of_eq hfail.symm) hlt⟩
      · rw [setupBranches, hres]
        simp only [hok, Bool.false_eq_true, if_false]
      · rw [hname, htaken] at hwhy
        exact hwhy
  · left
    have hc : ∃ c, faults.bin k c = true := by simpa using hbin
    obtain ⟨hnone, hb, hlt⟩ := @ProfileBin.createElement_error (faults.bin k) b g hc
    refine ⟨_, ?_, hc, hlt⟩
    rw [setupBranches]
    generalize b.createElement (faults.bin k) g = res at hnone hb
    obtain ⟨o, b1, g1⟩ := res
    obtain rfl : o = none := hnone
    obtain rfl : b1 = _ := hb
    rfl

variable (faults k bs) in
/-- The catalog stays as it is. -/
theorem setupBranches_profiles (hs : Shared p tee g) :
    (setupBranches faults p tee k bs g).2.1.map (·.profile) = bs.map (·.profile) := by
  induction bs generalizing k g with
  | nil => rfl
  | cons b bs ih =>
    rcases setupBranches_cons faults k b bs hs with
      ⟨g', heq, -⟩ | ⟨b', g', heq, -, -, hprofile, -⟩ | ⟨b', g', heq, hl⟩
    · rw [heq]; rfl
    · rw [heq]; simp [hprofile]
    · rw [heq, List.map_cons, List.map_cons, ih (k + 1) (hs.mono hl.grew), hl.profile]

variable (faults k bs) in
/-- A loop that stops has seen a call fail. -/
theorem setupBranches_failed (hs : Shared p tee g) (h : (setupBranches faults p tee k bs g).1 ≠ none) :
    g.failures < (setupBranches faults p tee k bs g).2.2.failures := by
  induction bs generalizing k g with
  | nil => exact absurd rfl h
  | cons b bs ih =>
    rcases setupBranches_cons faults k b bs hs with
      ⟨g', heq, -, hlt⟩ | ⟨b', g', heq, -, -, -, -, hlt⟩ | ⟨b', g', heq, hl⟩
    · rw [heq]; exact hlt
    · rw [heq]; exact hlt
    · rw [heq] at h ⊢
      rw [← hl.failures]
      exact ih (k + 1) (hs.mono hl.grew) h

/-- The branches of `bs` built in order, each linked to the tee. -/
structure Built (tee start : Nat) (bs : List ProfileBin) (g : Gst) (ns : List Nat) : Prop where
  branches : List.Forall₂ (fun b n => b.Branch n g) bs ns
  apart : ns.Pairwise fun m n => m + 7 ≤ n
  start_le : ∀ n ∈ ns, start ≤ n
  links : ∀ n ∈ ns, (tee, n) ∈ g.links

theorem Built.branch {start : Nat} {ns : List Nat} (h : Built tee start bs g ns) {i : Nat}
    (hb : bs[i]? = some b) : ∃ n, ns[i]? = some n ∧ b.Branch n g ∧ start ≤ n ∧ (tee, n) ∈ g.links := by
  have hbranches := List.forall₂_iff_get.mp h.branches
  obtain ⟨hi, rfl⟩ := List.getElem?_eq_some_iff.mp hb
  have hi' : i < ns.length := hbranches.1 ▸ hi
  have hmem : ns[i] ∈ ns := List.getElem_mem hi'
  exact ⟨ns[i], List.getElem?_eq_getElem hi', hbranches.2 i hi hi', h.start_le _ hmem, h.links _ hmem⟩

variable (faults k bs) in
/-- A loop that reaches its end has built and linked every branch. -/
theorem setupBranches_ok (hs : Shared p tee g) (h : (setupBranches faults p tee k bs g).1 = none) :
    ∃ ns, Built tee g.next (setupBranches faults p tee k bs g).2.1 (setupBranches faults p tee k bs g).2.2 ns ∧
      g.Grew (setupBranches faults p tee k bs g).2.2 := by
  induction bs generalizing k g with
  | nil => exact ⟨[], ⟨.nil, .nil, by simp, by simp⟩, .refl⟩
  | cons b bs ih =>
    rcases setupBranches_cons faults k b bs hs with
      ⟨g', heq, -⟩ | ⟨b', g', heq, -⟩ | ⟨b', g', heq, hl⟩
    · rw [heq] at h; cases h
    · rw [heq] at h; cases h
    · rw [heq] at h ⊢
      obtain ⟨ns, hns, hgrew⟩ := ih (k + 1) (hs.mono hl.grew) h
      have hroom := hl.branch.room
      refine ⟨g.next :: ns, ⟨.cons (hl.branch.mono hgrew) hns.branches, ?_, ?_, ?_⟩, hl.grew.trans hgrew⟩
      · exact List.pairwise_cons.mpr ⟨fun n hn => Nat.le_trans hroom (hns.start_le n hn), hns.apart⟩
      · intro n hn
        rcases List.mem_cons.mp hn with rfl | hn
        · exact Nat.le_refl _
        · exact Nat.le_trans hl.grew.next_le (hns.start_le n hn)
      · intro n hn
        rcases List.mem_cons.mp hn with rfl | hn
        · exact hgrew.links _ hl.link
        · exact hns.links n hn

/-- No call of the branches from `k` on fails, and their bins can be named. -/
structure Goes (faults : SetupFaults) (p k : Nat) (bs : List ProfileBin) (g : Gst) : Prop where
  calls : ∀ i < bs.length, (∀ c, faults.bin (k + i) c = false) ∧ faults.host (.padLink (k + i)) = false
  names : (bs.map fun b => ProfileBin.binName b.profile).Nodup
  free : ∀ b ∈ bs, ¬ Taken p g (ProfileBin.binName b.profile)

theorem Goes.tail {b' : ProfileBin} {g' : Gst} (hl : Linked faults p tee k b b' g g') :
    Goes faults p k (b :: bs) g ↔ Goes faults p (k + 1) bs g' := by
  constructor
  · intro h
    obtain ⟨hnot, hnames⟩ := List.nodup_cons.mp h.names
    refine ⟨fun i hi => ?_, hnames, fun c hc => ?_⟩
    · have := h.calls (i + 1) (by simpa using hi)
      rwa [show k + 1 + i = k + (i + 1) by omega]
    · rw [hl.taken]
      rintro (htaken | heq)
      · exact h.free c (List.mem_cons_of_mem _ hc) htaken
      · exact hnot (List.mem_map.mpr ⟨c, hc, heq⟩)
  · intro h
    refine ⟨fun i hi => ?_, List.nodup_cons.mpr ⟨fun hmem => ?_, h.names⟩, fun c hc => ?_⟩
    · cases i with
      | zero => exact hl.calls
      | succ i =>
        have := h.calls i (by simpa using hi)
        rwa [show k + (i + 1) = k + 1 + i by omega]
    · obtain ⟨c, hc, heq⟩ := List.mem_map.mp hmem
      exact h.free c hc ((hl.taken _).mpr (.inr heq))
    · rcases List.mem_cons.mp hc with rfl | hc
      · exact hl.free
      · exact fun htaken => h.free c hc ((hl.taken _).mpr (.inl htaken))

variable (faults k bs) in
/-- The loop reaches its end exactly when no call fails and no two bins share a name. -/
theorem setupBranches_iff (hs : Shared p tee g) :
    (setupBranches faults p tee k bs g).1 = none ↔ Goes faults p k bs g := by
  induction bs generalizing k g with
  | nil => exact ⟨fun _ => ⟨by simp, .nil, by simp⟩, fun _ => rfl⟩
  | cons b bs ih =>
    rcases setupBranches_cons faults k b bs hs with
      ⟨g', heq, ⟨c, hc⟩, -⟩ | ⟨b', g', heq, -, hwhy, -⟩ | ⟨b', g', heq, hl⟩
    · rw [heq]
      refine ⟨fun h => (by cases h), fun h => ?_⟩
      have := (h.calls 0 (by simp)).1 c
      rw [Nat.add_zero, hc] at this
      cases this
    · rw [heq]
      refine ⟨fun h => (by cases h), fun h => ?_⟩
      rcases hwhy with hf | htaken
      · have := (h.calls 0 (by simp)).2
        rw [Nat.add_zero, hf] at this
        cases this
      · exact absurd htaken (h.free b (by simp))
    · rw [heq, Goes.tail hl]
      exact ih (k + 1) (hs.mono hl.grew)

variable (faults k b bs) in
/-- The first profile keeps an appsink exactly when its own elements could be made. -/
theorem setupBranches_head (hs : Shared p tee g) :
    ∃ b' bs', (setupBranches faults p tee k (b :: bs) g).2.1 = b' :: bs' ∧
      (b'.appSink = none ↔ ∃ c, faults.bin k c = true) ∧
      ((∃ c, faults.bin k c = true) → bs' = bs ∧ (setupBranches faults p tee k (b :: bs) g).1 ≠ none) := by
  rcases setupBranches_cons faults k b bs hs with
    ⟨g', heq, hc, -⟩ | ⟨b', g', heq, hok, -, -, hbranch, -⟩ | ⟨b', g', heq, hl⟩
  · rw [heq]
    exact ⟨_, _, rfl, ⟨fun _ => hc, fun _ => rfl⟩, fun _ => ⟨rfl, by simp⟩⟩
  · rw [heq]
    have hnot : ¬ ∃ c, faults.bin k c = true := fun ⟨c, hc⟩ => by rw [hok c] at hc; cases hc
    exact ⟨_, _, rfl, ⟨fun h => (by rw [hbranch.appSink] at h; cases h), fun h => absurd h hnot⟩, fun h => absurd h hnot⟩
  · rw [heq]
    have hnot : ¬ ∃ c, faults.bin k c = true := fun ⟨c, hc⟩ => by rw [hl.calls.1 c] at hc; cases hc
    exact ⟨_, _, rfl, ⟨fun h => (by rw [hl.branch.appSink] at h; cases h), fun h => absurd h hnot⟩,
      fun h => absurd h hnot⟩

end Branches

/-! ### The shared elements -/

/-- The calls that make the shared elements. -/
def makeCalls : List HostCall := [.pipeline, .source, .videoConvert, .sourceCaps, .tee]

/-- The pointers to the shared elements are null. -/
def clear (h : ProfileHost) : ProfileHost :=
  { h with pipeline := none, source := none, videoConvert := none, sourceCaps := none, tee := none,
           isLinked := false }

def sourceObject : VideoSource → GObject
  | .TestVideoSource => { type := ascii "videotestsrc", name := ascii "test-source" }
  | .CameraVideoSource => { type := ascii "v4l2src", name := ascii "camera-source" }

/-- The elements made after the pipeline. -/
def sharedParts (source : VideoSource) : List GObject :=
  [sourceObject source, { type := ascii "videoconvert", name := ascii "video-convert" },
    { type := ascii "capsfilter", name := ascii "source-caps" }, { type := ascii "tee", name := ascii "tee" }]

section Shared
variable {faults : SetupFaults} {h : ProfileHost} {g : Gst} {source : VideoSource}

/-- With all elements made, the pipeline and its bus come first. -/
theorem setupPipeline_made (hsource : h.videoSource = some source) (hpipeline : h.pipeline = none)
    (hmade : ∀ c ∈ makeCalls, faults.host c = false) :
    setupPipeline faults h g =
      setupElements faults
        { h with pipeline := some g.next, source := some (g.next + 2), videoConvert := some (g.next + 3),
                 sourceCaps := some (g.next + 4), tee := some (g.next + 5) }
        g.next (g.next + 2) (g.next + 3) (g.next + 4) (g.next + 5)
        ((g.pipelineNew false (ascii "pipeline")).2.allocAll (sharedParts source)) := by
  have h1 := hmade .pipeline (by decide)
  have h2 := hmade .source (by decide)
  have h3 := hmade .videoConvert (by decide)
  have h4 := hmade .sourceCaps (by decide)
  have h5 := hmade .tee (by decide)
  cases source <;>
  · simp only [setupPipeline, hsource, hpipeline, Option.isSome_none, Bool.false_eq_true, if_false, h1, h2, h3, h4,
      h5, Gst.pipelineNew, VideoSource.createElement, Gst.factoryMake, Gst.next_setOwner, Gst.next_alloc]
    rfl

theorem failures_cleanup (h : ProfileHost) (g : Gst) : (h.cleanup g).2.failures = g.failures := by
  unfold cleanup
  cases h.isLinked with
  | true => cases hp : h.pipeline <;> simp [Gst.setState, Gst.update]
  | false => simp

theorem createElement_fst_true : (source.createElement true g).1 = none := by cases source <;> rfl

theorem failures_createElement (fails : Bool) :
    (source.createElement fails g).2.failures = g.failures + fails.toNat := by
  cases source <;> exact Gst.failures_factoryMake ..

variable (faults source h g) in
/-- The elements `setupPipeline` gets before it looks whether they are all there. -/
def create : ProfileHost × Gst :=
  let (pipeline, g) := g.pipelineNew (faults.host .pipeline) (ascii "pipeline")
  let (src, g) := source.createElement (faults.host .source) g
  let (videoConvert, g) := g.factoryMake (faults.host .videoConvert) (ascii "videoconvert") (ascii "video-convert")
  let (sourceCaps, g) := g.factoryMake (faults.host .sourceCaps) (ascii "capsfilter") (ascii "source-caps")
  let (tee, g) := g.factoryMake (faults.host .tee) (ascii "tee") (ascii "tee")
  ({ h with pipeline, source := src, videoConvert, sourceCaps, tee }, g)

variable (faults source g) in
theorem grew_createSource : g.Grew (source.createElement (faults.host .source)
    (g.pipelineNew (faults.host .pipeline) (ascii "pipeline")).2).2 := by
  have hpipe : g.Grew (g.pipelineNew (faults.host .pipeline) (ascii "pipeline")).2 := Gst.Grew.refl.pipelineNew ..
  cases source <;> exact hpipe.factoryMake ..

variable (faults source h g) in
theorem grew_create : g.Grew (create faults h g source).2 :=
  (((grew_createSource faults g source).factoryMake ..).factoryMake ..).factoryMake ..

variable (faults source h g) in
/-- Neither the pipeline nor the capsfilter was there before. -/
theorem create_new : (∀ p ∈ (create faults h g source).1.pipeline, g.next ≤ p) ∧
    ∀ c ∈ (create faults h g source).1.sourceCaps, g.next ≤ c := by
  refine ⟨fun p hp => ?_, fun c hc => ?_⟩
  · change p ∈ (g.pipelineNew (faults.host .pipeline) (ascii "pipeline")).1 at hp
    cases hf : faults.host .pipeline with
    | true => rw [hf] at hp; cases hp
    | false => rw [hf] at hp; cases hp; exact Nat.le_refl _
  · exact ((grew_createSource faults g source).factoryMake ..).factoryMake_le _ _ _ c hc

/-- A guard that turns the call away changes nothing. -/
theorem setupPipeline_refused (hwhy : h.videoSource = none ∨ h.pipeline.isSome = true) :
    ∃ reason, (ascii reason).isEmpty = false ∧ setupPipeline faults h g = (.failure reason, h, g) := by
  unfold setupPipeline
  split
  · exact ⟨"Video source not set", rfl, rfl⟩
  · next source hsource =>
    rcases hwhy with hnone | hset
    · rw [hsource] at hnone; cases hnone
    · exact ⟨"Pipeline already set up", rfl, if_pos hset⟩

variable (faults h g) in
/-- The call is turned away, or takes back what it created, or goes on with all of it. -/
theorem setupPipeline_shape :
    ((h.videoSource = none ∨ h.pipeline.isSome = true) ∧
      ∃ reason, (ascii reason).isEmpty = false ∧ setupPipeline faults h g = (.failure reason, h, g)) ∨
    ∃ source, h.videoSource = some source ∧ h.pipeline = none ∧
      (setupPipeline faults h g = (.failure "Failed to create GStreamer elements",
        (create faults h g source).1.cleanup (create faults h g source).2) ∨
      ∃ p s v c t, (create faults h g source).1 = { h with
          pipeline := some p, source := some s, videoConvert := some v, sourceCaps := some c, tee := some t } ∧
        setupPipeline faults h g =
          setupElements faults (create faults h g source).1 p s v c t (create faults h g source).2) := by
  by_cases hwhy : h.videoSource = none ∨ h.pipeline.isSome = true
  · exact .inl ⟨hwhy, setupPipeline_refused hwhy⟩
  · obtain ⟨hsome, hnone⟩ := not_or.mp hwhy
    obtain ⟨source, hsource⟩ := Option.ne_none_iff_exists'.mp hsome
    refine .inr ⟨source, hsource, by simpa using hnone, ?_⟩
    unfold setupPipeline create
    simp only [hsource, hnone, Bool.false_eq_true, if_false]
    split
    · next p s v c t hp hs hv hc ht =>
      refine .inr ⟨p, s, v, c, t, ?_, ?_⟩
      · rw [hp, hs, hv, hc, ht]
      · rw [hp, hs, hv, hc, ht]
    · exact .inl rfl

/-- If one of them cannot be made, `cleanup` takes back the others. -/
theorem setupPipeline_rollback (hsource : h.videoSource = some source) (hpipeline : h.pipeline = none)
    (hfail : ∃ c ∈ makeCalls, faults.host c = true) :
    setupPipeline faults h g = (.failure "Failed to create GStreamer elements",
      (create faults h g source).1.cleanup (create faults h g source).2) := by
  obtain ⟨c, hc, hf⟩ := hfail
  simp only [makeCalls, List.mem_cons, List.not_mem_nil, or_false] at hc
  unfold setupPipeline
  simp only [hsource, hpipeline, Option.isSome_none, Bool.false_eq_true, if_false]
  split
  · next h1 h2 h3 h4 h5 =>
    rcases hc with rfl | rfl | rfl | rfl | rfl <;>
      simp [hf, Gst.pipelineNew, Gst.factoryMake, createElement_fst_true] at h1 h2 h3 h4 h5
  · rw [← hsource]; rfl

/-- A host whose elements could not be made has only null pointers to them. -/
theorem setupPipeline_unmade (hsource : h.videoSource = some source) (hpipeline : h.pipeline = none)
    (hfail : ∃ c ∈ makeCalls, faults.host c = true) :
    (setupPipeline faults h g).1.ok = false ∧ (setupPipeline faults h g).2.1 = h.clear ∧
      g.failures < (setupPipeline faults h g).2.2.failures := by
  rw [setupPipeline_rollback hsource hpipeline hfail]
  refine ⟨rfl, rfl, ?_⟩
  simp only [failures_cleanup, create, Gst.failures_factoryMake, failures_createElement, Gst.failures_pipelineNew]
  obtain ⟨c, hc, hf⟩ := hfail
  simp only [makeCalls, List.mem_cons, List.not_mem_nil, or_false] at hc
  have hone : (faults.host c).toNat = 1 := by rw [hf]; rfl
  rcases hc with rfl | rfl | rfl | rfl | rfl <;> omega

/-- The names in the pipeline before the first branch is added. -/
def sharedNames (source : VideoSource) : List Bytes := [] :: (sharedParts source).map (·.name)

theorem binName_not_shared (profile : ProfileInfo) : ProfileBin.binName profile ∉ sharedNames source := by
  have hname : ProfileBin.binName profile = ascii "profile-" ++ cStr profile.name := by
    simp [ProfileBin.binName, cStr, ascii]
  rw [hname]
  cases source <;> simp [sharedNames, sharedParts, sourceObject, ascii]

/-- The shared elements all go into the pipeline. -/
theorem fits_shared {g₁ g₂ : Gst} (hg₁ : g₁ = (g.pipelineNew false (ascii "pipeline")).2)
    (hset : (g₁.allocAll (sharedParts source)).SetOnly g₂) :
    g₂.Fits g.next [g.next + 2, g.next + 3, g.next + 4, g.next + 5] ∧
      (∀ r, g₂.owner r = some g.next → g₂.name r = []) ∧
      [g.next + 2, g.next + 3, g.next + 4, g.next + 5].map g₂.name = (sharedParts source).map (·.name) := by
  obtain ⟨hnext, -, -, hbus, howner⟩ := Gst.pipelineNew_spec (g := g) (ascii "pipeline")
  rw [← hg₁] at hnext hbus howner
  have hnext₂ : g₂.next = g.next + 6 := by rw [hset.next, Gst.next_allocAll, hnext]; rfl
  have howner₂ : ∀ x, g₂.owner x = if x = g.next + 1 then some g.next else g.owner x := fun x => by
    rw [hset.owner, Gst.owner_allocAll, howner]
  have hname : ∀ k, (hk : k < 4) → g₂.name (g.next + 2 + k) = ((sharedParts source)[k]).name := by
    intro k hk
    have hobj := Gst.obj_allocAll (g := g₁) (sharedParts source) hk
    rw [List.getElem?_eq_getElem hk, hnext] at hobj
    exact hset.name hobj
  have hbus₂ : ∀ r, g₂.owner r = some g.next → g₂.name r = [] := by
    intro r hr
    rw [howner₂] at hr
    split at hr
    · next hr' =>
      refine hr' ▸ hset.name (o := { type := ascii "bus" }) ?_
      rw [Gst.obj_allocAll_of_lt _ (by omega)]
      exact hbus
    · exact absurd (Gst.owner_lt_next hr) (Nat.lt_irrefl _)
  have h0 := hname 0 (by decide)
  have h1 := hname 1 (by decide)
  have h2 := hname 2 (by decide)
  have h3 := hname 3 (by decide)
  have hmap : [g.next + 2, g.next + 3, g.next + 4, g.next + 5].map g₂.name =
      (sharedParts source).map (·.name) := by
    simp only [List.map_cons, List.map_nil]
    rw [show g.next + 2 = g.next + 2 + 0 from rfl, h0, show g.next + 3 = g.next + 2 + 1 from rfl, h1,
      show g.next + 4 = g.next + 2 + 2 from rfl, h2, show g.next + 5 = g.next + 2 + 3 from rfl, h3]
    rfl
  refine ⟨Gst.fits_of_names (by omega) (fun e he => ?_) hmap (by cases source <;> decide)
    (by cases source <;> decide) hbus₂, hbus₂, hmap⟩
  simp only [List.mem_cons, List.not_mem_nil, or_false] at he
  refine ⟨by omega, by omega, ?_⟩
  rw [howner₂, if_neg (by omega)]
  exact Gst.owner_eq_none (by omega)

/-- The shared elements, configured and added. -/
theorem sharedParts_added {g₂ : Gst} (hg₂ : ((g.pipelineNew false (ascii "pipeline")).2.allocAll
      (sharedParts source)).setObject (g.next + 4) (ascii "caps") (.caps (VideoCaps.toGstCaps {})) = g₂) :
    g.Grew (g₂.binAddMany g.next [g.next + 2, g.next + 3, g.next + 4, g.next + 5]) ∧
      (g₂.binAddMany g.next [g.next + 2, g.next + 3, g.next + 4, g.next + 5]).next = g.next + 6 ∧
      (g₂.binAddMany g.next [g.next + 2, g.next + 3, g.next + 4, g.next + 5]).failures = g.failures ∧
      (∀ e ∈ [g.next + 2, g.next + 3, g.next + 4, g.next + 5],
        (g₂.binAddMany g.next [g.next + 2, g.next + 3, g.next + 4, g.next + 5]).owner e = some g.next) ∧
      ∀ name, Taken g.next (g₂.binAddMany g.next [g.next + 2, g.next + 3, g.next + 4, g.next + 5]) name →
        name ∈ sharedNames source := by
  obtain ⟨hnext₁, hfail₁, -⟩ := Gst.pipelineNew_spec (g := g) (ascii "pipeline")
  have hgrew₁ : g.Grew (g.pipelineNew false (ascii "pipeline")).2 := Gst.Grew.refl.pipelineNew ..
  generalize hg₁ : (g.pipelineNew false (ascii "pipeline")).2 = g₁ at hnext₁ hfail₁ hgrew₁ hg₂
  have hset : (g₁.allocAll (sharedParts source)).SetOnly g₂ := hg₂ ▸ Gst.SetOnly.refl.setObject ..
  have hgrew₂ : g.Grew g₂ := hg₂ ▸ (hgrew₁.allocAll _).setObject (Nat.le_add_right _ _) ..
  obtain ⟨hfits, hbus, hnames⟩ := fits_shared hg₁.symm hset
  obtain ⟨howner, hfail, -⟩ := Gst.binAddMany_spec hfits
  refine ⟨hgrew₂.binAddMany g.next (by simp), ?_, ?_, fun e he => (howner e).trans (if_pos he), ?_⟩
  · rw [Gst.next_binAddMany, hset.next, Gst.next_allocAll, hnext₁]; rfl
  · rw [hfail, hset.failures, Gst.failures_allocAll, hfail₁]
  · rintro name ⟨r, hr, hn⟩
    have hn' : g₂.name r = name := (Gst.name_congr r (Gst.obj_binAddMany ..)).symm.trans hn
    rw [howner] at hr
    split at hr
    · next hmem =>
      refine List.mem_cons_of_mem _ ?_
      rw [← hnames, ← hn']
      exact List.mem_map_of_mem hmem
    · rw [← hn', hbus r hr]
      exact List.mem_cons_self ..

/-- The bus of the new pipeline is empty, and the shared capsfilter has the default caps. -/
theorem sharedParts_configured {g₂ : Gst} (hg₂ : ((g.pipelineNew false (ascii "pipeline")).2.allocAll
      (sharedParts source)).setObject (g.next + 4) (ascii "caps") (.caps (VideoCaps.toGstCaps {})) = g₂) :
    (g₂.obj g.next).bind (·.bus) = some (g.next + 1) ∧ g₂.queue (g.next + 1) = [] ∧
      g₂.prop (g.next + 4) (ascii "caps") = some (.caps (VideoCaps.toGstCaps {})) := by
  obtain ⟨hnext₁, -, hpipe₁, hbus₁, -⟩ := Gst.pipelineNew_spec (g := g) (ascii "pipeline")
  generalize (g.pipelineNew false (ascii "pipeline")).2 = g₁ at hnext₁ hpipe₁ hbus₁ hg₂
  have hset : (g₁.allocAll (sharedParts source)).SetOnly g₂ := hg₂ ▸ Gst.SetOnly.refl.setObject ..
  obtain ⟨props, hpipe⟩ := hset.obj g.next _ ((Gst.obj_allocAll_of_lt _ (by omega)).trans hpipe₁)
  obtain ⟨props', hbus⟩ := hset.obj (g.next + 1) _ ((Gst.obj_allocAll_of_lt _ (by omega)).trans hbus₁)
  refine ⟨by rw [hpipe]; rfl, by rw [Gst.queue, hbus]; rfl, ?_⟩
  have hmade := Gst.obj_allocAll (g := g₁) (sharedParts source) (by decide : 2 < 4)
  rw [hnext₁] at hmade
  rw [← hg₂, Gst.prop_setObject, if_pos ⟨rfl, rfl, by rw [hmade]; rfl⟩]

variable (faults g source) in
/-- The shared elements, added and linked. -/
theorem setupElements_cases (h : ProfileHost) :
    let n := g.next
    let res := setupElements faults h n (n + 2) (n + 3) (n + 4) (n + 5)
      ((g.pipelineNew false (ascii "pipeline")).2.allocAll (sharedParts source))
    (faults.host .link = true ∧ res.1.ok = false ∧ res.2.1 = h ∧ g.failures < res.2.2.failures) ∨
    (faults.host .link = false ∧ ∃ g', Shared n (n + 5) g' ∧ g'.failures = g.failures ∧ g.Grew g' ∧
      (∀ name, Taken n g' name → name ∈ sharedNames source) ∧
      ((g'.obj n).bind (·.bus) = some (n + 1) ∧ g'.queue (n + 1) = [] ∧
        g'.prop (n + 4) (ascii "caps") = some (.caps (VideoCaps.toGstCaps {}))) ∧
      res = h.finishSetup (setupBranches faults n (n + 5) 0 h.profileBins g')) := by
  intro n res
  generalize hg₂ : ((g.pipelineNew false (ascii "pipeline")).2.allocAll (sharedParts source)).setObject (n + 4)
    (ascii "caps") (.caps (VideoCaps.toGstCaps {})) = g₂
  obtain ⟨hgrew, hnext, hfail, howner, htaken⟩ := sharedParts_added hg₂
  obtain ⟨hbus, hqueue, hcaps⟩ := sharedParts_configured hg₂
  have hobj : ∀ x, (g₂.binAddMany n [n + 2, n + 3, n + 4, n + 5]).obj x = g₂.obj x := Gst.obj_binAddMany _ _
  generalize hg₃ : g₂.binAddMany n [n + 2, n + 3, n + 4, n + 5] = g₃ at *
  cases hlink : faults.host .link with
  | true =>
    left
    have heq : res = (.failure "Failed to link GStreamer elements", h, g₃.fail) := by
      simp only [res, setupElements, hg₂, hg₃, hlink, Gst.linkMany, if_true, Bool.false_eq_true, if_false]
    rw [heq]
    exact ⟨rfl, rfl, rfl, hfail ▸ Nat.lt_succ_self _⟩
  | false =>
    right
    have hpairs := @Gst.linkPairs_eq g₃ n [n + 2, n + 3, n + 4, n + 5] howner
    refine ⟨rfl, { g₃ with links := g₃.links ++ [n + 2, n + 3, n + 4, n + 5].zip [n + 3, n + 4, n + 5] },
      ⟨?_, ?_, ?_⟩, hfail, ?_, htaken, ⟨?_, ?_, ?_⟩, ?_⟩
    · exact Nat.lt_of_lt_of_eq (by omega) hnext.symm
    · exact Nat.lt_of_lt_of_eq (by omega) hnext.symm
    · exact howner (n + 5) (by simp [n])
    · have := hgrew.linkPairs [n + 2, n + 3, n + 4, n + 5]
      rwa [hpairs] at this
    · show (g₃.obj n).bind _ = _
      rw [hobj]; exact hbus
    · show ((g₃.obj (n + 1)).map _).getD [] = _
      rw [hobj]; exact hqueue
    · show (g₃.obj (n + 4)).bind _ = _
      rw [hobj]; exact hcaps
    · simp only [res, setupElements, hg₂, hg₃, hlink, Gst.linkMany, hpairs, if_true, Bool.false_eq_true, if_false]
      rfl

/-- The calls before the loop over the branches. -/
def sharedCalls : List HostCall := .link :: makeCalls

/-- The host when that loop starts, with a pipeline that was made at the address `n`. -/
def withShared (h : ProfileHost) (n : Nat) : ProfileHost :=
  { h with pipeline := some n, source := some (n + 2), videoConvert := some (n + 3), sourceCaps := some (n + 4),
           tee := some (n + 5) }

/-- What the loop starts from. -/
structure Linkable (source : VideoSource) (n : Nat) (g' : Gst) : Prop where
  shared : Shared n (n + 5) g'
  names : ∀ name, Taken n g' name → name ∈ sharedNames source
  bus : (g'.obj n).bind (·.bus) = some (n + 1)
  queue : g'.queue (n + 1) = []
  caps : g'.prop (n + 4) (ascii "caps") = some (.caps (VideoCaps.toGstCaps {}))

variable (g) in
/-- Once the shared elements are linked, the loop decides. -/
theorem setupPipeline_linked (hsource : h.videoSource = some source) (hpipeline : h.pipeline = none)
    (hcalls : ∀ c ∈ sharedCalls, faults.host c = false) :
    ∃ g', Linkable source g.next g' ∧
      setupPipeline faults h g =
        (h.withShared g.next).finishSetup (setupBranches faults g.next (g.next + 5) 0 h.profileBins g') := by
  obtain ⟨hlink, hmade⟩ := List.forall_mem_cons.mp hcalls
  rw [setupPipeline_made hsource hpipeline hmade]
  rcases setupElements_cases faults g source (h.withShared g.next) with
    ⟨hfails, -⟩ | ⟨-, g', hs, -, -, hnames, ⟨hbus, hqueue, hcaps⟩, hres⟩
  · rw [hlink] at hfails; cases hfails
  · exact ⟨g', ⟨hs, hnames, hbus, hqueue, hcaps⟩, hres⟩

theorem setupPipeline_unlinked (hsource : h.videoSource = some source) (hpipeline : h.pipeline = none)
    (hfail : ∃ c ∈ sharedCalls, faults.host c = true) : (setupPipeline faults h g).1.ok = false := by
  by_cases hmade : ∀ c ∈ makeCalls, faults.host c = false
  · rw [setupPipeline_made hsource hpipeline hmade]
    rcases setupElements_cases faults g source (h.withShared g.next) with ⟨-, hno, -⟩ | ⟨hlink, -⟩
    · exact hno
    · obtain ⟨c, hc, hf⟩ := hfail
      rcases List.mem_cons.mp hc with rfl | hc
      · rw [hlink] at hf; cases hf
      · rw [hmade c hc] at hf; cases hf
  · exact (setupPipeline_unmade hsource hpipeline (by simpa using hmade)).1

/-- A setup that succeeds went through its loop. -/
theorem setupPipeline_ok (hok : (setupPipeline faults h g).1.ok = true) :
    ∃ source g', h.videoSource = some source ∧ h.pipeline = none ∧ (∀ c ∈ sharedCalls, faults.host c = false) ∧
      Linkable source g.next g' ∧
      setupPipeline faults h g =
        (h.withShared g.next).finishSetup (setupBranches faults g.next (g.next + 5) 0 h.profileBins g') := by
  rcases setupPipeline_shape faults h g with ⟨-, reason, -, hres⟩ | ⟨source, hsource, hpipeline, -⟩
  · rw [hres] at hok; cases hok
  · by_cases hcalls : ∀ c ∈ sharedCalls, faults.host c = false
    · obtain ⟨g', hl, hres⟩ := setupPipeline_linked g hsource hpipeline hcalls
      exact ⟨source, g', hsource, hpipeline, hcalls, hl, hres⟩
    · rw [setupPipeline_unlinked hsource hpipeline (by simpa using hcalls)] at hok
      cases hok

/-- The watch belongs to other calls. -/
theorem setupPipeline_watch : (setupPipeline faults h g).2.1.watch = h.watch := by
  have hfinish : ∀ (h : ProfileHost) (loop : Option String × List ProfileBin × Gst),
      (h.finishSetup loop).2.1.watch = h.watch := by
    rintro h ⟨_ | reason, bins, g⟩ <;> rfl
  have helements : ∀ (h : ProfileHost) (p s v c t : Nat) (g : Gst),
      (setupElements faults h p s v c t g).2.1.watch = h.watch := by
    intro h p s v c t g
    unfold setupElements
    simp only
    split
    · exact hfinish ..
    · rfl
  rcases setupPipeline_shape faults h g with ⟨-, reason, -, hres⟩ | ⟨source, -, -, hres | ⟨p, s, v, c, t, -, hres⟩⟩
  · rw [hres]
  · rw [hres]; rfl
  · rw [hres]; exact helements ..

theorem ok_finishSetup (loop : Option String × List ProfileBin × Gst) :
    (h.finishSetup loop).1.ok = true ↔ loop.1 = none := by
  obtain ⟨error, bins, g'⟩ := loop
  cases error with
  | none => exact iff_of_true rfl rfl
  | some reason => exact iff_of_false (by rw [finishSetup]; simp) (by simp)

/-- A host with a source and no pipeline is set up exactly when no call fails and no two bins share a name. -/
theorem setupPipeline_iff (hsource : h.videoSource = some source) (hpipeline : h.pipeline = none) :
    (setupPipeline faults h g).1.ok = true ↔
      (∀ c ∈ sharedCalls, faults.host c = false) ∧
        (∀ k < h.profileBins.length, (∀ c, faults.bin k c = false) ∧ faults.host (.padLink k) = false) ∧
        (h.profileBins.map fun b => ProfileBin.binName b.profile).Nodup := by
  by_cases hcalls : ∀ c ∈ sharedCalls, faults.host c = false
  · obtain ⟨g', hl, hres⟩ := setupPipeline_linked g hsource hpipeline hcalls
    rw [hres, ok_finishSetup, setupBranches_iff faults 0 h.profileBins hl.shared, and_iff_right hcalls]
    constructor
    · intro hgoes
      exact ⟨fun k hk => by simpa using hgoes.calls k hk, hgoes.names⟩
    · rintro ⟨hbins, hnames⟩
      refine ⟨fun k hk => by simpa using hbins k hk, hnames, fun b _ htaken => ?_⟩
      exact binName_not_shared b.profile (hl.names _ htaken)
  · refine iff_of_false ?_ fun hc => hcalls hc.1
    rw [setupPipeline_unlinked hsource hpipeline (by simpa using hcalls)]
    simp

end Shared

end ProfileHost

end CameraPlatform
