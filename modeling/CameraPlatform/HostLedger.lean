import CameraPlatform.ApplicationRun
import CameraPlatform.GstLedger

/-!
# The references of a `ProfileHost`

The host holds its pipeline and, for each branch that was built, a reference of the `ProfileBin` to
its bin. The pipeline owns everything else.
-/

namespace CameraPlatform
open ByteString RefHeap History

namespace Gst
namespace Account

variable {g₀ g : Gst} {held : List Nat} {p r : Nat}

/-- A sunk element that is added to a bin keeps its listed reference, whether its name is taken or not. -/
theorem binAdd_sunk (h : Account g₀ g (r :: held)) (hfl : g.heap.floating r = false) (hne : r ≠ p)
    (hfree : g.owner r = none) (hp : Element g₀ g p) (hroot : g.owner p = none) (hmem : p ∈ held) :
    Account g₀ (g.binAdd p r) (r :: held) := by
  have hlt : r < g.next := h.ledger.lt r (by simp)
  unfold Gst.binAdd
  split
  · have hfail : Account g₀ g.fail (r :: held) := h.heap rfl
    exact (hfail.refSink_sunk hlt hfl).unref
  · split
    · exact h.heap rfl
    · exact (h.refSink_sunk hlt hfl).setOwner (hp.same (h.ledger.lt p (by simp [hmem])) (Keeps.refl.refSink r).same)
        (Ne.symm hne) ((owner_refSink r r).trans hfree) ((owner_refSink r p).trans hroot) (by simp [hmem])

theorem padLink (h : Account g₀ g held) (fails : Bool) (tee bin : Nat) :
    Account g₀ (g.padLink fails tee bin).2 held := by
  unfold Gst.padLink
  split <;> exact h.heap rfl

end Account
end Gst

namespace ProfileBin

/-- Either all elements of the branch are made, or none of those that only the bin would hold. -/
def Whole (fails : BinCall → Bool) : Prop :=
  (∀ c, c ≠ .link → fails c = false) ∨ ∀ c ∈ [BinCall.queue, .scale, .capsFilter, .enc], fails c = true

section
variable {fails : BinCall → Bool} {b : ProfileBin} {g g₀ : Gst} {held : List Nat}

theorem isElement_parts (name : Bytes) :
    ∀ o ∈ parts name, o.isElement = true ∧ o.bus = none ∧ o.queue = [] := by
  simp [parts, GObject.isElement, ascii]

/-- The bin takes its elements and sinks itself, or the elements go with it. -/
theorem account_assemble {n v a q sc cf e : Nat} (f : Bool) (hbin : b.bin = some n)
    (ha : g₀.Account g ([q, v, sc, cf, e, a] ++ n :: held)) (hfits : g.Fits n [q, v, sc, cf, e, a])
    (hfloat : ∀ x ∈ n :: [q, v, sc, cf, e, a], g.heap.floating x = true) (hel : g₀.Element g n)
    (hfree : g.owner n = none) :
    g₀.Account (assemble f b n v a q sc cf e g).2.2 ((assemble f b n v a q sc cf e g).1.toList ++ held) ∧
      ∀ x ∈ (assemble f b n v a q sc cf e g).1, (assemble f b n v a q sc cf e g).2.2.heap.floating x = false := by
  obtain ⟨hself, hparts⟩ := List.forall_mem_cons.mp hfloat
  obtain ⟨hadd, -, hsame⟩ := ha.binAddMany hfits hparts hel hfree (by simp)
  have hlink := hadd.linkMany f [q, v, sc, cf, e, a]
  have hheap := Gst.heap_linkMany (g := g.binAddMany n [q, v, sc, cf, e, a]) f [q, v, sc, cf, e, a]
  have hself₁ := (hsame n fun hmem => hfits.ne n hmem rfl).trans hself
  rw [← hheap] at hself₁
  unfold assemble
  simp only
  generalize (g.binAddMany n [q, v, sc, cf, e, a]).linkMany f [q, v, sc, cf, e, a] = linked at hlink hself₁ ⊢
  obtain ⟨ok, g₁⟩ := linked
  cases ok with
  | true =>
    have hghost : g₀.Account (g₁.addGhostSink n q) (n :: held) :=
      hlink.write n (fun _ => rfl) (fun _ => rfl) fun _ => rfl
    refine ⟨hghost.refSink_floating (hghost.ledger.lt _ (by simp)) ?_, ?_⟩
    · exact (Heap.floating_update _ _ n).trans hself₁
    · rintro _ ⟨⟩
      exact Heap.floating_refSink_self n
  | false =>
    refine ⟨?_, by rintro _ ⟨⟩⟩
    show g₀.Account (g₁.clearObject b.bin) held
    rw [hbin]
    exact hlink.unref

/-- With all elements made and configured, they are assembled. -/
theorem account_made (hmade : ∀ c, c ≠ .link → fails c = false) (h : g₀.Account g held) :
    g₀.Account (createElement fails b g).2.2 ((createElement fails b g).1.toList ++ held) ∧
      ∀ n ∈ (createElement fails b g).1, (createElement fails b g).2.2.heap.floating n = false := by
  rw [createElement_made hmade]
  simp only
  generalize hb : ({ b with bin := some g.next, valve := some (g.next + 1), appSink := some (g.next + 2) } :
    ProfileBin) = b₁
  obtain ⟨haccount, hnew, -⟩ := h.allocAll (parts (binName b.profile)) (isElement_parts _)
  have hset := setOnly_configure b₁ (g.next + 2) (g.next + 5) (g.next + 6) (g.allocAll (parts (binName b.profile)))
  have haccount₂ := configure_invariant
    (P := fun g' => g₀.Account g' (List.range' g.next (parts (binName b.profile)).length ++ held))
    (fun g r key v h => h.setObject r key v) haccount b₁ (g.next + 2) (g.next + 5) (g.next + 6)
  have hfloat := configure_invariant (P := fun g' => ∀ x, g.next ≤ x → x < g.next + 7 → g'.heap.floating x = true)
    (fun g r key v h x hx hx' => (Heap.floating_update _ _ x).trans (h x hx hx')) hnew b₁ (g.next + 2) (g.next + 5)
    (g.next + 6)
  have hobj : (g.allocAll (parts (binName b.profile))).obj g.next =
      some { type := ascii "bin", name := binName b.profile } :=
    Gst.obj_allocAll (g := g) (k := 0) (parts (binName b.profile)) (by simp [parts])
  obtain ⟨props, hbin⟩ := hset.obj _ _ hobj
  have hperm : (List.range' g.next (parts (binName b.profile)).length ++ held).Perm
      ([g.next + 3, g.next + 1, g.next + 4, g.next + 5, g.next + 6, g.next + 2] ++ g.next :: held) := by
    rw [List.perm_iff_count]
    intro x
    simp only [parts, List.length_cons, List.length_nil, List.range'_succ, List.range'_zero, List.cons_append,
      List.nil_append, List.count_cons, Nat.add_assoc, Nat.reduceAdd]
    omega
  refine account_assemble (fails .link) (by rw [← hb]) (haccount₂.perm hperm) (fits_parts (binName b.profile) hset)
    (fun x hx => ?_) ⟨h.ledger.next_le, fun o ho => ?_⟩ ?_
  · simp only [List.mem_cons, List.not_mem_nil, or_false] at hx
    exact hfloat x (by omega) (by omega)
  · obtain rfl := Option.some.inj (hbin.symm.trans ho)
    simp [GObject.isElement, ascii]
  · rw [hset.owner, Gst.owner_allocAll]
    exact Gst.owner_eq_none (Nat.le_refl _)

/-- Of the elements nobody else holds none was made: the others are released. -/
theorem account_bare (hbare : ∀ c ∈ [BinCall.queue, .scale, .capsFilter, .enc], fails c = true)
    (h : g₀.Account g held) : (createElement fails b g).1 = none ∧ g₀.Account (createElement fails b g).2.2 held := by
  have hqueue := hbare .queue (by simp)
  have hscale := hbare .scale (by simp)
  have hcaps := hbare .capsFilter (by simp)
  have henc := hbare .enc (by simp)
  have hfails : ∀ (g : Gst) (type name : Bytes), g.factoryMake true type name = (none, g.fail) := fun _ _ _ => rfl
  have hbin : ({ type := ascii "bin", name := cStr (ascii "profile-" ++ b.profile.name) } : GObject).isElement = true := by
    simp [GObject.isElement, ascii]
  have hvalve : ({ type := ascii "valve", name := ascii "valve" } : GObject).isElement = true := by
    simp [GObject.isElement, ascii]
  have hsink : ({ type := ascii "appsink", name := ascii "app-sink" } : GObject).isElement = true := by
    simp [GObject.isElement, ascii]
  have h1 := h.factoryMake (fails .bin) hbin
  refine ⟨(createElement_unmade ⟨.queue, by decide, hqueue⟩).1, ?_⟩
  unfold createElement Gst.binNew
  simp only [hqueue, hscale, hcaps, henc, hfails]
  generalize g.factoryMake (fails .bin) (ascii "bin") (cStr (ascii "profile-" ++ b.profile.name)) = r₁ at h1 ⊢
  obtain ⟨bin, g₁⟩ := r₁
  have h2 := h1.factoryMake (fails .valve) hvalve
  simp only at h2 ⊢
  generalize g₁.factoryMake (fails .valve) (ascii "valve") (ascii "valve") = r₂ at h2 ⊢
  obtain ⟨valve, g₂⟩ := r₂
  have h3 := h2.factoryMake (fails .appSink) hsink
  simp only at h3 ⊢
  generalize g₂.factoryMake (fails .appSink) (ascii "appsink") (ascii "app-sink") = r₃ at h3 ⊢
  obtain ⟨appSink, g₃⟩ := r₃
  have h4 : g₀.Account g₃.fail.fail.fail.fail (bin.toList ++ (valve.toList ++ (appSink.toList ++ held))) := by
    refine (h3.perm (List.perm_iff_count.mpr fun x => ?_)).heap rfl
    simp only [List.count_append]
    omega
  split
  · contradiction
  · exact h4.clearObject.clearObject.clearObject

theorem account_createElement (hw : Whole fails) (h : g₀.Account g held) :
    g₀.Account (createElement fails b g).2.2 ((createElement fails b g).1.toList ++ held) ∧
      ∀ n ∈ (createElement fails b g).1, (createElement fails b g).2.2.heap.floating n = false := by
  rcases hw with hmade | hbare
  · exact account_made hmade h
  · obtain ⟨hnone, haccount⟩ := account_bare hbare h
    rw [hnone]
    exact ⟨haccount, by rintro _ ⟨⟩⟩

end

end ProfileBin

namespace ProfileHost

/-- The branches the loop reaches from branch `k` on, when those before it are named as in `seen`: none
was built before, and each is built whole. -/
def Tidy (faults : SetupFaults) : Nat → List Bytes → List ProfileBin → Prop
  | _, _, [] => True
  | k, seen, b :: bs => b.bin = none ∧ ProfileBin.Whole (faults.bin k) ∧
      ((∀ c, faults.bin k c = false) ∧ faults.host (.padLink k) = false ∧ ProfileBin.binName b.profile ∉ seen →
        Tidy faults (k + 1) (ProfileBin.binName b.profile :: seen) bs)

/-- The references of the branches. -/
def binRefs (bs : List ProfileBin) : List Nat := bs.filterMap (·.bin)

/-- A branch without a bin has no elements. -/
def Bare (b : ProfileBin) : Prop := b.bin = none → b.valve = none ∧ b.appSink = none

section
variable {faults : SetupFaults} {p tee : Nat} {g g₀ : Gst} {held : List Nat}

theorem perm_binRefs_cons {b : ProfileBin} {n : Nat} (hbin : b.bin = some n) (bs : List ProfileBin) (held : List Nat) :
    (binRefs bs ++ n :: held).Perm (binRefs (b :: bs) ++ held) := by
  rw [binRefs, binRefs, List.filterMap_cons_some hbin]
  exact List.perm_middle

variable (faults tee) in
/-- Each branch adds one reference, to its bin. -/
theorem account_setupBranches (k : Nat) (seen : List Bytes) (bs : List ProfileBin) (hs : Shared p tee g)
    (hp : g₀.Element g p) (hroot : g.owner p = none) (hseen : ∀ name ∈ seen, Taken p g name)
    (ht : Tidy faults k seen bs) (hbare : ∀ b ∈ bs, Bare b) (h : g₀.Account g (p :: (binRefs bs ++ held))) :
    g₀.Account (setupBranches faults p tee k bs g).2.2
      (p :: (binRefs (setupBranches faults p tee k bs g).2.1 ++ held)) ∧
    ∀ b ∈ (setupBranches faults p tee k bs g).2.1, Bare b := by
  induction bs generalizing k seen g held with
  | nil => exact ⟨h, hbare⟩
  | cons b bs ih =>
    obtain ⟨hnone, hwhole, hrest⟩ := ht
    obtain ⟨hb, hbs⟩ := List.forall_mem_cons.mp hbare
    have h0 : g₀.Account g (p :: (binRefs bs ++ held)) := by simpa [binRefs, hnone] using h
    obtain ⟨hmade, hsunk⟩ := ProfileBin.account_createElement (b := b) hwhole h0
    by_cases hcalls : ∀ c, faults.bin k c = false
    · obtain ⟨b', g₁, hres, hprofile, hbranch, -, hfree, howner⟩ := ProfileBin.createElement_ok (b := b) (g := g) hcalls
      have hgrew : g.Grew g₁ := by
        have := @ProfileBin.grew_createElement (faults.bin k) b g
        rwa [hres] at this
      rw [hres] at hmade hsunk
      have hlt := hs.pipeline_lt
      have hroot₁ : g₁.owner p = none := (hgrew.owner_eq hlt).trans hroot
      have hp₁ : g₀.Element g₁ p := hp.same hlt hgrew.keeps.same
      have hbin' : Bare b' := fun hn => by rw [hbranch.bin] at hn; cases hn
      have hadd := (hmade.binAdd_sunk (hsunk _ rfl) (Nat.ne_of_gt hlt) hfree hp₁ hroot₁ (by simp)).padLink
        (faults.host (.padLink k)) tee g.next
      have hperm : (g.next :: p :: (binRefs bs ++ held)).Perm (p :: (binRefs bs ++ (g.next :: held))) :=
        (List.Perm.swap p g.next _).trans (List.Perm.cons p List.perm_middle.symm)
      rw [setupBranches, hres]
      simp only
      rcases addBranch_cases (faults.host (.padLink k)) hgrew rfl hs hbranch hfree with
        ⟨hok, hf, hnot, howner', -⟩ | ⟨hok, -⟩
      · have hgrew₂ : g.Grew ((g₁.binAdd p g.next).padLink (faults.host (.padLink k)) tee g.next).2 :=
          (hgrew.binAdd (Nat.le_refl _) p).padLink ..
        simp only [hok, if_true]
        have hname₂ : ((g₁.binAdd p g.next).padLink (faults.host (.padLink k)) tee g.next).2.name g.next =
            ProfileBin.binName b.profile := (Gst.name_congr _ (by simp)).trans (hprofile ▸ hbranch.name)
        generalize ((g₁.binAdd p g.next).padLink (faults.host (.padLink k)) tee g.next).2 = g₂
          at hadd howner' hgrew₂ hname₂ ⊢
        have hnext : ProfileBin.binName b.profile ∉ seen := fun hmem =>
          hnot (by rw [hbranch.name, hprofile]; exact (hseen _ hmem).mono hgrew)
        obtain ⟨haccount, hall⟩ := @ih g₂ (g.next :: held) (k + 1) (ProfileBin.binName b.profile :: seen)
          (hs.mono hgrew₂) (hp.same hlt hgrew₂.keeps.same) ((hgrew₂.owner_eq hlt).trans hroot)
          (List.forall_mem_cons.mpr
            ⟨⟨g.next, by rw [howner', if_pos rfl], hname₂⟩, fun name hmem => (hseen name hmem).mono hgrew₂⟩)
          (hrest ⟨hcalls, hf, hnext⟩) hbs (hadd.perm hperm)
        exact ⟨haccount.perm (List.Perm.cons p (perm_binRefs_cons hbranch.bin _ held)),
          List.forall_mem_cons.mpr ⟨hbin', hall⟩⟩
      · simp only [hok, Bool.false_eq_true, if_false]
        exact ⟨hadd.perm (hperm.trans (List.Perm.cons p (perm_binRefs_cons hbranch.bin bs held))),
          List.forall_mem_cons.mpr ⟨hbin', hbs⟩⟩
    · -- the branch could not be made
      obtain ⟨hres, hb', -⟩ := ProfileBin.createElement_error (b := b) (g := g) (by simpa using hcalls)
      rw [setupBranches]
      generalize b.createElement (faults.bin k) g = made at hres hb' hmade
      obtain ⟨bin, b', g₁⟩ := made
      obtain rfl : bin = none := hres
      obtain rfl : b' = _ := hb'
      exact ⟨by simpa [binRefs] using hmade, List.forall_mem_cons.mpr ⟨fun _ => ⟨rfl, rfl⟩, hbs⟩⟩

end

/-! ### `setupPipeline` and `cleanup` -/

/-- A set-up is refused, cannot make a shared element, or links those it made and finds tidy branches. -/
def TidySetup (faults : SetupFaults) (h : ProfileHost) : Prop :=
  h.videoSource = none ∨ h.pipeline.isSome = true ∨ (∃ c ∈ makeCalls, faults.host c = true) ∨
    faults.host .link = false ∧ Tidy faults 0 [] h.profileBins

/-- The host holds its pipeline and the bins of its branches. -/
structure Kept (g₀ : Gst) (s : ProfileHost × Gst) : Prop where
  account : g₀.Account s.2 (s.1.pipeline.toList ++ binRefs s.1.profileBins)
  linked : s.1.isLinked = s.1.pipeline.isSome
  unlinked : s.1.pipeline = none →
    s.1.source = none ∧ s.1.videoConvert = none ∧ s.1.sourceCaps = none ∧ s.1.tee = none
  pipeline : ∀ p ∈ s.1.pipeline, g₀.next ≤ p
  bins : ∀ b ∈ s.1.profileBins, Bare b
  watch : ∀ x ∈ s.1.watch.busSource, g₀.Aux s.2 x

section
variable {faults : SetupFaults} {h : ProfileHost} {g g₀ : Gst} {held : List Nat} {s : ProfileHost × Gst}
  {source : VideoSource}

theorem account_cleanup_linked {p : Nat} (hlinked : h.isLinked = true) (hp : h.pipeline = some p)
    (ha : g₀.Account g (p :: held)) : g₀.Account (h.cleanup g).2 held := by
  unfold cleanup
  simp only [hlinked, hp, if_true]
  exact (ha.setState false p .null).unref

theorem account_cleanup_unlinked (hlinked : h.isLinked = false) (ha : g₀.Account g (h.pipeline.toList ++
    (h.source.toList ++ (h.videoConvert.toList ++ (h.sourceCaps.toList ++ (h.tee.toList ++ held)))))) :
    g₀.Account (h.cleanup g).2 held := by
  unfold cleanup
  simp only [hlinked, Bool.false_eq_true, if_false]
  exact ha.clearObject.clearObject.clearObject.clearObject.clearObject

variable (faults h source) in
/-- Every shared element that was made is listed. -/
theorem account_create (ha : g₀.Account g held) : g₀.Account (create faults h g source).2
    ((create faults h g source).1.tee.toList ++ ((create faults h g source).1.sourceCaps.toList ++
      ((create faults h g source).1.videoConvert.toList ++ ((create faults h g source).1.source.toList ++
        ((create faults h g source).1.pipeline.toList ++ held))))) := by
  have h1 := ha.pipelineNew (faults.host .pipeline) (ascii "pipeline")
  have h2 := VideoSource.account_createElement h1 (faults.host .source) source
  have hconvert : ({ type := ascii "videoconvert", name := ascii "video-convert" } : GObject).isElement = true := by
    simp [GObject.isElement, ascii]
  have hcaps : ({ type := ascii "capsfilter", name := ascii "source-caps" } : GObject).isElement = true := by
    simp [GObject.isElement, ascii]
  have htee : ({ type := ascii "tee", name := ascii "tee" } : GObject).isElement = true := by
    simp [GObject.isElement, ascii]
  exact ((h2.factoryMake (faults.host .videoConvert) hconvert).factoryMake (faults.host .sourceCaps)
    hcaps).factoryMake (faults.host .tee) htee

/-- Elements that could not all be made are all released. -/
theorem account_rollback (hlinked : h.isLinked = false) (ha : g₀.Account g held) :
    g₀.Account ((create faults h g source).1.cleanup (create faults h g source).2).2 held := by
  refine account_cleanup_unlinked (h := (create faults h g source).1) hlinked
    ((account_create faults h source ha).perm (List.perm_iff_count.mpr fun x => ?_))
  simp only [List.count_append]
  omega

variable (source) in
/-- The shared elements, made but not added yet. -/
theorem account_shared (ha : g₀.Account g held) {g₁ : Gst} (hg₁ : g₁ = (g.pipelineNew false (ascii "pipeline")).2) :
    g₀.Account (g₁.allocAll (sharedParts source))
      ([g.next + 2, g.next + 3, g.next + 4, g.next + 5] ++ g.next :: held) ∧
    (∀ e ∈ [g.next + 2, g.next + 3, g.next + 4, g.next + 5],
      (g₁.allocAll (sharedParts source)).heap.floating e = true) ∧
    g₀.Element (g₁.allocAll (sharedParts source)) g.next ∧ (g₁.allocAll (sharedParts source)).owner g.next = none := by
  obtain ⟨haccount, hnew, -, hp, hroot⟩ := ha.pipelineParts (ascii "pipeline") (sharedParts source) (by
    cases source <;> simp [sharedParts, sourceObject, GObject.isElement, ascii]) hg₁
  refine ⟨haccount.perm ?_, fun e he => ?_, hp, hroot⟩
  · rw [List.perm_iff_count]
    intro x
    simp only [sharedParts, List.length_cons, List.length_nil, List.range'_succ, List.range'_zero,
      List.cons_append, List.nil_append, List.count_cons, Nat.add_assoc, Nat.reduceAdd]
  · simp only [List.mem_cons, List.not_mem_nil, or_false] at he
    exact hnew e (by omega) (by simp [sharedParts]; omega)

/-- With the shared elements made and linked, each branch adds its bin. -/
theorem account_setupPipeline (hsource : h.videoSource = some source) (hpipeline : h.pipeline = none)
    (hmade : ∀ c ∈ makeCalls, faults.host c = false) (hlink : faults.host .link = false)
    (ht : Tidy faults 0 [] h.profileBins) (hbare : ∀ b ∈ h.profileBins, Bare b)
    (ha : g₀.Account g (binRefs h.profileBins)) :
    ∃ loop : Option String × List ProfileBin × Gst,
      setupPipeline faults h g = (h.withShared g.next).finishSetup loop ∧
      g₀.Account loop.2.2 (g.next :: binRefs loop.2.1) ∧ ∀ b ∈ loop.2.1, Bare b := by
  rw [setupPipeline_made hsource hpipeline hmade]
  generalize hg₁ : (g.pipelineNew false (ascii "pipeline")).2 = g₁
  obtain ⟨haccount, hfloat, hp, hroot⟩ := account_shared source ha hg₁.symm
  have hset : (g₁.allocAll (sharedParts source)).SetOnly ((g₁.allocAll (sharedParts source)).setObject (g.next + 4)
    (ascii "caps") (.caps (VideoCaps.toGstCaps {}))) := Gst.SetOnly.refl.setObject ..
  obtain ⟨hfits, -⟩ := fits_shared hg₁.symm hset
  obtain ⟨haccount₃, hp₃, hroot₃⟩ := haccount.configured (g.next + 4) (ascii "caps") _ hfits hfloat hp hroot
  unfold setupElements
  generalize (g₁.allocAll (sharedParts source)).setObject (g.next + 4) (ascii "caps")
    (.caps (VideoCaps.toGstCaps {})) = g₂ at haccount₃ hp₃ hroot₃ hfits
  obtain ⟨howner, -⟩ := Gst.binAddMany_spec hfits
  have hpairs := @Gst.linkPairs_eq (g₂.binAddMany g.next [g.next + 2, g.next + 3, g.next + 4, g.next + 5]) g.next
    [g.next + 2, g.next + 3, g.next + 4, g.next + 5] fun e he => (howner e).trans (if_pos he)
  have hlt₃ : g.next < (g₂.binAddMany g.next [g.next + 2, g.next + 3, g.next + 4, g.next + 5]).next := by
    simpa using hfits.bin_lt
  have htee : (g₂.binAddMany g.next [g.next + 2, g.next + 3, g.next + 4, g.next + 5]).owner (g.next + 5) =
      some g.next := (howner _).trans (if_pos (by simp))
  simp only [hlink, Gst.linkMany, hpairs, Bool.false_eq_true, if_false, if_true]
  generalize g₂.binAddMany g.next [g.next + 2, g.next + 3, g.next + 4, g.next + 5] = g₃
    at haccount₃ hroot₃ hlt₃ htee hp₃
  generalize hg₄ : ({ g₃ with links := g₃.links ++ ([g.next + 2, g.next + 3, g.next + 4, g.next + 5].zip
    [g.next + 2, g.next + 3, g.next + 4, g.next + 5].tail) } : Gst) = g₄
  have hheap : g₄.heap = g₃.heap := by rw [← hg₄]
  have hshared : Shared g.next (g.next + 5) g₄ := by
    rw [← hg₄]
    exact ⟨hlt₃, Gst.lt_of_owner htee, htee⟩
  have haccount₄ : g₀.Account g₄ (g.next :: (binRefs h.profileBins ++ [])) := by
    rw [List.append_nil]
    exact haccount₃.heap hheap
  obtain ⟨hloop, hbare'⟩ := account_setupBranches faults (g.next + 5) 0 [] h.profileBins hshared
    (by rw [Gst.Element, hheap]; exact hp₃) (by rw [Gst.owner, hheap]; exact hroot₃) (by simp) ht hbare haccount₄
  refine ⟨_, rfl, ?_, hbare'⟩
  rw [List.append_nil] at hloop
  exact hloop

theorem Kept.setupPipeline (hk : Kept g₀ s) (he : s.1.TidySetup faults) : Kept g₀ (setupPipeline faults s.1 s.2).2 := by
  have hw : ∀ x ∈ (ProfileHost.setupPipeline faults s.1 s.2).2.1.watch.busSource,
      g₀.Aux (ProfileHost.setupPipeline faults s.1 s.2).2.2 x := by
    rw [setupPipeline_watch]
    exact fun x hx => (hk.watch x hx).same (setupPipeline_sinks faults s.1 s.2).1.same
  rcases setupPipeline_shape faults s.1 s.2 with ⟨-, reason, -, hres⟩ | ⟨source, hsource, hp, -⟩
  · rw [hres]
    exact hk
  · have ha := hk.account
    rw [hp] at ha
    have hlinked : s.1.isLinked = false := by rw [hk.linked, hp]; rfl
    by_cases hmade : ∀ c ∈ makeCalls, faults.host c = false
    · rcases he with hno | hset | ⟨c, hc, hf⟩ | ⟨hlink, ht⟩
      · rw [hsource] at hno; cases hno
      · rw [hp] at hset; cases hset
      · rw [hmade c hc] at hf; cases hf
      · obtain ⟨⟨error, bins, g₁⟩, hres, haccount, hbare⟩ := account_setupPipeline hsource hp hmade hlink ht hk.bins ha
        rw [hres] at hw ⊢
        cases error with
        | none => exact ⟨haccount, rfl, by rintro ⟨⟩, by rintro _ ⟨⟩; exact hk.account.ledger.next_le, hbare, hw⟩
        | some reason =>
          exact ⟨account_cleanup_linked rfl rfl haccount, rfl, fun _ => ⟨rfl, rfl, rfl, rfl⟩, by rintro _ ⟨⟩, hbare, hw⟩
    · rw [setupPipeline_rollback hsource hp (by simpa using hmade)] at hw ⊢
      exact ⟨account_rollback hlinked ha, rfl, fun _ => ⟨rfl, rfl, rfl, rfl⟩, by rintro _ ⟨⟩, hk.bins, hw⟩

/-! ### Destruction -/

theorem account_destroyBins {bs : List ProfileBin} (hbare : ∀ b ∈ bs, Bare b) (ha : g₀.Account g (binRefs bs ++ held)) :
    g₀.Account (bs.foldl (fun g b => b.destroy g) g) held := by
  induction bs generalizing g with
  | nil => exact ha
  | cons b bs ih =>
    obtain ⟨hb, hbs⟩ := List.forall_mem_cons.mp hbare
    refine @ih (b.destroy g) hbs ?_
    unfold ProfileBin.destroy
    cases hbin : b.bin with
    | none =>
      obtain ⟨hvalve, hsink⟩ := hb hbin
      rw [hvalve, hsink]
      rwa [binRefs, List.filterMap_cons_none hbin] at ha
    | some bin =>
      rw [binRefs, List.filterMap_cons_some hbin] at ha
      exact ha.unref

theorem Kept.detachBusWatch (hk : Kept g₀ s) : Kept g₀ (s.1.detachBusWatch s.2) := by
  refine ⟨hk.account.detachBusWatch hk.watch, hk.linked, hk.unlinked, hk.pipeline, hk.bins, ?_⟩
  show ∀ x ∈ (s.1.watch.detachBusWatch s.2).1.busSource, _
  rw [BusWatch.detachBusWatch_fst]
  nofun

theorem Kept.cleanup (hk : Kept g₀ s) : g₀.Account (s.1.cleanup s.2).2 (binRefs s.1.profileBins) := by
  have ha := hk.account
  cases hp : s.1.pipeline with
  | some p =>
    rw [hp] at ha
    exact account_cleanup_linked (by rw [hk.linked, hp]; rfl) hp ha
  | none =>
    obtain ⟨hsource, hconvert, hcaps, htee⟩ := hk.unlinked hp
    refine account_cleanup_unlinked (by rw [hk.linked, hp]; rfl) ?_
    rw [hsource, hconvert, hcaps, htee]
    exact ha

/-- Every reference the host holds is dropped. -/
theorem Kept.destroy (hk : Kept g₀ s) : g₀.Account (s.1.destroy s.2) [] := by
  have ha := hk.detachBusWatch.cleanup
  unfold ProfileHost.destroy
  refine account_destroyBins hk.bins ?_
  rw [List.append_nil]
  exact ha

/-! ### Runs -/

/-- Only a set-up can be untidy. -/
def TidyEvent (h : ProfileHost) : HostEvent → Prop
  | .setupPipeline faults => h.TidySetup faults
  | _ => True

theorem Kept.setPipelineState (hk : Kept g₀ s) (fails : Bool) (state : GstState) (reason : String) :
    Kept g₀ (s.1, (s.1.setPipelineState fails state reason s.2).2) := by
  have hsteers := setPipelineState_steers fails state reason s.1 s.2
  exact ⟨hk.account.steers hsteers, hk.linked, hk.unlinked, hk.pipeline, hk.bins,
    fun x hx => (hk.watch x hx).same hsteers.same⟩

theorem Kept.setProfileEnabled (hk : Kept g₀ s) (name : Bytes) (enabled : Bool) :
    Kept g₀ (s.1.setProfileEnabled name enabled s.2).2 := by
  have hsame := (setProfileEnabled_same (s := s) (f := GObject.type) (fun _ _ => rfl) name enabled).1
  unfold ProfileHost.setProfileEnabled at hsame ⊢
  split
  · exact hk
  · next i hi =>
    rw [hi] at hsame
    have hparts := map_modify (fun b : ProfileBin => (b.bin, b.valve, b.appSink))
      (fun b => (b.setState (if enabled then proto.kStateReady else proto.kStateOff) []).2) (fun b => by
        unfold ProfileBin.setState
        split <;> rfl) s.1.profileBins i
    have hrefs : ∀ bs : List ProfileBin, binRefs bs =
        (bs.map fun b : ProfileBin => (b.bin, b.valve, b.appSink)).filterMap (·.1) := fun bs => by
      rw [List.filterMap_map]; rfl
    refine ⟨?_, hk.linked, hk.unlinked, hk.pipeline, fun b hb => ?_, fun x hx => (hk.watch x hx).same hsame⟩
    · simp only
      rw [hrefs, hparts, ← hrefs]
      split
      · next b _ =>
        unfold ProfileBin.setDrop
        split
        · exact hk.account.setObject ..
        · exact hk.account
      · exact hk.account
    · have hmem : (b.bin, b.valve, b.appSink) ∈ s.1.profileBins.map fun b : ProfileBin => (b.bin, b.valve, b.appSink) := by
        rw [← hparts]
        exact List.mem_map_of_mem hb
      obtain ⟨b', hb', heq⟩ := List.mem_map.mp hmem
      obtain ⟨hbin, hvalve, hsink⟩ : b'.bin = b.bin ∧ b'.valve = b.valve ∧ b'.appSink = b.appSink := by simpa using heq
      have hbare := hk.bins b' hb'
      unfold Bare at hbare ⊢
      rwa [hbin, hvalve, hsink] at hbare

theorem account_onBusMessageStatic (hp : ∀ p ∈ h.pipeline, g₀.next ≤ p) (ha : g₀.Account g held) :
    g₀.Account (h.onBusMessageStatic g).2 held := by
  unfold ProfileHost.onBusMessageStatic
  split
  · next p _ hpipe => exact ha.onBusMessageStatic h.watch (hp p hpipe)
  · exact ha

theorem Kept.handle (hk : Kept g₀ s) {e : HostEvent} (he : s.1.TidyEvent e) : Kept g₀ (handle s e) := by
  cases e with
  | setVideoSource source => exact ⟨hk.account, hk.linked, hk.unlinked, hk.pipeline, hk.bins, hk.watch⟩
  | setupPipeline faults => exact hk.setupPipeline he
  | play fails => exact hk.setPipelineState ..
  | stop fails => exact hk.setPipelineState ..
  | setProfileEnabled name enabled => exact hk.setProfileEnabled name enabled
  | attachBusWatch fails context callback =>
    show Kept g₀ (s.1.attachBusWatch fails context callback s.2).2
    unfold attachBusWatch
    split
    · next context callback =>
      split
      · next p _ hpipe =>
        obtain ⟨ha, hw⟩ := hk.account.attachBusWatch hk.watch fails (hk.pipeline p hpipe) context callback
        exact ⟨ha, hk.linked, hk.unlinked, hk.pipeline, hk.bins, hw⟩
      · exact hk
    · exact hk
  | detachBusWatch => exact hk.detachBusWatch
  | dispatch during =>
    unfold ProfileHost.handle
    cases hs : s.1.watch.busSource with
    | none => exact hk
    | some source =>
      have hd : Gst.Same GObject.type s.2 (s.2.dispatch source s.1.onBusMessageStatic during).2 := dispatch_same ..
      refine ⟨hk.account.dispatch (hk.watch source (by rw [hs]; rfl))
        (fun _ ha => account_onBusMessageStatic hk.pipeline ha) (onBusMessageStatic_same s.1) during,
        hk.linked, hk.unlinked, hk.pipeline, hk.bins, fun x hx => (hk.watch x hx).same hd⟩

end

/-- Nothing was released twice, and destruction releases everything exactly once. -/
structure Balanced (g : Gst) (s : ProfileHost × Gst) : Prop where
  misused : g.NoneMisused s.2
  destroyed : g.NoneMisused (s.1.destroy s.2)
  released : g.AllReleased (s.1.destroy s.2)

theorem Kept.balanced {g : Gst} {s : ProfileHost × Gst} (hk : Kept g s) : Balanced g s :=
  ⟨hk.account.noneMisused, hk.destroy.noneMisused, hk.destroy.allReleased⟩

/-- In every state of a run whose set-ups are tidy. -/
theorem host_balanced (g : Gst) (profiles : List ProfileInfo) (events : List HostEvent)
    (h : Along handle (fun s e => s.1.TidyEvent e) (new profiles, g) events) :
    Balanced g (run handle (new profiles, g) events) := by
  have hbins : ∀ b ∈ (new profiles).profileBins, b.bin = none ∧ b.valve = none ∧ b.appSink = none := by
    intro b hb
    obtain ⟨profile, -, rfl⟩ := List.mem_map.mp hb
    exact ⟨rfl, rfl, rfl⟩
  have hrefs : binRefs (new profiles).profileBins = [] :=
    List.filterMap_eq_nil_iff.mpr fun b hb => (hbins b hb).1
  have hnew : Kept g (new profiles, g) := by
    refine ⟨?_, rfl, fun _ => ⟨rfl, rfl, rfl, rfl⟩, nofun, fun b hb _ => (hbins b hb).2, nofun⟩
    show g.Account g (binRefs (new profiles).profileBins)
    rw [hrefs]
    exact .refl
  exact (along_invariant hnew (fun _ _ hk htidy => hk.handle htidy) h).balanced

/-- A branch that cannot be made, and a retry. -/
theorem host_balanced_retry : Balanced .init
    (run handle (new [{ name := ascii "hd", width := 1920, height := 1080 }], .init)
      [.setVideoSource (some .TestVideoSource), .setupPipeline ⟨fun _ => false, fun _ c => c == .link⟩,
        .setupPipeline ⟨fun _ => false, fun _ _ => false⟩]) := by
  have hbins : (handle (handle (new [{ name := ascii "hd", width := 1920, height := 1080 }], .init)
      (.setVideoSource (some .TestVideoSource))) (.setupPipeline ⟨fun _ => false, fun _ c => c == .link⟩)).1.profileBins =
      [{ profile := { name := ascii "hd", width := 1920, height := 1080 } }] := by decide +kernel
  refine host_balanced _ _ _ ⟨trivial, .inr (.inr (.inr ⟨rfl, rfl, .inl fun c hc => beq_eq_false_iff_ne.mpr hc,
    fun _ => trivial⟩)), .inr (.inr (.inr ⟨rfl, ?_⟩)), trivial⟩
  rw [hbins]
  exact ⟨rfl, .inl fun _ _ => rfl, fun _ => trivial⟩

/-- A pipeline whose shared elements do not link is given up together with its elements, and they are
released once more. -/
theorem host_unbalanced : ¬ Balanced .init
    (run handle (new [{ name := ascii "hd", width := 1920, height := 1080 }], .init)
      [.setVideoSource (some .TestVideoSource), .setupPipeline ⟨fun c => c == .link, fun _ _ => false⟩]) := by
  intro h
  have htwice := h.destroyed 2 ⟨by decide, sourceObject .TestVideoSource, by rfl, by decide⟩
  revert htwice
  decide +kernel

end ProfileHost

end CameraPlatform
