import CameraPlatform.ApplicationRun
import CameraPlatform.BridgeSetup
import CameraPlatform.BusQueue
import CameraPlatform.GstSpares
import CameraPlatform.HostSetup

/-!
# The pipeline and the server spare the main loops

What a host and a server work on are the objects they made: a host that points to objects from `b`
on, and to no others, spares what is below, whatever fails.
-/

namespace CameraPlatform
open ByteString RefHeap Gst

variable {b : Nat} {g g' : Gst}

namespace ProfileBin

/-- The branch points to objects from `b` on. -/
structure From (b : Nat) (x : ProfileBin) : Prop where
  bin : ∀ r ∈ x.bin, b ≤ r
  valve : ∀ r ∈ x.valve, b ≤ r
  appSink : ∀ r ∈ x.appSink, b ≤ r

theorem from_null (b : Nat) (profile : ProfileInfo) : From b { profile } := ⟨nofun, nofun, nofun⟩

variable {x : ProfileBin}

theorem spares_setDrop (h : g.Spares b Scheduled g') (hv : ∀ r ∈ x.valve, b ≤ r) (drop : Bool) :
    g.Spares b Scheduled (x.setDrop drop g') := by
  unfold setDrop
  cases hvalve : x.valve with
  | none => exact h
  | some valve => exact h.setObject (hv valve hvalve) ..

theorem spares_configure (h : g.Spares b Scheduled g') (hv : ∀ r ∈ x.valve, b ≤ r) {appSink capsFilter enc : Nat}
    (ha : b ≤ appSink) (hc : b ≤ capsFilter) (he : b ≤ enc) :
    g.Spares b Scheduled (x.configure appSink capsFilter enc g') :=
  spares_setDrop ((((((h.setObject hc _ _).setObject he _ _).setObject he _ _).setObject he _ _).setObject he _
    _).setObject ha _ _) hv false

theorem spares_assemble (h : g.Spares b Scheduled g') (hx : x.From b) {fails : Bool}
    {bin valve appSink queue scale capsFilter enc : Nat} (hbin : b ≤ bin)
    (hes : ∀ e ∈ [queue, valve, scale, capsFilter, enc, appSink], b ≤ e) :
    let res := assemble fails x bin valve appSink queue scale capsFilter enc g'
    g.Spares b Scheduled res.2.2 ∧ res.2.1.From b ∧ ∀ r ∈ res.1, b ≤ r := by
  intro res
  have hlinked := (h.binAddMany bin hes).linkMany fails [queue, valve, scale, capsFilter, enc, appSink]
  have hres : res = assemble fails x bin valve appSink queue scale capsFilter enc g' := rfl
  unfold assemble at hres
  simp only at hres
  split at hres
  · rw [hres]
    exact ⟨(hlinked.addGhostSink hbin queue).refSink hbin, hx, by rintro r ⟨⟩; exact hbin⟩
  · rw [hres]
    exact ⟨hlinked.clearObject hx.bin, ⟨nofun, nofun, nofun⟩, nofun⟩

theorem spares_createElement (h : g.Spares b Scheduled g') (fails : BinCall → Bool) (x : ProfileBin) :
    let res := x.createElement fails g'
    g.Spares b Scheduled res.2.2 ∧ res.2.1.From b ∧ ∀ r ∈ res.1, b ≤ r := by
  intro res
  have hres : res = x.createElement fails g' := rfl
  obtain ⟨h1, r1⟩ := h.factoryMake (fails .bin) (by decide : ¬ Scheduled (ascii "bin") none)
    (cStr (ascii "profile-" ++ x.profile.name))
  obtain ⟨h2, r2⟩ := h1.factoryMake (fails .valve) (by decide : ¬ Scheduled (ascii "valve") none) (ascii "valve")
  obtain ⟨h3, r3⟩ := h2.factoryMake (fails .appSink) (by decide : ¬ Scheduled (ascii "appsink") none) (ascii "app-sink")
  obtain ⟨h4, r4⟩ := h3.factoryMake (fails .queue) (by decide : ¬ Scheduled (ascii "queue") none) (ascii "queue")
  obtain ⟨h5, r5⟩ := h4.factoryMake (fails .scale) (by decide : ¬ Scheduled (ascii "videoscale") none) (ascii "scale")
  obtain ⟨h6, r6⟩ := h5.factoryMake (fails .capsFilter) (by decide : ¬ Scheduled (ascii "capsfilter") none)
    (ascii "caps-filter")
  obtain ⟨h7, r7⟩ := h6.factoryMake (fails .enc) (by decide : ¬ Scheduled (ascii "x264enc") none) (ascii "enc")
  unfold createElement at hres
  simp only at hres
  split at hres
  · next e1 e2 e3 e4 e5 e6 e7 =>
    rw [hres]
    refine spares_assemble (spares_configure h7 r2 (r3 _ e3) (r6 _ e6) (r7 _ e7)) ⟨r1, r2, r3⟩ (r1 _ e1) ?_
    simp only [List.mem_cons, List.not_mem_nil, or_false]
    rintro e (rfl | rfl | rfl | rfl | rfl | rfl)
    · exact r4 _ e4
    · exact r2 _ e2
    · exact r5 _ e5
    · exact r6 _ e6
    · exact r7 _ e7
    · exact r3 _ e3
  · rw [hres]
    exact ⟨((h7.clearObject r1).clearObject r2).clearObject r3, ⟨nofun, nofun, nofun⟩, nofun⟩

theorem spares_destroy {S : Bytes → Option Nat → Prop} (h : g.Spares b S g') (hx : x.From b) :
    g.Spares b S (x.destroy g') := by
  unfold destroy
  cases hbin : x.bin with
  | none => exact (h.clearObject hx.valve).clearObject hx.appSink
  | some bin => exact h.unref (hx.bin bin hbin)

end ProfileBin

namespace ProfileHost

/-- The host points to objects from `b` on. -/
structure From (b : Nat) (h : ProfileHost) : Prop where
  pipeline : ∀ r ∈ h.pipeline, b ≤ r
  source : ∀ r ∈ h.source, b ≤ r
  videoConvert : ∀ r ∈ h.videoConvert, b ≤ r
  sourceCaps : ∀ r ∈ h.sourceCaps, b ≤ r
  tee : ∀ r ∈ h.tee, b ≤ r
  bins : ∀ x ∈ h.profileBins, x.From b
  busSource : ∀ r ∈ h.watch.busSource, b ≤ r

variable {h : ProfileHost} {faults : SetupFaults}

theorem From.clear (hf : h.From b) : h.clear.From b :=
  ⟨nofun, nofun, nofun, nofun, nofun, hf.bins, hf.busSource⟩

theorem From.appSink (hf : h.From b) (name : Bytes) : ∀ r ∈ h.appSinkForProfile name, b ≤ r := by
  intro r hr
  obtain ⟨x, hx, hr⟩ := Option.bind_eq_some_iff.mp hr
  exact (hf.bins x (List.mem_of_find?_eq_some hx)).appSink r hr

section Any
variable {S : Bytes → Option Nat → Prop}

theorem spares_setPipelineState (hg : g.Spares b S g') (hf : h.From b) (fails : Bool) (state : GstState)
    (reason : String) : g.Spares b S (h.setPipelineState fails state reason g').2 := by
  unfold setPipelineState
  split
  · split
    · next pipeline hp => exact hg.setState (hf.pipeline pipeline hp) ..
    · exact hg.fail
  · exact hg

theorem spares_cleanup (hg : g.Spares b S g') (hf : h.From b) : g.Spares b S (h.cleanup g').2 := by
  unfold cleanup
  cases h.isLinked with
  | true =>
    cases hp : h.pipeline with
    | none => exact hg
    | some p => exact (hg.setState (hf.pipeline p hp) ..).unref (hf.pipeline p hp)
  | false =>
    exact ((((hg.clearObject hf.pipeline).clearObject hf.source).clearObject hf.videoConvert).clearObject
      hf.sourceCaps).clearObject hf.tee

/-- The bins of the branches are dropped last. -/
theorem spares_destroyBins (hg : g.Spares b S g') {bins : List ProfileBin} (hf : ∀ x ∈ bins, x.From b) :
    g.Spares b S (bins.foldl (fun g x => x.destroy g) g') := by
  induction bins generalizing g' with
  | nil => exact hg
  | cons x bins ih =>
    exact ih (ProfileBin.spares_destroy hg (hf x (by simp))) fun y hy => hf y (List.mem_cons_of_mem _ hy)

end Any

variable (faults) in
theorem spares_setupBranches (p tee k : Nat) {bs : List ProfileBin} (hg : g.Spares b Scheduled g') :
    let res := setupBranches faults p tee k bs g'
    g.Spares b Scheduled res.2.2 ∧ ((∀ x ∈ bs, x.From b) → ∀ x ∈ res.2.1, x.From b) := by
  induction bs generalizing k g' with
  | nil => exact ⟨hg, id⟩
  | cons x bs ih =>
    obtain ⟨hmade, hx, hbin⟩ := ProfileBin.spares_createElement hg (faults.bin k) x
    unfold setupBranches
    generalize x.createElement (faults.bin k) g' = made at hmade hx hbin ⊢
    obtain ⟨bin, x', g₁⟩ := made
    have hhead : (∀ y ∈ x :: bs, y.From b) → ∀ y ∈ x' :: bs, y.From b := fun hf =>
      List.forall_mem_cons.mpr ⟨hx, (List.forall_mem_cons.mp hf).2⟩
    cases bin with
    | none => exact ⟨hmade, hhead⟩
    | some bin =>
      have hlink := (hmade.binAdd (hbin bin rfl) p).padLink (faults.host (.padLink k)) tee bin
      simp only
      generalize (g₁.binAdd p bin).padLink (faults.host (.padLink k)) tee bin = linked at hlink ⊢
      obtain ⟨ok, g₂⟩ := linked
      cases ok with
      | false => exact ⟨hlink, hhead⟩
      | true =>
        obtain ⟨hrest, hbins⟩ := ih (k + 1) hlink
        exact ⟨hrest, fun hf => List.forall_mem_cons.mpr ⟨hx, hbins (List.forall_mem_cons.mp hf).2⟩⟩

theorem spares_finishSetup (hf : h.From b) {loop : Option String × List ProfileBin × Gst}
    (hg : g.Spares b Scheduled loop.2.2) (hbins : ∀ x ∈ loop.2.1, x.From b) :
    g.Spares b Scheduled (h.finishSetup loop).2.2 ∧ (h.finishSetup loop).2.1.From b := by
  obtain ⟨error, bins, g₁⟩ := loop
  have hf' : ({ h with isLinked := true, profileBins := bins } : ProfileHost).From b := { hf with bins := hbins }
  cases error with
  | none => exact ⟨hg, hf'⟩
  | some reason => exact ⟨spares_cleanup hg hf', hf'.clear⟩

theorem spares_setupElements (hg : g.Spares b Scheduled g') (hf : h.From b)
    {pipeline source videoConvert sourceCaps tee : Nat} (hcaps : b ≤ sourceCaps)
    (hes : ∀ e ∈ [source, videoConvert, sourceCaps, tee], b ≤ e) :
    let res := setupElements faults h pipeline source videoConvert sourceCaps tee g'
    g.Spares b Scheduled res.2.2 ∧ res.2.1.From b := by
  have hlinked := ((hg.setObject hcaps (ascii "caps") (.caps (VideoCaps.toGstCaps {}))).binAddMany pipeline
    hes).linkMany (faults.host .link) [source, videoConvert, sourceCaps, tee]
  unfold setupElements
  simp only
  split
  · obtain ⟨hloop, hbins⟩ := spares_setupBranches faults pipeline tee 0 hlinked
    exact spares_finishSetup hf hloop (hbins hf.bins)
  · exact ⟨hlinked, hf⟩

/-- A set-up that succeeds drops none of the bins there were. -/
theorem spares_setupElements_ok (hg : g.Spares b Scheduled g') {pipeline source videoConvert sourceCaps tee : Nat}
    (hcaps : b ≤ sourceCaps) (hes : ∀ e ∈ [source, videoConvert, sourceCaps, tee], b ≤ e)
    (hok : (setupElements faults h pipeline source videoConvert sourceCaps tee g').1.ok = true) :
    g.Spares b Scheduled (setupElements faults h pipeline source videoConvert sourceCaps tee g').2.2 := by
  have hlinked := ((hg.setObject hcaps (ascii "caps") (.caps (VideoCaps.toGstCaps {}))).binAddMany pipeline
    hes).linkMany (faults.host .link) [source, videoConvert, sourceCaps, tee]
  unfold setupElements at hok ⊢
  simp only at hok ⊢
  split
  · next hlink =>
    obtain ⟨hloop, -⟩ := spares_setupBranches faults pipeline tee 0 hlinked
    rw [if_pos hlink] at hok
    generalize setupBranches faults pipeline tee 0 h.profileBins _ = loop at hok hloop ⊢
    obtain ⟨error, bins, g₁⟩ := loop
    cases error with
    | none => exact hloop
    | some reason => cases hok
  · exact hlinked

variable (faults) in
/-- None of the elements is a source, and all are new. -/
theorem spares_create (hg : g.Spares b Scheduled g') (hf : h.From b) (source : VideoSource) :
    g.Spares b Scheduled (create faults h g' source).2 ∧ (create faults h g' source).1.From b := by
  obtain ⟨h1, r1⟩ := hg.pipelineNew (faults.host .pipeline) (ascii "pipeline")
  unfold create
  simp only
  generalize g'.pipelineNew (faults.host .pipeline) (ascii "pipeline") = made at h1 r1
  obtain ⟨pipeline, g₁⟩ := made
  have hsource : g.Spares b Scheduled (source.createElement (faults.host .source) g₁).2 ∧
      ∀ r ∈ (source.createElement (faults.host .source) g₁).1, b ≤ r := by
    cases source
    · exact h1.factoryMake _ (by decide) _
    · exact h1.factoryMake _ (by decide) _
  obtain ⟨h2, r2⟩ := hsource
  generalize source.createElement (faults.host .source) g₁ = made at h2 r2
  obtain ⟨src, g₂⟩ := made
  obtain ⟨h3, r3⟩ := h2.factoryMake (faults.host .videoConvert) (by decide : ¬ Scheduled (ascii "videoconvert") none)
    (ascii "video-convert")
  generalize g₂.factoryMake (faults.host .videoConvert) (ascii "videoconvert") (ascii "video-convert") = made at h3 r3
  obtain ⟨videoConvert, g₃⟩ := made
  obtain ⟨h4, r4⟩ := h3.factoryMake (faults.host .sourceCaps) (by decide : ¬ Scheduled (ascii "capsfilter") none)
    (ascii "source-caps")
  generalize g₃.factoryMake (faults.host .sourceCaps) (ascii "capsfilter") (ascii "source-caps") = made at h4 r4
  obtain ⟨sourceCaps, g₄⟩ := made
  obtain ⟨h5, r5⟩ := h4.factoryMake (faults.host .tee) (by decide : ¬ Scheduled (ascii "tee") none) (ascii "tee")
  exact ⟨h5, r1, r2, r3, r4, r5, hf.bins, hf.busSource⟩

/-- However `setupPipeline` ends, it worked on new objects, and none of them is a source. -/
theorem spares_setupPipeline (hg : g.Spares b Scheduled g') (hf : h.From b) :
    g.Spares b Scheduled (setupPipeline faults h g').2.2 ∧ (setupPipeline faults h g').2.1.From b := by
  rcases setupPipeline_shape faults h g' with ⟨-, reason, -, hres⟩ | ⟨source, -, -, hres⟩
  · rw [hres]
    exact ⟨hg, hf⟩
  · obtain ⟨hs, hf'⟩ := spares_create faults hg hf source
    rcases hres with hres | ⟨p, s, v, c, t, hcreate, hres⟩
    · rw [hres]
      exact ⟨spares_cleanup hs hf', hf'.clear⟩
    · have hc : b ≤ c := hf'.sourceCaps c (by rw [hcreate]; rfl)
      rw [hres]
      refine spares_setupElements hs hf' hc ?_
      simp only [List.mem_cons, List.not_mem_nil, or_false]
      rintro e (rfl | rfl | rfl | rfl)
      · exact hf'.source _ (by rw [hcreate]; rfl)
      · exact hf'.videoConvert _ (by rw [hcreate]; rfl)
      · exact hc
      · exact hf'.tee _ (by rw [hcreate]; rfl)

/-- The destructor of a host without a watch. -/
theorem spares_destroy {S : Bytes → Option Nat → Prop} (hg : g.Spares b S g') (hf : h.From b)
    (hwatch : h.watch.busSource = none) : g.Spares b S (h.destroy g') := by
  have hdetach : h.detachBusWatch g' = (h, g') := by
    rw [detachBusWatch, BusWatch.detachBusWatch, hwatch]
  unfold destroy
  rw [hdetach]
  exact spares_destroyBins (spares_cleanup hg hf) hf.bins

end ProfileHost

namespace RtspProfileServer

/-- The server and its source, if there is one, are objects from `b` on. -/
structure From (b : Nat) (s : RtspProfileServer) : Prop where
  server : ∀ r ∈ s.server, b ≤ r
  source : ∀ r ∈ s.source, b ≤ r

variable {h : ProfileHost} {bridge : Bridge}

theorem spares_addMount (hg : g.Spares b Scheduled bridge.gst) (hf : h.From b) (mountPoints : Nat) (name : Bytes) :
    g.Spares b Scheduled (addMount h mountPoints name bridge).gst := by
  have hle : b ≤ bridge.gst.next := hg.le'
  have hset := (((hg.alloc false (o := { type := ascii "GstRTSPMediaFactory" }) (by decide)).setObject hle
    (ascii "launch") (.string launch)).setObject hle (ascii "shared") (.boolean true)).connect hle
    ⟨.mediaConfigure, .onMediaConfigure, bridge.mounts.length⟩
  have hsink := hf.appSink name
  unfold addMount
  cases happ : h.appSinkForProfile name with
  | none => exact (hset.setObject hle _ _).setOwner hle mountPoints
  | some sink => exact ((hset.connect (hsink sink happ) _).setObject hle _ _).setOwner hle mountPoints

theorem spares_construct (hg : g.Spares b Scheduled bridge.gst) (hf : h.From b) (port : UInt16) :
    g.Spares b Scheduled (construct port h bridge).2.gst ∧ (construct port h bridge).1.From b ∧
      (construct port h bridge).1.source = none := by
  have hle : b ≤ bridge.gst.next := hg.le'
  have hle' : b ≤ bridge.gst.next + 1 := Nat.le_succ_of_le hle
  have hserver : g.Spares b Scheduled (withServer port bridge).gst :=
    (((((hg.alloc false (by decide)).alloc false (by decide)).setOwner hle' _).refSink hle).setObject hle _ _).ref hle'
  have hmounts : g.Spares b Scheduled (withMounts port h bridge).gst :=
    addMounts_invariant h _ (fun bridge' => g.Spares b Scheduled bridge'.gst) hserver
      (fun _ name hb => spares_addMount hb hf _ name) h.profiles
  refine ⟨hmounts.unref hle', ⟨?_, nofun⟩, rfl⟩
  rintro r ⟨⟩
  exact hle

theorem spares_destroy {S : Bytes → Option Nat → Prop} {s : RtspProfileServer} (hg : g.Spares b S bridge.gst)
    (hf : s.From b) (hsource : s.source = none) : g.Spares b S (s.destroy bridge).gst := by
  have hdetach : s.detach bridge.gst = (s, bridge.gst) := by rw [detach, hsource]
  unfold destroy
  rw [hdetach]
  exact hg.clearObject hf.server

end RtspProfileServer

end CameraPlatform
