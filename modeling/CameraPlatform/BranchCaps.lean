import CameraPlatform.HostEvents

/-!
# The caps of the source and of the branches

Every branch scales the picture of the shared source and can change neither its format nor its rate. The
caps on either side are fixed by different classes, and nothing compares them.
-/

namespace CameraPlatform
open ByteString RefHeap

/-- The caps set on a capsfilter. -/
def Gst.capsOf (g : Gst) (r : Nat) : Option RawCaps :=
  match g.prop r (ascii "caps") with
  | some (.caps c) => some c
  | _ => none

/-- Scaling down leads from the caps of the source to those of the branch of `profile`. -/
structure Downscales (source branch : RawCaps) (profile : ProfileInfo) : Prop where
  format : source.format = branch.format
  framerate : source.fpsNum.toInt * branch.fpsDenom.toInt = branch.fpsNum.toInt * source.fpsDenom.toInt
  width : (profile.width.toNat : Int) ≤ source.width.toInt
  height : (profile.height.toNat : Int) ≤ source.height.toInt

/-- The caps of the source lead to those of the branch exactly if the profile is no larger, at 30 frames. -/
theorem downscales_iff (profile : ProfileInfo) :
    Downscales (VideoCaps.toGstCaps {}) (ProfileBin.branchCaps profile) profile ↔
      profile.fps = 30 ∧ profile.width ≤ 640 ∧ profile.height ≤ 480 := by
  have hfps : (30 : Int32).toInt * (1 : Int32).toInt = profile.fps.toInt32.toInt * (1 : Int32).toInt ↔
      profile.fps = 30 := by
    rw [show (1 : Int32).toInt = 1 from rfl, Int.mul_one, Int.mul_one, Int32.toInt_inj]
    exact ⟨fun h => (congrArg Int32.toUInt32 (h : (30 : UInt32).toInt32 = _)).symm, fun h => by rw [h]; rfl⟩
  have hle : ∀ (a b : UInt32) (i : Int32), i.toInt = b.toNat → ((a.toNat : Int) ≤ i.toInt ↔ a ≤ b) := by
    intro a b i hi
    rw [hi, Int.ofNat_le, UInt32.le_iff_toNat_le]
  rw [← hfps, ← hle profile.width 640 640 rfl, ← hle profile.height 480 480 rfl]
  exact ⟨fun h => ⟨h.framerate, h.width, h.height⟩, fun h => ⟨rfl, h.1, h.2.1, h.2.2⟩⟩

namespace Gst
variable {g g' : Gst}

theorem capsOf_eq {r : Nat} {c : RawCaps} (h : g.prop r (ascii "caps") = some (.caps c)) : g.capsOf r = some c := by
  rw [capsOf, h]

/-- New owners are `p` and new objects. -/
def Owners (p : Nat) (g g' : Gst) : Prop :=
  ∀ x q, g'.owner x = some q → g.owner x = some q ∨ q = p ∨ g.next ≤ q

theorem Owners.trans {p : Nat} {g'' : Gst} (h : Owners p g g') (h' : Owners p g' g'') (hnext : g.next ≤ g'.next) :
    Owners p g g'' := by
  intro x q hq
  rcases h' x q hq with hq | hq | hq
  · exact h x q hq
  · exact .inr (.inl hq)
  · exact .inr (.inr (Nat.le_trans hnext hq))

end Gst

namespace ProfileBin

/-- The capsfilter of the branch. -/
def capsFilter (b : ProfileBin) (g : Gst) : Option Nat :=
  b.bin.bind fun bin => (g.heap.children bin).find? fun c => g.name c == ascii "caps-filter"

/-- The capsfilter of the branch that was built from the address `n` on. -/
structure Filter (b : ProfileBin) (n : Nat) (g : Gst) : Prop where
  bin : b.bin = some n
  owner : g.owner (n + 5) = some n
  name : g.name (n + 5) = ascii "caps-filter"
  only : ∀ x, g.owner x = some n → g.name x = ascii "caps-filter" → x = n + 5
  caps : g.prop (n + 5) (ascii "caps") = some (.caps (branchCaps b.profile))

section
variable {b : ProfileBin} {n : Nat} {g g' : Gst}

theorem Filter.capsFilter (h : b.Filter n g) : b.capsFilter g = some (n + 5) := by
  rw [ProfileBin.capsFilter, h.bin, Option.bind_some]
  cases hf : (g.heap.children n).find? fun c => g.name c == ascii "caps-filter" with
  | none => exact absurd (List.find?_eq_none.mp hf _ (Heap.mem_children.mpr h.owner)) (by simp [h.name])
  | some c =>
    rw [h.only c (Heap.mem_children.mp (List.mem_of_find?_eq_some hf)) (by simpa using List.find?_some hf)]

theorem Filter.congr {p : Nat} (h : b.Filter n g) (hobj : ∀ x < g.next, g'.obj x = g.obj x)
    (hkeep : g'.owner (n + 5) = g.owner (n + 5)) (howner : g.Owners p g') (hp : n ≠ p) : b.Filter n g' := by
  have hlt := Gst.lt_of_owner h.owner
  refine ⟨h.bin, hkeep.trans h.owner, (Gst.name_congr _ (hobj _ hlt)).trans h.name, ?_, ?_⟩
  · intro x hx hname
    rcases howner x n hx with hx | hx | hx
    · exact h.only x hx ((Gst.name_congr x (hobj x (Gst.lt_of_owner hx))).symm.trans hname)
    · exact absurd hx hp
    · have := Gst.owner_lt_next h.owner
      omega
  · rw [Gst.prop, hobj _ hlt]
    exact h.caps

theorem prop_configure_caps {appSink capsFilter enc : Nat} {o : GObject} (ho : g.obj capsFilter = some o) :
    (b.configure appSink capsFilter enc g).prop capsFilter (ascii "caps") = some (.caps (branchCaps b.profile)) := by
  refine configure_rule (P := fun g' => g'.prop capsFilter (ascii "caps") = some (.caps (branchCaps b.profile)))
    (fun g r key v hkey hprop => ?_) b ?_
  · rw [Gst.prop_setObject, if_neg fun h => hkey h.2.1.symm]
    exact hprop
  · rw [Gst.prop_setObject, if_pos ⟨rfl, rfl, by rw [ho]; rfl⟩]

/-- `createElement` leaves one capsfilter in the bin, with the caps of the profile. -/
theorem createElement_filter {fails : BinCall → Bool} (h : ∀ c, fails c = false) :
    (createElement fails b g).2.1.Filter g.next (createElement fails b g).2.2 := by
  rw [createElement_made fun c _ => h c, h .link]
  simp only
  generalize hb1 : ({ b with bin := some g.next, valve := some (g.next + 1), appSink := some (g.next + 2) } :
    ProfileBin) = b1
  have hset := setOnly_configure b1 (g.next + 2) (g.next + 5) (g.next + 6) (g.allocAll (parts (binName b.profile)))
  have hcaps := Gst.obj_allocAll (g := g) (parts (binName b.profile)) (by decide : 5 < 7)
  have hfits := fits_parts (binName b.profile) hset
  obtain ⟨g', hres, -, -, howner, -, hobj⟩ := assemble_ok (b := b1) hfits
  have hself : g'.obj (g.next + 5) = _ := (hobj (g.next + 5)).trans (if_neg (by omega))
  have hname : g'.name (g.next + 5) = ascii "caps-filter" :=
    (Gst.name_congr _ hself).trans (hset.name hcaps)
  rw [hres]
  refine ⟨by rw [← hb1], by rw [howner, if_pos (by simp)], hname, fun x hx hx' => ?_, ?_⟩
  · rw [howner] at hx
    split at hx
    · next hmem =>
      -- the elements of the branch have different names
      refine List.inj_on_of_nodup_map hfits.names hmem (by simp) ?_
      rw [← Gst.name_congr x ((hobj x).trans (if_neg (hfits.ne x hmem))), hx', ← hname, Gst.name_congr _ hself]
    · rw [hset.owner, Gst.owner_allocAll] at hx
      exact absurd (Gst.owner_lt_next hx) (Nat.lt_irrefl _)
  · rw [Gst.prop, hself]
    exact prop_configure_caps hcaps

end

end ProfileBin

namespace ProfileHost
variable {faults : SetupFaults} {h : ProfileHost} {g : Gst} {p tee : Nat}

variable (faults) in
/-- A loop that reaches its end leaves the capsfilter of every branch as it was built. -/
theorem setupBranches_filters (k : Nat) (bs : List ProfileBin) (hs : Shared p tee g)
    (hok : (setupBranches faults p tee k bs g).1 = none) :
    g.Owners p (setupBranches faults p tee k bs g).2.2 ∧ g.Grew (setupBranches faults p tee k bs g).2.2 ∧
      ∀ b ∈ (setupBranches faults p tee k bs g).2.1, ∃ n, b.Filter n (setupBranches faults p tee k bs g).2.2 := by
  induction bs generalizing k g with
  | nil => exact ⟨fun _ _ hq => .inl hq, .refl, by simp [setupBranches]⟩
  | cons b bs ih =>
    have hgrew := @ProfileBin.grew_createElement (faults.bin k) b g
    by_cases hcalls : ∀ c, faults.bin k c = false
    · obtain ⟨b', g₁, hres, -, hbranch, -, hfree, howner⟩ := @ProfileBin.createElement_ok (faults.bin k) b g hcalls
      have hfilter := @ProfileBin.createElement_filter b g (faults.bin k) hcalls
      rw [hres] at hgrew hfilter
      have hcases := addBranch_cases (faults.host (.padLink k)) hgrew rfl hs hbranch hfree
      have hgrew₂ : g.Grew ((g₁.binAdd p g.next).padLink (faults.host (.padLink k)) tee g.next).2 :=
        (hgrew.binAdd (Nat.le_refl _) p).padLink ..
      have hobj : ∀ x, ((g₁.binAdd p g.next).padLink (faults.host (.padLink k)) tee g.next).2.obj x = g₁.obj x := by
        simp
      unfold setupBranches at hok ⊢
      rw [hres] at hok ⊢
      simp only at hok ⊢
      generalize (g₁.binAdd p g.next).padLink (faults.host (.padLink k)) tee g.next = linked at *
      obtain ⟨ok, g₂⟩ := linked
      rcases hcases with ⟨rfl, -, -, howner₂, -⟩ | ⟨rfl, -⟩
      · have hmade : g.Owners p g₂ := by
          intro x q hq
          rw [howner₂] at hq
          split at hq
          · exact .inr (.inl (Option.some.inj hq).symm)
          · exact (howner x q hq).imp id fun hq => .inr (Nat.le_of_eq hq.symm)
        have hlinked : b'.Filter g.next g₂ := by
          refine hfilter.congr (fun x _ => hobj x) ?_ (p := p) ?_ ?_
          · rw [howner₂, if_neg (by omega)]
          · intro x q hq
            rw [howner₂] at hq
            split at hq
            · exact .inr (.inl (Option.some.inj hq).symm)
            · exact .inl hq
          · exact Nat.ne_of_gt hs.pipeline_lt
        obtain ⟨howners, hrest, hfilters⟩ := ih (k + 1) (hs.mono hgrew₂) hok
        refine ⟨hmade.trans howners hgrew₂.next_le, hgrew₂.trans hrest, fun c hc => ?_⟩
        rcases List.mem_cons.mp hc with rfl | hc
        · exact ⟨_, hlinked.congr (fun _ hx => hrest.obj_eq hx) (hrest.owner_eq (Gst.lt_of_owner hlinked.owner))
            howners (Nat.ne_of_gt hs.pipeline_lt)⟩
        · exact hfilters c hc
      · cases hok
    · have hc : ∃ c, faults.bin k c = true := by simpa using hcalls
      have hnone := (@ProfileBin.createElement_error (faults.bin k) b g hc).1
      unfold setupBranches at hok
      generalize b.createElement (faults.bin k) g = made at hok hnone
      obtain ⟨bin, b', g₁⟩ := made
      obtain rfl : bin = none := hnone
      cases hok

/-- The caps of the shared source lead to those of the branch. -/
def Satisfiable (h : ProfileHost) (g : Gst) (b : ProfileBin) : Prop :=
  ∃ source branch, h.sourceCaps.bind g.capsOf = some source ∧ (b.capsFilter g).bind g.capsOf = some branch ∧
    Downscales source branch b.profile

/-- A host that was set up has fixed the caps on both sides. -/
theorem setupPipeline_caps (hok : (setupPipeline faults h g).1.ok = true) :
    (setupPipeline faults h g).2.1.sourceCaps.bind (setupPipeline faults h g).2.2.capsOf =
        some (VideoCaps.toGstCaps {}) ∧
      ∀ b ∈ (setupPipeline faults h g).2.1.profileBins,
        (b.capsFilter (setupPipeline faults h g).2.2).bind (setupPipeline faults h g).2.2.capsOf =
          some (ProfileBin.branchCaps b.profile) := by
  obtain ⟨source, g', -, -, -, hl, hres⟩ := setupPipeline_ok hok
  rw [hres, ok_finishSetup] at hok
  obtain ⟨-, hgrew, hfilters⟩ := setupBranches_filters faults 0 h.profileBins hl.shared hok
  rw [hres]
  generalize setupBranches faults g.next (g.next + 5) 0 h.profileBins g' = loop at hok hgrew hfilters
  obtain ⟨error, bins, g''⟩ := loop
  obtain rfl : error = none := hok
  have hlt : g.next + 4 < g'.next := Nat.lt_of_succ_lt hl.shared.tee_lt
  refine ⟨Gst.capsOf_eq ?_, fun b hb => ?_⟩
  · show (g''.obj (g.next + 4)).bind _ = _
    rw [hgrew.obj_eq hlt]
    exact hl.caps
  · obtain ⟨n, hn⟩ := hfilters b hb
    show (b.capsFilter g'').bind g''.capsOf = _
    rw [hn.capsFilter]
    exact Gst.capsOf_eq hn.caps

/-- Once a host is set up, the source can be scaled down for a profile exactly if the profile has 30 frames a
second and at most 640×480 pixels. -/
theorem branchCaps_satisfiable_iff (faults : SetupFaults) (h : ProfileHost) (g : Gst)
    (hok : (setupPipeline faults h g).1.ok = true) :
    ∀ b ∈ (setupPipeline faults h g).2.1.profileBins,
      (setupPipeline faults h g).2.1.Satisfiable (setupPipeline faults h g).2.2 b ↔
        b.profile.fps = 30 ∧ b.profile.width ≤ 640 ∧ b.profile.height ≤ 480 := by
  intro b hb
  obtain ⟨hsource, hbranch⟩ := setupPipeline_caps hok
  rw [← downscales_iff]
  constructor
  · rintro ⟨source, branch, hs, hbr, hd⟩
    obtain rfl := Option.some.inj (hsource.symm.trans hs)
    obtain rfl := Option.some.inj ((hbranch b hb).symm.trans hbr)
    exact hd
  · exact fun hd => ⟨_, _, hsource, hbranch b hb, hd⟩

/-- A catalog of one small profile. -/
theorem branchCaps_satisfiable_small :
    let h := ((ProfileHost.new [{ name := ascii "small", width := 320, height := 240 }]).setVideoSource
      (some .TestVideoSource)).2
    let res := setupPipeline ⟨fun _ => false, fun _ _ => false⟩ h .init
    ∀ b ∈ res.2.1.profileBins, res.2.1.Satisfiable res.2.2 b ↔
      b.profile.fps = 30 ∧ b.profile.width ≤ 640 ∧ b.profile.height ≤ 480 := by
  intro h
  exact branchCaps_satisfiable_iff _ h .init (by decide +kernel)

/-- The branch of the profile `hd` scales up. -/
theorem branchCaps_unsatisfiable_hd :
    let h := ((ProfileHost.new [{ name := ascii "hd", width := 1920, height := 1080 }]).setVideoSource
      (some .TestVideoSource)).2
    let res := setupPipeline ⟨fun _ => false, fun _ _ => false⟩ h .init
    res.1.ok = true ∧ ¬ ∀ b ∈ res.2.1.profileBins, 0 < b.profile.width → 0 < b.profile.height → 0 < b.profile.fps →
      res.2.1.Satisfiable res.2.2 b := by
  intro h res
  refine ⟨by decide +kernel, fun hall => ?_⟩
  have hbins : res.2.1.profileBins =
      [⟨{ name := ascii "hd", width := 1920, height := 1080 }, some 6, some 7, some 8⟩] := by decide +kernel
  obtain ⟨source, branch, hs, -, hd⟩ := hall _ (by rw [hbins]; exact List.mem_singleton_self _) (by decide) (by decide)
    (by decide)
  have hsource : res.2.1.sourceCaps.bind res.2.2.capsOf = some (VideoCaps.toGstCaps {}) := by decide +kernel
  obtain rfl := Option.some.inj (hsource.symm.trans hs)
  exact absurd hd.width (by decide)

end ProfileHost

end CameraPlatform
