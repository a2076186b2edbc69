import CameraPlatform.SetupRollback
import Mathlib.Data.List.Nodup

/-!
# A host that was set up

After a successful `setupPipeline` the branches lie apart in the heap, and their profiles have
distinct names, since otherwise two bins would have had the same name.
-/

namespace CameraPlatform
open ByteString RefHeap

namespace ProfileHost

/-- All branches are built, from the addresses `ns` on, and no message was posted yet. -/
structure Ready (h : ProfileHost) (g : Gst) (ns : List Nat) : Prop where
  isLinked : h.isLinked = true
  pipeline : ∃ p bus, h.pipeline = some p ∧ (g.obj p).bind (·.bus) = some bus ∧ bus < g.next ∧ g.queue bus = []
  built : ∃ tee start, Built tee start h.profileBins g ns
  names : (h.profileBins.map fun b => b.profile.name).Nodup

section
variable {faults : SetupFaults} {h : ProfileHost} {g : Gst}

theorem names_nodup_of_binNames {bins : List ProfileBin}
    (hn : (bins.map fun b => ProfileBin.binName b.profile).Nodup) :
    (bins.map fun b => b.profile.name).Nodup := by
  refine List.Nodup.of_map (fun name => cStr (ascii "profile-" ++ name)) ?_
  rw [List.map_map]
  exact hn

/-- With distinct names a lookup finds the branch itself. -/
theorem find_of_names (hn : (h.profileBins.map fun b => b.profile.name).Nodup) {b : ProfileBin}
    (hb : b ∈ h.profileBins) : h.find b.profile.name = some b := by
  unfold find
  cases hf : h.profileBins.find? fun c => c.profile.name == b.profile.name with
  | none => exact absurd (List.find?_eq_none.mp hf b hb) (by simp)
  | some c =>
    have hname : c.profile.name = b.profile.name := by simpa using List.find?_some hf
    rw [List.inj_on_of_nodup_map hn (List.mem_of_find?_eq_some hf) hb hname]

theorem ready_finish {p tee bus : Nat} (h₁ : ProfileHost) (hs : Shared p tee g) (hp : h₁.pipeline = some p)
    (hbus : (g.obj p).bind (·.bus) = some bus) (hlt : bus < g.next) (hq : g.queue bus = [])
    (hok : (h₁.finishSetup (setupBranches faults p tee 0 h₁.profileBins g)).1.ok = true) :
    ∃ ns, (h₁.finishSetup (setupBranches faults p tee 0 h₁.profileBins g)).2.1.Ready
      (h₁.finishSetup (setupBranches faults p tee 0 h₁.profileBins g)).2.2 ns := by
  have hprofiles := setupBranches_profiles faults 0 h₁.profileBins hs
  have hbuilt := setupBranches_ok faults 0 h₁.profileBins hs
  have hiff := setupBranches_iff faults 0 h₁.profileBins hs
  generalize setupBranches faults p tee 0 h₁.profileBins g = loop at hok hprofiles hbuilt hiff
  obtain ⟨error, bins, g'⟩ := loop
  cases error with
  | some reason => cases hok
  | none =>
    obtain ⟨ns, hns, hgrew⟩ := hbuilt rfl
    have hnames := names_nodup_of_binNames (hiff.mp rfl).names
    have hpipe : (g'.obj p).bind (·.bus) = some bus := by rw [hgrew.obj_eq hs.pipeline_lt]; exact hbus
    have hqueue : g'.queue bus = [] := by rw [Gst.queue, hgrew.obj_eq hlt]; exact hq
    refine ⟨ns, rfl, ⟨p, bus, hp, hpipe, Nat.lt_of_lt_of_le hlt hgrew.next_le, hqueue⟩, ⟨tee, _, hns⟩, ?_⟩
    have heq : bins.map (fun b => b.profile.name) = h₁.profileBins.map fun b => b.profile.name := by
      have := congrArg (List.map (·.name)) hprofiles
      rwa [List.map_map, List.map_map] at this
    show (bins.map fun b => b.profile.name).Nodup
    rw [heq]
    exact hnames

/-- A loop that reaches its end leaves the shared elements as they were. -/
theorem finishSetup_ok {p tee : Nat} (h₁ : ProfileHost) (hs : Shared p tee g)
    (hok : (h₁.finishSetup (setupBranches faults p tee 0 h₁.profileBins g)).1.ok = true) :
    (h₁.finishSetup (setupBranches faults p tee 0 h₁.profileBins g)).2.1.pipeline = h₁.pipeline ∧
      g.Grew (h₁.finishSetup (setupBranches faults p tee 0 h₁.profileBins g)).2.2 := by
  have hbuilt := setupBranches_ok faults 0 h₁.profileBins hs
  generalize setupBranches faults p tee 0 h₁.profileBins g = loop at hok hbuilt
  obtain ⟨error, bins, g'⟩ := loop
  cases error with
  | some reason => cases hok
  | none =>
    obtain ⟨ns, -, hgrew⟩ := hbuilt rfl
    exact ⟨rfl, hgrew⟩

/-- The pipeline of a host that was set up is the first new object, and its bus the second. -/
theorem setupPipeline_bus (hok : (setupPipeline faults h g).1.ok = true) :
    (setupPipeline faults h g).2.1.pipeline = some g.next ∧
      ((setupPipeline faults h g).2.2.obj g.next).bind (·.bus) = some (g.next + 1) := by
  obtain ⟨source, g', -, -, -, hl, hres⟩ := setupPipeline_ok hok
  rw [hres] at hok ⊢
  obtain ⟨hp, hgrew⟩ := finishSetup_ok (h.withShared g.next) hl.shared hok
  exact ⟨hp, (congrArg (Option.bind · _) (hgrew.obj_eq hl.shared.pipeline_lt)).trans hl.bus⟩

theorem setupPipeline_ready (hok : (setupPipeline faults h g).1.ok = true) :
    ∃ ns, (setupPipeline faults h g).2.1.Ready (setupPipeline faults h g).2.2 ns := by
  obtain ⟨source, g', -, -, -, hl, hres⟩ := setupPipeline_ok hok
  rw [hres] at hok ⊢
  have hlt := hl.shared.tee_lt
  exact ready_finish (h.withShared g.next) hl.shared rfl hl.bus (by omega) hl.queue hok

namespace Ready
variable {ns : List Nat}

/-- The branch of one profile. -/
theorem branch (hr : h.Ready g ns) {b : ProfileBin} (hb : b ∈ h.profileBins) : ∃ n ∈ ns, b.Branch n g := by
  obtain ⟨tee, start, hbuilt⟩ := hr.built
  obtain ⟨i, hi⟩ := List.mem_iff_getElem?.mp hb
  obtain ⟨n, hn, hbr, -, -⟩ := hbuilt.branch hi
  exact ⟨n, List.mem_of_getElem? hn, hbr⟩

/-- Branches that share an address are the same. -/
theorem eq_of_address (hr : h.Ready g ns) {b b' : ProfileBin} (hb : b ∈ h.profileBins) (hb' : b' ∈ h.profileBins)
    {n : Nat} (hbr : b.Branch n g) (hbr' : b'.Branch n g) : b = b' := by
  obtain ⟨tee, start, hbuilt⟩ := hr.built
  obtain ⟨i, hi⟩ := List.mem_iff_getElem?.mp hb
  obtain ⟨j, hj⟩ := List.mem_iff_getElem?.mp hb'
  obtain ⟨m, hm, hm', -, -⟩ := hbuilt.branch hi
  obtain ⟨m', hn, hn', -, -⟩ := hbuilt.branch hj
  obtain rfl : m = n := Option.some.inj (hm'.bin.symm.trans hbr.bin)
  obtain rfl : m' = m := Option.some.inj (hn'.bin.symm.trans hbr'.bin)
  have hnodup : ns.Nodup := hbuilt.apart.imp (by intro a b hab; omega)
  have hij : i = j := by
    obtain ⟨hi', hmi⟩ := List.getElem?_eq_some_iff.mp hm
    obtain ⟨hj', hmj⟩ := List.getElem?_eq_some_iff.mp hn
    exact (hnodup.getElem_inj_iff).mp (hmi.trans hmj.symm)
  subst hij
  exact Option.some.inj (hi.symm.trans hj)

theorem eq_of_valve (hr : h.Ready g ns) {b b' : ProfileBin} (hb : b ∈ h.profileBins) (hb' : b' ∈ h.profileBins)
    (hv : b.valve = b'.valve) : b = b' := by
  obtain ⟨n, -, hbr⟩ := hr.branch hb
  obtain ⟨n', -, hbr'⟩ := hr.branch hb'
  rw [hbr.valve, hbr'.valve] at hv
  obtain rfl : n = n' := by simpa using hv
  exact hr.eq_of_address hb hb' hbr hbr'

end Ready

end

end ProfileHost

end CameraPlatform
