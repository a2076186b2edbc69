import CameraPlatform.BranchCaps
import CameraPlatform.GstLinks

/-!
# What `setupPipeline` links

A setup that succeeds adds the links of the shared elements, and for each branch those of its elements
and the one from the tee. Whatever a setup adds starts at elements that exist.
-/

namespace CameraPlatform
open ByteString RefHeap

namespace Gst
variable {g g' : Gst}

/-- Links start at elements that exist. -/
def Tied (g : Gst) : Prop := ∀ l ∈ g.links, l.1 < g.next

theorem links_allocAll (os : List GObject) : (g.allocAll os).links = g.links := by
  induction os generalizing g with
  | nil => rfl
  | cons o os ih => exact ih

theorem Tied.keep (h : g.Tied) (hlinks : g'.links = g.links) (hnext : g.next ≤ g'.next) : g'.Tied := fun l hl =>
  Nat.lt_of_lt_of_le (h l (hlinks ▸ hl)) hnext

theorem lt_of_sameBin {a b : Nat} (h : g.sameBin a b = true) : a < g.next := by
  obtain ⟨hsome, -⟩ := Bool.and_eq_true_iff.mp h
  obtain ⟨p, hp⟩ := Option.isSome_iff_exists.mp hsome
  exact lt_of_owner hp

theorem Tied.link (h : g.Tied) {a b : Nat} (ha : a < g.next) : ({ g with links := g.links ++ [(a, b)] } : Gst).Tied := by
  intro l hl
  rcases List.mem_append.mp hl with hl | hl
  · exact h l hl
  · rw [List.mem_singleton.mp hl]
    exact ha

theorem Tied.linkPairs (es : List Nat) (h : g.Tied) : (Gst.linkPairs es g).2.Tied := by
  fun_induction Gst.linkPairs es g with
  | case1 a b es g hs ih => exact ih (h.link (lt_of_sameBin hs))
  | case2 => exact h
  | case3 => exact h

theorem Tied.linkMany (fails : Bool) (es : List Nat) (h : g.Tied) : (g.linkMany fails es).2.Tied := by
  cases fails with
  | false => exact h.linkPairs es
  | true => exact h

theorem Tied.padLink (fails : Bool) (tee bin : Nat) (h : g.Tied) : (g.padLink fails tee bin).2.Tied := by
  unfold Gst.padLink
  split
  · next hsame => exact h.link (lt_of_sameBin (Bool.and_eq_true_iff.mp hsame).2)
  · exact h

theorem Tied.binAdd (bin e : Nat) (h : g.Tied) : (g.binAdd bin e).Tied :=
  h.keep (links_binAdd ..) (Nat.le_of_eq (next_binAdd ..).symm)

theorem Tied.binAddMany (bin : Nat) (es : List Nat) (h : g.Tied) : (g.binAddMany bin es).Tied :=
  h.keep (links_binAddMany ..) (Nat.le_of_eq (next_binAddMany ..).symm)

theorem Tied.factoryMake (fails : Bool) (type name : Bytes) (h : g.Tied) : (g.factoryMake fails type name).2.Tied :=
  h.keep (links_factoryMake ..) (Grew.refl.factoryMake ..).next_le

theorem Tied.clearObject (p : Option Nat) (h : g.Tied) : (g.clearObject p).Tied := by
  cases p with
  | none => exact h
  | some r => exact h.keep rfl (Nat.le_of_eq (next_unref r).symm)

theorem Tied.setOnly (h : g.Tied) (hs : g.SetOnly g') : g'.Tied := h.keep hs.links (Nat.le_of_eq hs.next.symm)

/-! ### Elements -/

/-- What decides on which way an element hands on what it gets. -/
def shape (o : GObject) : Bytes × Option Nat := (o.type, o.ghostSink)

instance : Plumbing shape := ⟨fun _ _ => rfl, fun _ _ => rfl, fun _ _ => rfl⟩

/-- The objects from the address `n` on have these shapes. -/
def Laid (n : Nat) (shapes : List (Bytes × Option Nat)) (g : Gst) : Prop :=
  ∀ k < shapes.length, (g.obj (n + k)).map shape = shapes[k]?

theorem Laid.same {n : Nat} {shapes : List (Bytes × Option Nat)} (h : g.Laid n shapes) (hs : Gst.Same shape g g') :
    g'.Laid n shapes := by
  intro k hk
  have hread := h k hk
  rw [List.getElem?_eq_getElem hk] at hread ⊢
  obtain ⟨o, ho, -⟩ := Option.map_eq_some_iff.mp hread
  exact (hs.read (lt_of_obj ho)).trans hread

end Gst

namespace ProfileBin
variable {fails : BinCall → Bool} {b : ProfileBin} {g g' : Gst}

theorem tied_assemble {bin valve appSink queue scale capsFilter enc : Nat} (fails : Bool) (h : g.Tied) :
    (assemble fails b bin valve appSink queue scale capsFilter enc g).2.2.Tied := by
  have hlinked := (h.binAddMany bin [queue, valve, scale, capsFilter, enc, appSink]).linkMany fails
    [queue, valve, scale, capsFilter, enc, appSink]
  unfold assemble
  simp only
  split
  · exact hlinked.keep rfl (by simp [Gst.addGhostSink])
  · exact hlinked.clearObject _

theorem tied_createElement (h : g.Tied) : (b.createElement fails g).2.2.Tied := by
  have hmade := ((((((h.factoryMake (fails .bin) (ascii "bin") (cStr (ascii "profile-" ++ b.profile.name))).factoryMake
    (fails .valve) (ascii "valve") (ascii "valve")).factoryMake (fails .appSink) (ascii "appsink")
    (ascii "app-sink")).factoryMake (fails .queue) (ascii "queue") (ascii "queue")).factoryMake (fails .scale)
    (ascii "videoscale") (ascii "scale")).factoryMake (fails .capsFilter) (ascii "capsfilter")
    (ascii "caps-filter")).factoryMake (fails .enc) (ascii "x264enc") (ascii "enc")
  unfold createElement
  simp only
  split
  · exact tied_assemble _ (hmade.setOnly (setOnly_configure ..))
  · exact ((hmade.clearObject _).clearObject _).clearObject _

/-- The links inside the branch that was built from the address `n` on. -/
def chain (n : Nat) : List (Nat × Nat) := [(n + 3, n + 1), (n + 1, n + 4), (n + 4, n + 5), (n + 5, n + 6), (n + 6, n + 2)]

/-- The objects of that branch. -/
def shapes (n : Nat) : List (Bytes × Option Nat) :=
  [(ascii "bin", some (n + 3)), (ascii "valve", none), (ascii "appsink", none), (ascii "queue", none),
    (ascii "videoscale", none), (ascii "capsfilter", none), (ascii "x264enc", none)]

theorem createElement_laid (h : ∀ c, fails c = false) :
    (b.createElement fails g).2.2.links = g.links ++ chain g.next ∧
      (b.createElement fails g).2.2.Laid g.next (shapes g.next) := by
  rw [createElement_made fun c _ => h c, h .link]
  simp only
  generalize hb1 : ({ b with bin := some g.next, valve := some (g.next + 1), appSink := some (g.next + 2) } :
    ProfileBin) = b1
  have hset := setOnly_configure b1 (g.next + 2) (g.next + 5) (g.next + 6) (g.allocAll (parts (binName b.profile)))
  obtain ⟨g', hres, -, -, -, hlinks, hobj⟩ := assemble_ok (b := b1) (fits_parts (binName b.profile) hset)
  rw [hres]
  refine ⟨?_, fun k hk => ?_⟩
  · rw [hlinks, hset.links, Gst.links_allocAll]
    rfl
  · have hk : k < (parts (binName b.profile)).length := hk
    have hpart := Gst.obj_allocAll (g := g) (parts (binName b.profile)) hk
    rw [List.getElem?_eq_getElem hk] at hpart
    obtain ⟨props, hpart⟩ := hset.obj _ _ hpart
    rw [hobj, hpart]
    -- the bin alone has a ghost pad
    match k with
    | 0 => rw [if_pos (Nat.add_zero _)]; rfl
    | 1 | 2 | 3 | 4 | 5 | 6 => rw [if_neg (by omega)]; rfl

end ProfileBin

namespace ProfileHost
open ProfileBin

section
variable {faults : SetupFaults} {h : ProfileHost} {g : Gst}

/-! ### Failing or not -/

theorem tied_setupBranches (p tee k : Nat) (bs : List ProfileBin) (ht : g.Tied) :
    (setupBranches faults p tee k bs g).2.2.Tied := by
  induction bs generalizing k g with
  | nil => exact ht
  | cons b bs ih =>
    have hmade := @tied_createElement (faults.bin k) b g ht
    unfold setupBranches
    generalize b.createElement (faults.bin k) g = made at hmade
    obtain ⟨bin, b', g₁⟩ := made
    cases bin with
    | none => exact hmade
    | some bin =>
      have hlinked := (hmade.binAdd p bin).padLink (faults.host (.padLink k)) tee bin
      simp only
      generalize (g₁.binAdd p bin).padLink (faults.host (.padLink k)) tee bin = linked at hlinked
      obtain ⟨ok, g₂⟩ := linked
      cases ok with
      | false => exact hlinked
      | true => exact ih (k + 1) hlinked

theorem tied_cleanup (ht : g.Tied) : (h.cleanup g).2.Tied := by
  unfold cleanup
  simp only
  split
  · split
    · exact Gst.Tied.clearObject _ (ht.keep rfl (by simp [Gst.setState]))
    · exact ht.clearObject _
  · exact ((((ht.clearObject _).clearObject _).clearObject _).clearObject _).clearObject _

theorem tied_setupElements (p s v c tee : Nat) (ht : g.Tied) : (setupElements faults h p s v c tee g).2.2.Tied := by
  have hset : (g.setObject c (ascii "caps") (.caps (VideoCaps.toGstCaps {}))).Tied :=
    ht.setOnly (Gst.SetOnly.refl.setObject ..)
  have hlinked := (hset.binAddMany p [s, v, c, tee]).linkMany (faults.host .link) [s, v, c, tee]
  unfold setupElements
  simp only
  split
  · have hloop := @tied_setupBranches faults _ p tee 0 h.profileBins hlinked
    generalize setupBranches faults p tee 0 h.profileBins _ = loop at hloop
    obtain ⟨error, bins, g'⟩ := loop
    cases error with
    | none => exact hloop
    | some reason => exact tied_cleanup hloop
  · exact hlinked

theorem tied_create (source : VideoSource) (ht : g.Tied) : (create faults h g source).2.Tied := by
  refine ht.keep ?_ (grew_create faults h g source).next_le
  have hsource : ∀ g : Gst, (source.createElement (faults.host .source) g).2.links = g.links := by
    intro g
    cases source <;> exact g.links_factoryMake ..
  simp only [create, Gst.links_factoryMake, hsource, Gst.links_pipelineNew]

theorem tied_setupPipeline (ht : g.Tied) : (setupPipeline faults h g).2.2.Tied := by
  rcases setupPipeline_shape faults h g with ⟨-, reason, -, hres⟩ | ⟨source, -, -, hres | ⟨p, s, v, c, t, -, hres⟩⟩
  · rw [hres]
    exact ht
  · rw [hres]
    exact tied_cleanup (tied_create source ht)
  · rw [hres]
    exact tied_setupElements p s v c t (tied_create source ht)

/-! ### A setup that succeeds -/

/-- The links of the branches that were built from the addresses `ns` on. -/
def branchLinks (tee : Nat) (ns : List Nat) : List (Nat × Nat) := ns.flatMap fun n => chain n ++ [(tee, n)]

/-- Where the elements of the branches are that are switched and read. -/
def taps (h : ProfileHost) : List (Option Nat × Option Nat) := h.profileBins.map fun b => (b.valve, b.appSink)

/-- A loop that reaches its end has linked every branch, and nothing else. -/
theorem setupBranches_laid {p tee : Nat} (k : Nat) (bs : List ProfileBin) (hs : Shared p tee g)
    (hok : (setupBranches faults p tee k bs g).1 = none) :
    let res := setupBranches faults p tee k bs g
    g.Grew res.2.2 ∧ ∃ ns, (res.2.1.map fun b => (b.valve, b.appSink)) = ns.map (fun n => (some (n + 1), some (n + 2))) ∧
      ns.Pairwise (fun m n => m + 7 ≤ n) ∧ (∀ n ∈ ns, g.next ≤ n) ∧ res.2.2.links = g.links ++ branchLinks tee ns ∧
      ∀ n ∈ ns, res.2.2.Laid n (shapes n) := by
  induction bs generalizing k g with
  | nil => exact ⟨.refl, [], rfl, .nil, by simp, (List.append_nil _).symm, by simp⟩
  | cons b bs ih =>
    intro res
    have hgrew := @grew_createElement (faults.bin k) b g
    by_cases hcalls : ∀ c, faults.bin k c = false
    · obtain ⟨b', g₁, hres, -, hbranch, -, hfree, -⟩ := @createElement_ok (faults.bin k) b g hcalls
      obtain ⟨hlinks, hlaid⟩ := @createElement_laid (faults.bin k) b g hcalls
      rw [hres] at hgrew hlinks hlaid
      have hcases := addBranch_cases (faults.host (.padLink k)) hgrew rfl hs hbranch hfree
      have hgrew₂ : g.Grew ((g₁.binAdd p g.next).padLink (faults.host (.padLink k)) tee g.next).2 :=
        (hgrew.binAdd (Nat.le_refl _) p).padLink ..
      have hobj : ∀ x, ((g₁.binAdd p g.next).padLink (faults.host (.padLink k)) tee g.next).2.obj x = g₁.obj x := by
        simp
      have hnext : ((g₁.binAdd p g.next).padLink (faults.host (.padLink k)) tee g.next).2.next = g₁.next := by simp
      have hres' : res = setupBranches faults p tee k (b :: bs) g := rfl
      unfold setupBranches at hok hres'
      rw [hres] at hok hres'
      simp only at hok hres'
      generalize (g₁.binAdd p g.next).padLink (faults.host (.padLink k)) tee g.next = linked at *
      obtain ⟨ok, g₂⟩ := linked
      rcases hcases with ⟨rfl, -, -, -, hlinks₂, -⟩ | ⟨rfl, -⟩
      · obtain ⟨hrest, ns, htaps, hapart, hfrom, hmore, hshapes⟩ := ih (k + 1) (hs.mono hgrew₂) hok
        have hres' : res = ((setupBranches faults p tee (k + 1) bs g₂).1,
          b' :: (setupBranches faults p tee (k + 1) bs g₂).2.1, (setupBranches faults p tee (k + 1) bs g₂).2.2) := hres'
        have hroom : g.next + 7 ≤ g₂.next := hnext ▸ hbranch.room
        have hlaid₂ : g₂.Laid g.next (shapes g.next) := fun k hk => (congrArg _ (hobj _)).trans (hlaid k hk)
        rw [hres']
        refine ⟨hgrew₂.trans hrest, g.next :: ns, ?_, ?_, ?_, ?_, ?_⟩
        · rw [List.map_cons, List.map_cons, htaps, hbranch.valve, hbranch.appSink]
        · exact List.pairwise_cons.mpr ⟨fun n hn => Nat.le_trans hroom (hfrom n hn), hapart⟩
        · exact List.forall_mem_cons.mpr ⟨Nat.le_refl _, fun n hn => Nat.le_trans hgrew₂.next_le (hfrom n hn)⟩
        · rw [hmore, show g₂.links = _ from hlinks₂, show g₁.links = _ from hlinks, branchLinks, branchLinks,
            List.flatMap_cons, List.append_assoc, List.append_assoc, List.append_assoc]
        · exact List.forall_mem_cons.mpr ⟨hlaid₂.same hrest.keeps.same, hshapes⟩
      · cases hok
    · have hc : ∃ c, faults.bin k c = true := by simpa using hcalls
      have hnone := (@createElement_error (faults.bin k) b g hc).1
      unfold setupBranches at hok
      generalize b.createElement (faults.bin k) g = made at hok hnone
      obtain ⟨bin, b', g₁⟩ := made
      obtain rfl : bin = none := hnone
      cases hok

/-- The links of the shared elements of a pipeline that was made at the address `n`. -/
def sharedLinks (n : Nat) : List (Nat × Nat) := [(n + 2, n + 3), (n + 3, n + 4), (n + 4, n + 5)]

variable (faults g) in
/-- Where the loop starts when the shared elements link. -/
theorem setupElements_laid (source : VideoSource) (h : ProfileHost) (hlink : faults.host .link = false) :
    let n := g.next
    let res := setupElements faults h n (n + 2) (n + 3) (n + 4) (n + 5)
      ((g.pipelineNew false (ascii "pipeline")).2.allocAll (sharedParts source))
    ∃ g', Shared n (n + 5) g' ∧ g'.links = g.links ++ sharedLinks n ∧ g'.next = n + 6 ∧
      g'.Laid (n + 2) ((sharedParts source).map Gst.shape) ∧
      res = h.finishSetup (setupBranches faults n (n + 5) 0 h.profileBins g') := by
  intro n res
  obtain ⟨hnext₁, -⟩ := Gst.pipelineNew_spec (g := g) (ascii "pipeline")
  have hparts : ∀ k, (hk : k < 4) →
      ((g.pipelineNew false (ascii "pipeline")).2.allocAll (sharedParts source)).obj (n + 2 + k) =
        some (sharedParts source)[k] := by
    intro k hk
    have hpart := Gst.obj_allocAll (g := (g.pipelineNew false (ascii "pipeline")).2) (sharedParts source) hk
    rwa [hnext₁, List.getElem?_eq_getElem hk] at hpart
  generalize hg₂ : ((g.pipelineNew false (ascii "pipeline")).2.allocAll (sharedParts source)).setObject (n + 4)
    (ascii "caps") (.caps (VideoCaps.toGstCaps {})) = g₂
  obtain ⟨-, hnext, -, howner, -⟩ := sharedParts_added hg₂
  have hset : ((g.pipelineNew false (ascii "pipeline")).2.allocAll (sharedParts source)).SetOnly g₂ :=
    hg₂ ▸ Gst.SetOnly.refl.setObject ..
  have hobj : ∀ x, (g₂.binAddMany n [n + 2, n + 3, n + 4, n + 5]).obj x = g₂.obj x := Gst.obj_binAddMany _ _
  have hlinks : (g₂.binAddMany n [n + 2, n + 3, n + 4, n + 5]).links = g.links := by
    rw [Gst.links_binAddMany, hset.links, Gst.links_allocAll, Gst.links_pipelineNew]
  have hpairs := @Gst.linkPairs_eq (g₂.binAddMany n [n + 2, n + 3, n + 4, n + 5]) n [n + 2, n + 3, n + 4, n + 5] howner
  refine ⟨{ g₂.binAddMany n [n + 2, n + 3, n + 4, n + 5] with
    links := (g₂.binAddMany n [n + 2, n + 3, n + 4, n + 5]).links ++ sharedLinks n }, ⟨?_, ?_, ?_⟩, ?_, hnext, ?_, ?_⟩
  · exact Nat.lt_of_lt_of_eq (by omega) hnext.symm
  · exact Nat.lt_of_lt_of_eq (by omega) hnext.symm
  · exact howner (n + 5) (by simp [n])
  · exact congrArg (· ++ _) hlinks
  · intro k hk
    rw [List.length_map] at hk
    obtain ⟨props, hpart⟩ := hset.obj _ _ (hparts k hk)
    show ((g₂.binAddMany n [n + 2, n + 3, n + 4, n + 5]).obj (n + 2 + k)).map Gst.shape = _
    rw [hobj, hpart, List.getElem?_map, List.getElem?_eq_getElem hk]
    rfl
  · simp only [res, setupElements, hg₂, hlink, Gst.linkMany, hpairs, if_true, Bool.false_eq_true, if_false]
    rfl

/-- The elements that a setup made at the address `n`, with branches from the addresses `ns` on, and how they
are linked. -/
structure Plumbed (n : Nat) (ns : List Nat) (h : ProfileHost) (g : Gst) : Prop where
  source : h.source = some (n + 2)
  taps : h.taps = ns.map fun n => (some (n + 1), some (n + 2))
  apart : ns.Pairwise fun m m' => m + 7 ≤ m'
  after : ∀ m ∈ ns, n + 6 ≤ m
  links : ∀ l, n ≤ l.1 → (l ∈ g.links ↔ l ∈ sharedLinks n ++ branchLinks (n + 5) ns)
  shared : ∃ source, g.Laid (n + 2) ((sharedParts source).map Gst.shape)
  laid : ∀ m ∈ ns, g.Laid m (shapes m)

theorem setupPipeline_plumbed (ht : g.Tied) (hok : (setupPipeline faults h g).1.ok = true) :
    ∃ n ns, Plumbed n ns (setupPipeline faults h g).2.1 (setupPipeline faults h g).2.2 := by
  obtain ⟨source, -, hsource, hpipeline, hcalls, -, -⟩ := setupPipeline_ok hok
  obtain ⟨hlink, hmade⟩ := List.forall_mem_cons.mp hcalls
  rw [setupPipeline_made hsource hpipeline hmade] at hok ⊢
  obtain ⟨g', hs, hlinks, hnext, hlaid, hres⟩ := setupElements_laid faults g source (h.withShared g.next) hlink
  change (setupElements faults (h.withShared g.next) _ _ _ _ _ _).1.ok = true at hok
  change ∃ n ns, Plumbed n ns (setupElements faults (h.withShared g.next) _ _ _ _ _ _).2.1
    (setupElements faults (h.withShared g.next) _ _ _ _ _ _).2.2
  rw [hres] at hok ⊢
  rw [ok_finishSetup] at hok
  obtain ⟨hgrew, ns, htaps, hapart, hfrom, hmore, hshapes⟩ := setupBranches_laid 0 h.profileBins hs hok
  change (setupBranches faults g.next (g.next + 5) 0 h.profileBins g').1 = none at hok
  change ∃ n ns, Plumbed n ns ((h.withShared g.next).finishSetup (setupBranches faults _ _ 0 h.profileBins g')).2.1
    ((h.withShared g.next).finishSetup (setupBranches faults _ _ 0 h.profileBins g')).2.2
  generalize setupBranches faults g.next (g.next + 5) 0 h.profileBins g' = loop at *
  obtain ⟨error, bins, g''⟩ := loop
  obtain rfl : error = none := hok
  refine ⟨g.next, ns, rfl, htaps, hapart, fun m hm => hnext ▸ hfrom m hm, fun l hl => ?_,
    ⟨source, hlaid.same hgrew.keeps.same⟩, hshapes⟩
  -- the links of before start below
  rw [show ((h.withShared g.next).finishSetup (none, bins, g'')).2.2.links = _ from hmore, hlinks, List.append_assoc,
    List.mem_append]
  exact or_iff_right fun hold => Nat.not_lt.mpr hl (ht l hold)

end

end ProfileHost

end CameraPlatform
