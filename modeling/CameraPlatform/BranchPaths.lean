import CameraPlatform.ValvePaths

/-!
# What lies on the way to the appsink of a profile

A branch is entered through its queue alone, and its elements are linked in one line. So each path to an appsink
goes through the capsfilter with the caps of its profile, and then through the encoder with its rates.
-/

namespace CameraPlatform
open ByteString RefHeap

namespace Gst
variable {g : Gst}

def setAll (settings : List (Nat × Bytes × GValue)) (g : Gst) : Gst :=
  settings.foldl (fun g s => g.setObject s.1 s.2.1 s.2.2) g

theorem prop_setAll_ne {settings : List (Nat × Bytes × GValue)} {x : Nat} {key : Bytes}
    (h : (x, key) ∉ settings.map fun s => (s.1, s.2.1)) : (setAll settings g).prop x key = g.prop x key := by
  induction settings generalizing g with
  | nil => rfl
  | cons s settings ih =>
    obtain ⟨hne, hrest⟩ := not_or.mp (mt List.mem_cons.mpr h)
    refine (ih hrest).trans ?_
    rw [prop_setObject, if_neg]
    rintro ⟨rfl, rfl, -⟩
    exact hne rfl

theorem isSome_setObject (r : Nat) (key : Bytes) (v : GValue) (x : Nat) :
    ((g.setObject r key v).obj x).isSome = (g.obj x).isSome := by
  unfold setObject
  rw [obj_update]
  split
  · exact Option.isSome_map
  · rfl

/-- Different properties do not get in each other's way. -/
theorem prop_setAll {settings : List (Nat × Bytes × GValue)} (hnodup : (settings.map fun s => (s.1, s.2.1)).Nodup)
    (hobj : ∀ s ∈ settings, (g.obj s.1).isSome) :
    ∀ s ∈ settings, (setAll settings g).prop s.1 s.2.1 = some s.2.2 := by
  induction settings generalizing g with
  | nil => simp
  | cons s settings ih =>
    obtain ⟨hfresh, hnodup⟩ := List.nodup_cons.mp hnodup
    obtain ⟨hself, hrest⟩ := List.forall_mem_cons.mp hobj
    refine List.forall_mem_cons.mpr ⟨?_, ih hnodup fun t ht => ?_⟩
    · refine (prop_setAll_ne hfresh).trans ?_
      rw [prop_setObject, if_pos ⟨rfl, rfl, hself⟩]
    · rw [isSome_setObject]
      exact hrest t ht

end Gst

namespace ProfileBin

/-- The properties of the branch that was built from the address `m` on, but for the valve. -/
def properties (profile : ProfileInfo) (m : Nat) : List (Nat × Bytes × GValue) :=
  [(m + 5, ascii "caps", .caps (branchCaps profile)), (m + 6, ascii "speed-preset", .string (ascii "ultrafast")),
    (m + 6, ascii "tune", .string (ascii "zerolatency")), (m + 6, ascii "key-int-max", .uint profile.fps),
    (m + 6, ascii "bitrate", .uint profile.bitrateKbps), (m + 2, ascii "emit-signals", .boolean true)]

/-- Which properties these are, by the place of their element. -/
def tunedKeys : List (Nat × Bytes) :=
  [(5, ascii "caps"), (6, ascii "speed-preset"), (6, ascii "tune"), (6, ascii "key-int-max"), (6, ascii "bitrate"),
    (2, ascii "emit-signals")]

theorem properties_keys (profile : ProfileInfo) (m : Nat) :
    ((properties profile m).map fun s => (s.1, s.2.1)) = tunedKeys.map fun k => (m + k.1, k.2) := rfl

theorem tunedKeys_spec : ∀ k ∈ tunedKeys, k.2 ≠ ascii "drop" ∧ 1 < k.1 ∧ k.1 < 7 := by decide

theorem configure_eq (b : ProfileBin) (m : Nat) (g : Gst) :
    b.configure (m + 2) (m + 5) (m + 6) g = b.setDrop false (Gst.setAll (properties b.profile m) g) := rfl

/-- A branch has the properties of its profile. -/
structure Tuned (b : ProfileBin) (m : Nat) (g : Gst) : Prop where
  appSink : b.appSink = some (m + 2)
  set : ∀ s ∈ properties b.profile m, g.prop s.1 s.2.1 = some s.2.2

section
variable {b b' : ProfileBin} {m : Nat} {g g' : Gst}

theorem prop_setDrop (b : ProfileBin) (drop : Bool) (g : Gst) (x : Nat) {key : Bytes} (hkey : key ≠ ascii "drop") :
    (b.setDrop drop g).prop x key = g.prop x key := by
  unfold setDrop
  cases b.valve with
  | none => rfl
  | some valve => rw [Gst.prop_setObject, if_neg fun h => hkey h.2.1]

theorem mem_properties {profile : ProfileInfo} {s : Nat × Bytes × GValue} (h : s ∈ properties profile m) :
    ∃ k, (k, s.2.1) ∈ tunedKeys ∧ s.1 = m + k := by
  have hkey : (s.1, s.2.1) ∈ (properties profile m).map fun s => (s.1, s.2.1) := List.mem_map_of_mem h
  rw [properties_keys] at hkey
  obtain ⟨⟨k, key⟩, hk, heq⟩ := List.mem_map.mp hkey
  obtain ⟨hs, rfl⟩ := Prod.mk.inj heq
  exact ⟨k, hk, hs.symm⟩

theorem nodup_properties (profile : ProfileInfo) (m : Nat) : ((properties profile m).map fun s => (s.1, s.2.1)).Nodup := by
  rw [properties_keys]
  refine List.Nodup.map (fun k k' heq => ?_) (by decide)
  obtain ⟨hk, hkey⟩ := Prod.mk.inj heq
  exact Prod.ext (Nat.add_left_cancel hk) hkey

/-- Only the drop of the valve changes later. -/
theorem Tuned.keep (h : b.Tuned m g) (happSink : b'.appSink = b.appSink)
    (hproperties : properties b'.profile = properties b.profile)
    (hprop : ∀ x key v, key ≠ ascii "drop" → g.prop x key = some v → g'.prop x key = some v) : b'.Tuned m g' := by
  refine ⟨happSink.trans h.appSink, fun s hs => ?_⟩
  rw [hproperties] at hs
  obtain ⟨k, hk, -⟩ := mem_properties hs
  exact hprop _ _ _ (tunedKeys_spec _ hk).1 (h.set s hs)

theorem Tuned.same (h : b.Tuned m g) (hs : g.SameProps g') : b.Tuned m g' :=
  h.keep rfl rfl fun _ key _ _ hprop => (hs.prop (Gst.lt_of_prop hprop) key).trans hprop

theorem createElement_tuned {fails : BinCall → Bool} (h : ∀ c, fails c = false) :
    (createElement fails b g).2.1.Tuned g.next (createElement fails b g).2.2 := by
  rw [createElement_made fun c _ => h c, h .link]
  simp only
  generalize hb1 : ({ b with bin := some g.next, valve := some (g.next + 1), appSink := some (g.next + 2) } :
    ProfileBin) = b1
  have hset := setOnly_configure b1 (g.next + 2) (g.next + 5) (g.next + 6) (g.allocAll (parts (binName b.profile)))
  obtain ⟨g', hres, -, -, -, -, hobj⟩ := assemble_ok (b := b1) (fits_parts (binName b.profile) hset)
  have hmade : ∀ s ∈ properties b1.profile g.next, ((g.allocAll (parts (binName b.profile))).obj s.1).isSome := by
    intro s hs
    obtain ⟨k, hk, heq⟩ := mem_properties hs
    have hlt : k < (parts (binName b.profile)).length := (tunedKeys_spec _ hk).2.2
    rw [heq, Gst.obj_allocAll _ hlt, List.getElem?_eq_getElem hlt]
    rfl
  rw [hres]
  refine ⟨by rw [← hb1], fun s hs => ?_⟩
  obtain ⟨k, hk, heq⟩ := mem_properties hs
  obtain ⟨hdrop, hlt, -⟩ := tunedKeys_spec _ hk
  rw [Gst.prop, hobj, if_neg (by omega), configure_eq]
  exact (prop_setDrop b1 false _ s.1 hdrop).trans (Gst.prop_setAll (nodup_properties b1.profile g.next) hmade s hs)

end

end ProfileBin

namespace ProfileHost
open ProfileBin

section
variable {faults : SetupFaults} {h : ProfileHost} {g : Gst} {p tee : Nat}

/-- Each branch has the properties of its profile. -/
def Tuned (bs : List ProfileBin) (g : Gst) : Prop := ∀ b ∈ bs, ∃ m, b.Tuned m g

theorem setupBranches_tuned (k : Nat) (bs : List ProfileBin) (hok : (setupBranches faults p tee k bs g).1 = none) :
    Tuned (setupBranches faults p tee k bs g).2.1 (setupBranches faults p tee k bs g).2.2 := by
  induction bs generalizing k g with
  | nil => exact fun b hb => by cases hb
  | cons b bs ih =>
    by_cases hcalls : ∀ c, faults.bin k c = false
    · have hmade := @createElement_tuned b g (faults.bin k) hcalls
      unfold setupBranches at hok ⊢
      generalize b.createElement (faults.bin k) g = made at hok hmade
      obtain ⟨bin, b', g₁⟩ := made
      cases bin with
      | none => cases hok
      | some bin =>
        have hlink : g₁.Keeps ((g₁.binAdd p bin).padLink (faults.host (.padLink k)) tee bin).2 :=
          Gst.Keeps.refl.more (by simp) (by simp)
        simp only at hok ⊢
        generalize (g₁.binAdd p bin).padLink (faults.host (.padLink k)) tee bin = linked at hlink hok ⊢
        obtain ⟨ok, g₂⟩ := linked
        cases ok with
        | false => cases hok
        | true =>
          have hrest := (setupBranches_sinks faults p tee (k + 1) bs g₂).1
          exact List.forall_mem_cons.mpr ⟨⟨g.next, hmade.same (hlink.trans hrest).same⟩, ih (k + 1) hok⟩
    · have hc : ∃ c, faults.bin k c = true := by simpa using hcalls
      have hnone := (@createElement_error (faults.bin k) b g hc).1
      unfold setupBranches at hok
      generalize b.createElement (faults.bin k) g = made at hok hnone
      obtain ⟨bin, b', g₁⟩ := made
      obtain rfl : bin = none := hnone
      cases hok

theorem setupPipeline_tuned (hok : (setupPipeline faults h g).1.ok = true) :
    Tuned (setupPipeline faults h g).2.1.profileBins (setupPipeline faults h g).2.2 := by
  obtain ⟨source, g', -, -, -, -, hres⟩ := setupPipeline_ok hok
  rw [hres, ok_finishSetup] at hok
  have htuned := setupBranches_tuned 0 h.profileBins hok
  rw [hres]
  generalize setupBranches faults g.next (g.next + 5) 0 h.profileBins g' = loop at hok htuned
  obtain ⟨error, bins, g''⟩ := loop
  obtain rfl : error = none := hok
  exact htuned

/-- Switching writes states and drops. -/
theorem Tuned.request (ht : Tuned h.profileBins g) (name : Bytes) (enabled : Bool) :
    Tuned (h.setProfileEnabled name enabled g).2.1.profileBins (h.setProfileEnabled name enabled g).2.2 := by
  have hbins : (h.setProfileEnabled name enabled g).2.1.profileBins.map (fun b => (b.appSink, properties b.profile)) =
      h.profileBins.map fun b => (b.appSink, properties b.profile) := by
    unfold setProfileEnabled
    split
    · rfl
    · refine map_modify _ _ (fun b => ?_) _ _
      unfold ProfileBin.setState
      split <;> rfl
  have hprop : ∀ x key, key ≠ ascii "drop" → (h.setProfileEnabled name enabled g).2.2.prop x key = g.prop x key := by
    intro x key hkey
    unfold setProfileEnabled
    split
    · rfl
    · simp only
      split
      · exact prop_setDrop _ _ g x hkey
      · rfl
  intro b' hb'
  have hview := List.mem_map_of_mem (f := fun b : ProfileBin => (b.appSink, properties b.profile)) hb'
  rw [hbins] at hview
  obtain ⟨b, hb, heq⟩ := List.mem_map.mp hview
  obtain ⟨happSink, hproperties⟩ := Prod.mk.inj heq
  obtain ⟨m, hm⟩ := ht b hb
  exact ⟨m, hm.keep happSink.symm hproperties.symm fun x key _ hkey hx => (hprop x key hkey).trans hx⟩

end

namespace Plumbed
variable {n m : Nat} {ns : List Nat} {h : ProfileHost} {g : Gst} {a c x : Nat}

end Plumbed

end ProfileHost

namespace Application
open ProfileBin ProfileHost Gst History

/-- The branches of the pipeline have the properties of their profiles. -/
structure Formed (app : Application) : Prop where
  pipeline : app.host.pipeline.isSome = true
  tuned : ProfileHost.Tuned app.host.profileBins app.bridge.gst

section
variable {app app' : Application}

theorem Formed.congr (h : app.Formed) (hpipeline : app'.host.pipeline = app.host.pipeline)
    (hbins : app'.host.profileBins = app.host.profileBins) (hs : app.bridge.gst.SameProps app'.bridge.gst) : app'.Formed :=
  ⟨hpipeline ▸ h.pipeline, fun b hb => (h.tuned b (hbins ▸ hb)).imp fun _ hm => hm.same hs⟩

theorem Formed.start {faults : InitFaults} (hinit : (app.initializeWith faults).1 = true) :
    (app.initializeWith faults).2.Formed := by
  obtain ⟨hok, hunmoved⟩ := initializeWith_served hinit
  have hset : ((app.readied faults).setUp faults.setup).Formed :=
    ⟨congrArg Option.isSome (setupPipeline_bus hok).1, setupPipeline_tuned hok⟩
  have hserved : ((app.readied faults).setUp faults.setup).served.Formed :=
    hset.congr rfl rfl (RtspProfileServer.construct_same _ _ _ fun _ _ => by rfl)
  exact hserved.congr hunmoved.pipeline hunmoved.profileBins hunmoved.same

end

end Application

end CameraPlatform
