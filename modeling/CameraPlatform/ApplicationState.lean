import CameraPlatform.Application
import CameraPlatform.ProfileSwitch
import CameraPlatform.System

/-!
# Does the reported state agree with the valve?

`createElement` opens the valve it makes, whatever was requested before. A request that came before
`initialize` is therefore reported and not in force, unless it switched the profile on or was repeated
since.
-/

namespace CameraPlatform
open ByteString RefHeap History

namespace ProfileHost
variable {h h' : ProfileHost} {g g' : Gst}

/-- Switching reads the branches and their valves only. -/
theorem Switchable.congr (hs : h.Switchable g) (hbins : h'.profileBins = h.profileBins) (hp : g.SameProps g') :
    h'.Switchable g' := by
  refine ⟨hbins ▸ hs.names, fun b hb => ?_, hbins ▸ hs.apart⟩
  obtain ⟨v, drop, hv, hdrop⟩ := hs.valve b (hbins ▸ hb)
  exact ⟨v, drop, hv, (hp.prop (Gst.lt_of_prop hdrop) _).trans hdrop⟩

theorem profileEnabled_congr (hs : h.Switchable g) (hbins : h'.profileBins = h.profileBins) (hp : g.SameProps g')
    {b : ProfileBin} (hb : b ∈ h.profileBins) :
    h'.profileEnabled b.profile.name g' = h.profileEnabled b.profile.name g := by
  obtain ⟨v, drop, hv, hdrop⟩ := hs.valve b hb
  have hfind : h'.find b.profile.name = some b := by
    rw [find, hbins]
    exact hs.find_eq hb
  unfold profileEnabled
  rw [hs.find_eq hb, hfind]
  simp only [ProfileBin.isDropped, hv, hp.prop (Gst.lt_of_prop hdrop)]

/-- Every branch is open after `setupPipeline`. -/
theorem Ready.profileEnabled {ns : List Nat} (hr : h.Ready g ns) {b : ProfileBin} (hb : b ∈ h.profileBins) :
    h.profileEnabled b.profile.name g = true := by
  obtain ⟨n, -, hbranch⟩ := hr.branch hb
  unfold ProfileHost.profileEnabled
  rw [hr.switchable.find_eq hb]
  simp only [ProfileBin.isDropped, hbranch.valve, hbranch.drop]
  rfl

/-- Before there are valves, a request is only written down. -/
theorem run_call_unvalved {s : ProfileHost × Gst} (hn : (s.1.profileBins.map fun b => b.profile.name).Nodup)
    (hv : ∀ b ∈ s.1.profileBins, b.valve = none) (calls : List (Bytes × Bool)) :
    run call s calls = ({ s.1 with profileBins := s.1.profileBins.map (switched calls) }, s.2) := by
  induction calls using List.reverseRecOn with
  | nil =>
    rw [run_nil, show switched [] = id from rfl, List.map_id]
  | append_singleton calls c ih =>
    have hnames : ((s.1.profileBins.map (switched calls)).map fun b => b.profile.name) =
        s.1.profileBins.map fun b => b.profile.name := by
      rw [List.map_map]
      exact List.map_congr_left fun b _ => switched_name calls b
    rw [run_concat, ih, call_eq (by rw [hnames]; exact hn)]
    refine Prod.ext ?_ ?_
    · simp only [List.map_map]
      refine congrArg (fun bins => ({ s.1 with profileBins := bins } : ProfileHost)) (List.map_congr_left fun b _ => ?_)
      exact (requested_concat calls c b).symm
    · simp only
      split
      · next b hb =>
        obtain ⟨b', hb', rfl⟩ := List.mem_map.mp (List.mem_of_find?_eq_some hb)
        have hvalve : (switched calls b').valve = none := hv b' hb'
        rw [ProfileBin.setDrop, hvalve]
      · rfl

end ProfileHost

namespace Application
open ProfileHost

/-- A call of `setProfileEnabled`, by its arguments. -/
def request (app : Application) (c : Bytes × Bool) : Application := (app.setProfileEnabled c.1 c.2).2

/-- Every profile is reported as off if and only if its valve drops. -/
def Agrees (app : Application) : Prop :=
  ∀ p ∈ app.profiles, p.state = proto.kStateOff ↔ app.host.profileEnabled p.name app.bridge.gst = false

instance (app : Application) : Decidable app.Agrees :=
  inferInstanceAs (Decidable (∀ p ∈ app.profiles, _ ↔ _))

/-- What the constructor requests. -/
def constructorCalls : List (Bytes × Bool) := kDefaultCatalog.map fun profile => (profile.name, false)

theorem catalog_names : (kDefaultCatalog.map (·.name)).Nodup := by decide

section
variable {app : Application} {faults : InitFaults} {g : Gst}

/-- Requests concern the host and its heap. -/
theorem run_request (app : Application) (calls : List (Bytes × Bool)) :
    run request app calls =
      { app with
        host := (run call (app.host, app.bridge.gst) calls).1
        bridge := { app.bridge with gst := (run call (app.host, app.bridge.gst) calls).2 } } := by
  induction calls using List.reverseRecOn with
  | nil => rfl
  | append_singleton calls c ih => rw [run_concat, ih, run_concat]; rfl

/-- A new application after more requests: nothing is made yet. -/
theorem run_request_eq (g : Gst) (calls : List (Bytes × Bool)) :
    run request (new g) calls =
      { host := {
          profileBins := (kDefaultCatalog.map fun profile => ({ profile } : ProfileBin)).map
            (switched (constructorCalls ++ calls)) }
        bridge := { gst := g } } := by
  have hnew : new g = run request { host := .new kDefaultCatalog, bridge := { gst := g } } constructorCalls := by
    unfold new constructorCalls run
    rw [List.foldl_map]
    rfl
  have hnames : ((ProfileHost.new kDefaultCatalog).profileBins.map fun b => b.profile.name).Nodup := by
    rw [ProfileHost.new, List.map_map]
    exact catalog_names
  have hvalves : ∀ b ∈ (ProfileHost.new kDefaultCatalog).profileBins, b.valve = none := by
    intro b hb
    obtain ⟨p, -, rfl⟩ := List.mem_map.mp hb
    rfl
  rw [hnew, ← run_append, run_request, run_call_unvalved (s := (ProfileHost.new kDefaultCatalog, g)) hnames hvalves]
  rfl

theorem new_eq (g : Gst) : new g =
    { host := {
        profileBins := (kDefaultCatalog.map fun profile => ({ profile } : ProfileBin)).map (switched constructorCalls) }
      bridge := { gst := g } } := by
  have hnew := run_request_eq g []
  rwa [run_nil, List.append_nil] at hnew

/-- Its host. -/
theorem run_request_new (g : Gst) (calls : List (Bytes × Bool)) :
    (run request (new g) calls).host =
      { profileBins := (kDefaultCatalog.map fun profile => ({ profile } : ProfileBin)).map
          (switched (constructorCalls ++ calls)) } := by
  rw [run_request_eq]

/-- A server that was started has left the branches and their valves alone. -/
theorem startServer_true {context : Nat} (h : (app.startServer faults context).1 = true) :
    (app.startServer faults context).2.host.profileBins = app.host.profileBins ∧
      app.bridge.gst.SameProps (app.startServer faults context).2.bridge.gst := by
  have hconstruct : app.bridge.gst.SameProps (RtspProfileServer.construct proto.kRtspPort app.host app.bridge).2.gst :=
    RtspProfileServer.construct_same _ _ _ fun _ _ => by rfl
  unfold startServer at h ⊢
  generalize RtspProfileServer.construct proto.kRtspPort app.host app.bridge = made at h hconstruct ⊢
  obtain ⟨server, bridge⟩ := made
  have hwatch : (attachPipelineEvents faults.watch { app with rtsp := some server, bridge }).2.host.profileBins =
        app.host.profileBins ∧
      bridge.gst.SameProps (attachPipelineEvents faults.watch { app with rtsp := some server, bridge }).2.bridge.gst := by
    unfold attachPipelineEvents
    cases app.context with
    | none => exact ⟨rfl, .refl⟩
    | some context =>
      obtain ⟨hsame, hbins, -⟩ := @attachBusWatch_same (app.host, bridge.gst) _ GObject.props _ faults.watch
        (some context) (some onPipelineEvent)
      exact ⟨hbins, hsame⟩
  simp only at h ⊢
  generalize attachPipelineEvents faults.watch { app with rtsp := some server, bridge } = watched at h hwatch ⊢
  obtain ⟨attached, app'⟩ := watched
  cases attached with
  | false => cases h
  | true => exact ⟨hwatch.1, (hconstruct.trans hwatch.2).trans (System.attach_same ..)⟩

theorem installSignalHandlers_host (fails : Signum → Bool) (app : Application) :
    (app.installSignalHandlers fails).2.host = app.host := by
  unfold installSignalHandlers
  cases app.context <;> rfl

theorem startPipeline_true {context : Nat} (h : (app.startPipeline faults context).1 = true) :
    (setupPipeline faults.setup app.host app.bridge.gst).1.ok = true ∧
      (app.startPipeline faults context).2.host.profileBins =
        (setupPipeline faults.setup app.host app.bridge.gst).2.1.profileBins ∧
      (setupPipeline faults.setup app.host app.bridge.gst).2.2.SameProps
        (app.startPipeline faults context).2.bridge.gst := by
  unfold startPipeline at h ⊢
  generalize setupPipeline faults.setup app.host app.bridge.gst = res at h ⊢
  obtain ⟨outcome, host, gst⟩ := res
  simp only at h ⊢
  split at h
  · next hok =>
    rw [if_pos hok]
    exact ⟨hok, startServer_true h⟩
  · cases h

/-- An `initialize` that returns true has set the host up. -/
theorem initializeWith_true (h : (app.initializeWith faults).1 = true) :
    ∃ g, (setupPipeline faults.setup { app.host with videoSource := some .TestVideoSource } g).1.ok = true ∧
      (app.initializeWith faults).2.host.profileBins =
        (setupPipeline faults.setup { app.host with videoSource := some .TestVideoSource } g).2.1.profileBins ∧
      (setupPipeline faults.setup { app.host with videoSource := some .TestVideoSource } g).2.2.SameProps
        (app.initializeWith faults).2.bridge.gst := by
  unfold initializeWith at h ⊢
  simp only [setVideoSource, PipelineOutcome.ok_success, if_true] at h ⊢
  generalize hsignals : installSignalHandlers faults.signal _ = signals at h ⊢
  have hhost : signals.2.host = app.host := by rw [← hsignals, installSignalHandlers_host]
  rw [hhost] at h ⊢
  exact ⟨signals.2.bridge.gst, startPipeline_true h⟩

theorem stateFor_off_iff (enabled : Bool) : stateFor enabled = proto.kStateOff ↔ enabled = false := by
  cases enabled with
  | false => exact iff_of_true rfl rfl
  | true => exact iff_of_false proto.ready_ne_off (by simp)

/-- The constructor names every profile. -/
theorem last_constructorCalls {p : ProfileInfo} (hp : p ∈ kDefaultCatalog) (pre : List (Bytes × Bool)) :
    ∃ enabled, last p.name (constructorCalls ++ pre) = some enabled := by
  refine Option.ne_none_iff_exists'.mp fun hnone => ?_
  exact last_eq_none_iff.mp hnone (p.name, false) (List.mem_append_left _ (List.mem_map_of_mem hp)) rfl

/-- After `initialize` and any calls before and after it, the reported states agree with the valves if and
only if each profile of the catalog was named after `initialize`, or was on before it. -/
theorem state_agrees_iff (g : Gst) (faults : InitFaults) (pre post : List (Bytes × Bool))
    (hinit : ((run request (new g) pre).initializeWith faults).1 = true) :
    (run request ((run request (new g) pre).initializeWith faults).2 post).Agrees ↔
      ∀ p ∈ kDefaultCatalog, last p.name post = none → last p.name (constructorCalls ++ pre) = some true := by
  obtain ⟨g₁, hok, hbins, hprops⟩ := initializeWith_true hinit
  rw [run_request_new] at hok hbins hprops
  generalize (run request (new g) pre).initializeWith faults = started at hbins hprops ⊢
  obtain ⟨ok, app⟩ := started
  obtain ⟨ns, hready⟩ := setupPipeline_ready hok
  have hcomplete := (setupPipeline_complete hok).profiles
  have hs : app.host.Switchable app.bridge.gst := hready.switchable.congr hbins hprops
  have hsw := switched_run (s := (app.host, app.bridge.gst)) hs post
  -- the catalog after the requests before `initialize`
  have hprofiles : app.host.profiles =
      kDefaultCatalog.map fun p => requested (last p.name (constructorCalls ++ pre)) p := by
    rw [ProfileHost.profiles, hbins]
    refine Eq.trans hcomplete ?_
    simp only [ProfileHost.profiles, List.map_map]
    rfl
  rw [run_request]
  show (∀ p ∈ (run call (app.host, app.bridge.gst) post).1.profiles, _ ↔ _) ↔ _
  rw [hsw.profiles, hprofiles, List.map_map, List.forall_mem_map]
  refine forall₂_congr fun p hp => ?_
  obtain ⟨before, hbefore⟩ := last_constructorCalls hp pre
  obtain ⟨b, hb, hprofile⟩ : ∃ b ∈ app.host.profileBins, b.profile = requested (some before) p := by
    refine List.mem_map.mp ?_
    show _ ∈ app.host.profiles
    rw [hprofiles, ← hbefore]
    exact List.mem_map_of_mem hp
  have henabled := hsw.profileEnabled hs hb
  have hopen : app.host.profileEnabled b.profile.name app.bridge.gst = true := by
    rw [profileEnabled_congr hready.switchable hbins hprops (hbins ▸ hb)]
    exact hready.profileEnabled (hbins ▸ hb)
  rw [hopen, hprofile, requested_name] at henabled
  simp only [Function.comp, requested_name, henabled, hbefore]
  cases last p.name post with
  | none =>
    show (stateFor before = _ ↔ _) ↔ _
    rw [stateFor_off_iff]
    cases before <;> simp
  | some enabled =>
    show (stateFor enabled = _ ↔ _) ↔ _
    rw [stateFor_off_iff]
    simp

/-- The profile `hd` is switched on before `initialize`, the others are named after it. -/
theorem state_agrees_named :
    let faults : InitFaults := ⟨fun _ => false, ⟨fun _ => false, fun _ _ => false⟩, fun _ => false, none⟩
    let pre := [(ascii "hd", true)]
    let post := [(ascii "sd", true), (ascii "low", false), (ascii "thumb", false)]
    ((run request (new .init) pre).initializeWith faults).1 = true ∧
      ((run request ((run request (new .init) pre).initializeWith faults).2 post).Agrees ↔
        ∀ p ∈ kDefaultCatalog, last p.name post = none → last p.name (constructorCalls ++ pre) = some true) := by
  intro faults pre post
  have hinit : ((run request (new .init) pre).initializeWith faults).1 = true := by decide +kernel
  exact ⟨hinit, state_agrees_iff .init faults pre post hinit⟩

/-- Right after `initialize` every profile is reported as off and every valve is open. -/
theorem state_disagrees_initially :
    let faults : InitFaults := ⟨fun _ => false, ⟨fun _ => false, fun _ _ => false⟩, fun _ => false, none⟩
    ((new .init).initializeWith faults).1 = true ∧ ¬ ((new .init).initializeWith faults).2.Agrees := by
  decide +kernel

end

end Application

end CameraPlatform
