import CameraPlatform.ApplicationLife
import CameraPlatform.HostPanel

/-!
# What `initialize` returns

A setup that is not rolled back leaves a pipeline, and every later setup is turned away. So one bit of the past
and the calls that fail decide what an `initialize` returns, in every life of an application.
-/

namespace CameraPlatform
open ByteString RefHeap Simulation

namespace Application
open ProfileHost Gst History

/-- A call, with what it returns if it is `initialize`. -/
def answer (app : Application) : AppCall → Option Bool × Application
  | .initializeWith faults => (some (app.initializeWith faults).1, (app.initializeWith faults).2)
  | c => (none, app.react c)

/-- A branch of the catalog cannot be made or linked. -/
def branchFails (faults : SetupFaults) : Bool :=
  (List.range kDefaultCatalog.length).any fun k => Panel.branchCalls.any (faults.bin k) || faults.host (.padLink k)

/-- What `initialize` returns, and whether it leaves a pipeline; `spent` says that there was one before. -/
def start (spent : Bool) (faults : InitFaults) : Bool × Bool :=
  if spent || makeCalls.any faults.setup.host then (false, spent)
  else if faults.setup.host .link then (false, true)
  else if branchFails faults.setup then (false, false)
  else (!faults.watch .getBus && !faults.watch .createWatch && faults.attach.isNone, true)

/-- The machine with that one bit. -/
def starter (spent : Bool) : AppCall → Option Bool × Bool
  | .initializeWith faults => (some (start spent faults).1, (start spent faults).2)
  | _ => (none, spent)

section
variable {app app' : Application} {faults : InitFaults}

theorem branchFails_eq_false (faults : SetupFaults) : branchFails faults = false ↔
    ∀ k < kDefaultCatalog.length, (∀ c, faults.bin k c = false) ∧ faults.host (.padLink k) = false := by
  unfold branchFails
  rw [List.any_eq_false]
  simp only [List.mem_range, Bool.or_eq_true, not_or, any_branchCalls, not_exists, Bool.not_eq_true]

/-- Whether a setup leaves a pipeline. -/
theorem setupPipeline_leaves {h : ProfileHost} {g : Gst} {faults : SetupFaults} {source : VideoSource}
    (hsource : h.videoSource = some source) (hpipeline : h.pipeline = none) :
    (setupPipeline faults h g).2.1.pipeline.isSome =
      (!makeCalls.any faults.host && (faults.host .link || (setupPipeline faults h g).1.ok)) := by
  by_cases hmade : ∀ c ∈ makeCalls, faults.host c = false
  · have hany : makeCalls.any faults.host = false := List.any_eq_false.mpr fun c hc => by simp [hmade c hc]
    rw [hany, Bool.not_false, Bool.true_and]
    rw [setupPipeline_withShared hsource hpipeline hmade]
    rcases setupElements_cases faults g source (h.withShared g.next) with
      ⟨hlink, -, hhost, -⟩ | ⟨hlink, g', -, -, -, -, -, hres⟩
    · rw [hlink, Bool.true_or]
      exact congrArg (fun h : ProfileHost => h.pipeline.isSome) hhost
    · rw [hlink, Bool.false_or]
      rw [hres]
      obtain ⟨error, bins, g''⟩ := setupBranches faults g.next (g.next + 5) 0 (h.withShared g.next).profileBins g'
      cases error <;> rfl
  · have hex : ∃ c ∈ makeCalls, faults.host c = true := by simpa using hmade
    have hclear := (@setupPipeline_unmade faults h g source hsource hpipeline hex).2.1
    rw [hclear, List.any_eq_true.mpr hex]
    rfl

/-- A setup of the catalog goes through exactly when none of its calls fails. -/
theorem setupPipeline_catalog {faults : SetupFaults} (hsource : app.host.videoSource.isSome = true)
    (hpipeline : app.host.pipeline = none) (hnames : app.profiles.map (·.name) = kDefaultCatalog.map (·.name)) :
    (setupPipeline faults app.host app.bridge.gst).1.ok =
      (!makeCalls.any faults.host && !faults.host .link && !branchFails faults) := by
  obtain ⟨source, hsource⟩ := Option.isSome_iff_exists.mp hsource
  have hbins : (app.host.profileBins.map fun b => ProfileBin.binName b.profile).Nodup := by
    have hmap : app.host.profileBins.map (fun b => ProfileBin.binName b.profile) =
        (app.profiles.map (·.name)).map fun name => cStr (ascii "profile-" ++ name) := by
      rw [profiles, ProfileHost.profiles, List.map_map, List.map_map]
      rfl
    rw [hmap, hnames]
    decide
  have hlength : app.host.profileBins.length = kDefaultCatalog.length := by
    have := congrArg List.length hnames
    rwa [List.length_map, List.length_map, profiles, ProfileHost.profiles, List.length_map] at this
  have hmake : (makeCalls.any faults.host = false) ↔ ∀ c ∈ makeCalls, faults.host c = false := by
    rw [List.any_eq_false]
    simp
  rw [Bool.eq_iff_iff, setupPipeline_iff hsource hpipeline, and_iff_left hbins, hlength, Bool.and_eq_true,
    Bool.and_eq_true, Bool.not_eq_true', Bool.not_eq_true', Bool.not_eq_true', branchFails_eq_false, hmake]
  refine and_congr_left fun _ => ?_
  rw [sharedCalls, List.forall_mem_cons, and_comm]

/-- On a linked pipeline, the watch and the source of the server decide. -/
theorem startServer_fst {c p bus : Nat} (hctx : app.context = some c) (hlinked : app.host.isLinked = true)
    (hp : app.host.pipeline = some p) (hbus : app.bridge.gst.busOf p = some bus) (context : Nat) :
    (app.startServer faults context).1 =
      (!faults.watch .getBus && !faults.watch .createWatch && faults.attach.isNone) := by
  have hlt : p < app.bridge.gst.next := Gst.lt_of_bind hbus
  obtain ⟨hserver, -⟩ := RtspProfileServer.construct_spec proto.kRtspPort app.host app.bridge
  have hsame : Gst.Same GObject.bus app.bridge.gst
      (RtspProfileServer.construct proto.kRtspPort app.host app.bridge).2.gst :=
    RtspProfileServer.construct_same _ _ _ fun _ _ => by rfl
  unfold startServer
  generalize RtspProfileServer.construct proto.kRtspPort app.host app.bridge = made at hserver hsame
  obtain ⟨server, bridge⟩ := made
  obtain rfl : server = _ := hserver
  obtain ⟨o, ho, hb⟩ := Option.bind_eq_some_iff.mp ((hsame.bind id hlt).trans hbus)
  have hplay : (bridge.gst.obj p).map VideoPipeline.playState = some (o.state, some bus) := by
    rw [show bridge.gst.obj p = some o from ho, ← show o.bus = some bus from hb]
    rfl
  have hwatch := (VideoPipeline.attachBusWatch_outcome app.host.watch faults.watch c onPipelineEvent hplay).1
  simp only [attachPipelineEvents, hctx, ProfileHost.attachBusWatch, hlinked, hp, hwatch]
  cases faults.watch .getBus with
  | true => rfl
  | false =>
    cases faults.watch .createWatch with
    | true => rfl
    | false => cases faults.attach <;> rfl

/-! ### One call -/

/-- Whether there was a setup that left its pipeline, on an application with its catalog. -/
structure Starts (app : Application) (spent : Bool) : Prop where
  pipeline : app.host.pipeline.isSome = spent
  profiles : ∃ es, app.profiles = listed (constructorCalls ++ requests es)

theorem carried_pipeline (p : Option Nat) : Carried fun _ app => app.host.pipeline = p := by
  refine ⟨fun h hs => hs.pipeline.trans h, fun _ h => h, fun {es app} name enabled h => ?_, fun _ h => h⟩
  exact (@setProfileEnabled_same (app.host, app.bridge.gst) _ GObject.bus (fun _ _ => rfl) name enabled).2.2.trans h

theorem Starts.names {spent : Bool} (h : app.Starts spent) :
    app.profiles.map (·.name) = kDefaultCatalog.map (·.name) := by
  obtain ⟨es, hes⟩ := h.profiles
  rw [hes, listed_names]

/-- A setup that may go through. -/
theorem start_fresh (h : app.Starts false) (faults : InitFaults) :
    (app.initializeWith faults).1 = (start false faults).1 ∧
      (app.initializeWith faults).2.host.pipeline.isSome = (start false faults).2 := by
  have hready := unmoved_readied faults app
  have hsource : (app.readied faults).host.videoSource = some .TestVideoSource := rfl
  have hpipeline : (app.readied faults).host.pipeline = none :=
    hready.pipeline.trans (Option.isNone_iff_eq_none.mp (by simpa using h.pipeline))
  have hnames : (app.readied faults).profiles.map (·.name) = kDefaultCatalog.map (·.name) := by
    rw [← h.names]
    exact congrArg (fun bins : List ProfileBin => (bins.map (·.profile)).map (·.name)) hready.profileBins
  have hctx : (app.readied faults).context = some app.bridge.gst.next := rfl
  have hok := @setupPipeline_catalog (app.readied faults) faults.setup (by rw [hsource]; rfl) hpipeline hnames
  have hleaves :=
    @setupPipeline_leaves (app.readied faults).host (app.readied faults).bridge.gst faults.setup _ hsource hpipeline
  rw [initializeWith_readied]
  rcases startPipeline_steps faults app.bridge.gst.next (app.readied faults) with ⟨hno, heq⟩ | ⟨hyes, hunmoved⟩
  · rw [heq]
    show false = _ ∧
      ((app.readied faults).host.setupPipeline faults.setup (app.readied faults).bridge.gst).2.1.pipeline.isSome = _
    rw [hleaves, hno, Bool.or_false]
    rw [hno] at hok
    unfold start
    rw [Bool.false_or]
    cases hmake : makeCalls.any faults.setup.host with
    | true => exact ⟨rfl, rfl⟩
    | false =>
      cases hlink : faults.setup.host .link with
      | true => exact ⟨rfl, rfl⟩
      | false =>
        rw [hmake, hlink] at hok
        have hbranch : branchFails faults.setup = true := by simpa using hok
        rw [hbranch]
        exact ⟨rfl, rfl⟩
  · obtain ⟨ns, hlinked⟩ := setupPipeline_ready hyes
    obtain ⟨hp, hbus⟩ := setupPipeline_bus hyes
    rw [hyes] at hok
    have hgood : makeCalls.any faults.setup.host = false ∧ faults.setup.host .link = false ∧
        branchFails faults.setup = false := by
      simpa [and_assoc] using hok.symm
    unfold start
    rw [hgood.1, hgood.2.1, hgood.2.2]
    refine ⟨?_, ?_⟩
    · have hstart : (app.readied faults).startPipeline faults app.bridge.gst.next =
          ((app.readied faults).setUp faults.setup).startServer faults app.bridge.gst.next := by
        unfold startPipeline
        exact if_pos hyes
      rw [hstart]
      exact @startServer_fst ((app.readied faults).setUp faults.setup) faults _ _ _ hctx hlinked.isLinked hp hbus _
    · show (Application.startPipeline faults app.bridge.gst.next (app.readied faults)).2.host.pipeline.isSome = true
      rw [hunmoved.pipeline]
      exact congrArg Option.isSome hp

theorem Starts.answer {spent : Bool} (h : app.Starts spent) (c : AppCall) :
    (app.answer c).1 = (starter spent c).1 ∧ (app.answer c).2.Starts (starter spent c).2 := by
  obtain ⟨es, hes⟩ := h.profiles
  have hprofiles : ∃ es, (app.react c).profiles = listed (constructorCalls ++ requests es) :=
    ⟨_, lasting_profiles.react hes c⟩
  cases c with
  | initializeWith faults =>
    cases spent with
    | true =>
      obtain ⟨hno, hunmoved⟩ := unmoved_initializeWith faults h.pipeline
      exact ⟨congrArg some hno, (congrArg Option.isSome hunmoved.pipeline).trans h.pipeline, hprofiles⟩
    | false =>
      obtain ⟨hreturns, hleaves⟩ := start_fresh h faults
      exact ⟨congrArg some hreturns, hleaves, hprofiles⟩
  | runWith playFails during stopFails =>
    have hcarried : (app.runWith playFails during stopFails).host.pipeline = app.host.pipeline :=
      @Carried.runWith _ (carried_pipeline _) [] app rfl playFails during stopFails
    exact ⟨rfl, (congrArg Option.isSome hcarried).trans h.pipeline, hprofiles⟩
  | turn t =>
    have hcarried : (app.turn t).host.pipeline = app.host.pipeline := @Carried.turn _ (carried_pipeline _) [] app rfl t
    exact ⟨rfl, (congrArg Option.isSome hcarried).trans h.pipeline, hprofiles⟩

/-! ### Every life -/

theorem simulates_starter : Simulates Starts (fun _ => True) answer starter :=
  ⟨fun _ _ c h _ => (h.answer c).1, fun _ _ c h _ => (h.answer c).2⟩

theorem starts_new (g : Gst) : (new g).Starts false := ⟨by rw [new_eq]; rfl, [], profiles_new g⟩

/-- No `initialize` of the machine returns true after one that left a pipeline. -/
theorem starter_spent (calls : List AppCall) : some true ∉ trace starter true calls := by
  induction calls with
  | nil => exact List.not_mem_nil
  | cons c calls ih =>
    cases c with
    | initializeWith faults => exact List.not_mem_cons_of_ne_of_not_mem (by simp [starter, start]) ih
    | runWith | turn => exact List.not_mem_cons_of_ne_of_not_mem (by simp [starter]) ih

/-- An `initialize` that returns true leaves a pipeline. -/
theorem start_true {spent : Bool} {faults : InitFaults} (h : (start spent faults).1 = true) :
    (start spent faults).2 = true := by
  unfold start at h ⊢
  by_cases hmake : (spent || makeCalls.any faults.setup.host) = true
  · rw [if_pos hmake] at h; cases h
  · rw [if_neg hmake] at h ⊢
    by_cases hlink : faults.setup.host .link = true
    · rw [if_pos hlink]
    · rw [if_neg hlink] at h ⊢
      by_cases hbranch : branchFails faults.setup = true
      · rw [if_pos hbranch] at h; cases h
      · rw [if_neg hbranch]

theorem starter_once (calls : List AppCall) (spent : Bool) : (trace starter spent calls).count (some true) ≤ 1 := by
  induction calls generalizing spent with
  | nil => exact Nat.zero_le 1
  | cons c calls ih =>
    rw [trace, List.count_cons]
    cases c with
    | initializeWith faults =>
      cases hreturns : (start spent faults).1 with
      | true =>
        have hspent := start_true hreturns
        have hrest : (trace starter true calls).count (some true) = 0 := List.count_eq_zero.mpr (starter_spent calls)
        simp only [starter, hreturns, hspent, hrest]
        decide
      | false => simpa [starter, hreturns] using ih (start spent faults).2
    | runWith | turn => simpa [starter] using ih spent

/-- In every life of an application, what each `initialize` returns is decided by its own failing calls and by
whether an earlier one has left a pipeline; so at most one of them returns true. -/
theorem initialize_foretold (g : Gst) (calls : List AppCall) :
    trace answer (new g) calls = trace starter false calls ∧
      (trace answer (new g) calls).count (some true) ≤ 1 := by
  have hforetold : trace answer (new g) calls = trace starter false calls :=
    simulates_starter.trace (starts_new g) fun _ _ => trivial
  exact ⟨hforetold, hforetold ▸ starter_once calls false⟩

end

end Application

end CameraPlatform
