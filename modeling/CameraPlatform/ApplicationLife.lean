import CameraPlatform.GstLinks
import CameraPlatform.MountLifetime
import CameraPlatform.SampleRouting

/-!
# Whole lives of an application

Between its constructor and its destructor an application is initialized, run and stopped, and in
between messages arrive, signals are emitted and the control interface is called. All of that comes
down to steps that only work on objects, to the events of the loop, and to an `initialize` that finds no
pipeline.
-/

namespace CameraPlatform
open ByteString RefHeap Gst History

/-- What may happen to an application at any time. -/
inductive Turn where
  | post (ms : List GstMessage)
  | loop (e : LoopEvent)
  | stop (fails : Bool)

/-- What its owner has it do, and what happens meanwhile. -/
inductive AppCall where
  | initializeWith (faults : InitFaults)
  | runWith (playFails : Bool) (during : List Turn) (stopFails : Bool)
  | turn (t : Turn)

namespace Application

def turn (app : Application) : Turn → Application
  | .post ms => app.withGst (app.bridge.gst.arrive app.host.pipeline ms)
  | .loop e => app.handle e
  | .stop fails => app.stop fails

/-- `run`, with the turns until the loop ends. -/
def runWith (playFails : Bool) (during : List Turn) (stopFails : Bool) (app : Application) : Application :=
  let app := (app.play playFails).2
  let app := match app.mainLoop with
    | some loop =>
      let app := during.foldl turn (app.withGst (app.bridge.gst.ref loop))
      app.withGst (app.bridge.gst.mainLoopUnref loop)
    | none => app
  app.stop stopFails

def react (app : Application) : AppCall → Application
  | .initializeWith faults => (app.initializeWith faults).2
  | .runWith playFails during stopFails => app.runWith playFails during stopFails
  | .turn t => app.turn t

end Application

/-- The event of the loop that a turn is. -/
def Turn.event : Turn → Option LoopEvent
  | loop e => some e
  | _ => none

/-- Those of a call; without a loop to run, `run` is over at once. -/
def AppCall.events (mainLoop : Option Nat) : AppCall → List LoopEvent
  | initializeWith _ => []
  | runWith _ during _ => if mainLoop.isSome then during.filterMap Turn.event else []
  | turn t => t.event.toList

/-- The call of the control interface that an event of the loop is. -/
def LoopEvent.call : LoopEvent → Option (Bytes × Bool)
  | request name enabled => some (name, enabled)
  | dispatch _ => none
  | bridge _ => none

namespace ProfileHost

/-! ### What calls leave of the catalog -/

theorem createElement_profile (fails : BinCall → Bool) (b : ProfileBin) (g : Gst) :
    (b.createElement fails g).2.1.profile = b.profile := by
  by_cases hok : ∀ c, fails c = false
  · obtain ⟨b', g', heq, hprofile, -⟩ := @ProfileBin.createElement_ok fails b g hok
    rw [heq]
    exact hprofile
  · have hc : ∃ c, fails c = true := by simpa using hok
    rw [(@ProfileBin.createElement_error fails b g hc).2.1]

theorem setupBranches_catalog (faults : SetupFaults) (p tee k : Nat) (bs : List ProfileBin) (g : Gst) :
    (setupBranches faults p tee k bs g).2.1.map (·.profile) = bs.map (·.profile) := by
  induction bs generalizing k g with
  | nil => rfl
  | cons b bs ih =>
    have hprofile := createElement_profile (faults.bin k) b g
    unfold setupBranches
    generalize b.createElement (faults.bin k) g = made at hprofile
    obtain ⟨bin, b', g₁⟩ := made
    cases bin with
    | none => exact congrArg (· :: _) hprofile
    | some bin =>
      simp only
      generalize (g₁.binAdd p bin).padLink (faults.host (.padLink k)) tee bin = linked
      obtain ⟨ok, g₂⟩ := linked
      cases ok with
      | false => exact congrArg (· :: _) hprofile
      | true => exact congrArg₂ (· :: ·) hprofile (ih (k + 1) g₂)

/-- However a setup ends, it leaves the profiles as they were listed. -/
theorem setupPipeline_profiles (faults : SetupFaults) (h : ProfileHost) (g : Gst) :
    (setupPipeline faults h g).2.1.profiles = h.profiles := by
  have hfinish : ∀ (h : ProfileHost) (loop : Option String × List ProfileBin × Gst),
      (h.finishSetup loop).2.1.profiles = loop.2.1.map (·.profile) := by
    rintro h ⟨_ | reason, bins, g⟩ <;> rfl
  rcases setupPipeline_shape faults h g with ⟨-, reason, -, hres⟩ | ⟨source, -, -, hres | ⟨p, s, v, c, t, -, hres⟩⟩
  · rw [hres]
  · rw [hres]
    rfl
  · rw [hres]
    unfold setupElements
    simp only
    split
    · exact (hfinish ..).trans (setupBranches_catalog ..)
    · rfl

/-- A call changes the profile it names. -/
theorem call_profiles {s : ProfileHost × Gst} (hn : (s.1.profiles.map (·.name)).Nodup) (c : Bytes × Bool) :
    (call s c).1.profiles = s.1.profiles.map fun p => if p.name = c.1 then requested (some c.2) p else p := by
  have hnames : (s.1.profileBins.map fun b => b.profile.name).Nodup := by rwa [profiles, List.map_map] at hn
  rw [call_eq hnames, profiles, profiles, List.map_map, List.map_map]
  refine List.map_congr_left fun b _ => ?_
  simp only [Function.comp]
  split <;> rfl

end ProfileHost

namespace Application
open ProfileHost

/-- The events of the loop in a life, in order. -/
def events : Application → List AppCall → List LoopEvent
  | _, [] => []
  | app, c :: calls => c.events app.mainLoop ++ events (app.react c) calls

/-- The life of `Life`, where the turns are calls of `stop`. -/
theorem runWith_stops (playFails : Bool) (during : List Bool) (stopFails : Bool) (life : Life) :
    (life.run playFails during stopFails).app = life.app.runWith playFails (during.map .stop) stopFails := by
  have hstops : ∀ life : Life, (during.foldl (fun (life : Life) fails => life.stop fails) life).app =
      (during.map Turn.stop).foldl turn life.app := by
    induction during with
    | nil => exact fun _ => rfl
    | cons fails during ih => exact fun life => ih (life.stop fails)
  unfold Life.run runWith
  simp only
  cases (life.app.play playFails).2.mainLoop with
  | none => rfl
  | some loop =>
    simp only [← hstops { life with app := (life.app.play playFails).2.withGst _ }]
    rfl

/-! ### Steps that work on objects only -/

/-- The members that matter stay, and so does what the plumbing does not show in. -/
structure Unmoved (app app' : Application) : Prop where
  profileBins : app'.host.profileBins = app.host.profileBins
  pipeline : app'.host.pipeline = app.host.pipeline
  source : app'.host.source = app.host.source
  server : app'.rtsp.map (·.server) = app.rtsp.map (·.server)
  bridge : app'.bridge = { app.bridge with gst := app'.bridge.gst }
  links : app'.bridge.gst.links = app.bridge.gst.links
  same : ∀ {α : Type} {f : GObject → α} [Plumbing f], Gst.Same f app.bridge.gst app'.bridge.gst

section
variable {app app' app'' : Application}

theorem Unmoved.refl : Unmoved app app := ⟨rfl, rfl, rfl, rfl, rfl, rfl, .refl⟩

theorem Unmoved.trans (h : Unmoved app app') (h' : Unmoved app' app'') : Unmoved app app'' := by
  refine ⟨h'.profileBins.trans h.profileBins, h'.pipeline.trans h.pipeline, h'.source.trans h.source,
    h'.server.trans h.server, ?_, h'.links.trans h.links, h.same.trans h'.same⟩
  rw [h'.bridge, h.bridge]

theorem unmoved_withGst {gst : Gst} (hlinks : gst.links = app.bridge.gst.links)
    (h : ∀ {α : Type} {f : GObject → α} [Plumbing f], Gst.Same f app.bridge.gst gst) : Unmoved app (app.withGst gst) :=
  ⟨rfl, rfl, rfl, rfl, rfl, hlinks, h⟩

section Objects
variable {α : Type} {f : GObject → α} [Plumbing f] {g g' : Gst}

theorem same_mainContextUnref (h : Gst.Same f g g') (context : Nat) : Gst.Same f g (g'.mainContextUnref context) := by
  have hunref := h.keeps (Gst.Keeps.refl.unref context)
  unfold mainContextUnref
  split
  · generalize g'.attachedTo context = sources
    generalize g'.unref context = g₁ at hunref
    induction sources generalizing g₁ with
    | nil => exact hunref
    | cons source sources ih => exact ih _ (hunref.sourceDestroy source)
  · exact hunref

theorem same_mainLoopUnref (h : Gst.Same f g g') (loop : Nat) : Gst.Same f g (g'.mainLoopUnref loop) := by
  have hunref := h.keeps (Gst.Keeps.refl.unref loop)
  unfold mainLoopUnref
  split
  · split
    · exact same_mainContextUnref hunref _
    · exact hunref
  · exact hunref

theorem same_arrive (h : Gst.Same f g g') (pipeline : Option Nat) (ms : List GstMessage) :
    Gst.Same f g (g'.arrive pipeline ms) := by
  unfold arrive
  split
  · exact h.postAll _ ms
  · exact h

theorem same_attachSignalSource (h : Gst.Same f g g') (fails : Bool) (context : Nat) :
    Gst.Same f g (attachSignalSource fails context g').2 := by
  unfold attachSignalSource
  split
  · exact h.heap rfl
  · exact (h.keeps (Gst.Keeps.refl.alloc _ _)).sourceAttach ..

end Objects

theorem unmoved_play (fails : Bool) (app : Application) : Unmoved app (app.play fails).2 :=
  unmoved_withGst (ProfileHost.setPipelineState_steers ..).links (ProfileHost.setPipelineState_steers ..).same

theorem unmoved_stop (fails : Bool) (app : Application) : Unmoved app (app.stop fails) := by
  have hstop : ∀ {α : Type} {f : GObject → α} [Plumbing f],
      Gst.Same f app.bridge.gst (app.host.stop fails app.bridge.gst).2 :=
    (ProfileHost.setPipelineState_steers ..).same
  have hlinks : (app.host.stop fails app.bridge.gst).2.links = app.bridge.gst.links :=
    (ProfileHost.setPipelineState_steers ..).links
  unfold stop
  cases app.mainLoop with
  | none => exact unmoved_withGst hlinks hstop
  | some loop =>
    exact ⟨rfl, rfl, rfl, rfl, rfl, (Gst.links_mainLoopUnref ..).trans hlinks, same_mainLoopUnref hstop loop⟩

theorem unmoved_dispatch (during : List GstMessage) (app : Application) : Unmoved app (app.handle (.dispatch during)) := by
  unfold handle ProfileHost.handle
  cases app.host.watch.busSource with
  | none => exact .refl
  | some source =>
    exact ⟨rfl, rfl, rfl, rfl, rfl, Gst.links_dispatch _ source during app.host.links_onBusMessageStatic,
      ProfileHost.dispatch_same (s := (app.host, app.bridge.gst)) source during⟩

theorem unmoved_installSignalHandlers (fails : Signum → Bool) (app : Application) :
    Unmoved app (app.installSignalHandlers fails).2 := by
  unfold installSignalHandlers
  cases app.context with
  | none => exact .refl
  | some context =>
    exact ⟨rfl, rfl, rfl, rfl, rfl, (links_attachSignalSource ..).trans (links_attachSignalSource ..),
      same_attachSignalSource (same_attachSignalSource .refl _ _) _ _⟩

/-- The application on which `initialize` sets the pipeline up. -/
def readied (faults : InitFaults) (app : Application) : Application :=
  (app.looped.installSignalHandlers faults.signal).2.sourced

theorem initializeWith_readied (faults : InitFaults) (app : Application) :
    app.initializeWith faults = (app.readied faults).startPipeline faults app.bridge.gst.next := rfl

theorem unmoved_readied (faults : InitFaults) (app : Application) : Unmoved app (app.readied faults) := by
  have hlooped : Unmoved app app.looped :=
    ⟨rfl, rfl, rfl, rfl, rfl, rfl, (((Gst.Keeps.refl.alloc _ _).alloc _ _).ref _).same⟩
  have hsignals := hlooped.trans (unmoved_installSignalHandlers faults.signal app.looped)
  exact hsignals.trans ⟨rfl, rfl, rfl, rfl, rfl, rfl, .refl⟩

/-- The application after its setup. -/
def setUp (faults : SetupFaults) (app : Application) : Application :=
  let (_, host, gst) := app.host.setupPipeline faults app.bridge.gst
  { app.withGst gst with host }

/-- The application with its server. -/
def served (app : Application) : Application :=
  let (server, bridge) := RtspProfileServer.construct proto.kRtspPort app.host app.bridge
  { app with rtsp := some server, bridge }

theorem unmoved_attachPipelineEvents (fails : WatchCall → Bool) (app : Application) :
    Unmoved app (app.attachPipelineEvents fails).2 := by
  unfold attachPipelineEvents
  cases app.context with
  | none => exact .refl
  | some context =>
    have hsame := fun {α : Type} {f : GObject → α} [Plumbing f] =>
      @ProfileHost.attachBusWatch_same (app.host, app.bridge.gst) _ f _ fails (some context) (some onPipelineEvent)
    obtain ⟨-, hbins, hpipeline⟩ := @hsame _ GObject.props _
    refine ⟨hbins, hpipeline, ?_, rfl, rfl, ProfileHost.links_attachBusWatch .., hsame.1⟩
    simp only [ProfileHost.attachBusWatch]
    split <;> rfl

theorem server_attach (error : Option Bytes) (context : Nat) (server : RtspProfileServer) (g : Gst) :
    (server.attach error context g).2.1.server = server.server := by
  unfold RtspProfileServer.attach
  split
  · rfl
  · split
    · rfl
    · split <;> rfl

/-- What follows the construction of the server moves nothing else. -/
theorem unmoved_startServer (faults : InitFaults) (context : Nat) (app : Application) :
    Unmoved app.served (app.startServer faults context).2 := by
  have hwatch := unmoved_attachPipelineEvents faults.watch app.served
  unfold startServer
  simp only
  split
  · refine hwatch.trans ⟨rfl, rfl, rfl, ?_, rfl, RtspProfileServer.links_attach .., System.attach_same ..⟩
    refine Eq.trans ?_ hwatch.server.symm
    exact congrArg some (server_attach ..)
  · exact hwatch

/-- `initialize` from the setup on. -/
theorem startPipeline_steps (faults : InitFaults) (context : Nat) (app : Application) :
    let ok := (app.host.setupPipeline faults.setup app.bridge.gst).1.ok
    (ok = false ∧ app.startPipeline faults context = (false, app.setUp faults.setup)) ∨
      (ok = true ∧ Unmoved (app.setUp faults.setup).served (app.startPipeline faults context).2) := by
  unfold startPipeline setUp
  generalize app.host.setupPipeline faults.setup app.bridge.gst = setup
  obtain ⟨outcome, host, gst⟩ := setup
  intro ok
  cases hok : outcome.ok with
  | false => exact .inl ⟨hok, if_neg (by rw [hok]; simp)⟩
  | true =>
    refine .inr ⟨hok, ?_⟩
    simp only [hok, if_true]
    exact unmoved_startServer faults context _

/-- An `initialize` that finds a pipeline stops at the setup. -/
theorem unmoved_initializeWith (faults : InitFaults) (hp : app.host.pipeline.isSome = true) :
    (app.initializeWith faults).1 = false ∧ Unmoved app (app.initializeWith faults).2 := by
  have hready := unmoved_readied faults app
  obtain ⟨reason, -, hrefused⟩ := @ProfileHost.setupPipeline_refused faults.setup (app.readied faults).host
    (app.readied faults).bridge.gst (.inr (hready.pipeline ▸ hp))
  have hinit : app.initializeWith faults = (false, app.readied faults) := by
    rw [initializeWith_readied, startPipeline, hrefused]
    rfl
  rw [hinit]
  exact ⟨rfl, hready⟩

end

/-! ### What holds in every life -/

section
variable {P : List LoopEvent → Application → Prop}

/-- What unmoving steps keep, and the events of the loop extend. -/
structure Carried (P : List LoopEvent → Application → Prop) : Prop where
  unmoved : ∀ {es app app'}, P es app → Unmoved app app' → P es app'
  bridge : ∀ {es app} e, P es app → P (es ++ [.bridge e]) (app.handle (.bridge e))
  request : ∀ {es app} name enabled, P es app → P (es ++ [.request name enabled]) (app.handle (.request name enabled))
  dispatch : ∀ {es app} during, P es app → P (es ++ [.dispatch during]) app

theorem Carried.turn (h : Carried P) {es : List LoopEvent} {app : Application} (h0 : P es app) (t : Turn) :
    P (es ++ t.event.toList) (app.turn t) := by
  cases t with
  | post ms =>
    rw [show Turn.event (.post ms) = none from rfl, Option.toList_none, List.append_nil]
    exact h.unmoved h0 (unmoved_withGst (Gst.links_arrive ..) (same_arrive .refl _ _))
  | stop fails =>
    rw [show Turn.event (.stop fails) = none from rfl, Option.toList_none, List.append_nil]
    exact h.unmoved h0 (unmoved_stop fails app)
  | loop e =>
    cases e with
    | dispatch during => exact h.unmoved (h.dispatch during h0) (unmoved_dispatch during app)
    | bridge e => exact h.bridge e h0
    | request name enabled => exact h.request name enabled h0

theorem Carried.turns (h : Carried P) (ts : List Turn) {es : List LoopEvent} {app : Application} (h0 : P es app) :
    P (es ++ ts.filterMap Turn.event) (ts.foldl Application.turn app) := by
  induction ts generalizing es app with
  | nil => rwa [List.filterMap_nil, List.append_nil]
  | cons t ts ih =>
    have hrest := ih (h.turn h0 t)
    have hevents : (t :: ts).filterMap Turn.event = t.event.toList ++ ts.filterMap Turn.event := by
      rw [List.filterMap_cons]
      cases t.event <;> rfl
    rw [hevents, ← List.append_assoc]
    exact hrest

theorem Carried.runWith (h : Carried P) {es : List LoopEvent} {app : Application} (h0 : P es app) (playFails : Bool)
    (during : List Turn) (stopFails : Bool) :
    P (es ++ (AppCall.runWith playFails during stopFails).events app.mainLoop) (app.runWith playFails during stopFails) := by
  have hplay := h.unmoved h0 (unmoved_play playFails app)
  rw [AppCall.events, show app.mainLoop = (app.play playFails).2.mainLoop from rfl]
  unfold Application.runWith
  simp only
  cases (app.play playFails).2.mainLoop with
  | none =>
    rw [Option.isSome_none, if_neg (by simp), List.append_nil]
    exact h.unmoved hplay (unmoved_stop stopFails _)
  | some loop =>
    have hentered := h.unmoved hplay (unmoved_withGst (Gst.links_ref _ loop) (Gst.Keeps.refl.ref loop).same)
    have hran := h.turns during hentered
    rw [Option.isSome_some, if_pos rfl]
    exact h.unmoved (h.unmoved hran (unmoved_withGst (Gst.links_mainLoopUnref ..) (same_mainLoopUnref .refl loop)))
      (unmoved_stop stopFails _)

/-- What a setup that finds no pipeline keeps, too. -/
structure Lasting (P : List LoopEvent → Application → Prop) : Prop extends Carried P where
  failed : ∀ {es app} faults, app.host.pipeline = none →
    (app.host.setupPipeline faults app.bridge.gst).1.ok = false → P es app → P es (app.setUp faults)
  served : ∀ {es app} faults, app.host.pipeline = none →
    (app.host.setupPipeline faults app.bridge.gst).1.ok = true → P es app → P es (app.setUp faults).served

/-- Where there is a pipeline, no setup gets past its first guard. -/
theorem Carried.lasting (h : Carried P) (hpipeline : ∀ {es app}, P es app → app.host.pipeline.isSome = true) :
    Lasting P := by
  have hnone : ∀ {es app}, app.host.pipeline = none → ¬ P es app := by
    intro es app hp h0
    have hsome := hpipeline h0
    rw [hp] at hsome
    cases hsome
  exact ⟨h, fun _ hp _ h0 => absurd h0 (hnone hp), fun _ hp _ h0 => absurd h0 (hnone hp)⟩

theorem Lasting.react (h : Lasting P) {es : List LoopEvent} {app : Application} (h0 : P es app) (c : AppCall) :
    P (es ++ c.events app.mainLoop) (app.react c) := by
  cases c with
  | initializeWith faults =>
    rw [AppCall.events, List.append_nil]
    cases hp : app.host.pipeline with
    | some p => exact h.unmoved h0 (unmoved_initializeWith faults (by rw [hp]; rfl)).2
    | none =>
      have hready := unmoved_readied faults app
      have hnone : (app.readied faults).host.pipeline = none := hready.pipeline.trans hp
      show P es (app.initializeWith faults).2
      rw [initializeWith_readied]
      rcases startPipeline_steps faults app.bridge.gst.next (app.readied faults) with ⟨hok, heq⟩ | ⟨hok, hunmoved⟩
      · have hfailed := h.failed faults.setup hnone hok (h.unmoved h0 hready)
        rwa [heq]
      · exact h.unmoved (h.served faults.setup hnone hok (h.unmoved h0 hready)) hunmoved
  | runWith playFails during stopFails => exact h.toCarried.runWith h0 playFails during stopFails
  | turn t => exact h.toCarried.turn h0 t

/-- What holds at the start and lasts holds after every life. -/
theorem Lasting.run (h : Lasting P) (calls : List AppCall) {es : List LoopEvent} {app : Application} (h0 : P es app) :
    P (es ++ app.events calls) (run Application.react app calls) := by
  induction calls generalizing es app with
  | nil => rwa [events, List.append_nil]
  | cons c calls ih =>
    rw [events, ← List.append_assoc, run_cons]
    exact ih (h.react h0 c)

end

/-- An `initialize` that returns true has made a server on a host that was set up. -/
theorem initializeWith_served {app : Application} {faults : InitFaults} (hinit : (app.initializeWith faults).1 = true) :
    ((app.readied faults).host.setupPipeline faults.setup (app.readied faults).bridge.gst).1.ok = true ∧
      Unmoved ((app.readied faults).setUp faults.setup).served (app.initializeWith faults).2 := by
  rw [initializeWith_readied] at hinit ⊢
  rcases startPipeline_steps faults app.bridge.gst.next (app.readied faults) with ⟨-, heq⟩ | ⟨hok, hunmoved⟩
  · rw [heq] at hinit
    cases hinit
  · exact ⟨hok, hunmoved⟩

/-! ### The profiles that are reported -/

/-- The calls of the control interface. -/
def requests (es : List LoopEvent) : List (Bytes × Bool) := es.filterMap LoopEvent.call

theorem requests_concat (es : List LoopEvent) (e : LoopEvent) : requests (es ++ [e]) = requests es ++ e.call.toList := by
  rw [requests, List.filterMap_append]
  cases h : e.call <;> simp [requests, h]

/-- The catalog after the calls `calls`. -/
def listed (calls : List (Bytes × Bool)) : List ProfileInfo :=
  kDefaultCatalog.map fun p => requested (last p.name calls) p

theorem listed_names (calls : List (Bytes × Bool)) : (listed calls).map (·.name) = kDefaultCatalog.map (·.name) := by
  rw [listed, List.map_map]
  exact List.map_congr_left fun p _ => requested_name ..

theorem listed_concat (calls : List (Bytes × Bool)) (c : Bytes × Bool) :
    listed (calls ++ [c]) = (listed calls).map fun p => if p.name = c.1 then requested (some c.2) p else p := by
  rw [listed, listed, List.map_map]
  refine List.map_congr_left fun p _ => ?_
  simp only [Function.comp, requested_name, last_concat, eq_comm (a := c.1)]
  split
  · cases last p.name calls <;> rfl
  · rfl

theorem lasting_profiles :
    Lasting fun es app => app.profiles = listed (constructorCalls ++ requests es) := by
  refine ⟨⟨fun h hs => ?_, fun e h => ?_, fun name enabled h => ?_, fun during h => ?_⟩, fun faults _ _ h => ?_,
    fun faults _ _ h => ?_⟩
  · exact (congrArg (List.map ProfileBin.profile) hs.profileBins).trans h
  · rw [requests_concat, LoopEvent.call, Option.toList_none, List.append_nil]
    exact h
  · rename_i es app
    have hnames : (app.host.profiles.map (·.name)).Nodup := by
      rw [show app.host.profiles = _ from h, listed_names]
      exact catalog_names
    rw [requests_concat, ← List.append_assoc, LoopEvent.call, Option.toList_some, listed_concat, ← h]
    exact call_profiles (s := (app.host, app.bridge.gst)) hnames (name, enabled)
  · rw [requests_concat, LoopEvent.call, Option.toList_none, List.append_nil]
    exact h
  · exact (setupPipeline_profiles ..).trans h
  · exact (setupPipeline_profiles ..).trans h

theorem profiles_new (g : Gst) : (new g).profiles = listed (constructorCalls ++ requests []) := by
  rw [new_eq, profiles, ProfileHost.profiles, List.map_map, List.map_map, show requests [] = [] from rfl, List.append_nil]
  rfl

/-- Whatever happens to an application, and however its calls end, the control interface lists the
catalog, each profile in the state that was requested of it last. -/
theorem profiles_history (g : Gst) (calls : List AppCall) :
    (run react (new g) calls).profiles = listed (constructorCalls ++ requests ((new g).events calls)) :=
  lasting_profiles.run calls (profiles_new g)

section
variable (g : Gst) (calls : List AppCall) {p : ProfileInfo} {b : ProfileBin}

/-- The bin of a profile of the catalog, which has changed its state at most. -/
theorem bin_of_catalog (hp : p ∈ kDefaultCatalog) :
    ∃ b ∈ (run react (new g) calls).host.profileBins, ∃ o, b.profile = requested o p := by
  obtain ⟨es, hlisted⟩ : ∃ es, (run react (new g) calls).profiles = listed es :=
    ⟨_, lasting_profiles.run calls (profiles_new g)⟩
  have hmem : requested (last p.name es) p ∈ listed es := List.mem_map.mpr ⟨p, hp, rfl⟩
  rw [← hlisted] at hmem
  obtain ⟨b, hb, hprofile⟩ := List.mem_map.mp hmem
  exact ⟨b, hb, _, hprofile⟩

theorem catalog_of_bin (hb : b ∈ (run react (new g) calls).host.profileBins) :
    ∃ p ∈ kDefaultCatalog, ∃ o, b.profile = requested o p := by
  have hlisted := lasting_profiles.run calls (profiles_new g)
  have hmem : b.profile ∈ (run react (new g) calls).profiles := List.mem_map_of_mem hb
  rw [hlisted] at hmem
  obtain ⟨p, hp, hprofile⟩ := List.mem_map.mp hmem
  exact ⟨p, hp, _, hprofile.symm⟩

end

/-- What follows an `initialize` is a part of the same life. -/
theorem run_started (g : Gst) (before : List AppCall) (faults : InitFaults) (after : List AppCall) :
    run react ((run react (new g) before).initializeWith faults).2 after =
      run react (new g) (before ++ .initializeWith faults :: after) := by
  rw [run_append, run_cons]
  rfl

/-! ### The profiles that are served -/

/-- The valves after the calls since the last setup. -/
structure Valved (es : List LoopEvent) (app : Application) : Prop where
  pipeline : app.host.pipeline.isSome = true
  switchable : app.host.Switchable app.bridge.gst
  enabled : ∀ b ∈ app.host.profileBins,
    app.host.profileEnabled b.profile.name app.bridge.gst = (last b.profile.name (requests es)).getD true

theorem Valved.congr {es es' : List LoopEvent} {app app' : Application} (h : Valved es app)
    (hbins : app'.host.profileBins = app.host.profileBins) (hpipeline : app'.host.pipeline = app.host.pipeline)
    (hprops : app.bridge.gst.SameProps app'.bridge.gst) (hes : requests es' = requests es) : Valved es' app' := by
  refine ⟨hpipeline ▸ h.pipeline, h.switchable.congr hbins hprops, fun b hb => ?_⟩
  rw [profileEnabled_congr h.switchable hbins hprops (hbins ▸ hb), hes]
  exact h.enabled b (hbins ▸ hb)

theorem Valved.request {es : List LoopEvent} {app : Application} (h : Valved es app) (name : Bytes) (enabled : Bool) :
    Valved (es ++ [.request name enabled]) (app.handle (.request name enabled)) := by
  have hsw := switched_run (s := (app.host, app.bridge.gst)) h.switchable [(name, enabled)]
  refine ⟨(congrArg Option.isSome (congrArg ProfileHost.pipeline hsw.host)).trans h.pipeline, hsw.switchable h.switchable,
    fun b hb => ?_⟩
  rw [show (app.handle (.request name enabled)).host = _ from hsw.host] at hb
  obtain ⟨b₀, hb₀, rfl⟩ := List.mem_map.mp hb
  rw [switched_name, requests_concat, LoopEvent.call, Option.toList_some, last_concat]
  refine (hsw.profileEnabled h.switchable hb₀).trans ?_
  rw [h.enabled b₀ hb₀, show [(name, enabled)] = [] ++ [(name, enabled)] from rfl, last_concat, last_nil]
  split <;> rfl

theorem lasting_valved : Lasting Valved := by
  refine Carried.lasting ⟨fun h hs => h.congr hs.profileBins hs.pipeline hs.same rfl, fun e h => ?_,
    fun name enabled h => h.request name enabled, fun during h => ?_⟩ Valved.pipeline
  · refine h.congr rfl rfl (Bridge.step_same (fun _ _ => by rfl) e) ?_
    rw [requests_concat, LoopEvent.call, Option.toList_none, List.append_nil]
  · refine h.congr rfl rfl .refl ?_
    rw [requests_concat, LoopEvent.call, Option.toList_none, List.append_nil]

theorem Valved.start {app : Application} {faults : InitFaults} (hinit : (app.initializeWith faults).1 = true) :
    Valved [] (app.initializeWith faults).2 := by
  obtain ⟨hok, hunmoved⟩ := initializeWith_served hinit
  obtain ⟨ns, hready⟩ := setupPipeline_ready hok
  have hpipeline := (setupPipeline_bus hok).1
  have hset : Valved [] ((app.readied faults).setUp faults.setup) :=
    ⟨congrArg Option.isSome hpipeline, hready.switchable, fun b hb => hready.profileEnabled hb⟩
  have hserved : Valved [] ((app.readied faults).setUp faults.setup).served :=
    hset.congr rfl rfl (RtspProfileServer.construct_same _ _ _ fun _ _ => by rfl) rfl
  exact hserved.congr hunmoved.profileBins hunmoved.pipeline hunmoved.same rfl

/-- From an `initialize` that returned true on, whatever else happens, a profile is served unless the last
call that named it since then has switched it off. -/
theorem profileEnabled_history (g : Gst) (before : List AppCall) (faults : InitFaults)
    (hinit : ((run react (new g) before).initializeWith faults).1 = true) (after : List AppCall) :
    let started := ((run react (new g) before).initializeWith faults).2
    let app := run react started after
    ∀ p ∈ kDefaultCatalog, app.host.profileEnabled p.name app.bridge.gst =
      (last p.name (requests (started.events after))).getD true := by
  intro started app p hp
  have hvalved : Valved (started.events after) app := lasting_valved.run after (Valved.start hinit)
  have happ : app = run react (new g) (before ++ .initializeWith faults :: after) := run_started ..
  obtain ⟨b, hb, o, hprofile⟩ := bin_of_catalog g (before ++ .initializeWith faults :: after) hp
  rw [← happ] at hb
  rw [show p.name = b.profile.name from by rw [hprofile, requested_name]]
  exact hvalved.enabled b hb

/-- A first `initialize` fails, a second one does not, and a profile is switched off in the loop. -/
theorem profileEnabled_history_hd :
    let faults : InitFaults := ⟨fun _ => false, ⟨fun _ => false, fun _ _ => false⟩, fun _ => false, none⟩
    let before : List AppCall := [.initializeWith { faults with setup.host := fun c => c = .tee }]
    let after : List AppCall := [.runWith false [.loop (.request (ascii "hd") false), .stop false] false]
    let started := ((run react (new .init) before).initializeWith faults).2
    let app := run react started after
    ((run react (new .init) before).initializeWith faults).1 = true ∧
      ∀ p ∈ kDefaultCatalog, app.host.profileEnabled p.name app.bridge.gst =
        (last p.name (requests (started.events after))).getD true := by
  intro faults before after
  have hinit : ((run react (new .init) before).initializeWith faults).1 = true := by decide +kernel
  have hhistory := profileEnabled_history .init before faults hinit after
  exact ⟨hinit, hhistory⟩

end Application

end CameraPlatform
