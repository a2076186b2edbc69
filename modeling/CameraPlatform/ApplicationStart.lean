import CameraPlatform.ApplicationState
import CameraPlatform.HostSpares
import CameraPlatform.LoopRefs

/-!
# What `initialize` attaches

Whatever fails in it, `initialize` leaves a loop and the signal sources it could make. The watch of the
bus is attached exactly when no call before it fails, and the source of the server when its own call
does not fail either.
-/

namespace CameraPlatform
open ByteString RefHeap Gst

namespace Application
open ProfileHost

variable {app : Application} {faults : InitFaults} {b c : Nat}

/-- The calls up to the watch of the bus do not fail. -/
def Watched (faults : InitFaults) : Prop :=
  (∀ call ∈ sharedCalls, faults.setup.host call = false) ∧
    (∀ k < kDefaultCatalog.length,
      (∀ call, faults.setup.bin k call = false) ∧ faults.setup.host (.padLink k) = false) ∧
    ∀ call, faults.watch call = false

/-- What starting the pipeline and the server does to an application, whatever fails. -/
structure Grown (b : Nat) (app app' : Application) : Prop where
  context : app'.context = app.context
  mainLoop : app'.mainLoop = app.mainLoop
  sigintSource : app'.sigintSource = app.sigintSource
  sigtermSource : app'.sigtermSource = app.sigtermSource
  host : app'.host.From b
  server : ∀ r ∈ app'.rtsp, r.From b
  spares : app.bridge.gst.Spares b Nothing app'.bridge.gst

/-- Neither the host nor the server has a source, and nothing that was made is one. -/
structure Silent (b : Nat) (app app' : Application) : Prop where
  busSource : app'.host.watch.busSource = none
  source : ∀ r ∈ app'.rtsp, r.source = none
  spares : app.bridge.gst.Spares b Scheduled app'.bridge.gst

/-- The watch of the bus is attached to the context. -/
def BusWatched (b c : Nat) (app : Application) : Prop :=
  ∃ s, b ≤ s ∧ app.host.watch.busSource = some s ∧ s ∈ app.bridge.gst.attachedTo c

/-- The source of the server is attached to the context. -/
def ServerWatched (c : Nat) (app : Application) : Prop :=
  ∃ r s, app.rtsp = some r ∧ r.source = some s ∧ s ∈ app.bridge.gst.attachedTo c

theorem attachedTo_newWatch (g : Gst) (bus context : Nat) :
    g.next ∈ (g.newWatch bus context).attachedTo context := by
  refine mem_attachedTo.mpr ⟨{ type := ascii "GSource", bus := some bus, context := some context }, ?_, rfl, rfl⟩
  unfold newWatch sourceAttach
  simp [obj_update, obj_alloc]

theorem spares_newWatch {g g' : Gst} (h : g.Spares b Nothing g') {bus : Nat} (hbus : b ≤ bus) (context : Nat) :
    g.Spares b Nothing (g'.newWatch bus context) := by
  unfold newWatch
  exact (((h.ref hbus).alloc false id).sourceAttach (by simpa using h.le') context).unref hbus

theorem attachPipelineEvents_cases {p bus : Nat} (fails : WatchCall → Bool) (hctx : app.context = some c)
    (hlinked : app.host.isLinked = true) (hp : app.host.pipeline = some p)
    (hbus : app.bridge.gst.busOf p = some bus) (hwatch : app.host.watch.busSource = none) :
    let g := app.bridge.gst
    let res := app.attachPipelineEvents fails
    ((∃ call, fails call = true) ∧ res.1 = false ∧ ∃ w g', res.2 = { app with
        host := { app.host with watch := w }, bridge := { app.bridge with gst := g' } } ∧
      w.busSource = none ∧ (g' = g.fail ∨ g' = (g.ref bus).fail)) ∨
    ((∀ call, fails call = false) ∧ res.1 = true ∧ ∃ w, res.2 = { app with
        host := { app.host with watch := w }, bridge := { app.bridge with gst := g.newWatch bus c } } ∧
      w.busSource = some g.next) := by
  intro g res
  have hdetach : app.host.watch.detachBusWatch g = (app.host.watch, g) := by
    rw [BusWatch.detachBusWatch, hwatch]
  have hcases := app.host.watch.attach_cases fails c onPipelineEvent (show _ = some bus by rw [hdetach]; exact hbus)
  rw [hdetach] at hcases
  have hhost : app.host.attachBusWatch fails (some c) (some onPipelineEvent) g =
      ((app.host.watch.attachBusWatch fails p c onPipelineEvent g).1,
        { app.host with watch := (app.host.watch.attachBusWatch fails p c onPipelineEvent g).2.1 },
        (app.host.watch.attachBusWatch fails p c onPipelineEvent g).2.2) := by
    simp only [ProfileHost.attachBusWatch, hlinked, hp]
  have hres : res = ((app.host.watch.attachBusWatch fails p c onPipelineEvent g).1.ok,
      { app with
        host := { app.host with watch := (app.host.watch.attachBusWatch fails p c onPipelineEvent g).2.1 }
        bridge := { app.bridge with gst := (app.host.watch.attachBusWatch fails p c onPipelineEvent g).2.2 } }) := by
    show app.attachPipelineEvents fails = _
    simp only [attachPipelineEvents, hctx, hhost, g]
  rw [hres]
  generalize app.host.watch.attachBusWatch fails p c onPipelineEvent g = attached at hcases
  obtain ⟨outcome, w, g'⟩ := attached
  rcases hcases with ⟨hfail, hok, hnone, hg⟩ | ⟨hgood, hok, hw, hg⟩
  · exact .inl ⟨hfail, hok, w, g', rfl, hnone, hg⟩
  · obtain rfl : g' = g.newWatch bus c := hg
    exact .inr ⟨hgood, hok, w, rfl, by rw [show w = _ from hw]⟩

/-- The tags of an object decide whether it is a source of the context. -/
abbrev Tagged (g g' : Gst) : Prop := Gst.Same (fun o => (o.type, o.context)) g g'

theorem attachedTo_mono {g g' : Gst} (h : Tagged g g') {s : Nat} (hs : s ∈ g.attachedTo c) : s ∈ g'.attachedTo c := by
  obtain ⟨o, ho, htype, hcontext⟩ := mem_attachedTo.mp hs
  obtain ⟨o', ho', htag⟩ := h.exists_obj ho
  obtain ⟨htype', hcontext'⟩ := Prod.mk.inj htag
  exact mem_attachedTo.mpr ⟨o', ho', htype'.trans htype, hcontext'.trans hcontext⟩

/-- The source of a server is a new object. -/
theorem attach_cases (error : Option Bytes) (server : RtspProfileServer) (g : Gst)
    (hserver : server.server.isSome = true) (hsource : server.source = none) :
    let res := server.attach error c g
    (error.isSome = true ∧ res.1.ok = false ∧ res.2 = (server, g.fail)) ∨
    (error = none ∧ res.1.ok = true ∧ res.2 = ({ server with source := some g.next },
      (g.alloc false { type := ascii "GSource" }).sourceAttach g.next c)) := by
  intro res
  have hres : res = server.attach error c g := rfl
  unfold RtspProfileServer.attach at hres
  rw [if_neg (by rw [Option.isNone_iff_eq_none]; exact Option.isSome_iff_ne_none.mp hserver),
    if_neg (by rw [hsource]; simp)] at hres
  cases error with
  | some message => exact .inl ⟨rfl, by rw [hres], by rw [hres]⟩
  | none => exact .inr ⟨rfl, by rw [hres]; rfl, by rw [hres]⟩

theorem attachedTo_newSource (g : Gst) (context : Nat) :
    g.next ∈ ((g.alloc false { type := ascii "GSource" }).sourceAttach g.next context).attachedTo context := by
  refine mem_attachedTo.mpr ⟨{ type := ascii "GSource", context := some context }, ?_, rfl, rfl⟩
  unfold sourceAttach
  simp [obj_update, obj_alloc]

theorem keeps_newSource (g : Gst) (context : Nat) :
    g.Keeps ((g.alloc false { type := ascii "GSource" }).sourceAttach g.next context) :=
  ((Keeps.refl.alloc _ _).update (Nat.le_refl _) _).ref _

/-- The last call of `startServer`. -/
theorem attachServer_cases {server : RtspProfileServer} {g g' : Gst} (error : Option Bytes) (hg : g.Spares b Nothing g')
    (hserver : server.From b) (hsome : server.server.isSome = true) (hsource : server.source = none) :
    let res := server.attach error c g'
    res.2.1.From b ∧ g.Spares b Nothing res.2.2 ∧ Tagged g' res.2.2 ∧ (res.1.ok = true ↔ error = none) ∧
      (error = none → ∃ s, res.2.1.source = some s ∧ s ∈ res.2.2.attachedTo c) := by
  intro res
  rcases attach_cases error server g' hsome hsource with ⟨herror, hno, heq⟩ | ⟨herror, hyes, heq⟩
  · have hnot : ¬ error = none := fun h => by rw [h] at herror; cases herror
    rw [show res.2 = _ from heq]
    exact ⟨hserver, hg.fail, Gst.Same.refl.heap rfl, iff_of_false (by rw [show res.1.ok = _ from hno]; simp) hnot,
      fun h => absurd h hnot⟩
  · rw [show res.2 = _ from heq]
    refine ⟨⟨hserver.server, ?_⟩, (hg.alloc false id).sourceAttach hg.le' c, (keeps_newSource g' c).same,
      iff_of_true hyes herror, fun _ => ⟨_, rfl, attachedTo_newSource ..⟩⟩
    rintro s ⟨⟩
    exact hg.le'

theorem startServer_cases {p bus : Nat} (hb : b ≤ app.bridge.gst.next) (hctx : app.context = some c)
    (hfrom : app.host.From b) (hlinked : app.host.isLinked = true) (hp : app.host.pipeline = some p)
    (hplt : p < app.bridge.gst.next) (hbus : app.bridge.gst.busOf p = some bus) (hle : b ≤ bus)
    (hwatch : app.host.watch.busSource = none) :
    let res := app.startServer faults c
    Grown b app res.2 ∧ (∃ w, res.2.host = { app.host with watch := w }) ∧
      (((∃ call, faults.watch call = true) ∧ res.1 = false ∧ Silent b app res.2) ∨
       ((∀ call, faults.watch call = false) ∧ BusWatched b c res.2 ∧ (res.1 = true ↔ faults.attach = none) ∧
        (faults.attach = none → ServerWatched c res.2))) := by
  intro res
  have hres : res = app.startServer faults c := rfl
  obtain ⟨hspares, hserver, hsource⟩ :=
    RtspProfileServer.spares_construct (Spares.refl (S := Scheduled) hb) hfrom proto.kRtspPort
  have hsome : (RtspProfileServer.construct proto.kRtspPort app.host app.bridge).1.server.isSome = true := rfl
  have hsame : Gst.Same GObject.bus app.bridge.gst
      (RtspProfileServer.construct proto.kRtspPort app.host app.bridge).2.gst :=
    RtspProfileServer.construct_same _ _ _ fun _ _ => by rfl
  unfold startServer at hres
  generalize RtspProfileServer.construct proto.kRtspPort app.host app.bridge = made
    at hspares hserver hsource hsome hsame hres
  obtain ⟨server, bridge⟩ := made
  have hcases := @attachPipelineEvents_cases { app with rtsp := some server, bridge } c p bus faults.watch hctx hlinked
    hp ((hsame.bind id hplt).trans hbus) hwatch
  simp only at hres
  generalize attachPipelineEvents faults.watch { app with rtsp := some server, bridge } = watched at hcases hres
  obtain ⟨attached, app'⟩ := watched
  rcases hcases with ⟨hfail, hno, w, g', happ, hnone, hg⟩ | ⟨hgood, hyes, w, happ, hw⟩
  · obtain rfl : attached = false := hno
    obtain rfl : app' = _ := happ
    simp only [Bool.false_eq_true, if_false] at hres
    have hspares' : app.bridge.gst.Spares b Scheduled g' := by
      rcases hg with rfl | rfl
      · exact hspares.fail
      · exact (hspares.ref hle).fail
    have hhost : ({ app.host with watch := w } : ProfileHost).From b :=
      { hfrom with busSource := by rw [show _ = none from hnone]; exact nofun }
    have hservers : ∀ r ∈ some server, r.From b ∧ r.source = none := by
      rintro r ⟨⟩
      exact ⟨hserver, hsource⟩
    rw [hres]
    exact ⟨⟨rfl, rfl, rfl, rfl, hhost, fun r hr => (hservers r hr).1, hspares'.forget⟩, ⟨w, rfl⟩,
      .inl ⟨hfail, rfl, hnone, fun r hr => (hservers r hr).2, hspares'⟩⟩
  · obtain rfl : attached = true := hyes
    obtain rfl : app' = _ := happ
    simp only [if_true] at hres
    have hle' := hspares.le'
    have hhost : ({ app.host with watch := w } : ProfileHost).From b :=
      { hfrom with busSource := by rw [show _ = some _ from hw]; rintro r ⟨⟩; exact hle' }
    obtain ⟨hserver', hspares', htagged, hiff, hattached⟩ :=
      @attachServer_cases b c _ _ _ faults.attach (spares_newWatch hspares.forget hle c) hserver hsome hsource
    generalize server.attach faults.attach c (bridge.gst.newWatch bus c) = made
      at hres hserver' hspares' htagged hiff hattached
    obtain ⟨outcome, server', g'⟩ := made
    have hservers : ∀ r ∈ some server', r.From b := by
      rintro r ⟨⟩
      exact hserver'
    rw [hres]
    refine ⟨⟨rfl, rfl, rfl, rfl, hhost, hservers, hspares'⟩, ⟨w, rfl⟩,
      .inr ⟨hgood, ⟨_, hle', hw, attachedTo_mono htagged (attachedTo_newWatch bridge.gst bus c)⟩, hiff, fun herror => ?_⟩⟩
    obtain ⟨s, hs, hmem⟩ := hattached herror
    exact ⟨server', s, rfl, hs, hmem⟩

theorem Grown.trans {app' app'' : Application} (h : Grown b app app') (h' : Grown b app' app'') : Grown b app app'' :=
  ⟨h'.context.trans h.context, h'.mainLoop.trans h.mainLoop, h'.sigintSource.trans h.sigintSource,
    h'.sigtermSource.trans h.sigtermSource, h'.host, h'.server, h.spares.trans h'.spares⟩

/-- From the setup on, either nothing that was made is a source, or the watch is attached. -/
theorem startPipeline_cases (hb : b ≤ app.bridge.gst.next) (hctx : app.context = some c) (hfrom : app.host.From b)
    (hwatch : app.host.watch.busSource = none) (hrtsp : app.rtsp = none) :
    let setup := setupPipeline faults.setup app.host app.bridge.gst
    let res := app.startPipeline faults c
    Grown b app res.2 ∧
      ((¬ (setup.1.ok = true ∧ ∀ call, faults.watch call = false) ∧ res.1 = false ∧ Silent b app res.2) ∨
       ((setup.1.ok = true ∧ ∀ call, faults.watch call = false) ∧ BusWatched b c res.2 ∧
        (res.1 = true ↔ faults.attach = none) ∧ (faults.attach = none → ServerWatched c res.2) ∧ res.2.host.isLinked = true ∧
        ∃ p, res.2.host.pipeline = some p ∧ p < res.2.bridge.gst.next)) := by
  intro setup res
  have hres : res = app.startPipeline faults c := rfl
  have hsetup : setup = setupPipeline faults.setup app.host app.bridge.gst := rfl
  obtain ⟨hspares, hhost⟩ := @spares_setupPipeline b _ _ app.host faults.setup (Spares.refl hb) hfrom
  have hready := @setupPipeline_ready faults.setup app.host app.bridge.gst
  have hbus := @setupPipeline_bus faults.setup app.host app.bridge.gst
  have hwatch' := @setupPipeline_watch faults.setup app.host app.bridge.gst
  unfold startPipeline at hres
  rw [← hsetup] at hspares hhost hready hbus hwatch' hres
  obtain ⟨outcome, host, gst⟩ := setup
  have hnone : host.watch.busSource = none := by rw [show host.watch = _ from hwatch']; exact hwatch
  have hservers : ∀ r ∈ app.rtsp, r.From b := by rw [hrtsp]; exact nofun
  have hgrown : Grown b app { app with host, bridge := { app.bridge with gst } } :=
    ⟨rfl, rfl, rfl, rfl, hhost, hservers, hspares.forget⟩
  simp only at hres
  by_cases hok : outcome.ok = true
  · rw [if_pos hok] at hres
    obtain ⟨ns, hr⟩ := hready hok
    obtain ⟨hp, hbusOf⟩ := hbus hok
    have hlt : app.bridge.gst.next < gst.next := Gst.lt_of_bind hbusOf
    obtain ⟨hgrown', ⟨w, hw⟩, hcases⟩ := @startServer_cases { app with host, bridge := { app.bridge with gst } } faults b c
      app.bridge.gst.next (app.bridge.gst.next + 1) hspares.le' hctx hhost hr.isLinked hp hlt hbusOf
      (Nat.le_succ_of_le hb) hnone
    rw [← hres] at hgrown' hw hcases
    refine ⟨hgrown.trans hgrown', ?_⟩
    rcases hcases with ⟨⟨call, hcall⟩, hno, hsilent⟩ | ⟨hgood, hbusWatched, hiff, hserver⟩
    · refine .inl ⟨fun h => ?_, hno, hsilent.busSource, hsilent.source, hspares.trans hsilent.spares⟩
      rw [h.2 call] at hcall
      cases hcall
    · refine .inr ⟨⟨hok, hgood⟩, hbusWatched, hiff, hserver, by rw [hw]; exact hr.isLinked, app.bridge.gst.next, ?_, ?_⟩
      · rw [hw]; exact hp
      · exact Nat.lt_of_lt_of_le hlt hgrown'.spares.next_le
  · rw [if_neg hok] at hres
    rw [hres]
    refine ⟨hgrown, .inl ⟨fun h => hok h.1, rfl, hnone, ?_, hspares⟩⟩
    show ∀ r ∈ app.rtsp, r.source = none
    rw [hrtsp]
    exact nofun

/-! ### The loop and the signal sources -/

/-- The signal sources of the application. -/
def signals (app : Application) : List Nat := app.sigintSource.toList ++ app.sigtermSource.toList

/-- A new context with its loop and the sources attached to it; nothing else that was made is scheduled. -/
structure Armed (g₀ g : Gst) (sources : List Nat) : Prop where
  loops : Loops g₀ g g₀.next 1
  held : ∀ s ∈ sources,
    g₀.next + 1 < s ∧ Held g₀ g s 2 { type := ascii "GSource", context := some g₀.next }
  nodup : sources.Nodup
  known : ∀ x o, g₀.next ≤ x → g.obj x = some o → Scheduled o.type o.context → x = g₀.next + 1 ∨ x ∈ sources
  misused : g.heap.misused = g₀.heap.misused
  next_le : g₀.next + 2 ≤ g.next

theorem armed_new (g : Gst) :
    Armed g (((g.alloc false { type := ascii "GMainContext" }).alloc false
      { type := ascii "GMainLoop", context := some g.next }).ref g.next) [] := by
  have hcontext : Held g (g.alloc false { type := ascii "GMainContext" }) g.next 1 { type := ascii "GMainContext" } :=
    .alloc_self rfl _
  have hloop : Held g ((g.alloc false { type := ascii "GMainContext" }).alloc false
      { type := ascii "GMainLoop", context := some g.next }) (g.next + 1) 1
      { type := ascii "GMainLoop", context := some g.next } := by
    have := @Held.alloc_self g (g.alloc false { type := ascii "GMainContext" }) rfl
      { type := ascii "GMainLoop", context := some g.next }
    rwa [next_alloc] at this
  refine ⟨⟨(hcontext.alloc _ _).ref, hloop.ref_other (by omega)⟩, by simp, .nil, fun x o hx ho hS => ?_, rfl, by simp⟩
  rw [obj_ref, obj_alloc] at ho
  split at ho
  · next hxl => exact .inl (by rw [hxl, next_alloc])
  · rw [obj_alloc] at ho
    split at ho
    · obtain rfl := Option.some.inj ho
      exact absurd hS (by decide)
    · rw [obj_eq_none hx] at ho
      cases ho

theorem Armed.attachSignalSource {g₀ g : Gst} {sources : List Nat} (h : Armed g₀ g sources) (fails : Bool) :
    Armed g₀ (attachSignalSource fails g₀.next g).2
      (sources ++ (attachSignalSource fails g₀.next g).1.toList) := by
  unfold Application.attachSignalSource
  cases fails with
  | true =>
    refine ⟨⟨h.loops.context.heap rfl, h.loops.loop.heap rfl⟩, fun s hs => ?_, by simpa using h.nodup,
      fun x o hx ho hS => ?_, h.misused, h.next_le⟩
    · obtain ⟨hlt, hheld⟩ := h.held s (by simpa using hs)
      exact ⟨hlt, hheld.heap rfl⟩
    · simpa using h.known x o hx ho hS
  | false =>
    have hle := h.next_le
    have hold : ∀ {x n : Nat} {o : GObject}, Held g₀ g x n o →
        Held g₀ ((g.alloc false { type := ascii "GSource" }).sourceAttach g.next g₀.next) x n o := fun hx =>
      ((hx.alloc _ _).update_other (Nat.ne_of_lt hx.lt) _).ref_other (Nat.ne_of_lt hx.lt)
    have hnew : Held g₀ ((g.alloc false { type := ascii "GSource" }).sourceAttach g.next g₀.next) g.next 2
        { type := ascii "GSource", context := some g₀.next } :=
      ((Held.alloc_self h.misused { type := ascii "GSource" }).update _).ref
    have hfresh : ∀ s ∈ sources, s ≠ g.next := fun s hs => Nat.ne_of_lt (h.held s hs).2.lt
    refine ⟨⟨hold h.loops.context, hold h.loops.loop⟩, fun s hs => ?_, ?_, fun x o hx ho hS => ?_, h.misused, ?_⟩
    · rcases List.mem_append.mp hs with hs | hs
      · exact ⟨(h.held s hs).1, hold (h.held s hs).2⟩
      · obtain rfl : s = g.next := by simpa using hs
        exact ⟨by omega, hnew⟩
    · refine List.nodup_append.mpr ⟨h.nodup, by simp, fun s hs t ht => ?_⟩
      obtain rfl : t = g.next := by simpa using ht
      exact hfresh s hs
    · by_cases hxn : x = g.next
      · exact .inr (by simp [hxn])
      · have hkeep : ((g.alloc false { type := ascii "GSource" }).sourceAttach g.next g₀.next).obj x = g.obj x := by
          unfold sourceAttach
          rw [obj_ref, obj_update, if_neg hxn, obj_alloc, if_neg hxn]
        rcases h.known x o hx (hkeep.symm.trans ho) hS with hx | hx
        · exact .inl hx
        · exact .inr (List.mem_append_left _ hx)
    · exact Nat.le_trans hle (keeps_newSource g g₀.next).next_le

theorem installSignalHandlers_spec {g₀ : Gst} (fails : Signum → Bool) (hctx : app.context = some g₀.next)
    (h : Armed g₀ app.bridge.gst []) :
    let res := (app.installSignalHandlers fails).2
    Armed g₀ res.bridge.gst res.signals ∧ res = { app with
      sigintSource := res.sigintSource, sigtermSource := res.sigtermSource, bridge := res.bridge } := by
  intro res
  have hsigint := h.attachSignalSource (fails .SIGINT)
  have hsigterm := hsigint.attachSignalSource (fails .SIGTERM)
  have hres : res = (app.installSignalHandlers fails).2 := rfl
  simp only [installSignalHandlers, hctx] at hres
  rw [hres]
  exact ⟨hsigterm, by rw [← hctx]⟩

/-! ### All of `initialize` -/

/-- An application whose loop has `k` references besides its own: what it and the context hold, and where
everything else begins. -/
structure Started (g₀ : Gst) (b k : Nat) (app : Application) : Prop where
  loops : Loops g₀ app.bridge.gst g₀.next (k + app.mainLoop.toList.length)
  mainLoop : ∀ loop ∈ app.mainLoop, loop = g₀.next + 1
  context : app.context = some g₀.next
  held : ∀ s ∈ app.signals, Held g₀ app.bridge.gst s 2 { type := ascii "GSource", context := some g₀.next }
  above : ∀ s ∈ app.signals, g₀.next + 1 < s ∧ s < b
  nodup : app.signals.Nodup
  host : app.host.From b
  server : ∀ r ∈ app.rtsp, r.From b
  base : g₀.next + 1 < b
  le : b ≤ app.bridge.gst.next

/-- Of what was made, only the loop and the signal sources are scheduled. -/
structure Quiet (g₀ : Gst) (app : Application) : Prop where
  busSource : app.host.watch.busSource = none
  source : ∀ r ∈ app.rtsp, r.source = none
  known : ∀ x o, g₀.next ≤ x → app.bridge.gst.obj x = some o → Scheduled o.type o.context →
    x = g₀.next + 1 ∨ x ∈ app.signals

/-- The pipeline of the catalog is set up when no call for its branches fails. -/
theorem setup_catalog_iff (calls : List (Bytes × Bool)) (g : Gst) {host : ProfileHost}
    (hbins : host.profileBins = (kDefaultCatalog.map fun profile => ({ profile } : ProfileBin)).map (switched calls))
    (hsource : host.videoSource = some .TestVideoSource) (hpipeline : host.pipeline = none) :
    (setupPipeline faults.setup host g).1.ok = true ↔
      (∀ call ∈ sharedCalls, faults.setup.host call = false) ∧
        ∀ k < kDefaultCatalog.length,
          (∀ call, faults.setup.bin k call = false) ∧ faults.setup.host (.padLink k) = false := by
  have hlength : host.profileBins.length = kDefaultCatalog.length := by rw [hbins, List.length_map, List.length_map]
  have hnames : (host.profileBins.map fun x => ProfileBin.binName x.profile).Nodup := by
    have heq : host.profileBins.map (fun x => ProfileBin.binName x.profile) = kDefaultCatalog.map ProfileBin.binName := by
      rw [hbins, List.map_map, List.map_map]
      refine List.map_congr_left fun profile _ => ?_
      simp only [Function.comp, ProfileBin.binName, switched_name]
    rw [heq]
    decide
  rw [setupPipeline_iff hsource hpipeline, hlength]
  exact ⟨fun h => ⟨h.1, h.2.1⟩, fun h => ⟨h.1, h.2, hnames⟩⟩

/-- The application with its loop. -/
def looped (app : Application) : Application :=
  { app with
    context := some app.bridge.gst.next
    mainLoop := some (app.bridge.gst.next + 1)
    bridge := { app.bridge with gst := ((app.bridge.gst.alloc false { type := ascii "GMainContext" }).alloc false
      { type := ascii "GMainLoop", context := some app.bridge.gst.next }).ref app.bridge.gst.next } }

/-- The application when its pipeline is set up. -/
def sourced (app : Application) : Application := { app with host := (app.host.setVideoSource (some .TestVideoSource)).2 }

theorem initializeWith_eq (faults : InitFaults) (app : Application) : app.initializeWith faults =
    ((app.looped.installSignalHandlers faults.signal).2.sourced).startPipeline faults app.bridge.gst.next := rfl

/-- Before the setup a host points nowhere. -/
theorem from_catalog (videoSource : Option VideoSource) (calls : List (Bytes × Bool)) (b : Nat) :
    From b { videoSource, profileBins :=
      (kDefaultCatalog.map fun profile => ({ profile } : ProfileBin)).map (switched calls) } := by
  refine ⟨nofun, nofun, nofun, nofun, nofun, fun x hx => ?_, nofun⟩
  obtain ⟨y, hy, rfl⟩ := List.mem_map.mp hx
  obtain ⟨profile, -, rfl⟩ := List.mem_map.mp hy
  exact ProfileBin.from_null _ _

/-- The host that `new` and `setVideoSource` leave. -/
def sourcedHost : ProfileHost :=
  { videoSource := some .TestVideoSource
    profileBins := (kDefaultCatalog.map fun profile => ({ profile } : ProfileBin)).map
      (switched (constructorCalls ++ [])) }

/-- The application before its pipeline: the loop and the signal sources, and no server yet. -/
theorem sourced_spec (fails : Signum → Bool) (g : Gst) :
    let app := ((new g).looped.installSignalHandlers fails).2.sourced
    Armed g app.bridge.gst app.signals ∧ app.host = sourcedHost ∧ app.context = some g.next ∧ app.rtsp = none ∧
      app.mainLoop = some (g.next + 1) := by
  have hgst : (new g).bridge.gst = g := by rw [new_eq]
  have hctx : (new g).looped.context = some g.next := by rw [looped, hgst]
  have hrtsp : (new g).looped.rtsp = none := by rw [looped, new_eq]
  have hloop : (new g).looped.mainLoop = some (g.next + 1) := by rw [looped, hgst]
  have harmed : Armed g (new g).looped.bridge.gst [] := by
    rw [looped, hgst]
    exact armed_new g
  have hhost : ((new g).looped.host.setVideoSource (some .TestVideoSource)).2 = sourcedHost := by
    rw [looped, new_eq, sourcedHost, List.append_nil]
    rfl
  obtain ⟨harmed', hsame⟩ := installSignalHandlers_spec fails hctx harmed
  generalize ((new g).looped.installSignalHandlers fails).2 = app at harmed' hsame
  refine ⟨harmed', ?_, ?_, ?_, ?_⟩
  · show (app.host.setVideoSource (some .TestVideoSource)).2 = _
    rw [hsame]
    exact hhost
  · show app.context = _
    rw [hsame]
    exact hctx
  · show app.rtsp = _
    rw [hsame]
    exact hrtsp
  · show app.mainLoop = _
    rw [hsame]
    exact hloop

theorem initializeWith_cases (faults : InitFaults) (g : Gst) :
    let res := (new g).initializeWith faults
    ∃ b, Started g b 0 res.2 ∧ res.2.mainLoop = some (g.next + 1) ∧
      ((¬ Watched faults ∧ res.1 = false ∧ Quiet g res.2) ∨
       (Watched faults ∧ BusWatched b g.next res.2 ∧ (res.1 = true ↔ faults.attach = none) ∧
        (faults.attach = none → ServerWatched g.next res.2) ∧ res.2.host.isLinked = true ∧
        ∃ p, res.2.host.pipeline = some p ∧ p < res.2.bridge.gst.next)) := by
  intro res
  have hgst : (new g).bridge.gst = g := by rw [new_eq]
  have hres : res = (new g).initializeWith faults := rfl
  rw [initializeWith_eq, hgst] at hres
  obtain ⟨harmed, hhost, hctx, hrtsp, hloop⟩ := sourced_spec faults.signal g
  generalize ((new g).looped.installSignalHandlers faults.signal).2.sourced = app at harmed hhost hctx hrtsp hloop hres
  -- the pipeline and the server
  have hfrom : app.host.From app.bridge.gst.next := by
    rw [hhost]
    exact from_catalog _ _ _
  have hsetup := @setup_catalog_iff faults (constructorCalls ++ []) app.bridge.gst app.host (by rw [hhost]; rfl)
    (by rw [hhost]; rfl) (by rw [hhost]; rfl)
  obtain ⟨hgrown, hcases⟩ := @startPipeline_cases app faults app.bridge.gst.next g.next (Nat.le_refl _) hctx hfrom
    (by rw [hhost]; rfl) hrtsp
  rw [← hres] at hgrown hcases
  have hsignals : res.2.signals = app.signals := by
    rw [signals, hgrown.sigintSource, hgrown.sigtermSource, signals]
  have hmain : res.2.mainLoop = some (g.next + 1) := hgrown.mainLoop.trans hloop
  have hbase : g.next + 1 < app.bridge.gst.next := harmed.next_le
  refine ⟨app.bridge.gst.next, ⟨?_, ?_, hgrown.context.trans hctx, ?_, ?_, ?_, hgrown.host, hgrown.server, hbase,
    hgrown.spares.next_le⟩, hmain, ?_⟩
  · rw [hmain]
    exact harmed.loops.spares hgrown.spares hbase
  · rw [hmain]
    rintro loop ⟨⟩
    rfl
  · intro s hs
    have hheld := (harmed.held s (hsignals ▸ hs)).2
    exact hheld.spares hgrown.spares hheld.lt
  · intro s hs
    obtain ⟨hlt, hheld⟩ := harmed.held s (hsignals ▸ hs)
    exact ⟨hlt, hheld.lt⟩
  · rw [hsignals]
    exact harmed.nodup
  · rcases hcases with ⟨hno, hfalse, hsilent⟩ | ⟨hyes, hwatched, hiff, hserver, hlinked, hp⟩
    · refine .inl ⟨fun hw => hno ⟨hsetup.mpr ⟨hw.1, hw.2.1⟩, hw.2.2⟩, hfalse, hsilent.busSource, hsilent.source, ?_⟩
      intro x o hx ho hS
      obtain ⟨o', ho', hS'⟩ := hsilent.spares.made x o ho hS
      rw [hsignals]
      exact harmed.known x o' hx ho' hS'
    · obtain ⟨hcalls, hbranches⟩ := hsetup.mp hyes.1
      exact .inr ⟨⟨hcalls, hbranches, hyes.2⟩, hwatched, hiff, hserver, hlinked, hp⟩

end Application

end CameraPlatform
