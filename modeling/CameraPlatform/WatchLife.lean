import CameraPlatform.PipelineLife

/-!
# How long a bus watch lives

`Watching` ties the watch to the pipeline that was set up: at most one source is attached, it is the
one `m_busSource` points to, and it watches the bus of a pipeline that is there.
-/

namespace CameraPlatform
open ByteString RefHeap History

/-- What is promised about the sources made since `g₀`. -/
structure WatchContract (g₀ : Gst) (pipeline : Option Nat) (w : BusWatch) (g : Gst) : Prop where
  /-- The attached source is the one of `m_busSource`. -/
  attached : ∀ x, (g₀.next ≤ x ∧ (g.contextOf x).isSome) ↔ w.busSource = some x
  /-- It watches the bus of the pipeline, which is there, also when the handler runs. -/
  pipeline : ∀ x ∈ w.busSource, ∃ p bus, pipeline = some p ∧ g.busOf p = some bus ∧ g.watched x = some bus ∧
    g.alive p = true ∧ ∀ during, (BusWatch.posted g bus during).alive p = true
  /-- No other source calls any handler. -/
  silent : ∀ x, g₀.next ≤ x → w.busSource ≠ some x → ∀ handler during, g.dispatch x handler during = ([], g)

/-- No source made since `g₀` is attached, and none calls a handler. -/
def Unwatched (g₀ g : Gst) : Prop :=
  ∀ x, g₀.next ≤ x → g.contextOf x = none ∧ ∀ handler during, g.dispatch x handler during = ([], g)

/-- `ready` is the pipeline that was set up; the sources of `old` have been given up. -/
structure Watching (g₀ : Gst) (old : Nat → Prop) (ready : Option Nat) (w : BusWatch) (g : Gst) : Prop where
  next_le : g₀.next ≤ g.next
  live : ∀ p ∈ ready, ∃ bus, Gst.Live p bus g
  source : ∀ x ∈ w.busSource, ∃ p bus, ready = some p ∧ Gst.Live p bus g ∧ p ≠ x ∧ g.busOf x = some bus ∧
    (g.contextOf x).isSome ∧ g₀.next ≤ x
  only : ∀ x, g₀.next ≤ x → (g.contextOf x).isSome → w.busSource = some x
  gone : ∀ x, old x → x < g.next ∧ w.busSource ≠ some x

namespace Watching
variable {g₀ g g' : Gst} {old : Nat → Prop} {ready ready' : Option Nat} {w w' : BusWatch} {p bus : Nat}

/-! ### What it is good for -/

theorem dispatch_of_detached {x : Nat} (hx : g.contextOf x = none) (handler : Gst → List Report × Gst)
    (during : List GstMessage) : g.dispatch x handler during = ([], g) := by
  have hwatched : (g.obj x).bind (fun o => o.context.bind fun _ => o.bus) = none := by
    unfold Gst.contextOf at hx
    cases ho : g.obj x with
    | none => rfl
    | some o =>
      rw [ho] at hx
      have hcontext : o.context = none := hx
      rw [Option.bind_some, hcontext]
      rfl
  unfold Gst.dispatch
  rw [hwatched]

theorem watched_of {x : Nat} (hbus : g.busOf x = some bus) (hcontext : (g.contextOf x).isSome) :
    g.watched x = some bus := by
  obtain ⟨c, hc⟩ := Option.isSome_iff_exists.mp hcontext
  obtain ⟨o, ho, hoc⟩ := Option.bind_eq_some_iff.mp hc
  obtain ⟨o', ho', hob⟩ := Option.bind_eq_some_iff.mp hbus
  obtain rfl : o = o' := Option.some.inj (ho.symm.trans ho')
  unfold Gst.watched
  rw [ho, Option.bind_some, hoc, hob]
  rfl

theorem detached (h : Watching g₀ old ready w g) {x : Nat} (hx : g₀.next ≤ x) (hne : w.busSource ≠ some x) :
    g.contextOf x = none :=
  Option.not_isSome_iff_eq_none.mp fun hsome => hne (h.only x hx hsome)

theorem contract (h : Watching g₀ old ready w g) : WatchContract g₀ ready w g := by
  refine ⟨fun x => ⟨fun hx => h.only x hx.1 hx.2, fun hs => ?_⟩, fun x hx => ?_, fun x hx hne =>
    dispatch_of_detached (h.detached hx hne)⟩
  · obtain ⟨p, bus, -, -, -, -, hcontext, hx⟩ := h.source x hs
    exact ⟨hx, hcontext⟩
  · obtain ⟨p, bus, hp, hlive, -, hbus, hcontext, -⟩ := h.source x hx
    exact ⟨p, bus, hp, hlive.busOf, watched_of hbus hcontext, hlive.alive, fun during => (hlive.posted during).alive⟩

theorem unwatched (h : Watching g₀ old ready w g) (hw : w.busSource = none) : Unwatched g₀ g := fun x hx => by
  have hnone : g.contextOf x = none := h.detached hx (by rw [hw]; nofun)
  exact ⟨hnone, dispatch_of_detached hnone⟩

/-- From here on the sources of now, but for the current one, count as given up. -/
theorem restart (h : Watching g₀ old ready w g) :
    Watching g₀ (fun x => x < g.next ∧ w.busSource ≠ some x) ready w g :=
  ⟨h.next_le, h.live, h.source, h.only, fun _ hx => hx⟩

/-! ### What keeps it -/

theorem init (g : Gst) : Watching g (fun _ => False) none {} g := by
  refine ⟨Nat.le_refl _, nofun, nofun, fun x hx hsome => ?_, nofun⟩
  rw [Gst.contextOf_eq_none hx] at hsome
  cases hsome

/-- A call that neither attaches nor detaches a source, and keeps the pipeline. -/
theorem step (h : Watching g₀ old ready w g) (hsame : Gst.Same GObject.bus g g') (hidle : g.Idle g')
    (hlive : ∀ p bus, ready = some p → Gst.Live p bus g → Gst.Live p bus g') : Watching g₀ old ready w g' := by
  refine ⟨Nat.le_trans h.next_le hsame.next_le, fun p hp => ?_, fun x hx => ?_, fun x hx hsome => ?_, fun x hx => ?_⟩
  · obtain ⟨bus, hbus⟩ := h.live p hp
    exact ⟨bus, hlive p bus hp hbus⟩
  · obtain ⟨p, bus, hp, hl, hne, hbus, hc, hle⟩ := h.source x hx
    exact ⟨p, bus, hp, hlive p bus hp hl, hne, (hsame.bind id (Gst.lt_of_bind hbus)).trans hbus,
      by rw [hidle.contextOf]; exact hc, hle⟩
  · rw [hidle.contextOf] at hsome
    exact h.only x hx hsome
  · obtain ⟨hlt, hne⟩ := h.gone x hx
    exact ⟨Nat.lt_of_lt_of_le hlt hsame.next_le, hne⟩

theorem quiet (h : Watching g₀ old ready w g) (hq : g.Quiet g') : Watching g₀ old ready w g' :=
  h.step hq.same hq.idle fun _ _ _ => hq.live

/-- Without a watch the pipeline may be another one. -/
theorem replace (h : Watching g₀ old ready w g) (hw : w.busSource = none) (hw' : w'.busSource = none)
    (hidle : g.Idle g') (hlive : ∀ p ∈ ready', ∃ bus, Gst.Live p bus g') : Watching g₀ old ready' w' g' := by
  refine ⟨Nat.le_trans h.next_le hidle.next_le, hlive, fun x hx => ?_, fun x hx hsome => ?_, fun x hx => ?_⟩
  · rw [hw'] at hx; cases hx
  · rw [hidle.contextOf] at hsome
    rw [h.only x hx hsome] at hw
    cases hw
  · exact ⟨Nat.lt_of_lt_of_le (h.gone x hx).1 hidle.next_le, by rw [hw']; nofun⟩

theorem contextOf_sourceDestroy (source x : Nat) :
    (g.sourceDestroy source).contextOf x = if x = source then none else g.contextOf x := by
  unfold Gst.sourceDestroy
  split
  · rw [Gst.contextOf_unref, Gst.contextOf, Gst.obj_update]
    split
    · cases g.obj x <;> rfl
    · rfl
  · next hnone =>
    split
    · next hx => rw [hx]; exact hnone
    · rfl

theorem contextOf_newWatch (bus context x : Nat) :
    (g.newWatch bus context).contextOf x = if x = g.next then some context else g.contextOf x := by
  unfold Gst.newWatch Gst.sourceAttach
  rw [Gst.contextOf_unref, Gst.contextOf_ref, Gst.contextOf, Gst.obj_update, Gst.obj_alloc, Gst.next_ref, Gst.obj_ref]
  split
  · rfl
  · rfl

theorem busOf_newWatch (bus context : Nat) : (g.newWatch bus context).busOf g.next = some bus := by
  unfold Gst.newWatch Gst.sourceAttach Gst.busOf
  rw [Gst.obj_unref, Gst.obj_ref, Gst.obj_update, if_pos rfl, Gst.obj_alloc, if_pos (Gst.next_ref bus).symm]
  rfl

theorem next_newWatch (bus context : Nat) : (g.newWatch bus context).next = g.next + 1 := by
  unfold Gst.newWatch Gst.sourceAttach
  rw [Gst.next_unref, Gst.next_ref, Gst.next_update, Gst.next_alloc, Gst.next_ref]

/-- The watch is gone, the pipeline stays. -/
theorem detachBusWatch (h : Watching g₀ old ready w g) :
    Watching g₀ old ready (w.detachBusWatch g).1 (w.detachBusWatch g).2 := by
  cases hs : w.busSource with
  | none =>
    have heq : w.detachBusWatch g = (w, g) := by rw [BusWatch.detachBusWatch, hs]
    rw [heq]
    exact h
  | some source =>
    have heq : w.detachBusWatch g = ({ w with busSource := none }, (g.sourceDestroy source).unref source) := by
      rw [BusWatch.detachBusWatch, hs]
    have hsame : Gst.Same GObject.bus g ((g.sourceDestroy source).unref source) :=
      (Gst.Same.refl.sourceDestroy source).keeps (Gst.Keeps.refl.unref source)
    obtain ⟨q, _, hready, -, hne, -⟩ := h.source source hs
    rw [heq]
    refine ⟨Nat.le_trans h.next_le hsame.next_le, fun p hp => ?_, by rintro _ ⟨⟩, fun x hx hsome => ?_,
      fun x hx => ⟨Nat.lt_of_lt_of_le (h.gone x hx).1 hsame.next_le, by rintro ⟨⟩⟩⟩
    · obtain ⟨bus, hlive⟩ := h.live p hp
      obtain rfl : q = p := Option.some.inj (hready.symm.trans hp)
      exact ⟨bus, (hlive.sourceDestroy hne).unref hne⟩
    · rw [Gst.contextOf_unref, contextOf_sourceDestroy] at hsome
      split at hsome
      · cases hsome
      · next hx' =>
        have := h.only x hx hsome
        rw [hs] at this
        exact absurd (Option.some.inj this).symm hx'

/-- A failed attach leaves no watch, and a successful one a new one. -/
theorem attachBusWatch (h : Watching g₀ old (some p) w g) (fails : WatchCall → Bool) (context callback : Nat) :
    Watching g₀ old (some p) (w.attachBusWatch fails p context callback g).2.1
      (w.attachBusWatch fails p context callback g).2.2 := by
  have hd := h.detachBusWatch
  have hnone : (w.detachBusWatch g).1.busSource = none := by rw [BusWatch.detachBusWatch_fst]
  obtain ⟨bus, hlive⟩ := hd.live p rfl
  rcases BusWatch.attach_cases fails context callback hlive.busOf with
    ⟨-, -, hw', hfail | hfail⟩ | ⟨-, -, hw', hnew⟩
  · rw [hfail]
    exact hd.replace hnone hw' (Gst.Idle.refl.heap rfl) (by rintro _ ⟨⟩; exact ⟨bus, hlive.fail⟩)
  · rw [hfail]
    refine hd.replace hnone hw' (Gst.Idle.refl.more (Gst.next_ref bus) (Gst.obj_ref bus)) ?_
    rintro _ ⟨⟩
    exact ⟨bus, (hlive.ref hlive.ne).fail⟩
  · rw [hw', hnew]
    generalize (w.detachBusWatch g).2 = d at hd hlive
    have hlt := hlive.lt
    refine ⟨?_, ?_, ?_, fun x hx hsome => ?_, fun x hx => ?_⟩
    · rw [next_newWatch]
      exact Nat.le_succ_of_le hd.next_le
    · rintro _ ⟨⟩
      exact ⟨bus, hlive.newWatch context⟩
    · rintro _ ⟨⟩
      refine ⟨p, bus, rfl, hlive.newWatch context, by omega, busOf_newWatch bus context, ?_, hd.next_le⟩
      rw [contextOf_newWatch, if_pos rfl]
      rfl
    · rw [contextOf_newWatch] at hsome
      split at hsome
      · next hx' => rw [hx']
      · rw [hd.only x hx hsome] at hnone
        cases hnone
    · obtain ⟨hlt', -⟩ := hd.gone x hx
      rw [next_newWatch]
      refine ⟨Nat.lt_succ_of_lt hlt', fun heq => ?_⟩
      have : d.next = x := Option.some.inj heq
      omega

/-- The handler works on the bus of the pipeline. -/
theorem dispatch (h : Watching g₀ old ready w g) {source : Nat} (hs : w.busSource = some source)
    {handler : Gst → List Report × Gst} (fails : Bool) (hhandler : handler = w.onBusMessage fails ready)
    (during : List GstMessage) : Watching g₀ old ready w (g.dispatch source handler during).2 := by
  obtain ⟨p, bus, rfl, hlive, -, hbus, hcontext, -⟩ := h.source source hs
  subst hhandler
  refine h.step (Gst.Same.refl.dispatch source (fun _ => Gst.Same.refl.onBusMessage ..) during)
    (Gst.Idle.refl.dispatch (fun _ => Gst.Idle.refl.onBusMessage ..) source during) ?_
  rintro q bus' ⟨⟩ hlive'
  obtain rfl : bus = bus' := Option.some.inj (hlive.busOf.symm.trans hlive'.busOf)
  exact hlive.dispatch (watched_of hbus hcontext) (fun g' hg' => hg'.onBusMessage fails w) during

theorem arrive (h : Watching g₀ old ready w g) (pipeline : Option Nat) (ms : List GstMessage) :
    Watching g₀ old ready w (g.arrive pipeline ms) := by
  unfold Gst.arrive
  split
  · exact h.quiet (.postAll ..)
  · exact h

end Watching

/-! ### `ProfileHost` -/

namespace ProfileHost
variable {h : ProfileHost} {s : ProfileHost × Gst} {g g₀ : Gst} {old : Nat → Prop} {faults : SetupFaults}

/-- The pipeline that was set up. -/
def ready (h : ProfileHost) : Option Nat := if h.isLinked then h.pipeline else none

theorem pipeline_of_ready {p : Nat} (hp : h.ready = some p) : h.pipeline = some p := by
  unfold ready at hp
  split at hp
  · exact hp
  · cases hp

structure Watched (g₀ : Gst) (old : Nat → Prop) (s : ProfileHost × Gst) : Prop where
  linked : s.1.isLinked = true → s.1.pipeline.isSome
  watching : Watching g₀ old s.1.ready s.1.watch s.2

/-- A pipeline that was set up is there, with its bus. -/
theorem setupPipeline_live (hok : (setupPipeline faults h g).1.ok = true) :
    (setupPipeline faults h g).2.1.ready = some g.next ∧ Gst.Live g.next (g.next + 1) (setupPipeline faults h g).2.2 := by
  obtain ⟨ns, hready⟩ := setupPipeline_ready hok
  obtain ⟨hp, hbus⟩ := setupPipeline_bus hok
  obtain ⟨p, bus, hp', hbus', -, hqueue⟩ := hready.pipeline
  obtain rfl : g.next = p := Option.some.inj (hp.symm.trans hp')
  obtain rfl : g.next + 1 = bus := Option.some.inj (hbus.symm.trans hbus')
  refine ⟨by rw [ready, hready.isLinked, if_pos rfl, hp], ?_⟩
  obtain ⟨source, -, hsource, hpipeline, hcalls, -, -⟩ := setupPipeline_ok hok
  obtain ⟨-, hmade⟩ := List.forall_mem_cons.mp hcalls
  have hnew := Gst.Live.pipelineNew g (ascii "pipeline")
  have hnext := (Gst.pipelineNew_spec (g := g) (ascii "pipeline")).1
  refine hnew.cell ?_ (by rw [hqueue]; simp)
  rw [setupPipeline_made hsource hpipeline hmade] at hok ⊢
  generalize (g.pipelineNew false (ascii "pipeline")).2 = g₁ at hnew hnext hok ⊢
  have hparts : g₁.Spares (g.next + 1) Gst.Scheduled (g₁.allocAll (sharedParts source)) :=
    (Gst.Spares.refl (by omega)).allocAll (by cases source <;> decide)
  refine (((spares_setupElements_ok hparts (by omega) ?_ hok).get g.next (by omega) hnew.unowned).1)
  simp only [List.mem_cons, List.not_mem_nil, or_false]
  omega

/-- A set-up that fails leaves no pipeline that is set up. -/
theorem setupPipeline_unlinks (hlinked : h.isLinked = false) (hok : (setupPipeline faults h g).1.ok = false) :
    (setupPipeline faults h g).2.1.isLinked = false := by
  rcases setupPipeline_shape faults h g with ⟨-, reason, -, hres⟩ | ⟨source, -, -, hres | ⟨p, s, v, c, t, -, hres⟩⟩
  · rw [hres]
    exact hlinked
  · rw [hres]
    rfl
  · rw [hres] at hok ⊢
    unfold setupElements at hok ⊢
    simp only at hok ⊢
    split
    · next hlink =>
      rw [if_pos hlink] at hok
      generalize setupBranches faults p t 0 _ _ = loop at hok ⊢
      obtain ⟨error, bins, g'⟩ := loop
      cases error with
      | none => cases hok
      | some reason => rfl
    · exact hlinked

theorem Watched.setupPipeline (hw : Watched g₀ old s) (faults : SetupFaults) :
    Watched g₀ old (s.1.setupPipeline faults s.2).2 := by
  rcases setupPipeline_shape faults s.1 s.2 with ⟨-, reason, -, hres⟩ | ⟨source, -, hp, -⟩
  · rw [hres]
    exact hw
  · have hlinked : s.1.isLinked = false := by
      cases hl : s.1.isLinked with
      | false => rfl
      | true => have := hw.linked hl; rw [hp] at this; cases this
    have hnone : s.1.watch.busSource = none := by
      cases hs : s.1.watch.busSource with
      | none => rfl
      | some x =>
        obtain ⟨p, bus, hready, -⟩ := hw.watching.source x hs
        rw [ready, hlinked] at hready
        cases hready
    have hidle := Gst.Idle.of_spares (setupPipeline_sinks faults s.1 s.2).1 (spares_setupPipeline (.refl (Nat.zero_le _))
      (⟨fun _ _ => Nat.zero_le _, fun _ _ => Nat.zero_le _, fun _ _ => Nat.zero_le _, fun _ _ => Nat.zero_le _,
        fun _ _ => Nat.zero_le _, fun _ _ => ⟨fun _ _ => Nat.zero_le _, fun _ _ => Nat.zero_le _,
        fun _ _ => Nat.zero_le _⟩, fun _ _ => Nat.zero_le _⟩ : s.1.From 0)).1
    have hwatch : (s.1.setupPipeline faults s.2).2.1.watch.busSource = none := by rw [setupPipeline_watch, hnone]
    cases hok : (s.1.setupPipeline faults s.2).1.ok with
    | true =>
      obtain ⟨hready, hlive⟩ := setupPipeline_live hok
      refine ⟨fun _ => by rw [(setupPipeline_bus hok).1]; rfl, ?_⟩
      refine hw.watching.replace hnone hwatch hidle fun p hp => ?_
      rw [hready] at hp
      obtain rfl := Option.some.inj hp
      exact ⟨_, hlive⟩
    | false =>
      have hunlinked := setupPipeline_unlinks hlinked hok
      refine ⟨fun hl => (by rw [hunlinked] at hl; cases hl), ?_⟩
      refine hw.watching.replace hnone hwatch hidle fun p hp => ?_
      rw [ready, hunlinked] at hp
      cases hp

/-- The valve of a branch is the only thing that `setProfileEnabled` writes to. -/
theorem Watched.setProfileEnabled (hw : Watched g₀ old s) (name : Bytes) (enabled : Bool) :
    Watched g₀ old (s.1.setProfileEnabled name enabled s.2).2 := by
  unfold ProfileHost.setProfileEnabled
  split
  · exact hw
  · refine ⟨hw.linked, hw.watching.quiet ?_⟩
    simp only
    split
    · next b _ =>
      unfold ProfileBin.setDrop
      split
      · exact .setObject ..
      · exact .refl _
    · exact .refl _

theorem Watched.attachBusWatch (hw : Watched g₀ old s) (fails : WatchCall → Bool) (context callback : Option Nat) :
    Watched g₀ old (s.1.attachBusWatch fails context callback s.2).2 := by
  unfold ProfileHost.attachBusWatch
  split
  · next context callback =>
    split
    · next p hlinked hp =>
      have hready : s.1.ready = some p := by rw [ready, hlinked, if_pos rfl, hp]
      have hwatching := hw.watching
      rw [hready] at hwatching
      refine ⟨hw.linked, ?_⟩
      show Watching g₀ old s.1.ready _ _
      rw [hready]
      exact hwatching.attachBusWatch fails context callback
    · exact hw
  · exact hw

theorem Watched.handle (hw : Watched g₀ old s) (e : HostEvent) (he : ∀ during, e ≠ .dispatch during) :
    Watched g₀ old (handle s e) := by
  cases e with
  | setVideoSource source => exact ⟨hw.linked, hw.watching⟩
  | setupPipeline faults => exact hw.setupPipeline faults
  | play fails => exact ⟨hw.linked, hw.watching.quiet (.of_steers _ (setPipelineState_steers ..))⟩
  | stop fails => exact ⟨hw.linked, hw.watching.quiet (.of_steers _ (setPipelineState_steers ..))⟩
  | setProfileEnabled name enabled => exact hw.setProfileEnabled name enabled
  | attachBusWatch fails context callback => exact hw.attachBusWatch fails context callback
  | detachBusWatch => exact ⟨hw.linked, hw.watching.detachBusWatch⟩
  | dispatch during => exact absurd rfl (he during)

theorem Watched.process (hw : Watched g₀ old s) (m : Moment HostEvent) : Watched g₀ old (process s m) := by
  have harrive : Watched g₀ old (s.1, s.2.arrive s.1.pipeline m.arrived) := ⟨hw.linked, hw.watching.arrive _ m.arrived⟩
  by_cases hm : ∃ during, m.call = .dispatch during
  · obtain ⟨during, hm⟩ := hm
    unfold ProfileHost.process
    simp only [hm]
    cases hs : s.1.watch.busSource with
    | none => exact harrive
    | some source =>
      refine ⟨hw.linked, harrive.watching.dispatch hs m.noBus (funext fun g => ?_) during⟩
      obtain ⟨p, bus, hready, -⟩ := hw.watching.source source hs
      rw [onBusMessage, hs, Option.isSome_some, if_pos rfl, hready, pipeline_of_ready hready]
  · rw [process_call s (by simpa using hm)]
    exact harrive.handle m.call (by simpa using hm)

/-- Once its watch is dropped, a host attaches nothing on its way out. -/
theorem Watched.destroy (hw : Watched g₀ old s) : Unwatched g₀ (s.1.destroy s.2) := by
  have hd := hw.watching.detachBusWatch
  have hnone : (s.1.watch.detachBusWatch s.2).1.busSource = none := by rw [BusWatch.detachBusWatch_fst]
  have hbins : ∀ (bins : List ProfileBin) (g : Gst), g.Idle (bins.foldl (fun g b => b.destroy g) g) := by
    intro bins
    induction bins with
    | nil => exact fun _ => .refl
    | cons b bins ih =>
      refine fun g => Gst.Idle.trans ?_ (ih (b.destroy g))
      unfold ProfileBin.destroy
      split
      · exact Gst.Idle.refl.unref _
      · exact (Gst.Idle.refl.clearObject _).clearObject _
  have hcleanup : ∀ (h : ProfileHost) (g : Gst), g.Idle (h.cleanup g).2 := by
    intro h g
    unfold cleanup
    cases h.isLinked with
    | true =>
      cases h.pipeline with
      | none => exact .refl
      | some p => exact (Gst.Idle.refl.setState false p .null).unref p
    | false =>
      exact ((((Gst.Idle.refl.clearObject _).clearObject _).clearObject _).clearObject _).clearObject _
  have hidle : (s.1.detachBusWatch s.2).2.Idle (s.1.destroy s.2) := (hcleanup ..).trans (hbins ..)
  have hdestroyed : Watching g₀ old none (s.1.watch.detachBusWatch s.2).1 (s.1.destroy s.2) :=
    hd.replace hnone hnone hidle nofun
  exact hdestroyed.unwatched hnone

end ProfileHost

/-! ### `VideoPipeline` -/

namespace VideoPipeline
variable {v : VideoPipeline} {s : VideoPipeline × Gst} {g g₀ : Gst} {old : Nat → Prop} {fails : VideoCall → Bool}

structure Watched (g₀ : Gst) (old : Nat → Prop) (s : VideoPipeline × Gst) : Prop where
  allOrNone : s.1.AllOrNone
  watching : Watching g₀ old s.1.pipeline s.1.watch s.2

theorem live_assembled (source : VideoSource) (sink : VideoSink) (caps : VideoCaps) (g : Gst) :
    Gst.Live (g.next + 1) (g.next + 2) (assembled source sink caps g) := by
  have hnew := Gst.Live.pipelineNew (g.alloc true (ProfileHost.sourceObject source)) (ascii "video-pipeline")
  rw [Gst.next_alloc] at hnew
  have hmade : Gst.Live (g.next + 1) (g.next + 2) (made source sink g) :=
    hnew.allocAll (by cases sink <;> simp [laterParts, sinkObject])
  exact ((hmade.setObject _ _ _).binAddMany _ (by simp)).linkPairs _

section
variable (hw : v.watch.busSource = none)
include hw

theorem idle_stop (g : Gst) : g.Idle (v.stop g).2.2 := by
  have hdetach : v.detachBusWatch g = (v, g) := by
    rw [detachBusWatch, BusWatch.detachBusWatch, hw]
  unfold stop
  rw [hdetach]
  cases hp : v.pipeline with
  | some p =>
    simp only [hp]
    exact (Gst.Idle.refl.setState false p .null).unref p
  | none =>
    simp only [hp]
    exact (((Gst.Idle.refl.clearObject _).clearObject _).clearObject _).clearObject _

theorem idle_setupElements (p a b c d : Nat) (g : Gst) : g.Idle (setupElements fails v p a b c d g).2.2 := by
  have hlinked : g.Idle (((g.setObject c (ascii "caps") (.caps (setupCaps v.caps))).binAddMany p [a, b, c, d]).linkMany
      (fails .link) [a, b, c, d]).2 :=
    (Gst.Idle.refl.setObject c (ascii "caps") (.caps (setupCaps v.caps))).more (by simp) (by simp)
  unfold setupElements
  simp only
  split
  · exact hlinked
  · exact hlinked.trans (idle_stop hw _)

omit hw in
theorem idle_create (fails : VideoCall → Bool) (source : VideoSource) (v : VideoPipeline) (g : Gst) :
    g.Idle (create fails source v g).2 := by
  have h1 : g.Idle (source.createElement (fails .source) g).2 := by
    cases source <;> exact Gst.Idle.refl.factoryMake ..
  have h4 := ((h1.pipelineNew (fails .pipeline) (ascii "video-pipeline")).factoryMake (fails .videoConvert)
    (ascii "videoconvert") (ascii "video-convert")).factoryMake (fails .videoCaps) (ascii "capsfilter")
    (ascii "video-caps")
  unfold create
  cases v.videoSink with
  | none => exact h4.heap rfl
  | some sink => cases sink <;> exact h4.factoryMake ..

/-- However `setupPipeline` ends, it attaches no source. -/
theorem idle_setupPipeline (g : Gst) : g.Idle (setupPipeline fails v g).2.2 := by
  rcases setupPipeline_shape fails v g with
    ⟨-, reason, -, hres⟩ | ⟨-, source, -, ⟨-, hres⟩ | ⟨-, sink, -, hres⟩⟩
  · rw [hres]
    exact .refl
  · rw [hres]
    exact (idle_create fails source v g).trans (idle_stop (by exact hw) _)
  · rw [hres]
    have hmade : g.Idle (made source sink g) :=
      ((Gst.Idle.refl.alloc true (by cases source <;> rfl)).pipelineNew ..).allocAll (by
        cases sink <;> simp [laterParts, sinkObject])
    exact hmade.trans (idle_setupElements (by exact hw) ..)

end

/-- `stop` drops the watch first. -/
theorem stop_detached (v : VideoPipeline) (g : Gst) :
    v.stop g = (v.detachBusWatch g).1.stop (v.detachBusWatch g).2 := by
  have hdetach : (v.detachBusWatch g).1.detachBusWatch (v.detachBusWatch g).2 = v.detachBusWatch g := by
    have hnone : (v.detachBusWatch g).1.watch.busSource = none :=
      congrArg BusWatch.busSource (BusWatch.detachBusWatch_fst v.watch g)
    generalize v.detachBusWatch g = d at hnone
    rw [detachBusWatch, BusWatch.detachBusWatch, hnone]
  unfold stop
  rw [hdetach]

/-- A set-up that fails leaves no element. -/
theorem Watched.setupPipeline (hw : Watched g₀ old s) (fails : VideoCall → Bool) :
    Watched g₀ old (s.1.setupPipeline fails s.2).2 := by
  rcases setupPipeline_spec fails s.1 s.2 with ⟨-, -, hsame⟩ | ⟨hsetup, source, hsource, hcases⟩
  · rw [hsame]
    exact hw
  have hnone : ∀ x ∈ s.1.elements, x = none := hw.allOrNone.resolve_left fun hall => by
    rw [isPipelineSetup_iff.mpr hall] at hsetup; cases hsetup
  have hp : s.1.pipeline = none := hnone _ (by simp [elements])
  have hwatch : s.1.watch.busSource = none := by
    cases hs : s.1.watch.busSource with
    | none => rfl
    | some x =>
      obtain ⟨p, bus, hready, -⟩ := hw.watching.source x hs
      rw [hp] at hready
      cases hready
  have hidle : s.2.Idle (s.1.setupPipeline fails s.2).2.2 := idle_setupPipeline hwatch s.2
  rcases hcases with ⟨-, sink, hsink, hres⟩ | ⟨-, -, hcleared⟩
  · rw [hres] at hidle ⊢
    refine ⟨.inl (isPipelineSetup_iff.mp rfl), hw.watching.replace hwatch hwatch hidle ?_⟩
    rintro _ ⟨⟩
    exact ⟨_, live_assembled source sink s.1.caps s.2⟩
  · refine ⟨.inr (by rw [hcleared]; exact elements_cleared s.1), ?_⟩
    refine hw.watching.replace hwatch (by rw [hcleared]; rfl) hidle ?_
    rw [hcleared]
    rintro _ ⟨⟩

theorem quiet_setCaps (v : VideoPipeline) (caps : VideoCaps) (g : Gst) : g.Quiet (v.setCaps caps g).2.2 := by
  unfold setCaps
  simp only
  split
  · exact .setObject ..
  · exact .refl g

theorem Watched.stop (hw : Watched g₀ old s) : Watched g₀ old (s.1.stop s.2).2 := by
  have hd := hw.watching.detachBusWatch
  have hnone : (s.1.watch.detachBusWatch s.2).1.busSource = none := by rw [BusWatch.detachBusWatch_fst]
  have hidle := idle_stop (v := (s.1.detachBusWatch s.2).1) hnone (s.1.detachBusWatch s.2).2
  rw [← stop_detached] at hidle
  have hfst := stop_fst s.1 s.2
  refine ⟨.inr (by rw [hfst]; exact elements_cleared s.1), hd.replace hnone (by rw [hfst]; rfl) hidle ?_⟩
  rw [hfst]
  nofun

theorem Watched.attachBusWatch (hw : Watched g₀ old s) (fails : WatchCall → Bool) (context callback : Option Nat) :
    Watched g₀ old (s.1.attachBusWatch fails context callback s.2).2 := by
  unfold VideoPipeline.attachBusWatch
  split
  · next context callback =>
    split
    · next p _ hp =>
      have hwatching := hw.watching
      rw [hp] at hwatching
      refine ⟨hw.allOrNone, ?_⟩
      show Watching g₀ old s.1.pipeline _ _
      rw [hp]
      exact hwatching.attachBusWatch fails context callback
    · exact hw
  · exact hw

theorem Watched.handle (hw : Watched g₀ old s) (e : VideoEvent) (he : ∀ during, e ≠ .dispatch during) :
    Watched g₀ old (handle s e) := by
  cases e with
  | setVideoSource source => exact ⟨hw.allOrNone, hw.watching⟩
  | setVideoSink sink => exact ⟨hw.allOrNone, hw.watching⟩
  | setCaps caps =>
    have hwatching := hw.watching.quiet (quiet_setCaps s.1 caps s.2)
    have hfst : (VideoPipeline.handle s (.setCaps caps)).1 = { s.1 with caps } := setCaps_fst s.1 caps s.2
    exact ⟨by rw [hfst]; exact hw.allOrNone, by rw [hfst]; exact hwatching⟩
  | setupPipeline fails => exact hw.setupPipeline fails
  | play getFails setFails => exact ⟨hw.allOrNone, hw.watching.quiet (.of_steers _ (play_steers ..))⟩
  | pause getFails setFails => exact ⟨hw.allOrNone, hw.watching.quiet (.of_steers _ (pause_steers ..))⟩
  | stop => exact hw.stop
  | seek getFails seekFails => exact ⟨hw.allOrNone, hw.watching.quiet (.of_steers _ (seek_steers ..))⟩
  | attachBusWatch fails context callback => exact hw.attachBusWatch fails context callback
  | detachBusWatch => exact ⟨hw.allOrNone, hw.watching.detachBusWatch⟩
  | dispatch during => exact absurd rfl (he during)

theorem Watched.isPipelineSetup (hw : Watched g₀ old s) (hsome : s.1.watch.busSource.isSome) :
    s.1.isPipelineSetup = true := by
  obtain ⟨source, hs⟩ := Option.isSome_iff_exists.mp hsome
  obtain ⟨p, bus, hp, -⟩ := hw.watching.source source hs
  refine isPipelineSetup_iff.mpr <| hw.allOrNone.resolve_right fun hnone => ?_
  have := hnone s.1.pipeline (by simp [elements])
  rw [hp] at this
  cases this

theorem Watched.process (hw : Watched g₀ old s) (m : Moment VideoEvent) : Watched g₀ old (process s m) := by
  have harrive : Watched g₀ old (s.1, s.2.arrive s.1.pipeline m.arrived) :=
    ⟨hw.allOrNone, hw.watching.arrive _ m.arrived⟩
  by_cases hm : ∃ during, m.call = .dispatch during
  · obtain ⟨during, hm⟩ := hm
    unfold VideoPipeline.process
    simp only [hm]
    cases hs : s.1.watch.busSource with
    | none => exact harrive
    | some source =>
      refine ⟨hw.allOrNone, harrive.watching.dispatch hs m.noBus (funext fun g => ?_) during⟩
      rw [onBusMessage, hw.isPipelineSetup (by rw [hs]; rfl), if_pos rfl]
  · rw [process_call s (by simpa using hm)]
    exact harrive.handle m.call (by simpa using hm)

end VideoPipeline

/-- What holds in every state of a run: the contract of the watch, and that a source which is not the current
one is not heard of again, whatever is called. -/
structure WatchSafe {S Call : Type} (g₀ : Gst) (process : S × Gst → Moment Call → S × Gst) (pipeline : S → Option Nat)
    (watch : S → BusWatch) (s : S × Gst) : Prop where
  contract : WatchContract g₀ (pipeline s.1) (watch s.1) s.2
  retired : ∀ x, g₀.next ≤ x → x < s.2.next → (watch s.1).busSource ≠ some x → ∀ calls,
    let s' := run process s calls
    (watch s'.1).busSource ≠ some x ∧ ∀ handler during, s'.2.dispatch x handler during = ([], s'.2)

theorem Watching.retired {g₀ g : Gst} {old : Nat → Prop} {ready : Option Nat} {w : BusWatch}
    (h : Watching g₀ old ready w g) {x : Nat} (hx : g₀.next ≤ x) (hold : old x) :
    w.busSource ≠ some x ∧ ∀ handler during, g.dispatch x handler during = ([], g) :=
  ⟨(h.gone x hold).2, dispatch_of_detached (h.detached hx (h.gone x hold).2)⟩

/-- Both classes, whatever is called, whatever fails and whatever arrives on the bus. -/
theorem bus_watch_lifetime (g : Gst) (profiles : List ProfileInfo) (hostCalls : List (Moment HostEvent))
    (videoCalls : List (Moment VideoEvent)) :
    (let s := run ProfileHost.process (.new profiles, g) hostCalls
     WatchSafe g ProfileHost.process (·.pipeline) (·.watch) s ∧ Unwatched g (s.1.destroy s.2)) ∧
    (let s := run VideoPipeline.process ({}, g) videoCalls
     WatchSafe g VideoPipeline.process (·.pipeline) (·.watch) s ∧
       (s.1.stop s.2).2.1.watch.busSource = none ∧ Unwatched g (s.1.stop s.2).2.2) := by
  constructor
  · intro s
    have hw : ProfileHost.Watched g (fun _ => False) s :=
      run_invariant ⟨nofun, .init g⟩ (fun _ m h => h.process m) hostCalls
    refine ⟨⟨?_, fun x hx hlt hne calls => ?_⟩, hw.destroy⟩
    · have hcontract := hw.watching.contract
      refine ⟨hcontract.attached, fun x hx => ?_, hcontract.silent⟩
      obtain ⟨p, bus, hp, hrest⟩ := hcontract.pipeline x hx
      exact ⟨p, bus, ProfileHost.pipeline_of_ready hp, hrest⟩
    · have hw' : ProfileHost.Watched g (fun x => x < s.2.next ∧ s.1.watch.busSource ≠ some x)
          (run ProfileHost.process s calls) :=
        run_invariant ⟨hw.linked, hw.watching.restart⟩ (fun _ m h => h.process m) calls
      exact hw'.watching.retired hx ⟨hlt, hne⟩
  · intro s
    have hw : VideoPipeline.Watched g (fun _ => False) s :=
      run_invariant ⟨.inr (by simp [VideoPipeline.elements]), .init g⟩ (fun _ m h => h.process m) videoCalls
    refine ⟨⟨hw.watching.contract, fun x hx hlt hne calls => ?_⟩, ?_, ?_⟩
    · have hw' : VideoPipeline.Watched g (fun x => x < s.2.next ∧ s.1.watch.busSource ≠ some x)
          (run VideoPipeline.process s calls) :=
        run_invariant ⟨hw.allOrNone, hw.watching.restart⟩ (fun _ m h => h.process m) calls
      exact hw'.watching.retired hx ⟨hlt, hne⟩
    · rw [VideoPipeline.stop_fst]; rfl
    · refine hw.stop.watching.unwatched ?_
      rw [VideoPipeline.stop_fst]; rfl

end CameraPlatform
