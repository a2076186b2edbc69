import CameraPlatform.WatchLife

/-!
# Null pointers and refusals

The guards cover every pointer but three: the sink factory, and the bus and the message of the handler.
So a null pointer is used exactly by a set-up without a sink factory, and by a handler that gets no bus
or finds no message.
-/

namespace CameraPlatform
open ByteString RefHeap History

/-! ### What an outcome says -/

/-- A call succeeds, or says why it does not. -/
def PipelineOutcome.Reported (o : PipelineOutcome) : Prop := o.ok = true ∨ o.ok = false ∧ o.error ≠ []

theorem PipelineOutcome.Reported.of_reason {reason : String} (h : (ascii reason).isEmpty = false) :
    (failure reason).Reported :=
  .inr ⟨rfl, fun hnil => by rw [show ascii reason = [] from hnil] at h; cases h⟩

/-- The outcome of setting a state. -/
theorem PipelineOutcome.Reported.of_ok {reason : String} (h : (failure reason).Reported) (ok : Bool) :
    (if ok then success else failure reason).Reported := by
  cases ok with
  | true => exact .inl rfl
  | false => exact h

theorem PipelineOutcome.Reported.error {o : PipelineOutcome} (h : o.Reported) (hok : o.ok = false) : o.error ≠ [] :=
  h.elim (fun htrue => by rw [hok] at htrue; cases htrue) (·.2)

namespace Gst
variable {g g' : Gst}

/-! ### Calls that use no null pointer -/

@[simp] theorem nullUses_fail : g.fail.nullUses = g.nullUses := rfl
@[simp] theorem nullUses_nullUse : g.nullUse.nullUses = g.nullUses + 1 := rfl
@[simp] theorem nullUses_alloc (fl : Bool) (o : GObject) : (g.alloc fl o).nullUses = g.nullUses := rfl
@[simp] theorem nullUses_update (r : Nat) (f : GObject → GObject) : (g.update r f).nullUses = g.nullUses := rfl
@[simp] theorem nullUses_setObject (r : Nat) (key : Bytes) (v : GValue) :
    (g.setObject r key v).nullUses = g.nullUses := rfl
@[simp] theorem nullUses_ref (r : Nat) : (g.ref r).nullUses = g.nullUses := rfl
@[simp] theorem nullUses_refSink (r : Nat) : (g.refSink r).nullUses = g.nullUses := rfl
@[simp] theorem nullUses_unref (r : Nat) : (g.unref r).nullUses = g.nullUses := rfl
@[simp] theorem nullUses_busPop (bus : Nat) : (g.busPop bus).2.nullUses = g.nullUses := rfl
@[simp] theorem nullUses_newWatch (bus context : Nat) : (g.newWatch bus context).nullUses = g.nullUses := rfl

@[simp] theorem nullUses_clearObject (r : Option Nat) : (g.clearObject r).nullUses = g.nullUses := by cases r <;> rfl

@[simp] theorem nullUses_setState (fails : Bool) (r : Nat) (state : GstState) :
    (g.setState fails r state).2.nullUses = g.nullUses := by cases fails <;> rfl

@[simp] theorem nullUses_factoryMake (fails : Bool) (type name : Bytes) :
    (g.factoryMake fails type name).2.nullUses = g.nullUses := by cases fails <;> rfl

@[simp] theorem nullUses_pipelineNew (fails : Bool) (name : Bytes) :
    (g.pipelineNew fails name).2.nullUses = g.nullUses := by cases fails <;> rfl

@[simp] theorem nullUses_binAdd (bin e : Nat) : (g.binAdd bin e).nullUses = g.nullUses := by
  unfold binAdd
  split
  · rfl
  · split <;> rfl

@[simp] theorem nullUses_binAddMany (bin : Nat) (es : List Nat) : (g.binAddMany bin es).nullUses = g.nullUses := by
  induction es generalizing g with
  | nil => rfl
  | cons e es ih => exact (@ih (g.binAdd bin e)).trans (nullUses_binAdd ..)

@[simp] theorem nullUses_linkMany (fails : Bool) (es : List Nat) : (g.linkMany fails es).2.nullUses = g.nullUses := by
  have hpairs : ∀ es g, (linkPairs es g).2.nullUses = g.nullUses := by
    intro es g
    fun_induction linkPairs es g with
    | case1 a b es g _ ih => exact ih
    | case2 => rfl
    | case3 => rfl
  unfold linkMany
  split
  · rfl
  · exact hpairs es g

@[simp] theorem nullUses_padLink (fails : Bool) (tee bin : Nat) : (g.padLink fails tee bin).2.nullUses = g.nullUses := by
  unfold padLink
  split <;> rfl

@[simp] theorem nullUses_createElement (fails : Bool) (source : VideoSource) :
    (source.createElement fails g).2.nullUses = g.nullUses := by
  cases source <;> exact nullUses_factoryMake ..

@[simp] theorem nullUses_postAll (bus : Nat) (ms : List GstMessage) : (g.postAll bus ms).nullUses = g.nullUses := by
  induction ms generalizing g with
  | nil => rfl
  | cons m ms ih => exact @ih (g.post bus m)

@[simp] theorem nullUses_arrive (pipeline : Option Nat) (ms : List GstMessage) :
    (g.arrive pipeline ms).nullUses = g.nullUses := by
  unfold arrive
  split
  · exact nullUses_postAll ..
  · rfl

@[simp] theorem nullUses_sourceDestroy (source : Nat) : (g.sourceDestroy source).nullUses = g.nullUses := by
  unfold sourceDestroy
  split <;> rfl

@[simp] theorem nullUses_getBus (fails : Bool) (p : Nat) : (g.getBus fails p).2.nullUses = g.nullUses := by
  unfold getBus
  split <;> rfl

@[simp] theorem nullUses_busCreateWatch (fails : Bool) (bus : Nat) :
    (g.busCreateWatch fails bus).2.nullUses = g.nullUses := by cases fails <;> rfl

/-- The messages on the bus of the pipeline. -/
def waiting (g : Gst) (pipeline : Option Nat) : List Nat :=
  match pipeline.bind g.busOf with
  | some bus => g.queue bus
  | none => []

end Gst

namespace BusWatch
variable {w : BusWatch} {g : Gst} {p bus : Nat}

@[simp] theorem nullUses_detachBusWatch (w : BusWatch) (g : Gst) : (w.detachBusWatch g).2.nullUses = g.nullUses := by
  unfold detachBusWatch
  split <;> simp

@[simp] theorem nullUses_attachBusWatch (fails : WatchCall → Bool) (pipeline context callback : Nat) (w : BusWatch)
    (g : Gst) : (w.attachBusWatch fails pipeline context callback g).2.2.nullUses = g.nullUses := by
  have hbus := @Gst.nullUses_getBus (w.detachBusWatch g).2 (fails .getBus) pipeline
  rw [nullUses_detachBusWatch] at hbus
  unfold attachBusWatch
  simp only
  split
  · next g₁ hg₁ => rw [hg₁] at hbus; exact hbus
  · next bus g₁ hg₁ =>
    rw [hg₁] at hbus
    have hwatch := @Gst.nullUses_busCreateWatch g₁ (fails .createWatch) bus
    split
    · next g₂ hg₂ => rw [hg₂] at hwatch; exact hwatch.trans hbus
    · next source g₂ hg₂ => rw [hg₂] at hwatch; exact hwatch.trans hbus

theorem attachBusWatch_reported (fails : WatchCall → Bool) (pipeline context callback : Nat) (w : BusWatch) (g : Gst) :
    (w.attachBusWatch fails pipeline context callback g).1.Reported := by
  unfold attachBusWatch
  simp only
  split
  · exact .of_reason rfl
  · split
    · exact .of_reason rfl
    · exact .inl rfl

/-- The handler uses no null pointer if it gets the bus and there is a message on it. -/
theorem nullUses_onBusMessage (noBus : Bool) (hbus : g.busOf p = some bus) :
    (w.onBusMessage noBus (some p) g).2.nullUses = g.nullUses ↔ noBus = false ∧ g.queue bus ≠ [] := by
  cases noBus with
  | true =>
    have hthree : (w.onBusMessage true (some p) g).2.nullUses = g.nullUses + 3 := rfl
    rw [hthree]
    simp
  | false =>
    have hqueue : (g.ref bus).queue bus = g.queue bus := Gst.queue_congr bus (Gst.obj_ref ..)
    rw [onBusMessage_eq hbus]
    have hget : g.getBus false p = (some bus, g.ref bus) := by
      unfold Gst.getBus
      rw [show (g.obj p).bind (·.bus) = some bus from hbus]
    unfold onBusMessageStatic
    simp only [hget, Gst.busPop, hqueue]
    cases hq : g.queue bus with
    | nil => simp [Gst.messageUnref]
    | cons m rest => simp [Gst.messageUnref]

end BusWatch

/-- The handler of a dispatch has something to work on: it gets the bus, and with the message the library takes
from it there are two. -/
def Moment.Fed {Call : Type} (m : Moment Call) (during : List GstMessage) (pipeline : Option Nat) (g : Gst) : Prop :=
  let waiting := (g.arrive pipeline m.arrived).waiting pipeline
  waiting ≠ [] → m.noBus = false ∧ 2 ≤ waiting.length + during.length

/-- A dispatch uses no null pointer exactly when its handler has something to work on, should it run. -/
theorem Watching.nullUses_dispatch {g₀ g : Gst} {old : Nat → Prop} {pipeline : Option Nat} {w : BusWatch}
    (h : Watching g₀ old pipeline w g) {source : Nat} (hs : w.busSource = some source) {noBus : Bool}
    {handler : Gst → List Report × Gst} (hhandler : handler = w.onBusMessage noBus pipeline) (during : List GstMessage) :
    (g.dispatch source handler during).2.nullUses = g.nullUses ↔
      (g.waiting pipeline ≠ [] → noBus = false ∧ 2 ≤ (g.waiting pipeline).length + during.length) := by
  obtain ⟨p, bus, rfl, hlive, -, hbus, hcontext, -⟩ := h.source source hs
  subst hhandler
  have hwatched := Watching.watched_of hbus hcontext
  have hwaiting : g.waiting (some p) = g.queue bus := by
    unfold Gst.waiting
    rw [Option.bind_some, hlive.busOf]
  rw [hwaiting]
  cases hq : g.queue bus with
  | nil =>
    rw [BusWatch.dispatch_of_nil hwatched hq]
    simp [BusWatch.posted]
  | cons m rest =>
    have hlt : bus < g.next := by
      by_contra hge
      rw [Gst.queue, Gst.obj_eq_none (Nat.le_of_not_lt hge)] at hq
      cases hq
    have hposted : (BusWatch.posted g bus during).nullUses = g.nullUses := by simp [BusWatch.posted]
    have hafter : (BusWatch.posted g bus during).queue bus = (g.queue bus).tail ++ List.range' g.next during.length :=
      BusWatch.queue_posted hlt
    rw [BusWatch.dispatch_of_cons hwatched hq, Gst.nullUses_unref, ← hposted,
      BusWatch.nullUses_onBusMessage noBus (hlive.posted during).busOf, hafter, hq]
    have hlength : rest ++ List.range' g.next during.length ≠ [] ↔ 2 ≤ (m :: rest).length + during.length := by
      rw [← List.length_pos_iff_ne_nil, List.length_append, List.length_range', List.length_cons]
      omega
    rw [List.tail_cons, hlength]
    exact ⟨fun hfed _ => hfed, fun hfed => hfed (List.cons_ne_nil m rest)⟩

/-! ### `ProfileHost` -/

namespace ProfileHost
variable {h : ProfileHost} {s : ProfileHost × Gst} {g g₀ : Gst} {old : Nat → Prop}

/-- What a call returns, if it returns an outcome. -/
def outcome (s : ProfileHost × Gst) : HostEvent → Option PipelineOutcome
  | .setVideoSource source => some (s.1.setVideoSource source).1
  | .setupPipeline faults => some (s.1.setupPipeline faults s.2).1
  | .play fails => some (s.1.play fails s.2).1
  | .stop fails => some (s.1.stop fails s.2).1
  | .setProfileEnabled name enabled => some (s.1.setProfileEnabled name enabled s.2).1
  | .attachBusWatch fails context callback => some (s.1.attachBusWatch fails context callback s.2).1
  | .detachBusWatch => none
  | .dispatch _ => none

/-- The calls a guard turns away. -/
def Refuses (h : ProfileHost) : HostEvent → Prop
  | .setupPipeline _ => h.videoSource = none ∨ h.pipeline.isSome
  | .play _ | .stop _ => h.isLinked = false
  | .setProfileEnabled name _ => ∀ b ∈ h.profileBins, b.profile.name ≠ name
  | .attachBusWatch _ context callback => context = none ∨ callback = none ∨ h.isLinked = false
  | _ => False

/-- No null pointer was used since `g`, none of the pointers the guards stand for is null, and every call
reports what it refuses. -/
structure NullSafe (g : Gst) (s : ProfileHost × Gst) : Prop where
  nullUses : s.2.nullUses = g.nullUses
  linked : s.1.isLinked = true → s.1.pipeline.isSome
  watched : s.1.watch.busSource.isSome → s.1.pipeline.isSome
  reported : ∀ e, ∀ o ∈ outcome s e, o.Reported
  refused : ∀ e, s.1.Refuses e → (∃ o ∈ outcome s e, o.ok = false ∧ o.error ≠ []) ∧ handle s e = s

/-- Only a dispatch can make a host use a null pointer. -/
def Guarded (s : ProfileHost × Gst) (m : Moment HostEvent) : Prop :=
  match m.call with
  | .dispatch during => s.1.watch.busSource.isSome → m.Fed during s.1.pipeline s.2
  | _ => True

/-! #### The set-up -/

theorem nullUses_cleanup (h : ProfileHost) (g : Gst) : (h.cleanup g).2.nullUses = g.nullUses := by
  unfold cleanup
  cases h.isLinked with
  | true => cases h.pipeline <;> simp
  | false => simp

theorem nullUses_binCreateElement (fails : BinCall → Bool) (b : ProfileBin) (g : Gst) :
    (b.createElement fails g).2.2.nullUses = g.nullUses := by
  have hassemble : ∀ (f : Bool) (b : ProfileBin) (bin valve appSink queue scale capsFilter enc : Nat) (g : Gst),
      (ProfileBin.assemble f b bin valve appSink queue scale capsFilter enc g).2.2.nullUses = g.nullUses := by
    intro f b bin valve appSink queue scale capsFilter enc g
    unfold ProfileBin.assemble
    simp only
    split
    · simp [Gst.addGhostSink]
    · simp
  have hconfigure : ∀ (b : ProfileBin) (appSink capsFilter enc : Nat) (g : Gst),
      (b.configure appSink capsFilter enc g).nullUses = g.nullUses := fun b appSink capsFilter enc g =>
    ProfileBin.configure_invariant (P := fun g' => g'.nullUses = g.nullUses) (fun _ _ _ _ h => h) rfl b appSink
      capsFilter enc
  unfold ProfileBin.createElement
  simp only
  split
  · rw [hassemble, hconfigure]
    simp [Gst.binNew]
  · simp [Gst.binNew]

theorem setupBranches_spec (faults : SetupFaults) (p tee k : Nat) (bs : List ProfileBin) (g : Gst) :
    (setupBranches faults p tee k bs g).2.2.nullUses = g.nullUses ∧
      ∀ reason ∈ (setupBranches faults p tee k bs g).1, (PipelineOutcome.failure reason).Reported := by
  induction bs generalizing k g with
  | nil => exact ⟨rfl, nofun⟩
  | cons b bs ih =>
    have hmade := nullUses_binCreateElement (faults.bin k) b g
    unfold setupBranches
    generalize b.createElement (faults.bin k) g = made at hmade
    obtain ⟨bin, b', g₁⟩ := made
    cases bin with
    | none => exact ⟨hmade, by rintro _ ⟨⟩; exact .of_reason rfl⟩
    | some bin =>
      have hlink : ((g₁.binAdd p bin).padLink (faults.host (.padLink k)) tee bin).2.nullUses = g₁.nullUses := by simp
      simp only
      generalize (g₁.binAdd p bin).padLink (faults.host (.padLink k)) tee bin = linked at hlink
      obtain ⟨ok, g₂⟩ := linked
      cases ok with
      | false => exact ⟨hlink.trans hmade, by rintro _ ⟨⟩; exact .of_reason rfl⟩
      | true =>
        obtain ⟨hrest, hreason⟩ := ih (k + 1) g₂
        exact ⟨(hrest.trans hlink).trans hmade, hreason⟩

theorem setupElements_spec (faults : SetupFaults) (h : ProfileHost) (p source videoConvert sourceCaps tee : Nat)
    (g : Gst) :
    (setupElements faults h p source videoConvert sourceCaps tee g).2.2.nullUses = g.nullUses ∧
      (setupElements faults h p source videoConvert sourceCaps tee g).1.Reported := by
  have hlinked : (((g.setObject sourceCaps (ascii "caps") (.caps (VideoCaps.toGstCaps {}))).binAddMany
      p [source, videoConvert, sourceCaps, tee]).linkMany (faults.host .link)
      [source, videoConvert, sourceCaps, tee]).2.nullUses = g.nullUses := by simp
  unfold setupElements
  simp only
  split
  · obtain ⟨hloop, hreason⟩ := setupBranches_spec faults p tee 0 h.profileBins
      (((g.setObject sourceCaps (ascii "caps") (.caps (VideoCaps.toGstCaps {}))).binAddMany
        p [source, videoConvert, sourceCaps, tee]).linkMany (faults.host .link)
        [source, videoConvert, sourceCaps, tee]).2
    generalize setupBranches faults p tee 0 h.profileBins _ = loop at hloop hreason
    obtain ⟨error, bins, g'⟩ := loop
    cases error with
    | none => exact ⟨hloop.trans hlinked, .inl rfl⟩
    | some reason => exact ⟨((nullUses_cleanup _ g').trans hloop).trans hlinked, hreason reason rfl⟩
  · exact ⟨hlinked, .of_reason rfl⟩

theorem nullUses_create (faults : SetupFaults) (source : VideoSource) (h : ProfileHost) (g : Gst) :
    (create faults h g source).2.nullUses = g.nullUses := by
  unfold create
  simp

theorem setupPipeline_reports (faults : SetupFaults) (h : ProfileHost) (g : Gst) :
    (setupPipeline faults h g).2.2.nullUses = g.nullUses ∧ (setupPipeline faults h g).1.Reported := by
  rcases setupPipeline_shape faults h g with
    ⟨-, reason, hreason, hres⟩ | ⟨source, -, -, hres | ⟨p, s, v, c, t, -, hres⟩⟩
  · rw [hres]
    exact ⟨rfl, .of_reason hreason⟩
  · rw [hres]
    exact ⟨(nullUses_cleanup ..).trans (nullUses_create ..), .of_reason rfl⟩
  · rw [hres]
    obtain ⟨hnull, hreported⟩ := setupElements_spec faults (create faults h g source).1 p s v c t
      (create faults h g source).2
    exact ⟨hnull.trans (nullUses_create ..), hreported⟩

/-! #### The other calls -/

theorem setPipelineState_reports (h : ProfileHost) (fails : Bool) (state : GstState) {reason : String}
    (hreason : (PipelineOutcome.failure reason).Reported) (g : Gst) :
    (h.setPipelineState fails state reason g).2.nullUses = g.nullUses ∧
      (h.setPipelineState fails state reason g).1.Reported := by
  unfold setPipelineState
  split
  · split
    · exact ⟨Gst.nullUses_setState .., hreason.of_ok _⟩
    · exact ⟨rfl, hreason⟩
  · exact ⟨rfl, .of_reason rfl⟩

theorem setProfileEnabled_reports (h : ProfileHost) (name : Bytes) (enabled : Bool) (g : Gst) :
    (h.setProfileEnabled name enabled g).2.2.nullUses = g.nullUses ∧
      (h.setProfileEnabled name enabled g).1.Reported := by
  unfold setProfileEnabled
  split
  · exact ⟨rfl, .of_reason rfl⟩
  · refine ⟨?_, .inl rfl⟩
    simp only
    split
    · next b _ =>
      unfold ProfileBin.setDrop
      split <;> simp
    · rfl

theorem attachBusWatch_reports (h : ProfileHost) (fails : WatchCall → Bool) (context callback : Option Nat) (g : Gst) :
    (h.attachBusWatch fails context callback g).2.2.nullUses = g.nullUses ∧
      (h.attachBusWatch fails context callback g).1.Reported := by
  unfold attachBusWatch
  split
  · split
    · exact ⟨BusWatch.nullUses_attachBusWatch .., BusWatch.attachBusWatch_reported ..⟩
    · exact ⟨rfl, .of_reason rfl⟩
  · exact ⟨rfl, .of_reason rfl⟩

theorem outcome_reported (s : ProfileHost × Gst) (e : HostEvent) : ∀ o ∈ outcome s e, o.Reported := by
  cases e with
  | setVideoSource source => rintro _ ⟨⟩; exact .inl rfl
  | setupPipeline faults => rintro _ ⟨⟩; exact (setupPipeline_reports ..).2
  | play fails => rintro _ ⟨⟩; exact (setPipelineState_reports s.1 fails .playing (.of_reason rfl) s.2).2
  | stop fails => rintro _ ⟨⟩; exact (setPipelineState_reports s.1 fails .paused (.of_reason rfl) s.2).2
  | setProfileEnabled name enabled => rintro _ ⟨⟩; exact (setProfileEnabled_reports ..).2
  | attachBusWatch fails context callback => rintro _ ⟨⟩; exact (attachBusWatch_reports ..).2
  | detachBusWatch => rintro _ ⟨⟩
  | dispatch during => rintro _ ⟨⟩

/-- A call that is turned away changes nothing. -/
theorem refused_reported {e : HostEvent} (he : s.1.Refuses e) :
    (∃ o ∈ outcome s e, o.ok = false ∧ o.error ≠ []) ∧ handle s e = s := by
  have hfailure : ∀ reason, outcome s e = some (.failure reason) → handle s e = s →
      (∃ o ∈ outcome s e, o.ok = false ∧ o.error ≠ []) ∧ handle s e = s := by
    intro reason hres hsame
    exact ⟨⟨_, hres, rfl, (outcome_reported s e _ hres).error rfl⟩, hsame⟩
  cases e with
  | setupPipeline faults =>
    obtain ⟨reason, -, hres⟩ := @setupPipeline_refused faults s.1 s.2 he
    exact hfailure _ (by rw [outcome, hres]) (by rw [handle, hres])
  | play fails =>
    have hres : s.1.play fails s.2 = (.failure "Pipeline not setup", s.2) := by
      rw [play, setPipelineState, show s.1.isLinked = false from he]; rfl
    exact hfailure _ (by rw [outcome, hres]) (by rw [handle, hres])
  | stop fails =>
    have hres : s.1.stop fails s.2 = (.failure "Pipeline not setup", s.2) := by
      rw [stop, setPipelineState, show s.1.isLinked = false from he]; rfl
    exact hfailure _ (by rw [outcome, hres]) (by rw [handle, hres])
  | setProfileEnabled name enabled =>
    have hres : s.1.setProfileEnabled name enabled s.2 = (.failure "Profile not found", s) := by
      have hnone : s.1.profileBins.findIdx? (fun b => b.profile.name == name) = none :=
        List.findIdx?_eq_none_iff.mpr fun b hb => beq_eq_false_iff_ne.mpr (he b hb)
      rw [ProfileHost.setProfileEnabled, hnone]
    exact hfailure _ (by rw [outcome, hres]) (by rw [handle, hres])
  | attachBusWatch fails context callback =>
    have hres : ∃ reason, s.1.attachBusWatch fails context callback s.2 = (.failure reason, s) := by
      unfold ProfileHost.attachBusWatch
      split
      · next context callback =>
        have hlinked : s.1.isLinked = false := (he.resolve_left (by rintro ⟨⟩)).resolve_left (by rintro ⟨⟩)
        rw [hlinked]
        exact ⟨_, rfl⟩
      · exact ⟨_, rfl⟩
    obtain ⟨reason, hres⟩ := hres
    exact hfailure _ (by rw [outcome, hres]) (by rw [handle, hres])
  | setVideoSource source => exact he.elim
  | detachBusWatch => exact he.elim
  | dispatch during => exact he.elim

theorem nullUses_handle (s : ProfileHost × Gst) (e : HostEvent) (he : ∀ during, e ≠ .dispatch during) :
    (handle s e).2.nullUses = s.2.nullUses := by
  cases e with
  | setVideoSource source => rfl
  | setupPipeline faults => exact (setupPipeline_reports ..).1
  | play fails => exact (setPipelineState_reports s.1 fails .playing (.of_reason rfl) s.2).1
  | stop fails => exact (setPipelineState_reports s.1 fails .paused (.of_reason rfl) s.2).1
  | setProfileEnabled name enabled => exact (setProfileEnabled_reports ..).1
  | attachBusWatch fails context callback => exact (attachBusWatch_reports ..).1
  | detachBusWatch => exact BusWatch.nullUses_detachBusWatch ..
  | dispatch during => exact absurd rfl (he during)

theorem nullUses_process (hw : Watched g₀ old s) (m : Moment HostEvent) :
    (process s m).2.nullUses = s.2.nullUses ↔ Guarded s m := by
  have harrive : (s.2.arrive s.1.pipeline m.arrived).nullUses = s.2.nullUses := Gst.nullUses_arrive ..
  by_cases hm : ∃ during, m.call = .dispatch during
  · obtain ⟨during, hm⟩ := hm
    unfold process Guarded
    simp only [hm]
    cases hs : s.1.watch.busSource with
    | none => exact iff_of_true harrive fun hno => by cases hno
    | some source =>
      obtain ⟨p, bus, hready, -⟩ := hw.watching.source source hs
      have hp := pipeline_of_ready hready
      have hwatching := hw.watching.arrive s.1.pipeline m.arrived
      rw [hready] at hwatching
      have hhandler : s.1.onBusMessage m.noBus = s.1.watch.onBusMessage m.noBus (some p) := funext fun g => by
        rw [onBusMessage, hs, Option.isSome_some, if_pos rfl, hp]
      rw [← harrive, hwatching.nullUses_dispatch hs hhandler during, ← hp]
      exact ⟨fun hfed _ => hfed, fun hfed => hfed rfl⟩
  · have hother : ∀ during, m.call ≠ .dispatch during := by simpa using hm
    rw [process_call s hother, nullUses_handle _ m.call hother, harrive]
    refine iff_of_true rfl ?_
    unfold Guarded
    split
    · next during hcall => exact absurd hcall (hother during)
    · trivial

theorem Watched.nullSafe (hw : Watched g₀ old s) (hnull : s.2.nullUses = g.nullUses) : NullSafe g s := by
  refine ⟨hnull, hw.linked, fun hsome => ?_, outcome_reported s, fun e => refused_reported⟩
  obtain ⟨x, hx⟩ := Option.isSome_iff_exists.mp hsome
  obtain ⟨p, bus, hready, -⟩ := hw.watching.source x hx
  rw [pipeline_of_ready hready]
  rfl

/-- A run of a host uses no null pointer exactly when its handler always has something to work on. -/
theorem nullSafe_iff (g : Gst) (profiles : List ProfileInfo) (calls : List (Moment HostEvent)) :
    Throughout process (NullSafe g) (new profiles, g) calls ↔ Along process Guarded (new profiles, g) calls :=
  have hwatched : Watched g (fun _ => False) (new profiles, g) := ⟨nofun, .init g⟩
  throughout_iff_along_unchanged (W := Watched g fun _ => False) (fun _ hw => ⟨NullSafe.nullUses, hw.nullSafe⟩)
    (fun _ m hw => hw.process m) (fun _ m hw => nullUses_process hw m) hwatched rfl calls

end ProfileHost

/-! ### `VideoPipeline` -/

namespace VideoPipeline
variable {v : VideoPipeline} {s : VideoPipeline × Gst} {g g₀ : Gst} {old : Nat → Prop}

/-- The calls a guard turns away. -/
def Refuses (s : VideoPipeline × Gst) : VideoEvent → Prop
  | .setupPipeline _ => s.1.isPipelineSetup = true ∨ s.1.videoSource = none
  | .play getFails _ => s.1.isPipelineInState getFails [.null, .ready, .paused] s.2 = false
  | .pause getFails _ => s.1.isPipelineInState getFails [.playing] s.2 = false
  | .seek getFails _ => s.1.isPipelineInState getFails [.playing, .paused] s.2 = false
  | .attachBusWatch _ context callback => context = none ∨ callback = none ∨ s.1.isPipelineSetup = false
  | _ => False

/-- No null pointer was used since `g`, the handler never lacks its pipeline, and every call reports what it
refuses. -/
structure NullSafe (g : Gst) (s : VideoPipeline × Gst) : Prop where
  nullUses : s.2.nullUses = g.nullUses
  watched : s.1.watch.busSource.isSome → s.1.isPipelineSetup = true
  reported : ∀ e, ∀ o ∈ (call s e).1, o.Reported
  refused : ∀ e, Refuses s e → (∃ o ∈ (call s e).1, o.ok = false ∧ o.error ≠ []) ∧ handle s e = s

/-- A set-up needs a sink factory, and a dispatch something for its handler to work on. -/
def Guarded (s : VideoPipeline × Gst) (m : Moment VideoEvent) : Prop :=
  match m.call with
  | .setupPipeline _ => s.1.isPipelineSetup = false → s.1.videoSource.isSome → s.1.videoSink.isSome
  | .dispatch during => s.1.watch.busSource.isSome → m.Fed during s.1.pipeline s.2
  | _ => True

/-! #### The set-up -/

theorem nullUses_stop (v : VideoPipeline) (g : Gst) : (v.stop g).2.2.nullUses = g.nullUses := by
  have hdetach : (v.detachBusWatch g).2.nullUses = g.nullUses := BusWatch.nullUses_detachBusWatch ..
  unfold stop
  generalize v.detachBusWatch g = d at hdetach
  obtain ⟨v', g'⟩ := d
  simp only at hdetach ⊢
  cases v'.pipeline with
  | some p => simpa using hdetach
  | none => simpa using hdetach

theorem setupElements_spec (fails : VideoCall → Bool) (v : VideoPipeline) (p a b c d : Nat) (g : Gst) :
    (setupElements fails v p a b c d g).2.2.nullUses = g.nullUses ∧ (setupElements fails v p a b c d g).1.Reported := by
  have hlinked : (((g.setObject c (ascii "caps") (.caps (setupCaps v.caps))).binAddMany p [a, b, c, d]).linkMany
      (fails .link) [a, b, c, d]).2.nullUses = g.nullUses := by simp
  unfold setupElements
  simp only
  split
  · exact ⟨hlinked, .inl rfl⟩
  · exact ⟨(nullUses_stop ..).trans hlinked, .of_reason rfl⟩

/-- Only the sink factory is not looked at before it is used. -/
theorem nullUses_create (fails : VideoCall → Bool) (source : VideoSource) (v : VideoPipeline) (g : Gst) :
    (create fails source v g).2.nullUses = g.nullUses + if v.videoSink.isSome then 0 else 1 := by
  unfold create
  cases v.videoSink with
  | none => simp
  | some sink => cases sink <;> simp [VideoSink.createElement]

theorem setupPipeline_reports (fails : VideoCall → Bool) (v : VideoPipeline) (g : Gst) :
    ((setupPipeline fails v g).2.2.nullUses = g.nullUses ↔
      (v.isPipelineSetup = false → v.videoSource.isSome → v.videoSink.isSome)) ∧
      (setupPipeline fails v g).1.Reported := by
  rcases setupPipeline_shape fails v g with
    ⟨hwhy, reason, hreason, hres⟩ | ⟨hsetup, source, hsource, ⟨-, hres⟩ | ⟨-, sink, hsink, hres⟩⟩
  · rw [hres]
    refine ⟨iff_of_true rfl fun hsetup hsource => ?_, .of_reason hreason⟩
    rcases hwhy with hset | hnone
    · rw [hsetup] at hset; cases hset
    · rw [hnone] at hsource; cases hsource
  · rw [hres, hsetup, hsource]
    refine ⟨?_, .of_reason rfl⟩
    rw [nullUses_stop, nullUses_create]
    cases v.videoSink <;> simp
  · rw [hres]
    obtain ⟨hnull, hreported⟩ := setupElements_spec fails (v.withElements g.next) (g.next + 1) g.next (g.next + 3)
      (g.next + 4) (g.next + 5) (made source sink g)
    refine ⟨iff_of_true (hnull.trans ?_) (fun _ _ => by rw [hsink]; rfl), hreported⟩
    rfl

/-! #### The other calls -/

theorem changeState_reports (states : List GstState) (state : GstState) {failed refused : String}
    (hfailed : (PipelineOutcome.failure failed).Reported) (hrefused : (PipelineOutcome.failure refused).Reported)
    (getFails setFails : Bool) (v : VideoPipeline) (g : Gst) :
    (v.changeState states state failed refused getFails setFails g).2.nullUses = g.nullUses ∧
      (v.changeState states state failed refused getFails setFails g).1.Reported := by
  unfold changeState
  split
  · split
    · exact ⟨Gst.nullUses_setState .., .of_ok hfailed _⟩
    · exact ⟨rfl, hrefused⟩
  · exact ⟨rfl, .of_reason rfl⟩

theorem changeState_refused {states : List GstState} {getFails : Bool} {v : VideoPipeline} {g : Gst}
    (h : v.isPipelineInState getFails states g = false) (state : GstState) (failed refused : String) (setFails : Bool) :
    ∃ reason, v.changeState states state failed refused getFails setFails g = (.failure reason, g) := by
  unfold changeState
  split
  · rw [if_neg (Bool.eq_false_iff.mp h)]
    exact ⟨_, rfl⟩
  · exact ⟨_, rfl⟩

theorem play_reports (getFails setFails : Bool) (v : VideoPipeline) (g : Gst) :
    (v.play getFails setFails g).2.nullUses = g.nullUses ∧ (v.play getFails setFails g).1.Reported := by
  rw [play_eq]
  exact changeState_reports _ _ (.of_reason rfl) (.of_reason rfl) getFails setFails v g

theorem pause_reports (getFails setFails : Bool) (v : VideoPipeline) (g : Gst) :
    (v.pause getFails setFails g).2.nullUses = g.nullUses ∧ (v.pause getFails setFails g).1.Reported := by
  rw [pause_eq]
  exact changeState_reports _ _ (.of_reason rfl) (.of_reason rfl) getFails setFails v g

theorem seek_reports (getFails seekFails : Bool) (v : VideoPipeline) (g : Gst) :
    (v.seek getFails seekFails g).2.nullUses = g.nullUses ∧ (v.seek getFails seekFails g).1.Reported := by
  unfold seek
  split
  · split
    · split
      · exact ⟨rfl, .of_reason rfl⟩
      · exact ⟨rfl, .inl rfl⟩
    · exact ⟨rfl, .of_reason rfl⟩
  · exact ⟨rfl, .of_reason rfl⟩

theorem setCaps_reports (v : VideoPipeline) (caps : VideoCaps) (g : Gst) :
    (v.setCaps caps g).2.2.nullUses = g.nullUses ∧ (v.setCaps caps g).1.Reported := by
  unfold setCaps
  simp only
  split
  · exact ⟨rfl, .inl rfl⟩
  · exact ⟨rfl, .inl rfl⟩

theorem attachBusWatch_reports (fails : WatchCall → Bool) (context callback : Option Nat) (v : VideoPipeline) (g : Gst) :
    (v.attachBusWatch fails context callback g).2.2.nullUses = g.nullUses ∧
      (v.attachBusWatch fails context callback g).1.Reported := by
  unfold attachBusWatch
  split
  · split
    · exact ⟨BusWatch.nullUses_attachBusWatch .., BusWatch.attachBusWatch_reported ..⟩
    · exact ⟨rfl, .of_reason rfl⟩
  · exact ⟨rfl, .of_reason rfl⟩

theorem call_reported (s : VideoPipeline × Gst) (e : VideoEvent) : ∀ o ∈ (call s e).1, o.Reported := by
  cases e with
  | setVideoSource source => rintro _ ⟨⟩; exact .inl rfl
  | setVideoSink sink => rintro _ ⟨⟩; exact .inl rfl
  | setCaps caps => rintro _ ⟨⟩; exact (setCaps_reports ..).2
  | setupPipeline fails => rintro _ ⟨⟩; exact (setupPipeline_reports ..).2
  | play getFails setFails => rintro _ ⟨⟩; exact (play_reports ..).2
  | pause getFails setFails => rintro _ ⟨⟩; exact (pause_reports ..).2
  | stop => rintro _ ⟨⟩; rw [stop_ok]; exact .inl rfl
  | seek getFails seekFails => rintro _ ⟨⟩; exact (seek_reports ..).2
  | attachBusWatch fails context callback => rintro _ ⟨⟩; exact (attachBusWatch_reports ..).2
  | detachBusWatch => rintro _ ⟨⟩
  | dispatch during =>
    cases hs : s.1.watch.busSource <;> simp [call, hs]

/-- A call that is turned away changes nothing. -/
theorem refused_reported {e : VideoEvent} (he : Refuses s e) :
    (∃ o ∈ (call s e).1, o.ok = false ∧ o.error ≠ []) ∧ handle s e = s := by
  have hfailure : ∀ reason, call s e = (some (.failure reason), s) →
      (∃ o ∈ (call s e).1, o.ok = false ∧ o.error ≠ []) ∧ handle s e = s := by
    intro reason hres
    have hmem : PipelineOutcome.failure reason ∈ (call s e).1 := by rw [hres]; rfl
    exact ⟨⟨_, hmem, rfl, (call_reported s e _ hmem).error rfl⟩, by rw [handle, hres]⟩
  cases e with
  | setupPipeline fails =>
    obtain ⟨reason, -, hres⟩ := @setupPipeline_refused fails s.1 s.2 he
    exact hfailure reason (by rw [call, hres])
  | play getFails setFails =>
    obtain ⟨reason, hres⟩ := changeState_refused he .playing _ _ setFails
    exact hfailure reason (by rw [call, play_eq, hres])
  | pause getFails setFails =>
    obtain ⟨reason, hres⟩ := changeState_refused he .paused _ _ setFails
    exact hfailure reason (by rw [call, pause_eq, hres])
  | seek getFails seekFails =>
    have hres : ∃ reason, s.1.seek getFails seekFails s.2 = (.failure reason, s.2) := by
      unfold seek
      split
      · rw [if_neg (Bool.eq_false_iff.mp he)]
        exact ⟨_, rfl⟩
      · exact ⟨_, rfl⟩
    obtain ⟨reason, hres⟩ := hres
    exact hfailure reason (by rw [call, hres])
  | attachBusWatch fails context callback =>
    have hres : ∃ reason, s.1.attachBusWatch fails context callback s.2 = (.failure reason, s) := by
      unfold VideoPipeline.attachBusWatch
      split
      · next context callback =>
        have hsetup : s.1.isPipelineSetup = false := (he.resolve_left (by rintro ⟨⟩)).resolve_left (by rintro ⟨⟩)
        rw [hsetup]
        exact ⟨_, rfl⟩
      · exact ⟨_, rfl⟩
    obtain ⟨reason, hres⟩ := hres
    exact hfailure reason (by rw [call, hres])
  | setVideoSource source => exact he.elim
  | setVideoSink sink => exact he.elim
  | setCaps caps => exact he.elim
  | stop => exact he.elim
  | detachBusWatch => exact he.elim
  | dispatch during => exact he.elim

theorem nullUses_handle (s : VideoPipeline × Gst) (e : VideoEvent) (he : ∀ during, e ≠ .dispatch during)
    (hsetup : ∀ fails, e ≠ .setupPipeline fails) : (handle s e).2.nullUses = s.2.nullUses := by
  cases e with
  | setVideoSource source => rfl
  | setVideoSink sink => rfl
  | setCaps caps => exact (setCaps_reports ..).1
  | setupPipeline fails => exact absurd rfl (hsetup fails)
  | play getFails setFails => exact (play_reports ..).1
  | pause getFails setFails => exact (pause_reports ..).1
  | stop => exact nullUses_stop ..
  | seek getFails seekFails => exact (seek_reports ..).1
  | attachBusWatch fails context callback => exact (attachBusWatch_reports ..).1
  | detachBusWatch => exact BusWatch.nullUses_detachBusWatch ..
  | dispatch during => exact absurd rfl (he during)

theorem nullUses_process (hw : Watched g₀ old s) (m : Moment VideoEvent) :
    (process s m).2.nullUses = s.2.nullUses ↔ Guarded s m := by
  have harrive : (s.2.arrive s.1.pipeline m.arrived).nullUses = s.2.nullUses := Gst.nullUses_arrive ..
  by_cases hm : ∃ during, m.call = .dispatch during
  · obtain ⟨during, hm⟩ := hm
    unfold process Guarded
    simp only [hm]
    cases hs : s.1.watch.busSource with
    | none => exact iff_of_true harrive fun hno => by cases hno
    | some source =>
      have hhandler : s.1.onBusMessage m.noBus = s.1.watch.onBusMessage m.noBus s.1.pipeline := funext fun g => by
        rw [onBusMessage, hw.isPipelineSetup (by rw [hs]; rfl), if_pos rfl]
      rw [← harrive, (hw.watching.arrive s.1.pipeline m.arrived).nullUses_dispatch hs hhandler during]
      exact ⟨fun hfed _ => hfed, fun hfed => hfed rfl⟩
  · have hother : ∀ during, m.call ≠ .dispatch during := by simpa using hm
    rw [process_call s hother]
    unfold Guarded
    cases hcall : m.call with
    | dispatch during => exact absurd hcall (hother during)
    | setupPipeline fails =>
      have hset := (setupPipeline_reports fails s.1 (s.2.arrive s.1.pipeline m.arrived)).1
      rw [harrive] at hset
      exact hset
    | _ =>
      refine iff_of_true ((nullUses_handle _ _ ?_ ?_).trans harrive) trivial
      · rintro _ ⟨⟩
      · rintro _ ⟨⟩

theorem Watched.nullSafe (hw : Watched g₀ old s) (hnull : s.2.nullUses = g.nullUses) : NullSafe g s :=
  ⟨hnull, hw.isPipelineSetup, call_reported s, fun _ => refused_reported⟩

/-- A run of a local pipeline uses no null pointer exactly when every set-up has a sink factory and the
handler always has something to work on. -/
theorem nullSafe_iff (g : Gst) (calls : List (Moment VideoEvent)) :
    Throughout process (NullSafe g) ({}, g) calls ↔ Along process Guarded ({}, g) calls :=
  have hwatched : Watched g (fun _ => False) ({}, g) := ⟨.inr (by simp [elements]), .init g⟩
  throughout_iff_along_unchanged (W := Watched g fun _ => False) (fun _ hw => ⟨NullSafe.nullUses, hw.nullSafe⟩)
    (fun _ m hw => hw.process m) (fun _ m hw => nullUses_process hw m) hwatched rfl calls

end VideoPipeline

/-- Both classes, whatever is called and whatever fails. -/
theorem null_pointers_iff (g : Gst) (profiles : List ProfileInfo) (hostCalls : List (Moment HostEvent))
    (videoCalls : List (Moment VideoEvent)) :
    (Throughout ProfileHost.process (ProfileHost.NullSafe g) (.new profiles, g) hostCalls ↔
      Along ProfileHost.process ProfileHost.Guarded (.new profiles, g) hostCalls) ∧
    (Throughout VideoPipeline.process (VideoPipeline.NullSafe g) ({}, g) videoCalls ↔
      Along VideoPipeline.process VideoPipeline.Guarded ({}, g) videoCalls) :=
  ⟨ProfileHost.nullSafe_iff g profiles hostCalls, VideoPipeline.nullSafe_iff g videoCalls⟩

/-- A handler that finds no message releases null, and a set-up without a sink factory calls it. -/
theorem null_pointers_used :
    ¬ Throughout ProfileHost.process (ProfileHost.NullSafe .init) (.new [], .init)
      [{ call := .setVideoSource (some .TestVideoSource) },
        { call := .setupPipeline ⟨fun _ => false, fun _ _ => false⟩ },
        { call := .attachBusWatch (fun _ => false) (some 0) (some 0) },
        { arrived := [{ type := .other }], call := .dispatch [] }] ∧
    ¬ Throughout VideoPipeline.process (VideoPipeline.NullSafe .init) ({}, .init)
      [{ call := .setVideoSource (some .TestVideoSource) }, { call := .setVideoSink none },
        { call := .setupPipeline fun _ => false }] := by
  constructor
  · intro h
    have hnull := h.run.nullUses
    revert hnull
    decide +kernel
  · intro h
    have hnull := h.run.nullUses
    revert hnull
    decide +kernel

end CameraPlatform
