import CameraPlatform.Base.History
import CameraPlatform.GstKeeps
import CameraPlatform.RtspProfileServer

/-!
# Which handlers are connected

`Wired` ties the handlers to the mounts: a factory calls the mount it was made for, a medium the
mount of its factory, and an appsink all mounts that took it. Every event keeps it, but for the
configuration of a medium whose mount was freed.
-/

namespace CameraPlatform
open ByteString RefHeap History

namespace Bridge

def sinkOf (b : Bridge) (a : Nat) : Option Nat := (b.mounts[a]?).bind (·.mount.appSink)

/-- The profile that the mount was made for. -/
def nameOf (b : Bridge) (a : Nat) : Option Bytes := (b.mounts[a]?).map (·.mount.name)

def factoryOf (b : Bridge) (a : Nat) : Option Nat := (b.mounts[a]?).bind (·.mount.factory)

/-- The appsrc the mount feeds. -/
def slot (b : Bridge) (a : Nat) : Option Nat := (b.mounts[a]?).bind (·.mount.appSrc)

/-- The memory of the mount has not been freed. -/
def mountAlive (b : Bridge) (a : Nat) : Bool := (b.mounts[a]?).any fun c => !c.freed

/-- The mounts that took this appsink. -/
def boundTo (b : Bridge) (sink : Nat) : List Nat :=
  (List.range b.mounts.length).filter fun a => b.sinkOf a = some sink

/-- The mounts of `b'` are those of `b`, but for what they feed and whether they are still there. -/
structure SameMounts (b b' : Bridge) : Prop where
  size : b'.mounts.length = b.mounts.length
  sink : ∀ a, b'.sinkOf a = b.sinkOf a
  factory : ∀ a, b'.factoryOf a = b.factoryOf a
  name : ∀ a, b'.nameOf a = b.nameOf a

/-- The mounts of `b'` are those of `b`, but for what they feed. -/
structure Aligned (b b' : Bridge) : Prop extends SameMounts b b' where
  alive : ∀ a, b'.mountAlive a = b.mountAlive a

theorem Aligned.of_mounts {b b' : Bridge} (h : b'.mounts = b.mounts) : Aligned b b' :=
  ⟨⟨by rw [h], fun a => by rw [sinkOf, h]; rfl, fun a => by rw [factoryOf, h]; rfl, fun a => by rw [nameOf, h]; rfl⟩,
    fun a => by rw [mountAlive, h]; rfl⟩

theorem Aligned.refl {b : Bridge} : Aligned b b := .of_mounts rfl

theorem Aligned.trans {b b' b'' : Bridge} (h : Aligned b b') (h' : Aligned b' b'') : Aligned b b'' :=
  ⟨⟨h'.size.trans h.size, fun a => (h'.sink a).trans (h.sink a), fun a => (h'.factory a).trans (h.factory a),
    fun a => (h'.name a).trans (h.name a)⟩, fun a => (h'.alive a).trans (h.alive a)⟩

theorem SameMounts.boundTo {b b' : Bridge} (h : SameMounts b b') (sink : Nat) : b'.boundTo sink = b.boundTo sink := by
  unfold Bridge.boundTo
  rw [h.size]
  exact List.filter_congr fun a _ => by rw [h.sink]

/-! ### What the handlers do -/

section Handlers
variable {b : Bridge} {a : Nat} {callback : Callback} {body : Mount → Mount × Gst × List Action}

/-- `b'` is `b` after some handlers ran: objects and mounts stay. -/
structure Ran (b b' : Bridge) : Prop where
  aligned : Aligned b b'
  keeps : b.gst.Keeps b'.gst
  media : b'.media = b.media

theorem Ran.refl : Ran b b := ⟨.refl, .refl, rfl⟩

theorem Ran.trans {b' b'' : Bridge} (h : Ran b b') (h' : Ran b' b'') : Ran b b'' :=
  ⟨h.aligned.trans h'.aligned, h.keeps.trans h'.keeps, h'.media.trans h.media⟩

theorem withMount_freed (h : b.mountAlive a = false) :
    b.withMount callback a body = { b with dangling := b.dangling ++ [(callback, a)] } := by
  unfold withMount
  unfold mountAlive at h
  split
  · next mount hm => rw [hm] at h; cases h
  · rfl

variable (callback body) in
theorem withMount_alive (h : b.mountAlive a = true) : ∃ mount, b.mounts[a]? = some ⟨mount, false⟩ ∧
    b.withMount callback a body =
      { b with
        gst := (body mount).2.1
        mounts := b.mounts.set a ⟨(body mount).1, false⟩
        log := b.log ++ (body mount).2.2 } := by
  unfold mountAlive at h
  cases hm : b.mounts[a]? with
  | none => rw [hm] at h; cases h
  | some c =>
    obtain ⟨mount, freed⟩ := c
    rw [hm] at h
    obtain rfl : freed = false := by simpa using h
    refine ⟨mount, rfl, ?_⟩
    unfold withMount
    rw [hm]

/-- Writing what a mount feeds. -/
theorem aligned_set {mount : Mount} (hm : b.mounts[a]? = some ⟨mount, false⟩) (appSrc : Option Nat) (g : Gst)
    (log : List Action) :
    Aligned b { b with gst := g, mounts := b.mounts.set a ⟨{ mount with appSrc }, false⟩, log := log } ∧
      ∀ x, ({ b with gst := g, mounts := b.mounts.set a ⟨{ mount with appSrc }, false⟩, log := log } : Bridge).slot x =
        if x = a then appSrc else b.slot x := by
  have hlt : a < b.mounts.length := (List.getElem?_eq_some_iff.mp hm).1
  have hget : ∀ x, (b.mounts.set a ⟨{ mount with appSrc }, false⟩)[x]? =
      if x = a then some ⟨{ mount with appSrc }, false⟩ else b.mounts[x]? := by
    intro x
    by_cases hx : x = a
    · rw [if_pos hx, hx, List.getElem?_set_self hlt]
    · rw [if_neg hx, List.getElem?_set_ne (Ne.symm hx)]
  refine ⟨⟨⟨List.length_set .., fun x => ?_, fun x => ?_, fun x => ?_⟩, fun x => ?_⟩, fun x => ?_⟩
  · unfold sinkOf
    rw [hget]
    split
    · next hx => rw [hx, hm]; rfl
    · rfl
  · unfold factoryOf
    rw [hget]
    split
    · next hx => rw [hx, hm]; rfl
    · rfl
  · unfold nameOf
    rw [hget]
    split
    · next hx => rw [hx, hm]; rfl
    · rfl
  · unfold mountAlive
    rw [hget]
    split
    · next hx => rw [hx, hm]; rfl
    · rfl
  · unfold slot
    rw [hget]
    split <;> rfl

variable (callback body) in
/-- A handler whose mount is there changes what the mount feeds, at most. -/
theorem withMount_spec (h : b.mountAlive a = true)
    (hbody : ∀ mount, ∃ appSrc, (body mount).1 = { mount with appSrc }) :
    ∃ mount, b.slot a = mount.appSrc ∧ Aligned b (b.withMount callback a body) ∧
      (b.withMount callback a body).gst = (body mount).2.1 ∧ (b.withMount callback a body).media = b.media ∧
      (b.withMount callback a body).dangling = b.dangling ∧
      (∀ x, (b.withMount callback a body).slot x = if x = a then (body mount).1.appSrc else b.slot x) ∧
      (b.withMount callback a body).log = b.log ++ (body mount).2.2 := by
  obtain ⟨mount, hm, heq⟩ := withMount_alive callback body h
  obtain ⟨appSrc, hmount⟩ := hbody mount
  obtain ⟨haligned, hslot⟩ := aligned_set hm appSrc (body mount).2.1 (b.log ++ (body mount).2.2)
  rw [heq]
  refine ⟨mount, by rw [slot, hm]; rfl, ?_, rfl, rfl, rfl, ?_, rfl⟩
  · rw [hmount]
    exact haligned
  · rw [hmount]
    exact hslot

variable (callback body) in
theorem withMount_ran
    (hbody : ∀ mount, (∃ appSrc, (body mount).1 = { mount with appSrc }) ∧ b.gst.Keeps (body mount).2.1) :
    Ran b (b.withMount callback a body) := by
  cases h : b.mountAlive a with
  | true =>
    obtain ⟨mount, -, haligned, hgst, hmedia, -⟩ :=
      withMount_spec callback body h fun mount => (hbody mount).1
    exact ⟨haligned, hgst ▸ (hbody mount).2, hmedia⟩
  | false =>
    rw [withMount_freed h]
    exact ⟨.of_mounts rfl, .refl, rfl⟩

/-- A handler that leaves its mount as it is. -/
theorem slot_same {mount : Mount} (hm : b.slot a = mount.appSrc) (x : Nat) :
    (if x = a then mount.appSrc else b.slot x) = b.slot x := by
  split
  · next hx => rw [hx, hm]
  · rfl

/-- What `onNewSample` writes into the log; the sample is object `s`. -/
def sampleTrace (sink : Nat) (pulled : Option GstSample) (appSrc : Option Nat) (s : Nat) : List Action :=
  match pulled, appSrc with
  | none, _ => [.pullSample sink none]
  | some sample, some appSrc =>
    [.pullSample sink (some s), .bufferCopy s (s + 1), .setCaps appSrc sample.caps, .pushBuffer appSrc (s + 1),
      .sampleUnref s]
  | some _, none => [.pullSample sink (some s), .bufferCopy s (s + 1), .bufferUnref (s + 1), .sampleUnref s]

theorem pullInto_spec (g : Gst) (sink : Nat) (pulled : Option GstSample) (mount : Mount) :
    (pullInto g sink pulled mount).1 = mount ∧ g.Keeps (pullInto g sink pulled mount).2.1 ∧
      (pullInto g sink pulled mount).2.2 = sampleTrace sink pulled mount.appSrc g.next := by
  unfold pullInto
  cases pulled with
  | none => exact ⟨rfl, .refl, rfl⟩
  | some sample =>
    have hk : g.Keeps (((g.sampleNew sample).bufferCopy sample.buffer).bufferClearTimes (g.next + 1)) :=
      ((Gst.Keeps.refl.alloc _ _).alloc _ _).update (Nat.le_succ _) _
    cases hm : mount.appSrc with
    | none => exact ⟨rfl, (hk.unref _).unref _, rfl⟩
    | some appSrc => exact ⟨rfl, hk.unref _, rfl⟩

theorem onNewSample_alive (h : b.mountAlive a = true) (sink : Nat) (pulled : Option GstSample) :
    (b.onNewSample sink pulled a).dangling = b.dangling ∧
      (∀ x, (b.onNewSample sink pulled a).slot x = b.slot x) ∧
      (b.onNewSample sink pulled a).log = b.log ++ sampleTrace sink pulled (b.slot a) b.gst.next := by
  have hspec := pullInto_spec b.gst sink pulled
  obtain ⟨mount, hm, -, -, -, hd, hslot, hlog⟩ :=
    withMount_spec .onNewSample (pullInto b.gst sink pulled) h fun mount => ⟨_, (hspec mount).1⟩
  rw [(hspec mount).1] at hslot
  rw [(hspec mount).2.2, ← hm] at hlog
  exact ⟨hd, fun x => (hslot x).trans (slot_same hm x), hlog⟩

theorem onNewSample_ran (sink : Nat) (pulled : Option GstSample) : Ran b (b.onNewSample sink pulled a) := by
  have hspec := pullInto_spec b.gst sink pulled
  exact withMount_ran .onNewSample (pullInto b.gst sink pulled) fun mount => ⟨⟨_, (hspec mount).1⟩, (hspec mount).2.1⟩

/-- With or without its mount, `onNewSample` changes no slot. -/
theorem onNewSample_slot (sink : Nat) (pulled : Option GstSample) (x : Nat) :
    (b.onNewSample sink pulled a).slot x = b.slot x := by
  cases h : b.mountAlive a with
  | true => exact (onNewSample_alive h sink pulled).2.1 x
  | false => rw [onNewSample, withMount_freed h]; rfl

theorem onMediaPrepared_alive (h : b.mountAlive a = true) :
    (b.onMediaPrepared a).dangling = b.dangling ∧ (∀ x, (b.onMediaPrepared a).slot x = b.slot x) ∧
      (b.onMediaPrepared a).log = b.log := by
  obtain ⟨mount, hm, -, -, -, hd, hslot, hlog⟩ := withMount_spec .onMediaPrepared
    (fun mount => (mount, b.gst, [])) h fun mount => ⟨_, rfl⟩
  exact ⟨hd, fun x => (hslot x).trans (slot_same hm x), by rw [onMediaPrepared, hlog, List.append_nil]⟩

theorem onMediaPrepared_ran : Ran b (b.onMediaPrepared a) :=
  withMount_ran .onMediaPrepared _ fun _ => ⟨⟨_, rfl⟩, .refl⟩

theorem onMediaUnprepared_alive (h : b.mountAlive a = true) :
    (b.onMediaUnprepared a).dangling = b.dangling ∧
      (∀ x, (b.onMediaUnprepared a).slot x = if x = a then none else b.slot x) ∧
      (b.onMediaUnprepared a).log = b.log := by
  obtain ⟨mount, hm, -, -, -, hd, hslot, hlog⟩ := withMount_spec .onMediaUnprepared
    (fun mount => ({ mount with appSrc := none }, b.gst.clearObject mount.appSrc, [])) h fun mount => ⟨_, rfl⟩
  exact ⟨hd, hslot, by rw [onMediaUnprepared, hlog, List.append_nil]⟩

theorem onMediaUnprepared_ran : Ran b (b.onMediaUnprepared a) :=
  withMount_ran .onMediaUnprepared _ fun _ => ⟨⟨_, rfl⟩, Gst.Keeps.refl.clearObject _⟩

/-- The medium that an event of a factory makes. -/
def newMedium (b : Bridge) (factory : Nat) : Medium :=
  { object := b.gst.next, factory, appSrc := b.gst.next + 2 }

/-- The bridge in which `onMediaConfigure` runs. -/
def withNewMedium (b : Bridge) (factory : Nat) : Bridge :=
  { b with gst := b.gst.mediaNew, media := b.media ++ [b.newMedium factory] }

/-- The handler finds the appsrc of the new medium. -/
theorem configureMount_mediaNew (g : Gst) (a : Nat) (mount : Mount) : configureMount g.mediaNew g.next a mount =
    ({ mount with appSrc := some (g.next + 2) },
      ((((g.mediaNew.ref (g.next + 1)).ref (g.next + 2)).unref (g.next + 1)).connect g.next
        ⟨.prepared, .onMediaPrepared, a⟩).connect g.next ⟨.unprepared, .onMediaUnprepared, a⟩, []) := by
  obtain ⟨-, hobj, -, -⟩ := g.mediaNew_spec
  unfold configureMount
  rw [hobj]
  simp only [Option.bind_some, Gst.binGetByName_mediaNew]

/-- The mount feeds the appsrc of the new medium, whose signals come back to the mount. -/
theorem onMediaConfigure_alive (factory : Nat) (h : b.mountAlive a = true) :
    let b' := (b.withNewMedium factory).onMediaConfigure b.gst.next a
    Aligned b b' ∧ b.gst.Keeps b'.gst ∧ b'.media = b.media ++ [b.newMedium factory] ∧ b'.dangling = b.dangling ∧
      (∀ x, b'.slot x = if x = a then some (b.gst.next + 2) else b.slot x) ∧ b'.log = b.log ∧
      b.gst.next + 2 < b'.gst.next ∧
      b'.gst.handlersOf b.gst.next .prepared = [⟨.prepared, .onMediaPrepared, a⟩] ∧
      b'.gst.handlersOf b.gst.next .unprepared = [⟨.unprepared, .onMediaUnprepared, a⟩] := by
  obtain ⟨hnext, hobj, -, -⟩ := b.gst.mediaNew_spec
  have hbody := configureMount_mediaNew b.gst a
  obtain ⟨mount, -, haligned, hgst, hmedia, hd, hslot, hlog⟩ :=
    @withMount_spec (b.withNewMedium factory) a .onMediaConfigure (configureMount b.gst.mediaNew b.gst.next a) h
      fun mount => by rw [hbody]; exact ⟨_, rfl⟩
  rw [hbody] at hgst hslot hlog
  intro b'
  have hb' : b' = (b.withNewMedium factory).withMount .onMediaConfigure a
      (configureMount b.gst.mediaNew b.gst.next a) := rfl
  rw [← hb'] at haligned hgst hmedia hd hslot hlog
  have hhandlers : ∀ signal, b'.gst.handlersOf b.gst.next signal =
      ([⟨.prepared, .onMediaPrepared, a⟩, ⟨.unprepared, .onMediaUnprepared, a⟩] : List Handler).filter
        fun handler => handler.signal = signal := by
    intro signal
    rw [hgst]
    unfold Gst.handlersOf Gst.connect
    simp [Gst.obj_update, hobj]
  have haligned' : Aligned b (b.withNewMedium factory) := .of_mounts rfl
  refine ⟨haligned'.trans haligned, ?_, hmedia, hd, hslot, ?_, ?_, hhandlers _, hhandlers _⟩
  · rw [hgst]
    exact (((((Gst.keeps_mediaNew).ref _).ref _).unref _).update (Nat.le_refl _) _).update (Nat.le_refl _) _
  · rw [hlog]
    exact List.append_nil _
  · rw [hgst]
    simp [Gst.connect, hnext]

end Handlers

/-- What each handler keeps, an emission keeps. -/
theorem emit_invariant {b : Bridge} {P : Bridge → Prop} {e : Emission} (h0 : P b)
    (hstep : ∀ b h, P b → P (invoke e b h)) : P (b.emit e) :=
  List.foldlRecOn (motive := P) _ _ h0 fun b hb h _ => hstep b h hb

/-! ### What the handlers connect -/

section Frame
variable {α : Type} {f : GObject → α} {b : Bridge}

theorem configureMount_same (hf : ∀ (o : GObject) handlers, f { o with handlers } = f o) (g : Gst) (media address : Nat)
    (mount : Mount) : Gst.Same f g (configureMount g media address mount).2.1 := by
  have hconnect : ∀ {g' : Gst}, g.Keeps g' →
      Gst.Same f g ((g'.connect media ⟨.prepared, .onMediaPrepared, address⟩).connect media
        ⟨.unprepared, .onMediaUnprepared, address⟩) := fun hk =>
    (hk.same.update _ fun _ => hf ..).update _ fun _ => hf ..
  unfold configureMount
  cases (g.obj media).bind (·.element) with
  | none => exact hconnect ⟨Nat.le_refl _, fun _ _ => rfl⟩
  | some bin =>
    have hbin : g.Keeps ((g.ref bin).binGetByName bin (ascii "profile_src")).2 := by
      unfold Gst.binGetByName
      split
      · exact (Gst.Keeps.refl.ref _).ref _
      · exact Gst.Keeps.refl.ref _
    exact hconnect (hbin.unref bin)

theorem withMount_same {callback : Callback} {a : Nat} {body : Mount → Mount × Gst × List Action}
    (hbody : ∀ mount, Gst.Same f b.gst (body mount).2.1) : Gst.Same f b.gst (b.withMount callback a body).gst := by
  unfold withMount
  split
  · exact hbody _
  · exact .refl

theorem invoke_same (hf : ∀ (o : GObject) handlers, f { o with handlers } = f o) (e : Emission) (h : Handler) :
    Gst.Same f b.gst (invoke e b h).gst := by
  unfold invoke
  split
  · exact withMount_same fun mount => (pullInto_spec ..).2.1.same
  · exact withMount_same fun mount => configureMount_same hf ..
  · exact withMount_same fun mount => .refl
  · exact withMount_same fun mount => (Gst.Keeps.refl.clearObject _).same
  · exact .refl

theorem emit_same (hf : ∀ (o : GObject) handlers, f { o with handlers } = f o) {g : Gst} (hg : Gst.Same f g b.gst)
    (e : Emission) : Gst.Same f g (b.emit e).gst :=
  emit_invariant (P := fun b => Gst.Same f g b.gst) hg fun _ h hb => hb.trans (invoke_same hf e h)

/-- An event connects handlers, and writes nothing else of the objects that were there. -/
theorem step_same (hf : ∀ (o : GObject) handlers, f { o with handlers } = f o) (event : BridgeEvent) :
    Gst.Same f b.gst (b.step event).gst := by
  have hsame : Gst.Same f b.gst b.gst := .refl
  cases event with
  | newSample sink pulled =>
    simp only [step]
    split
    · exact emit_same hf hsame _
    · exact hsame
  | configure factory =>
    simp only [step]
    split
    · exact emit_same hf Gst.keeps_mediaNew.same _
    · exact hsame
  | prepared i =>
    simp only [step]
    split
    · split
      · refine emit_same hf ?_ _
        exact hsame
      · exact hsame
    · exact hsame
  | unprepared i =>
    simp only [step]
    split
    · split
      · refine emit_same hf ?_ _
        exact hsame
      · exact hsame
    · exact hsame

end Frame

/-! ### What one event does -/

/-- A medium calls the mount of its factory. -/
def MediumWired (b : Bridge) (m : Medium) : Prop :=
  ∃ a, b.factoryOf a = some m.factory ∧ m.object < b.gst.next ∧
    b.gst.handlersOf m.object .prepared = [⟨.prepared, .onMediaPrepared, a⟩] ∧
    b.gst.handlersOf m.object .unprepared = [⟨.unprepared, .onMediaUnprepared, a⟩]

/-- A factory calls the mount it was made for, and so do its media. -/
structure Wired (b : Bridge) : Prop where
  factory : ∀ a f, b.factoryOf a = some f →
    f < b.gst.next ∧ b.gst.handlersOf f .mediaConfigure = [⟨.mediaConfigure, .onMediaConfigure, a⟩]
  media : ∀ m ∈ b.media, b.MediumWired m

section Step
variable {b : Bridge}

/-- No two mounts share a factory. -/
theorem Wired.eq_of_factory (hw : b.Wired) {a a' f : Nat} (h : b.factoryOf a = some f) (h' : b.factoryOf a' = some f) :
    a = a' := by
  have := (hw.factory a f h).2.symm.trans (hw.factory a' f h').2
  simpa using this

theorem MediumWired.congr {b' : Bridge} {m : Medium} (h : b.MediumWired m) (ha : SameMounts b b')
    (hk : b.gst.SameHandlers b'.gst) : b'.MediumWired m := by
  obtain ⟨a, hf, hlt, hp, hu⟩ := h
  exact ⟨a, (ha.factory a).trans hf, Nat.lt_of_lt_of_le hlt hk.next_le, (hk.handlers hlt _).trans hp,
    (hk.handlers hlt _).trans hu⟩

theorem Wired.congr {b' : Bridge} (hw : b.Wired) (ha : SameMounts b b') (hk : b.gst.SameHandlers b'.gst)
    (hm : ∀ m ∈ b'.media, b'.MediumWired m) : b'.Wired := by
  refine ⟨fun a f hf => ?_, hm⟩
  obtain ⟨hlt, hh⟩ := hw.factory a f (ha.factory a ▸ hf)
  exact ⟨Nat.lt_of_lt_of_le hlt hk.next_le, (hk.handlers hlt _).trans hh⟩

/-- Some mount has object `r` in the field `get`. -/
theorem any_mount_iff {get : Mount → Option Nat} {r : Nat} :
    (b.mounts.any fun c => get c.mount == some r) = true ↔
      ∃ a : Nat, ((b.mounts[a]?).bind fun c => get c.mount) = some r := by
  rw [List.any_eq_true]
  constructor
  · rintro ⟨c, hc, hr⟩
    obtain ⟨a, ha⟩ := List.mem_iff_getElem?.mp hc
    exact ⟨a, by rw [ha]; exact beq_iff_eq.mp hr⟩
  · rintro ⟨a, ha⟩
    obtain ⟨c, hc, hr⟩ := Option.bind_eq_some_iff.mp ha
    exact ⟨c, List.mem_of_getElem? hc, beq_iff_eq.mpr hr⟩

theorem any_factory_iff {f : Nat} :
    (b.mounts.any fun c => c.mount.factory == some f) = true ↔ ∃ a, b.factoryOf a = some f := any_mount_iff

theorem mem_boundTo {sink a : Nat} : a ∈ b.boundTo sink ↔ b.sinkOf a = some sink := by
  unfold boundTo
  rw [List.mem_filter, List.mem_range, decide_eq_true_iff, and_iff_right_iff_imp]
  intro ha
  obtain ⟨c, hc, -⟩ := Option.bind_eq_some_iff.mp ha
  exact (List.getElem?_eq_some_iff.mp hc).1

theorem any_sink_iff {sink : Nat} :
    (b.mounts.any fun c => c.mount.appSink == some sink) = true ↔ ∃ a, b.sinkOf a = some sink := any_mount_iff

theorem emit_single {e : Emission} {h : Handler} (hh : b.gst.handlersOf e.object e.signal = [h]) :
    b.emit e = invoke e b h := by
  rw [emit, hh]; rfl

theorem step_newSample (sink : Nat) (pulled : Nat → Option GstSample) :
    Ran b (b.step (.newSample sink pulled)) ∧ ∀ x, (b.step (.newSample sink pulled)).slot x = b.slot x := by
  have hinvoke : ∀ (b : Bridge) (h : Handler), Ran b (invoke (.newSample sink pulled) b h) ∧
      ∀ x, (invoke (.newSample sink pulled) b h).slot x = b.slot x := by
    rintro b ⟨signal, callback, a⟩
    cases callback with
    | onNewSample => exact ⟨onNewSample_ran sink (pulled a), onNewSample_slot sink (pulled a)⟩
    | onMediaConfigure => exact ⟨.refl, fun _ => rfl⟩
    | onMediaPrepared => exact ⟨.refl, fun _ => rfl⟩
    | onMediaUnprepared => exact ⟨.refl, fun _ => rfl⟩
  by_cases hg : ((b.mounts.any fun c => c.mount.appSink == some sink) && b.gst.alive sink) = true
  · rw [show b.step (.newSample sink pulled) = b.emit (.newSample sink pulled) from if_pos hg]
    refine emit_invariant (P := fun b' => Ran b b' ∧ ∀ x, b'.slot x = b.slot x) ⟨.refl, fun _ => rfl⟩ ?_
    rintro b' h ⟨hran, hslot⟩
    exact ⟨hran.trans (hinvoke b' h).1, fun x => ((hinvoke b' h).2 x).trans (hslot x)⟩
  · rw [show b.step (.newSample sink pulled) = b from if_neg hg]
    exact ⟨.refl, fun _ => rfl⟩

theorem Wired.step_configure (hw : b.Wired) (f : Nat) :
    ((∀ a, b.factoryOf a ≠ some f) ∨ b.gst.alive f = false) ∧ b.step (.configure f) = b ∨
      ∃ a, b.factoryOf a = some f ∧ b.gst.alive f = true ∧
        b.step (.configure f) = (b.withNewMedium f).onMediaConfigure b.gst.next a := by
  by_cases hg : ((b.mounts.any fun c => c.mount.factory == some f) && b.gst.alive f) = true
  · obtain ⟨hany, halive⟩ := Bool.and_eq_true_iff.mp hg
    obtain ⟨a, ha⟩ := any_factory_iff.mp hany
    obtain ⟨hlt, hh⟩ := hw.factory a f ha
    have hh' : (b.withNewMedium f).gst.handlersOf f .mediaConfigure = [⟨.mediaConfigure, .onMediaConfigure, a⟩] :=
      (Gst.keeps_mediaNew.same.handlers hlt _).trans hh
    refine .inr ⟨a, ha, halive, (if_pos hg).trans ?_⟩
    exact @emit_single (b.withNewMedium f) (.mediaConfigure f b.gst.next) _ hh'
  · refine .inl ⟨?_, if_neg hg⟩
    by_contra hcon
    push Not at hcon
    obtain ⟨⟨a, ha⟩, halive⟩ := hcon
    exact hg (Bool.and_eq_true_iff.mpr ⟨any_factory_iff.mpr ⟨a, ha⟩, by simpa using halive⟩)

/-- The bridge when the signal of the medium comes: it was noted that it does. -/
def withMedium (b : Bridge) (i : Nat) (m : Medium) : Bridge := { b with media := b.media.set i m }

/-- What is no flag of a medium stays. -/
theorem map_set_medium {α : Type} {get : Medium → α} {i : Nat} {m m' : Medium} (hi : b.media[i]? = some m)
    (hget : get m' = get m) : (b.media.set i m').map get = b.media.map get := by
  refine List.ext_getElem? fun j => ?_
  rw [List.map_set, hget, List.getElem?_set]
  split
  · next hij =>
    subst hij
    rw [List.getElem?_map, hi, List.length_map, if_pos (List.getElem?_eq_some_iff.mp hi).1]
    rfl
  · rfl

theorem Ran.withMedium {i : Nat} {m : Medium} {b' : Bridge} (h : Ran (b.withMedium i m) b') :
    Aligned b b' ∧ b.gst.Keeps b'.gst ∧ b'.media = b.media.set i m :=
  ⟨(@Aligned.of_mounts b (b.withMedium i m) rfl).trans h.aligned, h.keeps, h.media⟩

/-- The signal `prepared` of medium `i` comes. -/
def Prepares (b : Bridge) (i : Nat) (m : Medium) : Prop :=
  b.media[i]? = some m ∧ m.prepared = false ∧ m.unprepared = false ∧ b.gst.alive m.object = true

/-- The signal `unprepared` of medium `i` comes. -/
def Unprepares (b : Bridge) (i : Nat) (m : Medium) : Prop :=
  b.media[i]? = some m ∧ m.unprepared = false ∧ b.gst.alive m.object = true

theorem Wired.step_prepared (hw : b.Wired) (i : Nat) :
    (∀ m, ¬ b.Prepares i m) ∧ b.step (.prepared i) = b ∨
      ∃ m a, b.Prepares i m ∧ b.factoryOf a = some m.factory ∧
        b.step (.prepared i) = (b.withMedium i { m with prepared := true }).onMediaPrepared a := by
  cases hm : b.media[i]? with
  | none => exact .inl ⟨fun m h => (by cases hm.symm.trans h.1), by simp only [step, hm]⟩
  | some m =>
    by_cases hg : (!m.prepared && !m.unprepared && b.gst.alive m.object) = true
    · obtain ⟨a, hf, -, hp, -⟩ := hw.media m (List.mem_of_getElem? hm)
      refine .inr ⟨m, a, ⟨hm, by simpa [and_assoc] using hg⟩, hf, ?_⟩
      simp only [step, hm, if_pos hg]
      exact @emit_single (b.withMedium i _) (.prepared m.object) _ hp
    · refine .inl ⟨?_, by simp only [step, hm, if_neg hg]⟩
      rintro m' ⟨hm', h⟩
      obtain rfl := Option.some.inj (hm.symm.trans hm')
      exact hg (by simpa [and_assoc] using h)

theorem Wired.step_unprepared (hw : b.Wired) (i : Nat) :
    (∀ m, ¬ b.Unprepares i m) ∧ b.step (.unprepared i) = b ∨
      ∃ m a, b.Unprepares i m ∧ b.factoryOf a = some m.factory ∧
        b.step (.unprepared i) = (b.withMedium i { m with unprepared := true }).onMediaUnprepared a := by
  cases hm : b.media[i]? with
  | none => exact .inl ⟨fun m h => (by cases hm.symm.trans h.1), by simp only [step, hm]⟩
  | some m =>
    by_cases hg : (!m.unprepared && b.gst.alive m.object) = true
    · obtain ⟨a, hf, -, -, hu⟩ := hw.media m (List.mem_of_getElem? hm)
      refine .inr ⟨m, a, ⟨hm, by simpa using hg⟩, hf, ?_⟩
      simp only [step, hm, if_pos hg]
      exact @emit_single (b.withMedium i _) (.unprepared m.object) _ hu
    · refine .inl ⟨?_, by simp only [step, hm, if_neg hg]⟩
      rintro m' ⟨hm', h⟩
      obtain rfl := Option.some.inj (hm.symm.trans hm')
      exact hg (by simpa using h)

/-- What an event leaves: the mounts and the objects, and the media up to their signals. -/
structure Stepped (b b' : Bridge) : Prop where
  aligned : Aligned b b'
  keeps : b.gst.Keeps b'.gst
  wired : b'.Wired

/-- The memory of the mount that a new medium calls has to be there. -/
theorem Wired.step (hw : b.Wired) (event : BridgeEvent)
    (hc : ∀ f, event = .configure f → b.gst.alive f = true → ∀ a, b.factoryOf a = some f → b.mountAlive a = true) :
    Stepped b (b.step event) := by
  have hsame : Stepped b b := ⟨.refl, .refl, hw⟩
  have hsignal : ∀ {i : Nat} {m : Medium} (m' : Medium) {b' : Bridge}, b.media[i]? = some m →
      m'.object = m.object → m'.factory = m.factory → Ran (b.withMedium i m') b' → Stepped b b' := by
    intro i m m' b' hi hobject hfactory hran
    obtain ⟨ha, hk, hmedia⟩ := hran.withMedium
    refine ⟨ha, hk, hw.congr ha.toSameMounts hk.same fun x hx => ?_⟩
    rw [hmedia] at hx
    rcases List.mem_or_eq_of_mem_set hx with hx | rfl
    · exact (hw.media x hx).congr ha.toSameMounts hk.same
    · have := (hw.media m (List.mem_of_getElem? hi)).congr ha.toSameMounts hk.same
      rwa [MediumWired, ← hobject, ← hfactory] at this
  cases event with
  | newSample sink pulled =>
    obtain ⟨⟨ha, hk, hmedia⟩, -⟩ := @step_newSample b sink pulled
    exact ⟨ha, hk, hw.congr ha.toSameMounts hk.same fun m hm => (hw.media m (hmedia ▸ hm)).congr ha.toSameMounts hk.same⟩
  | configure f =>
    rcases hw.step_configure f with ⟨-, heq⟩ | ⟨a, hf, halive, heq⟩
    · rw [heq]; exact hsame
    · obtain ⟨ha, hk, hmedia, -, -, -, hlt, hp, hu⟩ := onMediaConfigure_alive f (hc f rfl halive a hf)
      rw [heq]
      refine ⟨ha, hk, hw.congr ha.toSameMounts hk.same fun m hm => ?_⟩
      rw [hmedia] at hm
      -- the old media, then the new one
      rcases List.mem_append.mp hm with hm | hm
      · exact (hw.media m hm).congr ha.toSameMounts hk.same
      · obtain rfl := List.mem_singleton.mp hm
        exact ⟨a, (ha.factory a).trans hf, Nat.lt_of_le_of_lt (Nat.le_add_right _ 2) hlt, hp, hu⟩
  | prepared i =>
    rcases hw.step_prepared i with ⟨-, heq⟩ | ⟨m, a, hp, -, heq⟩
    · rw [heq]; exact hsame
    · rw [heq]; exact hsignal { m with prepared := true } hp.1 rfl rfl onMediaPrepared_ran
  | unprepared i =>
    rcases hw.step_unprepared i with ⟨-, heq⟩ | ⟨m, a, hp, -, heq⟩
    · rw [heq]; exact hsame
    · rw [heq]; exact hsignal { m with unprepared := true } hp.1 rfl rfl onMediaUnprepared_ran

end Step

end Bridge

end CameraPlatform
