import CameraPlatform.BridgeSetup
import CameraPlatform.GstSpares
import CameraPlatform.HostEvents

/-!
# Where samples go

The log of a run is the list of its pulls, each with what was done with the sample. Every profile has
a mount, with the appsink of that profile, and media have appsrcs of their own, so no sample takes
the way of another. What the log says is given up is what the heap has no reference to.
-/

namespace CameraPlatform
open ByteString RefHeap History

/-- A sample that was pulled for a mount, the appsrc in its slot then, and the address of the sample;
the copy of its buffer is the next object. -/
structure Pull where
  address : Nat
  sink : Nat
  sample : Option GstSample
  target : Option Nat
  object : Nat

/-- What has to be done for a pull. -/
def Pull.trace (p : Pull) : List Action := Bridge.sampleTrace p.sink p.sample p.target p.object

/-- How the copy is given up. -/
def Pull.disposal (p : Pull) : Action :=
  match p.target with
  | some appSrc => .pushBuffer appSrc (p.object + 1)
  | none => .bufferUnref (p.object + 1)

/-- The action gives up object `n`. -/
def Action.releases (n : Nat) : Action → Bool
  | .sampleUnref s => s = n
  | .pushBuffer _ b => b = n
  | .bufferUnref b => b = n
  | _ => false

/-- A copy has no times. -/
def GstBuffer.timeless (b : GstBuffer) : GstBuffer := { b with pts := none, dts := none, duration := none }

/-- The references to the objects of a pull in the heap `g`: there is none to the sample, and none to the copy but
the one that was handed to the appsrc. Since `g₀` no reference to them was dropped that was not there. -/
structure Pull.Settled (p : Pull) (sample : GstSample) (g₀ g : Gst) : Prop where
  pulled : Gst.Held g₀ g p.object 0 { type := ascii "GstSample", sample := some sample }
  copied : Gst.Held g₀ g (p.object + 1) p.target.isSome.toNat
    { type := ascii "GstBuffer", buffer := some sample.buffer.timeless }

namespace Bridge

/-- An appsink that emits is pulled from for every mount that took it. -/
def pullsAt (b : Bridge) : BridgeEvent → List Pull
  | .newSample sink pulled =>
    if b.gst.alive sink then (b.boundTo sink).map fun a => ⟨a, sink, pulled a, b.slot a, b.gst.next⟩ else []
  | _ => []

def pulls : Bridge → List BridgeEvent → List Pull
  | _, [] => []
  | b, e :: events => b.pullsAt e ++ pulls (b.step e) events

theorem pulls_concat (b : Bridge) (events : List BridgeEvent) (e : BridgeEvent) :
    b.pulls (events ++ [e]) = b.pulls events ++ (run Bridge.step b events).pullsAt e := by
  induction events generalizing b with
  | nil => simp [pulls]
  | cons a events ih => rw [List.cons_append, pulls, ih, pulls, List.append_assoc, run_cons]

/-- The factories of the media, with the appsrc of each. -/
def feeds (b : Bridge) : List (Nat × Nat) := b.media.map fun m => (m.factory, m.appSrc)

/-- Mounts have appsinks of their own, media have appsrcs of their own, and a mount feeds a medium of
its own factory. -/
structure Apart (b : Bridge) : Prop where
  wired : b.Wired
  alive : ∀ a < b.mounts.length, b.mountAlive a = true
  sinks : ∀ a r, b.sinkOf a = some r → b.SinkWired r
  sink_inj : ∀ a a' r, b.sinkOf a = some r → b.sinkOf a' = some r → a = a'
  feed_lt : ∀ x ∈ b.feeds, x.2 < b.gst.next
  feed_inj : ∀ f f' r, (f, r) ∈ b.feeds → (f', r) ∈ b.feeds → f = f'
  slot : ∀ a r, b.slot a = some r → ∃ f, b.factoryOf a = some f ∧ (f, r) ∈ b.feeds

section
variable {b : Bridge}

/-- An appsink is taken by one mount. -/
theorem Apart.boundTo (h : b.Apart) {a sink : Nat} (ha : b.sinkOf a = some sink) : b.boundTo sink = [a] := by
  refine List.perm_singleton.mp ((List.perm_ext_iff_of_nodup ?_ (List.nodup_singleton a)).mpr fun x => ?_)
  · exact List.nodup_range.filter _
  · rw [mem_boundTo, List.mem_singleton]
    constructor
    · exact fun hx => h.sink_inj x a sink hx ha
    · rintro rfl
      exact ha

/-- An emission is one call of `onNewSample`, or none. -/
theorem Apart.step_newSample (h : b.Apart) (sink : Nat) (pulled : Nat → Option GstSample) :
    b.step (.newSample sink pulled) = b ∧ b.pullsAt (.newSample sink pulled) = [] ∨
      ∃ a, b.sinkOf a = some sink ∧ b.mountAlive a = true ∧
        b.step (.newSample sink pulled) = b.onNewSample sink (pulled a) a ∧
        b.pullsAt (.newSample sink pulled) = [⟨a, sink, pulled a, b.slot a, b.gst.next⟩] := by
  by_cases hg : ((b.mounts.any fun c => c.mount.appSink == some sink) && b.gst.alive sink) = true
  · obtain ⟨hany, halive⟩ := Bool.and_eq_true_iff.mp hg
    obtain ⟨a, ha⟩ := any_sink_iff.mp hany
    have hhandlers := (h.sinks a sink ha).2
    rw [h.boundTo ha] at hhandlers
    obtain ⟨c, hc, -⟩ := Option.bind_eq_some_iff.mp ha
    refine .inr ⟨a, ha, h.alive a (List.getElem?_eq_some_iff.mp hc).1, (if_pos hg).trans ?_, ?_⟩
    · exact @emit_single b (.newSample sink pulled) _ hhandlers
    · rw [pullsAt, if_pos halive, h.boundTo ha]
      rfl
  · refine .inl ⟨if_neg hg, ?_⟩
    rw [pullsAt]
    split
    · next halive =>
      rw [List.map_eq_nil_iff, List.eq_nil_iff_forall_not_mem]
      intro a ha
      exact hg (Bool.and_eq_true_iff.mpr ⟨any_sink_iff.mpr ⟨a, mem_boundTo.mp ha⟩, halive⟩)
    · rfl

/-- How an event changes the slots and the media. -/
theorem Apart.step_feeds (h : b.Apart) (e : BridgeEvent) :
    ((b.step e).feeds = b.feeds ∧ ∀ a, (b.step e).slot a = b.slot a ∨ (b.step e).slot a = none) ∨
      ∃ a f, b.factoryOf a = some f ∧ (b.step e).feeds = b.feeds ++ [(f, b.gst.next + 2)] ∧
        b.gst.next + 2 < (b.step e).gst.next ∧
        ∀ x, (b.step e).slot x = if x = a then some (b.gst.next + 2) else b.slot x := by
  have hflag : ∀ {i : Nat} {m : Medium} (m' : Medium) {b' : Bridge}, b.media[i]? = some m → m'.factory = m.factory →
      m'.appSrc = m.appSrc → b'.media = b.media.set i m' → b'.feeds = b.feeds := by
    intro i m m' b' hi hf hs hm
    rw [feeds, hm]
    exact map_set_medium hi (by rw [hf, hs])
  cases e with
  | newSample sink pulled =>
    obtain ⟨⟨-, -, hmedia⟩, hslot⟩ := @Bridge.step_newSample b sink pulled
    exact .inl ⟨by rw [feeds, hmedia]; rfl, fun a => .inl (hslot a)⟩
  | configure f =>
    rcases h.wired.step_configure f with ⟨-, heq⟩ | ⟨a, ha, -, heq⟩
    · rw [heq]
      exact .inl ⟨rfl, fun _ => .inl rfl⟩
    · have hlt : a < b.mounts.length := RtspProfileServer.lt_of_factoryOf ha
      obtain ⟨-, -, hmedia, -, hslot, -, hnext, -⟩ := onMediaConfigure_alive f (h.alive a hlt)
      rw [heq]
      refine .inr ⟨a, f, ha, ?_, hnext, hslot⟩
      rw [feeds, hmedia, List.map_append]
      rfl
  | prepared i =>
    rcases h.wired.step_prepared i with ⟨-, heq⟩ | ⟨m, a, hm, ha, heq⟩
    · rw [heq]
      exact .inl ⟨rfl, fun _ => .inl rfl⟩
    · obtain ⟨-, -, hmedia⟩ := (onMediaPrepared_ran (b := b.withMedium i { m with prepared := true })
        (a := a)).withMedium
      have halive : b.mountAlive a = true := h.alive a (RtspProfileServer.lt_of_factoryOf ha)
      obtain ⟨-, hslot, -⟩ := onMediaPrepared_alive (b := b.withMedium i { m with prepared := true }) halive
      rw [heq]
      exact .inl ⟨hflag { m with prepared := true } hm.1 rfl rfl hmedia, fun x => .inl (hslot x)⟩
  | unprepared i =>
    rcases h.wired.step_unprepared i with ⟨-, heq⟩ | ⟨m, a, hm, ha, heq⟩
    · rw [heq]
      exact .inl ⟨rfl, fun _ => .inl rfl⟩
    · obtain ⟨-, -, hmedia⟩ := (onMediaUnprepared_ran (b := b.withMedium i { m with unprepared := true })
        (a := a)).withMedium
      have halive : b.mountAlive a = true := h.alive a (RtspProfileServer.lt_of_factoryOf ha)
      obtain ⟨-, hslot, -⟩ := onMediaUnprepared_alive (b := b.withMedium i { m with unprepared := true }) halive
      rw [heq]
      refine .inl ⟨hflag { m with unprepared := true } hm.1 rfl rfl hmedia, fun x => ?_⟩
      rw [hslot]
      split
      · exact .inr rfl
      · exact .inl rfl

theorem Apart.step (h : b.Apart) (e : BridgeEvent) : Stepped b (b.step e) ∧ (b.step e).Apart := by
  obtain ⟨ha, hk, hw⟩ := h.wired.step e fun f _ _ a ha => h.alive a (RtspProfileServer.lt_of_factoryOf ha)
  refine ⟨⟨ha, hk, hw⟩, hw, fun a hlt => ?_, fun a r hr => ?_, fun a a' r hr hr' => ?_, ?_, ?_, ?_⟩
  · rw [ha.alive]
    exact h.alive a (ha.size ▸ hlt)
  · exact (h.sinks a r (ha.sink a ▸ hr)).congr ha.toSameMounts hk.same
  · exact h.sink_inj a a' r (ha.sink a ▸ hr) (ha.sink a' ▸ hr')
  all_goals rcases h.step_feeds e with ⟨hfeeds, hslot⟩ | ⟨a₁, f₁, hf₁, hfeeds, hlt, hslot⟩
  · intro x hx
    rw [hfeeds] at hx
    exact Nat.lt_of_lt_of_le (h.feed_lt x hx) hk.next_le
  · intro x hx
    rw [hfeeds] at hx
    rcases List.mem_append.mp hx with hx | hx
    · exact Nat.lt_of_lt_of_le (h.feed_lt x hx) hk.next_le
    · obtain rfl := List.mem_singleton.mp hx
      exact hlt
  · rw [hfeeds]
    exact h.feed_inj
  · -- the appsrc of the new medium is new
    have hnew : ∀ f, (f, b.gst.next + 2) ∉ b.feeds := fun f hf => by
      have := h.feed_lt _ hf
      simp only at this
      omega
    rw [hfeeds]
    intro f f' r hf hf'
    simp only [List.mem_append, List.mem_singleton, Prod.mk.injEq] at hf hf'
    rcases hf with hf | ⟨rfl, rfl⟩ <;> rcases hf' with hf' | ⟨rfl, hr⟩
    · exact h.feed_inj f f' r hf hf'
    · exact absurd (hr ▸ hf) (hnew f)
    · exact absurd hf' (hnew f')
    · rfl
  · intro a r hr
    rw [ha.factory, hfeeds]
    rcases hslot a with hs | hs
    · exact h.slot a r (hs ▸ hr)
    · rw [hs] at hr; cases hr
  · intro a r hr
    rw [ha.factory, hfeeds]
    rw [hslot] at hr
    split at hr
    · next hx =>
      obtain rfl := Option.some.inj hr
      exact ⟨f₁, hx ▸ hf₁, List.mem_append_right _ (List.mem_singleton_self _)⟩
    · obtain ⟨f, hf, hmem⟩ := h.slot a r hr
      exact ⟨f, hf, List.mem_append_left _ hmem⟩

/-! ### Pulls -/

/-- What is known of a pull in every later state. -/
structure Kept (b : Bridge) (p : Pull) : Prop where
  own : b.sinkOf p.address = some p.sink
  target : ∀ r, p.target = some r → ∃ f, b.factoryOf p.address = some f ∧ (f, r) ∈ b.feeds
  copy : ∀ sample, p.sample = some sample → p.object + 1 < b.gst.next ∧
    (b.gst.obj p.object).bind (·.sample) = some sample ∧
    (b.gst.obj (p.object + 1)).bind (·.buffer) = some sample.buffer.timeless

theorem Kept.mono {b' : Bridge} {p : Pull} (h : b.Kept p) (ha : Aligned b b') (hk : b.gst.Keeps b'.gst)
    (hfeeds : ∀ x ∈ b.feeds, x ∈ b'.feeds) : b'.Kept p := by
  refine ⟨(ha.sink _).trans h.own, fun r hr => ?_, fun sample hsample => ?_⟩
  · obtain ⟨f, hf, hmem⟩ := h.target r hr
    exact ⟨f, (ha.factory _).trans hf, hfeeds _ hmem⟩
  · obtain ⟨hlt, hs, hb⟩ := h.copy sample hsample
    refine ⟨Nat.lt_of_lt_of_le hlt hk.next_le, ?_, ?_⟩
    · rw [hk.obj _ (Nat.lt_of_succ_lt hlt)]
      exact hs
    · rw [hk.obj _ hlt]
      exact hb

/-- A pull gives up the sample, and the copy unless it was pushed. -/
theorem pullInto_settled (g : Gst) (sink : Nat) (sample : GstSample) (mount : Mount) :
    let g' := (pullInto g sink (some sample) mount).2.1
    g'.next = g.next + 2 ∧ g.Spares g.next Gst.Nothing g' ∧ Gst.Fresh g g' ∧
      Gst.Held g g' g.next 0 { type := ascii "GstSample", sample := some sample } ∧
      Gst.Held g g' (g.next + 1) mount.appSrc.isSome.toNat
        { type := ascii "GstBuffer", buffer := some sample.buffer.timeless } := by
  have hpulled : Gst.Held g (g.sampleNew sample) g.next 1 { type := ascii "GstSample", sample := some sample } :=
    .alloc_self rfl _
  have hcopied := @Gst.Held.alloc_self g (g.sampleNew sample) rfl
    { type := ascii "GstBuffer", buffer := some sample.buffer }
  rw [show (g.sampleNew sample).next = g.next + 1 from Gst.next_alloc ..] at hcopied
  have hspares : g.Spares g.next Gst.Nothing
      (((g.sampleNew sample).bufferCopy sample.buffer).bufferClearTimes (g.next + 1)) :=
    ((Gst.Spares.refl (Nat.le_refl _)).alloc false nofun |>.alloc false nofun).update (Nat.le_succ _) fun _ => False.elim
  have hsample := (hpulled.alloc false { type := ascii "GstBuffer", buffer := some sample.buffer }).update_other
    (r := g.next + 1) (by omega) fun o => { o with buffer := o.buffer.map GstBuffer.timeless }
  have hbuffer := hcopied.update fun o => { o with buffer := o.buffer.map GstBuffer.timeless }
  have hnext : (((g.sampleNew sample).bufferCopy sample.buffer).bufferClearTimes (g.next + 1)).next = g.next + 2 := by
    simp [Gst.bufferClearTimes, Gst.bufferCopy, Gst.sampleNew]
  have hfresh : Gst.Fresh g (((g.sampleNew sample).bufferCopy sample.buffer).bufferClearTimes (g.next + 1)) :=
    Gst.Fresh.refl.of_misused (by omega) rfl
  unfold pullInto
  cases mount.appSrc with
  | none =>
    refine ⟨?_, (hspares.unref (by omega)).unref (Nat.le_refl _), (hfresh.unref (by omega)).unref ?_,
      (hsample.unref_other (by omega)).unref, hbuffer.unref.unref_other (by omega)⟩
    · rw [Gst.next_unref, Gst.next_unref, hnext]
    · rw [Gst.next_unref, hnext]
      omega
  | some appSrc =>
    refine ⟨?_, hspares.unref (Nat.le_refl _), hfresh.unref (by omega), hsample.unref, hbuffer.unref_other (by omega)⟩
    rw [Gst.next_unref, hnext]

theorem onNewSample_settled {a : Nat} (h : b.mountAlive a = true) (sink : Nat) (sample : GstSample) :
    let b' := b.onNewSample sink (some sample) a
    b'.gst.next = b.gst.next + 2 ∧ b.gst.Spares b.gst.next Gst.Nothing b'.gst ∧ Gst.Fresh b.gst b'.gst ∧
      (⟨a, sink, some sample, b.slot a, b.gst.next⟩ : Pull).Settled sample b.gst b'.gst := by
  have hspec := pullInto_spec b.gst sink (some sample)
  obtain ⟨mount, hslot, -, hgst, -⟩ :=
    withMount_spec .onNewSample (pullInto b.gst sink (some sample)) h fun mount => ⟨_, (hspec mount).1⟩
  obtain ⟨hnext, hspares, hfresh, hsample, hcopy⟩ := pullInto_settled b.gst sink sample mount
  intro b'
  rw [show b'.gst = _ from hgst, hslot]
  exact ⟨hnext, hspares, hfresh, hsample, hcopy⟩

/-- Only pulls are logged. -/
theorem Apart.step_log (h : b.Apart) (e : BridgeEvent) :
    (b.step e).log = b.log ++ (b.pullsAt e).flatMap Pull.trace := by
  have halive : ∀ {a f : Nat}, b.factoryOf a = some f → b.mountAlive a = true := fun ha =>
    h.alive _ (RtspProfileServer.lt_of_factoryOf ha)
  cases e with
  | newSample sink pulled =>
    rcases h.step_newSample sink pulled with ⟨heq, hnone⟩ | ⟨a, -, hmount, heq, hone⟩
    · rw [heq, hnone]
      exact (List.append_nil _).symm
    · rw [heq, hone, (onNewSample_alive hmount sink (pulled a)).2.2, List.flatMap_singleton]
      rfl
  | configure f =>
    rcases h.wired.step_configure f with ⟨-, heq⟩ | ⟨a, ha, -, heq⟩
    · rw [heq]
      exact (List.append_nil _).symm
    · obtain ⟨-, -, -, -, -, hlog, -⟩ := onMediaConfigure_alive f (halive ha)
      rw [heq, hlog]
      exact (List.append_nil _).symm
  | prepared i =>
    rcases h.wired.step_prepared i with ⟨-, heq⟩ | ⟨m, a, -, ha, heq⟩
    · rw [heq]
      exact (List.append_nil _).symm
    · rw [heq, (onMediaPrepared_alive (b := b.withMedium i _) (halive ha)).2.2]
      exact (List.append_nil _).symm
  | unprepared i =>
    rcases h.wired.step_unprepared i with ⟨-, heq⟩ | ⟨m, a, -, ha, heq⟩
    · rw [heq]
      exact (List.append_nil _).symm
    · rw [heq, (onMediaUnprepared_alive (b := b.withMedium i _) (halive ha)).2.2]
      exact (List.append_nil _).symm

theorem Apart.step_pulls (h : b.Apart) (e : BridgeEvent) :
    ∀ p ∈ b.pullsAt e, (b.step e).Kept p ∧ p.object = b.gst.next := by
  cases e with
  | newSample sink pulled =>
    rcases h.step_newSample sink pulled with ⟨-, hnone⟩ | ⟨a, ha, hmount, heq, hone⟩
    · rw [hnone]
      intro p hp
      cases hp
    · rw [hone, heq]
      intro p hp
      obtain rfl := List.mem_singleton.mp hp
      have hran := @onNewSample_ran b a sink (pulled a)
      have hfeeds : (b.onNewSample sink (pulled a) a).feeds = b.feeds := by rw [feeds, hran.media]; rfl
      refine ⟨⟨(hran.aligned.sink a).trans ha, fun r hr => ?_, fun sample hsample => ?_⟩, rfl⟩
      · obtain ⟨f, hf, hmem⟩ := h.slot a r hr
        exact ⟨f, (hran.aligned.factory a).trans hf, hfeeds ▸ hmem⟩
      · obtain ⟨hnext, -, -, hsettled⟩ := onNewSample_settled hmount sink sample
        rw [show pulled a = some sample from hsample, hnext]
        exact ⟨Nat.lt_succ_self _, by rw [hsettled.pulled.obj]; rfl, by rw [hsettled.copied.obj]; rfl⟩
  | configure f => exact fun p hp => absurd hp List.not_mem_nil
  | prepared i => exact fun p hp => absurd hp List.not_mem_nil
  | unprepared i => exact fun p hp => absurd hp List.not_mem_nil

/-- The pulls `ps` led to `b`. -/
structure Traced (ps : List Pull) (b : Bridge) : Prop where
  apart : b.Apart
  log : b.log = ps.flatMap Pull.trace
  kept : ∀ p ∈ ps, b.Kept p
  order : ps.Pairwise fun p q => p.sample.isSome = true → p.object + 2 ≤ q.object

theorem Traced.step {ps : List Pull} (h : Traced ps b) (e : BridgeEvent) :
    Traced (ps ++ b.pullsAt e) (b.step e) := by
  obtain ⟨⟨ha, hk, -⟩, hapart⟩ := h.apart.step e
  have hfeeds : ∀ x ∈ b.feeds, x ∈ (b.step e).feeds := by
    intro x hx
    rcases h.apart.step_feeds e with ⟨heq, -⟩ | ⟨a, f, -, heq, -⟩
    · rw [heq]
      exact hx
    · rw [heq]
      exact List.mem_append_left _ hx
  refine ⟨hapart, ?_, fun p hp => ?_, List.pairwise_append.mpr ⟨h.order, ?_, fun p hp q hq hs => ?_⟩⟩
  · rw [h.apart.step_log, h.log, List.flatMap_append]
  · rcases List.mem_append.mp hp with hp | hp
    · exact (h.kept p hp).mono ha hk hfeeds
    · exact (h.apart.step_pulls e p hp).1
  · -- an event pulls at most once
    cases e with
    | newSample sink pulled =>
      rcases h.apart.step_newSample sink pulled with ⟨-, hnone⟩ | ⟨a, -, -, -, hone⟩
      · rw [hnone]
        exact .nil
      · rw [hone]
        exact List.pairwise_singleton ..
    | configure f => exact .nil
    | prepared i => exact .nil
    | unprepared i => exact .nil
  · obtain ⟨sample, hsample⟩ := Option.isSome_iff_exists.mp hs
    have hlt := ((h.kept p hp).copy sample hsample).1
    rw [(h.apart.step_pulls e q hq).2]
    omega

theorem traced_run {b₀ : Bridge} (h : Traced [] b₀) (events : List BridgeEvent) :
    Traced (b₀.pulls events) (run Bridge.step b₀ events) := by
  induction events using List.reverseRecOn with
  | nil => exact h
  | append_singleton events e ih =>
    rw [pulls_concat, run_concat]
    exact ih.step e

/-- The mounts stay what they are. -/
theorem aligned_run (h : b.Apart) (events : List BridgeEvent) : Aligned b (run Bridge.step b events) := by
  have hinv : Aligned b (run Bridge.step b events) ∧ (run Bridge.step b events).Apart := by
    refine run_invariant (P := fun b' => Aligned b b' ∧ b'.Apart) ⟨.refl, h⟩ (fun b' e h' => ?_) events
    obtain ⟨hstepped, hapart⟩ := h'.2.step e
    exact ⟨h'.1.trans hstepped.aligned, hapart⟩
  exact hinv.1

/-! ### The references to samples and buffers -/

theorem configureMount_refs (g : Gst) (a : Nat) (mount : Mount) :
    let g' := (configureMount g.mediaNew g.next a mount).2.1
    Gst.Fresh g g' ∧ g.Spares g.next Gst.Nothing g' := by
  intro g'
  have hg' : g' = ((((g.mediaNew.ref (g.next + 1)).ref (g.next + 2)).unref (g.next + 1)).connect g.next
      ⟨.prepared, .onMediaPrepared, a⟩).connect g.next ⟨.unprepared, .onMediaUnprepared, a⟩ :=
    congrArg (·.2.1) (configureMount_mediaNew g a mount)
  have hfound : Gst.Fresh g ((g.mediaNew.ref (g.next + 1)).ref (g.next + 2)) :=
    Gst.Fresh.mediaNew.of_misused (by simp) rfl
  have hspares : g.Spares g.next Gst.Nothing ((g.mediaNew.ref (g.next + 1)).ref (g.next + 2)) :=
    (Gst.Spares.mediaNew.ref (by omega)).ref (by omega)
  rw [hg']
  constructor
  · refine ((hfound.unref ?_).connect _ _).connect _ _
    rw [Gst.next_ref, Gst.next_ref, g.mediaNew_spec.1]
    omega
  · exact ((hspares.unref (by omega)).connect (Nat.le_refl _) _).connect (Nat.le_refl _) _

/-- An event works on new objects, or gives up what a mount fed. -/
theorem Apart.step_refs (h : b.Apart) (e : BridgeEvent) :
    Gst.Fresh b.gst (b.step e).gst ∧ (b.gst.Spares b.gst.next Gst.Nothing (b.step e).gst ∨
      ∃ x ∈ b.feeds, (b.step e).gst = b.gst.unref x.2) := by
  have hsame : Gst.Fresh b.gst b.gst ∧ (b.gst.Spares b.gst.next Gst.Nothing b.gst ∨
      ∃ x ∈ b.feeds, b.gst = b.gst.unref x.2) := ⟨.refl, .inl (.refl (Nat.le_refl _))⟩
  cases e with
  | newSample sink pulled =>
    rcases h.step_newSample sink pulled with ⟨heq, -⟩ | ⟨a, -, halive, heq, -⟩
    · rw [heq]
      exact hsame
    · rw [heq]
      cases hp : pulled a with
      | none =>
        obtain ⟨mount, -, hrun⟩ := withMount_alive .onNewSample (pullInto b.gst sink none) halive
        rw [onNewSample, hrun]
        exact hsame
      | some sample =>
        obtain ⟨-, hspares, hfresh, -⟩ := onNewSample_settled halive sink sample
        exact ⟨hfresh, .inl hspares⟩
  | configure f =>
    rcases h.wired.step_configure f with ⟨-, heq⟩ | ⟨a, ha, -, heq⟩
    · rw [heq]
      exact hsame
    · have halive : (b.withNewMedium f).mountAlive a = true := h.alive a (RtspProfileServer.lt_of_factoryOf ha)
      obtain ⟨mount, -, hrun⟩ :=
        withMount_alive .onMediaConfigure (configureMount b.gst.mediaNew b.gst.next a) halive
      obtain ⟨hfresh, hspares⟩ := configureMount_refs b.gst a mount
      have hgst : (b.step (.configure f)).gst = (configureMount b.gst.mediaNew b.gst.next a mount).2.1 :=
        (congrArg Bridge.gst heq).trans (congrArg Bridge.gst hrun)
      rw [hgst]
      exact ⟨hfresh, .inl hspares⟩
  | prepared i =>
    rcases h.wired.step_prepared i with ⟨-, heq⟩ | ⟨m, a, -, ha, heq⟩
    · rw [heq]
      exact hsame
    · have halive : (b.withMedium i { m with prepared := true }).mountAlive a = true :=
        h.alive a (RtspProfileServer.lt_of_factoryOf ha)
      obtain ⟨_, -, -, hgst, -⟩ := withMount_spec .onMediaPrepared
        (fun mount => (mount, b.gst, [])) halive fun mount => ⟨_, rfl⟩
      have hgst : (b.step (.prepared i)).gst = b.gst := (congrArg Bridge.gst heq).trans hgst
      rw [hgst]
      exact hsame
  | unprepared i =>
    rcases h.wired.step_unprepared i with ⟨-, heq⟩ | ⟨m, a, -, ha, heq⟩
    · rw [heq]
      exact hsame
    · have halive : (b.withMedium i { m with unprepared := true }).mountAlive a = true :=
        h.alive a (RtspProfileServer.lt_of_factoryOf ha)
      obtain ⟨mount, hm, -, hgst, -⟩ := withMount_spec .onMediaUnprepared
        (fun mount => ({ mount with appSrc := none }, b.gst.clearObject mount.appSrc, [])) halive fun mount => ⟨_, rfl⟩
      have hslot : b.slot a = mount.appSrc := hm
      have hgst : (b.step (.unprepared i)).gst = b.gst.clearObject mount.appSrc := (congrArg Bridge.gst heq).trans hgst
      rw [hgst]
      cases hr : mount.appSrc with
      | none => exact hsame
      | some r =>
        obtain ⟨f, -, hfeed⟩ := h.slot a r (hslot.trans hr)
        exact ⟨Gst.Fresh.refl.unref (h.feed_lt _ hfeed), .inr ⟨(f, r), hfeed, rfl⟩⟩

/-- The objects of a new pull. -/
theorem Apart.step_settled (h : b.Apart) (e : BridgeEvent) :
    ∀ p ∈ b.pullsAt e, ∀ sample, p.sample = some sample → p.Settled sample b.gst (b.step e).gst := by
  cases e with
  | newSample sink pulled =>
    rcases h.step_newSample sink pulled with ⟨-, hnone⟩ | ⟨a, -, halive, heq, hone⟩
    · rw [hnone]
      exact nofun
    · rw [hone, heq]
      intro p hp sample hsample
      obtain rfl := List.mem_singleton.mp hp
      obtain ⟨-, -, -, hsettled⟩ := onNewSample_settled halive sink sample
      rw [show pulled a = some sample from hsample]
      exact ⟨hsettled.pulled, hsettled.copied⟩
  | configure f => exact fun p hp => absurd hp List.not_mem_nil
  | prepared i => exact fun p hp => absurd hp List.not_mem_nil
  | unprepared i => exact fun p hp => absurd hp List.not_mem_nil

/-- The objects of the pulls `ps` in `b` are settled, and no medium is fed by one of them. -/
structure Settles (g₀ : Gst) (ps : List Pull) (b : Bridge) : Prop where
  fresh : Gst.Fresh g₀ b.gst
  settled : ∀ p ∈ ps, ∀ sample, p.sample = some sample → p.Settled sample g₀ b.gst
  apart : ∀ p ∈ ps, p.sample.isSome = true → ∀ x ∈ b.feeds, x.2 ≠ p.object ∧ x.2 ≠ p.object + 1

theorem Settles.step {g₀ : Gst} {ps : List Pull} (h : Settles g₀ ps b) (ht : Traced ps b) (e : BridgeEvent) :
    Settles g₀ (ps ++ b.pullsAt e) (b.step e) := by
  obtain ⟨hfresh, hrefs⟩ := ht.apart.step_refs e
  have hnext : b.gst.next ≤ (b.step e).gst.next := (ht.apart.step e).1.keeps.next_le
  -- what was pulled before is neither new nor fed to a mount
  have hheld : ∀ {x n : Nat} {o : GObject}, Gst.Held g₀ b.gst x n o → (∀ y ∈ b.feeds, y.2 ≠ x) →
      Gst.Held g₀ (b.step e).gst x n o := by
    intro x n o hx hne
    rcases hrefs with hspares | ⟨y, hy, heq⟩
    · exact hx.spares hspares hx.lt
    · rw [heq]
      exact hx.unref_other (hne y hy).symm
  refine ⟨h.fresh.trans hfresh hnext, fun p hp sample hsample => ?_, fun p hp hs x hx => ?_⟩
  · rcases List.mem_append.mp hp with hp | hp
    · obtain ⟨hpulled, hcopied⟩ := h.settled p hp sample hsample
      have hne := h.apart p hp (by rw [hsample]; rfl)
      exact ⟨hheld hpulled fun y hy => (hne y hy).1, hheld hcopied fun y hy => (hne y hy).2⟩
    · obtain ⟨hpulled, hcopied⟩ := ht.apart.step_settled e p hp sample hsample
      have hobject := (ht.apart.step_pulls e p hp).2
      exact ⟨h.fresh.held (by omega) hpulled, h.fresh.held (by omega) hcopied⟩
  · -- the feeds are older than a new pull, and a new feed is newer than an old one
    rcases List.mem_append.mp hp with hp | hp
    · rcases ht.apart.step_feeds e with ⟨hfeeds, -⟩ | ⟨a, f, -, hfeeds, -⟩
      · exact h.apart p hp hs x (hfeeds ▸ hx)
      · rw [hfeeds] at hx
        rcases List.mem_append.mp hx with hx | hx
        · exact h.apart p hp hs x hx
        · obtain ⟨sample, hsample⟩ := Option.isSome_iff_exists.mp hs
          have hlt := ((ht.kept p hp).copy sample hsample).1
          obtain rfl := List.mem_singleton.mp hx
          constructor <;> (simp only; omega)
    · have hobject := (ht.apart.step_pulls e p hp).2
      have hlt : x.2 < b.gst.next := by
        cases e with
        | newSample sink pulled =>
          have hfeeds : (b.step (.newSample sink pulled)).feeds = b.feeds :=
            congrArg (List.map fun m : Medium => (m.factory, m.appSrc)) (@Bridge.step_newSample b sink pulled).1.media
          exact ht.apart.feed_lt x (hfeeds ▸ hx)
        | configure f => cases hp
        | prepared i => cases hp
        | unprepared i => cases hp
      omega

theorem settles_run {b₀ : Bridge} (h : Traced [] b₀) (events : List BridgeEvent) :
    Settles b₀.gst (b₀.pulls events) (run Bridge.step b₀ events) := by
  induction events using List.reverseRecOn with
  | nil => exact ⟨.refl, nofun, nofun⟩
  | append_singleton events e ih =>
    rw [pulls_concat, run_concat]
    exact ih.step (traced_run h events) e

/-! ### Every object is given up once -/

theorem filter_trace_self {p : Pull} (hs : p.sample.isSome = true) :
    p.trace.filter (Action.releases p.object) = [.sampleUnref p.object] ∧
      p.trace.filter (Action.releases (p.object + 1)) = [p.disposal] := by
  obtain ⟨sample, hsample⟩ := Option.isSome_iff_exists.mp hs
  unfold Pull.trace Pull.disposal sampleTrace
  rw [hsample]
  cases p.target with
  | none => simp [Action.releases]
  | some appSrc => simp [Action.releases]

theorem filter_trace_other {p : Pull} {n : Nat} (hn : p.sample.isSome = true → n < p.object ∨ p.object + 2 ≤ n) :
    p.trace.filter (Action.releases n) = [] := by
  unfold Pull.trace sampleTrace
  cases hsample : p.sample with
  | none => simp [Action.releases]
  | some sample =>
    have hne : p.object ≠ n ∧ p.object + 1 ≠ n := by
      have := hn (by rw [hsample]; rfl)
      omega
    cases p.target with
    | none => simp [Action.releases, hne.1, hne.2]
    | some appSrc => simp [Action.releases, hne.1, hne.2]

/-- The objects of a pull are given up by that pull alone. -/
theorem Traced.filter_log {ps : List Pull} (h : Traced ps b) {p : Pull} (hp : p ∈ ps) (hs : p.sample.isSome = true)
    {n : Nat} (hn : n = p.object ∨ n = p.object + 1) :
    b.log.filter (Action.releases n) = p.trace.filter (Action.releases n) := by
  obtain ⟨before, after, rfl⟩ := List.append_of_mem hp
  obtain ⟨-, horder, hbefore⟩ := List.pairwise_append.mp h.order
  obtain ⟨hafter, -⟩ := List.pairwise_cons.mp horder
  have hnone : ∀ qs : List Pull, (∀ q ∈ qs, q.sample.isSome = true → n < q.object ∨ q.object + 2 ≤ n) →
      (qs.flatMap Pull.trace).filter (Action.releases n) = [] := by
    intro qs hqs
    rw [List.filter_flatMap, List.flatMap_eq_nil_iff]
    exact fun q hq => filter_trace_other (hqs q hq)
  rw [h.log, List.flatMap_append, List.flatMap_cons, List.filter_append, List.filter_append, hnone before, hnone after,
    List.append_nil, List.nil_append]
  · intro q hq _
    have := hafter q hq hs
    omega
  · intro q hq hqs
    have := hbefore q hq p (List.mem_cons_self ..) hqs
    omega

end

/-! ### Profiles and mounts -/

/-- The mounts are made for the profiles, in their order, each with the appsink of its own profile. -/
structure Paired (ports : List (Bytes × Option Nat)) (b : Bridge) : Prop where
  sinks : ∀ x ∈ ports, x.2.isSome = true
  name : ∀ a, b.nameOf a = (ports[a]?).map (·.1)
  sink : ∀ a, b.sinkOf a = (ports[a]?).bind (·.2)

theorem Paired.congr {ports : List (Bytes × Option Nat)} {b b' : Bridge} (h : Paired ports b) (hs : SameMounts b b') :
    Paired ports b' :=
  ⟨h.sinks, fun a => (hs.name a).trans (h.name a), fun a => (hs.sink a).trans (h.sink a)⟩

theorem Paired.taken {ports : List (Bytes × Option Nat)} {b : Bridge} (h : Paired ports b) {x : Bytes × Option Nat}
    (hx : x ∈ ports) : ∃ a r, b.nameOf a = some x.1 ∧ x.2 = some r ∧ b.sinkOf a = some r := by
  obtain ⟨a, ha⟩ := List.mem_iff_getElem?.mp hx
  obtain ⟨r, hr⟩ := Option.isSome_iff_exists.mp (h.sinks x hx)
  exact ⟨a, r, by rw [h.name, ha]; rfl, hr, by rw [h.sink, ha]; exact hr⟩

/-- Each profile of the host has a mount, and each mount took the appsink of the profile it was made for. -/
structure Mounted (h : ProfileHost) (b : Bridge) : Prop where
  taken : ∀ p ∈ h.profiles, ∃ a r, b.nameOf a = some p.name ∧ h.appSinkForProfile p.name = some r ∧
    b.sinkOf a = some r
  made : ∀ a name, b.nameOf a = some name → (∃ p ∈ h.profiles, p.name = name) ∧
    b.sinkOf a = h.appSinkForProfile name

theorem Paired.mounted {h : ProfileHost} {b : Bridge} (hp : Paired h.ports b) (hnames : (h.ports.map (·.1)).Nodup) :
    Mounted h b := by
  have hsink : ∀ x ∈ h.profileBins, h.appSinkForProfile x.profile.name = x.appSink := by
    intro x hx
    rw [ProfileHost.ports, List.map_map] at hnames
    rw [ProfileHost.appSinkForProfile, ProfileHost.find_of_names hnames hx]
    rfl
  refine ⟨fun p hmem => ?_, fun a name ha => ?_⟩
  · obtain ⟨x, hx, rfl⟩ := List.mem_map.mp hmem
    obtain ⟨a, r, hname, hr, ha⟩ := hp.taken (x := (x.profile.name, x.appSink)) (List.mem_map_of_mem hx)
    exact ⟨a, r, hname, (hsink x hx).trans hr, ha⟩
  · rw [hp.name] at ha
    obtain ⟨port, hport, rfl⟩ := Option.map_eq_some_iff.mp ha
    obtain ⟨x, hx, rfl⟩ := List.mem_map.mp (List.mem_of_getElem? hport)
    exact ⟨⟨x.profile, List.mem_map_of_mem hx, rfl⟩, by rw [hp.sink, hport]; exact (hsink x hx).symm⟩

/-- The appsink that a mount took is the one of its profile, and of no other. -/
theorem Mounted.profile {h : ProfileHost} {b : Bridge} (hm : Mounted h b) (hapart : b.Apart) {a sink : Nat}
    (ha : b.sinkOf a = some sink) : ∃ name, b.nameOf a = some name ∧ h.appSinkForProfile name = some sink ∧
      ∀ p ∈ h.profiles, h.appSinkForProfile p.name = some sink → p.name = name := by
  obtain ⟨c, hc, -⟩ := Option.bind_eq_some_iff.mp ha
  have hname : b.nameOf a = some c.mount.name := by rw [nameOf, hc]; rfl
  refine ⟨c.mount.name, hname, (hm.made a _ hname).2.symm.trans ha, fun p hp hsink => ?_⟩
  obtain ⟨a', r, hname', hr, ha'⟩ := hm.taken p hp
  obtain rfl : r = sink := Option.some.inj (hr.symm.trans hsink)
  obtain rfl := hapart.sink_inj a' a r ha' ha
  exact Option.some.inj (hname'.symm.trans hname)

/-- The samples of the host `h` in a run from `b₀`. -/
structure Routed (h : ProfileHost) (b₀ : Bridge) (events : List BridgeEvent) : Prop where
  /-- Each profile has a mount, which took the appsink of that profile. -/
  mounted : Mounted h (run Bridge.step b₀ events)
  /-- An appsink that emits is pulled from once, for the mount that took it. -/
  pulled : ∀ a sink, (run Bridge.step b₀ events).sinkOf a = some sink →
    (run Bridge.step b₀ events).gst.alive sink = true → ∀ pulled,
    (run Bridge.step b₀ events).pullsAt (.newSample sink pulled) =
      [⟨a, sink, pulled a, (run Bridge.step b₀ events).slot a, (run Bridge.step b₀ events).gst.next⟩]
  /-- In the order of the pulls, each is pushed, right after its caps are set, or dropped. -/
  log : (run Bridge.step b₀ events).log = (b₀.pulls events).flatMap Pull.trace
  /-- What is pushed is the copy of the sample, without times. -/
  copy : ∀ p ∈ b₀.pulls events, ∀ sample, p.sample = some sample →
    ((run Bridge.step b₀ events).gst.obj p.object).bind (·.sample) = some sample ∧
      ((run Bridge.step b₀ events).gst.obj (p.object + 1)).bind (·.buffer) = some sample.buffer.timeless
  /-- The sample and the copy are given up once. -/
  once : ∀ p ∈ b₀.pulls events, p.sample.isSome = true →
    (run Bridge.step b₀ events).log.filter (Action.releases p.object) = [.sampleUnref p.object] ∧
      (run Bridge.step b₀ events).log.filter (Action.releases (p.object + 1)) = [p.disposal]
  /-- In the heap too: nothing is left of the sample, nor of the copy but the reference the appsrc was handed. -/
  settled : ∀ p ∈ b₀.pulls events, ∀ sample, p.sample = some sample →
    p.Settled sample b₀.gst (run Bridge.step b₀ events).gst
  /-- A sample that is fed to a medium comes from the appsink of the mount of that medium, which no other mount
  took, and which is the one of the profile of that mount, and of no other profile. -/
  own : ∀ p ∈ b₀.pulls events, ∀ m ∈ (run Bridge.step b₀ events).media, p.target = some m.appSrc → ∀ a,
    (run Bridge.step b₀ events).factoryOf a = some m.factory →
    p.address = a ∧ (run Bridge.step b₀ events).sinkOf a = some p.sink ∧
      (∀ a', (run Bridge.step b₀ events).sinkOf a' = some p.sink → a' = a) ∧
      ∃ name, (run Bridge.step b₀ events).nameOf a = some name ∧ h.appSinkForProfile name = some p.sink ∧
        ∀ q ∈ h.profiles, h.appSinkForProfile q.name = some p.sink → q.name = name

theorem Traced.routed {h : ProfileHost} {b₀ : Bridge} (h0 : Traced [] b₀) (hp : Paired h.ports b₀)
    (hnames : (h.ports.map (·.1)).Nodup) (events : List BridgeEvent) : Routed h b₀ events := by
  have ht := traced_run h0 events
  have hmounted : Mounted h (run Bridge.step b₀ events) :=
    (hp.congr (aligned_run h0.apart events).toSameMounts).mounted hnames
  refine ⟨hmounted, fun a sink ha halive pulled => ?_, ht.log, fun p hp sample hs => ?_, fun p hp hs => ?_,
    (settles_run h0 events).settled, fun p hp m hm htarget a ha => ?_⟩
  · rw [pullsAt, if_pos halive, ht.apart.boundTo ha]
    rfl
  · exact ((ht.kept p hp).copy sample hs).2
  · rw [ht.filter_log hp hs (.inl rfl), ht.filter_log hp hs (.inr rfl)]
    exact filter_trace_self hs
  · obtain ⟨f, hf, hmem⟩ := (ht.kept p hp).target m.appSrc htarget
    obtain rfl : f = m.factory := ht.apart.feed_inj f m.factory m.appSrc hmem (List.mem_map.mpr ⟨m, hm, rfl⟩)
    obtain rfl : p.address = a := ht.apart.wired.eq_of_factory hf ha
    have hown := (ht.kept p hp).own
    exact ⟨rfl, hown, fun a' ha' => ht.apart.sink_inj a' p.address p.sink ha' hown, hmounted.profile ht.apart hown⟩

end Bridge

namespace RtspProfileServer
open Bridge

section
variable {h : ProfileHost} {g : Gst} (port : UInt16)

theorem construct_sinkOf (hp : h.Ported g) (a : Nat) :
    (construct port h { gst := g }).2.sinkOf a = (h.ports[a]?).bind (·.2) := by
  obtain ⟨-, hmounts, -⟩ := construct_spec port h { gst := g }
  rw [sinkOf, hmounts, List.nil_append, newMounts, List.getElem?_mapIdx, ProfileHost.profiles, ProfileHost.ports,
    List.getElem?_map, List.getElem?_map]
  cases hb : h.profileBins[a]? with
  | none => rfl
  | some b => exact hp.appSink (List.mem_of_getElem? hb)

theorem construct_apart (hp : h.Ported g) : (construct port h { gst := g }).2.Apart := by
  obtain ⟨-, hmounts, hmedia, -⟩ := construct_spec port h { gst := g }
  have hcell : ∀ {a : Nat} {c : MountCell}, (construct port h { gst := g }).2.mounts[a]? = some c →
      c.mount.appSrc = none ∧ c.freed = false := by
    intro a c hc
    rw [hmounts, List.nil_append] at hc
    exact of_mem_newMounts (List.mem_of_getElem? hc)
  have hfeeds : (construct port h { gst := g }).2.feeds = [] := by rw [feeds, hmedia]; rfl
  refine ⟨construct_wired port h (wired_of_empty rfl rfl), fun a ha => ?_, fun a r hr => ?_, fun a a' r hr hr' => ?_,
    by rw [hfeeds]; simp, by rw [hfeeds]; simp, fun a r hr => ?_⟩
  · rw [mountAlive, List.getElem?_eq_getElem ha]
    simp [(hcell (List.getElem?_eq_getElem ha)).2]
  · rw [construct_sinkOf port hp] at hr
    obtain ⟨x, hx, hr⟩ := Option.bind_eq_some_iff.mp hr
    obtain ⟨r', hr', hlt, hh⟩ := hp.sinks x (List.mem_of_getElem? hx)
    obtain rfl : r' = r := Option.some.inj (hr'.symm.trans hr)
    exact construct_sinkWired port h ⟨hlt, hh⟩
  · rw [construct_sinkOf port hp] at hr hr'
    obtain ⟨x, hx, hr⟩ := Option.bind_eq_some_iff.mp hr
    obtain ⟨x', hx', hr'⟩ := Option.bind_eq_some_iff.mp hr'
    have hlt : a < (h.ports.map (·.2)).length := by
      rw [List.length_map]
      exact (List.getElem?_eq_some_iff.mp hx).1
    have hsame : (h.ports.map (·.2))[a]? = (h.ports.map (·.2))[a']? := by
      rw [List.getElem?_map, List.getElem?_map, hx, hx', Option.map_some, Option.map_some, hr, hr']
    exact (List.getElem?_inj hlt hp.apart).mp hsame
  · obtain ⟨c, hc, hslot⟩ := Option.bind_eq_some_iff.mp hr
    rw [(hcell hc).1] at hslot
    cases hslot

theorem construct_paired (hp : h.Ported g) : Paired h.ports (construct port h { gst := g }).2 := by
  obtain ⟨-, hmounts, -⟩ := construct_spec port h { gst := g }
  refine ⟨fun x hx => ?_, fun a => ?_, construct_sinkOf port hp⟩
  · obtain ⟨r, hr, -⟩ := hp.sinks x hx
    rw [hr]
    rfl
  · rw [nameOf, hmounts, List.nil_append, newMounts, List.getElem?_mapIdx, ProfileHost.profiles, ProfileHost.ports,
      List.getElem?_map, List.getElem?_map]
    cases h.profileBins[a]? <;> rfl

end

/-- The samples of a host that was set up all go where they should, whatever the host was told in
between and however the appsinks, the factories and the media interleave. -/
theorem newSample_routed (faults : SetupFaults) (h : ProfileHost) (g : Gst)
    (hok : (ProfileHost.setupPipeline faults h g).1.ok = true) (before : List HostEvent) (port : UInt16)
    (events : List BridgeEvent) :
    let s := run ProfileHost.handle (ProfileHost.setupPipeline faults h g).2 before
    Routed s.1 (construct port s.1 { gst := s.2 }).2 events := by
  intro s
  obtain ⟨ns, hready⟩ := ProfileHost.setupPipeline_ready hok
  have hp : s.1.Ported s.2 := hready.ported.run before
  have h0 : Traced [] (construct port s.1 { gst := s.2 }).2 :=
    ⟨construct_apart port hp, (construct_spec port s.1 { gst := s.2 }).2.2.2.2, by simp, .nil⟩
  exact h0.routed (construct_paired port hp) hp.names events

/-- One profile: a viewer comes, a sample is pushed to it, the viewer leaves, a sample is dropped. -/
theorem newSample_routed_hd :
    let h := ((ProfileHost.new [{ name := ascii "hd" }]).setVideoSource (some .TestVideoSource)).2
    let faults : SetupFaults := ⟨fun _ => false, fun _ _ => false⟩
    let s := run ProfileHost.handle (ProfileHost.setupPipeline faults h .init).2 [.play false]
    let sample : GstSample := ⟨ascii "video/x-h264", ⟨some 1, some 1, some 2, [0]⟩⟩
    (ProfileHost.setupPipeline faults h .init).1.ok = true ∧
      Routed s.1 (construct 8554 s.1 { gst := s.2 }).2
        [.configure 15, .newSample 8 fun _ => some sample, .unprepared 0, .newSample 8 fun _ => some sample] := by
  intro h faults s sample
  have hok : (ProfileHost.setupPipeline faults h .init).1.ok = true := by decide +kernel
  exact ⟨hok, newSample_routed faults h .init hok [.play false] 8554 _⟩

end RtspProfileServer

end CameraPlatform
