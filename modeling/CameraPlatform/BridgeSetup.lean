import CameraPlatform.BridgeWiring

/-!
# What the constructor of `RtspProfileServer` connects

Each profile gets a mount with a factory of its own, and the appsink of the profile calls the new
mount after those that took it before.
-/

namespace CameraPlatform
open ByteString RefHeap History

namespace Bridge
variable {b : Bridge}

/-- The appsink calls the mounts that took it, in order. -/
def SinkWired (b : Bridge) (sink : Nat) : Prop :=
  sink < b.gst.next ∧ b.gst.handlersOf sink .newSample = (b.boundTo sink).map fun a => ⟨.newSample, .onNewSample, a⟩

theorem SinkWired.congr {b' : Bridge} {sink : Nat} (h : b.SinkWired sink) (ha : SameMounts b b')
    (hk : b.gst.SameHandlers b'.gst) : b'.SinkWired sink :=
  ⟨Nat.lt_of_lt_of_le h.1 hk.next_le, by rw [hk.handlers h.1, h.2, ha.boundTo]⟩

end Bridge

namespace RtspProfileServer
open Bridge

section
variable {b : Bridge} (h : ProfileHost) (mountPoints : Nat) (name : Bytes)

/-- The mount that `addMount` makes. -/
def newMount (b : Bridge) : Mount := { name, appSink := h.appSinkForProfile name, factory := some b.gst.next }

/-- What `addMount` connects to object `x`. -/
def newHandlers (b : Bridge) (x : Nat) (signal : Signal) : List Handler :=
  (if x = b.gst.next ∧ Signal.mediaConfigure = signal then
    [⟨.mediaConfigure, .onMediaConfigure, b.mounts.length⟩] else []) ++
  (if h.appSinkForProfile name = some x ∧ Signal.newSample = signal then
    [⟨.newSample, .onNewSample, b.mounts.length⟩] else [])

theorem addMount_mounts :
    (addMount h mountPoints name b).mounts = b.mounts ++ [{ mount := newMount h name b }] := rfl

theorem addMount_gst :
    (addMount h mountPoints name b).gst.next = b.gst.next + 1 ∧
      ∀ x ≤ b.gst.next, ∀ signal, (addMount h mountPoints name b).gst.handlersOf x signal =
        (if x = b.gst.next then [] else b.gst.handlersOf x signal) ++ newHandlers h name b x signal := by
  have hset : ∀ (g : Gst) (r : Nat) (key : Bytes) (v : GValue) (x : Nat) (signal : Signal),
      (g.setObject r key v).handlersOf x signal = g.handlersOf x signal := fun g r key v x signal =>
    Gst.handlersOf_update (fun _ => by rfl) x signal
  have howner : ∀ (g : Gst) (p r x : Nat) (signal : Signal),
      (g.setOwner p r).handlersOf x signal = g.handlersOf x signal := fun g p r x signal =>
    Gst.handlersOf_congr (Gst.obj_setOwner ..) signal
  have hfresh : ∀ x signal, (b.gst.alloc false { type := ascii "GstRTSPMediaFactory" }).handlersOf x signal =
      if x = b.gst.next then [] else b.gst.handlersOf x signal := by
    intro x signal
    split
    · next hx => rw [hx, Gst.handlersOf_alloc_self]; rfl
    · next hx => exact Gst.handlersOf_congr (by rw [Gst.obj_alloc, if_neg hx]) signal
  unfold addMount newHandlers
  cases h.appSinkForProfile name with
  | none =>
    refine ⟨by simp [Gst.connect], fun x hx signal => ?_⟩
    simp only [howner, hset]
    rw [Gst.handlersOf_connect _ _ (by simp; omega), hset, hset, hfresh]
    simp
  | some sink =>
    refine ⟨by simp [Gst.connect], fun x hx signal => ?_⟩
    simp only [howner, hset]
    rw [Gst.handlersOf_connect _ _ (by simp [Gst.connect]; omega), Gst.handlersOf_connect _ _ (by simp; omega), hset,
      hset, hfresh, List.append_assoc]
    simp only [Option.some_inj, @eq_comm _ x sink]

theorem addMount_get (a : Nat) : (addMount h mountPoints name b).mounts[a]? =
    if a = b.mounts.length then some { mount := newMount h name b } else b.mounts[a]? := by
  rw [addMount_mounts]
  split
  · next ha => rw [ha, List.getElem?_concat_length]
  · next ha =>
    rcases Nat.lt_or_gt_of_ne ha with hlt | hgt
    · exact List.getElem?_append_left hlt
    · rw [List.getElem?_eq_none (by simp; omega), List.getElem?_eq_none (by omega)]

theorem addMount_sinkOf (a : Nat) : (addMount h mountPoints name b).sinkOf a =
    if a = b.mounts.length then h.appSinkForProfile name else b.sinkOf a := by
  rw [sinkOf, addMount_get]; split <;> rfl

theorem addMount_factoryOf (a : Nat) : (addMount h mountPoints name b).factoryOf a =
    if a = b.mounts.length then some b.gst.next else b.factoryOf a := by
  rw [factoryOf, addMount_get]; split <;> rfl

theorem lt_of_factoryOf {a f : Nat} (ha : b.factoryOf a = some f) : a < b.mounts.length := by
  obtain ⟨c, hc, -⟩ := Option.bind_eq_some_iff.mp ha
  exact (List.getElem?_eq_some_iff.mp hc).1

theorem addMount_wired (hw : b.Wired) : (addMount h mountPoints name b).Wired := by
  obtain ⟨hnext, hhandlers⟩ := addMount_gst (b := b) h mountPoints name
  -- an old object keeps its handlers, but for those of new samples
  have hold : ∀ x < b.gst.next, ∀ signal, signal ≠ .newSample →
      (addMount h mountPoints name b).gst.handlersOf x signal = b.gst.handlersOf x signal := by
    intro x hx signal hs
    have hne : ¬ (h.appSinkForProfile name = some x ∧ Signal.newSample = signal) := fun h => hs h.2.symm
    rw [hhandlers x (Nat.le_of_lt hx), newHandlers, if_neg (Nat.ne_of_lt hx), if_neg (fun h => Nat.ne_of_lt hx h.1),
      if_neg hne]
    simp
  refine ⟨fun a f hf => ?_, fun m hm => ?_⟩
  · rw [addMount_factoryOf] at hf
    rw [hnext]
    split at hf
    · next ha =>
      obtain rfl := Option.some.inj hf
      refine ⟨Nat.lt_succ_self _, ?_⟩
      rw [hhandlers _ (Nat.le_refl _), ha]
      simp [newHandlers]
    · obtain ⟨hlt, hh⟩ := hw.factory a f hf
      exact ⟨Nat.lt_succ_of_lt hlt, (hold f hlt _ (by simp)).trans hh⟩
  · obtain ⟨a, hf, hlt, hp, hu⟩ := hw.media m hm
    refine ⟨a, ?_, hnext ▸ Nat.lt_succ_of_lt hlt, (hold _ hlt _ (by simp)).trans hp,
      (hold _ hlt _ (by simp)).trans hu⟩
    rw [addMount_factoryOf, if_neg (Nat.ne_of_lt (lt_of_factoryOf hf)), hf]

theorem addMount_sinkWired {sink : Nat} (hs : b.SinkWired sink) :
    (addMount h mountPoints name b).SinkWired sink := by
  obtain ⟨hnext, hhandlers⟩ := addMount_gst (b := b) h mountPoints name
  obtain ⟨hlt, hh⟩ := hs
  have hbound : (addMount h mountPoints name b).boundTo sink =
      b.boundTo sink ++ if h.appSinkForProfile name = some sink then [b.mounts.length] else [] := by
    unfold boundTo
    rw [addMount_mounts, List.length_append, List.length_singleton, List.range_succ, List.filter_append]
    congr 1
    · refine List.filter_congr fun a ha => ?_
      rw [addMount_sinkOf, if_neg (Nat.ne_of_lt (List.mem_range.mp ha))]
    · rw [List.filter_singleton, addMount_sinkOf, if_pos rfl]
      by_cases hsink : h.appSinkForProfile name = some sink <;> simp [hsink]
  refine ⟨hnext ▸ Nat.lt_succ_of_lt hlt, ?_⟩
  rw [hhandlers sink (Nat.le_of_lt hlt), hh, hbound, newHandlers, if_neg (Nat.ne_of_lt hlt),
    if_neg (fun h => Nat.ne_of_lt hlt h.1), List.map_append]
  by_cases hsink : h.appSinkForProfile name = some sink <;> simp [hsink]

theorem addMounts_concat (profiles : List ProfileInfo) (profile : ProfileInfo) :
    addMounts h mountPoints (profiles ++ [profile]) b =
      addMount h mountPoints profile.name (addMounts h mountPoints profiles b) := by
  simp [addMounts]

/-- The mounts of new factories, which get the addresses from `factory` on. -/
def newMounts (factory : Nat) (profiles : List ProfileInfo) : List MountCell :=
  profiles.mapIdx fun i p =>
    { mount := { name := p.name, appSink := h.appSinkForProfile p.name, factory := some (factory + i) } }

variable {h} in
theorem of_mem_newMounts {factory : Nat} {profiles : List ProfileInfo} {c : MountCell}
    (hc : c ∈ newMounts h factory profiles) : c.mount.appSrc = none ∧ c.freed = false := by
  obtain ⟨i, hi, rfl⟩ := List.mem_mapIdx.mp hc
  exact ⟨rfl, rfl⟩

theorem addMounts_spec (profiles : List ProfileInfo) :
    (addMounts h mountPoints profiles b).mounts = b.mounts ++ newMounts h b.gst.next profiles ∧
      (addMounts h mountPoints profiles b).gst.next = b.gst.next + profiles.length ∧
      (addMounts h mountPoints profiles b).media = b.media ∧
      (addMounts h mountPoints profiles b).dangling = b.dangling ∧
      (addMounts h mountPoints profiles b).log = b.log := by
  induction profiles using List.reverseRecOn with
  | nil => exact ⟨(List.append_nil _).symm, rfl, rfl, rfl, rfl⟩
  | append_singleton profiles profile ih =>
    obtain ⟨hmounts, hnext, hmedia, hdangling, hlog⟩ := ih
    rw [addMounts_concat]
    refine ⟨?_, ?_, hmedia, hdangling, hlog⟩
    · rw [addMount_mounts, hmounts, newMounts, newMounts, List.mapIdx_concat, newMount, hnext, List.append_assoc]
    · rw [(addMount_gst h mountPoints profile.name).1, hnext, List.length_append, List.length_singleton,
        Nat.add_assoc]

/-- A new mount connects handlers, and writes nothing else of the objects that were there. -/
theorem addMount_same {α : Type} {f : GObject → α} (hf : ∀ o handlers, f { o with handlers } = f o) :
    Gst.Same f b.gst (addMount h mountPoints name b).gst := by
  have hset : b.gst.Keeps (((b.gst.alloc false { type := ascii "GstRTSPMediaFactory" }).setObject b.gst.next
      (ascii "launch") (.string launch)).setObject b.gst.next (ascii "shared") (.boolean true)) :=
    ((Gst.Keeps.refl.alloc _ _).setObject (Nat.le_refl _) _ _).setObject (Nat.le_refl _) _ _
  have hpath : ∀ {g : Gst}, Gst.Same f b.gst g →
      Gst.Same f b.gst ((g.setObject b.gst.next (ascii "path") (.string (cStr (ascii "/" ++ name)))).setOwner
        mountPoints b.gst.next) := by
    intro g hg
    refine Gst.Same.keeps ⟨by simpa using hg.next_le, fun {x} hx => ?_⟩ (Gst.Keeps.refl.setOwner _ _)
    rw [Gst.setObject, Gst.obj_update, if_neg (Nat.ne_of_lt hx)]
    exact hg.read hx
  unfold addMount
  cases h.appSinkForProfile name with
  | none => exact hpath (hset.same.update _ fun _ => hf ..)
  | some sink => exact hpath ((hset.same.update _ fun _ => hf ..).update _ fun _ => hf ..)

/-- What each new mount keeps, all of them keep. -/
theorem addMounts_invariant (P : Bridge → Prop) (h0 : P b)
    (hstep : ∀ b name, P b → P (addMount h mountPoints name b)) (profiles : List ProfileInfo) :
    P (addMounts h mountPoints profiles b) := by
  induction profiles using List.reverseRecOn with
  | nil => exact h0
  | append_singleton profiles profile ih => rw [addMounts_concat]; exact hstep _ _ ih

end

section Construct
variable (port : UInt16) (h : ProfileHost) (b : Bridge)

/-- The bridge when the loop of the constructor starts. -/
def withServer : Bridge := { b with gst := (serverNew port b.gst).ref (b.gst.next + 1) }

/-- The bridge when it ends. -/
def withMounts : Bridge := addMounts h (b.gst.next + 1) h.profiles (withServer port b)

theorem keeps_withServer : b.gst.Keeps (withServer port b).gst :=
  (((((Gst.Keeps.refl.alloc _ _).alloc _ _).setOwner _ _).refSink _).update (Nat.le_refl _) _).ref _

theorem aligned_withServer : Aligned b (withServer port b) := .of_mounts rfl

theorem withServer_next : (withServer port b).gst.next = b.gst.next + 2 := by
  simp [withServer, serverNew]

theorem construct_spec :
    (construct port h b).1 =
        { port, server := some b.gst.next, mounts := List.range' b.mounts.length h.profiles.length } ∧
      (construct port h b).2.mounts = b.mounts ++ newMounts h (b.gst.next + 2) h.profiles ∧
      (construct port h b).2.media = b.media ∧ (construct port h b).2.dangling = b.dangling ∧
      (construct port h b).2.log = b.log := by
  obtain ⟨hmounts, -, hmedia, hdangling, hlog⟩ :=
    @addMounts_spec (withServer port b) h (b.gst.next + 1) h.profiles
  rw [withServer_next] at hmounts
  exact ⟨rfl, hmounts, hmedia, hdangling, hlog⟩

theorem aligned_unref : Aligned (withMounts port h b) (construct port h b).2 ∧
    (withMounts port h b).gst.SameHandlers (construct port h b).2.gst :=
  ⟨.of_mounts rfl, (Gst.Keeps.refl.unref _).same⟩

theorem construct_same {α : Type} {f : GObject → α} (hf : ∀ o handlers, f { o with handlers } = f o) :
    Gst.Same f b.gst (construct port h b).2.gst := by
  have hmounts : Gst.Same f b.gst (withMounts port h b).gst :=
    addMounts_invariant h _ (fun b' => Gst.Same f b.gst b'.gst) (keeps_withServer port b).same
      (fun b' name hb => hb.trans (addMount_same h _ name hf)) h.profiles
  exact hmounts.keeps (Gst.Keeps.refl.unref _)

variable {b}

theorem construct_wired (hw : b.Wired) : (construct port h b).2.Wired := by
  have hsame := (aligned_withServer port b).toSameMounts
  have hserver : (withServer port b).Wired := hw.congr hsame (keeps_withServer port b).same fun m hm =>
    (hw.media m hm).congr hsame (keeps_withServer port b).same
  have hmounts : (withMounts port h b).Wired :=
    addMounts_invariant h _ Wired hserver (fun _ name => addMount_wired h _ name) h.profiles
  obtain ⟨ha, hk⟩ := aligned_unref port h b
  exact hmounts.congr ha.toSameMounts hk fun m hm => (hmounts.media m hm).congr ha.toSameMounts hk

theorem construct_sinkWired {sink : Nat} (hs : b.SinkWired sink) : (construct port h b).2.SinkWired sink := by
  have hserver : (withServer port b).SinkWired sink :=
    hs.congr (aligned_withServer port b).toSameMounts (keeps_withServer port b).same
  obtain ⟨ha, hk⟩ := aligned_unref port h b
  have hmounts : (withMounts port h b).SinkWired sink :=
    addMounts_invariant h _ (SinkWired · sink) hserver (fun _ name => addMount_sinkWired h _ name) h.profiles
  exact hmounts.congr ha.toSameMounts hk

/-- With no mounts yet, nothing has to be connected. -/
theorem wired_of_empty (hmounts : b.mounts = []) (hmedia : b.media = []) : b.Wired := by
  refine ⟨fun a f hf => ?_, fun m hm => ?_⟩
  · rw [factoryOf, hmounts] at hf
    cases hf
  · rw [hmedia] at hm
    cases hm

end Construct

end RtspProfileServer

end CameraPlatform
