import CameraPlatform.BridgeSetup

/-!
# Which medium a mount feeds

The slot of a mount is meant to hold the appsrc of the last configured medium that is still
served. It does as long as a medium is the only one its mount serves when it is unprepared.
-/

namespace CameraPlatform
open ByteString RefHeap History

namespace Bridge

/-- The appsrcs of the media of the mount that were configured and not yet unprepared, in order. -/
def served (b : Bridge) (a : Nat) : List Nat :=
  (b.media.filter fun m => b.factoryOf a = some m.factory ∧ m.unprepared = false).map (·.appSrc)

/-- The mount feeds the newest medium it serves. -/
def Feeds (b : Bridge) (a : Nat) : Prop := b.slot a = (b.served a).getLast?

instance (b : Bridge) (a : Nat) : Decidable (b.Feeds a) := inferInstanceAs (Decidable (_ = _))

/-- When a medium is unprepared, no other medium of its factory is still served. -/
def LastServed (b : Bridge) : BridgeEvent → Prop
  | .unprepared i => ∀ m, b.Unprepares i m → ∀ j m', b.media[j]? = some m' → m'.factory = m.factory →
      m'.unprepared = false → j = i
  | _ => True

section
variable {b : Bridge}

theorem map_filter_set {α β : Type} {p : α → Bool} {f : α → β} {l : List α} {i : Nat} {x y : α} (hi : l[i]? = some x)
    (hp : p y = p x) (hf : f y = f x) : ((l.set i y).filter p).map f = (l.filter p).map f := by
  induction l generalizing i with
  | nil => cases hi
  | cons a l ih =>
    cases i with
    | zero =>
      obtain rfl : a = x := by simpa using hi
      by_cases hx : p a = true <;> simp [hp, hf, hx]
    | succ i =>
      have := ih (i := i) (by simpa using hi)
      by_cases ha : p a = true <;> simp [ha, this]

theorem served_congr {b' : Bridge} (ha : Aligned b b') (hm : b'.media = b.media) (a : Nat) :
    b'.served a = b.served a := by
  unfold served
  rw [hm, ha.factory]

/-- A signal that does not end a medium of the mount. -/
theorem served_set {b' : Bridge} {i : Nat} {m m' : Medium} (ha : Aligned b b') (hi : b.media[i]? = some m)
    (hm : b'.media = b.media.set i m') (hfactory : m'.factory = m.factory) (happ : m'.appSrc = m.appSrc) {a : Nat}
    (hun : m'.unprepared = m.unprepared ∨ b.factoryOf a ≠ some m.factory) : b'.served a = b.served a := by
  unfold served
  rw [hm]
  simp only [ha.factory]
  refine map_filter_set hi ?_ happ
  rcases hun with hun | hne
  · rw [hfactory, hun]
  · rw [hfactory]
    simp [hne]

theorem served_configure {b' : Bridge} {f : Nat} (ha : Aligned b b') (hm : b'.media = b.media ++ [b.newMedium f])
    (a : Nat) : b'.served a = b.served a ++ if b.factoryOf a = some f then [b.gst.next + 2] else [] := by
  unfold served
  rw [hm, List.filter_append, List.map_append]
  simp only [ha.factory]
  by_cases hf : b.factoryOf a = some f <;> simp [hf, newMedium]

/-- The last medium of a mount is gone. -/
theorem served_eq_nil_iff {a : Nat} :
    b.served a = [] ↔ ∀ m ∈ b.media, b.factoryOf a = some m.factory → m.unprepared = true := by
  simp [served]

/-- All mounts are there and feed what they should. -/
structure Feeding (b : Bridge) : Prop where
  wired : b.Wired
  alive : ∀ a f, b.factoryOf a = some f → b.mountAlive a = true
  feeds : ∀ a, b.Feeds a

theorem Feeding.unprepared (h : b.Feeding) (i : Nat) :
    (∀ a, (b.step (.unprepared i)).Feeds a) ↔ b.LastServed (.unprepared i) := by
  rcases h.wired.step_unprepared i with ⟨hno, heq⟩ | ⟨m, a, hm, ha, heq⟩
  · rw [heq]
    exact iff_of_true h.feeds fun m hm => absurd hm (hno m)
  · obtain ⟨haligned, -, hmedia⟩ := (onMediaUnprepared_ran (b := b.withMedium i _) (a := a)).withMedium
    obtain ⟨-, hslot, -⟩ := onMediaUnprepared_alive (b := b.withMedium i { m with unprepared := true })
      (show b.mountAlive a = true from h.alive a _ ha)
    rw [← heq] at haligned hmedia hslot
    have hiff : (b.step (.unprepared i)).served a = [] ↔ b.LastServed (.unprepared i) := by
      rw [served_eq_nil_iff, hmedia, haligned.factory, ha]
      constructor
      · intro hall m' hm' j x hj hx hserved
        obtain rfl := Option.some.inj (hm.1.symm.trans hm'.1)
        by_contra hne
        have := hall x (List.mem_of_getElem? (by rw [List.getElem?_set_ne (Ne.symm hne)]; exact hj)) (by rw [hx])
        rw [hserved] at this
        cases this
      · intro hlast x hx hfactory
        obtain ⟨j, hj⟩ := List.mem_iff_getElem?.mp hx
        rw [List.getElem?_set] at hj
        split at hj
        · split at hj
          · obtain rfl := Option.some.inj hj
            rfl
          · cases hj
        · next hne =>
          by_contra hserved
          exact hne (hlast m hm j x hj (Option.some.inj hfactory).symm (by simpa using hserved)).symm
    rw [← hiff]
    constructor
    · intro hfeeds
      have := hfeeds a
      rw [Feeds, hslot, if_pos rfl] at this
      exact List.getLast?_eq_none_iff.mp this.symm
    · intro hnil x
      rw [Feeds, hslot]
      split
      · next hx => rw [hx, hnil]; rfl
      · next hx =>
        -- the other mounts have other factories
        have hne : b.factoryOf x ≠ some m.factory := fun hx' => hx (h.wired.eq_of_factory hx' ha)
        rw [served_set haligned hm.1 hmedia rfl rfl (.inr hne)]
        exact h.feeds x

/-- Only `unprepared` can make a mount feed the wrong appsrc. -/
theorem Feeding.step (h : b.Feeding) (event : BridgeEvent) :
    (∀ a, (b.step event).Feeds a) ↔ b.LastServed event := by
  cases event with
  | newSample sink pulled =>
    obtain ⟨hran, hslot⟩ := @step_newSample b sink pulled
    refine iff_of_true (fun a => ?_) trivial
    rw [Feeds, hslot, served_congr hran.aligned hran.media]
    exact h.feeds a
  | configure f =>
    refine iff_of_true (fun a => ?_) trivial
    rcases h.wired.step_configure f with ⟨-, heq⟩ | ⟨a', ha', -, heq⟩
    · rw [heq]; exact h.feeds a
    · obtain ⟨haligned, -, hmedia, -, hslot, -⟩ := onMediaConfigure_alive f (h.alive a' f ha')
      rw [heq, Feeds, hslot, served_configure haligned hmedia]
      by_cases hx : a = a'
      · rw [if_pos hx, hx, if_pos ha', List.getLast?_concat]
      · have hne : b.factoryOf a ≠ some f := fun ha => hx (h.wired.eq_of_factory ha ha')
        rw [if_neg hx, if_neg hne, List.append_nil]
        exact h.feeds a
  | prepared i =>
    refine iff_of_true (fun a => ?_) trivial
    rcases h.wired.step_prepared i with ⟨-, heq⟩ | ⟨m, a', hm, ha', heq⟩
    · rw [heq]; exact h.feeds a
    · obtain ⟨haligned, -, hmedia⟩ := (onMediaPrepared_ran (b := b.withMedium i { m with prepared := true })
        (a := a')).withMedium
      obtain ⟨-, hslot, -⟩ := onMediaPrepared_alive (b := b.withMedium i { m with prepared := true })
        (show b.mountAlive a' = true from h.alive a' _ ha')
      rw [heq, Feeds, hslot, served_set haligned hm.1 hmedia rfl rfl (.inl rfl)]
      exact h.feeds a
  | unprepared i => exact h.unprepared i

theorem Feeding.step_feeding (h : b.Feeding) (event : BridgeEvent) (hl : b.LastServed event) :
    (b.step event).Feeding := by
  obtain ⟨haligned, -, hwired⟩ := h.wired.step event fun f _ _ a ha => h.alive a f ha
  refine ⟨hwired, fun a f ha => ?_, (h.step event).mpr hl⟩
  rw [haligned.alive]
  exact h.alive a f (haligned.factory a ▸ ha)

end

end Bridge

namespace RtspProfileServer
open Bridge

theorem construct_feeding (port : UInt16) (h : ProfileHost) (g : Gst) :
    (construct port h { gst := g }).2.Feeding := by
  obtain ⟨-, hmounts, hmedia, -⟩ := construct_spec port h { gst := g }
  have hcell : ∀ c ∈ (construct port h { gst := g }).2.mounts, c.mount.appSrc = none ∧ c.freed = false := by
    intro c hc
    rw [hmounts, List.nil_append] at hc
    exact of_mem_newMounts hc
  refine ⟨construct_wired port h (wired_of_empty rfl rfl), fun a f ha => ?_, fun a => ?_⟩
  · obtain ⟨c, hc, -⟩ := Option.bind_eq_some_iff.mp ha
    rw [mountAlive, hc]
    simp [(hcell c (List.mem_of_getElem? hc)).2]
  · have hslot : (construct port h { gst := g }).2.slot a = none := by
      unfold slot
      cases hc : (construct port h { gst := g }).2.mounts[a]? with
      | none => rfl
      | some c => exact (hcell c (List.mem_of_getElem? hc)).1
    rw [Feeds, hslot, served, hmedia]
    rfl

/-- A mount feeds the newest medium it serves, in every state of a run, if and only if no medium is
unprepared while its mount serves another one. -/
theorem appSrc_newest_iff (port : UInt16) (h : ProfileHost) (g : Gst) (events : List BridgeEvent) :
    Throughout Bridge.step (fun b => ∀ a, b.Feeds a) (construct port h { gst := g }).2 events ↔
      Along Bridge.step LastServed (construct port h { gst := g }).2 events :=
  throughout_iff_along (fun _ hb => hb.feeds) (fun _ event hb => hb.step event)
    (fun _ event hb hl => hb.step_feeding event hl) (construct_feeding port h g) events

/-- Two media of one factory, of which the first is unprepared: the second gets no more samples. -/
theorem appSrc_newest_lost :
    let h := ProfileHost.new [{ name := ascii "hd" }]
    ¬ Throughout Bridge.step (fun b => ∀ a, b.Feeds a) (construct 8554 h { gst := Gst.init }).2
        [.configure 2, .configure 2, .unprepared 0] := by
  intro h hfeeds
  exact absurd (hfeeds.run 0) (by decide)

end RtspProfileServer

end CameraPlatform
