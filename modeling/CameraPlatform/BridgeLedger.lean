import CameraPlatform.Base.RefLedger
import CameraPlatform.MediaSlots
import CameraPlatform.System
import Mathlib.Data.List.Perm.Basic

/-!
# The references of the bridge

`g₀.Books g held` accounts for all references to the objects made since `g₀`: an owner has one, and
the others are listed. The slots of the mounts are on that list, and so are the two references the
constructor leaves the server with, of which the destructor drops one.
-/

namespace CameraPlatform
open ByteString RefHeap History

namespace Gst

/-- Every reference to an object made since `g₀` is that of an owner or is listed. -/
structure Books (g₀ g : Gst) (held : List Nat) : Prop where
  ledger : Heap.Ledger (fun _ : GObject => True) g₀.heap g.heap held

namespace Books
variable {g₀ g g' : Gst} {held held' : List Nat} {p r : Nat}

theorem tracked (hr : g₀.next ≤ r) : g.heap.Tracked (fun _ => True) g₀.heap.next r := ⟨hr, fun _ _ => trivial⟩

theorem refl : g₀.Books g₀ [] := ⟨.refl⟩

theorem le (h : g₀.Books g held) : g₀.next ≤ g.next := h.ledger.next_le

theorem perm (h : g₀.Books g held) (hperm : held.Perm held') : g₀.Books g held' := ⟨h.ledger.perm hperm⟩

/-- What is counted outside the heap does not matter. -/
theorem heap (h : g₀.Books g held) (heq : g'.heap = g.heap) : g₀.Books g' held := ⟨heq ▸ h.ledger⟩

theorem refs (h : g₀.Books g held) (hr : g₀.next ≤ r) :
    g.heap.refs r = held.count r + (g.owner r).isSome.toNat := h.ledger.refs r (tracked hr)

theorem pos (h : g₀.Books g held) (hr : g₀.next ≤ r) (hmem : r ∈ held) : 0 < g.heap.refs r :=
  h.ledger.pos hmem (tracked hr)

theorem alloc (h : g₀.Books g held) (fl : Bool) (o : GObject) : g₀.Books (g.alloc fl o) (g.next :: held) :=
  ⟨h.ledger.alloc fl trivial⟩

theorem ref (h : g₀.Books g held) (hr : r < g.next) : g₀.Books (g.ref r) (r :: held) := ⟨h.ledger.ref hr⟩

theorem unref (h : g₀.Books g (r :: held)) : g₀.Books (g.unref r) held := ⟨h.ledger.unref⟩

theorem clearObject {o : Option Nat} (h : g₀.Books g (o.toList ++ held)) : g₀.Books (g.clearObject o) held := by
  cases o with
  | none => exact h
  | some r => exact h.unref

theorem update (h : g₀.Books g held) (r : Nat) (f : GObject → GObject) : g₀.Books (g.update r f) held :=
  ⟨h.ledger.update r fun _ => Iff.rfl⟩

theorem refSink_floating (h : g₀.Books g held) (hr : r < g.next) (hfl : g.heap.floating r = true) :
    g₀.Books (g.refSink r) held := ⟨h.ledger.refSink_floating hr hfl⟩

theorem refSink_sunk (h : g₀.Books g held) (hr : r < g.next) (hfl : g.heap.floating r = false) :
    g₀.Books (g.refSink r) (r :: held) := ⟨h.ledger.refSink_sunk hr hfl⟩

theorem setOwner (h : g₀.Books g (r :: held)) (hp : g₀.next ≤ p) (hne : p ≠ r) (hfree : g.owner r = none)
    (hpos : 0 < g.heap.refs p) (hleaf : ∀ x, g.owner x ≠ some r) : g₀.Books (g.setOwner p r) held :=
  ⟨h.ledger.setOwner_leaf (tracked hp) hne hfree hpos hleaf⟩

/-- The library keeps the medium, and with it the bin and the appsrc. -/
theorem mediaNew (h : g₀.Books g held) : g₀.Books g.mediaNew (g.next :: held) := by
  have hle := h.le
  have hfresh : ∀ x, g.owner x ≠ some (g.next + 1) ∧ g.owner x ≠ some (g.next + 2) := fun x =>
    ⟨fun hx => by have := owner_lt_next hx; omega, fun hx => by have := owner_lt_next hx; omega⟩
  have hnone : ∀ x, g.next ≤ x → g.owner x = none := fun x hx => Heap.owner_eq_none hx
  unfold Gst.mediaNew
  generalize hmade : ((g.alloc false { type := ascii "GstRTSPMedia", element := some (g.next + 1) }).alloc true
      { type := ascii "bin" }).alloc true { type := ascii "appsrc", name := ascii "profile_src" } = g₁
  have hnext : g₁.next = g.next + 3 := by rw [← hmade]; simp
  have howner : ∀ x, g₁.owner x = g.owner x := fun x => by rw [← hmade]; simp only [owner_alloc]
  have hfl : ∀ x, x = g.next + 1 ∨ x = g.next + 2 → g₁.heap.floating x = true := by
    rintro x (rfl | rfl)
    all_goals
      rw [← hmade]
      simp [Gst.alloc, Heap.floating_alloc, Gst.next]
  have h1 : g₀.Books g₁ ((g.next + 2) :: (g.next + 1) :: g.next :: held) := by
    have := ((h.alloc false { type := ascii "GstRTSPMedia", element := some (g.next + 1) }).alloc true
      { type := ascii "bin" }).alloc true { type := ascii "appsrc", name := ascii "profile_src" }
    rw [hmade] at this
    simpa using this
  -- the bin goes to the medium, then the appsrc to the bin
  have h2 : g₀.Books ((g₁.refSink (g.next + 1)).setOwner g.next (g.next + 1)) ((g.next + 2) :: g.next :: held) := by
    have hsunk := (h1.refSink_floating (by omega) (hfl (g.next + 1) (.inl rfl))).perm (List.Perm.swap ..)
    refine hsunk.setOwner hle (by omega) ?_ ?_ fun x => ?_
    · rw [owner_refSink, howner, hnone _ (by omega)]
    · exact hsunk.pos hle (by simp)
    · rw [owner_refSink, howner]
      exact (hfresh x).1
  have howner' : ∀ x, ((g₁.refSink (g.next + 1)).setOwner g.next (g.next + 1)).owner x =
      if x = g.next + 1 then some g.next else g.owner x := fun x => by
    rw [owner_setOwner (by simp; omega) (by simp; omega), owner_refSink, howner]
  have h3 := h2.refSink_floating (r := g.next + 2) (by simp [next_setOwner]; omega) (by
    have := hfl (g.next + 2) (.inr rfl)
    show ((g₁.heap.refSink (g.next + 1)).setOwner g.next (g.next + 1)).floating (g.next + 2) = true
    rw [Heap.floating_setOwner, Heap.floating_refSink_of_ne (by omega), this])
  refine h3.setOwner (by omega) (by omega) ?_ ?_ fun x => ?_
  · rw [owner_refSink, howner', if_neg (by omega), hnone _ (by omega)]
  · rw [h3.refs (by omega), owner_refSink, howner', if_pos rfl]
    exact Nat.succ_pos _
  · rw [owner_refSink, howner']
    split
    · simp
    · exact (hfresh x).2

/-- `onMediaConfigure` takes a reference to the appsrc, and keeps none to the bin. -/
theorem configureMount (h : g₀.Books g.mediaNew held) (a : Nat) (mount : Mount) :
    g₀.Books (Bridge.configureMount g.mediaNew g.next a mount).2.1 ((g.next + 2) :: held) := by
  obtain ⟨hnext, -⟩ := g.mediaNew_spec
  rw [Bridge.configureMount_mediaNew]
  have hfound := (h.ref (r := g.next + 1) (by omega)).ref (r := g.next + 2) (by simp; omega)
  exact ((hfound.perm (List.Perm.swap ..)).unref.update _ _).update _ _

/-- `onNewSample` gives the sample back, and the buffer to the appsrc if there is one. -/
theorem pullInto (h : g₀.Books g held) (sink : Nat) (pulled : Option GstSample) (mount : Mount) :
    ∃ new, (∀ x ∈ new, g.next ≤ x) ∧ g₀.Books (Bridge.pullInto g sink pulled mount).2.1 (new ++ held) := by
  unfold Bridge.pullInto
  cases pulled with
  | none => exact ⟨[], by simp, h⟩
  | some sample =>
    have hbuffer : g₀.Books (((g.sampleNew sample).bufferCopy sample.buffer).bufferClearTimes (g.next + 1))
        ((g.next + 1) :: g.next :: held) := by
      have hcopy := (h.alloc false { type := ascii "GstSample", sample := some sample }).alloc false
        { type := ascii "GstBuffer", buffer := some sample.buffer }
      rw [next_alloc] at hcopy
      exact hcopy.update _ _
    cases mount.appSrc with
    | none => exact ⟨[], by simp, hbuffer.unref.unref⟩
    | some appSrc => exact ⟨[g.next + 1], by simp, (hbuffer.perm (List.Perm.swap ..)).unref⟩

end Books

end Gst

namespace Bridge

/-- What the mounts feed. -/
def slots (b : Bridge) : List Nat := b.mounts.filterMap (·.mount.appSrc)

section
variable {b : Bridge} {g₀ : Gst} {held : List Nat} {a : Nat}

/-- A mount and the others. -/
theorem slots_perm {c : MountCell} (hc : b.mounts[a]? = some c) (c' : MountCell) :
    b.slots.Perm (c.mount.appSrc.toList ++ (b.mounts.eraseIdx a).filterMap (·.mount.appSrc)) ∧
      ((b.mounts.set a c').filterMap (·.mount.appSrc)).Perm
        (c'.mount.appSrc.toList ++ (b.mounts.eraseIdx a).filterMap (·.mount.appSrc)) := by
  obtain ⟨hlt, rfl⟩ := List.getElem?_eq_some_iff.mp hc
  have hcons : ∀ c : MountCell, (c :: b.mounts.eraseIdx a).filterMap (·.mount.appSrc) =
      c.mount.appSrc.toList ++ (b.mounts.eraseIdx a).filterMap (·.mount.appSrc) := fun c => by
    rw [List.filterMap_cons]
    cases c.mount.appSrc <;> rfl
  rw [← hcons, ← hcons]
  exact ⟨(List.getElem_cons_eraseIdx_perm hlt).symm.filterMap _, (List.set_perm_cons_eraseIdx hlt c').filterMap _⟩

/-- The references after a handler ran: `extra` are those it leaves beside what the mounts feed. -/
theorem books_withMount {P : List Nat → Prop} (ha : b.mountAlive a = true) (callback : Callback)
    {body : Mount → Mount × Gst × List Action} (h : g₀.Books b.gst (b.slots ++ held))
    (hbody : ∀ mount rest, b.slot a = mount.appSrc → g₀.Books b.gst (mount.appSrc.toList ++ rest) →
      ∃ extra, P extra ∧ g₀.Books (body mount).2.1 ((body mount).1.appSrc.toList ++ (extra ++ rest))) :
    ∃ extra, P extra ∧
      g₀.Books (b.withMount callback a body).gst ((b.withMount callback a body).slots ++ (extra ++ held)) := by
  obtain ⟨mount, hm, heq⟩ := withMount_alive callback body ha
  obtain ⟨hold, hnew⟩ := slots_perm hm ⟨(body mount).1, false⟩
  have hslot : b.slot a = mount.appSrc := by rw [slot, hm]; rfl
  obtain ⟨extra, hextra, hgst⟩ :=
    hbody mount _ hslot (h.perm ((hold.append_right held).trans (by rw [List.append_assoc])))
  refine ⟨extra, hextra, ?_⟩
  rw [heq]
  refine hgst.perm (List.Perm.trans ?_ (hnew.append_right (extra ++ held)).symm)
  rw [List.append_assoc]
  exact List.Perm.append_left _ (List.perm_append_comm_assoc ..)

/-- The old appsrc of the mount is forgotten, with the reference to it. -/
theorem books_onMediaConfigure (ha : b.mountAlive a = true) (f : Nat) (h : g₀.Books b.gst (b.slots ++ held)) :
    g₀.Books ((b.withNewMedium f).onMediaConfigure b.gst.next a).gst
      (((b.withNewMedium f).onMediaConfigure b.gst.next a).slots ++ ((b.slot a).toList ++ b.gst.next :: held)) := by
  have hmade : g₀.Books (b.withNewMedium f).gst ((b.withNewMedium f).slots ++ (b.gst.next :: held)) :=
    h.mediaNew.perm List.perm_middle.symm
  have hbody : ∀ mount rest, (b.withNewMedium f).slot a = mount.appSrc →
      g₀.Books (b.withNewMedium f).gst (mount.appSrc.toList ++ rest) → ∃ extra, extra = (b.slot a).toList ∧
        g₀.Books (configureMount b.gst.mediaNew b.gst.next a mount).2.1
          ((configureMount b.gst.mediaNew b.gst.next a mount).1.appSrc.toList ++ (extra ++ rest)) := by
    intro mount rest hslot hrest
    have happ : (configureMount b.gst.mediaNew b.gst.next a mount).1.appSrc = some (b.gst.next + 2) := by
      rw [configureMount_mediaNew]
    refine ⟨_, congrArg Option.toList hslot.symm, ?_⟩
    rw [happ]
    exact Gst.Books.configureMount hrest a mount
  obtain ⟨extra, rfl, hbooks⟩ := books_withMount (b := b.withNewMedium f) ha .onMediaConfigure hmade hbody
  exact hbooks

theorem books_onMediaUnprepared (ha : b.mountAlive a = true) (h : g₀.Books b.gst (b.slots ++ held)) :
    g₀.Books (b.onMediaUnprepared a).gst ((b.onMediaUnprepared a).slots ++ held) := by
  obtain ⟨extra, rfl, hbooks⟩ := @books_withMount b g₀ held a (· = []) ha .onMediaUnprepared
    (fun mount => ({ mount with appSrc := none }, b.gst.clearObject mount.appSrc, [])) h fun mount rest _ hrest =>
      ⟨[], rfl, hrest.clearObject⟩
  exact hbooks

theorem books_onMediaPrepared (ha : b.mountAlive a = true) (h : g₀.Books b.gst (b.slots ++ held)) :
    g₀.Books (b.onMediaPrepared a).gst ((b.onMediaPrepared a).slots ++ held) := by
  obtain ⟨extra, rfl, hbooks⟩ := @books_withMount b g₀ held a (· = []) ha .onMediaPrepared
    (fun mount => (mount, b.gst, [])) h fun mount rest _ hrest => ⟨[], rfl, hrest⟩
  exact hbooks

theorem books_onNewSample (sink : Nat) (pulled : Option GstSample) (h : g₀.Books b.gst (b.slots ++ held)) :
    ∃ new, (∀ x ∈ new, b.gst.next ≤ x) ∧
      g₀.Books (b.onNewSample sink pulled a).gst ((b.onNewSample sink pulled a).slots ++ (new ++ held)) := by
  cases ha : b.mountAlive a with
  | false =>
    unfold onNewSample
    rw [withMount_freed ha]
    exact ⟨[], by simp, h⟩
  | true =>
    refine books_withMount ha .onNewSample h fun mount rest _ hrest => ?_
    obtain ⟨new, hnew, hbooks⟩ := hrest.pullInto sink pulled mount
    rw [(pullInto_spec b.gst sink pulled mount).1]
    exact ⟨new, hnew, hbooks.perm (List.perm_append_comm_assoc ..)⟩

/-- The samples an appsink gives are given back; the buffers that are pushed stay with the appsrcs. -/
theorem books_newSample (sink : Nat) (pulled : Nat → Option GstSample) (h : g₀.Books b.gst (b.slots ++ held)) :
    ∃ new, (∀ x ∈ new, b.gst.next ≤ x) ∧ g₀.Books (b.step (.newSample sink pulled)).gst
      ((b.step (.newSample sink pulled)).slots ++ (new ++ held)) := by
  have hsame : ∃ new, (∀ x ∈ new, b.gst.next ≤ x) ∧ g₀.Books b.gst (b.slots ++ (new ++ held)) := ⟨[], by simp, h⟩
  simp only [step]
  split
  · refine (emit_invariant (P := fun b' => b.gst.next ≤ b'.gst.next ∧
      ∃ new, (∀ x ∈ new, b.gst.next ≤ x) ∧ g₀.Books b'.gst (b'.slots ++ (new ++ held))) ⟨Nat.le_refl _, hsame⟩ ?_).2
    rintro b' ⟨signal, callback, a⟩ ⟨hle, new, hnew, hbooks⟩
    cases callback with
    | onNewSample =>
      obtain ⟨new', hnew', hbooks'⟩ := books_onNewSample (a := a) sink (pulled a) hbooks
      refine ⟨Nat.le_trans hle (onNewSample_ran sink (pulled a)).keeps.next_le, new' ++ new, fun x hx => ?_, ?_⟩
      · rcases List.mem_append.mp hx with hx | hx
        · exact Nat.le_trans hle (hnew' x hx)
        · exact hnew x hx
      · rw [List.append_assoc]
        exact hbooks'
    | onMediaConfigure => exact ⟨hle, new, hnew, hbooks⟩
    | onMediaPrepared => exact ⟨hle, new, hnew, hbooks⟩
    | onMediaUnprepared => exact ⟨hle, new, hnew, hbooks⟩
  · exact hsame

end

end Bridge

namespace RtspProfileServer
open Bridge

section
variable {b : Bridge} {g₀ : Gst} {held : List Nat}

/-- The mount points own the factory of the new mount. -/
theorem books_addMount (h : ProfileHost) {mountPoints : Nat} (name : Bytes) (hle : g₀.next ≤ mountPoints)
    (hb : g₀.Books b.gst (mountPoints :: held)) :
    g₀.Books (addMount h mountPoints name b).gst (mountPoints :: held) := by
  have hpos := hb.pos hle (by simp)
  have hlt := Heap.lt_of_refs hpos
  have hfactory := ((hb.alloc false { type := ascii "GstRTSPMediaFactory" }).update b.gst.next fun o =>
    { o with props := fun k => if k = ascii "launch" then some (.string launch) else o.props k }).update b.gst.next
      fun o => { o with props := fun k => if k = ascii "shared" then some (.boolean true) else o.props k }
  -- what is written in between changes no reference
  have howned : ∀ g : Gst, g₀.Books g (b.gst.next :: mountPoints :: held) → (∀ x, g.owner x = b.gst.owner x) →
      g₀.Books (g.setOwner mountPoints b.gst.next) (mountPoints :: held) := by
    intro g hg howner
    refine hg.setOwner hle (Nat.ne_of_lt hlt) ?_ (hg.pos hle (by simp)) fun x hx => ?_
    · rw [howner]
      exact Heap.owner_eq_none (Nat.le_refl _)
    · rw [howner] at hx
      exact Nat.lt_irrefl _ (Gst.owner_lt_next hx)
  unfold addMount
  cases h.appSinkForProfile name with
  | none =>
    refine howned _ ((hfactory.update _ _).update _ _) fun x => ?_
    simp [Gst.setObject, Gst.connect, Gst.owner_alloc]
  | some sink =>
    refine howned _ (((hfactory.update _ _).update _ _).update _ _) fun x => ?_
    simp [Gst.setObject, Gst.connect, Gst.owner_alloc]

/-- The server comes with one reference, and sinking adds another since it does not float. -/
theorem books_withServer (port : UInt16) (hb : g₀.Books b.gst held) :
    g₀.Books (withServer port b).gst ((b.gst.next + 1) :: b.gst.next :: b.gst.next :: held) := by
  have hmade : g₀.Books ((b.gst.alloc false { type := ascii "GstRTSPServer" }).alloc false
      { type := ascii "GstRTSPMountPoints" }) ((b.gst.next + 1) :: b.gst.next :: held) := by
    have := (hb.alloc false { type := ascii "GstRTSPServer" }).alloc false { type := ascii "GstRTSPMountPoints" }
    rwa [Gst.next_alloc] at this
  have hnone : ∀ x, b.gst.next ≤ x → b.gst.owner x = none := fun x hx => Heap.owner_eq_none hx
  have howned := hmade.setOwner hb.le (Nat.ne_of_lt (Nat.lt_succ_self _))
    (by simp only [Gst.owner_alloc]; exact hnone _ (Nat.le_succ _)) (hmade.pos hb.le (by simp)) fun x hx => by
      simp only [Gst.owner_alloc] at hx
      have := Gst.owner_lt_next hx
      omega
  have hsunk := howned.refSink_sunk (r := b.gst.next) (by rw [Gst.next_setOwner, Gst.next_alloc, Gst.next_alloc]; omega) (by
    show ((((b.gst.heap.alloc _ _).alloc _ _).setOwner _ _).floating b.gst.heap.next) = false
    simp [Heap.floating_alloc])
  exact (hsunk.update _ _).ref (by simp [Gst.next_setOwner])

/-- The constructor leaves the server with two references: that it came with and the one `g_object_ref_sink` adds. -/
theorem books_construct (port : UInt16) (h : ProfileHost) (hb : g₀.Books b.gst held) :
    g₀.Books (construct port h b).2.gst (b.gst.next :: b.gst.next :: held) := by
  have hmounts : g₀.Books (withMounts port h b).gst ((b.gst.next + 1) :: b.gst.next :: b.gst.next :: held) :=
    addMounts_invariant h _ (fun b' => g₀.Books b'.gst ((b.gst.next + 1) :: b.gst.next :: b.gst.next :: held))
      (books_withServer port hb) (fun _ name hb' => books_addMount h name (Nat.le_succ_of_le hb.le) hb') h.profiles
  exact hmounts.unref

end

end RtspProfileServer

end CameraPlatform
