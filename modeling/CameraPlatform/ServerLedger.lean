import CameraPlatform.BridgeLedger
import Mathlib.Algebra.GroupWithZero.Nat
import Mathlib.Algebra.Order.BigOperators.Group.List
import Mathlib.Algebra.Order.Group.Nat

/-!
# The references of `RtspProfileServer`

Runs of attach and detach calls and of the signals of the mounts, with the destructor after them.
`detach` gives both references to the source back. A mount has one reference for its slot until another
medium is configured for it, and the destructor clears no slot.
-/

namespace CameraPlatform
open ByteString RefHeap History

/-- The calls of a server, and the signals of its mounts and their media. -/
inductive ServerEvent where
  | signal (e : BridgeEvent)
  | attach (error : Option Bytes) (context : Nat)
  | detach

namespace RtspProfileServer
open Bridge

def handle (s : RtspProfileServer × Bridge) : ServerEvent → RtspProfileServer × Bridge
  | .signal e => (s.1, s.2.step e)
  | .attach error context =>
    let (_, server, gst) := s.1.attach error context s.2.gst
    (server, { s.2 with gst })
  | .detach =>
    let (server, gst) := s.1.detach s.2.gst
    (server, { s.2 with gst })

/-- The references that were taken on the appsrcs of the mount and not dropped. -/
def appSrcRefs (b : Bridge) (a : Nat) : Nat :=
  ((b.media.filter fun m => b.factoryOf a = some m.factory).map fun m =>
    b.gst.heap.refs m.appSrc - (b.gst.owner m.appSrc).isSome.toNat).sum

/-- Each mount has the reference of its slot and no other. -/
def Counted (s : RtspProfileServer × Bridge) : Prop := ∀ a, appSrcRefs s.2 a = (s.2.slot a).isSome.toNat

/-- The destructor leaves no reference to the appsrcs. -/
def Emptied (s : RtspProfileServer × Bridge) : Prop := ∀ a, appSrcRefs (s.1.destroy s.2) a = 0

/-- The destructor drops the last reference to everything the server took one of. -/
structure Released (s : RtspProfileServer × Bridge) : Prop where
  server : ∀ x ∈ s.1.server, (s.1.destroy s.2).gst.alive x = false
  source : ∀ x ∈ s.1.source, (s.1.destroy s.2).gst.alive x = false
  appSrcs : Emptied s

/-- No medium is configured for a mount that still feeds another one. -/
def SlotFree (s : RtspProfileServer × Bridge) : ServerEvent → Prop
  | .signal (.configure f) => s.2.gst.alive f = true → ∀ a, s.2.factoryOf a = some f → s.2.slot a = none
  | _ => True

/-- The references to the source: that of the server and that of the context. -/
def sources (s : RtspProfileServer) : List Nat := s.source.toList ++ s.source.toList

/-! ### One step -/

/-- The source has been attached. -/
def Attached (g : Gst) (x : Nat) : Prop := ((g.obj x).bind (·.context)).isSome = true

structure Kept (g₀ : Gst) (s : RtspProfileServer × Bridge) (held : List Nat) : Prop where
  wired : s.2.Wired
  alive : ∀ a f, s.2.factoryOf a = some f → s.2.mountAlive a = true
  source : ∀ x ∈ s.1.source, Attached s.2.gst x
  books : g₀.Books s.2.gst (s.2.slots ++ (s.1.sources ++ held))

/-- No medium was configured, and no mount feeds anything new. -/
structure Quiet (b b' : Bridge) : Prop where
  mounts : SameMounts b b'
  next_le : b.gst.next ≤ b'.gst.next
  media : (b'.media.map fun m => (m.factory, m.appSrc)) = b.media.map fun m => (m.factory, m.appSrc)
  slot : ∀ a, b'.slot a = b.slot a ∨ b'.slot a = none

/-- The factory made a medium, which its mount feeds now. -/
structure Configured (b b' : Bridge) (f a : Nat) : Prop where
  factory : b.factoryOf a = some f
  alive : b.gst.alive f = true
  mounts : SameMounts b b'
  media : b'.media = b.media ++ [b.newMedium f]
  slot : ∀ x, b'.slot x = if x = a then some (b.gst.next + 2) else b.slot x
  next_lt : b.gst.next + 2 < b'.gst.next

section
variable {g₀ : Gst} {s : RtspProfileServer × Bridge} {b b' : Bridge} {held : List Nat}

theorem Attached.same {g g' : Gst} {x : Nat} (hx : Attached g x) (h : Gst.Same GObject.context g g') : Attached g' x := by
  obtain ⟨context, hcontext⟩ := Option.isSome_iff_exists.mp hx
  exact Option.isSome_iff_exists.mpr ⟨context, (h.bind id (Gst.lt_of_bind hcontext)).trans hcontext⟩

/-- A call that succeeds makes a source and attaches it; any other changes nothing. -/
theorem attach_cases (error : Option Bytes) (context : Nat) (server : RtspProfileServer) (g : Gst) :
    (server.attach error context g).2.1 = server ∧ (server.attach error context g).2.2.heap = g.heap ∨
      server.source = none ∧ (server.attach error context g).2 =
        ({ server with source := some g.next },
          (g.alloc false { type := ascii "GSource" }).sourceAttach g.next context) := by
  unfold attach
  split
  · exact .inl ⟨rfl, rfl⟩
  · split
    · exact .inl ⟨rfl, rfl⟩
    · next hnone =>
      cases error with
      | some message => exact .inl ⟨rfl, rfl⟩
      | none => exact .inr ⟨by simpa using hnone, rfl⟩

/-- A new source has two references, that of the server and that of the context. -/
theorem books_sourceAttach {g : Gst} {own : List Nat} (context : Nat) (h : g₀.Books g own) :
    g₀.Books ((g.alloc false { type := ascii "GSource" }).sourceAttach g.next context) (g.next :: g.next :: own) ∧
      Attached ((g.alloc false { type := ascii "GSource" }).sourceAttach g.next context) g.next := by
  refine ⟨((h.alloc false { type := ascii "GSource" }).update _ _).ref (by simp), ?_⟩
  unfold Attached Gst.sourceAttach
  rw [Gst.obj_ref, Gst.obj_update, if_pos rfl, Gst.obj_alloc, if_pos rfl]
  rfl

/-- Destroying the source takes the reference of the context. -/
theorem books_detach {server : RtspProfileServer} {g : Gst} {own : List Nat}
    (hsource : ∀ x ∈ server.source, Attached g x) (h : g₀.Books g (server.sources ++ own)) :
    g₀.Books (server.detach g).2 own := by
  unfold detach
  cases hs : server.source with
  | none => simpa [sources, hs] using h
  | some x =>
    obtain ⟨context, hc⟩ := Option.isSome_iff_exists.mp (hsource x hs)
    rw [sources, hs] at h
    simp only [Gst.sourceDestroy, hc]
    exact (h.update x _).unref.unref

theorem detach_source (server : RtspProfileServer) (g : Gst) : (server.detach g).1 = { server with source := none } := by
  unfold detach
  split
  · rfl
  · next h => rw [← h]

theorem Quiet.refl : Quiet b b := ⟨Aligned.refl.toSameMounts, Nat.le_refl _, rfl, fun _ => .inl rfl⟩

theorem Quiet.gst {g : Gst} (hle : b.gst.next ≤ g.next) : Quiet b { b with gst := g } :=
  ⟨(@Aligned.of_mounts b { b with gst := g } rfl).toSameMounts, hle, rfl, fun _ => .inl rfl⟩

/-- A signal of a medium changes neither its factory nor its appsrc. -/
theorem Quiet.of_ran {i : Nat} {m : Medium} (m' : Medium) (hi : b.media[i]? = some m) (hfactory : m'.factory = m.factory)
    (happ : m'.appSrc = m.appSrc) (hran : Ran (b.withMedium i m') b')
    (hslot : ∀ a, b'.slot a = b.slot a ∨ b'.slot a = none) : Quiet b b' := by
  obtain ⟨ha, hk, hmedia⟩ := hran.withMedium
  refine ⟨ha.toSameMounts, hk.next_le, ?_, hslot⟩
  rw [hmedia]
  exact map_set_medium hi (by rw [hfactory, happ])

/-- What a signal does. -/
theorem Kept.signal (hk : Kept g₀ s held) (e : BridgeEvent) :
    (∃ new, (∀ x ∈ new, s.2.gst.next ≤ x) ∧ Quiet s.2 (s.2.step e) ∧ SlotFree s (.signal e) ∧
        g₀.Books (s.2.step e).gst ((s.2.step e).slots ++ (new ++ (s.1.sources ++ held)))) ∨
      ∃ f a, e = .configure f ∧ Configured s.2 (s.2.step e) f a ∧
        g₀.Books (s.2.step e).gst
          ((s.2.step e).slots ++ ((s.2.slot a).toList ++ s.2.gst.next :: (s.1.sources ++ held))) := by
  have hsame : ∀ b', b' = s.2 → ∃ new, (∀ x ∈ new, s.2.gst.next ≤ x) ∧ Quiet s.2 b' ∧
      g₀.Books b'.gst (b'.slots ++ (new ++ (s.1.sources ++ held))) := by
    rintro b' rfl
    exact ⟨[], by simp, .refl, hk.books⟩
  cases e with
  | newSample sink pulled =>
    obtain ⟨hran, hslot⟩ := @step_newSample s.2 sink pulled
    obtain ⟨new, hnew, hbooks⟩ := books_newSample sink pulled hk.books
    have hquiet : Quiet s.2 (s.2.step (.newSample sink pulled)) :=
      ⟨hran.aligned.toSameMounts, hran.keeps.next_le, by rw [hran.media], fun a => .inl (hslot a)⟩
    exact .inl ⟨new, hnew, hquiet, trivial, hbooks⟩
  | configure f =>
    rcases hk.wired.step_configure f with ⟨hno, heq⟩ | ⟨a, ha, halive, heq⟩
    · obtain ⟨new, hnew, hquiet, hbooks⟩ := hsame _ heq
      refine .inl ⟨new, hnew, hquiet, fun halive a ha => ?_, hbooks⟩
      rcases hno with hno | hdead
      · exact absurd ha (hno a)
      · rw [hdead] at halive; cases halive
    · have hmount := hk.alive a f ha
      obtain ⟨haligned, -, hmedia, -, hslot, -, hlt, -⟩ := onMediaConfigure_alive f hmount
      have hbooks := books_onMediaConfigure hmount f hk.books
      rw [← heq] at haligned hmedia hslot hlt hbooks
      exact .inr ⟨f, a, rfl, ⟨ha, halive, haligned.toSameMounts, hmedia, hslot, hlt⟩, hbooks⟩
  | prepared i =>
    rcases hk.wired.step_prepared i with ⟨-, heq⟩ | ⟨m, a, hm, ha, heq⟩
    · obtain ⟨new, hnew, hquiet, hbooks⟩ := hsame _ heq
      exact .inl ⟨new, hnew, hquiet, trivial, hbooks⟩
    · have hmount : (s.2.withMedium i { m with prepared := true }).mountAlive a = true := hk.alive a _ ha
      obtain ⟨-, hslot, -⟩ := onMediaPrepared_alive hmount
      have hbooks := books_onMediaPrepared hmount hk.books
      rw [heq]
      refine .inl ⟨[], by simp, ?_, trivial, hbooks⟩
      exact .of_ran { m with prepared := true } hm.1 rfl rfl onMediaPrepared_ran fun x => .inl (hslot x)
  | unprepared i =>
    rcases hk.wired.step_unprepared i with ⟨-, heq⟩ | ⟨m, a, hm, ha, heq⟩
    · obtain ⟨new, hnew, hquiet, hbooks⟩ := hsame _ heq
      exact .inl ⟨new, hnew, hquiet, trivial, hbooks⟩
    · have hmount : (s.2.withMedium i { m with unprepared := true }).mountAlive a = true := hk.alive a _ ha
      obtain ⟨-, hslot, -⟩ := onMediaUnprepared_alive hmount
      have hbooks := books_onMediaUnprepared hmount hk.books
      rw [heq]
      refine .inl ⟨[], by simp, .of_ran { m with unprepared := true } hm.1 rfl rfl onMediaUnprepared_ran fun x => ?_,
        trivial, hbooks⟩
      rw [hslot]
      split
      · exact .inr rfl
      · exact .inl rfl

/-- What any step does: either it leaves the media as they are, or it configures one for a mount. -/
theorem Kept.handle_cases (hk : Kept g₀ s held) (e : ServerEvent) :
    (∃ new, (∀ x ∈ (handle s e).1.sources ++ new, x ∈ s.1.sources ∨ s.2.gst.next ≤ x) ∧ Quiet s.2 (handle s e).2 ∧
        SlotFree s e ∧ Kept g₀ (handle s e) (new ++ held)) ∨
      ∃ f a, e = .signal (.configure f) ∧ Configured s.2 (handle s e).2 f a ∧ (handle s e).1 = s.1 ∧
        Kept g₀ (handle s e) ((s.2.slot a).toList ++ s.2.gst.next :: held) := by
  cases e with
  | signal e =>
    have hstep := hk.wired.step e fun f _ _ a ha => hk.alive a f ha
    have hsource : ∀ x ∈ s.1.source, Attached (s.2.step e).gst x := fun x hx =>
      (hk.source x hx).same (step_same (fun _ _ => by rfl) e)
    have hkept : ∀ {more : List Nat}, g₀.Books (s.2.step e).gst ((s.2.step e).slots ++ (more ++ (s.1.sources ++ held))) →
        Kept g₀ (handle s (.signal e)) (more ++ held) := fun hbooks =>
      ⟨hstep.wired, fun a f ha => (hstep.aligned.alive a).trans (hk.alive a f ((hstep.aligned.factory a).symm.trans ha)),
        hsource, hbooks.perm ((List.perm_append_comm_assoc ..).append_left _)⟩
    rcases hk.signal e with ⟨new, hnew, hquiet, hfree, hbooks⟩ | ⟨f, a, rfl, hconf, hbooks⟩
    · refine .inl ⟨new, fun x hx => ?_, hquiet, hfree, hkept hbooks⟩
      exact (List.mem_append.mp hx).imp id (hnew x)
    · refine .inr ⟨f, a, rfl, hconf, rfl, ?_⟩
      have := @hkept ((s.2.slot a).toList ++ [s.2.gst.next]) (by simpa using hbooks)
      simpa using this
  | attach error context =>
    have hsame : s.2.gst.SameHandlers (handle s (.attach error context)).2.gst := System.attach_same ..
    have hquiet : Quiet s.2 (handle s (.attach error context)).2 := .gst hsame.next_le
    have hwired := hk.wired.congr hquiet.mounts hsame fun m hm => (hk.wired.media m hm).congr hquiet.mounts hsame
    rcases attach_cases error context s.1 s.2.gst with ⟨hserver, hheap⟩ | ⟨hnone, heq⟩
    · have hsources : (handle s (.attach error context)).1.sources = s.1.sources := congrArg sources hserver
      refine .inl ⟨[], fun x hx => .inl ?_, hquiet, trivial, hwired, hk.alive, ?_, ?_⟩
      · rwa [hsources, List.append_nil] at hx
      · show ∀ x ∈ (s.1.attach error context s.2.gst).2.1.source, _
        rw [hserver]
        intro x hx
        have hobj : (handle s (.attach error context)).2.gst.obj x = s.2.gst.obj x := congrArg (Heap.data · x) hheap
        unfold Attached
        rw [hobj]
        exact hk.source x hx
      · rw [hsources]
        exact hk.books.heap hheap
    · have hnew : handle s (.attach error context) = ({ s.1 with source := some s.2.gst.next }, { s.2 with
          gst := (s.2.gst.alloc false { type := ascii "GSource" }).sourceAttach s.2.gst.next context }) :=
        congrArg (fun r : RtspProfileServer × Gst => (r.1, { s.2 with gst := r.2 })) heq
      have hnil : s.1.sources = [] := by rw [sources, hnone]; rfl
      obtain ⟨hbooks, hattached⟩ := books_sourceAttach context hk.books
      rw [hnew] at hquiet hwired ⊢
      refine .inl ⟨[], fun x hx => .inr ?_, hquiet, trivial, hwired, hk.alive, ?_, ?_⟩
      · obtain rfl : x = s.2.gst.next := by simpa [sources] using hx
        exact Nat.le_refl _
      · rintro x ⟨⟩
        exact hattached
      · rw [hnil] at hbooks
        exact hbooks.perm (List.perm_append_comm_assoc [s.2.gst.next, s.2.gst.next] ..)
  | detach =>
    have hsame : s.2.gst.SameHandlers (handle s .detach).2.gst := System.detach_same ..
    have hquiet : Quiet s.2 (handle s .detach).2 := .gst hsame.next_le
    have hsource : (handle s .detach).1.source = none := congrArg RtspProfileServer.source (detach_source s.1 s.2.gst)
    have hnil : (handle s .detach).1.sources = [] := by rw [sources, hsource]; rfl
    refine .inl ⟨[], by rw [hnil]; simp, hquiet, trivial, ?_, hk.alive, by rw [hsource]; simp, ?_⟩
    · exact hk.wired.congr hquiet.mounts hsame fun m hm => (hk.wired.media m hm).congr hquiet.mounts hsame
    · rw [hnil]
      exact books_detach hk.source (hk.books.perm (List.perm_append_comm_assoc ..))

/-! ### Destruction -/

/-- Freeing the mounts clears no slot. -/
theorem slots_destroy (server : RtspProfileServer) (b : Bridge) :
    (server.destroy b).slots = b.slots ∧ ∀ a, (server.destroy b).slot a = b.slot a := by
  have hfreed : ∀ (p : Prop) [Decidable p] (c : MountCell), (if p then { c with freed := true } else c).mount = c.mount := by
    intro p _ c
    split <;> rfl
  have hget : ∀ a : Nat, ((server.destroy b).mounts[a]?).map MountCell.mount = (b.mounts[a]?).map MountCell.mount := by
    intro a
    show ((b.mounts.mapIdx _)[a]?).map _ = _
    rw [List.getElem?_mapIdx, Option.map_map]
    exact congrArg (Option.map · _) (funext fun c => hfreed (a ∈ (server.detach b.gst).1.mounts) c)
  have hmounts : (server.destroy b).mounts.map MountCell.mount = b.mounts.map MountCell.mount := by
    refine List.ext_getElem? fun a => ?_
    rw [List.getElem?_map, List.getElem?_map, hget]
  have hslots : ∀ b : Bridge, b.slots = (b.mounts.map MountCell.mount).filterMap Mount.appSrc := fun b => by
    rw [List.filterMap_map]; rfl
  have hslot : ∀ (b : Bridge) (a : Nat), b.slot a = ((b.mounts[a]?).map MountCell.mount).bind Mount.appSrc := fun b a => by
    rw [Option.bind_map]; rfl
  exact ⟨by rw [hslots, hmounts, ← hslots], fun a => by rw [hslot, hget, ← hslot]⟩

theorem Kept.destroy (hk : Kept g₀ s held) {server : Nat} (hserver : s.1.server = some server) (hmem : server ∈ held) :
    g₀.Books (s.1.destroy s.2).gst (s.2.slots ++ held.erase server) := by
  have hdetached := books_detach hk.source (hk.books.perm (List.perm_append_comm_assoc ..))
  have hserver' : (s.1.detach s.2.gst).1.server = some server := by rw [detach_source]; exact hserver
  show g₀.Books ((s.1.detach s.2.gst).2.clearObject (s.1.detach s.2.gst).1.server) _
  rw [hserver']
  refine Gst.Books.unref (hdetached.perm ?_)
  exact ((List.perm_cons_erase hmem).append_left _).trans List.perm_middle

/-- The constructor takes two references to the server, and the destructor drops one. -/
theorem server_kept {server : Nat} (hk : Kept g₀ s held) (hserver : s.1.server = some server) (hle : g₀.next ≤ server)
    (hcount : 2 ≤ held.count server) : (s.1.destroy s.2).gst.alive server = true := by
  have hmem : server ∈ held := List.count_pos_iff.mp (Nat.lt_of_succ_lt hcount)
  have herase : server ∈ held.erase server := List.count_pos_iff.mp (by rw [List.count_erase_self]; omega)
  exact Heap.alive_iff.mpr ((hk.destroy hserver hmem).pos hle (List.mem_append_right _ herase))

/-! ### Runs -/

theorem construct_kept (port : UInt16) (h : ProfileHost) (g : Gst) :
    Kept g (construct port h { gst := g }) [g.next, g.next] := by
  have hfeeding := construct_feeding port h g
  obtain ⟨hserver, hmounts, -⟩ := construct_spec port h { gst := g }
  have hslots : (construct port h { gst := g }).2.slots = [] := by
    refine List.filterMap_eq_nil_iff.mpr fun c hc => ?_
    rw [hmounts, List.nil_append] at hc
    exact (of_mem_newMounts hc).1
  refine ⟨hfeeding.wired, hfeeding.alive, by rw [hserver]; simp, ?_⟩
  rw [hslots, hserver]
  exact books_construct port h .refl

/-- A call or a signal leaves the server the object it has. -/
theorem handle_server (s : RtspProfileServer × Bridge) (e : ServerEvent) : (handle s e).1.server = s.1.server := by
  cases e with
  | signal e => rfl
  | attach error context =>
    rcases attach_cases error context s.1 s.2.gst with ⟨heq, -⟩ | ⟨-, heq⟩
    · exact congrArg RtspProfileServer.server heq
    · exact congrArg (fun r : RtspProfileServer × Gst => r.1.server) heq
  | detach =>
    show (s.1.detach s.2.gst).1.server = _
    rw [detach_source]

theorem run_kept (port : UInt16) (h : ProfileHost) (g : Gst) (events : List ServerEvent) :
    (run handle (construct port h { gst := g }) events).1.server = some g.next ∧
      ∃ held, Kept g (run handle (construct port h { gst := g }) events) held ∧ 2 ≤ held.count g.next := by
  refine run_invariant (P := fun s : RtspProfileServer × Bridge => s.1.server = some g.next ∧
    ∃ held, Kept g s held ∧ 2 ≤ held.count g.next) ⟨rfl, _, construct_kept port h g, by simp⟩ ?_ events
  rintro s e ⟨hserver, held, hk, hcount⟩
  refine ⟨(handle_server s e).trans hserver, ?_⟩
  rcases hk.handle_cases e with ⟨new, -, -, -, hk'⟩ | ⟨f, a, -, -, -, hk'⟩
  · exact ⟨_, hk', by rw [List.count_append]; omega⟩
  · refine ⟨_, hk', ?_⟩
    rw [List.count_append, List.count_cons]
    omega

/-! ### The references to the appsrcs -/

/-- Each mount feeds an appsrc of its own media, and nothing of `own` is one. -/
structure Tidy (g₀ : Gst) (b : Bridge) (own : List Nat) : Prop where
  appSrc : ∀ m ∈ b.media, g₀.next ≤ m.appSrc ∧ m.appSrc < b.gst.next ∧ m.appSrc ∉ own
  nodup : (b.media.map (·.appSrc)).Nodup
  slot : ∀ a x, b.slot a = some x → ∃ m ∈ b.media, b.factoryOf a = some m.factory ∧ m.appSrc = x

/-- An entry that only one position has. -/
theorem count_filterMap {α : Type} {f : α → Option Nat} {l : List α} {a x : Nat}
    (h : ∀ a' : Nat, (l[a']?).bind f = some x → a' = a) :
    (l.filterMap f).count x = if (l[a]?).bind f = some x then 1 else 0 := by
  induction l generalizing a with
  | nil => simp
  | cons c l ih =>
    have hcons : ((c :: l).filterMap f).count x = (l.filterMap f).count x + if f c = some x then 1 else 0 := by
      rw [List.filterMap_cons]
      cases f c with
      | none => rfl
      | some y => simp [List.count_cons]
    rw [hcons]
    cases a with
    | zero =>
      have hnone : (l.filterMap f).count x = 0 := by
        refine List.count_eq_zero_of_not_mem fun hx => ?_
        obtain ⟨c', hc', hx⟩ := List.mem_filterMap.mp hx
        obtain ⟨i, hi⟩ := List.mem_iff_getElem?.mp hc'
        exact absurd (h (i + 1) (by rw [List.getElem?_cons_succ, hi]; exact hx)) (Nat.succ_ne_zero i)
      rw [hnone, Nat.zero_add]
      rfl
    | succ a =>
      have hhead : f c ≠ some x := fun hc => absurd (h 0 hc) (Nat.zero_ne_add_one a)
      rw [if_neg hhead, List.getElem?_cons_succ]
      exact ih fun a' ha' => Nat.succ.inj (h (a' + 1) ha')

theorem Tidy.counted {own : List Nat} (ht : Tidy g₀ b own) (hw : b.Wired) (hb : g₀.Books b.gst (b.slots ++ own)) (a : Nat) :
    appSrcRefs b a = (b.slot a).isSome.toNat := by
  -- an appsrc is in the slot of its mount or in none
  have hrefs : ∀ m ∈ b.media.filter fun m => b.factoryOf a = some m.factory,
      b.gst.heap.refs m.appSrc - (b.gst.owner m.appSrc).isSome.toNat = if b.slot a = some m.appSrc then 1 else 0 := by
    intro m hm
    obtain ⟨hm, hfactory⟩ := List.mem_filter.mp hm
    obtain ⟨hle, -, hown⟩ := ht.appSrc m hm
    have honly : ∀ a', b.slot a' = some m.appSrc → a' = a := by
      intro a' ha'
      obtain ⟨m', hm', hfactory', happ⟩ := ht.slot a' _ ha'
      obtain rfl : m' = m := List.inj_on_of_nodup_map ht.nodup hm' hm happ
      exact hw.eq_of_factory hfactory' (of_decide_eq_true hfactory)
    rw [hb.refs hle, Nat.add_sub_cancel, List.count_append, List.count_eq_zero_of_not_mem hown]
    exact count_filterMap honly
  unfold appSrcRefs
  rw [List.map_congr_left hrefs]
  cases hslot : b.slot a with
  | none => simp
  | some x =>
    obtain ⟨m, hm, hfactory, rfl⟩ := ht.slot a x hslot
    have hmem : m ∈ b.media.filter fun m => b.factoryOf a = some m.factory :=
      List.mem_filter.mpr ⟨hm, decide_eq_true hfactory⟩
    have hsum : ∀ l : List Medium, (l.map fun m' => if some m.appSrc = some m'.appSrc then 1 else 0).sum =
        (l.map (·.appSrc)).count m.appSrc := by
      intro l
      induction l with
      | nil => rfl
      | cons m' l ih =>
        rw [List.map_cons, List.sum_cons, ih, List.map_cons, List.count_cons, Nat.add_comm]
        by_cases happ : m.appSrc = m'.appSrc
        · simp [happ]
        · simp [happ, Ne.symm happ]
    have hnodup : ((b.media.filter fun m' => b.factoryOf a = some m'.factory).map (·.appSrc)).Nodup :=
      ht.nodup.sublist (List.filter_sublist.map _)
    rw [hsum, List.count_eq_one_of_mem hnodup (List.mem_map_of_mem hmem)]
    rfl

theorem Tidy.quiet {own own' : List Nat} (ht : Tidy g₀ b own) (hq : Quiet b b')
    (hown : ∀ x ∈ own', x ∈ own ∨ b.gst.next ≤ x) : Tidy g₀ b' own' := by
  have hback : ∀ m ∈ b'.media, ∃ m' ∈ b.media, m'.factory = m.factory ∧ m'.appSrc = m.appSrc := by
    intro m hm
    have hkey : (m.factory, m.appSrc) ∈ b.media.map fun m => (m.factory, m.appSrc) := hq.media ▸ List.mem_map_of_mem hm
    simpa using hkey
  have hforth : ∀ m ∈ b.media, ∃ m' ∈ b'.media, m'.factory = m.factory ∧ m'.appSrc = m.appSrc := by
    intro m hm
    have hkey : (m.factory, m.appSrc) ∈ b'.media.map fun m => (m.factory, m.appSrc) := hq.media ▸ List.mem_map_of_mem hm
    simpa using hkey
  refine ⟨fun m hm => ?_, ?_, fun a x hx => ?_⟩
  · obtain ⟨m', hm', -, happ⟩ := hback m hm
    obtain ⟨hle, hlt, hnot⟩ := ht.appSrc m' hm'
    rw [happ] at hle hlt hnot
    exact ⟨hle, Nat.lt_of_lt_of_le hlt hq.next_le, fun hmem => (hown _ hmem).elim hnot (Nat.not_le.mpr hlt)⟩
  · have happ : b'.media.map (·.appSrc) = b.media.map (·.appSrc) := by
      simpa [Function.comp_def] using congrArg (List.map Prod.snd) hq.media
    rw [happ]
    exact ht.nodup
  · obtain ⟨m, hm, hfactory, happ⟩ := ht.slot a x ((hq.slot a).elim (fun heq => heq ▸ hx) fun hnone => by
      rw [hnone] at hx; cases hx)
    obtain ⟨m', hm', hfactory', happ'⟩ := hforth m hm
    exact ⟨m', hm', by rw [hq.mounts.factory, hfactory, hfactory'], happ'.trans happ⟩

/-- The slot of the mount was empty, so the appsrc of the new medium is the only one it has a reference to. -/
theorem Tidy.configured {own : List Nat} {f a : Nat} (ht : Tidy g₀ b own) (hle : g₀.next ≤ b.gst.next)
    (hown : ∀ x ∈ own, x < b.gst.next) (hc : Configured b b' f a) : Tidy g₀ b' (b.gst.next :: own) := by
  have hnext := hc.next_lt
  refine ⟨fun m hm => ?_, ?_, fun x y hy => ?_⟩
  · rw [hc.media] at hm
    rcases List.mem_append.mp hm with hm | hm
    · obtain ⟨hle, hlt, hnot⟩ := ht.appSrc m hm
      refine ⟨hle, by omega, fun hmem => ?_⟩
      rcases List.mem_cons.mp hmem with heq | hmem
      · omega
      · exact hnot hmem
    · obtain rfl := List.mem_singleton.mp hm
      refine ⟨?_, hnext, fun hmem => ?_⟩
      · exact Nat.le_add_right_of_le hle
      · rcases List.mem_cons.mp hmem with heq | hmem
        · exact absurd heq (by simp [newMedium])
        · exact absurd (hown _ hmem) (by simp [newMedium])
  · rw [hc.media, List.map_append, List.nodup_append]
    refine ⟨ht.nodup, by simp, fun x hx y hy => ?_⟩
    obtain ⟨m, hm, rfl⟩ := List.mem_map.mp hx
    obtain rfl : y = b.gst.next + 2 := by simpa [newMedium] using hy
    have := (ht.appSrc m hm).2.1
    omega
  · rw [hc.slot] at hy
    split at hy
    · next hx =>
      obtain rfl := Option.some.inj hy
      refine ⟨b.newMedium f, by rw [hc.media]; simp, ?_, rfl⟩
      rw [hx, hc.mounts.factory]
      exact hc.factory
    · obtain ⟨m, hm, hfactory, happ⟩ := ht.slot x y hy
      exact ⟨m, by rw [hc.media]; simp [hm], by rw [hc.mounts.factory]; exact hfactory, happ⟩

theorem mem_slots {a x : Nat} (h : b.slot a = some x) : x ∈ b.slots := by
  obtain ⟨c, hc, hx⟩ := Option.bind_eq_some_iff.mp h
  exact List.mem_filterMap.mpr ⟨c, List.mem_of_getElem? hc, hx⟩

/-- A mount that is given another medium keeps the reference to the appsrc it fed. -/
theorem Tidy.not_counted {own own' : List Nat} {f a x : Nat} (ht : Tidy g₀ b own) (hle : g₀.next ≤ b.gst.next)
    (hc : Configured b b' f a) (hx : b.slot a = some x) (hbooks : g₀.Books b'.gst (b'.slots ++ (x :: own'))) :
    appSrcRefs b' a ≠ (b'.slot a).isSome.toNat := by
  obtain ⟨m, hm, hfactory, rfl⟩ := ht.slot a x hx
  have hslot : b'.slot a = some (b.gst.next + 2) := by rw [hc.slot, if_pos rfl]
  have hheld : ∀ y, g₀.next ≤ y → y ∈ b'.slots ++ (m.appSrc :: own') →
      1 ≤ b'.gst.heap.refs y - (b'.gst.owner y).isSome.toNat := by
    intro y hy hmem
    rw [hbooks.refs hy, Nat.add_sub_cancel]
    exact List.count_pos_iff.mpr hmem
  have hold := hheld m.appSrc (ht.appSrc m hm).1 (by simp)
  have hnew := hheld (b.gst.next + 2) (by omega) (List.mem_append_left _ (mem_slots hslot))
  have hmem : m ∈ b.media.filter fun m => b'.factoryOf a = some m.factory :=
    List.mem_filter.mpr ⟨hm, by rw [hc.mounts.factory]; exact decide_eq_true hfactory⟩
  have hnewer : b'.factoryOf a = some f := (hc.mounts.factory a).trans hc.factory
  have hsum := List.le_sum_of_mem (List.mem_map_of_mem (f := fun m : Medium =>
    b'.gst.heap.refs m.appSrc - (b'.gst.owner m.appSrc).isSome.toNat) hmem)
  rw [hnewer] at hsum
  rw [hslot]
  unfold appSrcRefs
  rw [hc.media, List.filter_append, List.map_append, List.sum_append, List.filter_singleton, hnewer]
  have hone : (some (b.gst.next + 2)).isSome.toNat = 1 := rfl
  simp only [decide_true, cond_true, List.map_singleton, List.sum_singleton, newMedium, hone]
  omega

/-- The references are as they should be, and go on being counted. -/
def Settled (g₀ : Gst) (s : RtspProfileServer × Bridge) : Prop :=
  s.1.server = some g₀.next ∧ ∃ held, Kept g₀ s held ∧ g₀.next ∈ held ∧ Tidy g₀ s.2 (s.1.sources ++ held)

theorem Settled.counted (h : Settled g₀ s) : Counted s := by
  obtain ⟨-, held, hk, -, ht⟩ := h
  exact ht.counted hk.wired hk.books

/-- The destructor leaves a reference for each slot. -/
theorem Settled.destroy (h : Settled g₀ s) (a : Nat) :
    appSrcRefs (s.1.destroy s.2) a = (s.2.slot a).isSome.toNat := by
  obtain ⟨hserver, held, hk, hmem, ht⟩ := h
  obtain ⟨hmounts, hsame⟩ := System.destroy_same s.1 s.2
  obtain ⟨hslots, hslot⟩ := slots_destroy s.1 s.2
  have hquiet : Quiet s.2 (s.1.destroy s.2) := ⟨hmounts, hsame.next_le, rfl, fun a => .inl (hslot a)⟩
  have ht' : Tidy g₀ (s.1.destroy s.2) (held.erase g₀.next) :=
    ht.quiet hquiet fun x hx => .inl (List.mem_append_right _ (List.mem_of_mem_erase hx))
  have hwired := hk.wired.congr hmounts hsame fun m hm => (hk.wired.media m hm).congr hmounts hsame
  rw [ht'.counted hwired (hslots ▸ hk.destroy hserver hmem), hslot]

theorem Settled.step (h : Settled g₀ s) (e : ServerEvent) :
    (Counted (handle s e) ↔ SlotFree s e) ∧ (SlotFree s e → Settled g₀ (handle s e)) := by
  obtain ⟨hserver, held, hk, hmem, ht⟩ := h
  have hserver' := (handle_server s e).trans hserver
  have hsettled : Settled g₀ (handle s e) → SlotFree s e →
      (Counted (handle s e) ↔ SlotFree s e) ∧ (SlotFree s e → Settled g₀ (handle s e)) := fun h hfree =>
    ⟨iff_of_true h.counted hfree, fun _ => h⟩
  rcases hk.handle_cases e with ⟨new, hnew, hquiet, hfree, hk'⟩ | ⟨f, a, rfl, hconf, hsame, hk'⟩
  · refine hsettled ⟨hserver', _, hk', List.mem_append_right _ hmem, ht.quiet hquiet fun x hx => ?_⟩ hfree
    rw [← List.append_assoc] at hx
    rcases List.mem_append.mp hx with hx | hx
    · exact (hnew x hx).imp (fun hx => List.mem_append_left _ hx) id
    · exact .inl (List.mem_append_right _ hx)
  · have hle := hk.books.le
    cases hslot : s.2.slot a with
    | none =>
      have hfree : SlotFree s (.signal (.configure f)) := fun _ a' ha' => by
        rw [hk.wired.eq_of_factory ha' hconf.factory]
        exact hslot
      rw [hslot] at hk'
      have hlt : ∀ x ∈ s.1.sources ++ held, x < s.2.gst.next := fun x hx =>
        hk.books.ledger.lt x (List.mem_append_right _ hx)
      have ht' := ht.configured hle hlt hconf
      refine hsettled ⟨hserver', _, hk', by simp [hmem], ⟨fun m hm => ?_, ht'.nodup, ht'.slot⟩⟩ hfree
      obtain ⟨hle, hlt, hnot⟩ := ht'.appSrc m hm
      refine ⟨hle, hlt, fun hx => hnot ?_⟩
      rw [hsame] at hx
      exact (@List.perm_middle _ _ s.1.sources held).mem_iff.mp hx
    | some x =>
      have hbooks := hk'.books
      rw [hslot, hsame] at hbooks
      have hnot : ¬ Counted (handle s (.signal (.configure f))) := fun h =>
        ht.not_counted hle hconf hslot (hbooks.perm (List.perm_middle.append_left _)) (h a)
      have hoccupied : ¬ SlotFree s (.signal (.configure f)) := fun h => by
        rw [h hconf.alive a hconf.factory] at hslot
        cases hslot
      exact ⟨iff_of_false hnot hoccupied, fun h => absurd h hoccupied⟩

theorem construct_settled (port : UInt16) (h : ProfileHost) (g : Gst) : Settled g (construct port h { gst := g }) := by
  obtain ⟨-, -, hmedia, -⟩ := construct_spec port h { gst := g }
  have hfeeding := construct_feeding port h g
  refine ⟨rfl, _, construct_kept port h g, by simp, ⟨?_, ?_, fun a x hx => ?_⟩⟩
  · rw [hmedia]; simp
  · rw [hmedia]; exact List.nodup_nil
  · have hnone := hfeeding.feeds a
    rw [Feeds, hx, served, hmedia] at hnone
    cases hnone

end

/-- The references never balance, because the destructor drops one of two references to the server. Those
to the appsrcs do if and only if no medium is configured for a mount that feeds another one, and no mount
feeds anything when the server is destroyed. -/
theorem references_never_balanced (port : UInt16) (h : ProfileHost) (g : Gst) (events : List ServerEvent) :
    ¬ (Throughout handle Counted (construct port h { gst := g }) events ∧
        Released (run handle (construct port h { gst := g }) events)) ∧
      (Throughout handle Counted (construct port h { gst := g }) events ∧
          Emptied (run handle (construct port h { gst := g }) events) ↔
        Along handle SlotFree (construct port h { gst := g }) events ∧
          ∀ a, (run handle (construct port h { gst := g }) events).2.slot a = none) := by
  have hsettled := construct_settled port h g
  have hthroughout : Throughout handle Counted (construct port h { gst := g }) events ↔
      Along handle SlotFree (construct port h { gst := g }) events :=
    throughout_iff_along (fun _ hs => hs.counted) (fun _ e hs => (hs.step e).1) (fun _ e hs => (hs.step e).2) hsettled events
  constructor
  · rintro ⟨-, hreleased⟩
    obtain ⟨hserver, held, hk, hcount⟩ := run_kept port h g events
    have halive := server_kept hk hserver (Nat.le_refl _) hcount
    rw [hreleased.server _ hserver] at halive
    cases halive
  · rw [hthroughout]
    refine and_congr_right fun halong => ?_
    have hend : Settled g (run handle (construct port h { gst := g }) events) :=
      along_invariant hsettled (fun _ e hs => (hs.step e).2) halong
    refine forall_congr' fun a => ?_
    rw [hend.destroy]
    cases (run handle (construct port h { gst := g }) events).2.slot a <;> simp

/-- A server that is made and destroyed again keeps one reference. -/
theorem references_unbalanced :
    let s := construct 8554 (ProfileHost.new [{ name := ascii "hd" }]) { gst := Gst.init }
    ¬ (Throughout handle Counted s [] ∧ Released (run handle s [])) := by
  rintro s ⟨-, hreleased⟩
  exact absurd (hreleased.server 0 rfl) (by decide)

end RtspProfileServer

end CameraPlatform
