import CameraPlatform.BridgeSetup
import CameraPlatform.HostEvents

/-!
# A host and its servers

The servers of one host share its heap, its appsinks and the list of everything that was connected.
-/

namespace CameraPlatform
open ByteString RefHeap History Bridge

/-- A server is `none` once it was destroyed. -/
structure System where
  host : ProfileHost
  servers : List (Option RtspProfileServer) := []
  bridge : Bridge

inductive SystemEvent where
  | host (e : HostEvent)
  | construct (port : UInt16)
  | attach (server : Nat) (error : Option Bytes) (context : Nat)
  | detach (server : Nat)
  | destroy (server : Nat)
  | bridge (e : BridgeEvent)

namespace System

/-- A new host, before anything was set up. -/
def new (catalog : List ProfileInfo) (g : Gst) : System := { host := .new catalog, bridge := { gst := g } }

/-- Nothing happens to a server that was destroyed. -/
def onServer (s : System) (i : Nat) (call : RtspProfileServer → System) : System :=
  match s.servers[i]? with
  | some (some server) => call server
  | _ => s

def step (s : System) : SystemEvent → System
  | .host e =>
    let (host, gst) := ProfileHost.handle (s.host, s.bridge.gst) e
    { s with host, bridge := { s.bridge with gst } }
  | .construct port =>
    let (server, bridge) := RtspProfileServer.construct port s.host s.bridge
    { s with servers := s.servers ++ [some server], bridge }
  | .attach i error context => s.onServer i fun server =>
    let (_, server, gst) := server.attach error context s.bridge.gst
    { s with servers := s.servers.set i (some server), bridge := { s.bridge with gst } }
  | .detach i => s.onServer i fun server =>
    let (server, gst) := server.detach s.bridge.gst
    { s with servers := s.servers.set i (some server), bridge := { s.bridge with gst } }
  | .destroy i => s.onServer i fun server =>
    { s with servers := s.servers.set i none, bridge := server.destroy s.bridge }
  | .bridge e => { s with bridge := s.bridge.step e }

/-- What holds without the call and after it. -/
theorem onServer_of {P : System → Prop} {s : System} {i : Nat} {call : RtspProfileServer → System} (hs : P s)
    (hcall : ∀ server, P (call server)) : P (s.onServer i call) := by
  unfold onServer
  split
  · next server _ => exact hcall server
  · exact hs

/-- The appsinks of the host and those that mounts took call the mounts that took them. -/
structure Connected (s : System) : Prop where
  wired : s.bridge.Wired
  taken : ∀ a r, s.bridge.sinkOf a = some r → s.bridge.SinkWired r
  sinks : ∀ b ∈ s.host.profileBins, ∀ r, b.appSink = some r → s.bridge.SinkWired r

section
variable {s : System}

theorem connected_new (catalog : List ProfileInfo) (g : Gst) : (new catalog g).Connected := by
  refine ⟨RtspProfileServer.wired_of_empty rfl rfl, fun a r hr => (by cases hr), fun b hb r hr => ?_⟩
  obtain ⟨p, -, rfl⟩ := List.mem_map.mp hb
  cases hr

/-- What changes neither the mounts nor the handlers. -/
theorem Connected.congr (h : s.Connected) {servers : List (Option RtspProfileServer)} {b : Bridge}
    (hsame : SameMounts s.bridge b) (hk : s.bridge.gst.SameHandlers b.gst) (hm : b.media = s.bridge.media) :
    ({ s with servers, bridge := b } : System).Connected := by
  refine ⟨h.wired.congr hsame hk fun m hmem => (h.wired.media m (hm ▸ hmem)).congr hsame hk, fun a r hr => ?_,
    fun x hx r hr => (h.sinks x hx r hr).congr hsame hk⟩
  rw [hsame.sink] at hr
  exact (h.taken a r hr).congr hsame hk

theorem Connected.gst (h : s.Connected) {servers : List (Option RtspProfileServer)} {g : Gst}
    (hk : s.bridge.gst.SameHandlers g) :
    ({ s with servers, bridge := { s.bridge with gst := g } } : System).Connected :=
  h.congr (@Aligned.of_mounts s.bridge { s.bridge with gst := g } rfl).toSameMounts hk rfl

theorem Connected.host (h : s.Connected) (e : HostEvent) : (s.step (.host e)).Connected := by
  obtain ⟨hk, hsinks⟩ := ProfileHost.handle_sinks (s.host, s.bridge.gst) e
  have hgst := @Connected.gst s h s.servers _ hk
  refine ⟨hgst.wired, hgst.taken, fun b hb r hr => ?_⟩
  rcases hsinks b hb r hr with ⟨b', hb', hr'⟩ | ⟨hle, hlt, hh⟩
  · exact hgst.sinks b' hb' r hr'
  · -- a new appsink, which no mount has taken
    refine ⟨hlt, hh.trans ?_⟩
    have hnone : s.bridge.boundTo r = [] := by
      refine List.filter_eq_nil_iff.mpr fun a _ ha => ?_
      exact absurd (h.taken a r (by simpa using ha)).1 (by simpa using hle)
    have hbound : (s.step (.host e)).bridge.boundTo r = s.bridge.boundTo r := rfl
    rw [hbound, hnone]
    rfl

theorem Connected.construct (h : s.Connected) (port : UInt16) : (s.step (.construct port)).Connected := by
  obtain ⟨-, hmounts, -⟩ := RtspProfileServer.construct_spec port s.host s.bridge
  have hsink : ∀ {r : Nat}, s.bridge.SinkWired r → (s.step (.construct port)).bridge.SinkWired r := fun hr =>
    RtspProfileServer.construct_sinkWired port s.host hr
  refine ⟨RtspProfileServer.construct_wired port s.host h.wired, fun a r hr => ?_,
    fun b hb r hr => hsink (h.sinks b hb r hr)⟩
  obtain ⟨c, hc, hr⟩ := Option.bind_eq_some_iff.mp hr
  have hmem : c ∈ s.bridge.mounts ++ RtspProfileServer.newMounts s.host (s.bridge.gst.next + 2) s.host.profiles :=
    hmounts ▸ List.mem_of_getElem? hc
  rcases List.mem_append.mp hmem with hold | hnew
  · obtain ⟨a', ha'⟩ := List.mem_iff_getElem?.mp hold
    exact hsink (h.taken a' r (by rw [sinkOf, ha']; exact hr))
  · obtain ⟨i, hi, rfl⟩ := List.mem_mapIdx.mp hnew
    obtain ⟨b, hb, hr⟩ := Option.bind_eq_some_iff.mp (hr : s.host.appSinkForProfile _ = some r)
    exact hsink (h.sinks b (List.mem_of_find?_eq_some hb) r hr)

theorem attach_same {α : Type} {f : GObject → α} [Gst.Plumbing f] (error : Option Bytes) (context : Nat)
    (server : RtspProfileServer) (g : Gst) : Gst.Same f g (server.attach error context g).2.2 := by
  unfold RtspProfileServer.attach
  split
  · exact .refl
  · split
    · exact .refl
    · split
      · exact Gst.Same.refl.heap rfl
      · exact (Gst.Same.refl.keeps (Gst.Keeps.refl.alloc _ _)).sourceAttach ..

theorem detach_same (server : RtspProfileServer) (g : Gst) : g.SameHandlers (server.detach g).2 := by
  unfold RtspProfileServer.detach
  split
  · exact (Gst.Same.refl.sourceDestroy _).keeps (Gst.Keeps.refl.unref _)
  · exact .refl

/-- The destructor frees mounts, and changes nothing else about them. -/
theorem destroy_same (server : RtspProfileServer) (b : Bridge) :
    SameMounts b (server.destroy b) ∧ b.gst.SameHandlers (server.destroy b).gst := by
  have hget : ∀ a, (server.destroy b).mounts[a]? =
      (b.mounts[a]?).map fun c => if a ∈ (server.detach b.gst).1.mounts then { c with freed := true } else c :=
    fun a => List.getElem?_mapIdx ..
  refine ⟨⟨List.length_mapIdx, fun a => ?_, fun a => ?_, fun a => ?_⟩, ?_⟩
  · rw [sinkOf, hget, sinkOf]
    cases b.mounts[a]? with
    | none => rfl
    | some c => simp only [Option.map_some, Option.bind_some]; split <;> rfl
  · rw [factoryOf, hget, factoryOf]
    cases b.mounts[a]? with
    | none => rfl
    | some c => simp only [Option.map_some, Option.bind_some]; split <;> rfl
  · rw [nameOf, hget, nameOf]
    cases b.mounts[a]? with
    | none => rfl
    | some c => simp only [Option.map_some]; split <;> rfl
  · exact (detach_same server b.gst).keeps (Gst.Keeps.refl.clearObject _)

/-- A medium is configured only while the mount it calls is there. -/
theorem Connected.step (h : s.Connected) (e : SystemEvent)
    (hc : ∀ f, e = .bridge (.configure f) → s.bridge.gst.alive f = true → ∀ a, s.bridge.factoryOf a = some f →
      s.bridge.mountAlive a = true) :
    (s.step e).Connected := by
  cases e with
  | host e => exact h.host e
  | construct port => exact h.construct port
  | attach i error context => exact onServer_of (P := Connected) h fun server => h.gst (attach_same ..)
  | detach i => exact onServer_of (P := Connected) h fun server => h.gst (detach_same ..)
  | destroy i =>
    refine onServer_of (P := Connected) h fun server => ?_
    obtain ⟨hsame, hk⟩ := destroy_same server s.bridge
    exact h.congr hsame hk rfl
  | bridge e =>
    obtain ⟨ha, hk, hw⟩ := h.wired.step e fun f he => hc f (by rw [he])
    refine ⟨hw, fun a r hr => ?_, fun b hb r hr => (h.sinks b hb r hr).congr ha.toSameMounts hk.same⟩
    exact (h.taken a r ((ha.sink a).symm.trans hr)).congr ha.toSameMounts hk.same

end

end System

end CameraPlatform
