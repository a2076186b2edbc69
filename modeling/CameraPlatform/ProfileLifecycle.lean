import CameraPlatform.ProfileSwitch
import CameraPlatform.System

/-!
# The documented states of a profile

The documentation derives the state of a profile from its last request and from its media. The
program publishes the requests alone, so the two agree until a medium of an enabled profile is
prepared, and again once it is unprepared.
-/

namespace CameraPlatform
open ByteString RefHeap History

/-- The two sources that write the state of a profile. -/
inductive ControlEvent where
  | request (name : Bytes) (enabled : Bool)
  | media (e : BridgeEvent)

namespace ControlEvent

def toSystem : ControlEvent → SystemEvent
  | request name enabled => .host (.setProfileEnabled name enabled)
  | media e => .bridge e

/-- The requests among the events. -/
def requests (events : List ControlEvent) : List (Bytes × Bool) :=
  events.filterMap fun
    | request name enabled => some (name, enabled)
    | media _ => none

end ControlEvent

namespace System
open ProfileHost ControlEvent

/-- A medium of the profile is prepared and was not unprepared yet. -/
def watched (s : System) (name : Bytes) : Bool :=
  s.bridge.media.any fun m => m.prepared && !m.unprepared &&
    s.bridge.mounts.any fun c => c.mount.name == name && c.mount.factory == some m.factory

/-- The state that is documented for a last request. -/
def documentedState (enabled watched : Bool) : Bytes :=
  if enabled then if watched then proto.kStateLive else proto.kStateReady else proto.kStateOff

/-- Every profile that was named has the state that is documented. -/
def AsDocumented (s : System) (requests : List (Bytes × Bool)) : Prop :=
  ∀ p ∈ s.host.profiles, ∀ enabled, last p.name requests = some enabled →
    p.state = documentedState enabled (s.watched p.name)

/-- A host that was set up, with its server. -/
def setUp (faults : SetupFaults) (h : ProfileHost) (g : Gst) (port : UInt16) : System :=
  let (host, gst) := (setupPipeline faults h g).2
  ({ host, bridge := { gst } } : System).step (.construct port)

/-- Each profile has the state of its last request. -/
structure Requested (requests : List (Bytes × Bool)) (h : ProfileHost) : Prop where
  names : (h.profileBins.map fun b => b.profile.name).Nodup
  state : ∀ p ∈ h.profiles, ∀ enabled, last p.name requests = some enabled → p.state = stateFor enabled

theorem Requested.call {requests : List (Bytes × Bool)} {h : ProfileHost} (hr : Requested requests h)
    (c : Bytes × Bool) (g : Gst) : Requested (requests ++ [c]) (call (h, g) c).1 := by
  rw [call_eq hr.names]
  refine ⟨?_, fun p hp enabled hlast => ?_⟩
  · rw [List.map_map]
    have hname : ((fun b : ProfileBin => b.profile.name) ∘ fun b =>
        if b.profile.name = c.1 then { b with profile := requested (some c.2) b.profile } else b) =
        fun b => b.profile.name := by
      funext b
      simp only [Function.comp]
      split <;> rfl
    rw [hname]
    exact hr.names
  · obtain ⟨b', hb', rfl⟩ := List.mem_map.mp hp
    obtain ⟨b, hb, rfl⟩ := List.mem_map.mp hb'
    split at hlast
    · next hname =>
      rw [if_pos hname]
      rw [last_concat] at hlast
      have : c.1 = (requested (some c.2) b.profile).name := hname.symm
      rw [if_pos this] at hlast
      obtain rfl := Option.some.inj hlast
      rfl
    · next hname =>
      rw [if_neg hname]
      rw [last_concat, if_neg (Ne.symm hname)] at hlast
      exact hr.state b.profile (List.mem_map.mpr ⟨b, hb, rfl⟩) enabled hlast

theorem requests_concat (events : List ControlEvent) (e : ControlEvent) :
    requests (events ++ [e]) = requests events ++ requests [e] := List.filterMap_append

/-- Media events leave the host alone, so the requests decide. -/
theorem requested_run {s : System} (h0 : Requested [] s.host) (events : List ControlEvent) :
    Requested (requests events) (run System.step s (events.map toSystem)).host := by
  induction events using List.reverseRecOn with
  | nil => exact h0
  | append_singleton events e ih =>
    rw [List.map_append, requests_concat, List.map_singleton, run_concat]
    cases e with
    | request name enabled => exact ih.call (name, enabled) _
    | media e =>
      rw [show requests [media e] = [] from rfl, List.append_nil]
      exact ih

/-- After any requests and media events: the states are the documented ones if and only if no
profile that was switched on last has a prepared medium. -/
theorem states_documented_iff (faults : SetupFaults) (h : ProfileHost) (g : Gst) (port : UInt16)
    (hok : (setupPipeline faults h g).1.ok = true) (events : List ControlEvent) :
    let s := run System.step (setUp faults h g port) (events.map toSystem)
    s.AsDocumented (requests events) ↔
      ∀ p ∈ s.host.profiles, last p.name (requests events) = some true → s.watched p.name = false := by
  intro s
  obtain ⟨ns, hready⟩ := setupPipeline_ready hok
  have h0 : Requested [] (setUp faults h g port).host := ⟨hready.names, fun p _ enabled hlast => (by cases hlast)⟩
  have hstate := (requested_run h0 events).state
  constructor
  · intro hdoc p hp hlast
    have := (hstate p hp true hlast).symm.trans (hdoc p hp true hlast)
    cases hw : s.watched p.name with
    | false => rfl
    | true =>
      rw [hw] at this
      exact absurd this (by decide)
  · intro hquiet p hp enabled hlast
    rw [hstate p hp enabled hlast]
    cases enabled with
    | false => rfl
    | true => rw [hquiet p hp hlast]; rfl

/-- A viewer comes and goes while the profile is on. -/
theorem states_documented_hd :
    let h := ((ProfileHost.new [{ name := ascii "hd" }]).setVideoSource (some .TestVideoSource)).2
    let events : List ControlEvent :=
      [.request (ascii "hd") true, .media (.configure 15), .media (.prepared 0), .media (.unprepared 0)]
    let s := run System.step (setUp ⟨fun _ => false, fun _ _ => false⟩ h .init 8554) (events.map toSystem)
    s.AsDocumented (requests events) ↔
      ∀ p ∈ s.host.profiles, last p.name (requests events) = some true → s.watched p.name = false := by
  intro h events
  exact states_documented_iff _ h .init 8554 (by decide +kernel) events

/-- A viewer is there, and the profile is still reported as ready. -/
theorem states_documented_live :
    let h := ((ProfileHost.new [{ name := ascii "hd" }]).setVideoSource (some .TestVideoSource)).2
    let events : List ControlEvent :=
      [.request (ascii "hd") true, .media (.configure 15), .media (.prepared 0)]
    ¬ (run System.step (setUp ⟨fun _ => false, fun _ _ => false⟩ h .init 8554) (events.map toSystem)).AsDocumented
        (requests events) := by
  intro h events hdoc
  exact absurd (hdoc { name := ascii "hd", state := proto.kStateReady } (by decide +kernel) true rfl)
    (by decide +kernel)

end System

end CameraPlatform
