import CameraPlatform.ApplicationLife

/-!
# What an application has for its clients

An application makes one server, when its pipeline is set up for the first time. Whatever it does before
and afterwards, the handlers of the mounts find their mounts, each sample goes to the clients of its
profile, and the URL of each profile leads to the mount of that profile.
-/

namespace CameraPlatform
open ByteString RefHeap Gst History

/-- What the handlers and the samples of an object are. -/
def GObject.traffic (o : GObject) : List Handler × Option GstSample × Option GstBuffer := (o.handlers, o.sample, o.buffer)

instance : Plumbing GObject.traffic := ⟨fun _ _ => rfl, fun _ _ => rfl, fun _ _ => rfl⟩

namespace Bridge
variable {b : Bridge} {g : Gst}

theorem aligned_gst (b : Bridge) (g : Gst) : Aligned b { b with gst := g } := .of_mounts rfl

/-- The mounts and the media depend on the handlers of the objects only. -/
theorem Apart.congr (h : b.Apart) (hk : b.gst.SameHandlers g) : ({ b with gst := g } : Bridge).Apart := by
  have hsame := (aligned_gst b g).toSameMounts
  refine ⟨h.wired.congr hsame hk fun m hm => (h.wired.media m hm).congr hsame hk, h.alive,
    fun a r hr => (h.sinks a r hr).congr hsame hk, h.sink_inj, fun x hx => ?_, h.feed_inj, h.slot⟩
  exact Nat.lt_of_lt_of_le (h.feed_lt x hx) hk.next_le

theorem Traced.congr {ps : List Pull} (h : Traced ps b) (hs : Gst.Same GObject.traffic b.gst g) :
    Traced ps { b with gst := g } := by
  refine ⟨h.apart.congr (hs.comp Prod.fst), h.log, fun p hp => ?_, h.order⟩
  obtain ⟨hown, htarget, hcopy⟩ := h.kept p hp
  refine ⟨hown, htarget, fun sample hsample => ?_⟩
  obtain ⟨hlt, hs₁, hb₁⟩ := hcopy sample hsample
  refine ⟨Nat.lt_of_lt_of_le hlt hs.next_le, ?_, ?_⟩
  · exact (hs.bind (fun t => t.2.1) (Nat.lt_of_succ_lt hlt)).trans hs₁
  · exact (hs.bind (fun t => t.2.2) hlt).trans hb₁

/-- While no mount was freed, every emission is safe. -/
theorem Apart.safe (h : b.Apart) (e : BridgeEvent) : b.Safe e := by
  have hfactory : ∀ {a f : Nat}, b.factoryOf a = some f → b.mountAlive a = true := fun ha =>
    h.alive _ (RtspProfileServer.lt_of_factoryOf ha)
  cases e with
  | newSample sink pulled =>
    intro _ a ha
    obtain ⟨c, hc, -⟩ := Option.bind_eq_some_iff.mp ha
    exact h.alive a (List.getElem?_eq_some_iff.mp hc).1
  | configure f => exact fun _ a ha => hfactory ha
  | prepared i => exact fun m _ a ha => hfactory ha
  | unprepared i => exact fun m _ a ha => hfactory ha

end Bridge

namespace ProfileHost

theorem ports_names (h : ProfileHost) : h.ports.map (·.1) = h.profiles.map (·.name) := by
  rw [ports, profiles, List.map_map, List.map_map]
  rfl

end ProfileHost

namespace Application
open ProfileHost Bridge

/-! ### One server -/

/-- Without a server there are no mounts, and a server has a pipeline. -/
structure Founded (app : Application) : Prop where
  unserved : app.rtsp.map (·.server) = none → app.bridge = { gst := app.bridge.gst }
  served : app.rtsp.isSome = true → app.host.pipeline.isSome = true

theorem Founded.of_none {app : Application} (h : app.Founded) (hp : app.host.pipeline = none) :
    app.bridge = { gst := app.bridge.gst } := by
  refine h.unserved ?_
  cases hr : app.rtsp with
  | none => rfl
  | some r =>
    have hsome := h.served (by rw [hr]; rfl)
    rw [hp] at hsome
    cases hsome

theorem rtsp_isSome {app app' : Application} (h : app'.rtsp.map (·.server) = app.rtsp.map (·.server)) :
    app'.rtsp.isSome = app.rtsp.isSome := by
  rw [← Option.isSome_map, h, Option.isSome_map]

theorem Founded.unmoved {app app' : Application} (h : app.Founded) (hs : Unmoved app app') : app'.Founded := by
  refine ⟨fun hnone => ?_, fun hsome => ?_⟩
  · rw [hs.bridge, h.unserved (hs.server.symm.trans hnone)]
  · rw [hs.pipeline]
    exact h.served (rtsp_isSome hs.server ▸ hsome)

theorem founded_new (g : Gst) : (new g).Founded := by
  rw [new_eq]
  exact ⟨fun _ => rfl, fun h => absurd h (by simp)⟩

theorem Founded.request {app : Application} (h : app.Founded) (name : Bytes) (enabled : Bool) :
    (app.handle (.request name enabled)).Founded := by
  obtain ⟨-, -, hpipeline⟩ := @setProfileEnabled_same (app.host, app.bridge.gst) _ GObject.traffic (fun _ _ => rfl) name
    enabled
  refine ⟨fun hnone => ?_, fun hsome => hpipeline ▸ h.served hsome⟩
  exact congrArg (fun b : Bridge => { b with gst := (app.handle (.request name enabled)).bridge.gst }) (h.unserved hnone)

/-- Without mounts nothing emits. -/
theorem step_unserved (g : Gst) (e : BridgeEvent) : ({ gst := g } : Bridge).step e = { gst := g } := by
  cases e <;> rfl

theorem Founded.bridge {app : Application} (h : app.Founded) (e : BridgeEvent) : (app.handle (.bridge e)).Founded := by
  refine ⟨fun hnone => ?_, h.served⟩
  show app.bridge.step e = { gst := (app.bridge.step e).gst }
  rw [h.unserved hnone, step_unserved]

theorem Founded.setUp {app : Application} (h : app.Founded) (hp : app.host.pipeline = none) (faults : SetupFaults) :
    (app.setUp faults).Founded := by
  have hbridge := h.of_none hp
  have hrtsp : ¬ app.rtsp.isSome = true := fun hsome => by
    have := h.served hsome
    rw [hp] at this
    cases this
  refine ⟨fun _ => ?_, fun hsome => absurd hsome hrtsp⟩
  exact congrArg (fun b : Bridge => { b with gst := (app.setUp faults).bridge.gst }) hbridge

/-! ### Samples -/

/-- The names of the profiles tell their mounts apart, and the handlers have always found them. -/
structure Bridged (app : Application) : Prop where
  founded : app.Founded
  traced : ∃ ps, Traced ps app.bridge
  dangling : app.bridge.dangling = []
  names : (app.host.ports.map (·.1)).Nodup
  paired : app.rtsp.isSome = true → Paired app.host.ports app.bridge

section
variable {app app' : Application}

/-- What only works on objects, and leaves the appsinks of the profiles. -/
theorem Bridged.congr (h : app.Bridged) (hfounded : app'.Founded) (hports : app'.host.ports = app.host.ports)
    (hrtsp : app'.rtsp.isSome = app.rtsp.isSome) (hbridge : app'.bridge = { app.bridge with gst := app'.bridge.gst })
    (hsame : Gst.Same GObject.traffic app.bridge.gst app'.bridge.gst) : app'.Bridged := by
  obtain ⟨ps, hps⟩ := h.traced
  refine ⟨hfounded, ⟨ps, ?_⟩, ?_, hports ▸ h.names, fun hsome => ?_⟩
  · rw [hbridge]
    exact hps.congr hsame
  · rw [hbridge]
    exact h.dangling
  · rw [hbridge, hports]
    exact (h.paired (hrtsp ▸ hsome)).congr (aligned_gst ..).toSameMounts

theorem Bridged.bridge (h : app.Bridged) (e : BridgeEvent) : (app.handle (.bridge e)).Bridged := by
  obtain ⟨ps, hps⟩ := h.traced
  have hstepped := (hps.apart.step e).1
  refine ⟨h.founded.bridge e, ⟨_, hps.step e⟩, ?_, h.names, fun hsome => ?_⟩
  · exact (step_dangling hps.apart.wired hps.apart.sinks h.dangling e).mpr (hps.apart.safe e)
  · exact (h.paired hsome).congr hstepped.aligned.toSameMounts

/-- A setup that succeeds leaves a bridge without mounts and a host that can be served. -/
theorem Founded.made (h : app.Founded) (hp : app.host.pipeline = none) {faults : SetupFaults}
    (hok : (app.host.setupPipeline faults app.bridge.gst).1.ok = true) :
    (app.setUp faults).bridge = { gst := (app.setUp faults).bridge.gst } ∧
      (app.setUp faults).host.Ported (app.setUp faults).bridge.gst := by
  obtain ⟨ns, hready⟩ := setupPipeline_ready hok
  exact ⟨congrArg (fun b : Bridge => { b with gst := (app.setUp faults).bridge.gst }) (h.of_none hp), hready.ported⟩

theorem served_bridge (h : app.bridge = { gst := app.bridge.gst }) : app.served.bridge =
    (RtspProfileServer.construct proto.kRtspPort app.host { gst := app.bridge.gst }).2 := by
  rw [← h]
  rfl

theorem bridged_served (hbridge : app.bridge = { gst := app.bridge.gst }) (hported : app.host.Ported app.bridge.gst) :
    app.served.Bridged := by
  have hserved := served_bridge hbridge
  obtain ⟨-, -, -, hdangling, hlog⟩ :=
    RtspProfileServer.construct_spec proto.kRtspPort app.host { gst := app.bridge.gst }
  refine ⟨⟨nofun, fun _ => hported.pipeline⟩, ⟨[], ?_⟩, ?_, hported.names, fun _ => ?_⟩
  · rw [hserved]
    exact ⟨RtspProfileServer.construct_apart _ hported, hlog, by simp, .nil⟩
  · rw [hserved]
    exact hdangling
  · rw [hserved]
    exact RtspProfileServer.construct_paired proto.kRtspPort hported

theorem lasting_bridged : Lasting fun _ app => app.Bridged := by
  refine ⟨⟨fun h hs => ?_, fun e h => h.bridge e, fun name enabled h => ?_, fun _ h => h⟩, fun faults hp _ h => ?_,
    fun faults hp hok h => ?_⟩
  · refine h.congr (h.founded.unmoved hs) ?_ (rtsp_isSome hs.server) hs.bridge hs.same
    exact congrArg (List.map fun b : ProfileBin => (b.profile.name, b.appSink)) hs.profileBins
  · rename_i app
    obtain ⟨hsame, hports, -⟩ := @setProfileEnabled_same (app.host, app.bridge.gst) _ GObject.traffic (fun _ _ => rfl)
      name enabled
    exact h.congr (h.founded.request name enabled) hports rfl rfl hsame
  · rename_i app _
    obtain ⟨ps, hps⟩ := h.traced
    have hkeeps := (@setupPipeline_sinks faults app.host app.bridge.gst).1
    refine ⟨h.founded.setUp hp faults, ⟨ps, hps.congr hkeeps.same⟩, h.dangling, ?_, fun hsome => ?_⟩
    · rw [ports_names, show (app.setUp faults).host.profiles = _ from setupPipeline_profiles .., ← ports_names]
      exact h.names
    · have := h.founded.served hsome
      rw [hp] at this
      cases this
  · obtain ⟨hbridge, hported⟩ := h.founded.made hp hok
    exact bridged_served hbridge hported

theorem bridged_new (g : Gst) : (new g).Bridged := by
  have hwired : ({ gst := g } : Bridge).Wired := RtspProfileServer.wired_of_empty rfl rfl
  refine ⟨founded_new g, ⟨[], ?_⟩, ?_, ?_, ?_⟩
  · rw [new_eq]
    exact ⟨⟨hwired, nofun, nofun, nofun, nofun, nofun, nofun⟩, rfl, nofun, .nil⟩
  · rw [new_eq]
  · rw [ports_names, show (new g).host.profiles = _ from profiles_new g, listed_names]
    exact catalog_names
  · rw [new_eq]
    exact fun h => absurd h (by simp)

/-- A mount is made for a profile that is reported. -/
theorem Bridged.name_mem (h : app.Bridged) {a : Nat} {name : Bytes} (ha : app.bridge.nameOf a = some name) :
    name ∈ app.profiles.map (·.name) := by
  have hserver : app.rtsp.isSome = true := by
    rw [← Option.isSome_map (f := RtspProfileServer.server)]
    by_contra hnone
    rw [Bridge.nameOf, h.founded.unserved (Option.not_isSome_iff_eq_none.mp hnone)] at ha
    cases ha
  rw [(h.paired hserver).name] at ha
  obtain ⟨x, hx, rfl⟩ := Option.map_eq_some_iff.mp ha
  rw [profiles, ← ports_names]
  exact List.mem_map_of_mem (List.mem_of_getElem? hx)

end

/-- How samples go from the appsinks of the profiles to the clients. -/
structure Delivers (app : Application) : Prop where
  /-- No handler was ever called with a mount that is not there. -/
  dangling : app.bridge.dangling = []
  /-- Once there is a server, each profile has a mount that took its appsink. -/
  mounted : app.rtsp.isSome = true → Mounted app.host app.bridge
  /-- An appsink that emits is pulled from once, for the mount that took it. -/
  pulled : ∀ a sink, app.bridge.sinkOf a = some sink → app.bridge.gst.alive sink = true → ∀ pulled,
    app.bridge.pullsAt (.newSample sink pulled) = [⟨a, sink, pulled a, app.bridge.slot a, app.bridge.gst.next⟩]
  /-- A pull leaves no reference to the sample, nor to the copy but the one that the appsrc was handed. -/
  settled : ∀ sink pulled, ∀ p ∈ app.bridge.pullsAt (.newSample sink pulled), ∀ sample, p.sample = some sample →
    p.Settled sample app.bridge.gst (app.bridge.step (.newSample sink pulled)).gst
  /-- The log is made of pulls, and each of them was finished: the copy of the sample, without times, went to
  a medium of the mount of the appsink, and the sample and the copy were given up once. -/
  log : ∃ ps : List Pull, app.bridge.log = ps.flatMap Pull.trace ∧ ∀ p ∈ ps,
    app.bridge.sinkOf p.address = some p.sink ∧
      (∀ appSrc, p.target = some appSrc → ∃ m ∈ app.bridge.media, m.appSrc = appSrc ∧
        app.bridge.factoryOf p.address = some m.factory) ∧
      ∀ sample, p.sample = some sample → (app.bridge.gst.obj p.object).bind (·.sample) = some sample ∧
        (app.bridge.gst.obj (p.object + 1)).bind (·.buffer) = some sample.buffer.timeless ∧
        app.bridge.log.filter (Action.releases p.object) = [.sampleUnref p.object] ∧
        app.bridge.log.filter (Action.releases (p.object + 1)) = [p.disposal]

theorem Bridged.delivers {app : Application} (h : app.Bridged) : app.Delivers := by
  obtain ⟨ps, hps⟩ := h.traced
  refine ⟨h.dangling, fun hsome => (h.paired hsome).mounted h.names, fun a sink ha halive pulled => ?_,
    fun sink pulled => hps.apart.step_settled _, ps, hps.log, fun p hp =>
      ⟨(hps.kept p hp).own, fun r hr => ?_, fun sample hsample => ?_⟩⟩
  · rw [pullsAt, if_pos halive, hps.apart.boundTo ha]
    rfl
  · obtain ⟨f, hf, hmem⟩ := (hps.kept p hp).target r hr
    obtain ⟨m, hm, heq⟩ := List.mem_map.mp hmem
    obtain ⟨rfl, rfl⟩ := Prod.mk.inj heq
    exact ⟨m, hm, rfl, hf⟩
  · have hs : p.sample.isSome = true := by rw [hsample]; rfl
    obtain ⟨-, hobj, hbuffer⟩ := (hps.kept p hp).copy sample hsample
    obtain ⟨hself, hcopy⟩ := filter_trace_self hs
    exact ⟨hobj, hbuffer, (hps.filter_log hp hs (.inl rfl)).trans hself, (hps.filter_log hp hs (.inr rfl)).trans hcopy⟩

/-- In every life of an application, at every moment of it, samples are delivered. -/
theorem samples_delivered (g : Gst) (calls : List AppCall) : (run react (new g) calls).Delivers :=
  (@Lasting.run _ lasting_bridged calls [] _ (bridged_new g)).delivers

end Application

/-! ### URLs -/

namespace proto

/-- Where a client finds what a URL names: the path of a service of a host. -/
structure Location where
  host : Bytes
  service : Bytes
  path : Bytes
deriving DecidableEq

/-- What a client makes of a URL, if its scheme is the one that is served. -/
def location (url : Bytes) : Option Location := do
  let (scheme, rest) ← breakOn (ascii "://") url
  let (authority, mount) ← breakOn (ascii "/") rest
  let (host, service) ← breakOn (ascii ":") authority
  if scheme = kRtspScheme then some ⟨host, service, ascii "/" ++ mount⟩ else none

theorem decimal_clean (n : Nat) : 47 ∉ decimal n := fun h => by
  have hdigit := isDigit_of_mem_decimal 47 h
  simp [isDigit] at hdigit

/-- A URL that was made for a host whose name has neither a colon nor a slash is read back. -/
theorem location_rtspUrlFor (port : UInt16) (mount : Bytes) {host : Bytes} (hhost : 58 ∉ host ∧ 47 ∉ host) :
    location (rtspUrlFor port mount host) = some ⟨host, decimal port.toNat, ascii "/" ++ mount⟩ := by
  have hurl : rtspUrlFor port mount host =
      kRtspScheme ++ (ascii "://" ++ (host ++ (ascii ":" ++ decimal port.toNat) ++ (ascii "/" ++ mount))) := by
    simp only [rtspUrlFor, List.append_assoc]
  have hscheme : breakOn (ascii "://") (rtspUrlFor port mount host) =
      some (kRtspScheme, host ++ (ascii ":" ++ decimal port.toNat) ++ (ascii "/" ++ mount)) := by
    rw [hurl]
    exact breakOn_append (by decide) _
  have hauthority : breakOn (ascii "/") (host ++ (ascii ":" ++ decimal port.toNat) ++ (ascii "/" ++ mount)) =
      some (host ++ (ascii ":" ++ decimal port.toNat), mount) := by
    refine @breakOn_append 47 [] _ ?_ mount
    simp only [List.mem_append, not_or]
    exact ⟨hhost.2, by decide, decimal_clean _⟩
  have hservice : breakOn (ascii ":") (host ++ (ascii ":" ++ decimal port.toNat)) = some (host, decimal port.toNat) :=
    breakOn_append hhost.1 _
  rw [location, hscheme]
  simp only [Option.bind_eq_bind, Option.bind_some, hauthority, hservice, if_true]

end proto

namespace RtspProfileServer
open Bridge

section
variable (h : ProfileHost) (mountPoints : Nat) (b : Bridge)

theorem addMount_path (name : Bytes) : (addMount h mountPoints name b).gst.prop b.gst.next (ascii "path") =
    some (.string (cStr (ascii "/" ++ name))) := by
  have hpath : ∀ g : Gst, (g.obj b.gst.next).isSome = true →
      ((g.setObject b.gst.next (ascii "path") (.string (cStr (ascii "/" ++ name)))).setOwner mountPoints
        b.gst.next).prop b.gst.next (ascii "path") = some (.string (cStr (ascii "/" ++ name))) := by
    intro g hg
    rw [Gst.prop, obj_setOwner, ← Gst.prop, prop_setObject, if_pos ⟨rfl, rfl, hg⟩]
  unfold addMount
  refine hpath _ ?_
  cases h.appSinkForProfile name with
  | none => simp [connect, setObject, obj_update, obj_alloc]
  | some sink =>
    simp only [connect, setObject, obj_update, obj_alloc, if_true, Option.map_some]
    split <;> rfl

theorem addMounts_paths (profiles : List ProfileInfo) : ∀ i p, profiles[i]? = some p →
    (addMounts h mountPoints profiles b).gst.prop (b.gst.next + i) (ascii "path") =
      some (.string (cStr (ascii "/" ++ p.name))) := by
  induction profiles using List.reverseRecOn with
  | nil => exact fun i p hi => by cases hi
  | append_singleton profiles profile ih =>
    intro i p hi
    obtain ⟨-, hnext, -⟩ := @addMounts_spec b h mountPoints profiles
    rw [addMounts_concat]
    rcases Nat.lt_or_ge i profiles.length with hlt | hge
    · rw [List.getElem?_append_left hlt] at hi
      have hold := ih i p hi
      have hsame := addMount_same (b := addMounts h mountPoints profiles b) (f := GObject.props) h mountPoints
        profile.name fun _ _ => by rfl
      exact (hsame.prop (lt_of_prop hold) _).trans hold
    · obtain ⟨hlt, hp⟩ := List.getElem?_eq_some_iff.mp hi
      obtain rfl : i = profiles.length := by
        rw [List.length_append, List.length_singleton] at hlt
        omega
      obtain rfl : profile = p := by simpa using hp
      rw [← hnext]
      exact addMount_path ..

end

section
variable (port : UInt16) (h : ProfileHost) (b : Bridge)

theorem construct_service : (construct port h b).2.gst.prop b.gst.next (ascii "service") =
    some (.string (decimal port.toNat)) := by
  have hnew : (withServer port b).gst.prop b.gst.next (ascii "service") = some (.string (decimal port.toNat)) := by
    rw [withServer, Gst.prop, obj_ref, ← Gst.prop, serverNew, prop_setObject]
    exact if_pos ⟨rfl, rfl, by simp [obj_alloc]⟩
  have hmounts : (withServer port b).gst.SameProps (withMounts port h b).gst :=
    addMounts_invariant h _ (fun b' => (withServer port b).gst.SameProps b'.gst) .refl
      (fun b' name hb => hb.trans (addMount_same h _ name fun _ _ => by rfl)) h.profiles
  exact ((hmounts.keeps (Gst.Keeps.refl.unref _)).prop (lt_of_prop hnew) _).trans hnew

theorem construct_path {i : Nat} {p : ProfileInfo} (hi : h.profiles[i]? = some p) :
    (construct port h b).2.gst.prop (b.gst.next + 2 + i) (ascii "path") =
      some (.string (cStr (ascii "/" ++ p.name))) := by
  have hpath := addMounts_paths h (b.gst.next + 1) (withServer port b) h.profiles i p hi
  rw [withServer_next] at hpath
  exact ((Gst.Same.refl.keeps (Gst.Keeps.refl.unref _) : (withMounts port h b).gst.SameProps _).prop
    (lt_of_prop hpath) _).trans hpath

theorem construct_factoryOf (g : Gst) (a : Nat) : (construct port h { gst := g }).2.factoryOf a =
    (h.profiles[a]?).map fun _ => g.next + 2 + a := by
  obtain ⟨-, hmounts, -⟩ := construct_spec port h { gst := g }
  rw [factoryOf, hmounts, List.nil_append, newMounts, List.getElem?_mapIdx, Option.bind_map]
  cases h.profiles[a]? <;> rfl

end

end RtspProfileServer

namespace Application
open ProfileHost Bridge

/-- The server and the paths of its mounts, which have the addresses of their profiles in the catalog. -/
structure Addressed (s : Nat) (app : Application) : Prop where
  server : app.rtsp.map (·.server) = some (some s)
  service : app.bridge.gst.prop s (ascii "service") = some (.string (decimal proto.kRtspPort.toNat))
  mounts : ∀ (i : Nat) x, app.host.ports[i]? = some x → ∃ f r, app.bridge.factoryOf i = some f ∧
    app.bridge.gst.prop f (ascii "path") = some (.string (cStr (ascii "/" ++ x.1))) ∧
    x.2 = some r ∧ app.bridge.sinkOf i = some r
  size : ∀ i f, app.bridge.factoryOf i = some f → i < app.host.ports.length

section
variable {app app' : Application} {s : Nat}

/-- What writes neither the port nor the paths. -/
theorem Addressed.congr (h : Addressed s app) (hserver : app'.rtsp.map (·.server) = app.rtsp.map (·.server))
    (hports : app'.host.ports = app.host.ports) (hmounts : SameMounts app.bridge app'.bridge)
    (hprop : ∀ x v, ∀ key ∈ [ascii "service", ascii "path"], app.bridge.gst.prop x key = some v →
      app'.bridge.gst.prop x key = some v) : Addressed s app' := by
  refine ⟨hserver.trans h.server, hprop _ _ _ (by simp) h.service, fun i x hi => ?_, fun i f hf => ?_⟩
  · obtain ⟨f, r, hf, hpath, hr, ha⟩ := h.mounts i x (hports ▸ hi)
    exact ⟨f, r, (hmounts.factory i).trans hf, hprop _ _ _ (by simp) hpath, hr, (hmounts.sink i).trans ha⟩
  · rw [hports]
    exact h.size i f ((hmounts.factory i).symm.trans hf)

/-- Switching writes one property. -/
theorem prop_request (name : Bytes) (enabled : Bool) {x : Nat} {key : Bytes} {v : GValue} (hkey : key ≠ ascii "drop")
    (h : app.bridge.gst.prop x key = some v) :
    (app.handle (.request name enabled)).bridge.gst.prop x key = some v := by
  have hset : ∀ b : ProfileBin, (b.setDrop (!enabled) app.bridge.gst).prop x key = some v := by
    intro b
    unfold ProfileBin.setDrop
    cases b.valve with
    | none => exact h
    | some valve =>
      show (app.bridge.gst.setObject valve _ _).prop x key = some v
      rw [prop_setObject, if_neg fun hk => hkey hk.2.1]
      exact h
  show (app.host.setProfileEnabled name enabled app.bridge.gst).2.2.prop x key = some v
  unfold ProfileHost.setProfileEnabled
  cases app.host.profileBins.findIdx? fun b => b.profile.name == name with
  | none => exact h
  | some i =>
    simp only
    cases app.host.profileBins[i]? with
    | none => exact h
    | some b => exact hset b

theorem addressed_served (hbridge : app.bridge = { gst := app.bridge.gst }) (hported : app.host.Ported app.bridge.gst) :
    Addressed app.bridge.gst.next app.served := by
  have hserved := served_bridge hbridge
  have hprofiles : ∀ i, app.host.profiles[i]? = (app.host.profileBins[i]?).map ProfileBin.profile := fun i =>
    List.getElem?_map ..
  refine ⟨rfl, ?_, fun i x hi => ?_, fun i f hf => ?_⟩
  · rw [hserved]
    exact RtspProfileServer.construct_service ..
  · rw [show app.served.host.ports = app.host.ports from rfl] at hi
    have hi' := hi
    rw [ports, List.getElem?_map] at hi'
    obtain ⟨b, hb, rfl⟩ := Option.map_eq_some_iff.mp hi'
    have hprofile : app.host.profiles[i]? = some b.profile := by rw [hprofiles, hb]; rfl
    obtain ⟨r, hr, -, -⟩ := hported.sinks _ (List.mem_of_getElem? hi)
    rw [hserved]
    refine ⟨_, r, ?_, RtspProfileServer.construct_path _ _ _ hprofile, hr, ?_⟩
    · rw [RtspProfileServer.construct_factoryOf, hprofile]
      rfl
    · rw [RtspProfileServer.construct_sinkOf _ hported, hi]
      exact hr
  · rw [hserved, RtspProfileServer.construct_factoryOf, hprofiles, Option.map_map] at hf
    obtain ⟨b, hb, -⟩ := Option.map_eq_some_iff.mp hf
    rw [show app.served.host.ports = app.host.ports from rfl, ports, List.length_map]
    exact (List.getElem?_eq_some_iff.mp hb).1

theorem lasting_addressed :
    Lasting fun _ app => app.Bridged ∧ (app.rtsp.isSome = true → ∃ s, Addressed s app) := by
  refine ⟨⟨fun {es app app'} h hs => ⟨@Carried.unmoved _ lasting_bridged.toCarried es app app' h.1 hs, fun hsome => ?_⟩,
    fun {es app} e h => ⟨h.1.bridge e, fun hsome => ?_⟩,
    fun {es app} name enabled h => ⟨@Carried.request _ lasting_bridged.toCarried es app name enabled h.1, fun hsome => ?_⟩,
    fun _ h => h⟩,
    fun {es app} faults hp hno h => ⟨@Lasting.failed _ lasting_bridged es app faults hp hno h.1, fun hsome => ?_⟩,
    fun {es app} faults hp hok h => ?_⟩
  · obtain ⟨s, h⟩ := h.2 (rtsp_isSome hs.server ▸ hsome)
    refine ⟨s, h.congr hs.server ?_ ?_ fun x v key _ hv => ?_⟩
    · exact congrArg (List.map fun b : ProfileBin => (b.profile.name, b.appSink)) hs.profileBins
    · rw [hs.bridge]
      exact (aligned_gst _ _).toSameMounts
    · have hprops := hs.same (f := GObject.props)
      exact (hprops.prop (lt_of_prop hv) _).trans hv
  · obtain ⟨ps, hps⟩ := h.1.traced
    obtain ⟨s, h⟩ := h.2 hsome
    refine ⟨s, h.congr rfl rfl (hps.apart.step e).1.aligned.toSameMounts fun x v key _ hv => ?_⟩
    have hprops : app.bridge.gst.SameProps (app.bridge.step e).gst := Bridge.step_same (fun _ _ => by rfl) e
    exact (hprops.prop (lt_of_prop hv) _).trans hv
  · obtain ⟨s, h⟩ := h.2 hsome
    have hports := (@setProfileEnabled_same (app.host, app.bridge.gst) _ GObject.traffic (fun _ _ => rfl) name enabled).2.1
    refine ⟨s, h.congr rfl hports (aligned_gst _ _).toSameMounts fun x v key hkey hv => ?_⟩
    refine prop_request name enabled ?_ hv
    rintro rfl
    exact absurd hkey (by decide)
  · have := h.1.founded.served hsome
    rw [hp] at this
    cases this
  · obtain ⟨hbridge, hported⟩ := h.1.founded.made hp hok
    exact ⟨bridged_served hbridge hported, fun _ => ⟨_, addressed_served hbridge hported⟩⟩

end

/-- A client that is given the URL of the profile `p` gets to the mount of `p` on the server, and no other
mount answers to its path. -/
def Leads (app : Application) (p : ProfileInfo) : Prop :=
  ∃ l server a f r, proto.location p.url = some l ∧ l.host = proto.loopback ∧
    app.rtsp.map (·.server) = some (some server) ∧
    app.bridge.gst.prop server (ascii "service") = some (.string l.service) ∧
    app.bridge.factoryOf a = some f ∧ app.bridge.gst.prop f (ascii "path") = some (.string l.path) ∧
    app.bridge.sinkOf a = some r ∧ app.host.appSinkForProfile p.name = some r ∧
    ∀ a' f', app.bridge.factoryOf a' = some f' → app.bridge.gst.prop f' (ascii "path") = some (.string l.path) → a' = a

theorem catalog_urls : ∀ q ∈ kDefaultCatalog, q.url = proto.rtspUrlFor proto.kRtspPort q.name proto.loopback ∧
    cStr (ascii "/" ++ q.name) = ascii "/" ++ q.name := by decide

/-- Listed profiles keep the names and the URLs of the catalog. -/
theorem listed_urls (calls : List (Bytes × Bool)) {p : ProfileInfo} (hp : p ∈ listed calls) :
    p.url = proto.rtspUrlFor proto.kRtspPort p.name proto.loopback ∧ cStr (ascii "/" ++ p.name) = ascii "/" ++ p.name := by
  obtain ⟨q, hq, rfl⟩ := List.mem_map.mp hp
  have hurl : (requested (last q.name calls) q).url = q.url := by cases last q.name calls <;> rfl
  rw [hurl, requested_name]
  exact catalog_urls q hq

/-- Once an application has a server, the URL of each profile it lists leads to the mount of that profile,
whatever else has happened. -/
theorem urls_lead (g : Gst) (calls : List AppCall) (hserver : (run react (new g) calls).rtsp.isSome = true) :
    ∀ p ∈ (run react (new g) calls).profiles, (run react (new g) calls).Leads p := by
  have hprofiles := lasting_profiles.run calls (profiles_new g)
  obtain ⟨hbridged, haddressed⟩ := @Lasting.run _ lasting_addressed calls [] _
    ⟨bridged_new g, fun h => by rw [new_eq] at h; cases h⟩
  generalize run react (new g) calls = app at *
  obtain ⟨s, hs⟩ := haddressed hserver
  -- the path of a mount is a slash and the name of its profile
  have hclean : ∀ (i : Nat) x, app.host.ports[i]? = some x → cStr (ascii "/" ++ x.1) = ascii "/" ++ x.1 := by
    intro i x hi
    obtain ⟨b, hb, rfl⟩ := List.mem_map.mp (List.mem_of_getElem? hi)
    have hmem : b.profile ∈ app.profiles := List.mem_map_of_mem hb
    rw [hprofiles] at hmem
    exact (listed_urls _ hmem).2
  intro p hp
  obtain ⟨b, hb, rfl⟩ := List.mem_map.mp hp
  obtain ⟨i, hi⟩ := List.mem_iff_getElem?.mp hb
  have hport : app.host.ports[i]? = some (b.profile.name, b.appSink) := by rw [ports, List.getElem?_map, hi]; rfl
  obtain ⟨f, r, hf, hpath, hr, ha⟩ := hs.mounts i _ hport
  have hnames := hbridged.names
  have hurl := (listed_urls _ (hprofiles ▸ hp : b.profile ∈ listed _)).1
  refine ⟨⟨proto.loopback, decimal proto.kRtspPort.toNat, ascii "/" ++ b.profile.name⟩, s, i, f, r, ?_, rfl,
    hs.server, hs.service, hf, ?_, ha, ?_, fun i' f' hf' hpath' => ?_⟩
  · rw [hurl]
    exact proto.location_rtspUrlFor _ _ (by decide)
  · rw [hpath, hclean i _ hport]
  · rw [ports, List.map_map] at hnames
    rw [appSinkForProfile, find_of_names hnames hb]
    exact hr
  · have hlt := hs.size i' f' hf'
    have hport' : app.host.ports[i']? = some app.host.ports[i'] := List.getElem?_eq_getElem hlt
    obtain ⟨f₁, -, hf₁, hpath₁, -⟩ := hs.mounts i' _ hport'
    obtain rfl := Option.some.inj (hf'.symm.trans hf₁)
    rw [hpath₁, hclean i' _ hport'] at hpath'
    have hname : app.host.ports[i'].1 = b.profile.name := by simpa using hpath'
    refine (List.getElem?_inj (by rw [List.length_map]; exact hlt) hnames).mp ?_
    rw [List.getElem?_map, List.getElem?_map, hport, hport', Option.map_some, Option.map_some, hname]

/-- The application is initialized, runs, and a profile is switched on in its loop. -/
theorem urls_lead_running :
    let faults : InitFaults := ⟨fun _ => false, ⟨fun _ => false, fun _ _ => false⟩, fun _ => false, none⟩
    let calls : List AppCall :=
      [.initializeWith faults, .runWith false [.loop (.request (ascii "hd") true)] false]
    (run react (new .init) calls).rtsp.isSome = true ∧
      ∀ p ∈ (run react (new .init) calls).profiles, (run react (new .init) calls).Leads p := by
  intro faults calls
  have hserver : (run react (new .init) calls).rtsp.isSome = true := by decide +kernel
  exact ⟨hserver, urls_lead .init calls hserver⟩

end Application

end CameraPlatform
