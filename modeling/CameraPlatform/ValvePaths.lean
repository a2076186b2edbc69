import CameraPlatform.ApplicationMounts
import CameraPlatform.Base.LinkGraph
import CameraPlatform.SetupLinks

/-!
# Which paths the valves leave open

The linked elements of a pipeline are a graph in which a valve that drops is shut. Through every life of an
application after its setup, open paths lead from the source to the appsinks of the profiles that are switched
on, and to no other. Whether buffers move along an open path is up to GStreamer, which may still wait for a
preroll or for room in a queue.
-/

namespace CameraPlatform
open ByteString RefHeap

namespace Gst

/-- What a link to an element leads to: for a bin, the target of its ghost pad. -/
def inlet (g : Gst) (x : Nat) : Nat := ((g.obj x).bind (·.ghostSink)).getD x

/-- A valve that drops. -/
def shut (g : Gst) (x : Nat) : Bool :=
  (g.obj x).map (·.type) == some (ascii "valve") && g.prop x (ascii "drop") == some (.boolean true)

/-- The links, and the valves that are closed. -/
def linkGraph (g : Gst) : LinkGraph Nat := { links := g.links.map fun l => (l.1, g.inlet l.2), shut := g.shut }

section
variable {g : Gst} {n k : Nat} {shapes : List (Bytes × Option Nat)}

theorem mem_linkGraph {a c : Nat} : (a, c) ∈ g.linkGraph.links ↔ ∃ b, (a, b) ∈ g.links ∧ g.inlet b = c := by
  constructor
  · intro h
    obtain ⟨⟨a', b⟩, hl, heq⟩ := List.mem_map.mp h
    obtain ⟨rfl, rfl⟩ := Prod.mk.inj heq
    exact ⟨b, hl, rfl⟩
  · rintro ⟨b, hl, rfl⟩
    exact List.mem_map.mpr ⟨(a, b), hl, rfl⟩

theorem Laid.inlet (h : g.Laid n shapes) {type : Bytes} {ghost : Option Nat} (hk : shapes[k]? = some (type, ghost)) :
    g.inlet (n + k) = ghost.getD (n + k) := by
  obtain ⟨hlt, -⟩ := List.getElem?_eq_some_iff.mp hk
  obtain ⟨o, ho, hshape⟩ := Option.map_eq_some_iff.mp ((h k hlt).trans hk)
  rw [Gst.inlet, ho, Option.bind_some, show o.ghostSink = ghost from congrArg Prod.snd hshape]

theorem Laid.type (h : g.Laid n shapes) {type : Bytes} {ghost : Option Nat} (hk : shapes[k]? = some (type, ghost)) :
    (g.obj (n + k)).map (·.type) = some type := by
  obtain ⟨hlt, -⟩ := List.getElem?_eq_some_iff.mp hk
  obtain ⟨o, ho, hshape⟩ := Option.map_eq_some_iff.mp ((h k hlt).trans hk)
  rw [ho, Option.map_some, show o.type = type from congrArg Prod.fst hshape]

theorem Laid.shut (h : g.Laid n shapes) {type : Bytes} {ghost : Option Nat} (hk : shapes[k]? = some (type, ghost)) :
    g.shut (n + k) = (type == ascii "valve" && g.prop (n + k) (ascii "drop") == some (.boolean true)) := by
  rw [Gst.shut, h.type hk]
  rfl

end

end Gst

namespace ProfileBin

theorem mem_chain {n a b : Nat} (h : (a, b) ∈ chain n) : n + 1 ≤ a ∧ a ≤ n + 6 := by
  simp only [chain, List.mem_cons, Prod.mk.injEq, List.not_mem_nil, or_false] at h
  omega

end ProfileBin

namespace ProfileHost
open ProfileBin

theorem mem_branchLinks {tee a b : Nat} {ns : List Nat} :
    (a, b) ∈ branchLinks tee ns ↔ (∃ m ∈ ns, (a, b) ∈ chain m) ∨ a = tee ∧ b ∈ ns := by
  simp only [branchLinks, List.mem_flatMap, List.mem_append, List.mem_singleton, Prod.mk.injEq]
  constructor
  · rintro ⟨m, hm, h | ⟨rfl, rfl⟩⟩
    · exact .inl ⟨m, hm, h⟩
    · exact .inr ⟨rfl, hm⟩
  · rintro (⟨m, hm, h⟩ | ⟨rfl, hm⟩)
    · exact ⟨m, hm, .inl h⟩
    · exact ⟨b, hm, .inr ⟨rfl, rfl⟩⟩

namespace Plumbed
variable {n m : Nat} {ns : List Nat} {h h' : ProfileHost} {g g' : Gst} {a b c x : Nat}

/-- What leaves the elements and their links. -/
theorem congr (hp : Plumbed n ns h g) (hsource : h'.source = h.source) (htaps : h'.taps = h.taps)
    (hlinks : g'.links = g.links) (hs : Gst.Same Gst.shape g g') : Plumbed n ns h' g' := by
  obtain ⟨source, hshared⟩ := hp.shared
  exact ⟨hsource.trans hp.source, htaps.trans hp.taps, hp.apart, hp.after, fun l hl => hlinks ▸ hp.links l hl,
    ⟨source, hshared.same hs⟩, fun m hm => (hp.laid m hm).same hs⟩

/-- The branch of a bin. -/
theorem tap (hp : Plumbed n ns h g) {b : ProfileBin} (hb : b ∈ h.profileBins) :
    ∃ m ∈ ns, b.valve = some (m + 1) ∧ b.appSink = some (m + 2) := by
  have htap : (b.valve, b.appSink) ∈ h.taps := List.mem_map_of_mem hb
  rw [hp.taps] at htap
  obtain ⟨m, hm, heq⟩ := List.mem_map.mp htap
  obtain ⟨hvalve, happSink⟩ := Prod.mk.inj heq
  exact ⟨m, hm, hvalve.symm, happSink.symm⟩

/-- Branches that overlap are the same. -/
theorem eq_of_near (hp : Plumbed n ns h g) (hm : m ∈ ns) {m' : Nat} (hm' : m' ∈ ns) (hle : m ≤ m' + 6) (hle' : m' ≤ m + 6) :
    m = m' := by
  have hfar : ∀ m ∈ ns, ∀ m' ∈ ns, m = m' ∨ m + 7 ≤ m' ∨ m' + 7 ≤ m :=
    List.Pairwise.forall_of_forall_of_flip (fun _ _ => .inl rfl) (hp.apart.imp fun hle => .inr (.inl hle))
      (hp.apart.imp fun hle => .inr (.inr hle))
  rcases hfar m hm m' hm' with heq | hlt | hlt
  · exact heq
  · omega
  · omega

/-- The links of a shared element before the tee. -/
theorem shared_out (hp : Plumbed n ns h g) (ha : n ≤ a) (hlt : a < n + 5) :
    (a, b) ∈ g.links ↔ (a, b) ∈ sharedLinks n := by
  rw [hp.links (a, b) ha, List.mem_append, mem_branchLinks]
  refine or_iff_left ?_
  rintro (⟨m, hm, hchain⟩ | ⟨rfl, -⟩)
  · have hle := (mem_chain hchain).1
    have hafter := hp.after m hm
    omega
  · exact Nat.lt_irrefl _ hlt

theorem tee_out (hp : Plumbed n ns h g) : (n + 5, b) ∈ g.links ↔ b ∈ ns := by
  rw [hp.links (n + 5, b) (Nat.le_add_right n 5), List.mem_append, mem_branchLinks]
  constructor
  · rintro (hshared | ⟨m, hm, hchain⟩ | ⟨-, hb⟩)
    · simp [sharedLinks] at hshared
    · have hle := (mem_chain hchain).1
      have hafter := hp.after m hm
      omega
    · exact hb
  · exact fun hb => .inr (.inr ⟨rfl, hb⟩)

/-- The links of an element of a branch. -/
theorem branch_out (hp : Plumbed n ns h g) (hm : m ∈ ns) (ha : m + 1 ≤ a) (hle : a ≤ m + 6) :
    (a, b) ∈ g.links ↔ (a, b) ∈ chain m := by
  have hafter := hp.after m hm
  rw [hp.links (a, b) (by omega), List.mem_append, mem_branchLinks]
  constructor
  · rintro (hshared | ⟨m', hm', hchain⟩ | ⟨rfl, -⟩)
    · simp only [sharedLinks, List.mem_cons, Prod.mk.injEq, List.not_mem_nil, or_false] at hshared
      omega
    · have hbounds := mem_chain hchain
      rwa [hp.eq_of_near hm hm' (by omega) (by omega)]
    · omega
  · exact fun hchain => .inr (.inl ⟨m, hm, hchain⟩)

/-! ### Paths -/

/-- A link leads to the inlet of its element. -/
theorem link_iff {shapes : List (Bytes × Option Nat)} {k b : Nat} (hl : g.Laid m shapes) {type : Bytes}
    (hk : shapes[k]? = some (type, none)) (hb : b = m + k) (hout : ∀ y, (a, y) ∈ g.links ↔ y = b) (c : Nat) :
    (a, c) ∈ g.linkGraph.links ↔ c = b := by
  rw [Gst.mem_linkGraph]
  simp only [hout, exists_eq_left]
  rw [hb, hl.inlet hk]
  exact eq_comm

/-- From the source to the tee. -/
theorem shared_line (hp : Plumbed n ns h g) : g.linkGraph.Line (n + 2) [n + 3, n + 4, n + 5] := by
  obtain ⟨source, hl⟩ := hp.shared
  have hout : ∀ a b, n ≤ a → a < n + 5 → (∀ y, (a, y) ∈ sharedLinks n ↔ y = b) → ∀ y, (a, y) ∈ g.links ↔ y = b :=
    fun a b ha hlt hb y => (hp.shared_out ha hlt).trans (hb y)
  have hsource : g.shut (n + 2) = false := by cases source <;> exact hl.shut (k := 0) rfl
  refine ⟨hsource, link_iff hl (k := 1) rfl rfl (hout _ _ (by omega) (by omega) ?_),
    hl.shut (k := 1) rfl, link_iff hl (k := 2) rfl rfl (hout _ _ (by omega) (by omega) ?_),
    hl.shut (k := 2) rfl, link_iff hl (k := 3) rfl rfl (hout _ _ (by omega) (by omega) ?_), trivial⟩
  · simp [sharedLinks]
  · simp [sharedLinks]
  · simp [sharedLinks]

/-- From the tee to each branch. -/
theorem openPath_tee (hp : Plumbed n ns h g) :
    g.linkGraph.OpenPath (n + 5) x ↔ x = n + 5 ∨ ∃ m ∈ ns, g.linkGraph.OpenPath (m + 3) x := by
  obtain ⟨source, hl⟩ := hp.shared
  have hopen : g.linkGraph.shut (n + 5) = false := hl.shut (k := 3) rfl
  have hinlet : ∀ m ∈ ns, g.inlet m = m + 3 := fun m hm => (hp.laid m hm).inlet (k := 0) rfl
  rw [LinkGraph.openPath_iff, and_iff_right hopen]
  refine or_congr Iff.rfl ⟨?_, ?_⟩
  · rintro ⟨c, hc, hpath⟩
    obtain ⟨m, hm, rfl⟩ := Gst.mem_linkGraph.mp hc
    have hm := hp.tee_out.mp hm
    rw [hinlet m hm] at hpath
    exact ⟨m, hm, hpath⟩
  · rintro ⟨m, hm, hpath⟩
    exact ⟨m + 3, Gst.mem_linkGraph.mpr ⟨m, hp.tee_out.mpr hm, hinlet m hm⟩, hpath⟩

/-- A branch: to its valve, and from there to its appsink. -/
theorem openPath_branch (hp : Plumbed n ns h g) (hm : m ∈ ns) :
    g.linkGraph.OpenPath (m + 3) x ↔
      x ∈ [m + 3, m + 1] ∨ g.shut (m + 1) = false ∧ x ∈ [m + 4, m + 5, m + 6, m + 2] := by
  have hl := hp.laid m hm
  have hout : ∀ a b, m + 1 ≤ a → a ≤ m + 6 → (∀ y, (a, y) ∈ chain m ↔ y = b) → ∀ y, (a, y) ∈ g.links ↔ y = b :=
    fun a b ha hle hb y => (hp.branch_out hm ha hle).trans (hb y)
  have hqueue : ∀ c, (m + 3, c) ∈ g.linkGraph.links ↔ c = m + 1 :=
    link_iff hl (k := 1) rfl rfl (hout _ _ (by omega) (by omega) (by simp [chain]))
  have hvalve : ∀ c, (m + 1, c) ∈ g.linkGraph.links ↔ c = m + 4 :=
    link_iff hl (k := 4) rfl rfl (hout _ _ (by omega) (by omega) (by simp [chain]))
  have hline : g.linkGraph.Line (m + 4) [m + 5, m + 6, m + 2] :=
    ⟨hl.shut (k := 4) rfl, link_iff hl (k := 5) rfl rfl (hout _ _ (by omega) (by omega) (by simp [chain])),
      hl.shut (k := 5) rfl, link_iff hl (k := 6) rfl rfl (hout _ _ (by omega) (by omega) (by simp [chain])),
      hl.shut (k := 6) rfl, link_iff hl (k := 2) rfl rfl (hout _ _ (by omega) (by omega) (by simp [chain])), trivial⟩
  have hsink : ∀ c, (m + 2, c) ∉ g.linkGraph.links := fun c hc => by
    obtain ⟨b, hb, -⟩ := Gst.mem_linkGraph.mp hc
    rw [hp.branch_out hm (by omega) (by omega)] at hb
    simp [chain] at hb
  have hrest : g.linkGraph.OpenPath (m + 4) x ↔ x ∈ [m + 4, m + 5, m + 6, m + 2] := by
    rw [hline.openPath_iff]
    show x ∈ [m + 4, m + 5, m + 6] ∨ g.linkGraph.OpenPath (m + 2) x ↔ _
    rw [LinkGraph.openPath_end hsink]
    simp only [List.mem_cons, List.not_mem_nil, or_false, or_assoc]
  rw [LinkGraph.openPath_link (hl.shut (k := 3) rfl) hqueue]
  cases hshut : g.shut (m + 1) with
  | true =>
    rw [LinkGraph.openPath_shut hshut]
    simp
  | false =>
    rw [LinkGraph.openPath_link hshut hvalve, hrest]
    simp [or_assoc]

/-- All that open paths lead to from the source. -/
theorem openPath_iff (hp : Plumbed n ns h g) : g.linkGraph.OpenPath (n + 2) x ↔
    x ∈ [n + 2, n + 3, n + 4, n + 5] ∨ ∃ m ∈ ns,
      x ∈ [m + 3, m + 1] ∨ g.shut (m + 1) = false ∧ x ∈ [m + 4, m + 5, m + 6, m + 2] := by
  rw [hp.shared_line.openPath_iff]
  show x ∈ [n + 2, n + 3, n + 4] ∨ g.linkGraph.OpenPath (n + 5) x ↔ _
  rw [hp.openPath_tee, ← or_assoc]
  refine or_congr ?_ ?_
  · simp only [List.mem_cons, List.not_mem_nil, or_false, or_assoc]
  · exact exists_congr fun m => and_congr_right fun hm => hp.openPath_branch hm

/-- The path to an appsink is open unless the valve on it drops. -/
theorem openPath_appSink (hp : Plumbed n ns h g) (hm : m ∈ ns) :
    g.linkGraph.OpenPath (n + 2) (m + 2) ↔ g.shut (m + 1) = false := by
  have hafter := hp.after m hm
  rw [hp.openPath_iff]
  constructor
  · rintro (hshared | ⟨m', hm', hnear | ⟨hopen, hnear⟩⟩)
    · simp only [List.mem_cons, List.not_mem_nil, or_false] at hshared
      omega
    · simp only [List.mem_cons, List.not_mem_nil, or_false] at hnear
      have heq := hp.eq_of_near hm hm' (by omega) (by omega)
      omega
    · simp only [List.mem_cons, List.not_mem_nil, or_false] at hnear
      rwa [hp.eq_of_near hm hm' (by omega) (by omega)]
  · exact fun hopen => .inr ⟨m, hm, .inr ⟨hopen, by simp⟩⟩

end Plumbed

end ProfileHost

namespace Application
open ProfileHost Gst History

/-- A server is there, and the pipeline is linked as its setup has left it. -/
structure Piped (app : Application) : Prop where
  pipeline : app.host.pipeline.isSome = true
  rtsp : app.rtsp.isSome = true
  plumbed : ∃ n ns, Plumbed n ns app.host app.bridge.gst

section
variable {app app' : Application}

theorem Piped.congr (h : app.Piped) (hpipeline : app'.host.pipeline = app.host.pipeline)
    (hrtsp : app'.rtsp.isSome = app.rtsp.isSome) (hsource : app'.host.source = app.host.source)
    (htaps : app'.host.taps = app.host.taps) (hlinks : app'.bridge.gst.links = app.bridge.gst.links)
    (hs : Gst.Same shape app.bridge.gst app'.bridge.gst) : app'.Piped := by
  obtain ⟨n, ns, hp⟩ := h.plumbed
  exact ⟨hpipeline ▸ h.pipeline, hrtsp.trans h.rtsp, n, ns, hp.congr hsource htaps hlinks hs⟩

theorem Piped.unmoved (h : app.Piped) (hs : Unmoved app app') : app'.Piped :=
  h.congr hs.pipeline (rtsp_isSome hs.server) hs.source
    (congrArg (List.map fun b : ProfileBin => (b.valve, b.appSink)) hs.profileBins) hs.links hs.same

theorem Piped.request (h : app.Piped) (name : Bytes) (enabled : Bool) :
    (app.handle (.request name enabled)).Piped := by
  obtain ⟨hsame, -, hpipeline⟩ := @setProfileEnabled_same (app.host, app.bridge.gst) _ shape (fun _ _ => rfl) name enabled
  refine h.congr hpipeline rfl ?_ ?_ (links_setProfileEnabled ..) hsame
  · show (app.host.setProfileEnabled name enabled app.bridge.gst).2.1.source = app.host.source
    unfold ProfileHost.setProfileEnabled
    split <;> rfl
  · show (app.host.setProfileEnabled name enabled app.bridge.gst).2.1.taps = app.host.taps
    unfold ProfileHost.setProfileEnabled
    split
    · rfl
    · refine map_modify _ _ (fun b => ?_) _ _
      unfold ProfileBin.setState
      split <;> rfl

theorem lasting_piped : Lasting fun _ app => app.Piped :=
  Carried.lasting ⟨fun h hs => h.unmoved hs,
    fun e h => h.congr rfl rfl rfl rfl (Bridge.links_step ..) (Bridge.step_same (fun _ _ => by rfl) e),
    fun name enabled h => h.request name enabled, fun _ h => h⟩ Piped.pipeline

theorem same_served (app : Application) : Gst.Same shape app.bridge.gst app.served.bridge.gst :=
  RtspProfileServer.construct_same _ _ _ fun _ _ => by rfl

theorem links_served (app : Application) : app.served.bridge.gst.links = app.bridge.gst.links :=
  RtspProfileServer.links_construct ..

theorem tied_served (h : app.bridge.gst.Tied) : app.served.bridge.gst.Tied :=
  h.keep app.links_served app.same_served.next_le

theorem lasting_tied : Lasting fun _ app => app.bridge.gst.Tied := by
  refine ⟨⟨fun h hs => h.keep hs.links (@hs.same _ shape _).next_le,
    fun e h => h.keep (Bridge.links_step ..) (Bridge.step_same (f := shape) (fun _ _ => by rfl) e).next_le,
    fun name enabled h => ?_, fun _ h => h⟩, fun _ _ _ h => tied_setupPipeline h,
    fun _ _ _ h => tied_served (tied_setupPipeline h)⟩
  rename_i app
  exact h.keep (links_setProfileEnabled ..)
    (@setProfileEnabled_same (app.host, app.bridge.gst) _ shape (fun _ _ => rfl) name enabled).1.next_le

theorem Piped.start {faults : InitFaults} (ht : app.bridge.gst.Tied) (hinit : (app.initializeWith faults).1 = true) :
    (app.initializeWith faults).2.Piped := by
  obtain ⟨hok, hunmoved⟩ := initializeWith_served hinit
  have hready := unmoved_readied faults app
  have ht : (app.readied faults).bridge.gst.Tied := ht.keep hready.links (@hready.same _ shape _).next_le
  obtain ⟨n, ns, hp⟩ := setupPipeline_plumbed ht hok
  have hset : Plumbed n ns ((app.readied faults).setUp faults.setup).host
    ((app.readied faults).setUp faults.setup).bridge.gst := hp
  have hserved : ((app.readied faults).setUp faults.setup).served.Piped :=
    ⟨congrArg Option.isSome (setupPipeline_bus hok).1, rfl, n, ns, hset.congr rfl rfl (links_served _) (same_served _)⟩
  exact hserved.unmoved hunmoved

theorem piped_started {g : Gst} (hg : g.Tied) (before : List AppCall) (faults : InitFaults)
    (hinit : ((run react (new g) before).initializeWith faults).1 = true) (after : List AppCall) :
    (run react ((run react (new g) before).initializeWith faults).2 after).Piped := by
  have htied : (run react (new g) before).bridge.gst.Tied :=
    @Lasting.run _ lasting_tied before [] _ (by rw [new_eq]; exact hg)
  exact @Lasting.run _ lasting_piped after [] _ (Piped.start htied hinit)

/-- The valve of a branch is shut exactly when its profile is not served. -/
theorem shut_iff {n m : Nat} {ns : List Nat} (hp : Plumbed n ns app.host app.bridge.gst) (hm : m ∈ ns)
    (hnames : (app.host.profileBins.map fun b => b.profile.name).Nodup) {b : ProfileBin} (hb : b ∈ app.host.profileBins)
    (hvalve : b.valve = some (m + 1)) :
    app.bridge.gst.shut (m + 1) = !app.host.profileEnabled b.profile.name app.bridge.gst := by
  rw [(hp.laid m hm).shut (k := 1) rfl, profileEnabled, find_of_names hnames hb]
  simp only [ProfileBin.isDropped, hvalve, Bool.not_not]
  rfl

/-- The appsinks at the ends of paths are those of the branches. -/
theorem appSink_of_openPath {n x : Nat} {ns : List Nat} {h : ProfileHost} {g : Gst} (hp : Plumbed n ns h g)
    (hpath : g.linkGraph.OpenPath (n + 2) x) (htype : (g.obj x).map (·.type) = some (ascii "appsink")) :
    ∃ m ∈ ns, x = m + 2 := by
  have hother : ∀ {m k : Nat} {shapes : List (Bytes × Option Nat)} {type : Bytes} {ghost : Option Nat}, g.Laid m shapes →
      shapes[k]? = some (type, ghost) → type ≠ ascii "appsink" → x ≠ m + k := by
    rintro m k shapes type ghost hl hk hne rfl
    rw [hl.type hk] at htype
    exact hne (Option.some.inj htype)
  obtain ⟨source, hl⟩ := hp.shared
  rcases hp.openPath_iff.mp hpath with hshared | ⟨m, hm, hnear⟩
  · have hsource : x ≠ n + 2 + 0 := by cases source <;> exact hother hl rfl (by decide)
    have hconvert := hother hl (k := 1) rfl (by decide)
    have hcaps := hother hl (k := 2) rfl (by decide)
    have htee := hother hl (k := 3) rfl (by decide)
    simp only [List.mem_cons, List.not_mem_nil, or_false] at hshared
    omega
  · have hbranch := hp.laid m hm
    have hvalve := hother hbranch (k := 1) rfl (by decide)
    have hqueue := hother hbranch (k := 3) rfl (by decide)
    have hscale := hother hbranch (k := 4) rfl (by decide)
    have hcaps := hother hbranch (k := 5) rfl (by decide)
    have henc := hother hbranch (k := 6) rfl (by decide)
    simp only [List.mem_cons, List.not_mem_nil, or_false] at hnear
    exact ⟨m, hm, by omega⟩

end

/-- From an `initialize` that returned true on, whatever else happens, the paths that the links and the valves leave
open lead from the camera to the appsinks of the profiles whose last call has not switched them off, which mounts
have taken, and to no other appsink. -/
theorem paths_open {g : Gst} (hg : g.Tied) (before : List AppCall) (faults : InitFaults)
    (hinit : ((run react (new g) before).initializeWith faults).1 = true) (after : List AppCall) :
    let started := ((run react (new g) before).initializeWith faults).2
    let app := run react started after
    ∃ camera, app.host.source = some camera ∧
      (∀ p ∈ kDefaultCatalog, ∃ sink a, app.host.appSinkForProfile p.name = some sink ∧ app.bridge.sinkOf a = some sink ∧
        (app.bridge.gst.linkGraph.OpenPath camera sink ↔ (last p.name (requests (started.events after))).getD true = true)) ∧
      ∀ sink, (app.bridge.gst.obj sink).map (·.type) = some (ascii "appsink") →
        app.bridge.gst.linkGraph.OpenPath camera sink →
        ∃ p ∈ kDefaultCatalog, app.host.appSinkForProfile p.name = some sink := by
  intro started app
  have happ : app = run react (new g) (before ++ .initializeWith faults :: after) := run_started ..
  have hpiped : app.Piped := piped_started hg before faults hinit after
  have hvalved : Valved (started.events after) app := lasting_valved.run after (Valved.start hinit)
  have hbridged : app.Bridged := by
    rw [happ]
    exact @Lasting.run _ lasting_bridged (before ++ .initializeWith faults :: after) [] _ (bridged_new g)
  obtain ⟨n, ns, hp⟩ := hpiped.plumbed
  have hnames := hvalved.switchable.names
  have hsink : ∀ b ∈ app.host.profileBins, app.host.appSinkForProfile b.profile.name = b.appSink := fun b hb => by
    rw [appSinkForProfile, find_of_names hnames hb]
    rfl
  refine ⟨n + 2, hp.source, fun p hmem => ?_, fun sink htype hpath => ?_⟩
  · obtain ⟨b, hb, o, hprofile⟩ := bin_of_catalog g (before ++ .initializeWith faults :: after) hmem
    rw [← happ] at hb
    have hname : p.name = b.profile.name := by rw [hprofile, requested_name]
    obtain ⟨m, hm, hvalve, happSink⟩ := hp.tap hb
    obtain ⟨a, r, -, hr, ha⟩ :=
      (hbridged.paired hpiped.rtsp).taken (x := (b.profile.name, b.appSink)) (List.mem_map_of_mem hb)
    obtain rfl := Option.some.inj (happSink.symm.trans hr)
    refine ⟨m + 2, a, ?_, ha, ?_⟩
    · rw [hname, hsink b hb]
      exact happSink
    · rw [hp.openPath_appSink hm, shut_iff hp hm hnames hb hvalve, hname, hvalved.enabled b hb, Bool.not_eq_false']
  · obtain ⟨m, hm, rfl⟩ := appSink_of_openPath hp hpath htype
    have htap : (some (m + 1), some (m + 2)) ∈ app.host.taps := by
      rw [hp.taps]
      exact List.mem_map_of_mem hm
    obtain ⟨b, hb, heq⟩ := List.mem_map.mp htap
    obtain ⟨p, hmem, o, hprofile⟩ := catalog_of_bin g (before ++ .initializeWith faults :: after) (happ ▸ hb)
    refine ⟨p, hmem, ?_⟩
    rw [show p.name = b.profile.name from by rw [hprofile, requested_name], hsink b hb]
    exact congrArg Prod.snd heq

/-- The first `initialize` cannot make its tee, the second one goes through, and a profile is switched off. -/
theorem paths_open_sd :
    let faults : InitFaults := ⟨fun _ => false, ⟨fun _ => false, fun _ _ => false⟩, fun _ => false, none⟩
    let before : List AppCall := [.initializeWith { faults with setup.host := fun c => c = .tee }]
    let after : List AppCall := [.runWith false [.loop (.request (ascii "sd") false)] false]
    let started := ((run react (new .init) before).initializeWith faults).2
    let app := run react started after
    ((run react (new .init) before).initializeWith faults).1 = true ∧
      ∃ camera, app.host.source = some camera ∧
        (∀ p ∈ kDefaultCatalog, ∃ sink a, app.host.appSinkForProfile p.name = some sink ∧ app.bridge.sinkOf a = some sink ∧
          (app.bridge.gst.linkGraph.OpenPath camera sink ↔
            (last p.name (requests (started.events after))).getD true = true)) ∧
        ∀ sink, (app.bridge.gst.obj sink).map (·.type) = some (ascii "appsink") →
          app.bridge.gst.linkGraph.OpenPath camera sink →
          ∃ p ∈ kDefaultCatalog, app.host.appSinkForProfile p.name = some sink := by
  intro faults before after
  have hinit : ((run react (new .init) before).initializeWith faults).1 = true := by decide +kernel
  have hopen := paths_open (g := .init) nofun before faults hinit after
  exact ⟨hinit, hopen⟩

end Application

end CameraPlatform
