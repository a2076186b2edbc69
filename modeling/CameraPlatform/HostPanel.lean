import CameraPlatform.NullSafety
import CameraPlatform.ProfileSwitch
import CameraPlatform.VideoLifecycle

/-!
# What callers of a `ProfileHost` can tell

A caller sees outcomes, the catalog, which profiles are enabled and which have an appsink. These depend on
very little: whether there is a source, how far the pipeline got, and for each profile whether its valve is
open. `Panel` is the machine that keeps just that, and it answers as the class does, whatever call fails.
-/

namespace CameraPlatform
open ByteString RefHeap Simulation

/-- A call of `ProfileHost`. -/
inductive PanelCall where
  | event (e : HostEvent)
  | profiles
  | profileEnabled (name : Bytes)
  | appSinkForProfile (name : Bytes)

inductive PanelAnswer where
  | outcome (outcome : Option PipelineOutcome)
  | profiles (profiles : List ProfileInfo)
  | enabled (enabled : Bool)
  /-- There is an appsink, or a null pointer. -/
  | appSink (found : Bool)

namespace ProfileHost

def answer (s : ProfileHost × Gst) : PanelCall → PanelAnswer × ProfileHost × Gst
  | .event e => (.outcome (outcome s e), handle s e)
  | .profiles => (.profiles s.1.profiles, s)
  | .profileEnabled name => (.enabled (s.1.profileEnabled name s.2), s)
  | .appSinkForProfile name => (.appSink (s.1.appSinkForProfile name).isSome, s)

end ProfileHost

/-- A profile as its callers know it. -/
structure Row where
  profile : ProfileInfo
  /-- Whether its valve drops, once it has a valve. -/
  drop : Option Bool := none

/-- The row of a profile that was switched. -/
def Row.switch (enabled : Bool) (r : Row) : Row where
  profile := ProfileHost.requested (some enabled) r.profile
  drop := r.drop.map fun _ => !enabled

/-- How far a host got with its pipeline. -/
inductive Stage where
  | absent
  /-- The shared elements were made and could not be linked. -/
  | unlinked
  | linked
deriving DecidableEq

structure Panel where
  hasSource : Bool := false
  stage : Stage := .absent
  rows : List Row

namespace Panel

def new (profiles : List ProfileInfo) : Panel := { rows := profiles.map fun profile => { profile } }

/-- The calls `createElement` of a branch makes. -/
def branchCalls : List BinCall := [.bin, .valve, .appSink, .queue, .scale, .capsFilter, .enc, .link]

/-- The branches from `k` on: `taken` are the names of the bins that were added before. -/
def setupRows (faults : SetupFaults) : Nat → List Bytes → List Row → Option String × List Row
  | _, _, [] => (none, [])
  | k, taken, r :: rows =>
    if branchCalls.any (faults.bin k) then
      (some "Failed to create profile bin element", { r with drop := none } :: rows)
    else if faults.host (.padLink k) || taken.contains (ProfileBin.binName r.profile) then
      (some "Failed to link tee pad to profile bin sink pad", { r with drop := some false } :: rows)
    else
      let (error, rows) := setupRows faults (k + 1) (ProfileBin.binName r.profile :: taken) rows
      (error, { r with drop := some false } :: rows)

def setupPipeline (faults : SetupFaults) (p : Panel) : PipelineOutcome × Panel :=
  if !p.hasSource then (.failure "Video source not set", p)
  else if p.stage ≠ .absent then (.failure "Pipeline already set up", p)
  else if ProfileHost.makeCalls.any faults.host then (.failure "Failed to create GStreamer elements", p)
  else if faults.host .link then (.failure "Failed to link GStreamer elements", { p with stage := .unlinked })
  else
    match setupRows faults 0 [] p.rows with
    | (none, rows) => (.success, { p with stage := .linked, rows })
    | (some reason, rows) => (.failure reason, { p with rows })

/-- `play` and `stop`. -/
def setPipelineState (fails : Bool) (reason : String) (p : Panel) : PipelineOutcome :=
  if p.stage ≠ .linked then .failure "Pipeline not setup" else if fails then .failure reason else .success

def setProfileEnabled (name : Bytes) (enabled : Bool) (p : Panel) : PipelineOutcome × Panel :=
  match p.rows.findIdx? fun r => r.profile.name == name with
  | none => (.failure "Profile not found", p)
  | some i => (.success, { p with rows := p.rows.modify i (Row.switch enabled) })

def attachBusWatch (fails : WatchCall → Bool) (context callback : Option Nat) (p : Panel) : PipelineOutcome :=
  if context.isNone || callback.isNone then .failure "Invalid context or callback"
  else if p.stage ≠ .linked then .failure "Pipeline is not setup"
  else if fails .getBus then .failure "Failed to get bus from pipeline"
  else if fails .createWatch then .failure "Failed to create bus watch"
  else .success

def call (p : Panel) : HostEvent → Option PipelineOutcome × Panel
  | .setVideoSource source => (some .success, { p with hasSource := source.isSome })
  | .setupPipeline faults => (some (p.setupPipeline faults).1, (p.setupPipeline faults).2)
  | .play fails => (some (p.setPipelineState fails "Failed to set pipeline to PLAYING"), p)
  | .stop fails => (some (p.setPipelineState fails "Failed to set pipeline to PAUSED"), p)
  | .setProfileEnabled name enabled =>
    (some (p.setProfileEnabled name enabled).1, (p.setProfileEnabled name enabled).2)
  | .attachBusWatch fails context callback => (some (p.attachBusWatch fails context callback), p)
  | .detachBusWatch => (none, p)
  | .dispatch _ => (none, p)

/-- A profile without a valve counts as enabled. -/
def profileEnabled (p : Panel) (name : Bytes) : Bool :=
  match p.rows.find? fun r => r.profile.name == name with
  | some r => r.drop ≠ some true
  | none => false

def hasAppSink (p : Panel) (name : Bytes) : Bool :=
  (p.rows.find? fun r => r.profile.name == name).any fun r => r.drop.isSome

def answer (p : Panel) : PanelCall → PanelAnswer × Panel
  | .event e => (.outcome (p.call e).1, (p.call e).2)
  | .profiles => (.profiles (p.rows.map (·.profile)), p)
  | .profileEnabled name => (.enabled (p.profileEnabled name), p)
  | .appSinkForProfile name => (.appSink (p.hasAppSink name), p)

end Panel

namespace ProfileHost
variable {h : ProfileHost} {g g' : Gst} {s s' : ProfileHost × Gst} {p : Panel}

/-- What the machine shows of a branch. -/
def row (g : Gst) (b : ProfileBin) : Row where
  profile := b.profile
  drop := b.valve.map fun v => g.prop v (ascii "drop") == some (.boolean true)

/-- The valve and the appsink of each branch. -/
def outlets (bins : List ProfileBin) : List (Option Nat × Option Nat) := bins.map fun b => (b.valve, b.appSink)

/-- The valves are there and tell the branches apart, and an appsink comes with each. -/
structure Fitted (bins : List ProfileBin) (g : Gst) : Prop where
  valve_lt : ∀ t ∈ outlets bins, ∀ v ∈ t.1, v < g.next
  sink : ∀ t ∈ outlets bins, t.2.isSome = t.1.isSome
  apart : (outlets bins).Pairwise fun t t' => ∀ v ∈ t.1, t'.1 ≠ some v

/-- The machine knows the source, the stage and the rows of the host. -/
structure Shows (s : ProfileHost × Gst) (p : Panel) : Prop where
  source : s.1.videoSource.isSome = p.hasSource
  made : s.1.pipeline.isSome = true ↔ p.stage ≠ .absent
  linked : s.1.isLinked = true ↔ p.stage = .linked
  bus : p.stage = .linked → ∃ r bus, s.1.pipeline = some r ∧ (s.2.obj r).map (·.bus) = some (some bus)
  rows : s.1.profileBins.map (row s.2) = p.rows
  fitted : Fitted s.1.profileBins s.2

/-- What a pipeline and a valve show, apart from their state. -/
def fittings (o : GObject) : Option Nat × (Bytes → Option GValue) := (o.bus, o.props)

instance : Gst.Plumbing fittings := ⟨fun _ _ => rfl, fun _ _ => rfl, fun _ _ => rfl⟩

@[simp] theorem row_profile (g : Gst) (b : ProfileBin) : (row g b).profile = b.profile := rfl

theorem row_congr {b : ProfileBin} (hprop : ∀ v ∈ b.valve, g'.prop v (ascii "drop") = g.prop v (ascii "drop")) :
    row g' b = row g b := by
  unfold row
  cases hv : b.valve with
  | none => rfl
  | some v => simp only [Option.map_some, hprop v hv]

/-! ### Branches and their rows -/

namespace Fitted
variable {bins bins' : List ProfileBin} {b : ProfileBin}

theorem congr (h : Fitted bins g) (houtlets : outlets bins' = outlets bins) (hnext : g.next ≤ g'.next) :
    Fitted bins' g' := by
  refine ⟨fun t ht v hv => ?_, fun t ht => h.sink t (houtlets ▸ ht), houtlets ▸ h.apart⟩
  exact Nat.lt_of_lt_of_le (h.valve_lt t (houtlets ▸ ht) v hv) hnext

theorem lt (h : Fitted bins g) (hb : b ∈ bins) {v : Nat} (hv : b.valve = some v) : v < g.next :=
  h.valve_lt (b.valve, b.appSink) (List.mem_map_of_mem hb) v hv

theorem tail (h : Fitted (b :: bins) g) : Fitted bins g :=
  ⟨fun t ht => h.valve_lt t (List.mem_cons_of_mem _ ht), fun t ht => h.sink t (List.mem_cons_of_mem _ ht),
    (List.pairwise_cons.mp h.apart).2⟩

/-- A branch whose valve is no other's. -/
theorem cons (h : Fitted bins g) (hlt : ∀ v ∈ b.valve, v < g.next) (hsink : b.appSink.isSome = b.valve.isSome)
    (hapart : ∀ v ∈ b.valve, ∀ b' ∈ bins, b'.valve ≠ some v) : Fitted (b :: bins) g := by
  refine ⟨fun t ht => ?_, fun t ht => ?_, List.pairwise_cons.mpr ⟨fun t ht v hv => ?_, h.apart⟩⟩
  · rcases List.mem_cons.mp ht with rfl | ht
    · exact hlt
    · exact h.valve_lt t ht
  · rcases List.mem_cons.mp ht with rfl | ht
    · exact hsink
    · exact h.sink t ht
  · obtain ⟨b', hb', rfl⟩ := List.mem_map.mp ht
    exact hapart v hv b' hb'

/-- Branches show the same as long as their valves do. -/
theorem rows (h : Fitted bins g) (hsame : Gst.Same fittings g g') : bins.map (row g') = bins.map (row g) := by
  refine List.map_congr_left fun b hb => row_congr fun v hv => ?_
  exact (hsame.comp Prod.snd).prop (h.lt hb hv) _

end Fitted

/-- A new branch is open. -/
theorem row_branch {b : ProfileBin} {n : Nat} (hb : b.Branch n g) :
    row g b = { profile := b.profile, drop := some false } := by
  unfold row
  rw [hb.valve, Option.map_some, hb.drop]
  rfl

section Loop
variable {faults : SetupFaults} {pipeline tee k : Nat} {bs : List ProfileBin} {taken : List Bytes}

theorem any_branchCalls (fails : BinCall → Bool) : Panel.branchCalls.any fails = true ↔ ∃ c, fails c = true := by
  rw [List.any_eq_true]
  refine ⟨fun ⟨c, _, hc⟩ => ⟨c, hc⟩, fun ⟨c, hc⟩ => ⟨c, ?_, hc⟩⟩
  cases c <;> simp [Panel.branchCalls]

/-- The pipeline has children of just these names, if bins of branches are asked for. -/
def Named (pipeline : Nat) (g : Gst) (taken : List Bytes) : Prop :=
  ∀ profile, Taken pipeline g (ProfileBin.binName profile) ↔ ProfileBin.binName profile ∈ taken

/-- What the loop left is what the machine foretold, and a valve it left is an old one or a new object. -/
structure Foretold (bs : List ProfileBin) (g : Gst) (res : Option String × List ProfileBin × Gst)
    (spec : Option String × List Row) : Prop where
  error : res.1 = spec.1
  rows : res.2.1.map (row res.2.2) = spec.2
  fitted : Fitted res.2.1 res.2.2
  origin : ∀ b ∈ res.2.1, ∀ v ∈ b.valve, g.next ≤ v ∨ ∃ b' ∈ bs, b'.valve = some v

variable (faults k bs) in
/-- By induction over the branches: each turn makes a new valve, or a turn fails and leaves the other branches. -/
theorem setupBranches_foretold (hs : Shared pipeline tee g) (ht : Fitted bs g) (hnames : Named pipeline g taken) :
    Foretold bs g (setupBranches faults pipeline tee k bs g) (Panel.setupRows faults k taken (bs.map (row g))) := by
  induction bs generalizing k g taken with
  | nil => exact ⟨rfl, rfl, ht, fun b hb => absurd hb List.not_mem_nil⟩
  | cons b bs ih =>
    have hkeeps := (setupBranches_sinks faults pipeline tee k (b :: bs) g).1
    have hold : ∀ b' ∈ bs, ∀ v ∈ b'.valve, g.next ≤ v ∨ ∃ b'' ∈ b :: bs, b''.valve = some v := fun b' hb' v hv =>
      .inr ⟨b', List.mem_cons_of_mem _ hb', hv⟩
    rw [List.map_cons, Panel.setupRows, row_profile]
    rcases setupBranches_cons faults k b bs hs with
      ⟨g', heq, hc, -⟩ | ⟨b', g', heq, hok, hwhy, hprofile, hbranch, -⟩ | ⟨b', g', heq, hl⟩
    · -- the elements of the branch could not be made
      rw [heq] at hkeeps ⊢
      rw [if_pos ((any_branchCalls _).mpr hc)]
      refine ⟨rfl, ?_, (ht.tail.congr rfl hkeeps.next_le).cons nofun rfl nofun, ?_⟩
      · exact congrArg (_ :: ·) (ht.tail.rows hkeeps.same)
      · rintro x hx v hv
        rcases List.mem_cons.mp hx with rfl | hx
        · cases hv
        · exact hold x hx v hv
    · -- the branch was made and could not be added or linked
      rw [heq] at hkeeps ⊢
      have hmade : ¬ Panel.branchCalls.any (faults.bin k) = true := by
        rw [any_branchCalls]
        rintro ⟨c, hc⟩
        rw [hok c] at hc; cases hc
      have htaken : (faults.host (.padLink k) || taken.contains (ProfileBin.binName b.profile)) = true := by
        simpa [hnames b.profile] using hwhy
      rw [if_neg hmade, if_pos htaken]
      have hroom := hbranch.room
      refine ⟨rfl, ?_, (ht.tail.congr rfl hkeeps.next_le).cons ?_ ?_ ?_, ?_⟩
      · show row g' b' :: bs.map (row g') = _
        rw [row_branch hbranch, hprofile, ht.tail.rows hkeeps.same]
      · rintro v hv
        cases hbranch.valve.symm.trans hv
        exact (by omega : g.next + 1 < g'.next)
      · rw [hbranch.valve, hbranch.appSink]; rfl
      · intro v hv x hx hxv
        cases hbranch.valve.symm.trans hv
        have := ht.tail.lt hx hxv
        omega
      · rintro x hx v hv
        rcases List.mem_cons.mp hx with rfl | hx
        · cases hbranch.valve.symm.trans hv
          exact .inl (Nat.le_succ _)
        · exact hold x hx v hv
    · have hrest := (setupBranches_sinks faults pipeline tee (k + 1) bs g').1
      have hmade : ¬ Panel.branchCalls.any (faults.bin k) = true := by
        rw [any_branchCalls]
        rintro ⟨c, hc⟩
        rw [hl.calls.1 c] at hc; cases hc
      have hfree : ¬ (faults.host (.padLink k) || taken.contains (ProfileBin.binName b.profile)) = true := by
        have := hl.free
        rw [hnames] at this
        simpa [hl.calls.2] using this
      have hnames' : Named pipeline g' (ProfileBin.binName b.profile :: taken) := fun profile => by
        rw [hl.taken, hnames profile, List.mem_cons, or_comm]
      have hgrown := hl.grew.keeps
      have hloop := ih (k + 1) (hs.mono hl.grew) (ht.tail.congr rfl hgrown.next_le) hnames'
      rw [ht.tail.rows hgrown.same] at hloop
      rw [heq, if_neg hmade, if_neg hfree]
      have hroom := hl.branch.room
      have hnext := hrest.next_le
      have hvalve : ∀ v ∈ b'.valve, v = g.next + 1 := fun v hv => Option.some.inj (hv.symm.trans hl.branch.valve)
      refine ⟨hloop.error, ?_, hloop.fitted.cons ?_ ?_ ?_, ?_⟩
      · refine congrArg₂ List.cons ?_ hloop.rows
        have hrow : row (setupBranches faults pipeline tee (k + 1) bs g').2.2 b' = row g' b' :=
          row_congr fun v hv => hrest.same.prop (by rw [hvalve v hv]; omega) _
        rw [hrow, row_branch hl.branch, hl.profile]
      · rintro v hv
        rw [hvalve v hv]
        omega
      · rw [hl.branch.valve, hl.branch.appSink]; rfl
      · -- a later valve is older than this branch or younger
        intro v hv x hx hxv
        rw [hvalve v hv] at hxv
        rcases hloop.origin x hx _ hxv with hle | ⟨y, hy, hyv⟩
        · omega
        · have := ht.tail.lt hy hyv
          omega
      · rintro x hx v hv
        rcases List.mem_cons.mp hx with rfl | hx
        · exact .inl (by rw [hvalve v hv]; omega)
        · rcases hloop.origin x hx v hv with hle | ⟨y, hy, hyv⟩
          · exact .inl (by omega)
          · exact hold y hy v hyv

end Loop

/-! ### The set-up -/

/-- A call that leaves the catalog and the pipeline. -/
theorem Shows.congr (h : Shows s p) (hhost : s'.1 = { s.1 with watch := s'.1.watch })
    (hsame : Gst.Same fittings s.2 s'.2) : Shows s' p := by
  refine ⟨?_, ?_, ?_, fun hlinked => ?_, ?_, ?_⟩
  · rw [hhost]; exact h.source
  · rw [hhost]; exact h.made
  · rw [hhost]; exact h.linked
  · obtain ⟨r, bus, hr, hobj⟩ := h.bus hlinked
    have hlt : r < s.2.next := Gst.lt_of_bind (Option.map_eq_bind .. ▸ hobj)
    exact ⟨r, bus, by rw [hhost]; exact hr, ((hsame.comp Prod.fst).read hlt).trans hobj⟩
  · rw [hhost]; exact (h.fitted.rows hsame).trans h.rows
  · rw [hhost]; exact h.fitted.congr rfl hsame.next_le

/-- A set-up that ends before its loop leaves the branches and no linked pipeline. -/
theorem Shows.unlinked (h : Shows s p) {stage : Stage} (hstage : stage ≠ .linked) (hk : Gst.Keeps s.2 s'.2)
    (hsource : s'.1.videoSource = s.1.videoSource) (hbins : s'.1.profileBins = s.1.profileBins)
    (hlinked : s'.1.isLinked = false) (hmade : s'.1.pipeline.isSome = true ↔ stage ≠ .absent) :
    Shows s' { p with stage } := by
  refine ⟨hsource ▸ h.source, hmade, ?_, fun hl => absurd hl hstage, ?_, ?_⟩
  · rw [hlinked]
    exact iff_of_false Bool.false_ne_true hstage
  · rw [hbins]
    exact (h.fitted.rows hk.same).trans h.rows
  · exact h.fitted.congr (congrArg outlets hbins) hk.next_le

theorem cleanup_fittings (h : ProfileHost) (hlinked : h.isLinked = true) (g : Gst) :
    Gst.Same fittings g (h.cleanup g).2 := by
  unfold cleanup
  rw [hlinked]
  cases h.pipeline with
  | none => exact .refl
  | some p => exact (Gst.Same.refl.setState false p .null).keeps (Gst.Keeps.refl.unref p)

theorem setupElements_unlinked {faults : SetupFaults} (hlink : faults.host .link = true)
    (h : ProfileHost) (pipeline source videoConvert sourceCaps tee : Nat) (g : Gst) :
    (setupElements faults h pipeline source videoConvert sourceCaps tee g).1 =
        .failure "Failed to link GStreamer elements" ∧
      (setupElements faults h pipeline source videoConvert sourceCaps tee g).2.1 = h := by
  unfold setupElements Gst.linkMany
  rw [hlink]
  exact ⟨rfl, rfl⟩

section Setup
variable {faults : SetupFaults} {source : VideoSource}

theorem setupPipeline_withShared (hsource : h.videoSource = some source) (hpipeline : h.pipeline = none)
    (hmade : ∀ c ∈ makeCalls, faults.host c = false) :
    setupPipeline faults h g = setupElements faults (h.withShared g.next) g.next (g.next + 2) (g.next + 3) (g.next + 4)
      (g.next + 5) ((g.pipelineNew false (ascii "pipeline")).2.allocAll (sharedParts source)) :=
  setupPipeline_made hsource hpipeline hmade

/-- What the machine says of a set-up that is not turned away. -/
theorem panel_setupPipeline (hsource : p.hasSource = true) (hstage : p.stage = .absent) :
    p.setupPipeline faults =
      if makeCalls.any faults.host then (.failure "Failed to create GStreamer elements", p)
      else if faults.host .link then (.failure "Failed to link GStreamer elements", { p with stage := .unlinked })
      else
        match Panel.setupRows faults 0 [] p.rows with
        | (none, rows) => (.success, { p with stage := .linked, rows })
        | (some reason, rows) => (.failure reason, { p with rows }) := by
  unfold Panel.setupPipeline
  rw [hsource, hstage]
  rfl

/-- The end of the loop, on a pipeline that has its bus. -/
theorem Shows.finishSetup (h : Shows s p) {loop : Option String × List ProfileBin × Gst} {rows : Option String × List Row}
    {n bus : Nat} (hloop : Foretold s.1.profileBins g loop rows) (hbus : (loop.2.2.obj n).map (·.bus) = some (some bus))
    (hstage : p.stage = .absent) :
    ((s.1.withShared n).finishSetup loop).1 =
        (match rows with
        | (none, rows) => ((.success : PipelineOutcome), { p with stage := .linked, rows })
        | (some reason, rows) => (.failure reason, { p with rows })).1 ∧
      Shows ((s.1.withShared n).finishSetup loop).2
        (match rows with
        | (none, rows) => ((.success : PipelineOutcome), { p with stage := .linked, rows })
        | (some reason, rows) => (.failure reason, { p with rows })).2 := by
  obtain ⟨error, bins, g'⟩ := loop
  obtain ⟨error', rows⟩ := rows
  obtain rfl : error = error' := hloop.error
  cases error with
  | none =>
    refine ⟨rfl, h.source, ?_, ?_, fun _ => ⟨n, bus, rfl, hbus⟩, hloop.rows, hloop.fitted⟩
    · exact iff_of_true rfl (by simp)
    · exact iff_of_true rfl rfl
  | some reason =>
    have hsame := cleanup_fittings { s.1.withShared n with isLinked := true, profileBins := bins } rfl g'
    refine ⟨rfl, h.source, ?_, ?_, fun hl => ?_, ?_, hloop.fitted.congr rfl hsame.next_le⟩
    · exact iff_of_false Bool.false_ne_true (not_not_intro hstage)
    · exact iff_of_false Bool.false_ne_true (by rw [hstage]; simp)
    · rw [show p.stage = .linked from hl] at hstage; cases hstage
    · exact (hloop.fitted.rows hsame).trans hloop.rows

/-- A set-up whose elements were all made. -/
theorem Shows.setupPipeline_made (h : Shows s p) (hsource : s.1.videoSource = some source)
    (hpipeline : s.1.pipeline = none) (hstage : p.stage = .absent) (hmade : ∀ c ∈ makeCalls, faults.host c = false) :
    (s.1.setupPipeline faults s.2).1 = (p.setupPipeline faults).1 ∧
      Shows (s.1.setupPipeline faults s.2).2 (p.setupPipeline faults).2 := by
  have hkeeps := (setupPipeline_sinks faults s.1 s.2).1
  rw [panel_setupPipeline (by rw [← h.source, hsource]; rfl) hstage, if_neg (by simpa using hmade)]
  rw [setupPipeline_withShared hsource hpipeline hmade] at hkeeps ⊢
  cases hlink : faults.host .link with
  | true =>
    have hlinked : s.1.isLinked = false := by
      rw [Bool.eq_false_iff, ne_eq, h.linked, hstage]
      simp
    obtain ⟨hout, hhost⟩ := setupElements_unlinked hlink (s.1.withShared s.2.next) s.2.next (s.2.next + 2)
      (s.2.next + 3) (s.2.next + 4) (s.2.next + 5)
      ((s.2.pipelineNew false (ascii "pipeline")).2.allocAll (sharedParts source))
    refine ⟨hout, h.unlinked (by simp) hkeeps ?_ ?_ ?_ ?_⟩
    · rw [hhost]; rfl
    · rw [hhost]; rfl
    · rw [hhost]; exact hlinked
    · rw [hhost]; exact iff_of_true rfl (by simp)
  | false =>
    rcases setupElements_cases faults s.2 source (s.1.withShared s.2.next) with
      ⟨hno, -⟩ | ⟨-, g', hs, -, hgrew, hnames, ⟨hbus, -, -⟩, hloopres⟩
    · rw [hlink] at hno; cases hno
    · have hfree : Named s.2.next g' [] := fun profile =>
        iff_of_false (fun htaken => binName_not_shared profile (hnames _ htaken)) List.not_mem_nil
      have hloop := setupBranches_foretold faults 0 s.1.profileBins hs (h.fitted.congr rfl hgrew.next_le) hfree
      rw [h.fitted.rows hgrew.keeps.same, h.rows] at hloop
      have hobj := (setupBranches_sinks faults s.2.next (s.2.next + 5) 0 s.1.profileBins g').1.obj _ hs.pipeline_lt
      have hpipe : ((setupBranches faults s.2.next (s.2.next + 5) 0 s.1.profileBins g').2.2.obj s.2.next).map (·.bus) =
          some (some (s.2.next + 1)) := by
        obtain ⟨o, ho, hb⟩ := Option.bind_eq_some_iff.mp hbus
        rw [hobj, ho, ← hb]
        rfl
      rw [hloopres]
      exact h.finishSetup hloop hpipe hstage

variable (faults) in
theorem Shows.setupPipeline (h : Shows s p) :
    (s.1.setupPipeline faults s.2).1 = (p.setupPipeline faults).1 ∧
      Shows (s.1.setupPipeline faults s.2).2 (p.setupPipeline faults).2 := by
  cases hsource : s.1.videoSource with
  | none =>
    have hno : p.hasSource = false := by rw [← h.source, hsource]; rfl
    unfold ProfileHost.setupPipeline Panel.setupPipeline
    rw [hsource, hno]
    exact ⟨rfl, h⟩
  | some source =>
    have hhas : p.hasSource = true := by rw [← h.source, hsource]; rfl
    by_cases hstage : p.stage = .absent
    · have hpipeline : s.1.pipeline = none := by
        by_contra hsome
        exact h.made.mp (Option.isSome_iff_ne_none.mpr hsome) hstage
      by_cases hmade : ∀ c ∈ makeCalls, faults.host c = false
      · exact h.setupPipeline_made hsource hpipeline hstage hmade
      · have hex : ∃ c ∈ makeCalls, faults.host c = true := by simpa using hmade
        obtain ⟨-, hclear, -⟩ := @setupPipeline_unmade faults s.1 s.2 source hsource hpipeline hex
        have hkeeps := (setupPipeline_sinks faults s.1 s.2).1
        rw [panel_setupPipeline hhas hstage, if_pos (List.any_eq_true.mpr hex)]
        refine ⟨congrArg Prod.fst (setupPipeline_rollback hsource hpipeline hex), ?_⟩
        have hshows : Shows (s.1.setupPipeline faults s.2).2 { p with stage := .absent } := by
          refine h.unlinked (by simp) hkeeps ?_ ?_ ?_ ?_
          all_goals rw [hclear]
          · rfl
          · rfl
          · rfl
          · exact iff_of_false Bool.false_ne_true (by simp)
        rwa [← hstage] at hshows
    · have hsome := h.made.mpr hstage
      unfold ProfileHost.setupPipeline Panel.setupPipeline
      rw [hsource, hhas]
      simp only [hsome, if_true, hstage, ne_eq, not_false_eq_true, Bool.not_true, Bool.false_eq_true, if_false]
      exact ⟨trivial, h⟩

end Setup

/-! ### The other calls -/

theorem Shows.setPipelineState (h : Shows s p) (fails : Bool) (state : GstState) (reason : String) :
    (s.1.setPipelineState fails state reason s.2).1 = p.setPipelineState fails reason := by
  unfold ProfileHost.setPipelineState Panel.setPipelineState
  by_cases hstage : p.stage = .linked
  · obtain ⟨r, -, hr, -⟩ := h.bus hstage
    simp only [h.linked.mpr hstage, hr, hstage, ne_eq, not_true_eq_false, if_true, if_false]
    cases fails <;> rfl
  · rw [Bool.eq_false_iff.mpr (mt h.linked.mp hstage), if_pos hstage]
    rfl

/-- Two branches share no valve. -/
theorem Fitted.ne {bins : List ProfileBin} {b b' : ProfileBin} {i j : Nat} {v : Nat} (h : Fitted bins g) (hij : i ≠ j)
    (hb : bins[i]? = some b) (hb' : bins[j]? = some b') (hv : b.valve = some v) : b'.valve ≠ some v := by
  obtain ⟨hi, rfl⟩ := List.getElem?_eq_some_iff.mp hb
  obtain ⟨hj, rfl⟩ := List.getElem?_eq_some_iff.mp hb'
  have hapart := List.pairwise_map.mp h.apart
  rcases Nat.lt_or_gt_of_ne hij with hlt | hgt
  · exact List.pairwise_iff_getElem.mp hapart i j hi hj hlt v hv
  · intro hv'
    exact List.pairwise_iff_getElem.mp hapart j i hj hi hgt v hv' hv

/-- The valve of one branch is written: its row is switched, and no other. -/
theorem rows_setDrop {bins : List ProfileBin} {b : ProfileBin} {i : Nat} (h : Fitted bins g) (hb : bins[i]? = some b)
    (enabled : Bool) :
    (bins.modify i fun b => (b.setState (stateFor enabled) []).2).map (row (b.setDrop (!enabled) g)) =
      (bins.map (row g)).modify i (Row.switch enabled) := by
  have hprop : ∀ {v x : Nat}, b.valve = some v → (b.setDrop (!enabled) g).prop x (ascii "drop") =
      if x = v then some (.boolean (!enabled)) else g.prop x (ascii "drop") := by
    intro v x hv
    have hlt : v < g.next := h.lt (List.mem_of_getElem? hb) hv
    obtain ⟨o, ho⟩ : ∃ o, g.obj v = some o := ⟨_, congrArg (Option.map _) (List.getElem?_eq_getElem hlt)⟩
    unfold ProfileBin.setDrop
    rw [hv]
    simp only [Gst.prop_setObject]
    by_cases hx : x = v
    · rw [if_pos hx, if_pos ⟨hx, trivial, by rw [hx, ho]; rfl⟩]
    · rw [if_neg hx, if_neg fun hand => hx hand.1]
  refine List.ext_getElem? fun j => ?_
  rw [List.getElem?_map, List.getElem?_modify, List.getElem?_modify, List.getElem?_map]
  by_cases hij : i = j
  · obtain rfl := hij
    simp only [hb, if_true, Option.map_eq_map, Option.map_some, Option.some.injEq]
    rw [setState_stateFor]
    unfold row Row.switch
    cases hv : b.valve with
    | none => rfl
    | some v =>
      simp only [Option.map_some, hprop hv, if_true]
      cases enabled <;> rfl
  · cases hb' : bins[j]? with
    | none => rfl
    | some b' =>
      simp only [hij, if_false, Option.map_eq_map, Option.map_some, Option.some.injEq]
      refine row_congr fun x hx => ?_
      cases hv : b.valve with
      | none => rw [ProfileBin.setDrop, hv]
      | some v =>
        rw [hprop hv, if_neg]
        rintro rfl
        exact h.ne hij hb hb' hv hx

theorem Shows.setProfileEnabled (h : Shows s p) (name : Bytes) (enabled : Bool) :
    (s.1.setProfileEnabled name enabled s.2).1 = (p.setProfileEnabled name enabled).1 ∧
      Shows (s.1.setProfileEnabled name enabled s.2).2 (p.setProfileEnabled name enabled).2 := by
  obtain ⟨hbus, -, -⟩ := @setProfileEnabled_same s _ (·.bus) (fun _ _ => rfl) name enabled
  have hfind : (p.rows.findIdx? fun r => r.profile.name == name) =
      s.1.profileBins.findIdx? fun b => b.profile.name == name := by
    rw [← h.rows, List.findIdx?_map]
    rfl
  unfold ProfileHost.setProfileEnabled Panel.setProfileEnabled at *
  rw [hfind]
  cases hi : s.1.profileBins.findIdx? fun b => b.profile.name == name with
  | none => exact ⟨rfl, h⟩
  | some i =>
    obtain ⟨hlt, -⟩ := List.findIdx?_eq_some_iff_getElem.mp hi
    have hb : s.1.profileBins[i]? = some s.1.profileBins[i] := List.getElem?_eq_getElem hlt
    simp only [hi, hb] at hbus ⊢
    refine ⟨trivial, h.source, h.made, h.linked, fun hlinked => ?_, ?_, h.fitted.congr ?_ hbus.next_le⟩
    · obtain ⟨r, bus, hr, hobj⟩ := h.bus hlinked
      have hlt : r < s.2.next := Gst.lt_of_bind (Option.map_eq_bind .. ▸ hobj)
      exact ⟨r, bus, hr, (hbus.read hlt).trans hobj⟩
    · rw [← h.rows]
      exact rows_setDrop h.fitted hb enabled
    · refine map_modify _ _ (fun b => ?_) _ i
      unfold ProfileBin.setState
      split <;> rfl

theorem Shows.attachBusWatch (h : Shows s p) (fails : WatchCall → Bool) (context callback : Option Nat) :
    (s.1.attachBusWatch fails context callback s.2).1 = p.attachBusWatch fails context callback ∧
      Shows (s.1.attachBusWatch fails context callback s.2).2 p := by
  unfold ProfileHost.attachBusWatch Panel.attachBusWatch
  cases context with
  | none => exact ⟨rfl, h⟩
  | some context =>
    cases callback with
    | none => exact ⟨rfl, h⟩
    | some callback =>
      by_cases hstage : p.stage = .linked
      · obtain ⟨r, bus, hr, hobj⟩ := h.bus hstage
        obtain ⟨o, ho, hb⟩ := Option.map_eq_some_iff.mp hobj
        have hplay : (s.2.obj r).map VideoPipeline.playState = some (o.state, some bus) := by
          rw [ho, ← hb]
          rfl
        have hout := (VideoPipeline.attachBusWatch_outcome s.1.watch fails context callback hplay).1
        have hlinked := h.linked.mpr hstage
        simp only [hlinked, hr, hstage, ne_eq, not_true_eq_false, if_false]
        exact ⟨hout, h.congr (by rw [← hr, ← hlinked]) (Gst.Same.refl.attachBusWatch ..)⟩
      · simp only [Bool.eq_false_iff.mpr (mt h.linked.mp hstage), hstage, ne_eq, not_false_eq_true, if_true]
        exact ⟨rfl, h⟩

/-- One call: the same outcome on both sides, and the machine still knows what it has to. -/
theorem Shows.call (h : Shows s p) (e : HostEvent) : outcome s e = (p.call e).1 ∧ Shows (handle s e) (p.call e).2 := by
  cases e with
  | setVideoSource source => exact ⟨rfl, rfl, h.made, h.linked, h.bus, h.rows, h.fitted⟩
  | setupPipeline faults =>
    obtain ⟨hout, hnext⟩ := h.setupPipeline faults
    exact ⟨congrArg some hout, hnext⟩
  | play fails => exact ⟨congrArg some (h.setPipelineState ..), h.congr rfl (setPipelineState_steers ..).same⟩
  | stop fails => exact ⟨congrArg some (h.setPipelineState ..), h.congr rfl (setPipelineState_steers ..).same⟩
  | setProfileEnabled name enabled =>
    obtain ⟨hout, hnext⟩ := h.setProfileEnabled name enabled
    exact ⟨congrArg some hout, hnext⟩
  | attachBusWatch fails context callback =>
    obtain ⟨hout, hnext⟩ := h.attachBusWatch fails context callback
    exact ⟨congrArg some hout, hnext⟩
  | detachBusWatch => exact ⟨rfl, h.congr rfl (Gst.Same.refl.detachBusWatch _)⟩
  | dispatch during =>
    unfold handle
    cases s.1.watch.busSource with
    | none => exact ⟨rfl, h⟩
    | some source => exact ⟨rfl, h.congr rfl (dispatch_same ..)⟩

theorem Shows.find (h : Shows s p) (name : Bytes) :
    (p.rows.find? fun r => r.profile.name == name) = (s.1.find name).map (row s.2) := by
  rw [← h.rows, List.find?_map]
  rfl

theorem Shows.profileEnabled (h : Shows s p) (name : Bytes) :
    s.1.profileEnabled name s.2 = p.profileEnabled name := by
  unfold ProfileHost.profileEnabled Panel.profileEnabled
  rw [h.find]
  cases s.1.find name with
  | none => rfl
  | some b =>
    unfold ProfileBin.isDropped
    simp only [Option.map_some, row]
    cases b.valve with
    | none => rfl
    | some v =>
      rw [Bool.eq_iff_iff]
      simp

theorem Shows.appSinkForProfile (h : Shows s p) (name : Bytes) :
    (s.1.appSinkForProfile name).isSome = p.hasAppSink name := by
  unfold ProfileHost.appSinkForProfile Panel.hasAppSink
  rw [h.find]
  cases hfind : s.1.find name with
  | none => rfl
  | some b =>
    have hsink : b.appSink.isSome = b.valve.isSome :=
      h.fitted.sink (b.valve, b.appSink) (List.mem_map_of_mem (List.mem_of_find?_eq_some hfind))
    rw [Option.bind_some, hsink]
    simp [row]

/-! ### Every run -/

theorem Shows.init (profiles : List ProfileInfo) (g : Gst) : Shows (.new profiles, g) (.new profiles) := by
  have houtlets : ∀ t ∈ outlets (ProfileHost.new profiles).profileBins, t = (none, none) := by
    intro t ht
    unfold outlets ProfileHost.new at ht
    rw [List.map_map] at ht
    obtain ⟨profile, -, rfl⟩ := List.mem_map.mp ht
    rfl
  refine ⟨rfl, iff_of_false Bool.false_ne_true (by simp [Panel.new]), iff_of_false Bool.false_ne_true nofun, nofun, ?_,
    ⟨fun t ht v hv => ?_, fun t ht => ?_, ?_⟩⟩
  · unfold ProfileHost.new Panel.new
    rw [List.map_map]
    rfl
  · rw [houtlets t ht] at hv; cases hv
  · rw [houtlets t ht]
  · refine List.pairwise_of_forall_mem_list fun t ht t' _ v hv => ?_
    rw [houtlets t ht] at hv; cases hv

/-- The class simulates the machine, whatever calls of the library fail. -/
theorem simulates_panel : Simulates Shows (fun _ => True) answer Panel.answer := by
  constructor
  · intro s p c h _
    cases c with
    | event e => exact congrArg PanelAnswer.outcome (h.call e).1
    | profiles =>
      refine congrArg PanelAnswer.profiles ?_
      show s.1.profileBins.map _ = p.rows.map _
      rw [← h.rows, List.map_map]
      rfl
    | profileEnabled name => exact congrArg PanelAnswer.enabled (h.profileEnabled name)
    | appSinkForProfile name => exact congrArg PanelAnswer.appSink (h.appSinkForProfile name)
  · intro s p c h _
    cases c with
    | event e => exact (h.call e).2
    | profiles => exact h
    | profileEnabled name => exact h
    | appSinkForProfile name => exact h

/-- Every answer of every run is that of the machine. -/
theorem answers_panel (profiles : List ProfileInfo) (g : Gst) (calls : List PanelCall) :
    trace answer (.new profiles, g) calls = trace Panel.answer (.new profiles) calls :=
  simulates_panel.trace (.init profiles g) fun _ _ => trivial

end ProfileHost

end CameraPlatform
