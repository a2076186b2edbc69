import CameraPlatform.Base.Simulation
import CameraPlatform.WatchLife

/-!
# What callers of a `VideoPipeline` can tell

A caller sees outcomes and times. These depend on very little: whether there is a source, and the state of the
pipeline while it is set up. `Player` is the machine that keeps just that, and it answers as the class does.
-/

namespace CameraPlatform
open ByteString RefHeap Simulation

/-- A call of `VideoPipeline`; `answer` is what a query finds. -/
inductive PlayerCall where
  | event (e : VideoEvent)
  | currentPosition (getFails : Bool) (answer : Option Int64)
  | duration (getFails : Bool) (answer : Option Int64)

inductive PlayerAnswer where
  | outcome (outcome : Option PipelineOutcome)
  | time (t : Int64)
deriving DecidableEq

namespace VideoPipeline

def answer (s : VideoPipeline × Gst) : PlayerCall → PlayerAnswer × VideoPipeline × Gst
  | .event e => (.outcome (call s e).1, (call s e).2)
  | .currentPosition getFails answer => (.time (s.1.currentPosition getFails answer s.2), s)
  | .duration getFails answer => (.time (s.1.duration getFails answer s.2), s)

end VideoPipeline

/-- A pipeline as its callers know it: without a state, nothing is set up. -/
structure Player where
  hasSource : Bool := false
  state : Option GstState := none
deriving DecidableEq

namespace Player

/-- The pipeline is in one of the states, and the program gets to know it. -/
def isIn (p : Player) (getFails : Bool) (states : List GstState) : Bool :=
  match p.state with
  | some state => !getFails && state ∈ states
  | none => false

def setupPipeline (fails : VideoCall → Bool) (p : Player) : PipelineOutcome × Player :=
  if p.state.isSome then (.failure "Pipeline is setup", p)
  else if !p.hasSource then (.failure "videoSource is not set", p)
  else if [VideoCall.source, .pipeline, .videoConvert, .videoCaps, .sink].any fails then
    (.failure "Failed to create GStreamer elements", p)
  else if fails .link then (.failure "Failed to link elements in the pipeline", p)
  else (.success, { p with state := some .null })

/-- `play` and `pause`: in one of `states` the pipeline goes to `state`. -/
def changeState (states : List GstState) (state : GstState) (failed refused : String) (getFails setFails : Bool)
    (p : Player) : PipelineOutcome × Player :=
  if p.state.isNone then (.failure "Pipeline is not setup", p)
  else if !p.isIn getFails states then (.failure refused, p)
  else if setFails then (.failure failed, p)
  else (.success, { p with state := some state })

def seek (getFails seekFails : Bool) (p : Player) : PipelineOutcome :=
  if p.state.isNone then .failure "Pipeline is not setup"
  else if !p.isIn getFails [.playing, .paused] then .failure "Pipeline is not in PLAYING or PAUSED state, cannot seek"
  else if seekFails then .failure "Pipeline cannot be seeked"
  else .success

def attachBusWatch (fails : WatchCall → Bool) (context callback : Option Nat) (p : Player) : PipelineOutcome :=
  if context.isNone || callback.isNone then .failure "Invalid context or callback"
  else if p.state.isNone then .failure "Pipeline is not setup"
  else if fails .getBus then .failure "Failed to get bus from pipeline"
  else if fails .createWatch then .failure "Failed to create bus watch"
  else .success

/-- A time is known in PLAYING and in PAUSED. -/
def clockQuery (getFails : Bool) (answer : Option Int64) (p : Player) : Int64 :=
  if p.isIn getFails [.playing, .paused] then answer.getD (-1) else -1

def call (p : Player) : VideoEvent → Option PipelineOutcome × Player
  | .setVideoSource source => (some .success, { p with hasSource := source.isSome })
  | .setVideoSink _ => (some .success, p)
  | .setCaps _ => (some .success, p)
  | .setupPipeline fails => (some (p.setupPipeline fails).1, (p.setupPipeline fails).2)
  | .play getFails setFails =>
    let (outcome, p) := p.changeState [.null, .ready, .paused] .playing "Failed to set pipeline to PLAYING state"
      "Invalid pipeline state for play" getFails setFails
    (some outcome, p)
  | .pause getFails setFails =>
    let (outcome, p) := p.changeState [.playing] .paused "Failed to set pipeline to PAUSED state"
      "Pipeline is not in PLAYING state, cannot pause" getFails setFails
    (some outcome, p)
  | .stop => (some .success, { p with state := none })
  | .seek getFails seekFails => (some (p.seek getFails seekFails), p)
  | .attachBusWatch fails context callback => (some (p.attachBusWatch fails context callback), p)
  | .detachBusWatch => (none, p)
  | .dispatch _ => (none, p)

def answer (p : Player) : PlayerCall → PlayerAnswer × Player
  | .event e => (.outcome (p.call e).1, (p.call e).2)
  | .currentPosition getFails answer => (.time (p.clockQuery getFails answer), p)
  | .duration getFails answer => (.time (p.clockQuery getFails answer), p)

end Player

namespace VideoPipeline
variable {v : VideoPipeline} {g : Gst} {s s' : VideoPipeline × Gst} {p : Player} {state : GstState}

/-- The state of an element and its bus. -/
def playState (o : GObject) : GstState × Option Nat := (o.state, o.bus)

instance : Gst.Queueless playState := ⟨fun _ _ => rfl⟩

/-- The machine knows whether there is a source, and the state of the pipeline that is set up. -/
structure Plays (s : VideoPipeline × Gst) (p : Player) : Prop where
  settled : s.1.Settled
  source : s.1.videoSource.isSome = p.hasSource
  setup : s.1.isPipelineSetup = p.state.isSome
  pipeline : ∀ state ∈ p.state, ∃ r bus, s.1.pipeline = some r ∧ (s.2.obj r).map playState = some (state, some bus)

theorem Plays.init (g : Gst) : Plays ({}, g) {} :=
  ⟨⟨.inr (by simp [elements]), rfl⟩, rfl, rfl, nofun⟩

/-- A call that leaves the elements and their states. -/
theorem Plays.congr (h : Plays s p) (hsettled : s'.1.Settled) (helements : s'.1.elements = s.1.elements)
    (hsource : s'.1.videoSource = s.1.videoSource) (hsame : Gst.Same playState s.2 s'.2) : Plays s' p := by
  have hpipeline : s'.1.pipeline = s.1.pipeline := by
    simp only [elements, List.cons.injEq] at helements
    exact helements.1
  refine ⟨hsettled, hsource ▸ h.source, ?_, fun state hstate => ?_⟩
  · rw [← h.setup, Bool.eq_iff_iff, isPipelineSetup_iff, isPipelineSetup_iff, helements]
  · obtain ⟨r, bus, hr, hobj⟩ := h.pipeline state hstate
    have hlt : r < s.2.next := Gst.lt_of_bind (Option.map_eq_bind .. ▸ hobj)
    exact ⟨r, bus, hpipeline.trans hr, (hsame.read hlt).trans hobj⟩

/-- A call that leaves no element. -/
theorem Plays.cleared (h : Plays s p) (g : Gst) : Plays (s.1.cleared, g) { p with state := none } :=
  ⟨h.settled.cleared, h.source, isPipelineSetup_cleared s.1, nofun⟩

theorem Plays.not_setup (h : Plays s p) : s.1.isPipelineSetup = false ↔ p.state = none := by
  rw [h.setup, Option.isSome_eq_false_iff, Option.isNone_iff_eq_none]

theorem Plays.isIn (h : Plays s p) (getFails : Bool) (states : List GstState) :
    s.1.isPipelineInState getFails states s.2 = p.isIn getFails states := by
  unfold isPipelineInState Player.isIn
  rw [h.setup]
  cases hstate : p.state with
  | none => rfl
  | some state =>
    obtain ⟨r, bus, hr, hobj⟩ := h.pipeline state hstate
    obtain ⟨o, ho, heq⟩ := Option.map_eq_some_iff.mp hobj
    rw [hr, Option.bind_some, ho]
    show (!getFails && decide (o.state ∈ states)) = _
    rw [(Prod.mk.inj heq).1]

/-! ### One call -/

/-- `play` and `pause` go through when the machine says so, and set the state it says. -/
theorem Plays.changeState (h : Plays s p) (states : List GstState) (state : GstState) (failed refused : String)
    (getFails setFails : Bool) :
    (s.1.changeState states state failed refused getFails setFails s.2).1 =
        (p.changeState states state failed refused getFails setFails).1 ∧
      Plays (s.1, (s.1.changeState states state failed refused getFails setFails s.2).2)
        (p.changeState states state failed refused getFails setFails).2 := by
  unfold VideoPipeline.changeState Player.changeState
  rw [h.isIn getFails states, h.setup]
  cases hstate : p.state with
  | none => exact ⟨rfl, h⟩
  | some old =>
    obtain ⟨r, bus, hr, hobj⟩ := h.pipeline old hstate
    simp only [hr, Option.isSome_some, Option.isNone_some, Bool.false_eq_true, if_false]
    cases p.isIn getFails states with
    | false => exact ⟨rfl, h⟩
    | true =>
      cases setFails with
      | true => exact ⟨rfl, h.congr h.settled rfl rfl (Gst.Same.refl.heap rfl)⟩
      | false =>
        refine ⟨rfl, h.settled, h.source, by rw [h.setup, hstate]; rfl, ?_⟩
        rintro _ ⟨⟩
        obtain ⟨o, ho, heq⟩ := Option.map_eq_some_iff.mp hobj
        refine ⟨r, bus, hr, ?_⟩
        show ((s.2.update r _).obj r).map playState = _
        rw [Gst.obj_update, if_pos rfl, ho]
        show some (state, o.bus) = _
        rw [(Prod.mk.inj heq).2]

theorem Plays.seek (h : Plays s p) (getFails seekFails : Bool) :
    (s.1.seek getFails seekFails s.2).1 = p.seek getFails seekFails ∧
      Plays (s.1, (s.1.seek getFails seekFails s.2).2) p := by
  unfold VideoPipeline.seek Player.seek
  rw [h.isIn getFails, h.setup]
  cases hstate : p.state with
  | none => exact ⟨rfl, h⟩
  | some state =>
    simp only [Option.isSome_some, Option.isNone_some, Bool.false_eq_true, if_false, if_true]
    cases p.isIn getFails [.playing, .paused] with
    | false => exact ⟨rfl, h⟩
    | true =>
      cases seekFails with
      | true => exact ⟨rfl, h.congr h.settled rfl rfl (Gst.Same.refl.heap rfl)⟩
      | false => exact ⟨rfl, h⟩

theorem Plays.clockQuery (h : Plays s p) (getFails : Bool) (answer : Option Int64) :
    s.1.clockQuery getFails answer s.2 = p.clockQuery getFails answer := by
  unfold VideoPipeline.clockQuery Player.clockQuery
  rw [h.isIn getFails, h.setup]
  cases hstate : p.state with
  | none => simp [Player.isIn, hstate]
  | some state => rfl

/-- The new pipeline is in NULL, and has its bus. -/
theorem playState_assembled (source : VideoSource) (sink : VideoSink) (caps : VideoCaps) (g : Gst) :
    ((assembled source sink caps g).obj (g.next + 1)).map playState = some (.null, some (g.next + 2)) := by
  obtain ⟨-, -, -, -, hpipe, -⟩ := made_spec g source sink
  unfold assembled
  rw [Gst.obj_linkPairs, Gst.obj_binAddMany, Gst.setObject, Gst.obj_update, if_neg (by omega), hpipe]
  rfl

/-- What the machine says of a set-up that is not turned away. -/
theorem player_setupPipeline (fails : VideoCall → Bool) (hstate : p.state = none) (hsource : p.hasSource = true) :
    (∀ c, fails c = false) ∧ p.setupPipeline fails = (.success, { p with state := some .null }) ∨
    (∃ c, c ≠ .link ∧ fails c = true) ∧ p.setupPipeline fails = (.failure "Failed to create GStreamer elements", p) ∨
    (∀ c, c ≠ .link → fails c = false) ∧ fails .link = true ∧
      p.setupPipeline fails = (.failure "Failed to link elements in the pipeline", p) := by
  unfold Player.setupPipeline
  rw [hstate, hsource]
  simp only [Option.isSome_none, Bool.not_true, Bool.false_eq_true, if_false]
  by_cases hany : [VideoCall.source, .pipeline, .videoConvert, .videoCaps, .sink].any fails = true
  · rw [if_pos hany]
    obtain ⟨c, hc, hfails⟩ := List.any_eq_true.mp hany
    refine .inr (.inl ⟨⟨c, ?_, hfails⟩, rfl⟩)
    rintro rfl
    simp at hc
  · rw [if_neg hany]
    have hmade : ∀ c, c ≠ .link → fails c = false := by
      intro c hc
      have hnone := List.any_eq_false.mp (Bool.eq_false_iff.mpr hany) c
      cases c <;> first | exact absurd rfl hc | simpa using hnone
    cases hlink : fails .link with
    | true => exact .inr (.inr ⟨hmade, rfl, rfl⟩)
    | false =>
      refine .inl ⟨fun c => ?_, rfl⟩
      by_cases hc : c = .link
      · rw [hc, hlink]
      · exact hmade c hc

/-- The outcome of a set-up, down to its text. -/
theorem Plays.setupPipeline_fst (h : Plays s p) (fails : VideoCall → Bool) :
    (s.1.setupPipeline fails s.2).1 = (p.setupPipeline fails).1 := by
  by_cases hstate : p.state = none
  · have hsetup := h.not_setup.mpr hstate
    cases hsource : s.1.videoSource with
    | none =>
      have hno : p.hasSource = false := by rw [← h.source, hsource]; rfl
      unfold VideoPipeline.setupPipeline Player.setupPipeline
      rw [hsetup, hsource, hstate, hno]
      rfl
    | some source =>
      have hhas : p.hasSource = true := by rw [← h.source, hsource]; rfl
      obtain ⟨sink, hsink⟩ := Option.isSome_iff_exists.mp h.settled.videoSink
      rcases player_setupPipeline fails hstate hhas with ⟨hgood, heq⟩ | ⟨hbad, heq⟩ | ⟨hmade, hlink, heq⟩
      · rcases setupPipeline_spec fails s.1 s.2 with
          ⟨hwhy | hwhy, -⟩ | ⟨-, source', -, ⟨-, sink', -, hres⟩ | ⟨⟨c, hc⟩ | hnone, -⟩⟩
        · rw [hsetup] at hwhy; cases hwhy
        · rw [hsource] at hwhy; cases hwhy
        · rw [hres, heq]
        · rw [hgood c] at hc; cases hc
        · rw [hsink] at hnone; cases hnone
      · rw [setupPipeline_unmade hsetup hsource (.inl hbad), heq]
      · rw [setupPipeline_made hsetup hsource hsink hmade, heq]
        unfold setupElements Gst.linkMany
        rw [hlink]
        rfl
  · have hsome : p.state.isSome = true := Option.isSome_iff_ne_none.mpr hstate
    unfold VideoPipeline.setupPipeline Player.setupPipeline
    rw [h.setup, hsome]
    rfl

theorem Plays.setupPipeline (h : Plays s p) (fails : VideoCall → Bool) :
    Plays (s.1.setupPipeline fails s.2).2 (p.setupPipeline fails).2 := by
  have hout := h.setupPipeline_fst fails
  have hsettled := h.settled.setupPipeline fails s.2
  rcases setupPipeline_spec fails s.1 s.2 with ⟨hwhy, hno, hres⟩ | ⟨hsetup, source, hsource, hcases⟩
  · -- turned away on both sides
    have hsame : (p.setupPipeline fails).2 = p := by
      unfold Player.setupPipeline
      rcases hwhy with hwhy | hwhy
      · rw [← h.setup, hwhy]; rfl
      · rw [← h.source, hwhy]
        split <;> rfl
    rw [hres, hsame]
    exact h
  · have hstate := h.not_setup.mp hsetup
    have hhas : p.hasSource = true := by rw [← h.source, hsource]; rfl
    rcases hcases with ⟨hgood, sink, hsink, hres⟩ | ⟨-, hno, hv⟩
    · rcases player_setupPipeline fails hstate hhas with ⟨-, heq⟩ | ⟨⟨c, -, hc⟩, -⟩ | ⟨-, hlink, -⟩
      · rw [hres] at hsettled ⊢
        rw [heq]
        refine ⟨hsettled, h.source, rfl, ?_⟩
        rintro _ ⟨⟩
        exact ⟨_, _, rfl, playState_assembled source sink s.1.caps s.2⟩
      · rw [hgood c] at hc; cases hc
      · rw [hgood .link] at hlink; cases hlink
    · have hsame : (p.setupPipeline fails).2 = p := by
        rcases player_setupPipeline fails hstate hhas with ⟨-, heq⟩ | ⟨-, heq⟩ | ⟨-, -, heq⟩
        · rw [hout, heq] at hno; cases hno
        · rw [heq]
        · rw [heq]
      have hcleared := h.cleared (s.1.setupPipeline fails s.2).2.2
      rw [hsame]
      rw [← hv, ← hstate] at hcleared
      exact hcleared

/-- Only the context of a source and the counts change. -/
theorem detachBusWatch_playState (w : BusWatch) (g : Gst) : Gst.Same playState g (w.detachBusWatch g).2 := by
  unfold BusWatch.detachBusWatch
  split
  · next source _ =>
    refine Gst.Same.keeps ?_ (Gst.Keeps.refl.unref source)
    unfold Gst.sourceDestroy
    split
    · have hupdate : Gst.Same playState g (g.update source fun o => { o with context := none }) :=
        Gst.Same.refl.update _ fun _ => rfl
      exact hupdate.keeps (Gst.Keeps.refl.unref source)
    · exact .refl
  · exact .refl

theorem newWatch_playState (g : Gst) (bus context : Nat) : Gst.Same playState g (g.newWatch bus context) := by
  have halloc : Gst.Keeps g ((g.ref bus).alloc false { type := ascii "GSource", bus := some bus }) :=
    (Gst.Keeps.refl.ref bus).alloc false { type := ascii "GSource", bus := some bus }
  have hattach : Gst.Same playState g (((g.ref bus).alloc false { type := ascii "GSource", bus := some bus }).update
      g.next fun o => { o with context := some context }) := halloc.same.update _ fun _ => rfl
  exact (hattach.keeps (Gst.Keeps.refl.ref g.next)).keeps (Gst.Keeps.refl.unref bus)

/-- A watch of a pipeline that has its bus: which call fails decides the outcome. -/
theorem attachBusWatch_outcome (w : BusWatch) {r bus : Nat} (fails : WatchCall → Bool) (context callback : Nat)
    (hbus : (g.obj r).map playState = some (state, some bus)) :
    (w.attachBusWatch fails r context callback g).1 =
        (if fails .getBus then .failure "Failed to get bus from pipeline"
        else if fails .createWatch then .failure "Failed to create bus watch" else .success) ∧
      Gst.Same playState g (w.attachBusWatch fails r context callback g).2.2 := by
  have hdetach := detachBusWatch_playState w g
  have hbus' : (w.detachBusWatch g).2.busOf r = some bus := by
    have hlt : r < g.next := Gst.lt_of_bind (Option.map_eq_bind .. ▸ hbus)
    obtain ⟨o, ho, heq⟩ := Option.map_eq_some_iff.mp ((hdetach.read hlt).trans hbus)
    rw [Gst.busOf, ho, Option.bind_some]
    exact (Prod.mk.inj heq).2
  constructor
  · unfold BusWatch.attachBusWatch
    generalize w.detachBusWatch g = detached at hbus'
    obtain ⟨w', g'⟩ := detached
    have hget : g'.getBus false r = (some bus, g'.ref bus) := by
      unfold Gst.getBus
      rw [show (g'.obj r).bind (·.bus) = some bus from hbus']
    cases fails .getBus with
    | true => rfl
    | false =>
      simp only [hget]
      cases fails .createWatch <;> rfl
  · rcases w.attach_cases fails context callback hbus' with ⟨-, -, -, hg | hg⟩ | ⟨-, -, -, hg⟩
    · rw [hg]
      exact hdetach.heap rfl
    · rw [hg]
      exact (hdetach.keeps (Gst.Keeps.refl.ref bus)).heap rfl
    · rw [hg]
      exact hdetach.trans (newWatch_playState ..)

theorem Plays.attachBusWatch (h : Plays s p) (fails : WatchCall → Bool) (context callback : Option Nat) :
    (s.1.attachBusWatch fails context callback s.2).1 = p.attachBusWatch fails context callback ∧
      Plays (s.1.attachBusWatch fails context callback s.2).2 p := by
  unfold VideoPipeline.attachBusWatch Player.attachBusWatch
  cases context with
  | none => exact ⟨rfl, h⟩
  | some context =>
    cases callback with
    | none => exact ⟨rfl, h⟩
    | some callback =>
      rw [h.setup]
      cases hstate : p.state with
      | none => exact ⟨rfl, h⟩
      | some state =>
        obtain ⟨r, bus, hr, hobj⟩ := h.pipeline state hstate
        obtain ⟨hout, hsame⟩ := attachBusWatch_outcome s.1.watch fails context callback hobj
        simp only [hr, Option.isSome_some]
        exact ⟨hout, h.congr (h.settled.congr (by simp [elements, hr]) rfl) (by simp [elements, hr]) rfl hsame⟩

theorem dispatch_playState (v : VideoPipeline) (source : Nat) (during : List GstMessage) (g : Gst) :
    Gst.Same playState g (g.dispatch source v.onBusMessageStatic during).2 :=
  Gst.Same.refl.dispatch source (onBusMessageStatic_same v) during

/-- One call: the same outcome on both sides, and the machine still knows what it has to. -/
theorem Plays.call (h : Plays s p) {e : VideoEvent} (he : e ≠ .setVideoSink none) :
    (call s e).1 = (p.call e).1 ∧ Plays (VideoPipeline.call s e).2 (p.call e).2 := by
  have hsettled : (VideoPipeline.call s e).2.1.Settled := h.settled.handle he
  cases e with
  | setVideoSource source => exact ⟨rfl, hsettled, rfl, h.setup, h.pipeline⟩
  | setVideoSink sink => exact ⟨rfl, h.congr hsettled rfl rfl .refl⟩
  | setCaps caps =>
    have hfst := setCaps_fst s.1 caps s.2
    refine ⟨congrArg some ?_, h.congr hsettled ?_ ?_ ?_⟩
    · unfold setCaps
      simp only
      split <;> rfl
    · show (s.1.setCaps caps s.2).2.1.elements = _
      rw [hfst]
      rfl
    · show (s.1.setCaps caps s.2).2.1.videoSource = _
      rw [hfst]
    · show Gst.Same playState s.2 (s.1.setCaps caps s.2).2.2
      unfold setCaps
      simp only
      split
      · exact Gst.Same.refl.update _ fun _ => rfl
      · exact .refl
  | setupPipeline fails => exact ⟨congrArg some (h.setupPipeline_fst fails), h.setupPipeline fails⟩
  | play getFails setFails =>
    obtain ⟨hout, hnext⟩ := h.changeState [.null, .ready, .paused] .playing "Failed to set pipeline to PLAYING state"
      "Invalid pipeline state for play" getFails setFails
    exact ⟨congrArg some hout, hnext⟩
  | pause getFails setFails =>
    obtain ⟨hout, hnext⟩ := h.changeState [.playing] .paused "Failed to set pipeline to PAUSED state"
      "Pipeline is not in PLAYING state, cannot pause" getFails setFails
    exact ⟨congrArg some hout, hnext⟩
  | stop =>
    have hcleared := h.cleared (s.1.stop s.2).2.2
    rw [← stop_fst s.1 s.2] at hcleared
    exact ⟨congrArg some (stop_ok s.1 s.2), hcleared⟩
  | seek getFails seekFails =>
    obtain ⟨hout, hnext⟩ := h.seek getFails seekFails
    exact ⟨congrArg some hout, hnext⟩
  | attachBusWatch fails context callback =>
    obtain ⟨hout, hnext⟩ := h.attachBusWatch fails context callback
    exact ⟨congrArg some hout, hnext⟩
  | detachBusWatch => exact ⟨rfl, h.congr hsettled rfl rfl (detachBusWatch_playState s.1.watch s.2)⟩
  | dispatch during =>
    unfold VideoPipeline.call
    cases s.1.watch.busSource with
    | none => exact ⟨rfl, h⟩
    | some source => exact ⟨rfl, h.congr h.settled rfl rfl (dispatch_playState s.1 source during s.2)⟩

/-! ### Every run -/

/-- The sink factories are no null pointers. -/
def Sunk (c : PlayerCall) : Prop := c ≠ .event (.setVideoSink none)

/-- The class simulates the machine. -/
theorem simulates_player : Simulates Plays Sunk answer Player.answer := by
  constructor
  · intro s p c h hc
    cases c with
    | event e =>
      have hcall := (h.call fun he : e = _ => hc (by rw [he])).1
      exact congrArg PlayerAnswer.outcome hcall
    | currentPosition getFails answer => exact congrArg PlayerAnswer.time (h.clockQuery getFails answer)
    | duration getFails answer => exact congrArg PlayerAnswer.time (h.clockQuery getFails answer)
  · intro s p c h hc
    cases c with
    | event e => exact (h.call fun he : e = _ => hc (by rw [he])).2
    | currentPosition getFails answer => exact h
    | duration getFails answer => exact h

/-- Every outcome and every time of every run are those of the machine. -/
theorem answers_player (g : Gst) (calls : List PlayerCall) (h : ∀ c ∈ calls, Sunk c) :
    trace answer ({}, g) calls = trace Player.answer {} calls :=
  simulates_player.trace (.init g) h

theorem answers_player_paused :
    let calls : List PlayerCall := [.event (.setVideoSource (some .TestVideoSource)), .event (.setupPipeline fun _ => false),
      .currentPosition false (some 7), .event (.play false false), .event (.pause false false), .duration false (some 9)]
    trace answer ({}, .init) calls = trace Player.answer {} calls := by
  intro calls
  refine answers_player .init calls ?_
  simp [calls, Sunk]

/-- After `stop` a pipeline cannot be told from a new one that was given the same source. -/
theorem stop_forgets (g g' : Gst) (past calls : List PlayerCall) (hpast : ∀ c ∈ past, Sunk c)
    (hcalls : ∀ c ∈ calls, Sunk c) :
    trace answer (exec answer ({}, g) (past ++ [.event .stop])) calls =
      trace answer ({ videoSource := (exec answer ({}, g) past).1.videoSource }, g') calls := by
  have hplays := simulates_player.exec (.init g) hpast
  have hstop : Plays (exec answer ({}, g) (past ++ [.event .stop]))
      { hasSource := (exec answer ({}, g) past).1.videoSource.isSome } := by
    rw [exec_concat, hplays.source]
    exact (hplays.call (show VideoEvent.stop ≠ .setVideoSink none by simp)).2
  have hnew : Plays ({ videoSource := (exec answer ({}, g) past).1.videoSource }, g')
      { hasSource := (exec answer ({}, g) past).1.videoSource.isSome } :=
    ⟨⟨.inr (by simp [elements]), rfl⟩, rfl, rfl, nofun⟩
  rw [simulates_player.trace hstop hcalls, simulates_player.trace hnew hcalls]

theorem stop_forgets_playing :
    let past : List PlayerCall := [.event (.setVideoSource (some .TestVideoSource)),
      .event (.setupPipeline fun _ => false), .event (.play false false)]
    let calls : List PlayerCall := [.event (.pause false false), .event (.setupPipeline fun _ => false)]
    trace answer (exec answer ({}, .init) (past ++ [.event .stop])) calls =
      trace answer ({ videoSource := (exec answer ({}, .init) past).1.videoSource }, .init) calls := by
  intro past calls
  refine stop_forgets .init .init past calls ?_ ?_
  · simp [past, Sunk]
  · simp [calls, Sunk]

end VideoPipeline

end CameraPlatform
