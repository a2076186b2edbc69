import CameraPlatform.HostPanel

/-!
# Which hosts can still play

A set-up that fails over its shared link leaves a host that never plays again; after every other failure a host
can be set up anew, if its catalog can be set up at all. The calls that switch profiles or ask for them never
show in the others.
-/

namespace CameraPlatform
open ByteString RefHeap Simulation

/-- The name of the bin of a profile. -/
def Row.binName (r : Row) : Bytes := ProfileBin.binName r.profile

namespace Panel

/-- The names the branches give their bins. -/
def binNames (p : Panel) : List Bytes := p.rows.map Row.binName

/-- No call fails. -/
def noFaults : SetupFaults := ⟨fun _ => false, fun _ _ => false⟩

section Rows
variable {faults : SetupFaults} {k : Nat} {taken : List Bytes} {rows rows' : List Row}

variable (faults k taken rows) in
/-- The catalog stays as it is. -/
theorem setupRows_binNames : (setupRows faults k taken rows).2.map Row.binName = rows.map Row.binName := by
  induction rows generalizing k taken with
  | nil => rfl
  | cons r rows ih =>
    unfold setupRows
    split
    · rfl
    · split
      · rfl
      · exact congrArg (r.binName :: ·) (ih ..)

/-- Only the names of the bins decide how the loop ends. -/
theorem setupRows_error (h : rows.map Row.binName = rows'.map Row.binName) :
    (setupRows faults k taken rows).1 = (setupRows faults k taken rows').1 := by
  induction rows generalizing rows' k taken with
  | nil =>
    obtain rfl := List.map_eq_nil_iff.mp h.symm
    rfl
  | cons r rows ih =>
    cases rows' with
    | nil => cases h
    | cons r' rows' =>
      obtain ⟨hname, hrows⟩ := List.cons.inj h
      have hbin : ProfileBin.binName r.profile = ProfileBin.binName r'.profile := hname
      unfold setupRows
      rw [hbin]
      split
      · rfl
      · split
        · rfl
        · exact ih hrows

/-- A loop that reaches its end has met every name once. -/
theorem nodup_of_setupRows (h : (setupRows faults k taken rows).1 = none) :
    (rows.map Row.binName).Nodup ∧ ∀ name ∈ rows.map Row.binName, name ∉ taken := by
  induction rows generalizing k taken with
  | nil => exact ⟨.nil, by simp⟩
  | cons r rows ih =>
    unfold setupRows at h
    split at h
    · cases h
    · split at h
      · cases h
      · next hfree =>
        obtain ⟨hnodup, hnot⟩ := ih h
        refine ⟨List.nodup_cons.mpr ⟨fun hmem => hnot _ hmem (List.mem_cons_self ..), hnodup⟩, fun name hname => ?_⟩
        rcases List.mem_cons.mp hname with rfl | hname
        · have hnot : ¬ (faults.host (.padLink k) = true ∨ r.binName ∈ taken) := by simpa [Row.binName] using hfree
          exact (not_or.mp hnot).2
        · exact fun htaken => hnot name hname (List.mem_cons_of_mem _ htaken)

/-- Without a failing call, that is enough. -/
theorem setupRows_noFaults (hnodup : (rows.map Row.binName).Nodup) (hnot : ∀ name ∈ rows.map Row.binName, name ∉ taken) :
    (setupRows noFaults k taken rows).1 = none := by
  induction rows generalizing k taken with
  | nil => rfl
  | cons r rows ih =>
    obtain ⟨hhead, htail⟩ := List.nodup_cons.mp hnodup
    have hfree : ProfileBin.binName r.profile ∉ taken := hnot r.binName (List.mem_cons_self ..)
    unfold setupRows
    rw [if_neg (by simp [noFaults]), if_neg (by simpa [noFaults] using hfree)]
    refine ih htail fun name hname htaken => ?_
    rcases List.mem_cons.mp htaken with rfl | htaken
    · exact hhead hname
    · exact hnot name (List.mem_cons_of_mem _ hname) htaken

end Rows

section
variable {p q : Panel} {names : List Bytes}

/-- What a set-up that gets to its loop leaves. -/
theorem setupPipeline_cases (faults : SetupFaults) (p : Panel) :
    (p.setupPipeline faults).2 = p ∨
      p.stage = .absent ∧ ((p.setupPipeline faults).2 = { p with stage := .unlinked } ∨
        (setupRows faults 0 [] p.rows).1 = none ∧
          (p.setupPipeline faults).2 = { p with stage := .linked, rows := (setupRows faults 0 [] p.rows).2 } ∨
        (p.setupPipeline faults).2 = { p with rows := (setupRows faults 0 [] p.rows).2 }) := by
  unfold setupPipeline
  split
  · exact .inl rfl
  · split
    · exact .inl rfl
    · next hstage =>
      split
      · exact .inl rfl
      · split
        · exact .inr ⟨not_not.mp hstage, .inl rfl⟩
        · split
          · next rows hrows => exact .inr ⟨not_not.mp hstage, .inr (.inl (by rw [hrows]; exact ⟨rfl, rfl⟩))⟩
          · next reason rows hrows => exact .inr ⟨not_not.mp hstage, .inr (.inr (by rw [hrows]))⟩

theorem setProfileEnabled_binNames (name : Bytes) (enabled : Bool) (p : Panel) :
    (p.setProfileEnabled name enabled).2.binNames = p.binNames ∧
      (p.setProfileEnabled name enabled).2.stage = p.stage ∧
      (p.setProfileEnabled name enabled).2.hasSource = p.hasSource := by
  unfold setProfileEnabled
  split
  · exact ⟨rfl, rfl, rfl⟩
  · next i _ => exact ⟨ProfileHost.map_modify Row.binName (Row.switch enabled) (fun _ => rfl) p.rows i, rfl, rfl⟩

/-- The names are those of the catalog, and they are distinct once the pipeline is there. -/
structure Coherent (names : List Bytes) (p : Panel) : Prop where
  binNames : p.binNames = names
  distinct : p.stage = .linked → names.Nodup

theorem Coherent.call (h : Coherent names p) (e : HostEvent) : Coherent names (p.call e).2 := by
  cases e with
  | setupPipeline faults =>
    show Coherent names (p.setupPipeline faults).2
    have hrows := setupRows_binNames faults 0 [] p.rows
    rcases setupPipeline_cases faults p with hres | ⟨hstage, hres | ⟨hnone, hres⟩ | hres⟩
    · rw [hres]; exact h
    · rw [hres]; exact ⟨h.binNames, nofun⟩
    · rw [hres]
      exact ⟨hrows.trans h.binNames, fun _ => h.binNames ▸ (nodup_of_setupRows hnone).1⟩
    · rw [hres]
      exact ⟨hrows.trans h.binNames, h.distinct⟩
  | setProfileEnabled name enabled =>
    obtain ⟨hnames, hstage, -⟩ := setProfileEnabled_binNames name enabled p
    exact ⟨hnames.trans h.binNames, fun hl => h.distinct (hstage ▸ hl)⟩
  | setVideoSource | play | stop | attachBusWatch | detachBusWatch | dispatch => exact ⟨h.binNames, h.distinct⟩

theorem Coherent.answer (h : Coherent names p) (c : PanelCall) : Coherent names (p.answer c).2 := by
  cases c with
  | event e => exact h.call e
  | profiles | profileEnabled | appSinkForProfile => exact h

/-- Nothing gets a pipeline that was not linked out of the way. -/
theorem call_unlinked (h : p.stage = .unlinked) (e : HostEvent) : (p.call e).2.stage = .unlinked := by
  cases e with
  | setupPipeline faults =>
    show (p.setupPipeline faults).2.stage = _
    rcases setupPipeline_cases faults p with hres | ⟨hstage, -⟩
    · rw [hres, h]
    · rw [h] at hstage; cases hstage
  | setProfileEnabled name enabled => exact (setProfileEnabled_binNames name enabled p).2.1.trans h
  | setVideoSource | play | stop | attachBusWatch | detachBusWatch | dispatch => exact h

theorem answer_unlinked (h : p.stage = .unlinked) (c : PanelCall) : (p.answer c).2.stage = .unlinked := by
  cases c with
  | event e => exact call_unlinked h e
  | profiles | profileEnabled | appSinkForProfile => exact h

theorem play_success : (p.answer (.event (.play false))).1 = .outcome (some .success) ↔ p.stage = .linked := by
  show PanelAnswer.outcome (some (p.setPipelineState false _)) = _ ↔ _
  unfold setPipelineState
  by_cases hstage : p.stage = .linked
  · simp [hstage]
  · simp [hstage, PipelineOutcome.failure, PipelineOutcome.success]

/-- Some calls get the machine to play. -/
def Playable (p : Panel) : Prop := ∃ calls, (exec answer p calls).stage = .linked

/-- A panel without a pipeline is set up by two calls, and one that is unlinked never again. -/
theorem Coherent.playable_iff_stage (h : Coherent names p) : p.Playable ↔ p.stage ≠ .unlinked ∧ names.Nodup := by
  constructor
  · rintro ⟨calls, hlinked⟩
    refine ⟨fun hunlinked => ?_, ?_⟩
    · have hstuck : (exec Panel.answer p calls).stage = .unlinked :=
        History.run_invariant (P := fun p : Panel => p.stage = .unlinked) hunlinked
          (fun _ c hp => answer_unlinked hp c) calls
      rw [hlinked] at hstuck; cases hstuck
    · have hcoherent : Coherent names (exec Panel.answer p calls) :=
        History.run_invariant (P := Coherent names) h (fun _ c hp => hp.answer c) calls
      exact hcoherent.distinct hlinked
  · rintro ⟨hstage, hnodup⟩
    cases hp : p.stage with
    | unlinked => exact absurd hp hstage
    | linked => exact ⟨[], hp⟩
    | absent =>
      refine ⟨[.event (.setVideoSource (some .TestVideoSource)), .event (.setupPipeline noFaults)], ?_⟩
      have hdistinct : p.binNames.Nodup := h.binNames ▸ hnodup
      have hrows := @setupRows_noFaults 0 [] p.rows hdistinct (by simp)
      show (({ p with hasSource := true } : Panel).setupPipeline noFaults).2.stage = .linked
      unfold setupPipeline
      rw [show ({ p with hasSource := true } : Panel).stage = .absent from hp]
      simp only [noFaults] at hrows ⊢
      generalize setupRows _ 0 [] p.rows = res at hrows ⊢
      obtain ⟨error, rows⟩ := res
      obtain rfl : error = none := hrows
      rfl

/-! ### Switching and asking -/

/-- The calls that build, steer or watch the pipeline. -/
def steering : PanelCall → Bool
  | .event (.setProfileEnabled _ _) | .profiles | .profileEnabled _ | .appSinkForProfile _ => false
  | .event _ => true

/-- Panels that those calls do not tell apart. -/
structure Like (p q : Panel) : Prop where
  hasSource : p.hasSource = q.hasSource
  stage : p.stage = q.stage
  binNames : p.binNames = q.binNames

theorem Like.setupPipeline (h : Like p q) (faults : SetupFaults) :
    (p.setupPipeline faults).1 = (q.setupPipeline faults).1 ∧
      Like (p.setupPipeline faults).2 (q.setupPipeline faults).2 := by
  have herror := @setupRows_error faults 0 [] p.rows q.rows h.binNames
  have hrows : ((setupRows faults 0 [] p.rows).2.map Row.binName) = (setupRows faults 0 [] q.rows).2.map Row.binName := by
    rw [setupRows_binNames, setupRows_binNames]
    exact h.binNames
  unfold Panel.setupPipeline
  rw [h.hasSource, h.stage]
  split
  · exact ⟨rfl, h⟩
  · split
    · exact ⟨rfl, h⟩
    · split
      · exact ⟨rfl, h⟩
      · split
        · exact ⟨rfl, rfl, rfl, h.binNames⟩
        · generalize setupRows faults 0 [] p.rows = res at herror hrows
          generalize setupRows faults 0 [] q.rows = res' at herror hrows
          obtain ⟨error, rows⟩ := res
          obtain ⟨error', rows'⟩ := res'
          obtain rfl : error = error' := herror
          cases error with
          | none => exact ⟨rfl, rfl, rfl, hrows⟩
          | some reason => exact ⟨rfl, rfl, rfl, hrows⟩

theorem Like.call (h : Like p q) {e : HostEvent} (he : steering (.event e) = true) :
    (p.call e).1 = (q.call e).1 ∧ Like (p.call e).2 (q.call e).2 := by
  cases e with
  | setVideoSource source => exact ⟨rfl, rfl, h.stage, h.binNames⟩
  | setupPipeline faults =>
    obtain ⟨hout, hnext⟩ := h.setupPipeline faults
    exact ⟨congrArg some hout, hnext⟩
  | play | stop =>
    refine ⟨?_, h⟩
    unfold Panel.call setPipelineState
    rw [h.stage]
  | setProfileEnabled name enabled => cases he
  | attachBusWatch fails context callback =>
    refine ⟨?_, h⟩
    unfold Panel.call attachBusWatch
    rw [h.stage]
  | detachBusWatch | dispatch => exact ⟨rfl, h⟩

theorem Like.answer (h : Like p q) {c : PanelCall} (hc : steering c = true) :
    (p.answer c).1 = (q.answer c).1 ∧ Like (p.answer c).2 (q.answer c).2 := by
  cases c with
  | event e => exact ⟨congrArg PanelAnswer.outcome (h.call hc).1, (h.call hc).2⟩
  | profiles | profileEnabled | appSinkForProfile => cases hc

/-- The other calls do not move a panel out of its class. -/
theorem Like.unmoved (h : Like p q) {c : PanelCall} (hc : steering c = false) : Like (p.answer c).2 q := by
  cases c with
  | event e =>
    cases e with
    | setProfileEnabled name enabled =>
      obtain ⟨hnames, hstage, hsource⟩ := setProfileEnabled_binNames name enabled p
      exact ⟨hsource.trans h.hasSource, hstage.trans h.stage, hnames.trans h.binNames⟩
    | setVideoSource | setupPipeline | play | stop | attachBusWatch | detachBusWatch | dispatch => cases hc
  | profiles | profileEnabled | appSinkForProfile => exact h

end

end Panel

namespace ProfileHost

theorem coherent_exec (profiles : List ProfileInfo) (past : List PanelCall) :
    Panel.Coherent (profiles.map ProfileBin.binName) (exec Panel.answer (.new profiles) past) := by
  refine History.run_invariant (P := Panel.Coherent (profiles.map ProfileBin.binName)) ⟨?_, fun hlinked => ?_⟩
    (fun _ c hp => hp.answer c) past
  · unfold Panel.binNames Panel.new
    rw [List.map_map]
    rfl
  · cases (show Stage.absent = .linked from hlinked)

/-- After any calls, with any failures: a host can still be brought to play if and only if it does not hold a
pipeline that was not linked, and no two of its profiles name their bins alike. -/
theorem playable_iff (profiles : List ProfileInfo) (g : Gst) (past : List PanelCall) :
    let s := exec answer (.new profiles, g) past
    (∃ calls, (answer (exec answer s calls) (.event (.play false))).1 = .outcome (some .success)) ↔
      ¬ (s.1.pipeline.isSome = true ∧ s.1.isLinked = false) ∧ (profiles.map ProfileBin.binName).Nodup := by
  intro s
  have hshows : Shows s (exec Panel.answer (.new profiles) past) :=
    simulates_panel.exec (.init profiles g) fun _ _ => trivial
  generalize hp : exec Panel.answer (.new profiles) past = p at hshows
  have hcoherent := coherent_exec profiles past
  rw [hp] at hcoherent
  have hplays : (∃ calls, (answer (exec answer s calls) (.event (.play false))).1 = .outcome (some .success)) ↔
      p.Playable := by
    refine exists_congr fun calls => ?_
    have hlater : Shows (exec answer s calls) (exec Panel.answer p calls) :=
      simulates_panel.exec hshows fun _ _ => trivial
    rw [simulates_panel.answer _ _ (.event (.play false)) hlater trivial]
    exact Panel.play_success
  have hstage : (s.1.pipeline.isSome = true ∧ s.1.isLinked = false) ↔ p.stage = .unlinked := by
    rw [Bool.eq_false_iff, ne_eq, hshows.linked, hshows.made]
    cases p.stage <;> simp
  rw [hplays, hcoherent.playable_iff_stage, hstage]

/-- Switching profiles and asking for them never shows in what the other calls answer. -/
theorem steering_heard (profiles : List ProfileInfo) (g : Gst) (past calls : List PanelCall) :
    let s := exec answer (.new profiles, g) past
    heard answer Panel.steering s calls = trace answer s (calls.filter Panel.steering) := by
  intro s
  have hshows : Shows s (exec Panel.answer (.new profiles) past) :=
    simulates_panel.exec (.init profiles g) fun _ _ => trivial
  have hsteers : Simulates (fun s q => ∃ p, Shows s p ∧ Panel.Like p q) (fun c => Panel.steering c = true) answer
      Panel.answer := by
    constructor
    · rintro s q c ⟨p, hs, hlike⟩ hc
      rw [simulates_panel.answer s p c hs trivial]
      exact (hlike.answer hc).1
    · rintro s q c ⟨p, hs, hlike⟩ hc
      exact ⟨_, simulates_panel.next s p c hs trivial, (hlike.answer hc).2⟩
  refine hsteers.heard ?_ ⟨_, hshows, ⟨rfl, rfl, rfl⟩⟩ calls
  rintro s q c ⟨p, hs, hlike⟩ hc
  exact ⟨_, simulates_panel.next s p c hs trivial, hlike.unmoved hc⟩

end ProfileHost

end CameraPlatform
