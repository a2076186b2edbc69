import CameraPlatform.Base.History
import CameraPlatform.BusQueue
import CameraPlatform.HostReady
import CameraPlatform.VideoSetup

/-!
# Which messages reach the callback

Of the two messages that leave the bus at a dispatch only the second is reported. A run delivers
what was posted since the attach exactly when each message to be reported is taken by the handler.
-/

namespace CameraPlatform
open ByteString RefHeap History

/-- The classes that watch the bus of their pipeline. -/
inductive WatchOwner where
  | profileHost (h : ProfileHost)
  | videoPipeline (v : VideoPipeline)

namespace WatchOwner

def pipeline : WatchOwner → Option Nat
  | profileHost h => h.pipeline
  | videoPipeline v => v.pipeline

def watch : WatchOwner → BusWatch
  | profileHost h => h.watch
  | videoPipeline v => v.watch

def attachBusWatch (fails : WatchCall → Bool) (context callback : Option Nat) :
    WatchOwner → Gst → PipelineOutcome × WatchOwner × Gst
  | profileHost h, g =>
    let (outcome, h, g) := h.attachBusWatch fails context callback g
    (outcome, profileHost h, g)
  | videoPipeline v, g =>
    let (outcome, v, g) := v.attachBusWatch fails context callback g
    (outcome, videoPipeline v, g)

def detachBusWatch : WatchOwner → Gst → WatchOwner × Gst
  | profileHost h, g =>
    let (h, g) := h.detachBusWatch g
    (profileHost h, g)
  | videoPipeline v, g =>
    let (v, g) := v.detachBusWatch g
    (videoPipeline v, g)

def play (getFails setFails : Bool) : WatchOwner → Gst → Gst
  | profileHost h, g => (h.play setFails g).2
  | videoPipeline v, g => (v.play getFails setFails g).2

/-- `pause`, which `ProfileHost` calls `stop`. -/
def pause (getFails setFails : Bool) : WatchOwner → Gst → Gst
  | profileHost h, g => (h.stop setFails g).2
  | videoPipeline v, g => (v.pause getFails setFails g).2

def onBusMessageStatic : WatchOwner → Gst → List Report × Gst
  | profileHost h, g => h.onBusMessageStatic g
  | videoPipeline v, g => v.onBusMessageStatic g

/-- The pipeline bus. -/
def bus (o : WatchOwner) (g : Gst) : Option Nat := o.pipeline.bind g.busOf

/-- `setupPipeline` has just succeeded. -/
inductive SetUp : WatchOwner → Gst → Prop where
  | profileHost (faults : SetupFaults) (h : ProfileHost) (g : Gst)
      (hok : (ProfileHost.setupPipeline faults h g).1.ok = true) :
      SetUp (.profileHost (ProfileHost.setupPipeline faults h g).2.1) (ProfileHost.setupPipeline faults h g).2.2
  | videoPipeline (fails : VideoCall → Bool) (v : VideoPipeline) (g : Gst)
      (hok : (VideoPipeline.setupPipeline fails v g).1.ok = true) :
      SetUp (.videoPipeline (VideoPipeline.setupPipeline fails v g).2.1) (VideoPipeline.setupPipeline fails v g).2.2

end WatchOwner

/-- What happens on the bus; the messages of `during` are posted in the course of the dispatch. -/
inductive BusEvent where
  | post (m : GstMessage)
  | dispatch (during : List GstMessage)

/-- The calls before the attach. -/
inductive BusCall where
  | event (e : BusEvent)
  | attachBusWatch (fails : WatchCall → Bool) (context callback : Option Nat)
  | detachBusWatch
  | play (getFails setFails : Bool)
  | pause (getFails setFails : Bool)

/-- The heap, what was reported and which messages were posted, in order. -/
structure BusRun where
  gst : Gst
  reports : List Report := []
  posted : List Nat := []

namespace WatchOwner

def step (o : WatchOwner) (s : BusRun) : BusEvent → BusRun
  | .post m =>
    match o.bus s.gst with
    | some bus => { s with gst := s.gst.post bus m, posted := s.posted ++ [s.gst.next] }
    | none => s
  | .dispatch during =>
    match o.watch.busSource with
    | some source =>
      let (reports, gst) := s.gst.dispatch source o.onBusMessageStatic during
      { gst, reports := s.reports ++ reports, posted := s.posted ++ List.range' s.gst.next during.length }
    | none => s

def call (s : WatchOwner × Gst) : BusCall → WatchOwner × Gst
  | .event e => (s.1, (s.1.step { gst := s.2 } e).gst)
  | .attachBusWatch fails context callback => (s.1.attachBusWatch fails context callback s.2).2
  | .detachBusWatch => s.1.detachBusWatch s.2
  | .play getFails setFails => (s.1, s.1.play getFails setFails s.2)
  | .pause getFails setFails => (s.1, s.1.pause getFails setFails s.2)

/-- The messages still on the bus. -/
def waiting (o : WatchOwner) (s : BusRun) : List Nat := ((o.bus s.gst).map s.gst.queue).getD []

/-- What the callback should have been told. -/
def expected (callback : Nat) (s : BusRun) : List Report := s.posted.filterMap (BusWatch.report callback s.gst)

/-- The message is an error, a warning or an end of stream. -/
def Reportable (g : Gst) (m : Nat) : Prop := ((g.content m).bind BusWatch.reportOf).isSome = true

/-- A dispatch finds its two messages in the right places: the one it drops is not to be reported, and
the one left to the handler was posted since the attach if it is reported. The messages posted
since the attach are the objects from `start` on. -/
def Heard (start : Nat) (o : WatchOwner) (s : BusRun) : BusEvent → Prop
  | .post _ => True
  | .dispatch during => ∀ bus, o.bus s.gst = some bus → ∀ m rest, s.gst.queue bus = m :: rest →
    let g := BusWatch.posted s.gst bus during
    (start ≤ m → ¬ Reportable g m) ∧
      ∀ m' ∈ (rest ++ List.range' s.gst.next during.length).head?, Reportable g m' → start ≤ m'

/-! ### Before the attach -/

/-- The pipeline `p` is set up. -/
def Ready (p : Nat) : WatchOwner → Prop
  | profileHost h => h.isLinked = true ∧ h.pipeline = some p
  | videoPipeline v => v.isPipelineSetup = true ∧ v.pipeline = some p

def setWatch (watch : BusWatch) : WatchOwner → WatchOwner
  | profileHost h => profileHost { h with watch }
  | videoPipeline v => videoPipeline { v with watch }

section
variable {o : WatchOwner} {p bus : Nat} {g : Gst} {fails : WatchCall → Bool}

theorem Ready.pipeline_eq (h : o.Ready p) : o.pipeline = some p := by
  cases o <;> exact h.2

theorem Ready.setWatch (h : o.Ready p) (watch : BusWatch) : (o.setWatch watch).Ready p := by
  cases o <;> exact h

theorem Ready.bus_eq (h : o.Ready p) : o.bus g = g.busOf p := by rw [bus, h.pipeline_eq]; rfl

theorem Ready.attach_eq (h : o.Ready p) (context callback : Nat) :
    o.attachBusWatch fails (some context) (some callback) g =
      ((o.watch.attachBusWatch fails p context callback g).1,
        o.setWatch (o.watch.attachBusWatch fails p context callback g).2.1,
        (o.watch.attachBusWatch fails p context callback g).2.2) := by
  cases o with
  | profileHost x =>
    have heq : x.attachBusWatch fails (some context) (some callback) g =
        ((x.watch.attachBusWatch fails p context callback g).1,
          { x with watch := (x.watch.attachBusWatch fails p context callback g).2.1 },
          (x.watch.attachBusWatch fails p context callback g).2.2) := by
      simp only [ProfileHost.attachBusWatch, h.1, h.2]
    rw [attachBusWatch, heq]
    rfl
  | videoPipeline x =>
    have heq : x.attachBusWatch fails (some context) (some callback) g =
        ((x.watch.attachBusWatch fails p context callback g).1,
          { x with watch := (x.watch.attachBusWatch fails p context callback g).2.1 },
          (x.watch.attachBusWatch fails p context callback g).2.2) := by
      simp only [VideoPipeline.attachBusWatch, h.1, h.2]
    rw [attachBusWatch, heq]
    rfl

theorem attach_null {context callback : Option Nat} (h : context = none ∨ callback = none) :
    (o.attachBusWatch fails context callback g).1.ok = false ∧
      (o.attachBusWatch fails context callback g).2 = (o, g) := by
  cases o <;> cases context <;> cases callback <;> first
    | exact ⟨rfl, rfl⟩
    | (rcases h with h | h <;> cases h)

theorem detach_eq : o.detachBusWatch g = (o.setWatch (o.watch.detachBusWatch g).1, (o.watch.detachBusWatch g).2) := by
  cases o <;> rfl

/-- The handler of an object that was set up pops from its own bus. -/
theorem Ready.handler_eq (h : o.Ready p) {source : Nat} (hs : o.watch.busSource = some source) :
    o.onBusMessageStatic = o.watch.onBusMessageStatic p := by
  funext g
  cases o with
  | profileHost x =>
    have hs' : x.watch.busSource = some source := hs
    simp only [onBusMessageStatic, ProfileHost.onBusMessageStatic, hs', h.2, watch]
  | videoPipeline x => simp only [onBusMessageStatic, VideoPipeline.onBusMessageStatic, h.1, h.2, watch]

/-- What every call keeps. -/
structure Sound (p bus : Nat) (s : WatchOwner × Gst) : Prop where
  ready : s.1.Ready p
  intact : Intact p bus s.2

theorem Sound.step {s : BusRun} (h : Sound p bus (o, s.gst)) (e : BusEvent) : Intact p bus (o.step s e).gst := by
  cases e with
  | post m =>
    unfold WatchOwner.step
    rw [h.ready.bus_eq, h.intact.busOf]
    exact h.intact.post bus m
  | dispatch during =>
    unfold WatchOwner.step
    cases hs : o.watch.busSource with
    | none => exact h.intact
    | some source =>
      rw [h.ready.handler_eq hs]
      exact h.intact.dispatch (fun _ hg => hg.onBusMessageStatic) source during

theorem intact_setPipelineState (h : Intact p bus g) (fails : Bool) (state : GstState) (reason : String)
    (x : ProfileHost) : Intact p bus (x.setPipelineState fails state reason g).2 := by
  unfold ProfileHost.setPipelineState
  split
  · split
    · exact h.setState ..
    · exact h.fail
  · exact h

theorem intact_play (h : Intact p bus g) (getFails setFails : Bool) (o : WatchOwner) :
    Intact p bus (o.play getFails setFails g) := by
  cases o with
  | profileHost x => exact intact_setPipelineState h ..
  | videoPipeline v =>
    show Intact p bus (v.play getFails setFails g).2
    unfold VideoPipeline.play
    split
    · split
      · exact h.setState ..
      · exact h
    · exact h

theorem intact_pause (h : Intact p bus g) (getFails setFails : Bool) (o : WatchOwner) :
    Intact p bus (o.pause getFails setFails g) := by
  cases o with
  | profileHost x => exact intact_setPipelineState h ..
  | videoPipeline v =>
    show Intact p bus (v.pause getFails setFails g).2
    unfold VideoPipeline.pause
    split
    · split
      · exact h.setState ..
      · exact h
    · exact h

theorem Sound.call {s : WatchOwner × Gst} (h : Sound p bus s) (c : BusCall) : Sound p bus (call s c) := by
  obtain ⟨o, g⟩ := s
  cases c with
  | event e => exact ⟨h.ready, Sound.step (s := { gst := g }) h e⟩
  | attachBusWatch fails context callback =>
    show Sound p bus (o.attachBusWatch fails context callback g).2
    cases context with
    | none => rw [(attach_null (.inl rfl)).2]; exact h
    | some context =>
      cases callback with
      | none => rw [(attach_null (.inr rfl)).2]; exact h
      | some callback =>
        rw [h.ready.attach_eq]
        exact ⟨h.ready.setWatch _, h.intact.attachBusWatch⟩
  | detachBusWatch =>
    show Sound p bus (o.detachBusWatch g)
    rw [detach_eq]
    exact ⟨h.ready.setWatch _, h.intact.detachBusWatch⟩
  | play getFails setFails => exact ⟨h.ready, intact_play h.intact getFails setFails o⟩
  | pause getFails setFails => exact ⟨h.ready, intact_pause h.intact getFails setFails o⟩

theorem SetUp.sound (h : SetUp o g) : ∃ p bus, Sound p bus (o, g) := by
  cases h with
  | profileHost faults h g hok =>
    obtain ⟨ns, hr⟩ := ProfileHost.setupPipeline_ready hok
    obtain ⟨p, bus, hp, hbus, hlt, hq⟩ := hr.pipeline
    exact ⟨p, bus, ⟨hr.isLinked, hp⟩, hbus, hlt, by rw [hq]; exact List.nodup_nil, by rw [hq]; simp⟩
  | videoPipeline fails v g hok =>
    obtain ⟨hsetup, p, bus, hp, hbus, hlt, hq⟩ := VideoPipeline.setupPipeline_ok hok
    exact ⟨p, bus, ⟨hsetup, hp⟩, hbus, hlt, by rw [hq]; exact List.nodup_nil, by rw [hq]; simp⟩

end

/-! ### After the attach -/

/-- The accounts of a run: `pops` are the messages that left the bus, in order, with who took them,
the handler or the library. -/
structure Accounts (o : WatchOwner) (callback p source bus start : Nat) (s₀ : BusRun) (events : List BusEvent)
    (s : BusRun) (pops : List (Bool × Nat)) : Prop where
  run : run o.step s₀ events = s
  listens : o.watch.Listens callback p source bus s.gst
  intact : Intact p bus s.gst
  start_le : start ≤ s.gst.next
  posted : s.posted = List.range' start (s.gst.next - start)
  queue : pops.map (·.2) ++ s.gst.queue bus = s₀.gst.queue bus ++ s.posted
  exist : ∀ x ∈ pops, x.2 < s.gst.next
  reports : s.reports = pops.filterMap fun x => if x.1 then BusWatch.report callback s.gst x.2 else none
  heard : Along o.step (Heard start o) s₀ events ↔
    ∀ x ∈ pops, Reportable s.gst x.2 → (x.1 = true ↔ start ≤ x.2)

section
variable {o : WatchOwner} {callback p source bus start : Nat} {s₀ s : BusRun} {events : List BusEvent}
  {pops : List (Bool × Nat)}

/-- The accounts after a step that keeps what the messages say. -/
theorem Accounts.keep (h : Accounts o callback p source bus start s₀ events s pops) {g : Gst}
    (hcontent : ∀ x < s.gst.next, g.content x = s.gst.content x) :
    s.reports = pops.filterMap (fun x => if x.1 then BusWatch.report callback g x.2 else none) ∧
      ∀ x ∈ pops, (Reportable g x.2 ↔ Reportable s.gst x.2) := by
  refine ⟨?_, fun x hx => ?_⟩
  · rw [h.reports]
    refine List.filterMap_congr fun x hx => ?_
    rw [BusWatch.report_congr (hcontent x.2 (h.exist x hx))]
  · rw [Reportable, Reportable, hcontent x.2 (h.exist x hx)]

theorem range'_extend {start n : Nat} (h : start ≤ n) (k : Nat) :
    List.range' start (n - start) ++ List.range' n k = List.range' start (n + k - start) := by
  have := @List.range'_append_1 start (n - start) k
  rw [show start + (n - start) = n by omega] at this
  rw [this, show n - start + k = n + k - start by omega]

/-- A step posts the next `k` objects and lets `added` leave the bus. -/
theorem Accounts.step (h : Accounts o callback p source bus start s₀ events s pops) {e : BusEvent} {s' : BusRun}
    {k : Nat} {added : List (Bool × Nat)} (hstep : o.step s e = s') (hnext : s'.gst.next = s.gst.next + k)
    (hcontent : ∀ x < s.gst.next, s'.gst.content x = s.gst.content x)
    (hlistens : o.watch.Listens callback p source bus s'.gst) (hintact : Intact p bus s'.gst)
    (hposted : s'.posted = s.posted ++ List.range' s.gst.next k)
    (hqueue : added.map (·.2) ++ s'.gst.queue bus = s.gst.queue bus ++ List.range' s.gst.next k)
    (hexist : ∀ x ∈ added, x.2 < s'.gst.next)
    (hreports : s'.reports =
      s.reports ++ added.filterMap fun x => if x.1 then BusWatch.report callback s'.gst x.2 else none)
    (hheard : Heard start o s e ↔ ∀ x ∈ added, Reportable s'.gst x.2 → (x.1 = true ↔ start ≤ x.2)) :
    Accounts o callback p source bus start s₀ (events ++ [e]) (o.step s e) (pops ++ added) := by
  subst hstep
  obtain ⟨hold, hreportable⟩ := h.keep hcontent
  have hstart := h.start_le
  refine ⟨by rw [run_concat, h.run], hlistens, hintact, by omega, ?_, ?_, fun x hx => ?_, ?_, ?_⟩
  · rw [hposted, h.posted, hnext]
    exact range'_extend hstart k
  · rw [List.map_append, List.append_assoc, hqueue, ← List.append_assoc, h.queue, hposted, List.append_assoc]
  · rcases List.mem_append.mp hx with hx | hx
    · have := h.exist x hx
      omega
    · exact hexist x hx
  · rw [hreports, hold, List.filterMap_append]
  · rw [along_concat, h.heard, h.run, hheard, List.forall_mem_append]
    exact and_congr_left' (forall₂_congr fun x hmem => by rw [hreportable x hmem])

theorem Accounts.post (hr : o.Ready p) (h : Accounts o callback p source bus start s₀ events s pops) (m : GstMessage) :
    ∃ pops', Accounts o callback p source bus start s₀ (events ++ [.post m]) (o.step s (.post m)) pops' := by
  have hstep : o.step s (.post m) =
      { s with gst := s.gst.post bus m, posted := s.posted ++ [s.gst.next] } := by
    unfold WatchOwner.step
    rw [hr.bus_eq, h.intact.busOf]
  have hintact := h.intact.post bus m
  have hsource := (Gst.bind_obj_post (fun _ _ => by rfl) bus m (Gst.lt_of_bind h.listens.ofSource)).trans
    h.listens.ofSource
  have hqueue : (s.gst.post bus m).queue bus = s.gst.queue bus ++ [s.gst.next] := by
    rw [Gst.queue_post bus m h.intact.lt, if_pos rfl]
  refine ⟨pops ++ [], h.step (k := 1) hstep (Gst.next_post ..) (fun x hx => ?_)
    ⟨h.listens.appCallback, hintact.busOf, hsource⟩ hintact rfl hqueue ?_ (List.append_nil _).symm ?_⟩
  · exact Gst.bind_obj_post (fun _ _ => by rfl) bus m hx
  · exact List.forall_mem_nil _
  · exact iff_of_true trivial (List.forall_mem_nil _)

/-- What a dispatch has to meet when the bus is empty. -/
theorem heard_nil (hr : o.Ready p) (hbus : s.gst.busOf p = some bus) (hq : s.gst.queue bus = [])
    (during : List GstMessage) : Heard start o s (.dispatch during) := by
  intro b hb m rest hmr
  rw [hr.bus_eq, hbus] at hb
  rw [← Option.some.inj hb, hq] at hmr
  cases hmr

/-- What it has to meet when the oldest message is `m`. -/
theorem heard_cons (hr : o.Ready p) (hbus : s.gst.busOf p = some bus) {m : Nat} {rest : List Nat}
    (hq : s.gst.queue bus = m :: rest) (during : List GstMessage) :
    Heard start o s (.dispatch during) ↔
      (start ≤ m → ¬ Reportable (BusWatch.posted s.gst bus during) m) ∧
        ∀ m' ∈ (rest ++ List.range' s.gst.next during.length).head?,
          Reportable (BusWatch.posted s.gst bus during) m' → start ≤ m' := by
  constructor
  · intro hh
    exact hh bus (by rw [hr.bus_eq, hbus]) m rest hq
  · intro hh b hb m₁ rest₁ hmr
    rw [hr.bus_eq, hbus] at hb
    obtain rfl : bus = b := Option.some.inj hb
    rw [hq] at hmr
    obtain ⟨rfl, rfl⟩ := List.cons.inj hmr
    exact hh

/-- What leaves the bus at a dispatch: the oldest message `m`, and what the handler finds after it. -/
def popped (m : Nat) (after : List Nat) : List (Bool × Nat) := (false, m) :: (after.head?.map (true, ·)).toList

theorem popped_map_snd (m : Nat) (after : List Nat) : (popped m after).map (·.2) ++ after.tail = m :: after := by
  cases after <;> rfl

theorem lt_of_mem_popped {m n : Nat} {after : List Nat} (hm : m < n) (hafter : ∀ m' ∈ after.head?, m' < n) :
    ∀ x ∈ popped m after, x.2 < n := by
  intro x hx
  rcases List.mem_cons.mp hx with rfl | hx
  · exact hm
  · obtain ⟨m', hm', rfl⟩ := Option.map_eq_some_iff.mp (Option.mem_toList.mp hx)
    exact hafter m' hm'

/-- Only the handler reports. -/
theorem reports_popped (g : Gst) (m : Nat) (after : List Nat) :
    (popped m after).filterMap (fun x => if x.1 then BusWatch.report callback g x.2 else none) =
      (after.head?.bind (BusWatch.report callback g)).toList := by
  cases after with
  | nil => rfl
  | cons m' tail =>
    show [(false, m), (true, m')].filterMap (fun x => if x.1 then BusWatch.report callback g x.2 else none) =
      (BusWatch.report callback g m').toList
    cases hm' : BusWatch.report callback g m' <;> simp [hm']

/-- The library takes the first message, so that one must not be for the application, and the second one must. -/
theorem told_popped {g : Gst} {m : Nat} {after : List Nat} :
    (∀ x ∈ popped m after, Reportable g x.2 → (x.1 = true ↔ start ≤ x.2)) ↔
      (start ≤ m → ¬ Reportable g m) ∧ ∀ m' ∈ after.head?, Reportable g m' → start ≤ m' := by
  constructor
  · intro hx
    refine ⟨fun hle hrep => ?_, fun m' hm' hrep => ?_⟩
    · have := (hx (false, m) (List.mem_cons_self ..) hrep).mpr hle
      cases this
    · have hmem : (true, m') ∈ popped m after := by
        refine List.mem_cons_of_mem _ (Option.mem_toList.mpr ?_)
        rw [show after.head? = some m' from hm']
        rfl
      exact (hx (true, m') hmem hrep).mp rfl
  · rintro ⟨hm₁, hm₂⟩ x hmem hrep
    rcases List.mem_cons.mp hmem with rfl | hmem
    · exact ⟨fun hno => (by cases hno), fun hle => absurd hrep (hm₁ hle)⟩
    · obtain ⟨m', hm', rfl⟩ := Option.map_eq_some_iff.mp (Option.mem_toList.mp hmem)
      exact ⟨fun _ => hm₂ m' hm' hrep, fun _ => rfl⟩

theorem Accounts.dispatch (hr : o.Ready p) (hs : o.watch.busSource = some source)
    (h : Accounts o callback p source bus start s₀ events s pops) (during : List GstMessage) :
    ∃ pops', Accounts o callback p source bus start s₀ (events ++ [.dispatch during])
      (o.step s (.dispatch during)) pops' := by
  generalize hres : s.gst.dispatch source (o.watch.onBusMessageStatic p) during = res
  have hstep : o.step s (.dispatch during) =
      { gst := res.2, reports := s.reports ++ res.1,
        posted := s.posted ++ List.range' s.gst.next during.length } := by
    unfold WatchOwner.step
    simp only [hs]
    rw [hr.handler_eq hs, hres]
  obtain ⟨hnext, hobj⟩ := h.listens.dispatch_keeps during
  rw [hres] at hnext hobj
  have hintact : Intact p bus res.2 := by
    rw [← hres]
    exact h.intact.dispatch (fun _ hg => hg.onBusMessageStatic) source during
  have hsource := (hobj _ (fun _ _ => by rfl) _ (Gst.lt_of_bind h.listens.ofSource)).trans h.listens.ofSource
  have hlistens : o.watch.Listens callback p source bus res.2 := ⟨h.listens.appCallback, hintact.busOf, hsource⟩
  cases hq : s.gst.queue bus with
  | nil =>
    obtain ⟨hrep, hqueue⟩ := h.listens.dispatch_nil during h.intact.lt hq
    rw [hres] at hrep hqueue
    refine ⟨pops ++ [], h.step hstep hnext (fun x hx => hobj _ (fun _ _ => by rfl) x hx) hlistens hintact rfl ?_ ?_ ?_ ?_⟩
    · rw [hq, hqueue]; rfl
    · exact List.forall_mem_nil _
    · rw [hrep]; rfl
    · exact iff_of_true (heard_nil hr h.intact.busOf hq during) (List.forall_mem_nil _)
  | cons m rest =>
    obtain ⟨hrep, hqueue, hcontent⟩ := h.listens.dispatch_cons during h.intact.lt hq
    rw [hres] at hrep hqueue hcontent
    have hm := h.intact.exist m (by rw [hq]; exact List.mem_cons_self ..)
    have hlt : ∀ m' ∈ (rest ++ List.range' s.gst.next during.length).head?, m' < res.2.next := by
      intro m' hm'
      rw [hnext]
      rcases List.mem_append.mp (List.mem_of_mem_head? hm') with hm' | hm'
      · have := h.intact.exist m' (by rw [hq]; exact List.mem_cons_of_mem _ hm')
        omega
      · exact (List.mem_range'_1.mp hm').2
    have hheard : Heard start o s (.dispatch during) ↔ (start ≤ m → ¬ Reportable res.2 m) ∧
        ∀ m' ∈ (rest ++ List.range' s.gst.next during.length).head?, Reportable res.2 m' → start ≤ m' := by
      have hsame : ∀ x, Reportable res.2 x ↔ Reportable (BusWatch.posted s.gst bus during) x := fun x => by
        rw [Reportable, Reportable, hcontent]
      simp only [hsame]
      exact heard_cons hr h.intact.busOf hq during
    generalize hafter : rest ++ List.range' s.gst.next during.length = after at hrep hqueue hlt hheard
    refine ⟨pops ++ popped m after,
      h.step hstep hnext (fun x hx => hobj _ (fun _ _ => by rfl) x hx) hlistens hintact rfl ?_ ?_ ?_ ?_⟩
    · rw [hqueue, popped_map_snd, hq, ← hafter, List.cons_append]
    · exact lt_of_mem_popped (n := res.2.next) (by omega) hlt
    · rw [hrep, reports_popped]
    · rw [hheard, ← told_popped]

theorem Accounts.init (hlisten : o.watch.Listens callback p source bus s₀.gst) (hintact : Intact p bus s₀.gst)
    (hreports : s₀.reports = []) (hposted : s₀.posted = []) :
    Accounts o callback p source bus s₀.gst.next s₀ [] s₀ [] := by
  refine ⟨rfl, hlisten, hintact, Nat.le_refl _, ?_, ?_, by simp, ?_, ?_⟩
  · rw [hposted, Nat.sub_self]; rfl
  · rw [hposted, List.append_nil]; rfl
  · rw [hreports]; rfl
  · simp [Along]

theorem accounts_run (hr : o.Ready p) (hs : o.watch.busSource = some source)
    (hlisten : o.watch.Listens callback p source bus s₀.gst) (hintact : Intact p bus s₀.gst)
    (hreports : s₀.reports = []) (hposted : s₀.posted = []) (events : List BusEvent) :
    ∃ pops, Accounts o callback p source bus s₀.gst.next s₀ events (run o.step s₀ events) pops := by
  refine run_induction (P := fun events s => ∃ pops, Accounts o callback p source bus s₀.gst.next s₀ events s pops)
    ⟨[], .init hlisten hintact hreports hposted⟩ (fun events s e => ?_) events
  rintro ⟨pops, h⟩
  cases e with
  | post m => exact h.post hr m
  | dispatch during => exact h.dispatch hr hs during

theorem mem_filterMap_report (callback : Nat) {g : Gst} {m : Nat} (l : List Nat) (hm : Reportable g m) :
    (∃ r ∈ l.filterMap (BusWatch.report callback g), r.message = m) ↔ m ∈ l := by
  constructor
  · rintro ⟨r, hr, rfl⟩
    obtain ⟨m', hm', hrep⟩ := List.mem_filterMap.mp hr
    obtain ⟨e, -, rfl⟩ := Option.map_eq_some_iff.mp hrep
    exact hm'
  · intro hl
    obtain ⟨e, he⟩ := Option.isSome_iff_exists.mp hm
    refine ⟨⟨callback, m, e.1, e.2⟩, List.mem_filterMap.mpr ⟨m, hl, ?_⟩, rfl⟩
    unfold BusWatch.report
    rw [he]
    rfl

/-- With the bus empty, all messages left it. -/
theorem Accounts.drained (h : Accounts o callback p source bus start s₀ events s pops) (hdrained : s.gst.queue bus = []) :
    pops.map (·.2) = s₀.gst.queue bus ++ s.posted := by
  have := h.queue
  rwa [hdrained, List.append_nil] at this

theorem Accounts.le_of_posted (h : Accounts o callback p source bus start s₀ events s pops) {m : Nat}
    (hm : m ∈ s.posted) : start ≤ m := by
  rw [h.posted] at hm
  exact (List.mem_range'_1.mp hm).1

/-- What is expected of a drained bus: of the messages that left it, those posted since the attach. -/
theorem Accounts.expected_eq (h : Accounts o callback p source bus start s₀ events s pops)
    (hlt : ∀ m ∈ s₀.gst.queue bus, m < start) (hdrained : s.gst.queue bus = []) :
    expected callback s =
      pops.filterMap fun x => if start ≤ x.2 then BusWatch.report callback s.gst x.2 else none := by
  have hfun : (fun x : Bool × Nat => if start ≤ x.2 then BusWatch.report callback s.gst x.2 else none) =
      (fun m => if start ≤ m then BusWatch.report callback s.gst m else none) ∘ (·.2) := rfl
  have hold : (s₀.gst.queue bus).filterMap
      (fun m => if start ≤ m then BusWatch.report callback s.gst m else none) = [] :=
    List.filterMap_eq_nil_iff.mpr fun m hm => if_neg (Nat.not_le.mpr (hlt m hm))
  rw [hfun, ← List.filterMap_map, h.drained hdrained, List.filterMap_append, hold, List.nil_append]
  exact List.filterMap_congr fun m hm => (if_pos (h.le_of_posted hm)).symm

/-- With the bus drained, the reports are the expected ones exactly when each message to be reported
was taken by the right side. -/
theorem Accounts.delivered_iff (h : Accounts o callback p source bus start s₀ events s pops)
    (hnodup : (s₀.gst.queue bus).Nodup) (hlt : ∀ m ∈ s₀.gst.queue bus, m < start)
    (hdrained : s.gst.queue bus = []) :
    s.reports = expected callback s ↔ Along o.step (Heard start o) s₀ events := by
  have hpops := h.drained hdrained
  have hdistinct : (pops.map (·.2)).Nodup := by
    rw [hpops]
    refine List.nodup_append.mpr ⟨hnodup, by rw [h.posted]; exact List.nodup_range', fun a ha b hb => ?_⟩
    exact Nat.ne_of_lt (Nat.lt_of_lt_of_le (hlt a ha) (h.le_of_posted hb))
  rw [h.heard]
  constructor
  · intro heq x hx hrep
    have hreports : s.reports = ((pops.filter (·.1)).map (·.2)).filterMap (BusWatch.report callback s.gst) := by
      rw [h.reports, List.filterMap_map, List.filterMap_filter]
      rfl
    -- what was reported is what the handler took
    have hiff : x.2 ∈ (pops.filter (·.1)).map (·.2) ↔ x.2 ∈ s.posted := by
      rw [← mem_filterMap_report callback _ hrep, ← mem_filterMap_report callback s.posted hrep, ← hreports, heq]
      rfl
    constructor
    · intro hb
      exact h.le_of_posted (hiff.mp (List.mem_map.mpr ⟨x, List.mem_filter.mpr ⟨hx, hb⟩, rfl⟩))
    · intro hle
      have hposted : x.2 ∈ s.posted := by
        have hin : x.2 ∈ pops.map (·.2) := List.mem_map.mpr ⟨x, hx, rfl⟩
        rw [hpops] at hin
        rcases List.mem_append.mp hin with hin | hin
        · exact absurd (hlt _ hin) (Nat.not_lt.mpr hle)
        · exact hin
      obtain ⟨y, hy, hyx⟩ := List.mem_map.mp (hiff.mpr hposted)
      obtain ⟨hy, hb⟩ := List.mem_filter.mp hy
      rw [← List.inj_on_of_nodup_map hdistinct hy hx hyx]
      exact hb
  · intro hx
    rw [h.reports, h.expected_eq hlt hdrained]
    refine List.filterMap_congr fun x hmem => ?_
    by_cases hrep : Reportable s.gst x.2
    · have := hx x hmem hrep
      by_cases hb : x.1 = true
      · rw [if_pos hb, if_pos (this.mp hb)]
      · rw [if_neg hb, if_neg (fun hle => hb (this.mpr hle))]
    · have hnone : BusWatch.report callback s.gst x.2 = none := by
        unfold BusWatch.report
        rw [Option.not_isSome_iff_eq_none.mp hrep]
        rfl
      rw [hnone, ite_self, ite_self]

/-- What the callback is told of a drained bus is what was posted since the attach exactly when each
dispatch of the run finds its two messages in the right places. -/
theorem busWatch_delivers_iff {g : Gst} (h : SetUp o g) (past : List BusCall) (fails : WatchCall → Bool)
    (context callback : Nat) (events : List BusEvent) :
    let before := run call (o, g) past
    let attached := before.1.attachBusWatch fails (some context) (some callback) before.2
    let o' := attached.2.1
    let s := run o'.step { gst := attached.2.2 } events
    attached.1.ok = true → o'.waiting s = [] →
      (s.reports = expected callback s ↔
        Along o'.step (Heard attached.2.2.next o') { gst := attached.2.2 } events) := by
  intro before attached o' s hok hdrained
  obtain ⟨p, bus, h₀⟩ := h.sound
  have hbefore : Sound p bus before := run_invariant h₀ (fun _ c hs => hs.call c) past
  have heq : attached = (_, _, _) := hbefore.ready.attach_eq context callback
  have hok' : (before.1.watch.attachBusWatch fails p context callback before.2).1.ok = true := by
    rw [← hok, heq]
  obtain ⟨source, hs, hlisten⟩ := hbefore.intact.attach_listens hok'
  have hready : o'.Ready p := by
    show attached.2.1.Ready p
    rw [heq]
    exact hbefore.ready.setWatch _
  have hwatch : o'.watch = (before.1.watch.attachBusWatch fails p context callback before.2).2.1 := by
    show attached.2.1.watch = _
    rw [heq]
    cases before.1 <;> rfl
  have hgst : attached.2.2 = (before.1.watch.attachBusWatch fails p context callback before.2).2.2 := by rw [heq]
  have hintact : Intact p bus attached.2.2 := by rw [hgst]; exact hbefore.intact.attachBusWatch
  obtain ⟨pops, hacc⟩ := @accounts_run o' callback p source bus { gst := attached.2.2 } hready
    (by rw [hwatch]; exact hs)
    (by rw [hwatch, hgst]; exact hlisten) hintact rfl rfl events
  refine hacc.delivered_iff hintact.nodup hintact.exist ?_
  have : o'.waiting s = s.gst.queue bus := by
    unfold waiting
    rw [hready.bus_eq, hacc.intact.busOf]
    rfl
  rw [← this]
  exact hdrained

end

/-- An error that comes second is delivered. -/
theorem busWatch_delivers_second :
    let h := (ProfileHost.setupPipeline ⟨fun _ => false, fun _ _ => false⟩
      ((ProfileHost.new []).setVideoSource (some .TestVideoSource)).2 .init).2
    let attached := (profileHost h.1).attachBusWatch (fun _ => false) (some 0) (some 0) h.2
    let events : List BusEvent := [.post { type := .other }, .dispatch [{ type := .error }]]
    let s := run attached.2.1.step { gst := attached.2.2 } events
    s.reports = expected 0 s ↔
      Along attached.2.1.step (Heard attached.2.2.next attached.2.1) { gst := attached.2.2 } events :=
  busWatch_delivers_iff (.profileHost _ _ _ (by decide +kernel)) [] _ 0 0 _ (by decide +kernel) (by decide +kernel)

/-- The first dispatch takes the only message, an error, from under the handler, in both classes. -/
theorem busWatch_loses_error :
    let error : GstMessage := { type := .error }
    let h := (ProfileHost.setupPipeline ⟨fun _ => false, fun _ _ => false⟩
      ((ProfileHost.new []).setVideoSource (some .TestVideoSource)).2 .init).2
    let v := (VideoPipeline.setupPipeline (fun _ => false)
      (({} : VideoPipeline).setVideoSource (some .TestVideoSource)).2 .init).2
    ∀ s ∈ [(profileHost h.1, h.2), (videoPipeline v.1, v.2)],
      let attached := s.1.attachBusWatch (fun _ => false) (some 0) (some 0) s.2
      let s' := run attached.2.1.step { gst := attached.2.2 } [.post error, .dispatch []]
      attached.1.ok = true ∧ attached.2.1.waiting s' = [] ∧ s'.reports = [] ∧ (expected 0 s').length = 1 := by
  decide +kernel

end WatchOwner

end CameraPlatform
