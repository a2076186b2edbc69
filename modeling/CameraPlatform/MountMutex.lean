import CameraPlatform.Base.Mutex
import CameraPlatform.BridgeWiring

/-!
# The handlers of a mount, step by step

`RtspProfileServer` models a handler as one step, because the handler has the mutex of its mount. Here the
handlers of one mount that is not freed meanwhile run statement by statement on any number of threads: those of
the appsinks push samples while the main loop configures and unprepares media. What GStreamer returns is up to
the schedule.
-/

namespace CameraPlatform
open ByteString History Mutex

/-- A call of a handler for the mount. -/
inductive MountCall where
  | configure (media : Nat)
  | prepared
  | unprepared
  | newSample (sink : Nat)
deriving DecidableEq

/-- What the calls into GStreamer return: `gst_app_sink_pull_sample`, `gst_buffer_copy`,
`gst_rtsp_media_get_element` and `gst_bin_get_by_name`. -/
structure MountReply where
  pulled : Option (Nat × GstSample) := none
  copy : Nat := 0
  element : Nat := 0
  found : Option Nat := none

inductive MountAct where
  | sample (a : Action)
  | clearTimes (buffer : Nat)
  | getElement (media bin : Nat)
  | getByName (bin : Nat) (found : Option Nat)
  | binUnref (bin : Nat)
  | connect (media : Nat) (signal : Signal)
  | appSrcUnref (appSrc : Nat)
  | print (text : Bytes)
  /-- An appsrc function is called with a null pointer. -/
  | nullAppSrc
deriving DecidableEq

/-- The next statement of a handler. -/
inductive MountPoint where
  | pull (sink : Nat)
  | copy (sample : Nat) (caps : Bytes)
  | clearTimes (sample : Nat) (caps : Bytes) (buffer : Nat)
  | check (sample : Nat) (caps : Bytes) (buffer : Nat)
  | setCaps (sample : Nat) (caps : Bytes) (buffer : Nat)
  | push (sample buffer : Nat)
  | drop (sample buffer : Nat)
  | sampleUnref (sample : Nat)
  | getElement (media : Nat)
  | getByName (media bin : Nat)
  | binUnref (media bin : Nat)
  | connectPrepared (media : Nat)
  | connectUnprepared (media : Nat)
  | started
  | clear
  | appSrcUnref (appSrc : Nat)
  | stopped

namespace Mount

def enter : MountCall → MountPoint
  | .configure media => .getElement media
  | .prepared => .started
  | .unprepared => .clear
  | .newSample sink => .pull sink

/-- One statement. The slot is read anew by each statement that names it. -/
def statement (m : Mount) (point : MountPoint) (reply : MountReply) : Mount × Option MountPoint × List MountAct :=
  match point with
  | .pull sink =>
    match reply.pulled with
    | none => (m, none, [.sample (.pullSample sink none)])
    | some (s, sample) => (m, some (.copy s sample.caps), [.sample (.pullSample sink (some s))])
  | .copy s caps => (m, some (.clearTimes s caps reply.copy), [.sample (.bufferCopy s reply.copy)])
  | .clearTimes s caps b => (m, some (.check s caps b), [.clearTimes b])
  | .check s caps b => (m, some (if m.appSrc.isSome then .setCaps s caps b else .drop s b), [])
  | .setCaps s caps b =>
    match m.appSrc with
    | some r => (m, some (.push s b), [.sample (.setCaps r caps)])
    | none => (m, some (.push s b), [.nullAppSrc])
  | .push s b =>
    match m.appSrc with
    | some r => (m, some (.sampleUnref s), [.sample (.pushBuffer r b)])
    | none => (m, some (.sampleUnref s), [.nullAppSrc])
  | .drop s b => (m, some (.sampleUnref s), [.sample (.bufferUnref b)])
  | .sampleUnref s => (m, none, [.sample (.sampleUnref s)])
  | .getElement media => (m, some (.getByName media reply.element), [.getElement media reply.element])
  | .getByName media bin =>
    ({ m with appSrc := reply.found }, some (.binUnref media bin), [.getByName bin reply.found])
  | .binUnref media bin => (m, some (.connectPrepared media), [.binUnref bin])
  | .connectPrepared media => (m, some (.connectUnprepared media), [.connect media .prepared])
  | .connectUnprepared media => (m, none, [.connect media .unprepared])
  | .started => (m, none, [.print m.startedText])
  -- `g_clear_object` empties the slot before it gives up the reference
  | .clear =>
    match m.appSrc with
    | some r => ({ m with appSrc := none }, some (.appSrcUnref r), [])
    | none => (m, some .stopped, [])
  | .appSrcUnref r => (m, some .stopped, [.appSrcUnref r])
  | .stopped => (m, none, [.print m.stoppedText])

def handlers : Body Mount MountCall MountPoint MountReply MountAct := ⟨enter, statement⟩

/-! ### Whole handlers -/

/-- What `onNewSample` does with a sample while the slot stays as it is. -/
def sampleActs (sink s : Nat) (caps : Bytes) (b : Nat) : Option Nat → List MountAct
  | some r => [.sample (.pullSample sink (some s)), .sample (.bufferCopy s b), .clearTimes b, .sample (.setCaps r caps),
      .sample (.pushBuffer r b), .sample (.sampleUnref s)]
  | none => [.sample (.pullSample sink (some s)), .sample (.bufferCopy s b), .clearTimes b, .sample (.bufferUnref b),
      .sample (.sampleUnref s)]

/-- A handler as one step. -/
inductive Handled (m : Mount) : MountCall → List MountAct → Mount → Prop
  | configure (media bin : Nat) (found : Option Nat) :
    Handled m (.configure media) [.getElement media bin, .getByName bin found, .binUnref bin, .connect media .prepared,
      .connect media .unprepared] { m with appSrc := found }
  | prepared : Handled m .prepared [.print m.startedText] m
  | unprepared : Handled m .unprepared (m.appSrc.toList.map .appSrcUnref ++ [.print m.stoppedText]) { m with appSrc := none }
  | unpulled (sink : Nat) : Handled m (.newSample sink) [.sample (.pullSample sink none)] m
  | sampled (sink s : Nat) (caps : Bytes) (b : Nat) : Handled m (.newSample sink) (sampleActs sink s caps b m.appSrc) m

/-- What a handler has done when it comes to a statement; `m` is the mount that it found. -/
inductive Handling (m : Mount) : MountCall → MountPoint → Mount → List MountAct → Prop
  | pull (sink : Nat) : Handling m (.newSample sink) (.pull sink) m []
  | copy (sink s : Nat) (caps : Bytes) :
    Handling m (.newSample sink) (.copy s caps) m [.sample (.pullSample sink (some s))]
  | clearTimes (sink s : Nat) (caps : Bytes) (b : Nat) :
    Handling m (.newSample sink) (.clearTimes s caps b) m
      [.sample (.pullSample sink (some s)), .sample (.bufferCopy s b)]
  | check (sink s : Nat) (caps : Bytes) (b : Nat) :
    Handling m (.newSample sink) (.check s caps b) m
      [.sample (.pullSample sink (some s)), .sample (.bufferCopy s b), .clearTimes b]
  | setCaps (sink s : Nat) (caps : Bytes) (b : Nat) (h : m.appSrc.isSome) :
    Handling m (.newSample sink) (.setCaps s caps b) m
      [.sample (.pullSample sink (some s)), .sample (.bufferCopy s b), .clearTimes b]
  | push (sink s : Nat) (caps : Bytes) (b : Nat) {r : Nat} (h : m.appSrc = some r) :
    Handling m (.newSample sink) (.push s b) m
      [.sample (.pullSample sink (some s)), .sample (.bufferCopy s b), .clearTimes b, .sample (.setCaps r caps)]
  | drop (sink s b : Nat) (h : m.appSrc = none) :
    Handling m (.newSample sink) (.drop s b) m
      [.sample (.pullSample sink (some s)), .sample (.bufferCopy s b), .clearTimes b]
  | sampleUnref (sink s : Nat) (caps : Bytes) (b : Nat) {acts : List MountAct}
    (h : acts ++ [.sample (.sampleUnref s)] = sampleActs sink s caps b m.appSrc) :
    Handling m (.newSample sink) (.sampleUnref s) m acts
  | getElement (media : Nat) : Handling m (.configure media) (.getElement media) m []
  | getByName (media bin : Nat) : Handling m (.configure media) (.getByName media bin) m [.getElement media bin]
  | binUnref (media bin : Nat) (found : Option Nat) :
    Handling m (.configure media) (.binUnref media bin) { m with appSrc := found }
      [.getElement media bin, .getByName bin found]
  | connectPrepared (media bin : Nat) (found : Option Nat) :
    Handling m (.configure media) (.connectPrepared media) { m with appSrc := found }
      [.getElement media bin, .getByName bin found, .binUnref bin]
  | connectUnprepared (media bin : Nat) (found : Option Nat) :
    Handling m (.configure media) (.connectUnprepared media) { m with appSrc := found }
      [.getElement media bin, .getByName bin found, .binUnref bin, .connect media .prepared]
  | started : Handling m .prepared .started m []
  | clear : Handling m .unprepared .clear m []
  | appSrcUnref {r : Nat} (h : m.appSrc = some r) : Handling m .unprepared (.appSrcUnref r) { m with appSrc := none } []
  | stopped : Handling m .unprepared .stopped { m with appSrc := none } (m.appSrc.toList.map .appSrcUnref)

theorem handlers_refine : Refines handlers Handled Handling := by
  refine ⟨?_, ?_, ?_⟩
  · intro m c
    cases c with
    | configure media => exact .getElement media
    | prepared => exact .started
    | unprepared => exact .clear
    | newSample sink => exact .pull sink
  · intro m c point m' acts point' reply h hnext
    cases h with
    | pull sink =>
      cases hpulled : reply.pulled with
      | none => simp [handlers, statement, hpulled] at hnext
      | some pulled =>
        obtain ⟨s, sample⟩ := pulled
        simp only [handlers, statement, hpulled, Option.some.injEq] at hnext ⊢
        subst hnext
        exact .copy sink s sample.caps
    | copy sink s caps =>
      cases hnext
      exact .clearTimes sink s caps reply.copy
    | clearTimes sink s caps b =>
      cases hnext
      exact .check sink s caps b
    | check sink s caps b =>
      simp only [handlers, statement, Option.some.injEq] at hnext ⊢
      subst hnext
      split
      · next h => exact .setCaps sink s caps b h
      · next h => exact .drop sink s b (by simpa using h)
    | setCaps sink s caps b h =>
      obtain ⟨r, hr⟩ := Option.isSome_iff_exists.mp h
      simp only [handlers, statement, hr, Option.some.injEq] at hnext ⊢
      subst hnext
      exact .push sink s caps b hr
    | push sink s caps b hr =>
      simp only [handlers, statement, hr, Option.some.injEq] at hnext ⊢
      subst hnext
      exact .sampleUnref sink s caps b (by rw [hr]; rfl)
    | drop sink s b h =>
      cases hnext
      exact .sampleUnref sink s [] b (by rw [h]; rfl)
    | sampleUnref => cases hnext
    | getElement media =>
      cases hnext
      exact .getByName media reply.element
    | getByName media bin =>
      cases hnext
      exact .binUnref media bin reply.found
    | binUnref media bin found =>
      cases hnext
      exact .connectPrepared media bin found
    | connectPrepared media bin found =>
      cases hnext
      exact .connectUnprepared media bin found
    | connectUnprepared => cases hnext
    | started => cases hnext
    | clear =>
      cases hr : m.appSrc with
      | none =>
        simp only [handlers, statement, hr, Option.some.injEq] at hnext ⊢
        subst hnext
        have hstopped := @Handling.stopped m
        rwa [hr, show ({ m with appSrc := none } : Mount) = m by rw [← hr]] at hstopped
      | some r =>
        simp only [handlers, statement, hr, Option.some.injEq] at hnext ⊢
        subst hnext
        exact .appSrcUnref hr
    | appSrcUnref hr =>
      cases hnext
      have hstopped := @Handling.stopped m
      rwa [hr] at hstopped
    | stopped => cases hnext
  · intro m c point m' acts reply h hleave
    cases h with
    | pull sink =>
      cases hpulled : reply.pulled with
      | none =>
        simp only [handlers, statement, hpulled]
        exact .unpulled sink
      | some pulled => simp [handlers, statement, hpulled] at hleave
    | setCaps sink s caps b h =>
      obtain ⟨r, hr⟩ := Option.isSome_iff_exists.mp h
      simp [handlers, statement, hr] at hleave
    | push sink s caps b hr => simp [handlers, statement, hr] at hleave
    | sampleUnref sink s caps b h =>
      show Handled m (.newSample sink) (acts ++ [.sample (.sampleUnref s)]) m
      rw [h]
      exact .sampled sink s caps b
    | connectUnprepared media bin found => exact .configure media bin found
    | started => exact .prepared
    | clear =>
      cases hr : m.appSrc with
      | none => simp [handlers, statement, hr] at hleave
      | some r => simp [handlers, statement, hr] at hleave
    | stopped => exact .unprepared
    | _ => cases hleave

/-- The handlers of any threads, in any interleaving of their statements, do what they would do one after the other
in the order in which they got the mutex; each thread gets it in the order of its calls. -/
theorem handlers_atomic (m : Mount) (calls : Nat → List MountCall) (turns : List (Nat × MountReply)) :
    let w := run handlers.move { guarded := m, calls } turns
    (w.holder = none → Serial Handled m w.order w.guarded w.log) ∧
      ∀ t, (w.order.filter fun x => x.1 = t).map (·.2) ++ w.calls t = calls t := by
  intro w
  refine ⟨fun hfree => ?_, fun t => order_calls handlers _ turns t rfl⟩
  have hholds := handlers_refine.run m calls turns
  rwa [World.Holds, hfree] at hholds

/-- A sample is pulled by one thread while another one waits to clear the slot. -/
theorem handlers_atomic_viewer :
    let m : Mount := { name := ascii "hd", appSrc := some 20 }
    let calls : Nat → List MountCall := fun t => if t = 0 then [.newSample 8] else if t = 1 then [.unprepared] else []
    let turns : List (Nat × MountReply) := [(0, {}),
      (0, { pulled := some (30, ⟨ascii "video/x-h264", ⟨none, none, none, [0]⟩⟩) }),
      (1, {}), (0, { copy := 31 }), (0, {}), (0, {}), (1, {}), (0, {}), (0, {}), (0, {}), (1, {}), (1, {}), (1, {}), (1, {})]
    let w := run handlers.move { guarded := m, calls } turns
    Serial Handled m w.order w.guarded w.log := by
  intro m calls turns w
  exact (handlers_atomic m calls turns).1 (by decide +kernel)

/-! ### The handlers of `RtspProfileServer` -/

/-- What is logged of samples. -/
def sampleAct? : MountAct → Option Action
  | .sample a => some a
  | _ => none

/-- The one step of `onNewSample` is a whole handler. -/
theorem pullInto_handled (g : Gst) (sink : Nat) (pulled : Option GstSample) (m : Mount) : ∃ acts,
    Handled m (.newSample sink) acts (Bridge.pullInto g sink pulled m).1 ∧
      acts.filterMap sampleAct? = (Bridge.pullInto g sink pulled m).2.2 := by
  obtain ⟨hmount, -, hlog⟩ := Bridge.pullInto_spec g sink pulled m
  rw [hmount, hlog]
  cases pulled with
  | none => exact ⟨_, .unpulled sink, rfl⟩
  | some sample =>
    refine ⟨_, .sampled sink g.next sample.caps (g.next + 1), ?_⟩
    cases m.appSrc <;> rfl

theorem configureMount_handled (g : Gst) (media a : Nat) (m : Mount) {bin : Nat}
    (hbin : (g.obj media).bind (·.element) = some bin) : ∃ acts,
    Handled m (.configure media) acts (Bridge.configureMount g media a m).1 := by
  unfold Bridge.configureMount
  rw [hbin]
  exact ⟨_, .configure media bin _⟩

/-! ### References to appsrcs -/

def takes (r : Nat) : MountAct → Bool
  | .getByName _ found => found = some r
  | _ => false

/-- The references that were taken on an appsrc, and those that were given up. -/
def taken (r : Nat) (log : List MountAct) : Nat := log.countP (takes r)

def given (r : Nat) (log : List MountAct) : Nat := log.count (.appSrcUnref r)

/-- What must not be done with an appsrc that is gone. -/
def uses (r : Nat) : MountAct → Prop
  | .sample (.setCaps r' _) => r' = r
  | .sample (.pushBuffer r' _) => r' = r
  | .appSrcUnref r' => r' = r
  | _ => False

/-- The mount has a reference on `r`. -/
def Owned (r : Nat) (log : List MountAct) : Prop := given r log < taken r log

/-- Whatever is done with an appsrc, there is one, and the mount has a reference on it. -/
structure AppSrcSafe (log : List MountAct) : Prop where
  no_null : .nullAppSrc ∉ log
  owned : ∀ before a after, log = before ++ a :: after → ∀ r, uses r a → Owned r before
  balance : ∀ r, given r log ≤ taken r log

section
variable {m : Mount} {log : List MountAct} {a : MountAct} {r : Nat}

theorem taken_concat : taken r (log ++ [a]) = taken r log + if takes r a then 1 else 0 := by
  rw [taken, List.countP_append, List.countP_singleton]
  rfl

theorem given_concat : given r (log ++ [a]) = given r log + if a = .appSrcUnref r then 1 else 0 := by
  rw [given, List.count_append, List.count_singleton]
  simp [given]

theorem Owned.concat (h : Owned r log) (ha : a ≠ .appSrcUnref r) : Owned r (log ++ [a]) := by
  unfold Owned at *
  rw [taken_concat, given_concat, if_neg ha]
  omega

theorem AppSrcSafe.concat (h : AppSrcSafe log) (hnull : a ≠ .nullAppSrc) (huses : ∀ r, uses r a → Owned r log) :
    AppSrcSafe (log ++ [a]) := by
  refine ⟨?_, fun before x after hsplit r hr => ?_, fun r => ?_⟩
  · simp [h.no_null, hnull.symm]
  · rcases List.eq_nil_or_concat after with rfl | ⟨after', y, rfl⟩
    · obtain ⟨rfl, hx⟩ := List.append_inj' hsplit rfl
      obtain rfl : a = x := by simpa using hx
      exact huses r hr
    · rw [List.concat_eq_append, ← List.cons_append, ← List.append_assoc] at hsplit
      exact h.owned before x after' (List.append_inj' hsplit rfl).1 r hr
  · have hbalance := h.balance r
    rw [taken_concat, given_concat]
    by_cases ha : a = .appSrcUnref r
    · have howned := huses r (by rw [ha]; rfl)
      unfold Owned at howned
      rw [if_pos ha]
      omega
    · rw [if_neg ha]
      omega

/-- The mount has a reference on the appsrc in its slot. -/
structure Owning (m : Mount) (log : List MountAct) : Prop where
  safe : AppSrcSafe log
  slot : ∀ r, m.appSrc = some r → Owned r log

/-- What a statement relies on. -/
def Ready (m : Mount) (log : List MountAct) : MountPoint → Prop
  | .setCaps .. => m.appSrc.isSome
  | .push .. => m.appSrc.isSome
  | .appSrcUnref r => m.appSrc = none ∧ Owned r log
  | _ => True

/-- An action that takes no appsrc and gives none up. -/
theorem Owning.concat (h : Owning m log) (hnull : a ≠ .nullAppSrc) (huses : ∀ r, uses r a → m.appSrc = some r)
    (hunref : ∀ r, a ≠ .appSrcUnref r) : Owning m (log ++ [a]) :=
  ⟨h.safe.concat hnull fun r hr => h.slot r (huses r hr), fun r hr => (h.slot r hr).concat (hunref r)⟩

/-- The slot is filled with an appsrc that a reference was taken on, or left empty. -/
theorem Owning.getByName (h : Owning m log) (bin : Nat) (found : Option Nat) :
    Owning { m with appSrc := found } (log ++ [.getByName bin found]) := by
  refine ⟨h.safe.concat (by simp) fun r hr => hr.elim, fun r hr => ?_⟩
  have hbalance := h.safe.balance r
  unfold Owned
  rw [taken_concat, given_concat, if_neg (by simp), if_pos (by simpa [takes] using hr)]
  omega

/-- The emptied slot's reference is given up. -/
theorem Owning.appSrcUnref (h : Owning m log) (hslot : m.appSrc = none) (hr : Owned r log) :
    Owning m (log ++ [.appSrcUnref r]) := by
  refine ⟨h.safe.concat (by simp) ?_, fun r' hr' => ?_⟩
  · rintro r' rfl
    exact hr
  · rw [hslot] at hr'
    cases hr'

/-- What a statement leaves. -/
theorem statement_owning (h : Owning m log) {point : MountPoint} (hready : Ready m log point) (reply : MountReply) :
    Owning (statement m point reply).1 (log ++ (statement m point reply).2.2) ∧
      ∀ point' ∈ (statement m point reply).2.1,
        Ready (statement m point reply).1 (log ++ (statement m point reply).2.2) point' := by
  cases point with
  | pull sink =>
    cases hpulled : reply.pulled with
    | none =>
      simp only [statement, hpulled]
      exact ⟨h.concat (by simp) (fun r hr => hr.elim) (by simp), nofun⟩
    | some pulled =>
      simp only [statement, hpulled]
      refine ⟨h.concat (by simp) (fun r hr => hr.elim) (by simp), ?_⟩
      rintro _ ⟨⟩
      trivial
  | check s caps b =>
    simp only [statement, List.append_nil]
    refine ⟨h, ?_⟩
    rintro _ ⟨⟩
    split
    · next hslot => exact hslot
    · trivial
  | setCaps s caps b =>
    obtain ⟨r, hr⟩ := Option.isSome_iff_exists.mp hready
    simp only [statement, hr]
    refine ⟨h.concat (by simp) (fun r' hr' => ?_) (by simp), ?_⟩
    · rw [hr, show r = r' from hr']
    · rintro _ ⟨⟩
      exact hready
  | push s b =>
    obtain ⟨r, hr⟩ := Option.isSome_iff_exists.mp hready
    simp only [statement, hr]
    refine ⟨h.concat (by simp) (fun r' hr' => ?_) (by simp), ?_⟩
    · rw [hr, show r = r' from hr']
    · rintro _ ⟨⟩
      trivial
  | getByName media bin =>
    refine ⟨h.getByName bin reply.found, ?_⟩
    rintro _ ⟨⟩
    trivial
  | clear =>
    cases hr : m.appSrc with
    | none =>
      simp only [statement, hr, List.append_nil]
      refine ⟨h, ?_⟩
      rintro _ ⟨⟩
      trivial
    | some r =>
      simp only [statement, hr, List.append_nil]
      refine ⟨⟨h.safe, nofun⟩, ?_⟩
      rintro _ ⟨⟩
      exact ⟨rfl, h.slot r hr⟩
  | appSrcUnref r =>
    refine ⟨h.appSrcUnref hready.1 hready.2, ?_⟩
    rintro _ ⟨⟩
    trivial
  | _ =>
    refine ⟨h.concat (by simp) (fun r hr => hr.elim) (by simp), ?_⟩
    rintro _ ⟨⟩ <;> trivial

theorem handlers_outline : Outline handlers (fun _ m log => Owning m log)
    fun _ point m log => Owning m log ∧ Ready m log point := by
  refine ⟨?_, ?_, ?_⟩
  · intro order m log t c h
    refine ⟨h, ?_⟩
    cases c <;> trivial
  · intro order point m log point' reply h hnext
    obtain ⟨howning, hready⟩ := statement_owning h.1 h.2 reply
    exact ⟨howning, hready point' hnext⟩
  · intro order point m log reply h _
    exact (statement_owning h.1 h.2 reply).1

end

/-- As long as the mount is there, its handlers use an appsrc only while the mount has a reference on it, and give no
reference up twice. -/
theorem appSrc_safe (m : Mount) (hm : m.appSrc = none) (calls : Nat → List MountCall) (turns : List (Nat × MountReply)) :
    AppSrcSafe (run handlers.move { guarded := m, calls } turns).log := by
  have h0 : Owning m [] := by
    refine ⟨⟨by simp, fun before a after h => ?_, fun r => Nat.le_refl 0⟩, fun r hr => ?_⟩
    · exact absurd h (by simp)
    · rw [hm] at hr
      cases hr
  have hholds := handlers_outline.run (w := { guarded := m, calls }) h0 turns
  unfold World.Holds at hholds
  split at hholds
  · exact hholds.safe
  · exact hholds.1.safe

theorem appSrc_safe_viewer :
    AppSrcSafe (run handlers.move
      { guarded := ({ name := ascii "hd" } : Mount)
        calls := fun t => if t = 0 then [.newSample 8] else if t = 1 then [.configure 15, .unprepared] else [] }
      [(1, {}), (0, {}), (1, { element := 16 }), (1, { found := some 17 })]).log :=
  appSrc_safe { name := ascii "hd" } rfl _ _

end Mount

end CameraPlatform
