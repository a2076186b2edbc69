import CameraPlatform.System

/-!
# Handlers and freed mounts

Nothing disconnects a handler, so the memory of a mount is used after the server is gone exactly
when an appsink, a factory or a medium that calls it emits again.
-/

namespace CameraPlatform
open ByteString RefHeap History

namespace Bridge

/-- The mounts that the objects of the event belong to are still there. -/
def Safe (b : Bridge) : BridgeEvent → Prop
  | .newSample sink _ => b.gst.alive sink = true → ∀ a, b.sinkOf a = some sink → b.mountAlive a = true
  | .configure f => b.gst.alive f = true → ∀ a, b.factoryOf a = some f → b.mountAlive a = true
  | .prepared i => ∀ m, b.Prepares i m → ∀ a, b.factoryOf a = some m.factory → b.mountAlive a = true
  | .unprepared i => ∀ m, b.Unprepares i m → ∀ a, b.factoryOf a = some m.factory → b.mountAlive a = true

section
variable {b : Bridge}

theorem withMount_dangling (callback : Callback) (a : Nat) (body : Mount → Mount × Gst × List Action) :
    (b.withMount callback a body).dangling =
      b.dangling ++ if b.mountAlive a = true then [] else [(callback, a)] := by
  cases h : b.mountAlive a with
  | true =>
    obtain ⟨mount, -, heq⟩ := withMount_alive callback body h
    rw [heq]
    simp
  | false =>
    rw [withMount_freed h]
    simp

/-- One handler: nothing dangles if its mount is there. -/
theorem single_dangling {b' : Bridge} {callback : Callback} {a : Nat} {body : Mount → Mount × Gst × List Action}
    (hd : b.dangling = []) (heq : b' = b.withMount callback a body) :
    b'.dangling = [] ↔ b.mountAlive a = true := by
  rw [heq, withMount_dangling, hd]
  cases b.mountAlive a <;> simp

/-- The handlers of an appsink, one mount after the other. -/
theorem fold_dangling (sink : Nat) (pulled : Nat → Option GstSample) (as : List Nat) (b : Bridge) :
    ((as.map fun a => (⟨.newSample, .onNewSample, a⟩ : Handler)).foldl (invoke (.newSample sink pulled)) b).dangling =
      b.dangling ++ (as.filter fun a => !b.mountAlive a).map fun a => (.onNewSample, a) := by
  induction as generalizing b with
  | nil => exact (List.append_nil _).symm
  | cons a as ih =>
    have hran := @onNewSample_ran b a sink (pulled a)
    have hd : (b.onNewSample sink (pulled a) a).dangling = _ := withMount_dangling ..
    rw [List.map_cons, List.foldl_cons]
    refine (ih (b.onNewSample sink (pulled a) a)).trans ?_
    simp only [hran.aligned.alive, hd]
    cases h : b.mountAlive a <;> simp [h]

theorem newSample_dangling (htaken : ∀ a r, b.sinkOf a = some r → b.SinkWired r) (hd : b.dangling = []) (sink : Nat)
    (pulled : Nat → Option GstSample) :
    (b.step (.newSample sink pulled)).dangling = [] ↔ b.Safe (.newSample sink pulled) := by
  by_cases hg : ((b.mounts.any fun c => c.mount.appSink == some sink) && b.gst.alive sink) = true
  · obtain ⟨hany, halive⟩ := Bool.and_eq_true_iff.mp hg
    obtain ⟨a, ha⟩ := any_sink_iff.mp hany
    rw [show b.step (.newSample sink pulled) = b.emit (.newSample sink pulled) from if_pos hg, emit]
    show (List.foldl _ b (b.gst.handlersOf sink .newSample)).dangling = [] ↔ _
    rw [(htaken a sink ha).2, fold_dangling, hd, List.nil_append, List.map_eq_nil_iff, List.filter_eq_nil_iff]
    constructor
    · intro h _ a ha
      simpa using h a (mem_boundTo.mpr ha)
    · intro h a ha
      simpa using h halive a (mem_boundTo.mp ha)
  · rw [show b.step (.newSample sink pulled) = b from if_neg hg]
    refine iff_of_true hd fun halive a ha => ?_
    exact absurd (Bool.and_eq_true_iff.mpr ⟨any_sink_iff.mpr ⟨a, ha⟩, halive⟩) hg

/-- A signal of medium `i` calls one mount, that of its factory. -/
theorem Wired.mountAlive_iff (hw : b.Wired) {i : Nat} {Q : Medium → Prop} (hQ : ∀ m, Q m → b.media[i]? = some m)
    {m : Medium} {a : Nat} (hm : Q m) (ha : b.factoryOf a = some m.factory) :
    b.mountAlive a = true ↔ ∀ m, Q m → ∀ a, b.factoryOf a = some m.factory → b.mountAlive a = true := by
  constructor
  · intro h m' hm' a' ha'
    obtain rfl := Option.some.inj ((hQ m hm).symm.trans (hQ m' hm'))
    rw [hw.eq_of_factory ha' ha]
    exact h
  · intro h
    exact h m hm a ha

/-- The handlers that an event calls all find their mounts if and only if it is safe. -/
theorem step_dangling (hw : b.Wired) (htaken : ∀ a r, b.sinkOf a = some r → b.SinkWired r) (hd : b.dangling = [])
    (event : BridgeEvent) : (b.step event).dangling = [] ↔ b.Safe event := by
  cases event with
  | newSample sink pulled => exact newSample_dangling htaken hd sink pulled
  | configure f =>
    rcases hw.step_configure f with ⟨hno, heq⟩ | ⟨a, ha, halive, heq⟩
    · rw [heq]
      refine iff_of_true hd fun halive a ha => ?_
      rcases hno with hno | hno
      · exact absurd ha (hno a)
      · rw [hno] at halive; cases halive
    · rw [single_dangling (b := b.withNewMedium f) hd heq]
      constructor
      · intro h _ a' ha'
        rw [hw.eq_of_factory ha' ha]
        exact h
      · intro h
        exact h halive a ha
  | prepared i =>
    rcases hw.step_prepared i with ⟨hno, heq⟩ | ⟨m, a, hm, ha, heq⟩
    · rw [heq]
      exact iff_of_true hd fun m hm => absurd hm (hno m)
    · rw [single_dangling (b := b.withMedium i { m with prepared := true }) hd heq]
      exact hw.mountAlive_iff (fun _ h => h.1) hm ha
  | unprepared i =>
    rcases hw.step_unprepared i with ⟨hno, heq⟩ | ⟨m, a, hm, ha, heq⟩
    · rw [heq]
      exact iff_of_true hd fun m hm => absurd hm (hno m)
    · rw [single_dangling (b := b.withMedium i { m with unprepared := true }) hd heq]
      exact hw.mountAlive_iff (fun _ h => h.1) hm ha

end

end Bridge

namespace System
open Bridge

/-- No handler was called with the memory of a mount that was freed. -/
def NoneDangling (s : System) : Prop := s.bridge.dangling = []

instance (s : System) : Decidable s.NoneDangling := inferInstanceAs (Decidable (_ = _))

def Safe (s : System) : SystemEvent → Prop
  | .bridge e => s.bridge.Safe e
  | _ => True

section
variable {s : System}

/-- The calls of the host and of the servers call no handlers. -/
theorem step_noneDangling (h : s.Connected) (hd : s.NoneDangling) (e : SystemEvent) :
    (s.step e).NoneDangling ↔ s.Safe e := by
  cases e with
  | host e => exact iff_of_true hd trivial
  | construct port => exact iff_of_true ((RtspProfileServer.construct_spec port s.host s.bridge).2.2.2.1.trans hd) trivial
  | attach i error context => exact iff_of_true (onServer_of (P := NoneDangling) hd fun _ => hd) trivial
  | detach i => exact iff_of_true (onServer_of (P := NoneDangling) hd fun _ => hd) trivial
  | destroy i => exact iff_of_true (onServer_of (P := NoneDangling) hd fun _ => hd) trivial
  | bridge e => exact step_dangling h.wired h.taken hd e

end

/-- In every run of a host and its servers no handler is called with a freed mount, if and only if no
appsink, factory or medium emits whose handler belongs to a server that was destroyed. -/
theorem handlers_find_mounts_iff (catalog : List ProfileInfo) (g : Gst) (events : List SystemEvent) :
    Throughout System.step NoneDangling (new catalog g) events ↔ Along System.step Safe (new catalog g) events := by
  refine throughout_iff_along (I := fun s : System => s.Connected ∧ s.NoneDangling) (fun _ h => h.2)
    (fun s e h => step_noneDangling h.1 h.2 e) (fun s e h hsafe => ?_) ⟨connected_new catalog g, rfl⟩ events
  refine ⟨h.1.step e ?_, (step_noneDangling h.1 h.2 e).mpr hsafe⟩
  rintro f rfl
  exact hsafe

/-- The server is destroyed while the host plays, and the appsink emits once more. -/
theorem handlers_find_freed :
    ¬ Throughout System.step NoneDangling (new [{ name := ascii "hd" }] Gst.init)
        [.host (.setVideoSource (some .TestVideoSource)), .host (.setupPipeline ⟨fun _ => false, fun _ _ => false⟩),
          .construct 8554, .host (.play false), .destroy 0,
          .bridge (.newSample 8 fun _ => some ⟨ascii "video/x-h264", ⟨some 0, some 0, none, []⟩⟩)] := by
  intro h
  exact absurd h.run (by decide +kernel)

end System

end CameraPlatform
