import CameraPlatform.Application
import CameraPlatform.Base.Mutex

/-!
# The control interface of `Application`, step by step

`setProfileEnabled`, `profiles` and `systemStatus` lock `m_stateMutex` and then work through the branches one by
one. Threads that make these calls get the answers that the calls as a whole would give.
-/

namespace CameraPlatform
open ByteString History Simulation Mutex

/-- A call of `CameraControl`. -/
inductive ControlCall where
  | systemStatus
  | profiles
  | setProfileEnabled (name : Bytes) (enabled : Bool)

inductive ControlAnswer where
  | status (status : SystemStatus)
  | profiles (profiles : List ProfileInfo)
  | enabled (ok : Bool)

/-- What `m_stateMutex` guards: the status, and the branches with their valves. -/
structure ControlState where
  host : ProfileHost
  gst : Gst
  systemStatus : SystemStatus

/-- The next statement of a call. -/
inductive ControlPoint where
  | status
  /-- `push_back` of the profile of branch `i`. -/
  | copy (i : Nat) (profileInfos : List ProfileInfo)
  /-- `find_if` at branch `i`. -/
  | find (name : Bytes) (enabled : Bool) (i : Nat)
  | setDrop (enabled : Bool) (i : Nat)
  | setState (enabled : Bool) (i : Nat)

namespace ControlState

/-- The calls as a whole. -/
def answer (s : ControlState) : ControlCall → ControlAnswer × ControlState
  | .systemStatus => (.status s.systemStatus, s)
  | .profiles => (.profiles s.host.profiles, s)
  | .setProfileEnabled name enabled =>
    let (outcome, host, gst) := s.host.setProfileEnabled name enabled s.gst
    (.enabled outcome.ok, { s with host, gst })

def enter : ControlCall → ControlPoint
  | .systemStatus => .status
  | .profiles => .copy 0 []
  | .setProfileEnabled name enabled => .find name enabled 0

def statement (s : ControlState) (point : ControlPoint) (_ : Unit) :
    ControlState × Option ControlPoint × List ControlAnswer :=
  match point with
  | .status => (s, none, [.status s.systemStatus])
  | .copy i profileInfos =>
    match s.host.profileBins[i]? with
    | some b => (s, some (.copy (i + 1) (profileInfos ++ [b.profile])), [])
    | none => (s, none, [.profiles profileInfos])
  | .find name enabled i =>
    match s.host.profileBins[i]? with
    | some b => (s, some (if b.profile.name == name then .setDrop enabled i else .find name enabled (i + 1)), [])
    | none => (s, none, [.enabled false])
  | .setDrop enabled i =>
    match s.host.profileBins[i]? with
    | some b => ({ s with gst := b.setDrop (!enabled) s.gst }, some (.setState enabled i), [])
    | none => (s, some (.setState enabled i), [])
  | .setState enabled i =>
    let state := if enabled then proto.kStateReady else proto.kStateOff
    let profileBins := s.host.profileBins.modify i fun b => (b.setState state []).2
    ({ s with host := { s.host with profileBins } }, none, [.enabled true])

def control : Body ControlState ControlCall ControlPoint Unit ControlAnswer := ⟨enter, statement⟩

/-- What a call has done when it comes to a statement; `s` is the state that it found. -/
inductive Calling (s : ControlState) : ControlCall → ControlPoint → ControlState → List ControlAnswer → Prop
  | status : Calling s .systemStatus .status s []
  | copy (i : Nat) : Calling s .profiles (.copy i ((s.host.profileBins.take i).map (·.profile))) s []
  | find (name : Bytes) (enabled : Bool) (i : Nat)
    (h : (s.host.profileBins.take i).findIdx? (fun b => b.profile.name == name) = none) :
    Calling s (.setProfileEnabled name enabled) (.find name enabled i) s []
  | setDrop (name : Bytes) (enabled : Bool) (i : Nat)
    (h : s.host.profileBins.findIdx? (fun b => b.profile.name == name) = some i) :
    Calling s (.setProfileEnabled name enabled) (.setDrop enabled i) s []
  | setState (name : Bytes) (enabled : Bool) (i : Nat) {b : ProfileBin}
    (h : s.host.profileBins.findIdx? (fun b => b.profile.name == name) = some i) (hb : s.host.profileBins[i]? = some b) :
    Calling s (.setProfileEnabled name enabled) (.setState enabled i) { s with gst := b.setDrop (!enabled) s.gst } []

theorem calling_enter (s : ControlState) (c : ControlCall) : Calling s c (enter c) s [] := by
  cases c with
  | systemStatus => exact .status
  | profiles => exact .copy 0
  | setProfileEnabled name enabled => exact .find name enabled 0 (by simp)

/-- `find_if` goes on past a branch of another name, and stops at the first of the name. -/
theorem find_step {s : ControlState} {name : Bytes} {i : Nat} {b : ProfileBin} (hb : s.host.profileBins[i]? = some b)
    (h : (s.host.profileBins.take i).findIdx? (fun b => b.profile.name == name) = none) :
    if b.profile.name == name then s.host.profileBins.findIdx? (fun b => b.profile.name == name) = some i
    else (s.host.profileBins.take (i + 1)).findIdx? (fun b => b.profile.name == name) = none := by
  rw [List.findIdx?_eq_none_iff] at h
  have hlt := (List.getElem?_eq_some_iff.mp hb).1
  split
  · next hname =>
    rw [List.findIdx?_eq_some_iff_getElem]
    refine ⟨hlt, ?_, fun j hj => ?_⟩
    · rw [(List.getElem?_eq_some_iff.mp hb).2]
      exact hname
    · have hjlt : j < s.host.profileBins.length := Nat.lt_trans hj hlt
      have hmem : s.host.profileBins[j] ∈ s.host.profileBins.take i :=
        List.mem_take_iff_getElem.mpr ⟨j, by omega, rfl⟩
      rw [h _ hmem]
      simp
  · next hname =>
    rw [List.findIdx?_eq_none_iff, List.take_succ_eq_append_getElem hlt]
    intro x hx
    rcases List.mem_append.mp hx with hx | hx
    · exact h x hx
    · rw [List.mem_singleton.mp hx, (List.getElem?_eq_some_iff.mp hb).2]
      simpa using hname

theorem take_of_none {s : ControlState} {i : Nat} (h : s.host.profileBins[i]? = none) :
    s.host.profileBins.take i = s.host.profileBins :=
  List.take_of_length_le (List.getElem?_eq_none_iff.mp h)

theorem control_refines :
    Refines control (fun s c answers s' => answers = [(answer s c).1] ∧ s' = (answer s c).2) Calling := by
  refine ⟨calling_enter, ?_, ?_⟩
  · intro s c point s' answers point' _ h hnext
    cases h with
    | status => cases hnext
    | copy i =>
      simp only [control, statement] at hnext ⊢
      split at hnext
      · next b hb =>
        cases hnext
        have htake : (s.host.profileBins.take i).map (·.profile) ++ [b.profile] =
            (s.host.profileBins.take (i + 1)).map (·.profile) := by
          rw [List.take_add_one, hb, List.map_append]
          rfl
        simp only [htake]
        exact .copy (i + 1)
      · cases hnext
    | find name enabled i hnone =>
      simp only [control, statement] at hnext ⊢
      split at hnext
      · next b hb =>
        have hstep := find_step hb hnone
        split at hstep
        · next hname =>
          simp only [hname, if_true, Option.some.injEq] at hnext
          subst hnext
          exact .setDrop name enabled i hstep
        · next hname =>
          simp only [hname, Bool.false_eq_true, if_false, Option.some.injEq] at hnext
          subst hnext
          exact .find name enabled (i + 1) hstep
      · cases hnext
    | setDrop name enabled i hfound =>
      obtain ⟨b, hb⟩ : ∃ b, s.host.profileBins[i]? = some b :=
        ⟨_, List.getElem?_eq_getElem (List.findIdx?_eq_some_iff_getElem.mp hfound).1⟩
      simp only [control, statement, hb, Option.some.injEq] at hnext ⊢
      subst hnext
      exact .setState name enabled i hfound hb
    | setState => cases hnext
  · intro s c point s' answers _ h hleave
    cases h with
    | status => exact ⟨rfl, rfl⟩
    | copy i =>
      simp only [control, statement] at hleave ⊢
      split at hleave
      · cases hleave
      · next hb =>
        simp only [take_of_none hb]
        exact ⟨rfl, rfl⟩
    | find name enabled i hnone =>
      simp only [control, statement] at hleave ⊢
      split at hleave
      · cases hleave
      · next hb =>
        rw [take_of_none hb] at hnone
        simp only [answer, ProfileHost.setProfileEnabled, hnone]
        exact ⟨rfl, trivial⟩
    | setDrop name enabled i hfound =>
      simp only [control, statement] at hleave
      split at hleave <;> cases hleave
    | setState name enabled i hfound hb =>
      simp only [control, statement, answer, ProfileHost.setProfileEnabled, hfound, hb]
      exact ⟨rfl, trivial⟩

/-- Whatever threads call the control interface and however their statements interleave: the calls are answered, and
leave what they guard, as if they had come one after the other in the order in which they got the mutex. -/
theorem control_linearizable (s : ControlState) (calls : Nat → List ControlCall) (turns : List (Nat × Unit)) :
    let w := run control.move { guarded := s, calls } turns
    (w.holder = none →
      w.guarded = exec answer s (w.order.map (·.2)) ∧ w.log = trace answer s (w.order.map (·.2))) ∧
    ∀ t, (w.order.filter fun x => x.1 = t).map (·.2) ++ w.calls t = calls t := by
  intro w
  refine ⟨fun hfree => ?_, fun t => order_calls control _ turns t rfl⟩
  have hholds := control_refines.run s calls turns
  rw [World.Holds, show (run control.move { guarded := s, calls } turns).holder = none from hfree] at hholds
  exact hholds.trace

/-- A thread switches a profile while another one asks for the profiles. -/
theorem control_linearizable_switch :
    let s : ControlState := ⟨.new [{ name := ascii "hd" }], .init, {}⟩
    let calls : Nat → List ControlCall := fun t =>
      if t = 0 then [.setProfileEnabled (ascii "hd") true] else if t = 1 then [.profiles] else []
    let w := run control.move { guarded := s, calls }
      [(0, ()), (0, ()), (1, ()), (0, ()), (0, ()), (1, ()), (1, ()), (1, ())]
    w.guarded = exec answer s (w.order.map (·.2)) ∧ w.log = trace answer s (w.order.map (·.2)) := by
  intro s calls w
  exact (control_linearizable s calls _).1 (by decide +kernel)

end ControlState

end CameraPlatform
