import CameraPlatform.Base.History
import CameraPlatform.HostReady

/-!
# Switching profiles on and off

A run of `setProfileEnabled` calls on a host that was set up is known from the last call of each
profile alone: `Switched` says what the run leaves in the host and in the heap.
-/

namespace CameraPlatform
open ByteString RefHeap History

namespace ProfileHost

/-- A call of `setProfileEnabled`, by its arguments. -/
def call (s : ProfileHost × Gst) (c : Bytes × Bool) : ProfileHost × Gst := (s.1.setProfileEnabled c.1 c.2 s.2).2

/-- The state reported after a call. -/
def stateFor (enabled : Bool) : Bytes := if enabled then proto.kStateReady else proto.kStateOff

/-- A profile after its last request. -/
def requested (request : Option Bool) (p : ProfileInfo) : ProfileInfo :=
  match request with
  | none => p
  | some enabled => { p with state := stateFor enabled, lastError := [] }

@[simp] theorem requested_name (request : Option Bool) (p : ProfileInfo) : (requested request p).name = p.name := by
  cases request <;> rfl

/-- A branch after the calls. -/
def switched (calls : List (Bytes × Bool)) (b : ProfileBin) : ProfileBin :=
  { b with profile := requested (last b.profile.name calls) b.profile }

@[simp] theorem switched_name (calls : List (Bytes × Bool)) (b : ProfileBin) :
    (switched calls b).profile.name = b.profile.name := requested_name ..

/-- A valve after its last request. -/
def withDrop (request : Option Bool) (c : Cell GObject) : Cell GObject :=
  match request with
  | none => c
  | some enabled =>
    { c with data := { c.data with
        props := fun k => if k = ascii "drop" then some (.boolean (!enabled)) else c.data.props k } }

@[simp] theorem withDrop_none : withDrop none = id := rfl

theorem withDrop_some (request : Option Bool) (enabled : Bool) (c : Cell GObject) :
    withDrop (some enabled) (withDrop request c) = withDrop (some enabled) c := by
  cases request with
  | none => rfl
  | some e =>
    simp only [withDrop, Cell.mk.injEq, GObject.mk.injEq, and_true, true_and]
    funext k
    split <;> rfl

/-- The last request for the profile whose valve this is. -/
def requestAt (bins : List ProfileBin) (calls : List (Bytes × Bool)) (x : Nat) : Option Bool :=
  (bins.find? fun b => b.valve == some x).bind fun b => last b.profile.name calls

/-- What switching needs of a host: names and valves tell the profiles apart, and all valves are there. -/
structure Switchable (h : ProfileHost) (g : Gst) : Prop where
  names : (h.profileBins.map fun b => b.profile.name).Nodup
  valve : ∀ b ∈ h.profileBins, ∃ v drop, b.valve = some v ∧ g.prop v (ascii "drop") = some (.boolean drop)
  apart : ∀ b ∈ h.profileBins, ∀ b' ∈ h.profileBins, b.valve = b'.valve → b = b'

namespace Switchable
variable {h : ProfileHost} {g : Gst}

theorem find_eq (hs : h.Switchable g) {b : ProfileBin} (hb : b ∈ h.profileBins) :
    h.find b.profile.name = some b := find_of_names hs.names hb

end Switchable

/-- A host that was set up can be switched. -/
theorem Ready.switchable {h : ProfileHost} {g : Gst} {ns : List Nat} (hr : h.Ready g ns) : h.Switchable g := by
  refine ⟨hr.names, fun b hb => ?_, fun b hb b' hb' hv => hr.eq_of_valve hb hb' hv⟩
  obtain ⟨n, -, hbr⟩ := hr.branch hb
  exact ⟨n + 1, false, hbr.valve, hbr.drop⟩

/-- What a run of calls leaves. -/
structure Switched (s : ProfileHost × Gst) (calls : List (Bytes × Bool)) (s' : ProfileHost × Gst) : Prop where
  host : s'.1 = { s.1 with profileBins := s.1.profileBins.map (switched calls) }
  cells : ∀ x, s'.2.heap.get x = (s.2.heap.get x).map (withDrop (requestAt s.1.profileBins calls x))
  misused : s'.2.heap.misused = s.2.heap.misused
  rest : s'.2 = { s.2 with heap := s'.2.heap }

section
variable {s s' : ProfileHost × Gst} {calls : List (Bytes × Bool)}

theorem setState_stateFor (b : ProfileBin) (enabled : Bool) :
    (b.setState (stateFor enabled) []).2 = { b with profile := requested (some enabled) b.profile } := by
  unfold ProfileBin.setState
  rw [if_neg (by cases enabled <;> decide)]
  rfl

/-- The entry of a list that is changed at the position of its key. -/
theorem modify_findIdx? {α : Type} {key : α → Bytes} {l : List α} (hn : (l.map key).Nodup) {k : Bytes} {i : Nat}
    (hi : l.findIdx? (fun a => key a == k) = some i) (f : α → α) :
    l.modify i f = l.map fun a => if key a = k then f a else a := by
  induction l generalizing i with
  | nil => cases hi
  | cons a l ih =>
    obtain ⟨hnot, hn⟩ := List.nodup_cons.mp hn
    rw [List.findIdx?_cons] at hi
    rw [List.map_cons]
    by_cases ha : key a = k
    · -- no later entry has the key
      obtain rfl : 0 = i := by simpa [ha] using hi
      have hrest : ∀ b ∈ l, (if key b = k then f b else b) = id b := fun b hb =>
        if_neg fun hb' => hnot (List.mem_map.mpr ⟨b, hb, hb'.trans ha.symm⟩)
      rw [if_pos ha, List.modify_zero_cons, List.map_congr_left hrest, List.map_id]
    · rw [if_neg (by simpa using ha)] at hi
      obtain ⟨j, hj, rfl⟩ := Option.map_eq_some_iff.mp hi
      rw [if_neg ha, List.modify_succ_cons, ih hn hj]

theorem bind_findIdx? {α : Type} (l : List α) (p : α → Bool) : ((l.findIdx? p).bind fun i => l[i]?) = l.find? p := by
  induction l with
  | nil => rfl
  | cons a l ih =>
    rw [List.findIdx?_cons, List.find?_cons, ← ih]
    cases p a with
    | true => rfl
    | false => cases l.findIdx? p <;> rfl

/-- The profile that is named changes its state, and its valve is written. -/
theorem call_eq (hn : (s.1.profileBins.map fun b => b.profile.name).Nodup) (c : Bytes × Bool) :
    call s c = ({ s.1 with profileBins := s.1.profileBins.map fun b =>
        if b.profile.name = c.1 then { b with profile := requested (some c.2) b.profile } else b },
      match s.1.find c.1 with
      | some b => b.setDrop (!c.2) s.2
      | none => s.2) := by
  have hfind := bind_findIdx? s.1.profileBins fun b => b.profile.name == c.1
  unfold call setProfileEnabled find
  rw [← hfind]
  cases hi : s.1.profileBins.findIdx? fun b => b.profile.name == c.1 with
  | none =>
    have hnone := List.findIdx?_eq_none_iff.mp hi
    have hid : ∀ b ∈ s.1.profileBins, (if b.profile.name = c.1 then
        { b with profile := requested (some c.2) b.profile } else b) = id b :=
      fun b hb => if_neg (by simpa using hnone b hb)
    rw [List.map_congr_left hid, List.map_id]
    rfl
  | some i =>
    have hset : (fun b : ProfileBin => (b.setState (stateFor c.2) []).2) =
        fun b => { b with profile := requested (some c.2) b.profile } := funext fun b => setState_stateFor b c.2
    rw [← modify_findIdx? hn hi, ← hset]
    rfl

theorem setProfileEnabled_unknown (name : Bytes) (enabled : Bool) (h : ∀ b ∈ s.1.profileBins, b.profile.name ≠ name) :
    s.1.setProfileEnabled name enabled s.2 = (.failure "Profile not found", s.1, s.2) := by
  have hnone : s.1.profileBins.findIdx? (fun b => b.profile.name == name) = none :=
    List.findIdx?_eq_none_iff.mpr fun b hb => by simpa using h b hb
  unfold setProfileEnabled
  rw [hnone]

/-- Writing the valve of a branch. -/
theorem get_setDrop (b : ProfileBin) (enabled : Bool) (g : Gst) (x : Nat) :
    (b.setDrop (!enabled) g).heap.get x =
      if b.valve = some x then (g.heap.get x).map (withDrop (some enabled)) else g.heap.get x := by
  unfold ProfileBin.setDrop
  cases hv : b.valve with
  | none => rfl
  | some v =>
    show (g.heap.update v _).get x = _
    rw [Heap.update, Heap.get_modify]
    by_cases hx : x = v
    · rw [if_pos hx, if_pos (by rw [hx])]; rfl
    · rw [if_neg hx, if_neg (fun h => hx (Option.some.inj h).symm)]

theorem setDrop_rest (b : ProfileBin) (drop : Bool) (g : Gst) :
    b.setDrop drop g = { g with heap := (b.setDrop drop g).heap } ∧
      (b.setDrop drop g).heap.misused = g.heap.misused := by
  unfold ProfileBin.setDrop
  cases b.valve <;> exact ⟨rfl, rfl⟩

theorem Switched.nil : Switched s [] s := by
  refine ⟨?_, fun x => ?_, rfl, rfl⟩
  · have hid : switched [] = id := rfl
    rw [hid, List.map_id]
  · unfold requestAt
    cases s.1.profileBins.find? fun b => b.valve == some x <;> simp

theorem Switched.names (h : Switched s calls s') :
    (s'.1.profileBins.map fun b => b.profile.name) = s.1.profileBins.map fun b => b.profile.name := by
  rw [h.host, List.map_map]
  exact List.map_congr_left fun b _ => switched_name calls b

theorem Switched.find (h : Switched s calls s') (name : Bytes) :
    s'.1.find name = (s.1.find name).map (switched calls) := by
  unfold ProfileHost.find
  rw [h.host, List.find?_map]
  refine congrArg (Option.map _) (congrArg (List.find? · _) (funext fun b => ?_))
  simp only [Function.comp, switched_name]

/-- A call changes the last request of the profile it names. -/
theorem requested_concat (calls : List (Bytes × Bool)) (c : Bytes × Bool) (b : ProfileBin) :
    switched (calls ++ [c]) b =
      if (switched calls b).profile.name = c.1 then
        { switched calls b with profile := requested (some c.2) (switched calls b).profile }
      else switched calls b := by
  rw [switched_name, switched, last_concat]
  by_cases hb : b.profile.name = c.1
  · rw [if_pos hb.symm, if_pos hb, switched]
    cases last b.profile.name calls <;> rfl
  · rw [if_neg (Ne.symm hb), if_neg hb, switched]

/-- The valves after one more call. -/
theorem requestAt_concat (hr : s.1.Switchable s.2) (calls : List (Bytes × Bool)) (c : Bytes × Bool) (x : Nat) :
    requestAt s.1.profileBins (calls ++ [c]) x =
      if (s.1.find c.1).bind (·.valve) = some x then some c.2 else requestAt s.1.profileBins calls x := by
  unfold requestAt
  cases hf : s.1.profileBins.find? fun b => b.valve == some x with
  | none =>
    rw [if_neg]
    · rfl
    intro hv
    obtain ⟨b, hb, hv⟩ := Option.bind_eq_some_iff.mp hv
    exact absurd (List.find?_eq_none.mp hf b (List.mem_of_find?_eq_some hb)) (by simp [hv])
  | some b =>
    have hb := List.mem_of_find?_eq_some hf
    have hv : b.valve = some x := by simpa using List.find?_some hf
    rw [Option.bind_some, Option.bind_some, last_concat]
    by_cases hname : c.1 = b.profile.name
    · rw [if_pos hname, hname, hr.find_eq hb, Option.bind_some, if_pos hv]
    · rw [if_neg hname, if_neg]
      intro hv'
      obtain ⟨b', hb', hv'⟩ := Option.bind_eq_some_iff.mp hv'
      have hname' : b'.profile.name = c.1 := by simpa using List.find?_some hb'
      rw [hr.apart b' (List.mem_of_find?_eq_some hb') b hb (hv'.trans hv.symm)] at hname'
      exact hname hname'.symm

/-- One more call: it writes the valve and the state of the profile it names, and nothing else. -/
theorem Switched.step (hr : s.1.Switchable s.2) (h : Switched s calls s') (c : Bytes × Bool) :
    Switched s (calls ++ [c]) (call s' c) := by
  rw [call_eq (by rw [h.names]; exact hr.names), h.find]
  have hheap : ∀ x, (match (s.1.find c.1).map (switched calls) with
      | some b => b.setDrop (!c.2) s'.2
      | none => s'.2).heap.get x =
        if (s.1.find c.1).bind (·.valve) = some x then (s'.2.heap.get x).map (withDrop (some c.2))
        else s'.2.heap.get x := by
    intro x
    cases s.1.find c.1 with
    | none => rfl
    | some b => exact get_setDrop (switched calls b) c.2 s'.2 x
  refine ⟨?_, fun x => ?_, ?_, ?_⟩
  · rw [h.host, List.map_map]
    refine congrArg (fun bins => ({ s.1 with profileBins := bins } : ProfileHost)) (List.map_congr_left fun b _ => ?_)
    exact (requested_concat calls c b).symm
  · rw [hheap, h.cells, requestAt_concat hr]
    split
    · rw [Option.map_map]
      exact congrArg (Option.map · _) (funext fun cell => withDrop_some ..)
    · rfl
  · cases s.1.find c.1 with
    | none => exact h.misused
    | some b => exact (setDrop_rest ..).2.trans h.misused
  · cases s.1.find c.1 with
    | none => exact h.rest
    | some b =>
      refine (setDrop_rest (switched calls b) (!c.2) s'.2).1.trans ?_
      exact congrArg (fun g : Gst => { g with heap := ((switched calls b).setDrop (!c.2) s'.2).heap })
        h.rest

theorem switched_run (hr : s.1.Switchable s.2) (calls : List (Bytes × Bool)) : Switched s calls (run call s calls) :=
  run_induction (P := Switched s) .nil (fun _ _ c h => h.step hr c) calls

/-! ### What the calls promise -/

/-- A profile without its state. -/
def settings (p : ProfileInfo) : ProfileInfo := { p with state := [], lastError := [] }

/-- What `calls` promise of the host `s` that was set up: `s'` is the host after them. -/
structure Obeys (s : ProfileHost × Gst) (calls : List (Bytes × Bool)) (s' : ProfileHost × Gst) : Prop where
  named : ∀ p ∈ s.1.profiles, ∀ enabled, last p.name calls = some enabled →
    s'.1.profileEnabled p.name s'.2 = enabled ∧
    ∃ p' ∈ s'.1.profiles, p'.name = p.name ∧ p'.lastError = [] ∧
      p'.state = if enabled then proto.kStateReady else proto.kStateOff
  unnamed : ∀ p ∈ s.1.profiles, last p.name calls = none →
    p ∈ s'.1.profiles ∧ s'.1.profileEnabled p.name s'.2 = s.1.profileEnabled p.name s.2 ∧
    ∃ b, s.1.find p.name = some b ∧ s'.1.find p.name = some b ∧
      ∀ v ∈ b.valve, s'.2.heap.get v = s.2.heap.get v
  unknown : ∀ name, (∀ p ∈ s.1.profiles, p.name ≠ name) → ∀ enabled,
    (s'.1.setProfileEnabled name enabled s'.2).1.ok = false ∧ call s' (name, enabled) = s'
  settings : s'.1.profiles.map settings = s.1.profiles.map settings

theorem requestAt_valve (hr : s.1.Switchable s.2) (calls : List (Bytes × Bool)) {b : ProfileBin}
    (hb : b ∈ s.1.profileBins) {v : Nat} (hv : b.valve = some v) :
    requestAt s.1.profileBins calls v = last b.profile.name calls := by
  unfold requestAt
  cases hf : s.1.profileBins.find? fun b => b.valve == some v with
  | none => exact absurd (List.find?_eq_none.mp hf b hb) (by simp [hv])
  | some b' =>
    have hv' : b'.valve = some v := by simpa using List.find?_some hf
    rw [hr.apart b' (List.mem_of_find?_eq_some hf) b hb (hv'.trans hv.symm)]
    rfl

/-- The valve of a branch after the calls. -/
theorem Switched.prop_valve (hr : s.1.Switchable s.2) (h : Switched s calls s') {b : ProfileBin}
    (hb : b ∈ s.1.profileBins) {v : Nat} (hv : b.valve = some v) :
    s'.2.prop v (ascii "drop") =
      match last b.profile.name calls with
      | none => s.2.prop v (ascii "drop")
      | some enabled => some (.boolean (!enabled)) := by
  obtain ⟨v', drop, hv', hdrop⟩ := hr.valve b hb
  obtain rfl : v' = v := Option.some.inj (hv'.symm.trans hv)
  have hcell := h.cells v'
  rw [requestAt_valve hr calls hb hv] at hcell
  unfold Gst.prop Gst.obj Heap.data at hdrop ⊢
  rw [hcell]
  cases hget : s.2.heap.get v' with
  | none => rw [hget] at hdrop; cases hdrop
  | some cell => cases last b.profile.name calls <;> rfl

theorem Switched.profileEnabled (hr : s.1.Switchable s.2) (h : Switched s calls s') {b : ProfileBin}
    (hb : b ∈ s.1.profileBins) :
    s'.1.profileEnabled b.profile.name s'.2 =
      (last b.profile.name calls).getD (s.1.profileEnabled b.profile.name s.2) := by
  obtain ⟨v, drop, hv, -⟩ := hr.valve b hb
  unfold ProfileHost.profileEnabled
  rw [h.find, hr.find_eq hb]
  simp only [Option.map_some, ProfileBin.isDropped, switched, hv, h.prop_valve hr hb hv]
  cases last b.profile.name calls with
  | none => rfl
  | some enabled => cases enabled <;> rfl

/-- A host that was switched can be switched again. -/
theorem Switched.switchable (hr : s.1.Switchable s.2) (h : Switched s calls s') : s'.1.Switchable s'.2 := by
  have hbins : ∀ b ∈ s'.1.profileBins, ∃ b₀ ∈ s.1.profileBins, switched calls b₀ = b := fun b hb => by
    rw [h.host] at hb
    exact List.mem_map.mp hb
  refine ⟨by rw [h.names]; exact hr.names, fun b hb => ?_, fun b hb b' hb' hv => ?_⟩
  · obtain ⟨b₀, hb₀, rfl⟩ := hbins b hb
    obtain ⟨v, drop, hv, hdrop⟩ := hr.valve b₀ hb₀
    have hprop := h.prop_valve hr hb₀ hv
    cases hlast : last b₀.profile.name calls with
    | none => exact ⟨v, drop, hv, by rw [hprop, hlast]; exact hdrop⟩
    | some enabled => exact ⟨v, !enabled, hv, by rw [hprop, hlast]⟩
  · obtain ⟨b₀, hb₀, rfl⟩ := hbins b hb
    obtain ⟨b₀', hb₀', rfl⟩ := hbins b' hb'
    rw [hr.apart b₀ hb₀ b₀' hb₀' hv]

theorem Switched.profiles (h : Switched s calls s') :
    s'.1.profiles = s.1.profiles.map fun p => requested (last p.name calls) p := by
  unfold ProfileHost.profiles
  rw [h.host, List.map_map, List.map_map]
  rfl

theorem Switched.obeys (hr : s.1.Switchable s.2) (h : Switched s calls s') : Obeys s calls s' := by
  refine ⟨?_, ?_, ?_, ?_⟩
  · intro p hp enabled hlast
    obtain ⟨b, hb, rfl⟩ := List.mem_map.mp hp
    refine ⟨by rw [h.profileEnabled hr hb, hlast]; rfl, requested (some enabled) b.profile, ?_, rfl, rfl, rfl⟩
    rw [h.profiles]
    exact List.mem_map.mpr ⟨b.profile, hp, by rw [hlast]⟩
  · intro p hp hlast
    obtain ⟨b, hb, rfl⟩ := List.mem_map.mp hp
    refine ⟨?_, by rw [h.profileEnabled hr hb, hlast]; rfl, b, hr.find_eq hb, ?_, fun v hv => ?_⟩
    · rw [h.profiles]
      exact List.mem_map.mpr ⟨b.profile, hp, by rw [hlast]; rfl⟩
    · rw [h.find, hr.find_eq hb, Option.map_some, switched, hlast]; rfl
    · rw [h.cells, requestAt_valve hr calls hb hv, hlast, withDrop_none, Option.map_id]; rfl
  · intro name hname enabled
    have hunknown := setProfileEnabled_unknown (s := s') name enabled fun b hb => ?_
    · rw [call, hunknown]
      exact ⟨rfl, rfl⟩
    rw [h.host] at hb
    obtain ⟨b₀, hb₀, rfl⟩ := List.mem_map.mp hb
    rw [switched_name]
    exact hname b₀.profile (List.mem_map.mpr ⟨b₀, hb₀, rfl⟩)
  · rw [h.profiles, List.map_map]
    refine List.map_congr_left fun p _ => ?_
    show settings (requested _ p) = settings p
    cases last p.name calls <;> rfl

/-- Only the last call of each profile counts. -/
theorem Switched.unique {as bs : List (Bytes × Bool)} {s₁ s₂ : ProfileHost × Gst} (h₁ : Switched s as s₁)
    (h₂ : Switched s bs s₂)
    (hsame : ∀ b ∈ s.1.profileBins, last b.profile.name as = last b.profile.name bs) : s₁ = s₂ := by
  have hhost : s₁.1 = s₂.1 := by
    rw [h₁.host, h₂.host]
    refine congrArg (fun bins => ({ s.1 with profileBins := bins } : ProfileHost)) (List.map_congr_left fun b hb => ?_)
    rw [switched, switched, hsame b hb]
  have hheap : s₁.2.heap = s₂.2.heap := by
    refine Heap.ext_get (fun x => ?_) (h₁.misused.trans h₂.misused.symm)
    rw [h₁.cells, h₂.cells, requestAt, requestAt]
    cases hf : s.1.profileBins.find? fun b => b.valve == some x with
    | none => rfl
    | some b => rw [Option.bind_some, Option.bind_some, hsame b (List.mem_of_find?_eq_some hf)]
  refine Prod.ext hhost ?_
  rw [h₁.rest, h₂.rest, hheap]

/-- The last call of each profile decides its valve and its state, and calls of different profiles
commute. -/
theorem setProfileEnabled_run (faults : SetupFaults) (h : ProfileHost) (g : Gst)
    (hok : (setupPipeline faults h g).1.ok = true) :
    let s := (setupPipeline faults h g).2
    (∀ calls, Obeys s calls (run call s calls)) ∧
      ∀ as bs, (∀ p ∈ s.1.profiles, as.filter (fun c => c.1 = p.name) = bs.filter fun c => c.1 = p.name) →
        run call s as = run call s bs := by
  intro s
  obtain ⟨ns, hready⟩ := setupPipeline_ready hok
  have hr : s.1.Switchable s.2 := hready.switchable
  refine ⟨fun calls => (switched_run hr calls).obeys hr, fun as bs hsame => ?_⟩
  refine (switched_run hr as).unique (switched_run hr bs) fun b hb => ?_
  exact last_congr (hsame b.profile (List.mem_map.mpr ⟨b, hb, rfl⟩))

/-- Two profiles: the first is switched off and on again, the second is left alone. -/
theorem setProfileEnabled_run_two :
    let h := ((ProfileHost.new [{ name := ascii "hd" }, { name := ascii "sd" }]).setVideoSource
      (some .TestVideoSource)).2
    let s := (setupPipeline ⟨fun _ => false, fun _ _ => false⟩ h .init).2
    (setupPipeline ⟨fun _ => false, fun _ _ => false⟩ h .init).1.ok = true ∧
      Obeys s [(ascii "hd", false), (ascii "hd", true)] (run call s [(ascii "hd", false), (ascii "hd", true)]) := by
  intro h s
  have hok : (setupPipeline ⟨fun _ => false, fun _ _ => false⟩ h .init).1.ok = true := by decide +kernel
  exact ⟨hok, (setProfileEnabled_run _ h .init hok).1 _⟩

end

end ProfileHost

end CameraPlatform
