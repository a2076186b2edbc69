import CameraPlatform.GstFrame
import CameraPlatform.Model

/-!
# `ProfileBin` (`server/ProfileBin.cpp`)

One encoded branch. `createElement` either builds `queue ! valve ! scale ! caps-filter ! enc !
app-sink` inside a bin of its own or clears every pointer; which, depends on its calls alone.
-/

namespace CameraPlatform
open ByteString RefHeap

structure ProfileBin where
  profile : ProfileInfo
  bin : Option Nat := none
  valve : Option Nat := none
  appSink : Option Nat := none
deriving DecidableEq

/-- The calls of `createElement` that may fail. -/
inductive BinCall where
  | bin
  | valve
  | appSink
  | queue
  | scale
  | capsFilter
  | enc
  | link
deriving DecidableEq

namespace ProfileBin

def setDrop (b : ProfileBin) (drop : Bool) (g : Gst) : Gst :=
  match b.valve with
  | some valve => g.setObject valve (ascii "drop") (.boolean drop)
  | none => g

def isDropped (b : ProfileBin) (g : Gst) : Bool :=
  match b.valve with
  | some valve => g.prop valve (ascii "drop") == some (.boolean true)
  | none => false

def setState (b : ProfileBin) (state lastError : Bytes) : Bool × ProfileBin :=
  if state ≠ proto.kStateOff ∧ state ≠ proto.kStateReady ∧ state ≠ proto.kStateLive ∧
      state ≠ proto.kStateError then (false, b)
  else (true, { b with profile := { b.profile with state, lastError } })

/-- The caps of the branch's capsfilter. -/
def branchCaps (profile : ProfileInfo) : RawCaps :=
  ⟨ascii "I420", profile.width.toInt32, profile.height.toInt32, profile.fps.toInt32, 1⟩

/-- The properties `createElement` sets. -/
def configure (b : ProfileBin) (appSink capsFilter enc : Nat) (g : Gst) : Gst :=
  let g := g.setObject capsFilter (ascii "caps") (.caps (branchCaps b.profile))
  let g := g.setObject enc (ascii "speed-preset") (.string (ascii "ultrafast"))
  let g := g.setObject enc (ascii "tune") (.string (ascii "zerolatency"))
  let g := g.setObject enc (ascii "key-int-max") (.uint b.profile.fps)
  let g := g.setObject enc (ascii "bitrate") (.uint b.profile.bitrateKbps)
  let g := g.setObject appSink (ascii "emit-signals") (.boolean true)
  b.setDrop false g

/-- The end of `createElement`, after all elements were made and configured. -/
def assemble (fails : Bool) (b : ProfileBin) (bin valve appSink queue scale capsFilter enc : Nat) (g : Gst) :
    Option Nat × ProfileBin × Gst :=
  let g := g.binAddMany bin [queue, valve, scale, capsFilter, enc, appSink]
  let (linked, g) := g.linkMany fails [queue, valve, scale, capsFilter, enc, appSink]
  if linked then
    let g := g.addGhostSink bin queue
    (some bin, b, g.refSink bin)
  else (none, { b with bin := none, valve := none, appSink := none }, g.clearObject b.bin)

def createElement (fails : BinCall → Bool) (b : ProfileBin) (g : Gst) : Option Nat × ProfileBin × Gst :=
  let name := ascii "profile-" ++ b.profile.name
  let (bin, g) := g.binNew (fails .bin) (cStr name)
  let (valve, g) := g.factoryMake (fails .valve) (ascii "valve") (ascii "valve")
  let (appSink, g) := g.factoryMake (fails .appSink) (ascii "appsink") (ascii "app-sink")
  let (queue, g) := g.factoryMake (fails .queue) (ascii "queue") (ascii "queue")
  let (scale, g) := g.factoryMake (fails .scale) (ascii "videoscale") (ascii "scale")
  let (capsFilter, g) := g.factoryMake (fails .capsFilter) (ascii "capsfilter") (ascii "caps-filter")
  let (enc, g) := g.factoryMake (fails .enc) (ascii "x264enc") (ascii "enc")
  let b := { b with bin, valve, appSink }
  match bin, valve, appSink, queue, scale, capsFilter, enc with
  | some bin, some valve, some appSink, some queue, some scale, some capsFilter, some enc =>
    assemble (fails .link) b bin valve appSink queue scale capsFilter enc (b.configure appSink capsFilter enc g)
  | _, _, _, _, _, _, _ =>
    (none, { b with bin := none, valve := none, appSink := none },
      ((g.clearObject bin).clearObject valve).clearObject appSink)

/-! ### What `createElement` builds -/

/-- The seven new objects, from the address of the bin on. -/
def parts (name : Bytes) : List GObject :=
  [{ type := ascii "bin", name }, { type := ascii "valve", name := ascii "valve" },
    { type := ascii "appsink", name := ascii "app-sink" }, { type := ascii "queue", name := ascii "queue" },
    { type := ascii "videoscale", name := ascii "scale" },
    { type := ascii "capsfilter", name := ascii "caps-filter" }, { type := ascii "x264enc", name := ascii "enc" }]

/-- The name of the branch's bin. -/
def binName (profile : ProfileInfo) : Bytes := cStr (ascii "profile-" ++ profile.name)

/-- The branch that was built from the address `n` on: the bin, then its valve and appsink, then
the queue and the other elements. -/
structure Branch (b : ProfileBin) (n : Nat) (g : Gst) : Prop where
  bin : b.bin = some n
  valve : b.valve = some (n + 1)
  appSink : b.appSink = some (n + 2)
  room : n + 7 ≤ g.next
  name : g.name n = binName b.profile
  ghost : (g.obj n).bind (·.ghostSink) = some (n + 3)
  drop : g.prop (n + 1) (ascii "drop") = some (.boolean false)
  sink : ∃ o, g.obj (n + 2) = some o ∧ o.type = ascii "appsink" ∧ o.handlers = []
  chain : ∀ l ∈ [(n + 3, n + 1), (n + 1, n + 4), (n + 4, n + 5), (n + 5, n + 6), (n + 6, n + 2)], l ∈ g.links

section Build
variable {fails : BinCall → Bool} {b : ProfileBin} {g g' : Gst}

theorem Branch.congr {n : Nat} (h : b.Branch n g) (hobj : ∀ x < g.next, g'.obj x = g.obj x)
    (hnext : g.next ≤ g'.next) (hlinks : ∀ l ∈ g.links, l ∈ g'.links) : b.Branch n g' := by
  have hroom := h.room
  refine ⟨h.bin, h.valve, h.appSink, Nat.le_trans h.room hnext, ?_, ?_, ?_, ?_, ?_⟩
  · rw [Gst.name_congr n (hobj n (by omega))]; exact h.name
  · rw [hobj n (by omega)]; exact h.ghost
  · rw [Gst.prop, hobj (n + 1) (by omega)]; exact h.drop
  · rw [hobj (n + 2) (by omega)]; exact h.sink
  · exact fun l hl => hlinks l (h.chain l hl)

theorem Branch.mono {n : Nat} (h : b.Branch n g) (hg : g.Grew g') : b.Branch n g' :=
  h.congr (fun _ hx => hg.obj_eq hx) hg.next_le hg.links

theorem createElement_made (h : ∀ c, c ≠ .link → fails c = false) :
    createElement fails b g =
      let b := { b with bin := some g.next, valve := some (g.next + 1), appSink := some (g.next + 2) }
      assemble (fails .link) b g.next (g.next + 1) (g.next + 2) (g.next + 3) (g.next + 4) (g.next + 5)
        (g.next + 6) (b.configure (g.next + 2) (g.next + 5) (g.next + 6) (g.allocAll (parts (binName b.profile)))) := by
  simp only [createElement, Gst.binNew, Gst.factoryMake, h .bin (by decide), h .valve (by decide),
    h .appSink (by decide), h .queue (by decide), h .scale (by decide), h .capsFilter (by decide),
    h .enc (by decide), Bool.false_eq_true, if_false, Gst.next_alloc]
  rfl

theorem createElement_unmade (h : ∃ c, c ≠ .link ∧ fails c = true) :
    (createElement fails b g).1 = none ∧
    (createElement fails b g).2.1 = { b with bin := none, valve := none, appSink := none } := by
  unfold createElement
  simp only
  split
  · next h0 h1 h2 h3 h4 h5 h6 =>
    obtain ⟨c, hc, hf⟩ := h
    cases c <;> simp [Gst.factoryMake, Gst.binNew, hf] at h0 h1 h2 h3 h4 h5 h6 hc
  · exact ⟨rfl, rfl⟩

section
variable {P : Gst → Prop} {appSink capsFilter enc : Nat}

/-- `configure` only sets properties, the caps of the filter first and never again. -/
theorem configure_rule (hset : ∀ g r key v, key ≠ ascii "caps" → P g → P (g.setObject r key v)) (b : ProfileBin)
    (hcaps : P (g.setObject capsFilter (ascii "caps") (.caps (branchCaps b.profile)))) :
    P (b.configure appSink capsFilter enc g) := by
  have hspeed := hset _ enc (ascii "speed-preset") (.string (ascii "ultrafast")) (by decide) hcaps
  have htune := hset _ enc (ascii "tune") (.string (ascii "zerolatency")) (by decide) hspeed
  have hkey := hset _ enc (ascii "key-int-max") (.uint b.profile.fps) (by decide) htune
  have hrate := hset _ enc (ascii "bitrate") (.uint b.profile.bitrateKbps) (by decide) hkey
  have hsignals := hset _ appSink (ascii "emit-signals") (.boolean true) (by decide) hrate
  unfold configure setDrop
  cases b.valve with
  | none => exact hsignals
  | some valve => exact hset _ valve (ascii "drop") (.boolean false) (by decide) hsignals

theorem configure_invariant (hset : ∀ g r key v, P g → P (g.setObject r key v)) (h : P g) (b : ProfileBin)
    (appSink capsFilter enc : Nat) : P (b.configure appSink capsFilter enc g) :=
  configure_rule (fun g r key v _ => hset g r key v) b (hset _ _ _ _ h)

end

theorem setOnly_configure (b : ProfileBin) (appSink capsFilter enc : Nat) (g : Gst) :
    g.SetOnly (b.configure appSink capsFilter enc g) :=
  configure_invariant (fun _ r key v h => h.setObject r key v) .refl b appSink capsFilter enc

/-- `configure` leaves the branch open. -/
theorem prop_configure {valve : Nat} (hb : b.valve = some valve) {o : GObject} (ho : g.obj valve = some o)
    (appSink capsFilter enc : Nat) :
    (b.configure appSink capsFilter enc g).prop valve (ascii "drop") = some (.boolean false) := by
  obtain ⟨props, hx⟩ := (setOnly_configure { b with valve := none } appSink capsFilter enc g).obj valve o ho
  have hdrop : b.configure appSink capsFilter enc g =
      (({ b with valve := none } : ProfileBin).configure appSink capsFilter enc g).setObject valve
        (ascii "drop") (.boolean false) := by
    unfold configure setDrop
    rw [hb]
  rw [hdrop, Gst.prop_setObject, if_pos ⟨rfl, rfl, by rw [hx]; rfl⟩]

/-- The elements of a new branch can all be put into its bin. -/
theorem fits_parts (name : Bytes) (hg : (g.allocAll (parts name)).SetOnly g') :
    g'.Fits g.next [g.next + 3, g.next + 1, g.next + 4, g.next + 5, g.next + 6, g.next + 2] := by
  have hnext : g'.next = g.next + 7 := hg.next.trans (Gst.next_allocAll _)
  have howner : ∀ x, g'.owner x = g.owner x := fun x => (hg.owner x).trans (Gst.owner_allocAll _ x)
  have hname : ∀ k, (hk : k < 7) → g'.name (g.next + k) = ((parts name)[k]).name := by
    intro k hk
    have hobj := Gst.obj_allocAll (g := g) (parts name) hk
    rw [List.getElem?_eq_getElem hk] at hobj
    exact hg.name hobj
  refine ⟨by omega, ?_, ?_, ?_, ?_, ?_⟩
  · simp; omega
  · simp
  · intro e he
    rw [howner]
    refine Gst.owner_eq_none ?_
    simp at he; omega
  · simp only [List.map_cons, List.map_nil, hname 3 (by decide), hname 1 (by decide), hname 4 (by decide),
      hname 5 (by decide), hname 6 (by decide), hname 2 (by decide)]
    exact (by decide : [ascii "queue", ascii "valve", ascii "scale", ascii "caps-filter", ascii "enc",
      ascii "app-sink"].Nodup)
  · intro r hr
    rw [howner] at hr
    exact absurd (Gst.owner_lt_next hr) (Nat.lt_irrefl _)

/-- Elements that fit into the bin end up linked there, behind its ghost pad. -/
theorem assemble_ok {bin valve appSink queue scale capsFilter enc : Nat}
    (h : g.Fits bin [queue, valve, scale, capsFilter, enc, appSink]) :
    ∃ g', assemble false b bin valve appSink queue scale capsFilter enc g = (some bin, b, g') ∧
      g'.next = g.next ∧ g'.failures = g.failures ∧
      (∀ x, g'.owner x = if x ∈ [queue, valve, scale, capsFilter, enc, appSink] then some bin else g.owner x) ∧
      g'.links = g.links ++
        [(queue, valve), (valve, scale), (scale, capsFilter), (capsFilter, enc), (enc, appSink)] ∧
      ∀ x, g'.obj x =
        if x = bin then (g.obj x).map fun o => { o with ghostSink := some queue } else g.obj x := by
  obtain ⟨howner, hfail, hlinks⟩ := Gst.binAddMany_spec h
  have hlink := @Gst.linkPairs_eq _ bin [queue, valve, scale, capsFilter, enc, appSink]
    fun e he => (howner e).trans (if_pos he)
  generalize hg : g.binAddMany bin [queue, valve, scale, capsFilter, enc, appSink] = g3 at *
  refine ⟨(Gst.addGhostSink { g3 with links := g3.links ++ [(queue, valve),
    (valve, scale), (scale, capsFilter), (capsFilter, enc), (enc, appSink)] } bin queue).refSink bin,
    ?_, ?_, ?_, ?_, ?_, ?_⟩
  · unfold assemble Gst.linkMany
    simp only [hg, hlink, Bool.false_eq_true, if_false, if_true]
    rfl
  · rw [Gst.next_refSink]
    unfold Gst.addGhostSink
    rw [Gst.next_update]
    exact hg ▸ Gst.next_binAddMany ..
  · exact hfail
  · intro x
    rw [Gst.owner_refSink]
    unfold Gst.addGhostSink
    rw [Gst.owner_update]
    exact howner x
  · exact congrArg (· ++ _) hlinks
  · intro x
    rw [Gst.obj_refSink]
    unfold Gst.addGhostSink
    rw [Gst.obj_update]
    show (if x = bin then (g3.obj x).map _ else g3.obj x) = _
    rw [← hg, Gst.obj_binAddMany]

/-- With no failing call the branch is built, from new objects only. -/
theorem createElement_ok (h : ∀ c, fails c = false) :
    ∃ b' g', createElement fails b g = (some g.next, b', g') ∧ b'.profile = b.profile ∧
      b'.Branch g.next g' ∧ g'.failures = g.failures ∧ g'.owner g.next = none ∧
      ∀ x p, g'.owner x = some p → g.owner x = some p ∨ p = g.next := by
  rw [createElement_made fun c _ => h c, h .link]
  simp only
  generalize hb1 : ({ b with bin := some g.next, valve := some (g.next + 1), appSink := some (g.next + 2) } :
    ProfileBin) = b1
  generalize hg1 : g.allocAll (parts (binName b.profile)) = g1
  generalize hg2 : b1.configure (g.next + 2) (g.next + 5) (g.next + 6) g1 = g2
  have hset : g1.SetOnly g2 := by rw [← hg2]; exact setOnly_configure ..
  have hfits := fits_parts (binName b.profile) (by rw [hg1]; exact hset)
  have hmade : ∀ k, (hk : k < 7) → g1.obj (g.next + k) = some (parts (binName b.profile))[k] := by
    intro k hk
    rw [← hg1, Gst.obj_allocAll _ hk, List.getElem?_eq_getElem hk]
  obtain ⟨g', hres, hnext, hfail, howner, hlinks, hobj⟩ := assemble_ok (b := b1) hfits
  have hnext2 : g'.next = g.next + 7 := by rw [hnext, hset.next, ← hg1, Gst.next_allocAll]; rfl
  obtain ⟨props, hbin⟩ := hset.obj g.next _ (hmade 0 (by decide))
  obtain ⟨props', hsink⟩ := hset.obj _ _ (hmade 2 (by decide))
  have hdrop : g2.prop (g.next + 1) (ascii "drop") = some (.boolean false) := by
    rw [← hg2]
    exact prop_configure (by rw [← hb1]) (hmade 1 (by decide)) ..
  have hother : ∀ k, k ≠ 0 → g'.obj (g.next + k) = g2.obj (g.next + k) := by
    intro k hk
    rw [hobj, if_neg (by omega)]
  have hself : g'.obj g.next = (g2.obj g.next).map fun o => { o with ghostSink := some (g.next + 3) } := by
    rw [hobj, if_pos rfl]
  have hold : ∀ x, g2.owner x = g.owner x := by
    intro x
    rw [hset.owner, ← hg1, Gst.owner_allocAll]
  refine ⟨b1, g', hres, by rw [← hb1], ⟨by rw [← hb1], by rw [← hb1], by rw [← hb1], ?_, ?_, ?_, ?_, ?_, ?_⟩,
    ?_, ?_, ?_⟩
  · omega
  · rw [Gst.name, hself, hbin, ← hb1]; rfl
  · rw [hself, hbin]; rfl
  · rw [Gst.prop, hother 1 (by decide)]; exact hdrop
  · exact ⟨_, (hother 2 (by decide)).trans hsink, rfl, rfl⟩
  · intro l hl
    rw [hlinks]
    exact List.mem_append_right _ hl
  · rw [hfail, hset.failures, ← hg1, Gst.failures_allocAll]
  · rw [howner, if_neg (by simp), hold]
    exact Gst.owner_eq_none (Nat.le_refl _)
  · intro x p hp
    rw [howner] at hp
    split at hp
    · exact .inr (Option.some.inj hp).symm
    · exact .inl ((hold x).symm.trans hp)

/-! ### What it leaves alone, and how it fails -/

theorem grew_setDrop {g₀ : Gst} (h : g₀.Grew g) (hb : ∀ r ∈ b.valve, g₀.next ≤ r) (drop : Bool) :
    g₀.Grew (b.setDrop drop g) := by
  unfold setDrop
  cases hv : b.valve with
  | none => exact h
  | some valve => exact h.setObject (hb valve hv) ..

theorem grew_configure {g₀ : Gst} (h : g₀.Grew g) (hb : ∀ r ∈ b.valve, g₀.next ≤ r) {appSink capsFilter enc : Nat}
    (ha : g₀.next ≤ appSink) (hc : g₀.next ≤ capsFilter) (he : g₀.next ≤ enc) :
    g₀.Grew (b.configure appSink capsFilter enc g) :=
  grew_setDrop ((((((h.setObject hc _ _).setObject he _ _).setObject he _ _).setObject he _ _).setObject he _
    _).setObject ha _ _) hb false

theorem grew_assemble {g₀ : Gst} (h : g₀.Grew g) {fails : Bool}
    {bin valve appSink queue scale capsFilter enc : Nat} (hb : ∀ r ∈ b.bin, g₀.next ≤ r) (hbin : g₀.next ≤ bin)
    (hes : ∀ e ∈ [queue, valve, scale, capsFilter, enc, appSink], g₀.next ≤ e) :
    g₀.Grew (assemble fails b bin valve appSink queue scale capsFilter enc g).2.2 := by
  have hlinked := (h.binAddMany bin hes).linkMany fails [queue, valve, scale, capsFilter, enc, appSink]
  unfold assemble
  simp only
  split
  · exact (hlinked.update hbin _).refSink hbin
  · exact hlinked.clearObject hb

/-- Whatever fails, no object that existed before is touched. -/
theorem grew_createElement : g.Grew (createElement fails b g).2.2 := by
  unfold createElement
  simp only
  have h0 := Gst.Grew.refl (g := g)
  have r1 := h0.factoryMake_le (fails .bin) (ascii "bin") (cStr (ascii "profile-" ++ b.profile.name))
  have h1 := h0.factoryMake (fails .bin) (ascii "bin") (cStr (ascii "profile-" ++ b.profile.name))
  have r2 := h1.factoryMake_le (fails .valve) (ascii "valve") (ascii "valve")
  have h2 := h1.factoryMake (fails .valve) (ascii "valve") (ascii "valve")
  have r3 := h2.factoryMake_le (fails .appSink) (ascii "appsink") (ascii "app-sink")
  have h3 := h2.factoryMake (fails .appSink) (ascii "appsink") (ascii "app-sink")
  have r4 := h3.factoryMake_le (fails .queue) (ascii "queue") (ascii "queue")
  have h4 := h3.factoryMake (fails .queue) (ascii "queue") (ascii "queue")
  have r5 := h4.factoryMake_le (fails .scale) (ascii "videoscale") (ascii "scale")
  have h5 := h4.factoryMake (fails .scale) (ascii "videoscale") (ascii "scale")
  have r6 := h5.factoryMake_le (fails .capsFilter) (ascii "capsfilter") (ascii "caps-filter")
  have h6 := h5.factoryMake (fails .capsFilter) (ascii "capsfilter") (ascii "caps-filter")
  have r7 := h6.factoryMake_le (fails .enc) (ascii "x264enc") (ascii "enc")
  have h7 := h6.factoryMake (fails .enc) (ascii "x264enc") (ascii "enc")
  split
  · next e1 e2 e3 e4 e5 e6 e7 =>
    refine grew_assemble (grew_configure h7 ?_ (r3 _ e3) (r6 _ e6) (r7 _ e7)) ?_ (r1 _ e1) ?_
    · exact r2
    · exact r1
    · simp only [List.mem_cons, List.not_mem_nil, or_false]
      rintro e (rfl | rfl | rfl | rfl | rfl | rfl)
      · exact r4 _ e4
      · exact r2 _ e2
      · exact r5 _ e5
      · exact r6 _ e6
      · exact r7 _ e7
      · exact r3 _ e3
  · exact ((h7.clearObject r1).clearObject r2).clearObject r3

/-- With a failing call every pointer ends up null. -/
theorem createElement_error (h : ∃ c, fails c = true) :
    (createElement fails b g).1 = none ∧
    (createElement fails b g).2.1 = { b with bin := none, valve := none, appSink := none } ∧
    g.failures < (createElement fails b g).2.2.failures := by
  by_cases hmade : ∀ c, c ≠ .link → fails c = false
  · -- only the link of the branch is left to fail
    obtain ⟨c, hc⟩ := h
    have hlink : fails .link = true := by
      by_cases hcl : c = .link
      · rw [← hcl]; exact hc
      · rw [hmade c hcl] at hc; cases hc
    rw [createElement_made hmade, hlink]
    refine ⟨rfl, rfl, ?_⟩
    have hset := setOnly_configure
      { b with bin := some g.next, valve := some (g.next + 1), appSink := some (g.next + 2) }
      (g.next + 2) (g.next + 5) (g.next + 6) (g.allocAll (parts (binName b.profile)))
    obtain ⟨-, hfail, -⟩ := Gst.binAddMany_spec (fits_parts (binName b.profile) hset)
    simp only [assemble, Gst.linkMany, if_true, Bool.false_eq_true, if_false, Gst.failures_clearObject]
    show _ < Gst.failures _ + 1
    rw [hfail, hset.failures, Gst.failures_allocAll]
    exact Nat.lt_succ_self _
  · obtain ⟨c, hc⟩ := not_forall.mp hmade
    obtain ⟨hcl, hf⟩ : c ≠ .link ∧ fails c = true := by simpa using hc
    refine ⟨(createElement_unmade ⟨c, hcl, hf⟩).1, (createElement_unmade ⟨c, hcl, hf⟩).2, ?_⟩
    unfold createElement
    simp only
    split
    · next h0 h1 h2 h3 h4 h5 h6 =>
      cases c <;> simp [Gst.factoryMake, Gst.binNew, hf] at h0 h1 h2 h3 h4 h5 h6 hcl
    · simp only [Gst.failures_clearObject, Gst.binNew, Gst.failures_factoryMake]
      have hone : (fails c).toNat = 1 := by rw [hf]; rfl
      cases c
      all_goals first
        | exact absurd rfl hcl
        | omega

end Build

end ProfileBin

end CameraPlatform
