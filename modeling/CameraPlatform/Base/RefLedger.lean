import CameraPlatform.Base.RefHeap
import Mathlib.Data.List.Nodup

/-!
# Ledgers of references

A ledger accounts for every reference to the tracked objects of a heap: each one is either listed as
held from outside or held by the owner of the object. While the ledger is kept, no tracked object
loses a reference it does not have, and once nothing is held from outside all of them are released.
-/

namespace RefHeap

namespace Heap

variable {α : Type}

def refs (h : Heap α) (r : Nat) : Nat := ((h.get r).map (·.refs)).getD 0

def floating (h : Heap α) (r : Nat) : Bool := ((h.get r).map (·.floating)).getD false

/-! ### What the operations do to the counts -/

section Counts
variable {h : Heap α} {r x : Nat}

theorem exists_of_lt (hr : r < h.next) : ∃ c, h.get r = some c := ⟨_, List.getElem?_eq_getElem hr⟩

theorem alive_iff : h.alive r = true ↔ 0 < h.refs r := by
  unfold alive refs
  cases h.get r <;> simp

theorem refs_eq_zero (hr : h.next ≤ r) : h.refs r = 0 := by
  rw [refs, get_eq_none hr]; rfl

theorem lt_of_refs (hr : 0 < h.refs r) : r < h.next := by
  by_contra hle
  rw [refs_eq_zero (Nat.le_of_not_lt hle)] at hr
  exact Nat.lt_irrefl 0 hr

theorem refs_alloc (fl : Bool) (a : α) (x : Nat) : (h.alloc fl a).refs x = if x = h.next then 1 else h.refs x := by
  rw [refs, get_alloc]
  split <;> rfl

theorem refs_modify (r : Nat) (f : Cell α → Cell α) (hf) (n : Cell α → Nat) (hn : ∀ c, (f c).refs = n c) (x : Nat) :
    (h.modify r f hf).refs x = if x = r then ((h.get x).map n).getD 0 else h.refs x := by
  rw [refs, get_modify]
  split
  · rw [Option.map_map]
    exact congrArg (fun o => (Option.map o _).getD 0) (funext hn)
  · rfl

@[simp] theorem refs_update (r : Nat) (f : α → α) (x : Nat) : (h.update r f).refs x = h.refs x := by
  unfold update
  rw [refs_modify r _ _ (·.refs) fun _ => by rfl]
  split <;> rfl

theorem refs_ref (hr : r < h.next) (x : Nat) : (h.ref r).refs x = h.refs x + if x = r then 1 else 0 := by
  unfold ref
  rw [refs_modify r _ _ (·.refs + 1) fun _ => by rfl]
  split
  · next hx =>
    obtain ⟨c, hc⟩ := exists_of_lt hr
    rw [refs, hx, hc]; rfl
  · rfl

theorem refs_drop (r x : Nat) : (h.drop r).refs x = h.refs x - if x = r then 1 else 0 := by
  unfold drop
  rw [refs_modify r _ _ (·.refs - 1) fun _ => by rfl]
  split
  · rw [refs]
    cases h.get x <;> rfl
  · rfl

theorem refs_refSink (hr : r < h.next) (x : Nat) :
    (h.refSink r).refs x = h.refs x + if x = r ∧ h.floating r = false then 1 else 0 := by
  unfold refSink
  rw [refs_modify r _ _ (fun c => if c.floating then c.refs else c.refs + 1) fun c => by split <;> rfl]
  obtain ⟨c, hc⟩ := exists_of_lt hr
  split
  · next hx =>
    rw [hx, refs, floating, hc]
    cases hfl : c.floating <;> simp [hfl]
  · next hx => simp [hx]

@[simp] theorem refs_setOwner (p r x : Nat) : (h.setOwner p r).refs x = h.refs x := by
  unfold setOwner
  split
  · rw [refs_modify r _ _ (·.refs) fun _ => by rfl]
    split <;> rfl
  · rfl

@[simp] theorem refs_orphan (p x : Nat) : (h.orphan p).refs x = h.refs x := by
  rw [refs, get_orphan, refs, Option.map_map]
  exact congrArg (fun o => (Option.map o _).getD 0) (funext fun c => by simp only [Function.comp]; split <;> rfl)

@[simp] theorem refs_misuse (r x : Nat) : (h.misuse r).refs x = h.refs x := rfl

@[simp] theorem owner_misuse (r x : Nat) : (h.misuse r).owner x = h.owner x := rfl

theorem owner_orphan (p x : Nat) : (h.orphan p).owner x = if h.owner x = some p then none else h.owner x := by
  rw [owner, get_orphan, owner]
  cases h.get x with
  | none => rfl
  | some c =>
    by_cases hc : c.owner = some p <;> simp [hc]

theorem floating_alloc (fl : Bool) (a : α) (x : Nat) :
    (h.alloc fl a).floating x = if x = h.next then fl else h.floating x := by
  rw [floating, get_alloc]
  split <;> rfl

theorem floating_modify (r : Nat) (f : Cell α → Cell α) (hf) {x : Nat}
    (hfl : x = r → ∀ c, (f c).floating = c.floating) : (h.modify r f hf).floating x = h.floating x := by
  rw [floating, get_modify]
  split
  · next hx =>
    rw [Option.map_map]
    exact congrArg (fun o => (Option.map o _).getD false) (funext (hfl hx))
  · rfl

@[simp] theorem floating_update (r : Nat) (f : α → α) (x : Nat) : (h.update r f).floating x = h.floating x := by
  unfold update
  exact floating_modify r _ _ fun _ _ => by rfl

@[simp] theorem floating_setOwner (p r x : Nat) : (h.setOwner p r).floating x = h.floating x := by
  unfold setOwner
  split
  · exact floating_modify r _ _ fun _ _ => by rfl
  · rfl

theorem floating_refSink_of_ne (hx : x ≠ r) : (h.refSink r).floating x = h.floating x := by
  unfold refSink
  exact floating_modify r _ _ fun heq => absurd heq hx

theorem floating_refSink_self (r : Nat) : (h.refSink r).floating r = false := by
  unfold refSink
  rw [floating, get_modify, if_pos rfl, Option.map_map]
  cases h.get r with
  | none => rfl
  | some c => cases hc : c.floating <;> simp [hc]

end Counts

/-! ### The ledger -/

/-- An address from `b` on whose object, if there is one, meets `t`. -/
def Tracked (t : α → Prop) (b : Nat) (h : Heap α) (r : Nat) : Prop := b ≤ r ∧ ∀ a, h.data r = some a → t a

/-- The references to the tracked objects made since `h₀`: those held from outside and one for each
owned object. Being owned leads to an object nobody owns. -/
structure Ledger (t : α → Prop) (h₀ h : Heap α) (held : List Nat) : Prop where
  next_le : h₀.next ≤ h.next
  lt : ∀ r ∈ held, r < h.next
  refs : ∀ r, h.Tracked t h₀.next r → h.refs r = held.count r + (h.owner r).isSome.toNat
  owner : ∀ r p, h.Tracked t h₀.next r → h.owner r = some p → h.Tracked t h₀.next p ∧ 0 < h.refs p
  acc : ∀ r, h.Tracked t h₀.next r → Acc (fun p x => h.owner x = some p) r
  misused : ∀ r, h.Tracked t h₀.next r → h.misused.count r = h₀.misused.count r

namespace Ledger

variable {t : α → Prop} {h₀ h h' : Heap α} {held held' : List Nat} {r p : Nat}

theorem refl : Ledger t h₀ h₀ [] := by
  have hnone : ∀ r, h₀.Tracked t h₀.next r → h₀.owner r = none := fun r hr => owner_eq_none hr.1
  refine ⟨Nat.le_refl _, by simp, fun r hr => ?_, fun r p hr hp => ?_, fun r hr => ?_, fun _ _ => rfl⟩
  · rw [refs_eq_zero hr.1, hnone r hr]; rfl
  · rw [hnone r hr] at hp; cases hp
  · exact ⟨_, fun p hp => by rw [hnone r hr] at hp; cases hp⟩

/-- The list may name the references in any order, and untracked ones or not. -/
theorem congr (h : Ledger t h₀ h' held) (hlt : ∀ r ∈ held', r < h'.next)
    (hcount : ∀ r, h'.Tracked t h₀.next r → held'.count r = held.count r) : Ledger t h₀ h' held' :=
  ⟨h.next_le, hlt, fun r hr => by rw [hcount r hr]; exact h.refs r hr, h.owner, h.acc, h.misused⟩

theorem perm (h : Ledger t h₀ h' held) (hperm : held.Perm held') : Ledger t h₀ h' held' :=
  h.congr (fun r hr => h.lt r (hperm.mem_iff.mpr hr)) fun r _ => (hperm.count_eq r).symm

/-- An untracked reference need not be listed. -/
theorem untracked_iff (hr : ¬ h'.Tracked t h₀.next r) (hlt : r < h'.next) :
    Ledger t h₀ h' (r :: held) ↔ Ledger t h₀ h' held := by
  have hcount : ∀ x, h'.Tracked t h₀.next x → (r :: held).count x = held.count x := fun x hx =>
    List.count_cons_of_ne fun heq => hr (by rw [heq]; exact hx)
  refine ⟨fun h => h.congr (fun x hx => h.lt x (List.mem_cons_of_mem _ hx)) fun x hx => (hcount x hx).symm,
    fun h => h.congr (fun x hx => ?_) hcount⟩
  rcases List.mem_cons.mp hx with rfl | hx
  · exact hlt
  · exact h.lt x hx

theorem pos (h : Ledger t h₀ h' held) (hr : r ∈ held) (ht : h'.Tracked t h₀.next r) : 0 < h'.refs r := by
  rw [h.refs r ht]
  exact Nat.add_pos_left (List.count_pos_iff.mpr hr) _

/-- A step that keeps all owners. -/
theorem keep (h : Ledger t h₀ h' held) {h'' : Heap α} (hnext : h'.next ≤ h''.next) (hlt : ∀ r ∈ held', r < h''.next)
    (hold : ∀ r, h''.Tracked t h₀.next r → h'.Tracked t h₀.next r)
    (hnew : ∀ r < h'.next, h'.Tracked t h₀.next r → h''.Tracked t h₀.next r) (howner : ∀ r, h''.owner r = h'.owner r)
    (hrefs : ∀ r, h'.Tracked t h₀.next r → h''.refs r + held.count r = h'.refs r + held'.count r)
    (hpos : ∀ r x, h'.Tracked t h₀.next x → h'.owner x = some r → 0 < h''.refs r)
    (hmisused : ∀ r, h'.Tracked t h₀.next r → h''.misused.count r = h'.misused.count r) :
    Ledger t h₀ h'' held' := by
  refine ⟨Nat.le_trans h.next_le hnext, hlt, fun r hr => ?_, fun r p hr hp => ?_, fun r hr => ?_, fun r hr => ?_⟩
  · have h1 := hrefs r (hold r hr)
    have h2 := h.refs r (hold r hr)
    rw [howner]
    omega
  · rw [howner] at hp
    exact ⟨hnew p (owner_lt_next hp) (h.owner r p (hold r hr) hp).1, hpos p r (hold r hr) hp⟩
  · rw [funext howner]
    exact h.acc r (hold r hr)
  · exact (hmisused r (hold r hr)).trans (h.misused r (hold r hr))

theorem tracked_congr {h'' : Heap α} (hdata : ∀ x, h''.data x = h'.data x) (r : Nat) :
    h''.Tracked t h₀.next r ↔ h'.Tracked t h₀.next r := by
  unfold Tracked
  rw [hdata]

/-- A step that keeps the objects, their owners and what was misused. -/
theorem count (h : Ledger t h₀ h' held) {h'' : Heap α} (hnext : h''.next = h'.next) (hlt : ∀ r ∈ held', r < h'.next)
    (hdata : ∀ x, h''.data x = h'.data x) (howner : ∀ r, h''.owner r = h'.owner r)
    (hmisused : h''.misused = h'.misused)
    (hrefs : ∀ r, h'.Tracked t h₀.next r → h''.refs r + held.count r = h'.refs r + held'.count r)
    (hpos : ∀ r, 0 < h'.refs r → 0 < h''.refs r) : Ledger t h₀ h'' held' :=
  h.keep (Nat.le_of_eq hnext.symm) (fun r hr => hnext ▸ hlt r hr) (fun r => (tracked_congr hdata r).mp)
    (fun r _ => (tracked_congr hdata r).mpr) howner hrefs
    (fun r x hx hr => hpos r (h.owner x r hx hr).2) fun r _ => by rw [hmisused]

/-! ### Objects -/

theorem tracked_alloc (fl : Bool) {a : α} :
    (h'.alloc fl a).Tracked t h₀.next r ↔ h'.Tracked t h₀.next r ∧ (r = h'.next → t a) := by
  unfold Tracked
  rw [data_alloc]
  split
  · next hr =>
    have hnone : h'.data r = none := by rw [data, get_eq_none (Nat.le_of_eq hr.symm)]; rfl
    simp [hr]
    intro _ _
    simp [← hr, hnone]
  · next hr => simp [hr]

theorem not_mem_next (h : Ledger t h₀ h' held) : h'.next ∉ held := fun hmem => Nat.lt_irrefl _ (h.lt _ hmem)

/-- A new object, whose reference is listed if it is tracked. -/
theorem alloc (h : Ledger t h₀ h' held) (fl : Bool) {a : α} (ha : t a) :
    Ledger t h₀ (h'.alloc fl a) (h'.next :: held) := by
  refine h.keep (by simp) (fun r hr => ?_) (fun r hr => ((tracked_alloc fl).mp hr).1)
    (fun r _ hr => (tracked_alloc fl).mpr ⟨hr, fun _ => ha⟩) (owner_alloc fl a) (fun r _ => ?_) (fun r x hx hr => ?_)
    fun r _ => rfl
  · rcases List.mem_cons.mp hr with rfl | hr
    · simp
    · exact Nat.lt_of_lt_of_le (h.lt r hr) (by simp)
  · rw [refs_alloc]
    split
    · next hr =>
      rw [hr, refs_eq_zero (Nat.le_refl _), List.count_cons_self, List.count_eq_zero_of_not_mem h.not_mem_next]
    · next hr => rw [List.count_cons_of_ne (Ne.symm hr)]
  · rw [refs_alloc, if_neg (Nat.ne_of_lt (owner_lt_next hr))]
    exact (h.owner x r hx hr).2

theorem alloc_untracked (h : Ledger t h₀ h' held) (fl : Bool) {a : α} (ha : ¬ t a) :
    Ledger t h₀ (h'.alloc fl a) held := by
  have hne : ∀ {r}, r < h'.next → r ≠ h'.next := fun hr => Nat.ne_of_lt hr
  refine ⟨Nat.le_trans h.next_le (by simp), fun r hr => Nat.lt_of_lt_of_le (h.lt r hr) (by simp), fun r hr => ?_,
    fun r p hr hp => ?_, fun r hr => ?_, fun r hr => h.misused r ((tracked_alloc fl).mp hr).1⟩
  · obtain ⟨hr, hnew⟩ := (tracked_alloc fl).mp hr
    rw [refs_alloc, if_neg fun heq => ha (hnew heq), owner_alloc]
    exact h.refs r hr
  · rw [owner_alloc] at hp
    obtain ⟨hp', hpos⟩ := h.owner r p ((tracked_alloc fl).mp hr).1 hp
    have hlt := hne (owner_lt_next hp)
    exact ⟨(tracked_alloc fl).mpr ⟨hp', fun heq => absurd heq hlt⟩, by rw [refs_alloc, if_neg hlt]; exact hpos⟩
  · rw [funext (owner_alloc fl a)]
    exact h.acc r ((tracked_alloc fl).mp hr).1

/-- A write that an object is tracked after if it was before. -/
theorem update (h : Ledger t h₀ h' held) (r : Nat) {f : α → α} (hf : ∀ a, t (f a) ↔ t a) :
    Ledger t h₀ (h'.update r f) held := by
  have htracked : ∀ x, (h'.update r f).Tracked t h₀.next x ↔ h'.Tracked t h₀.next x := by
    intro x
    unfold Tracked
    rw [data_update]
    split
    · cases h'.data x <;> simp [hf]
    · rfl
  exact h.keep (by simp) (by simpa using h.lt) (fun x => (htracked x).mp) (fun x _ => (htracked x).mpr)
    (owner_update r f) (fun x _ => by rw [refs_update])
    (fun x y hy hx => by rw [refs_update]; exact (h.owner y x hy hx).2) fun _ _ => rfl

/-! ### References -/

theorem ref (h : Ledger t h₀ h' held) (hr : r < h'.next) : Ledger t h₀ (h'.ref r) (r :: held) := by
  refine h.count (next_ref r) (fun x hx => ?_) (data_ref r) (owner_ref r) rfl (fun x _ => ?_) fun x hx => ?_
  · rcases List.mem_cons.mp hx with rfl | hx
    · exact hr
    · exact h.lt x hx
  · rw [refs_ref hr, List.count_cons]
    by_cases hx : x = r
    · simp [hx]; omega
    · simp [hx, Ne.symm hx]
  · rw [refs_ref hr]; omega

/-- Sinking a floating reference makes no new one. -/
theorem refSink_floating (h : Ledger t h₀ h' held) (hr : r < h'.next) (hfl : h'.floating r = true) :
    Ledger t h₀ (h'.refSink r) held := by
  have hrefs : ∀ x, (h'.refSink r).refs x = h'.refs x := fun x => by rw [refs_refSink hr, if_neg (by simp [hfl])]; rfl
  exact h.count (next_refSink r) h.lt (data_refSink r) (owner_refSink r) rfl (fun x _ => by rw [hrefs])
    fun x hx => by rw [hrefs]; exact hx

theorem refSink_sunk (h : Ledger t h₀ h' held) (hr : r < h'.next) (hfl : h'.floating r = false) :
    Ledger t h₀ (h'.refSink r) (r :: held) := by
  have hrefs : ∀ x, (h'.refSink r).refs x = (h'.ref r).refs x := fun x => by
    rw [refs_refSink hr, refs_ref hr]
    by_cases hx : x = r <;> simp [hx, hfl]
  have href := h.ref hr
  exact h.count (next_refSink r) (fun x hx => by simpa using href.lt x hx) (data_refSink r) (owner_refSink r) rfl
    (fun x hx => by
      have := href.refs x ((tracked_congr (data_ref r) x).mpr hx)
      have := h.refs x hx
      rw [hrefs]
      rw [owner_ref] at *
      omega)
    fun x hx => by rw [hrefs, refs_ref hr]; omega

/-- A held reference becomes that of an owner, which the object does not own in turn. -/
theorem setOwner_of_acc (h : Ledger t h₀ h' (r :: held)) (hp : h'.Tracked t h₀.next p) (hfree : h'.owner r = none)
    (hpos : 0 < h'.refs p) (hpacc : Acc (fun q x => (h'.setOwner p r).owner x = some q) p) :
    Ledger t h₀ (h'.setOwner p r) held := by
  have howner := owner_setOwner (lt_of_refs hpos) (h.lt r (by simp))
  have htracked : ∀ x, (h'.setOwner p r).Tracked t h₀.next x ↔ h'.Tracked t h₀.next x :=
    tracked_congr (data_setOwner p r)
  refine ⟨by simpa using h.next_le, fun x hx => by simpa using h.lt x (List.mem_cons_of_mem _ hx), fun x hx => ?_,
    fun x q hx hq => ?_, fun x hx => ?_, fun x hx => ?_⟩
  · have := h.refs x ((htracked x).mp hx)
    rw [refs_setOwner, howner, this]
    split
    · next hxr => rw [hxr, hfree, List.count_cons_self]; rfl
    · next hxr => rw [List.count_cons_of_ne (Ne.symm hxr)]
  · rw [howner] at hq
    rw [htracked, refs_setOwner]
    split at hq
    · obtain rfl := Option.some.inj hq
      exact ⟨hp, hpos⟩
    · exact h.owner x q ((htracked x).mp hx) hq
  · have hacc := h.acc x ((htracked x).mp hx)
    clear hx
    induction hacc with
    | intro x _ ih =>
      refine ⟨_, fun q hq => ?_⟩
      rw [howner] at hq
      split at hq
      · obtain rfl := Option.some.inj hq
        exact hpacc
      · exact ih q hq
  · rw [← h.misused x ((htracked x).mp hx)]
    unfold Heap.setOwner
    split <;> rfl

/-- The owner is an object that nobody owns. -/
theorem setOwner (h : Ledger t h₀ h' (r :: held)) (hp : h'.Tracked t h₀.next p)
    (hne : p ≠ r) (hfree : h'.owner r = none) (hroot : h'.owner p = none) (hmem : p ∈ held) :
    Ledger t h₀ (h'.setOwner p r) held := by
  have hpos := h.pos (List.mem_cons_of_mem _ hmem) hp
  refine h.setOwner_of_acc hp hfree hpos ⟨_, fun q hq => ?_⟩
  rw [owner_setOwner (lt_of_refs hpos) (h.lt r (by simp)), if_neg hne, hroot] at hq
  cases hq

/-- The object owns nothing. -/
theorem setOwner_leaf (h : Ledger t h₀ h' (r :: held)) (hp : h'.Tracked t h₀.next p) (hne : p ≠ r)
    (hfree : h'.owner r = none) (hpos : 0 < h'.refs p) (hleaf : ∀ x, h'.owner x ≠ some r) :
    Ledger t h₀ (h'.setOwner p r) held := by
  refine h.setOwner_of_acc hp hfree hpos ?_
  -- above an object other than `r` everything is as it was
  have hkeep : ∀ y, Acc (fun q x => h'.owner x = some q) y → y ≠ r →
      Acc (fun q x => (h'.setOwner p r).owner x = some q) y := by
    intro y hy
    induction hy with
    | intro y _ ih =>
      intro hyr
      refine ⟨_, fun q hq => ?_⟩
      rw [owner_setOwner (lt_of_refs hpos) (h.lt r (by simp)), if_neg hyr] at hq
      exact ih q hq fun heq => hleaf y (heq ▸ hq)
  exact hkeep p (h.acc p hp) hne

/-! ### Releasing -/

/-- What is counted over the cells can be counted over the addresses. -/
theorem countP_owner (h : Heap α) (q : Option Nat → Bool) :
    h.cells.countP (fun c => q c.owner) = (List.range h.next).countP fun r => q (h.owner r) := by
  have hmap : h.cells.map (·.owner) = (List.range h.next).map h.owner := by
    refine List.ext_getElem (by simp [next]) fun i hi hi' => ?_
    rw [List.length_map] at hi
    rw [List.getElem_map, List.getElem_map, List.getElem_range, Heap.owner, Heap.get, List.getElem?_eq_getElem hi]
    rfl
  have hcells : h.cells.countP (fun c => q c.owner) = (h.cells.map (·.owner)).countP q := by
    rw [List.countP_map]; rfl
  rw [hcells, hmap, List.countP_map]
  rfl

theorem owned_eq (h : Heap α) : h.owned = (List.range h.next).countP fun r => (h.owner r).isSome := by
  rw [← countP_owner h Option.isSome, owned, List.countP_eq_length_filter]

/-- The children of a finalized object are no longer among the owned ones. -/
theorem owned_orphan (h : Heap α) (r : Nat) : ((h.drop r).orphan r).owned + (h.children r).length = h.owned := by
  rw [owned_eq, owned_eq, next_orphan, next_drop, children, ← List.countP_eq_length_filter]
  have howner : ∀ x, ((h.drop r).orphan r).owner x = if h.owner x = some r then none else h.owner x := fun x => by
    rw [owner_orphan, owner_drop]
  simp only [howner]
  induction List.range h.next with
  | nil => rfl
  | cons x xs ih =>
    rw [List.countP_cons, List.countP_cons, List.countP_cons]
    by_cases hx : h.owner x = some r
    · simp [hx]; omega
    · simp [hx]; omega

theorem nodup_children (h : Heap α) (p : Nat) : (h.children p).Nodup := List.nodup_range.filter _

theorem count_children (h : Heap α) (p r : Nat) :
    (h.children p).count r = if h.owner r = some p then 1 else 0 := by
  split
  · next hr => exact List.count_eq_one_of_mem (nodup_children h p) (mem_children.mpr hr)
  · next hr => exact List.count_eq_zero_of_not_mem fun hmem => hr (mem_children.mp hmem)

/-- One of several references is dropped. -/
theorem drop (h : Ledger t h₀ h' (r :: held)) (hrefs : 1 < h'.refs r) : Ledger t h₀ (h'.drop r) held := by
  refine h.count (next_drop r) (fun x hx => h.lt x (List.mem_cons_of_mem _ hx)) (data_drop r) (owner_drop r) rfl
    (fun x _ => ?_) fun x hx => ?_
  · rw [refs_drop, List.count_cons]
    by_cases hx : x = r
    · simp [hx]; omega
    · simp [hx, Ne.symm hx]
  · rw [refs_drop]
    split
    · next hxr => rw [hxr]; omega
    · omega

/-- The last reference is dropped: those the object held as an owner are now held from outside. -/
theorem finalize (h : Ledger t h₀ h' (r :: held)) (hrefs : h'.refs r = 1) :
    Ledger t h₀ ((h'.drop r).orphan r) (h'.children r ++ held) := by
  have htracked : ∀ x, ((h'.drop r).orphan r).Tracked t h₀.next x ↔ h'.Tracked t h₀.next x :=
    tracked_congr fun x => by rw [data_orphan, data_drop]
  have howner : ∀ x, ((h'.drop r).orphan r).owner x = if h'.owner x = some r then none else h'.owner x := fun x => by
    rw [owner_orphan, owner_drop]
  have hrefs' : ∀ x, ((h'.drop r).orphan r).refs x = h'.refs x - if x = r then 1 else 0 := fun x => by
    rw [refs_orphan, refs_drop]
  refine ⟨by simpa using h.next_le, fun x hx => ?_, fun x hx => ?_, fun x p hx hp => ?_, fun x hx => ?_, fun x hx => ?_⟩
  · rw [next_orphan, next_drop]
    rcases List.mem_append.mp hx with hx | hx
    · exact List.mem_range.mp (List.mem_filter.mp hx).1
    · exact h.lt x (List.mem_cons_of_mem _ hx)
  · have hcount := h.refs x ((htracked x).mp hx)
    rw [List.count_cons] at hcount
    rw [hrefs', howner, List.count_append, count_children, hcount]
    by_cases hxr : x = r
    · -- a tracked object that is released has no owner left
      rw [hxr] at hcount ⊢
      rw [hrefs] at hcount
      have hfree : h'.owner r = none := by
        cases ho : h'.owner r with
        | none => rfl
        | some p => rw [ho] at hcount; simp at hcount
      simp [hfree] at hcount ⊢
    · have hne : r ≠ x := Ne.symm hxr
      by_cases hown : h'.owner x = some r
      · simp [hxr, hne, hown]; omega
      · simp [hxr, hne, hown]
  · rw [howner] at hp
    split at hp
    · cases hp
    · next hnot =>
      obtain ⟨hp', hpos⟩ := h.owner x p ((htracked x).mp hx) hp
      refine ⟨(htracked p).mpr hp', ?_⟩
      rw [hrefs', if_neg fun heq => hnot (by rw [hp, heq])]
      exact hpos
  · have hacc := h.acc x ((htracked x).mp hx)
    refine Subrelation.accessible (fun {q y} hq => ?_) hacc
    rw [howner] at hq
    split at hq
    · cases hq
    · exact hq
  · exact h.misused x ((htracked x).mp hx)

/-- A reference that is not there cannot be listed. -/
theorem misuse (h : Ledger t h₀ h' (r :: held)) (hrefs : h'.refs r = 0) : Ledger t h₀ (h'.misuse r) held := by
  have hne : ∀ x, h'.Tracked t h₀.next x → r ≠ x := fun x hx heq => by
    have := h.pos (List.mem_cons_self ..) (heq ▸ hx)
    omega
  refine ⟨h.next_le, fun x hx => h.lt x (List.mem_cons_of_mem _ hx), fun x hx => ?_, h.owner, h.acc, fun x hx => ?_⟩
  · have := h.refs x hx
    rwa [List.count_cons_of_ne (hne x hx)] at this
  · have hcount : (h'.misuse r).misused.count x = h'.misused.count x := by
      simp [Heap.misuse, hne x hx]
    exact hcount.trans (h.misused x hx)

/-- Releasing takes the dropped references off the list. -/
theorem release (n : Nat) (rs : List Nat) (hfuel : h'.owned + rs.length ≤ n) (h : Ledger t h₀ h' (rs ++ held)) :
    Ledger t h₀ (Heap.release n rs h') held := by
  induction n generalizing rs h' with
  | zero =>
    obtain rfl : rs = [] := List.length_eq_zero_iff.mp (by omega)
    exact h
  | succ n ih =>
    cases rs with
    | nil => exact h
    | cons r rs =>
      obtain ⟨c, hc⟩ := exists_of_lt (h.lt r (by simp))
      have hrefs : h'.refs r = c.refs := by rw [Heap.refs, hc]; rfl
      rw [List.length_cons] at hfuel
      rw [Heap.release, hc]
      simp only
      split
      · next hzero => exact ih rs (Nat.le_of_lt_succ hfuel) (h.misuse (hrefs.trans hzero))
      · split
        · next hone =>
          have horphan := owned_orphan h' r
          have hfinal : Ledger t h₀ ((h'.drop r).orphan r) (h'.children r ++ rs ++ held) := by
            rw [List.append_assoc]
            exact h.finalize (hrefs.trans hone)
          exact ih _ (by rw [List.length_append]; omega) hfinal
        · next hzero hone =>
          have howned : (h'.drop r).owned = h'.owned := by
            rw [owned_eq, owned_eq, next_drop, funext (owner_drop r)]
          exact ih rs (by omega) (h.drop (by omega))

theorem unref (h : Ledger t h₀ h' (r :: held)) : Ledger t h₀ (h'.unref r) held :=
  Ledger.release _ [r] (by simp) h

/-- With nothing held from outside, every tracked object has been released. -/
theorem released (h : Ledger t h₀ h' held) (hheld : ∀ r ∈ held, ¬ h'.Tracked t h₀.next r)
    (hr : h'.Tracked t h₀.next r) : h'.refs r = 0 := by
  have hacc := h.acc r hr
  induction hacc with
  | intro r _ ih =>
    rw [h.refs r hr, List.count_eq_zero_of_not_mem fun hmem => hheld r hmem hr]
    cases hp : h'.owner r with
    | none => rfl
    | some p =>
      obtain ⟨htracked, hpos⟩ := h.owner r p hr hp
      have := ih p hp htracked
      omega

end Ledger

end Heap

end RefHeap
