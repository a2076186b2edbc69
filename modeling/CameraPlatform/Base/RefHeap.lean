import Mathlib.Data.List.Basic

/-!
# A heap of reference-counted objects

A reference is the position of a cell. A cell counts the references to it and names the object that
owns it, if any: an owner holds one of the references and gives it up when it is finalized. A
finalized cell keeps its data, so a pointer that outlives its object can still be spoken about.
-/

namespace RefHeap

structure Cell (α : Type) where
  refs : Nat
  floating : Bool
  owner : Option Nat
  data : α

structure Heap (α : Type) where
  cells : List (Cell α)
  /-- Objects a reference was dropped of after their last one. -/
  misused : List Nat
  owner_lt : ∀ (r : Nat) (c : Cell α) (p : Nat), cells[r]? = some c → c.owner = some p → p < cells.length

namespace Heap

variable {α : Type} (h : Heap α)

/-- The reference the next object gets. -/
def next : Nat := h.cells.length

def get (r : Nat) : Option (Cell α) := h.cells[r]?

def data (r : Nat) : Option α := (h.get r).map (·.data)

def owner (r : Nat) : Option Nat := (h.get r).bind (·.owner)

/-- The object has not been finalized. -/
def alive (r : Nat) : Bool := (h.get r).any fun c => 0 < c.refs

theorem get_lt {h : Heap α} {r : Nat} {c : Cell α} (hr : h.get r = some c) : r < h.next :=
  (List.getElem?_eq_some_iff.mp hr).1

theorem get_eq_none {h : Heap α} {r : Nat} (hr : h.next ≤ r) : h.get r = none :=
  List.getElem?_eq_none hr

theorem owner_lt_next {h : Heap α} {r p : Nat} (hr : h.owner r = some p) : p < h.next := by
  obtain ⟨c, hc, hp⟩ := Option.bind_eq_some_iff.mp hr
  exact h.owner_lt r c p hc hp

theorem owner_eq_none {h : Heap α} {r : Nat} (hr : h.next ≤ r) : h.owner r = none := by
  rw [owner, get_eq_none hr]; rfl

def empty : Heap α := ⟨[], [], by simp⟩

/-! ### Operations -/

/-- One more cell, with one reference. -/
def alloc (floating : Bool) (a : α) : Heap α where
  cells := h.cells ++ [⟨1, floating, none, a⟩]
  misused := h.misused
  owner_lt r c p hr hp := by
    rw [List.getElem?_append] at hr
    split at hr
    · have := h.owner_lt r c p hr hp
      simp; omega
    · obtain ⟨_, rfl⟩ := List.mem_singleton.mp (List.mem_of_getElem? hr) ▸ hp

/-- Apply `f` to one cell. -/
def modify (r : Nat) (f : Cell α → Cell α)
    (hf : ∀ c p, (f c).owner = some p → c.owner = some p ∨ p < h.next) : Heap α where
  cells := h.cells.modify r f
  misused := h.misused
  owner_lt x c p hx hp := by
    rw [List.getElem?_modify] at hx
    rw [List.length_modify]
    obtain ⟨d, hd, rfl⟩ := Option.map_eq_some_iff.mp hx
    split at hp
    · exact (hf d p hp).elim (h.owner_lt x d p hd) id
    · exact h.owner_lt x d p hd hp

def update (r : Nat) (f : α → α) : Heap α :=
  h.modify r (fun c => { c with data := f c.data }) fun _ _ => .inl

def ref (r : Nat) : Heap α := h.modify r (fun c => { c with refs := c.refs + 1 }) fun _ _ => .inl

/-- Take the floating reference, or add one. -/
def refSink (r : Nat) : Heap α :=
  h.modify r (fun c => if c.floating then { c with floating := false } else { c with refs := c.refs + 1 })
    fun c p hp => by split at hp <;> exact .inl hp

/-- Drop one reference without looking at what is left. -/
def drop (r : Nat) : Heap α := h.modify r (fun c => { c with refs := c.refs - 1 }) fun _ _ => .inl

/-- Make `p` the owner of `r`, with the reference the caller holds. -/
def setOwner (p r : Nat) : Heap α :=
  if hp : p < h.next then
    h.modify r (fun c => { c with owner := some p }) fun _ _ hq => .inr (by cases hq; exact hp)
  else h

/-- The objects `p` owns. -/
def children (p : Nat) : List Nat := (List.range h.next).filter fun r => h.owner r == some p

/-- `p` owns nothing any more. -/
def orphan (p : Nat) : Heap α where
  cells := h.cells.map fun c => if c.owner = some p then { c with owner := none } else c
  misused := h.misused
  owner_lt r c q hr hq := by
    rw [List.getElem?_map] at hr
    rw [List.length_map]
    obtain ⟨d, hd, rfl⟩ := Option.map_eq_some_iff.mp hr
    split at hq
    · cases hq
    · exact h.owner_lt r d q hd hq

def misuse (r : Nat) : Heap α := { h with misused := h.misused ++ [r] }

/-- The number of owned objects. -/
def owned : Nat := (h.cells.filter fun c => c.owner.isSome).length

/-- Drop one reference to each object of the list. An object without references left is finalized:
the references it holds as an owner are dropped too. The first argument is fuel. -/
def release : Nat → List Nat → Heap α → Heap α
  | 0, _, h => h
  | _, [], h => h
  | n + 1, r :: rs, h =>
    match h.get r with
    | none => release n rs (h.misuse r)
    | some c =>
      if c.refs = 0 then release n rs (h.misuse r)
      else if c.refs = 1 then release n (h.children r ++ rs) ((h.drop r).orphan r)
      else release n rs (h.drop r)

def unref (r : Nat) : Heap α := release (h.owned + 1) [r] h

/-! ### What the operations read -/

section Lemmas
variable {h}

theorem ext_get {h' : Heap α} (hget : ∀ r, h.get r = h'.get r) (hm : h.misused = h'.misused) : h = h' := by
  obtain ⟨cells, misused, _⟩ := h
  obtain ⟨cells', misused', _⟩ := h'
  obtain rfl : cells = cells' := List.ext_getElem? hget
  obtain rfl : misused = misused' := hm
  rfl

@[simp] theorem next_alloc (fl : Bool) (a : α) : (h.alloc fl a).next = h.next + 1 := by simp [next, alloc]

theorem get_alloc (fl : Bool) (a : α) (r : Nat) :
    (h.alloc fl a).get r = if r = h.next then some ⟨1, fl, none, a⟩ else h.get r := by
  show (h.cells ++ [_])[r]? = _
  rcases Nat.lt_trichotomy r h.next with hlt | rfl | hgt
  · rw [if_neg (Nat.ne_of_lt hlt), List.getElem?_append_left hlt]; rfl
  · rw [if_pos rfl]; exact List.getElem?_concat_length
  · rw [if_neg (Nat.ne_of_gt hgt), get_eq_none (Nat.le_of_lt hgt)]
    exact List.getElem?_eq_none (by simpa [next, Nat.succ_le_iff] using hgt)

@[simp] theorem next_modify (r : Nat) (f : Cell α → Cell α) (hf) : (h.modify r f hf).next = h.next := by
  simp [next, modify]

theorem get_modify (r : Nat) (f : Cell α → Cell α) (hf) (x : Nat) :
    (h.modify r f hf).get x = if x = r then (h.get x).map f else h.get x := by
  show (h.cells.modify r f)[x]? = _
  rw [List.getElem?_modify]
  by_cases hx : x = r
  · rw [if_pos hx, hx]; simp [get]
  · simp [get, hx, Ne.symm hx]

@[simp] theorem next_update (r : Nat) (f : α → α) : (h.update r f).next = h.next := next_modify ..
@[simp] theorem next_ref (r : Nat) : (h.ref r).next = h.next := next_modify ..
@[simp] theorem next_refSink (r : Nat) : (h.refSink r).next = h.next := next_modify ..
@[simp] theorem next_drop (r : Nat) : (h.drop r).next = h.next := next_modify ..

@[simp] theorem next_setOwner (p r : Nat) : (h.setOwner p r).next = h.next := by
  unfold setOwner; split <;> simp

@[simp] theorem next_orphan (p : Nat) : (h.orphan p).next = h.next := by simp [next, orphan]
@[simp] theorem next_misuse (r : Nat) : (h.misuse r).next = h.next := rfl

theorem get_orphan (p x : Nat) : (h.orphan p).get x =
    (h.get x).map fun c => if c.owner = some p then { c with owner := none } else c :=
  List.getElem?_map ..

/-! ### Data -/

theorem data_alloc (fl : Bool) (a : α) (r : Nat) :
    (h.alloc fl a).data r = if r = h.next then some a else h.data r := by
  rw [data, get_alloc]; split <;> rfl

theorem data_modify (r : Nat) (f : Cell α → Cell α) (hf) (hdata : ∀ c, (f c).data = c.data) (x : Nat) :
    (h.modify r f hf).data x = h.data x := by
  rw [data, get_modify]
  split
  · rw [Option.map_map]; exact congrArg (Option.map · _) (funext hdata)
  · rfl

theorem data_update (r : Nat) (f : α → α) (x : Nat) :
    (h.update r f).data x = if x = r then (h.data x).map f else h.data x := by
  rw [data, update, get_modify]
  split
  · rw [data, Option.map_map, Option.map_map]; rfl
  · rfl

@[simp] theorem data_ref (r x : Nat) : (h.ref r).data x = h.data x := by
  unfold ref; exact data_modify _ _ _ (fun _ => by rfl) x

@[simp] theorem data_refSink (r x : Nat) : (h.refSink r).data x = h.data x :=
  data_modify _ _ _ (fun c => by split <;> rfl) x

@[simp] theorem data_drop (r x : Nat) : (h.drop r).data x = h.data x := by
  unfold drop; exact data_modify _ _ _ (fun _ => by rfl) x

@[simp] theorem data_setOwner (p r x : Nat) : (h.setOwner p r).data x = h.data x := by
  unfold setOwner
  split
  · exact data_modify _ _ _ (fun _ => by rfl) x
  · rfl

@[simp] theorem data_orphan (p x : Nat) : (h.orphan p).data x = h.data x := by
  rw [data, get_orphan, Option.map_map, data]
  exact congrArg (Option.map · _) (funext fun c => by simp only [Function.comp]; split <;> rfl)

@[simp] theorem data_misuse (r x : Nat) : (h.misuse r).data x = h.data x := rfl

/-! ### Owners -/

theorem owner_alloc (fl : Bool) (a : α) (r : Nat) : (h.alloc fl a).owner r = h.owner r := by
  rw [owner, get_alloc]
  split
  · next hr => rw [hr, owner_eq_none (Nat.le_refl _)]; rfl
  · rfl

theorem owner_modify (r : Nat) (f : Cell α → Cell α) (hf) (howner : ∀ c, (f c).owner = c.owner) (x : Nat) :
    (h.modify r f hf).owner x = h.owner x := by
  rw [owner, get_modify]
  split
  · rw [owner, Option.bind_map]; exact congrArg (Option.bind _) (funext howner)
  · rfl

@[simp] theorem owner_update (r : Nat) (f : α → α) (x : Nat) : (h.update r f).owner x = h.owner x :=
  owner_modify _ _ _ (fun _ => by rfl) x

@[simp] theorem owner_ref (r x : Nat) : (h.ref r).owner x = h.owner x := by
  unfold ref; exact owner_modify _ _ _ (fun _ => by rfl) x

@[simp] theorem owner_refSink (r x : Nat) : (h.refSink r).owner x = h.owner x :=
  owner_modify _ _ _ (fun c => by split <;> rfl) x

@[simp] theorem owner_drop (r x : Nat) : (h.drop r).owner x = h.owner x := by
  unfold drop; exact owner_modify _ _ _ (fun _ => by rfl) x

theorem owner_setOwner {p : Nat} (hp : p < h.next) {r : Nat} (hr : r < h.next) (x : Nat) :
    (h.setOwner p r).owner x = if x = r then some p else h.owner x := by
  rw [setOwner, dif_pos hp, owner, get_modify]
  split
  · next hx =>
    obtain ⟨c, hc⟩ : ∃ c, h.get x = some c := ⟨_, List.getElem?_eq_getElem (hx ▸ hr)⟩
    rw [hc]; rfl
  · rfl

theorem mem_children {p r : Nat} : r ∈ h.children p ↔ h.owner r = some p := by
  rw [children, List.mem_filter, List.mem_range, beq_iff_eq, and_iff_right_iff_imp]
  intro hr
  obtain ⟨c, hc, -⟩ := Option.bind_eq_some_iff.mp hr
  exact get_lt hc

/-! ### Releasing -/

/-- Releasing frees no cell and keeps every object's data. -/
theorem release_same (n : Nat) (rs : List Nat) :
    (release n rs h).next = h.next ∧ ∀ x, (release n rs h).data x = h.data x := by
  induction n generalizing rs h with
  | zero => simp [release]
  | succ n ih =>
    cases rs with
    | nil => simp [release]
    | cons r rs =>
      unfold release
      split
      · simp [@ih (h.misuse r) rs]
      · split
        · simp [@ih (h.misuse r) rs]
        · split
          · simp [@ih ((h.drop r).orphan r) (h.children r ++ rs)]
          · simp [@ih (h.drop r) rs]

theorem owner_orphan_some {p x q : Nat} (hq : (h.orphan p).owner x = some q) : h.owner x = some q := by
  rw [owner, get_orphan, Option.bind_map] at hq
  obtain ⟨c, hc, hcq⟩ := Option.bind_eq_some_iff.mp hq
  rw [owner, hc]
  simp only [Function.comp] at hcq
  split at hcq
  · cases hcq
  · exact hcq

/-- Releasing gives nothing a new owner. -/
theorem release_owner (n : Nat) (rs : List Nat) {x p : Nat} (hp : (release n rs h).owner x = some p) :
    h.owner x = some p := by
  induction n generalizing rs h with
  | zero => simpa [release] using hp
  | succ n ih =>
    cases rs with
    | nil => exact hp
    | cons r rs =>
      unfold release at hp
      split at hp
      · exact @ih (h.misuse r) rs hp
      · split at hp
        · exact @ih (h.misuse r) rs hp
        · split at hp
          · exact (owner_drop r x).symm.trans (owner_orphan_some (@ih ((h.drop r).orphan r) _ hp))
          · exact (owner_drop r x).symm.trans (@ih (h.drop r) rs hp)

@[simp] theorem next_unref (r : Nat) : (h.unref r).next = h.next := (release_same _ _).1

@[simp] theorem data_unref (r x : Nat) : (h.unref r).data x = h.data x := (release_same _ _).2 x

/-- Releasing objects from `b` on leaves the cells below `b` alone, when those are owned below `b`. -/
theorem release_get_of_lt (b n : Nat) (rs : List Nat) (hrs : ∀ r ∈ rs, b ≤ r)
    (hown : ∀ x p, x < b → h.owner x = some p → p < b) {x : Nat} (hx : x < b) :
    (release n rs h).get x = h.get x := by
  induction n generalizing rs h with
  | zero => rfl
  | succ n ih =>
    cases rs with
    | nil => rfl
    | cons r rs =>
      have hr : b ≤ r := hrs r (by simp)
      have hrs' : ∀ r ∈ rs, b ≤ r := fun r hr => hrs r (List.mem_cons_of_mem _ hr)
      have hget : ∀ y, y < b → (h.drop r).get y = h.get y := by
        intro y hy
        rw [drop, get_modify, if_neg (by omega)]
      have horphan : ∀ y, y < b → ((h.drop r).orphan r).get y = h.get y := by
        intro y hy
        rw [get_orphan, hget y hy]
        cases hc : h.get y with
        | none => rfl
        | some c =>
          have hne : c.owner ≠ some r := fun h' =>
            Nat.not_lt.mpr hr (hown y r hy (by rw [owner, hc]; exact h'))
          simp [hne]
      have howner : ∀ {h' : Heap α}, (∀ y, y < b → h'.get y = h.get y) →
          ∀ x p, x < b → h'.owner x = some p → p < b := by
        intro h' hsame y p hy hp
        rw [owner, hsame y hy] at hp
        exact hown y p hy hp
      unfold release
      split
      · exact @ih (h.misuse r) rs hrs' (howner fun _ _ => rfl)
      · split
        · exact @ih (h.misuse r) rs hrs' (howner fun _ _ => rfl)
        · split
          · rw [@ih ((h.drop r).orphan r) (h.children r ++ rs) ?_ (howner horphan), horphan x hx]
            intro y hy
            rcases List.mem_append.mp hy with hy | hy
            · -- a child below `b` would be owned below `b`
              by_contra hlt
              exact Nat.not_lt.mpr hr (hown y r (by omega) (mem_children.mp hy))
            · exact hrs' y hy
          · rw [@ih (h.drop r) rs hrs' (howner hget), hget x hx]

theorem unref_get_of_lt {b r : Nat} (hr : b ≤ r) (hown : ∀ x p, x < b → h.owner x = some p → p < b)
    {x : Nat} (hx : x < b) : (h.unref r).get x = h.get x :=
  release_get_of_lt b _ _ (by simpa using hr) hown hx

/-! ### Objects that nobody owns -/

theorem get_drop_of_ne {r x : Nat} (hx : x ≠ r) : (h.drop r).get x = h.get x := by
  unfold drop
  rw [get_modify, if_neg hx]

theorem get_orphan_of_unowned (p : Nat) {x : Nat} (hown : h.owner x = none) : (h.orphan p).get x = h.get x := by
  rw [get_orphan]
  cases hc : h.get x with
  | none => rfl
  | some c =>
    have hnone : c.owner = none := by rw [owner, hc] at hown; exact hown
    simp [hnone]

theorem owner_congr {h' : Heap α} {x : Nat} (hget : h'.get x = h.get x) : h'.owner x = h.owner x := by
  rw [owner, hget]; rfl

/-- Releasing other objects neither changes such an object nor counts against it. -/
theorem release_of_unowned (n : Nat) (rs : List Nat) {x : Nat} (hx : x ∉ rs) (hown : h.owner x = none) :
    (release n rs h).get x = h.get x ∧ (release n rs h).misused.count x = h.misused.count x := by
  induction n generalizing rs h with
  | zero => exact ⟨rfl, rfl⟩
  | succ n ih =>
    cases rs with
    | nil => exact ⟨rfl, rfl⟩
    | cons r rs =>
      have hxr : x ≠ r := fun heq => hx (by simp [heq])
      have hxs : x ∉ rs := fun hmem => hx (List.mem_cons_of_mem _ hmem)
      have hmisuse : (h.misuse r).misused.count x = h.misused.count x := by
        simp [misuse, Ne.symm hxr]
      have hdrop : (h.drop r).get x = h.get x := get_drop_of_ne hxr
      have howner : (h.drop r).owner x = none := (owner_congr hdrop).trans hown
      have horphan : ((h.drop r).orphan r).get x = h.get x := (get_orphan_of_unowned r howner).trans hdrop
      unfold release
      split
      · obtain ⟨hget, hcount⟩ := @ih (h.misuse r) rs hxs hown
        exact ⟨hget, hcount.trans hmisuse⟩
      · split
        · obtain ⟨hget, hcount⟩ := @ih (h.misuse r) rs hxs hown
          exact ⟨hget, hcount.trans hmisuse⟩
        · split
          · have hchild : x ∉ h.children r ++ rs := by
              rw [List.mem_append, not_or, mem_children, hown]
              exact ⟨by simp, hxs⟩
            obtain ⟨hget, hcount⟩ := @ih ((h.drop r).orphan r) _ hchild ((owner_congr horphan).trans hown)
            exact ⟨hget.trans horphan, hcount⟩
          · obtain ⟨hget, hcount⟩ := @ih (h.drop r) rs hxs howner
            exact ⟨hget.trans hdrop, hcount⟩

theorem unref_of_unowned {r x : Nat} (hx : x ≠ r) (hown : h.owner x = none) :
    (h.unref r).get x = h.get x ∧ (h.unref r).misused.count x = h.misused.count x :=
  release_of_unowned _ _ (by simpa using hx) hown

/-- Dropping a reference that is there takes it off the count, whoever else is released with the object. -/
theorem unref_self {r : Nat} {c : Cell α} (hc : h.get r = some c) (hown : c.owner = none) (hpos : 0 < c.refs) :
    (h.unref r).get r = some { c with refs := c.refs - 1 } ∧
      (h.unref r).misused.count r = h.misused.count r := by
  have howner : h.owner r = none := by rw [owner, hc]; exact hown
  have hdrop : (h.drop r).get r = some { c with refs := c.refs - 1 } := by
    unfold drop
    rw [get_modify, if_pos rfl, hc]; rfl
  have hdropped : (h.drop r).owner r = none := by rw [owner, hdrop]; exact hown
  have horphan := (get_orphan_of_unowned r hdropped).trans hdrop
  rw [unref, release, hc]
  simp only [if_neg (Nat.ne_of_gt hpos)]
  split
  · have hchild : r ∉ h.children r ++ [] := by
      rw [List.append_nil, mem_children, howner]
      simp
    obtain ⟨hget, hcount⟩ := @release_of_unowned _ ((h.drop r).orphan r) h.owned _ r hchild
      (by rw [owner, horphan]; exact hown)
    exact ⟨hget.trans horphan, hcount⟩
  · obtain ⟨hget, hcount⟩ := @release_of_unowned _ (h.drop r) h.owned [] r (by simp) hdropped
    exact ⟨hget.trans hdrop, hcount⟩

end Lemmas

end Heap

end RefHeap
