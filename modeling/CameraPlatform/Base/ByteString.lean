import Mathlib.Data.List.TakeWhile

/-!
# Byte strings with offsets

`std::string` as a list of bytes. The operations on offsets (`find`, `rfind`, `substr`, `front`)
follow the C++ standard: `npos` is `none`, `substr` throws past the end; an index past the last byte
is undefined there and an error here.

`breakOn` and `splitOn` say the same without offsets: `find_drop` ties `find` to `breakOn`, so a
parser that walks a string by offsets can be read as one that cuts it up.
-/

namespace ByteString

abbrev Bytes := List UInt8

/-- An ASCII literal. -/
def ascii (s : String) : Bytes := s.toList.map fun c => c.toNat.toUInt8

/-- The value of a hexadecimal digit. -/
def hexDigit? (c : UInt8) : Option Nat :=
  if 48 ≤ c ∧ c ≤ 57 then some (c.toNat - 48)
  else if 97 ≤ c ∧ c ≤ 102 then some (c.toNat - 87)
  else if 65 ≤ c ∧ c ≤ 70 then some (c.toNat - 55)
  else none

/-- What goes wrong in a string operation, or in a loop that is given too little fuel. -/
inductive Error where
  | outOfRange
  | badIndex
  | outOfFuel
deriving DecidableEq, Repr

/-! ### Offsets -/

/-- The first occurrence of `needle` in `s`, where `s` starts at offset `i`. -/
def findAux (needle : Bytes) : Bytes → Nat → Option Nat
  | [], i => if needle = [] then some i else none
  | b :: s, i => if needle.isPrefixOf (b :: s) then some i else findAux needle s (i + 1)

/-- `s.find(needle, pos)`. -/
def find (s needle : Bytes) (pos : Nat) : Option Nat :=
  if pos ≤ s.length then findAux needle (s.drop pos) pos else none

/-- `s.rfind(needle, pos)`: the last occurrence that starts at or before `pos`. -/
def rfind (s needle : Bytes) : Nat → Option Nat
  | 0 => if needle.isPrefixOf s then some 0 else none
  | pos + 1 => if needle.isPrefixOf (s.drop (pos + 1)) then some (pos + 1) else rfind s needle pos

/-- `s.substr(pos, n)`, with `n = none` for `npos`. -/
def substr (s : Bytes) (pos : Nat) (n : Option Nat) : Except Error Bytes :=
  if pos ≤ s.length then
    .ok (match n with
      | none => s.drop pos
      | some n => (s.drop pos).take n)
  else .error .outOfRange

/-- `pos == npos ? s : s.substr(0, pos)`. -/
def substrUntil (s : Bytes) : Option Nat → Except Error Bytes
  | none => .ok s
  | some pos => substr s 0 (some pos)

/-- `pos == npos ? "" : s.substr(pos + skip)`. -/
def substrAfter (s : Bytes) (skip : Nat) : Option Nat → Except Error Bytes
  | none => .ok []
  | some pos => substr s (pos + skip) none

/-- `s[i]` with `i` inside the string. -/
def charAt (s : Bytes) (i : Nat) : Except Error UInt8 :=
  match s[i]? with
  | none => .error .badIndex
  | some c => .ok c

/-- `s.front()`. -/
def front (s : Bytes) : Except Error UInt8 := charAt s 0

theorem charAt_eq {s : Bytes} {i : Nat} (h : i < s.length) : charAt s i = .ok s[i] := by
  simp [charAt, List.getElem?_eq_getElem h]

theorem substr_eq_take {s : Bytes} {pos : Nat} (h : pos ≤ s.length) (n : Nat) :
    substr s pos (some n) = .ok ((s.drop pos).take n) := by
  simp [substr, h]

theorem substr_eq_drop {s : Bytes} {pos : Nat} (h : pos ≤ s.length) :
    substr s pos none = .ok (s.drop pos) := by
  simp [substr, h]

/-! ### Cutting at a separator -/

/-- The text before the first `needle` and the text after it. -/
def breakOn (needle : Bytes) : Bytes → Option (Bytes × Bytes)
  | [] => if needle = [] then some ([], []) else none
  | b :: s =>
    if needle.isPrefixOf (b :: s) then some ([], (b :: s).drop needle.length)
    else (breakOn needle s).map fun p => (b :: p.1, p.2)

theorem breakOn_eq_append {needle s p q : Bytes} (h : breakOn needle s = some (p, q)) :
    s = p ++ needle ++ q := by
  induction s generalizing p q with
  | nil =>
    simp only [breakOn] at h
    split at h
    · cases h; simp_all
    · cases h
  | cons b s ih =>
    simp only [breakOn] at h
    split at h
    · next hp =>
      cases h
      obtain ⟨t, ht⟩ := List.isPrefixOf_iff_prefix.mp hp
      simp [← ht]
    · obtain ⟨⟨p', q'⟩, hb, hp⟩ := Option.map_eq_some_iff.mp h
      cases hp
      simp [ih hb]

theorem findAux_eq_breakOn (needle s : Bytes) (i : Nat) :
    findAux needle s i = (breakOn needle s).map fun p => i + p.1.length := by
  induction s generalizing i with
  | nil => simp only [findAux, breakOn]; split <;> simp
  | cons b s ih =>
    simp only [findAux, breakOn]
    split
    · simp
    · rw [ih, Option.map_map]
      congr 1
      funext p
      simp only [Function.comp_apply, List.length_cons]
      omega

/-- `find` from an offset is `breakOn` of what starts there. -/
theorem find_drop {s needle : Bytes} {pos : Nat} (h : pos ≤ s.length) :
    find s needle pos = (breakOn needle (s.drop pos)).map fun p => pos + p.1.length := by
  rw [find, if_pos h, findAux_eq_breakOn]

theorem find_zero (s needle : Bytes) :
    find s needle 0 = (breakOn needle s).map fun p => p.1.length := by
  simpa using @find_drop s needle 0 (Nat.zero_le _)

/-- The text before the first `needle`, all of it when there is none. -/
def textBefore (needle s : Bytes) : Bytes :=
  match breakOn needle s with
  | none => s
  | some p => p.1

/-- The text after the first `needle`, empty when there is none. -/
def textAfter (needle s : Bytes) : Bytes :=
  match breakOn needle s with
  | none => []
  | some p => p.2

theorem substrUntil_find (s needle : Bytes) :
    substrUntil s (find s needle 0) = .ok (textBefore needle s) := by
  rw [find_zero, textBefore]
  cases hb : breakOn needle s with
  | none => rfl
  | some p => simp [substrUntil, substr, breakOn_eq_append hb]

theorem substrAfter_find (s needle : Bytes) :
    substrAfter s needle.length (find s needle 0) = .ok (textAfter needle s) := by
  rw [find_zero, textAfter]
  cases hb : breakOn needle s with
  | none => rfl
  | some p =>
    have he := breakOn_eq_append hb
    simp only [Option.map_some, substrAfter]
    rw [substr_eq_drop (by simp [he])]
    simp [he]

/-- A separator that starts with `c` is not found inside text free of `c`. -/
theorem breakOn_skip {c : UInt8} {needle p : Bytes} (hp : c ∉ p) (s : Bytes) :
    breakOn (c :: needle) (p ++ s) = (breakOn (c :: needle) s).map fun r => (p ++ r.1, r.2) := by
  induction p with
  | nil => simp
  | cons b p ih =>
    have hb : (c == b) = false := by
      have : c ≠ b := fun h => hp (by simp [h])
      simpa using this
    rw [List.cons_append, breakOn, if_neg (by simp [List.isPrefixOf, hb]),
      ih fun h => hp (List.mem_cons_of_mem _ h), Option.map_map]
    rfl

theorem breakOn_self (c : UInt8) (needle s : Bytes) :
    breakOn (c :: needle) (c :: needle ++ s) = some ([], s) := by
  rw [List.cons_append, breakOn, if_pos (by simp)]
  simp

/-- The cut is at the separator when the text before it is free of the separator's first byte. -/
theorem breakOn_append {c : UInt8} {needle p : Bytes} (hp : c ∉ p) (s : Bytes) :
    breakOn (c :: needle) (p ++ (c :: needle ++ s)) = some (p, s) := by
  rw [breakOn_skip hp, breakOn_self]; simp

theorem breakOn_eq_none {c : UInt8} {needle s : Bytes} (hs : c ∉ s) :
    breakOn (c :: needle) s = none := by
  have := @breakOn_skip c needle s hs []
  simpa [breakOn] using this

theorem breakOn_singleton_eq_none {c : UInt8} {s : Bytes} : breakOn [c] s = none ↔ c ∉ s := by
  refine ⟨fun h hc => ?_, breakOn_eq_none⟩
  obtain ⟨p, q, rfl, hp⟩ := List.eq_append_cons_of_mem hc
  have := @breakOn_append c [] p hp q
  simp only [List.cons_append, List.nil_append] at this
  rw [this] at h
  cases h

theorem all_ne_of_not_mem {c : UInt8} {p : Bytes} (hp : c ∉ p) : ∀ x ∈ p, decide (x ≠ c) = true := by
  intro x hx
  rw [decide_eq_true_eq]
  rintro rfl
  exact hp hx

theorem textBefore_singleton (c : UInt8) (s : Bytes) : textBefore [c] s = s.takeWhile (· ≠ c) := by
  by_cases hc : c ∈ s
  · obtain ⟨p, q, rfl, hp⟩ := List.eq_append_cons_of_mem hc
    have hcut := @breakOn_append c [] p hp q
    simp only [List.cons_append, List.nil_append] at hcut
    rw [textBefore, hcut, List.takeWhile_append_of_pos (all_ne_of_not_mem hp)]
    simp
  · rw [textBefore, breakOn_eq_none hc, List.takeWhile_eq_self_iff.mpr (all_ne_of_not_mem hc)]

theorem textAfter_singleton (c : UInt8) (s : Bytes) : textAfter [c] s = (s.dropWhile (· ≠ c)).tail := by
  by_cases hc : c ∈ s
  · obtain ⟨p, q, rfl, hp⟩ := List.eq_append_cons_of_mem hc
    have hcut := @breakOn_append c [] p hp q
    simp only [List.cons_append, List.nil_append] at hcut
    rw [textAfter, hcut, List.dropWhile_append_of_pos (all_ne_of_not_mem hp)]
    simp
  · rw [textAfter, breakOn_eq_none hc, List.dropWhile_eq_nil_iff.mpr (all_ne_of_not_mem hc)]
    rfl

/-- What lies between the occurrences of a non-empty separator. -/
def splitOn (needle : Bytes) (s : Bytes) : List Bytes :=
  match h : breakOn needle s with
  | none => [s]
  | some (p, q) => if hn : needle = [] then [s] else
    have : q.length < s.length := by
      have hl := congrArg List.length (breakOn_eq_append h)
      have := List.length_pos_iff.mpr hn
      simp only [List.length_append] at hl
      omega
    p :: splitOn needle q
termination_by s.length

theorem splitOn_of_none {needle s : Bytes} (h : breakOn needle s = none) :
    splitOn needle s = [s] := by
  rw [splitOn]; split
  · rfl
  · next h' => rw [h] at h'; cases h'

theorem splitOn_of_some {needle s p q : Bytes} (hn : needle ≠ []) (h : breakOn needle s = some (p, q)) :
    splitOn needle s = p :: splitOn needle q := by
  rw [splitOn]; split
  · next h' => rw [h] at h'; cases h'
  · next h' => rw [h] at h'; cases h'; simp [hn]

/-- Cutting up lines that were joined by a separator whose first byte none of them has. -/
theorem splitOn_intercalate {c : UInt8} {needle : Bytes} {l : Bytes} {ls : List Bytes}
    (h : ∀ x ∈ l :: ls, c ∉ x) :
    splitOn (c :: needle) (l ++ ls.flatMap fun x => c :: needle ++ x) = l :: ls := by
  induction ls generalizing l with
  | nil =>
    rw [List.flatMap_nil, List.append_nil]
    exact splitOn_of_none (breakOn_eq_none (h l (by simp)))
  | cons x ls ih =>
    rw [List.flatMap_cons, List.append_assoc]
    rw [splitOn_of_some (List.cons_ne_nil _ _) (breakOn_append (h l (by simp)) _)]
    rw [ih fun y hy => h y (List.mem_cons_of_mem _ hy)]

end ByteString
