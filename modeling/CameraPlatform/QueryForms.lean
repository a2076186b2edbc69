import CameraPlatform.FormQuery

/-!
# The two forms of the argument of `parseQuery`

`parseQuery` takes a query or a full target and tells them apart by the first `?`. A query that has a
`?` of its own is cut there too, and what stood before it is lost.
-/

namespace CameraPlatform
open ByteString FormUrl

/-! ### Decoding text in pieces -/

/-- No escape goes on past the end: every `%` has its two bytes in the text. -/
def Whole (s : Bytes) : Prop := ∀ p q, s = p ++ 37 :: q → 2 ≤ q.length

theorem Whole.right {s t : Bytes} (h : Whole (s ++ t)) : Whole t := by
  rintro p q rfl
  exact h (s ++ p) q (by simp)

theorem exists_cons_cons {s : Bytes} (h : 2 ≤ s.length) : ∃ a b rest, s = a :: b :: rest := by
  rcases s with _ | ⟨a, _ | ⟨b, rest⟩⟩
  · exact absurd h (by simp)
  · exact absurd h (by simp)
  · exact ⟨a, b, rest, rfl⟩

theorem decodeForm_append {s : Bytes} (hs : Whole s) (t : Bytes) : decodeForm (s ++ t) = decodeForm s ++ decodeForm t := by
  induction s using decodeForm.induct with
  | case1 => rfl
  | case2 a b s ih =>
    have hrest : Whole s := @Whole.right [37, a, b] s hs
    simp only [List.cons_append, decodeForm, ih hrest]
  | case3 c s hpair ih =>
    have hrest : Whole s := @Whole.right [c] s hs
    have hc : c ≠ 37 := by
      rintro rfl
      obtain ⟨a, b, rest, rfl⟩ := exists_cons_cons (hs [] s rfl)
      exact hpair a b rest rfl rfl
    rw [List.cons_append, decodeForm_cons (.inl hc), decodeForm_cons (.inl hc), ih hrest, List.cons_append]

theorem escape_of_not {c : UInt8} {s : Bytes} (h : ¬ (c ≠ 37 ∨ s.length < 2)) : c = 37 ∧ 2 ≤ s.length :=
  ⟨not_not.mp (not_or.mp h).1, Nat.not_lt.mp (not_or.mp h).2⟩

/-- One byte more makes the decoded text longer or shorter by one byte at most. -/
theorem length_decodeForm_cons (c : UInt8) (s : Bytes) :
    (decodeForm (c :: s)).length ≤ (decodeForm s).length + 1 ∧ (decodeForm s).length ≤ (decodeForm (c :: s)).length + 1 := by
  by_cases hc : c ≠ 37 ∨ s.length < 2
  · rw [decodeForm_cons hc, List.length_cons]
    omega
  · obtain ⟨rfl, hlen⟩ := escape_of_not hc
    obtain ⟨a, b, s, rfl⟩ := exists_cons_cons hlen
    have ha := length_decodeForm_cons a (b :: s)
    have hb := length_decodeForm_cons b s
    have hdecoded : (decodeForm (37 :: a :: b :: s)).length = (decodeForm s).length + 1 := by
      rw [decodeForm, List.length_cons]
    refine ⟨?_, by omega⟩
    by_cases hescape : a ≠ 37 ∨ (b :: s).length < 2
    · rw [decodeForm_cons hescape, List.length_cons] at ha ⊢
      omega
    · -- the escape swallows the `%` of another one
      obtain ⟨rfl, hlen'⟩ := escape_of_not hescape
      obtain ⟨b', d, s, heq⟩ := exists_cons_cons hlen'
      obtain ⟨rfl, rfl⟩ := List.cons.inj heq
      have hd := length_decodeForm_cons d s
      have hother : (decodeForm (37 :: b :: d :: s)).length = (decodeForm s).length + 1 := by
        rw [decodeForm, List.length_cons]
      omega
termination_by s.length

/-- An `=` keeps an escape before it from swallowing more than one byte after it. -/
theorem length_decodeForm_le (s t : Bytes) : (decodeForm t).length ≤ (decodeForm (s ++ 61 :: t)).length := by
  induction s using decodeForm.induct with
  | case1 =>
    rw [List.nil_append, decodeForm_cons (.inl (by decide)), List.length_cons]
    omega
  | case2 a b s ih =>
    rw [List.cons_append, List.cons_append, List.cons_append, decodeForm, List.length_cons]
    omega
  | case3 c s hpair ih =>
    by_cases hc : c ≠ 37 ∨ (s ++ 61 :: t).length < 2
    · rw [List.cons_append, decodeForm_cons hc, List.length_cons]
      omega
    · obtain ⟨rfl, hlen⟩ := escape_of_not hc
      rcases s with _ | ⟨a, _ | ⟨b, s⟩⟩
      · rcases t with _ | ⟨d, t⟩
        · simp at hlen
        · have hd := (length_decodeForm_cons d t).1
          rw [List.cons_append, List.nil_append, decodeForm, List.length_cons]
          exact hd
      · rw [List.cons_append, List.cons_append, List.nil_append, decodeForm, List.length_cons]
        omega
      · exact absurd rfl (hpair a b s rfl)

/-! ### A query that is cut -/

theorem queryMap_entryOf {s : Bytes} (hs : 38 ∉ s) (k : Bytes) :
    queryMap s k = (entryOf s).bind fun e => if e.1 = k then some e.2 else none := by
  rw [queryMap_segment hs, setPair, entryOf]
  by_cases hempty : s.isEmpty = true
  · rw [if_pos hempty, if_pos hempty]; rfl
  · rw [if_neg hempty, if_neg hempty, Option.bind_some, StdMap.set, Function.update_apply]
    simp only [eq_comm, StdMap.empty]

/-- A segment and what is left of it after a `?` do not write the same entry. -/
theorem entryOf_cut {u r : Bytes} (hu : Whole u) : entryOf (u ++ 63 :: r) ≠ entryOf r := by
  intro heq
  have hlonger : ∀ {u : Bytes}, Whole u → ∀ r, (decodeForm r).length < (decodeForm (u ++ 63 :: r)).length := by
    intro u hu r
    rw [decodeForm_append hu, decodeForm_cons (.inl (by decide)), List.length_append, List.length_cons]
    omega
  rw [entryOf, if_neg (by simp), entryOf] at heq
  by_cases hr : r.isEmpty = true
  · rw [if_pos hr] at heq
    cases heq
  rw [if_neg hr, Option.some.injEq, Prod.mk.injEq] at heq
  obtain ⟨hkey, hvalue⟩ := heq
  by_cases h61 : 61 ∈ u
  · -- the `?` is in the value, which is longer than what `r` has for a value
    obtain ⟨k, v, rfl, hk⟩ := List.eq_append_cons_of_mem h61
    have hv : Whole v := @Whole.right (k ++ [61]) v (by simpa using hu)
    have hcut : breakOn [61] (k ++ 61 :: (v ++ 63 :: r)) = some (k, v ++ 63 :: r) := breakOn_append hk _
    rw [List.append_assoc, List.cons_append, (text_of_some hcut).2] at hvalue
    have hlong := hlonger hv r
    cases hcut' : breakOn [61] r with
    | none =>
      rw [(text_of_none hcut').2] at hvalue
      rw [hvalue] at hlong
      simp [decodeForm] at hlong
    | some c =>
      obtain ⟨k', v'⟩ := c
      obtain rfl : r = k' ++ 61 :: v' := by simpa using breakOn_eq_append hcut'
      have hle := length_decodeForm_le k' v'
      rw [(text_of_some hcut').2] at hvalue
      rw [hvalue] at hlong
      omega
  · -- the `?` is in the key
    cases hcut : breakOn [61] r with
    | none =>
      have hnone : breakOn [61] (u ++ 63 :: r) = none :=
        breakOn_eq_none (by simp [h61, breakOn_singleton_eq_none.mp hcut])
      rw [(text_of_none hnone).1, (text_of_none hcut).1] at hkey
      exact absurd (congrArg List.length hkey) (Nat.ne_of_gt (hlonger hu r))
    | some c =>
      obtain ⟨k, v⟩ := c
      obtain rfl : r = k ++ 61 :: v := by simpa using breakOn_eq_append hcut
      have hk : 61 ∉ k := breakOn_singleton_eq_none.mp (breakOn_before (by simp) hcut)
      have hcut' : breakOn [61] (u ++ 63 :: (k ++ 61 :: v)) = some (u ++ 63 :: k, v) := by
        simpa using @breakOn_append 61 [] (u ++ 63 :: k) (by simp [h61, hk]) v
      rw [(text_of_some hcut').1, (text_of_some hcut).1] at hkey
      exact absurd (congrArg List.length hkey) (Nat.ne_of_gt (hlonger hu k))

/-- A text with an `&`, cut at its last one. -/
theorem exists_last_cut {c : UInt8} {s : Bytes} (h : c ∈ s) : ∃ w x, s = w ++ c :: x ∧ c ∉ x := by
  obtain ⟨x, w, heq, hx⟩ := List.eq_append_cons_of_mem (List.mem_reverse.mpr h)
  refine ⟨w.reverse, x.reverse, ?_, by simpa using hx⟩
  have hs := congrArg List.reverse heq
  simpa using hs

/-- A query keeps what its last segment writes. -/
theorem queryMap_last {s : Bytes} (hs : 38 ∉ s) {e : Bytes × Bytes} (he : entryOf s = some e) (w : Bytes) :
    queryMap s e.1 = some e.2 ∧ queryMap (w ++ 38 :: s) e.1 = some e.2 := by
  have hown : queryMap s e.1 = some e.2 := by rw [queryMap_entryOf hs, he, Option.bind_some, if_pos rfl]
  exact ⟨hown, by rw [queryMap_append, StdMap.override, hown, Option.some_or]⟩

/-- The segment that is cut at the `?` is not stored as it should be. -/
theorem queryMap_cut_ne {u r : Bytes} (hr : 38 ∉ r) (hu : Whole u) : queryMap r ≠ queryMap (u ++ 63 :: r) := by
  intro heq
  -- `x` is what the segment has before its `?`
  have hcut : ∀ {x : Bytes}, Whole x → 38 ∉ x → (∀ e, entryOf (x ++ 63 :: r) = some e →
      queryMap (u ++ 63 :: r) e.1 = some e.2) → False := by
    intro x hx hx38 hstored
    have hsome : ∃ e, entryOf (x ++ 63 :: r) = some e := ⟨_, by rw [entryOf, if_neg (by simp)]⟩
    obtain ⟨e, he⟩ := hsome
    have hlast := hstored e he
    rw [← heq, queryMap_entryOf hr] at hlast
    obtain ⟨e', he', hkey⟩ := Option.bind_eq_some_iff.mp hlast
    split at hkey
    · next hk =>
      have hvalue := Option.some.inj hkey
      exact entryOf_cut hx (he.trans ((congrArg some (Prod.ext hk.symm hvalue.symm)).trans he'.symm))
    · cases hkey
  by_cases hamp : 38 ∈ u
  · obtain ⟨w, x, rfl, hx⟩ := exists_last_cut hamp
    refine hcut (x := x) (@Whole.right (w ++ [38]) x (by simpa using hu)) hx fun e he => ?_
    rw [List.append_assoc, List.cons_append]
    exact (queryMap_last (by simp [hx, hr]) he w).2
  · exact hcut hu hamp fun e he => (queryMap_last (by simp [hamp, hr]) he []).1

/-- A query without a `?` parses alike with a path before it and without. One with its first `?` in its last
segment does not, unless an escape is open there. -/
theorem parseQuery_forms_agree (p q : Bytes) (hp : 63 ∉ p) :
    (63 ∉ q → parseQuery q = parseQuery (p ++ 63 :: q)) ∧
      ∀ u r, q = u ++ 63 :: r → 63 ∉ u → 38 ∉ r → Whole u → parseQuery q ≠ parseQuery (p ++ 63 :: q) := by
  refine ⟨fun hq => ?_, fun u r hq hu hr hwhole => ?_⟩
  · rw [parseQuery_target hp, parseQuery_eq, if_pos (breakOn_singleton_eq_none.mpr hq)]
  · subst hq
    rw [parseQuery_target hp, parseQuery_target hu, Ne, Except.ok.injEq]
    exact queryMap_cut_ne hr hwhole

theorem parseQuery_forms_agree_next :
    parseQuery (ascii "a=1&b=two") = parseQuery (ascii "/p" ++ 63 :: ascii "a=1&b=two") ∧
      parseQuery (ascii "b=2&next=/a?b=1") ≠ parseQuery (ascii "/p" ++ 63 :: ascii "b=2&next=/a?b=1") := by
  obtain ⟨hagree, -⟩ := parseQuery_forms_agree (ascii "/p") (ascii "a=1&b=two") (by decide)
  obtain ⟨-, hdiffer⟩ := parseQuery_forms_agree (ascii "/p") (ascii "b=2&next=/a?b=1") (by decide)
  refine ⟨hagree (by decide), hdiffer (ascii "b=2&next=/a") (ascii "b=1") (by decide) (by decide) (by decide) ?_⟩
  intro p q h
  have hmem : (37 : UInt8) ∈ ascii "b=2&next=/a" := by rw [h]; simp
  exact absurd hmem (by decide)

/-- `next=/a?b=1` is read as `b=1` when it comes alone. -/
theorem parseQuery_forms_differ :
    ¬ ∀ p q : Bytes, p.head? = some 47 → 63 ∉ p → parseQuery q = parseQuery (p ++ 63 :: q) := by
  intro h
  have heq := h (ascii "/p") (ascii "next=/a?b=1") (by decide) (by decide)
  rw [parseQuery_target (by decide), parseQuery_eq, Except.ok.injEq] at heq
  have := congrFun heq (ascii "next")
  rw [queryMap_apply, queryMap_apply] at this
  revert this
  decide +kernel

end CameraPlatform
