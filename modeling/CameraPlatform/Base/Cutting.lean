import CameraPlatform.Base.ByteString

/-!
# Cutting longer texts

What a cut of a text says about its prefixes, and how the pieces of joined texts join.
-/

namespace ByteString
variable {needle s t p q : Bytes}

/-! ### The first separator -/

theorem text_of_none (h : breakOn needle s = none) : textBefore needle s = s ∧ textAfter needle s = [] := by
  rw [textBefore, textAfter, h]
  exact ⟨rfl, rfl⟩

theorem text_of_some (h : breakOn needle s = some (p, q)) : textBefore needle s = p ∧ textAfter needle s = q := by
  rw [textBefore, textAfter, h]
  exact ⟨rfl, rfl⟩

theorem length_le_of_breakOn (h : breakOn needle s = some (p, q)) : p.length + needle.length ≤ s.length := by
  rw [breakOn_eq_append h]
  simp

/-- Text that is added at the end moves no separator. -/
theorem breakOn_extend (h : breakOn needle s = some (p, q)) (t : Bytes) :
    breakOn needle (s ++ t) = some (p, q ++ t) := by
  induction s generalizing p q with
  | nil =>
    simp only [breakOn] at h
    split at h
    · next hn =>
      cases h
      rw [hn]
      cases t <;> simp [breakOn]
    · cases h
  | cons b s ih =>
    have hlen := length_le_of_breakOn h
    simp only [breakOn] at h
    split at h
    · next hpre =>
      cases h
      have hpre' := List.isPrefixOf_iff_prefix.mp hpre
      have hlong : needle <+: b :: (s ++ t) := hpre'.trans (List.prefix_append (b :: s) t)
      rw [List.cons_append, breakOn, if_pos (List.isPrefixOf_iff_prefix.mpr hlong), ← List.cons_append,
        List.drop_append_of_le_length hpre'.length_le]
    · next hpre =>
      obtain ⟨⟨p', q'⟩, hb, hp⟩ := Option.map_eq_some_iff.mp h
      cases hp
      have hnot : ¬ needle.isPrefixOf (b :: (s ++ t)) = true := by
        rw [List.isPrefixOf_iff_prefix] at hpre ⊢
        intro hlong
        exact hpre (List.prefix_of_prefix_length_le hlong (List.prefix_append (b :: s) t) (by omega))
      rw [List.cons_append, breakOn, if_neg hnot, ih hb]
      rfl

theorem breakOn_of_prefix (h : breakOn needle s = some (p, q)) (hs : s <+: t) :
    ∃ q', breakOn needle t = some (p, q') ∧ q <+: q' := by
  obtain ⟨r, rfl⟩ := hs
  exact ⟨q ++ r, breakOn_extend h r, List.prefix_append _ _⟩

theorem breakOn_eq_none_iff (hn : needle ≠ []) : breakOn needle s = none ↔ ¬ needle <:+: s := by
  induction s with
  | nil => simp [breakOn, hn]
  | cons b s ih =>
    rw [breakOn, List.infix_cons_iff, ← List.isPrefixOf_iff_prefix]
    split
    · next hpre => simp [hpre]
    · next hpre => simp [hpre, ih]

/-- A byte that a separator does not have parts the text around it. -/
theorem infix_join_iff {c : UInt8} (hc : c ∉ needle) : needle <:+: p ++ c :: q ↔ needle <:+: p ∨ needle <:+: q := by
  constructor
  · intro h
    rcases List.infix_append_iff.mp h with hp | hq | ⟨l, r, hlr, hl, hr⟩
    · exact .inl hp
    · rcases List.infix_cons_iff.mp hq with hpre | hq
      · rcases List.prefix_cons_iff.mp hpre with rfl | ⟨r, rfl, -⟩
        · exact .inl (List.nil_infix)
        · exact absurd List.mem_cons_self hc
      · exact .inr hq
    · rcases List.prefix_cons_iff.mp hr with rfl | ⟨r', rfl, -⟩
      · rw [hlr, List.append_nil]
        exact .inl hl.isInfix
      · exact absurd (by rw [hlr]; simp) hc
  · rintro (h | h)
    · exact List.infix_append_of_infix_left h
    · exact List.infix_append_of_infix_right (List.infix_cons h)

/-- The text before the first separator has none. -/
theorem breakOn_before (hn : needle ≠ []) (h : breakOn needle s = some (p, q)) : breakOn needle p = none := by
  induction s generalizing p q with
  | nil =>
    simp only [breakOn, if_neg hn] at h
    cases h
  | cons b s ih =>
    simp only [breakOn] at h
    split at h
    · cases h
      simp [breakOn, hn]
    · next hpre =>
      obtain ⟨⟨p', q'⟩, hb, hp⟩ := Option.map_eq_some_iff.mp h
      cases hp
      have hnot : ¬ needle.isPrefixOf (b :: p') = true := by
        rw [List.isPrefixOf_iff_prefix] at hpre ⊢
        intro hshort
        refine hpre (hshort.trans ?_)
        rw [breakOn_eq_append hb, List.append_assoc, ← List.cons_append]
        exact List.prefix_append _ _
      rw [breakOn, if_neg hnot, ih hb]
      rfl

theorem breakOn_textBefore (hn : needle ≠ []) (s : Bytes) : breakOn needle (textBefore needle s) = none := by
  unfold textBefore
  cases hb : breakOn needle s with
  | none => exact hb
  | some cut => exact breakOn_before hn hb

/-- A prefix that reaches past the first separator is cut at the same place. -/
theorem breakOn_cut (hn : needle ≠ []) (h : breakOn needle s = some (p, q)) (t : Bytes) :
    breakOn needle (p ++ needle ++ t) = some (p, t) := by
  cases hb : breakOn needle (p ++ needle) with
  | none => exact absurd (List.suffix_append p needle).isInfix ((breakOn_eq_none_iff hn).mp hb)
  | some cut =>
    obtain ⟨p', r⟩ := cut
    have hlong := breakOn_extend hb q
    rw [← breakOn_eq_append h, h] at hlong
    obtain ⟨rfl, hr⟩ := Prod.mk.inj (Option.some.inj hlong)
    have hnil : r = [] := by simpa using hr
    rw [breakOn_extend hb t, hnil, List.nil_append]

/-- The first piece of a prefix ends with it or with the first piece of the text. -/
theorem textBefore_prefix (hn : needle ≠ []) (hs : s <+: t) :
    textBefore needle s <+: textBefore needle t ++ needle := by
  unfold textBefore
  cases hb : breakOn needle s with
  | some cut =>
    obtain ⟨p, q⟩ := cut
    obtain ⟨q', hb', -⟩ := breakOn_of_prefix hb hs
    rw [hb']
    exact List.prefix_append _ _
  | none =>
    cases hb' : breakOn needle t with
    | none => exact hs.trans (List.prefix_append _ _)
    | some cut =>
      obtain ⟨l, q⟩ := cut
      have hl : l ++ needle <+: t := by
        rw [breakOn_eq_append hb']
        exact List.prefix_append _ _
      rcases List.prefix_or_prefix_of_prefix hs hl with hle | hle
      · exact hle
      · exact absurd ((List.suffix_append l needle).isInfix.trans hle.isInfix) ((breakOn_eq_none_iff hn).mp hb)

theorem not_mem_of_breakOn {c : UInt8} (h : breakOn [c] s = some (p, q)) : c ∉ p :=
  breakOn_singleton_eq_none.mp (breakOn_before (by simp) h)

section Border
variable {c : UInt8} {d : Bytes}

/-- A separator that cannot overlap itself is found where it was put. -/
theorem breakOn_put (hc : c ∉ d) (h : breakOn (c :: d) s = none) (t : Bytes) :
    breakOn (c :: d) (s ++ (c :: d ++ t)) = some (s, t) := by
  induction s with
  | nil => exact breakOn_self c d t
  | cons b s ih =>
    rw [breakOn] at h
    split at h
    · cases h
    · next hpre =>
      have hnot : ¬ (c :: d).isPrefixOf (b :: (s ++ (c :: d ++ t))) = true := by
        rw [List.isPrefixOf_iff_prefix] at hpre ⊢
        intro hlong
        rw [← List.cons_append] at hlong
        rcases List.prefix_or_prefix_of_prefix hlong (List.prefix_append (b :: s) _) with hle | ⟨r, hr⟩
        · exact hpre hle
        · have hrest : r <+: c :: (d ++ t) := by
            rw [← List.prefix_append_right_inj (b :: s), hr]
            exact hlong
          rcases List.prefix_cons_iff.mp hrest with rfl | ⟨r', rfl, -⟩
          · exact hpre ⟨[], by simpa using hr.symm⟩
          · have hd : s ++ c :: r' = d := (List.cons.inj (show b :: (s ++ c :: r') = c :: d from hr)).2
            exact hc (by rw [← hd]; simp)
      rw [List.cons_append, breakOn, if_neg hnot, ih (Option.map_eq_none_iff.mp h)]
      rfl

/-- A separator that was put after text without one does not start it, unless there is no text. -/
theorem not_prefix_of_put (hc : c ∉ d) (h : breakOn (c :: d) s = none) (hs : s ≠ []) (t : Bytes) :
    ¬ c :: d <+: s ++ (c :: d ++ t) := by
  intro hpre
  have hcut : breakOn (c :: d) (s ++ (c :: d ++ t)) = some ([], (s ++ (c :: d ++ t)).drop (c :: d).length) := by
    obtain ⟨b, s, rfl⟩ := List.exists_cons_of_ne_nil hs
    exact if_pos (List.isPrefixOf_iff_prefix.mpr hpre)
  rw [breakOn_put hc h t] at hcut
  exact hs (Prod.mk.inj (Option.some.inj hcut)).1

/-- Two separators in a row come first where the first separator is, or in the text after it. -/
theorem breakOn_double (hc : c ∉ d) (h : breakOn (c :: d) p = none) (q : Bytes) :
    breakOn (c :: d ++ (c :: d)) (p ++ (c :: d ++ q)) =
      if c :: d <+: q then some (p, q.drop (d.length + 1))
      else (breakOn (c :: d ++ (c :: d)) q).map fun cut => (p ++ (c :: d) ++ cut.1, cut.2) := by
  induction p with
  | nil =>
    simp only [List.nil_append, List.cons_append]
    by_cases hq : c :: d <+: q
    · obtain ⟨r, rfl⟩ := hq
      rw [if_pos (List.prefix_append _ _), breakOn, if_pos (by simp)]
      simp
    · have hnot : ¬ (c :: (d ++ c :: d)).isPrefixOf (c :: (d ++ q)) = true := by
        rw [List.isPrefixOf_iff_prefix, List.cons_prefix_cons, List.prefix_append_right_inj]
        exact fun hpre => hq hpre.2
      rw [if_neg hq, breakOn, if_neg hnot, breakOn_skip hc, Option.map_map]
      rfl
  | cons b p ih =>
    -- two separators at the start would be one at the start
    have hnot : ¬ (c :: d ++ (c :: d)).isPrefixOf (b :: (p ++ (c :: d ++ q))) = true := by
      rw [List.isPrefixOf_iff_prefix]
      exact fun htwice => not_prefix_of_put hc h (List.cons_ne_nil b p) q ((List.prefix_append _ _).trans htwice)
    rw [breakOn] at h
    split at h
    · cases h
    · show (if (c :: d ++ (c :: d)).isPrefixOf (b :: (p ++ (c :: d ++ q))) = true then _
        else (breakOn (c :: d ++ (c :: d)) (p ++ (c :: d ++ q))).map _) = _
      rw [if_neg hnot, ih (Option.map_eq_none_iff.mp h)]
      split
      · rfl
      · rw [Option.map_map]
        rfl

/-- Lines that are not empty, each ended by a separator, and then an empty line. -/
theorem breakOn_lines (hc : c ∉ d) {x : Bytes} {ls : List Bytes} (h : ∀ l ∈ x :: ls, breakOn (c :: d) l = none)
    (hne : ∀ l ∈ ls, l ≠ []) (t : Bytes) :
    breakOn (c :: d ++ (c :: d)) (x ++ ((ls.flatMap fun l => c :: d ++ l) ++ (c :: d ++ (c :: d ++ t)))) =
      some (x ++ (ls.flatMap fun l => c :: d ++ l), t) := by
  induction ls generalizing x with
  | nil =>
    rw [List.flatMap_nil, List.nil_append, breakOn_double hc (h x (by simp)), if_pos (List.prefix_append _ _)]
    simp
  | cons l ls ih =>
    obtain ⟨hx, hls⟩ := List.forall_mem_cons.mp h
    obtain ⟨hl, hne⟩ := List.forall_mem_cons.mp hne
    have hnot : ¬ c :: d <+: l ++ ((ls.flatMap fun l => c :: d ++ l) ++ (c :: d ++ (c :: d ++ t))) := by
      have hmore : ∃ more, (ls.flatMap fun l => c :: d ++ l) ++ (c :: d ++ (c :: d ++ t)) = c :: d ++ more := by
        cases ls with
        | nil => exact ⟨_, rfl⟩
        | cons l' ls => exact ⟨_, by rw [List.flatMap_cons, List.append_assoc, List.append_assoc]⟩
      obtain ⟨more, hmore⟩ := hmore
      rw [hmore]
      exact not_prefix_of_put hc (hls l (by simp)) hl more
    rw [List.flatMap_cons, List.append_assoc, List.append_assoc, breakOn_double hc hx, if_neg hnot, ih hls hne]
    simp

end Border

/-! ### All separators -/

/-- Induction over the cuts of a text. -/
theorem cut_induction {P : Bytes → Prop} (hn : needle ≠ []) (last : ∀ s, breakOn needle s = none → P s)
    (cut : ∀ s p q, breakOn needle s = some (p, q) → P q → P s) (s : Bytes) : P s := by
  induction hl : s.length using Nat.strong_induction_on generalizing s with
  | _ n ih =>
    cases hb : breakOn needle s with
    | none => exact last s hb
    | some pq =>
      obtain ⟨p, q⟩ := pq
      have hlen := congrArg List.length (breakOn_eq_append hb)
      have hpos := List.length_pos_iff.mpr hn
      simp only [List.length_append] at hlen
      exact cut s p q hb (ih q.length (by omega) q rfl)

/-- The pieces, each with a separator before it, make up the text. -/
theorem flatMap_splitOn (hn : needle ≠ []) (s : Bytes) :
    ((splitOn needle s).flatMap fun x => needle ++ x) = needle ++ s := by
  induction s using cut_induction hn with
  | last s h => rw [splitOn_of_none h]; simp
  | cut s p q h ih => rw [splitOn_of_some hn h, List.flatMap_cons, ih, breakOn_eq_append h]; simp

theorem splitOn_put {c : UInt8} {d : Bytes} (hc : c ∉ d) (s t : Bytes) :
    splitOn (c :: d) (s ++ (c :: d ++ t)) = splitOn (c :: d) s ++ splitOn (c :: d) t := by
  have hn : c :: d ≠ [] := List.cons_ne_nil _ _
  induction s using cut_induction hn with
  | last s h => rw [splitOn_of_some hn (breakOn_put hc h t), splitOn_of_none h]; rfl
  | cut s p q h ih => rw [splitOn_of_some hn (breakOn_extend h _), splitOn_of_some hn h, ih]; rfl

/-- Joined lines are cut into these lines again. -/
theorem splitOn_lines {c : UInt8} {d : Bytes} (hc : c ∉ d) {x : Bytes} {ls : List Bytes}
    (h : ∀ l ∈ x :: ls, breakOn (c :: d) l = none) :
    splitOn (c :: d) (x ++ ls.flatMap fun l => c :: d ++ l) = x :: ls := by
  induction ls generalizing x with
  | nil => rw [List.flatMap_nil, List.append_nil, splitOn_of_none (h x (by simp))]
  | cons l ls ih =>
    obtain ⟨hx, hls⟩ := List.forall_mem_cons.mp h
    rw [List.flatMap_cons, List.append_assoc, splitOn_of_some (List.cons_ne_nil _ _) (breakOn_put hc hx _), ih hls]

theorem not_infix_of_mem_splitOn (hn : needle ≠ []) {x : Bytes} (h : x ∈ splitOn needle s) : ¬ needle <:+: x := by
  induction s using cut_induction hn with
  | last s hs =>
    rw [splitOn_of_none hs, List.mem_singleton] at h
    rw [h]
    exact (breakOn_eq_none_iff hn).mp hs
  | cut s p q hs ih =>
    rw [splitOn_of_some hn hs] at h
    rcases List.mem_cons.mp h with rfl | h
    · exact (breakOn_eq_none_iff hn).mp (breakOn_before hn hs)
    · exact ih h

/-- The pieces of a prefix are those of the text, up to the one in which the prefix ends. -/
theorem splitOn_prefix (hn : needle ≠ []) (hs : s <+: t) : ∃ init x l more,
    splitOn needle s = init ++ [x] ∧ splitOn needle t = init ++ l :: more ∧ x <+: l ++ needle := by
  induction s using cut_induction hn generalizing t with
  | last s h =>
    have hx := textBefore_prefix hn hs
    rw [textBefore, h] at hx
    unfold textBefore at hx
    cases hb : breakOn needle t with
    | none =>
      rw [hb] at hx
      exact ⟨[], s, t, [], splitOn_of_none h, splitOn_of_none hb, hx⟩
    | some cut =>
      obtain ⟨l, q⟩ := cut
      rw [hb] at hx
      exact ⟨[], s, l, splitOn needle q, splitOn_of_none h, splitOn_of_some hn hb, hx⟩
  | cut s p q h ih =>
    obtain ⟨q', hb, hq⟩ := breakOn_of_prefix h hs
    obtain ⟨init, x, l, more, h1, h2, hx⟩ := ih hq
    refine ⟨p :: init, x, l, more, ?_, ?_, hx⟩
    · rw [splitOn_of_some hn h, h1]; rfl
    · rw [splitOn_of_some hn hb, h2]; rfl

end ByteString
