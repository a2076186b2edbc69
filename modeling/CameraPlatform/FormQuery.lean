import CameraPlatform.Base.Cutting
import CameraPlatform.Base.FormUrl
import CameraPlatform.Base.History
import CameraPlatform.HttpRoundTrip

/-!
# `parseQuery` and form encoding

What a sender spells out is read back, and a query is read segment by segment. An escape whose two
bytes are no hexadecimal digits goes to `strtol` all the same, and comes out as another byte.
-/

namespace CameraPlatform
open ByteString FormUrl History

/-! ### `strtol` on two bytes -/

theorem hexDigit?_of_lt {c : UInt8} (h : c < 48) : hexDigit? c = none := by
  have hlow : ∀ d : UInt8, 48 ≤ d → ¬ d ≤ c := fun d hd hc => UInt8.not_lt.mpr (UInt8.le_trans hd hc) h
  rw [hexDigit?, if_neg fun hc => hlow 48 (by decide) hc.1, if_neg fun hc => hlow 97 (by decide) hc.1,
    if_neg fun hc => hlow 65 (by decide) hc.1]

theorem hexDigit?_of_isSpace {c : UInt8} (h : isSpace c = true) : hexDigit? c = none := by
  refine hexDigit?_of_lt ?_
  simp only [isSpace, Bool.or_eq_true, Bool.and_eq_true, decide_eq_true_eq, beq_iff_eq] at h
  rcases h with ⟨-, hc⟩ | rfl
  · exact UInt8.lt_of_le_of_lt hc (by decide)
  · decide

theorem skipHexPrefix_short {s : Bytes} (h : s.length ≤ 2) : skipHexPrefix s = s := by
  unfold skipHexPrefix
  split
  · simp only [List.length_cons] at h
    omega
  · rfl

theorem hexValue_short {s : Bytes} (h : s.length ≤ 1) : hexValue 0 s ≤ 15 := by
  rcases s with _ | ⟨c, _ | ⟨d, s⟩⟩
  · simp [hexValue]
  · unfold hexValue
    cases hc : hexDigit? c with
    | none => simp
    | some x =>
      have := hexDigit?_lt hc
      simp only [hexValue]
      omega
  · simp at h

theorem strtol16_escape {a b c : UInt8} (h : hexByte? a b = some c) : toChar (strtol16 [a, b]) = c := by
  obtain ⟨x, y, ha, hb, rfl⟩ := hexByte?_some h
  have hspace : isSpace a = false := by
    cases hs : isSpace a with
    | false => rfl
    | true => rw [hexDigit?_of_isSpace hs] at ha; cases ha
  have hvalue : strtol16 [a, b] = ((16 * x + y : Nat) : Int) := by
    unfold strtol16
    rw [List.dropWhile_cons_of_neg (by simp [hspace])]
    split
    · next hs => exact absurd (List.cons.inj hs).1 (ne_of_hexDigit? ha (by decide))
    · next hs => exact absurd (List.cons.inj hs).1 (ne_of_hexDigit? ha (by decide))
    · rw [skipHexPrefix_short (by simp)]
      simp [hexValue, ha, hb]
  have hx := hexDigit?_lt ha
  have hy := hexDigit?_lt hb
  rw [toChar, hvalue]
  have hmod : (((16 * x + y : Nat) : Int) % 256).toNat = 16 * x + y := by omega
  rw [hmod]

/-- Two bytes that are no escape never make a `%`. -/
theorem strtol16_junk {a b : UInt8} (h : hexByte? a b = none) : toChar (strtol16 [a, b]) ≠ 37 := by
  have hpair : hexValue 0 [a, b] ≤ 15 := by
    unfold hexByte? at h
    unfold hexValue
    cases ha : hexDigit? a with
    | none => simp
    | some x =>
      have := hexDigit?_lt ha
      cases hb : hexDigit? b with
      | none => simp only [hexValue, hb]; omega
      | some y => rw [ha, hb] at h; cases h
  have hdigits : ∀ s : Bytes, s.length ≤ 1 ∨ s = [a, b] → hexValue 0 (skipHexPrefix s) ≤ 15 := by
    rintro s (hs | rfl)
    · rw [skipHexPrefix_short (by omega)]
      exact hexValue_short hs
    · rw [skipHexPrefix_short (by simp)]
      exact hpair
  have hrest : ([a, b].dropWhile isSpace).length ≤ 1 ∨ [a, b].dropWhile isSpace = [a, b] := by
    cases hs : isSpace a with
    | false => exact .inr (List.dropWhile_cons_of_neg (by simp [hs]))
    | true =>
      rw [List.dropWhile_cons_of_pos hs]
      exact .inl (List.dropWhile_suffix _).length_le
  have hlen : ([a, b].dropWhile isSpace).length ≤ 2 := (List.dropWhile_suffix _).length_le
  have hbounds : -15 ≤ strtol16 [a, b] ∧ strtol16 [a, b] ≤ 15 := by
    unfold strtol16
    split
    · next s hs =>
      rw [hs, List.length_cons] at hlen
      have := hdigits s (.inl (by omega))
      omega
    · next s hs =>
      rw [hs, List.length_cons] at hlen
      have := hdigits s (.inl (by omega))
      omega
    · have := hdigits _ hrest
      omega
  intro heq
  have hnat : (strtol16 [a, b] % 256).toNat % 256 = 37 := by
    have := congrArg UInt8.toNat heq
    simpa [toChar] using this
  omega

/-! ### Malformed escapes -/

theorem decodeForm_iff (s : Bytes) : decodeForm s = percentDecode s ↔ Complete s := by
  induction s using decodeForm.induct with
  | case1 => exact iff_of_true rfl complete_nil
  | case2 a b s ih =>
    rw [decodeForm]
    cases h : hexByte? a b with
    | some c =>
      rw [percentDecode_escape h, strtol16_escape h, List.cons.injEq, complete_escape h]
      simpa using ih
    | none =>
      refine iff_of_false (fun heq => ?_) fun hc => ?_
      · rw [percentDecode, h] at heq
        exact strtol16_junk h (List.cons.inj heq).1
      · have := hc [] a b s rfl
        rw [h] at this
        cases this
  | case3 c s hpair ih =>
    have hc : c ≠ 37 ∨ s.length < 2 := by
      by_cases hc : c = 37
      · right
        rcases s with _ | ⟨a, _ | ⟨b, s⟩⟩
        · simp
        · simp
        · exact absurd rfl (hpair a b s hc)
      · exact .inl hc
    rw [decodeForm_cons hc, complete_cons hc, ← ih]
    have hhead : percentDecode (c :: s) = (if c = 43 then 32 else c) :: percentDecode s := by
      rw [percentDecode]
      rintro a b t rfl rfl
      rcases hc with hc | hc
      · exact hc rfl
      · simp only [List.length_cons] at hc
        omega
    rw [hhead, List.cons.injEq, eq_self, true_and]

theorem set_empty_inj {k k' v v' : Bytes} : StdMap.empty.set k v = StdMap.empty.set k' v' ↔ k = k' ∧ v = v' := by
  constructor
  · intro h
    have hk := congrFun h k
    by_cases hkk : k = k'
    · subst hkk
      simpa [StdMap.set] using hk
    · simp [StdMap.set, StdMap.empty, hkk] at hk
  · rintro ⟨rfl, rfl⟩
    rfl

/-- A pair is cut at its first `=`. -/
theorem setPair_eq {k : Bytes} (hk : 61 ∉ k) (v : Bytes) (m : StdMap) :
    setPair m (k ++ 61 :: v) = m.set (decodeForm k) (decodeForm v) := by
  have hcut : breakOn [61] (k ++ 61 :: v) = some (k, v) := breakOn_append hk v
  rw [setPair, if_neg (by simp), textBefore, textAfter, hcut]

/-- The query of a target starts at the first `?`. -/
theorem parseQuery_target {p : Bytes} (hp : 63 ∉ p) (q : Bytes) : parseQuery (p ++ 63 :: q) = .ok (queryMap q) := by
  have hcut : breakOn [63] (p ++ 63 :: q) = some (p, q) := breakOn_append hp q
  rw [parseQuery_eq, textAfter, hcut, if_neg (by simp)]

/-- Decoding is that of the reference if and only if no `%` is followed by two bytes that are not both
hexadecimal digits, for every text and for the key and the value of every pair. -/
theorem decode_reference_iff (k v : Bytes) :
    (decode k = .ok (percentDecode k) ↔ Complete k) ∧
    (decode v = .ok (percentDecode v) ↔ Complete v) ∧
    ∀ p, 63 ∉ p → 38 ∉ k → 61 ∉ k → 38 ∉ v →
      (parseQuery (p ++ 63 :: (k ++ 61 :: v)) = .ok (StdMap.empty.set (percentDecode k) (percentDecode v)) ↔
        Complete k ∧ Complete v) := by
  refine ⟨?_, ?_, fun p hp hk hk' hv => ?_⟩
  · rw [decode_eq, Except.ok.injEq, decodeForm_iff]
  · rw [decode_eq, Except.ok.injEq, decodeForm_iff]
  · have hone : breakOn [38] (k ++ 61 :: v) = none := breakOn_eq_none (by simp [hk, hv])
    rw [parseQuery_target hp, queryMap, splitOn_of_none hone, List.foldl_cons, List.foldl_nil, setPair_eq hk',
      Except.ok.injEq, set_empty_inj, decodeForm_iff, decodeForm_iff]

/-- `%zz` becomes a NUL byte, and `%-1` the byte `0xff`. -/
theorem decode_differs :
    decode (ascii "%zz") = .ok [0] ∧ percentDecode (ascii "%zz") = ascii "%zz" ∧
    decode (ascii "%-1") = .ok [255] ∧ percentDecode (ascii "%-1") = ascii "%-1" ∧
    ¬ ∀ s, decode s = .ok (percentDecode s) := by
  have hzz : decode (ascii "%zz") = .ok [0] := by decide +kernel
  have href : percentDecode (ascii "%zz") = ascii "%zz" := by decide +kernel
  refine ⟨hzz, href, by decide +kernel, by decide +kernel, fun h => ?_⟩
  have := h (ascii "%zz")
  rw [hzz, href] at this
  exact absurd this (by decide)

/-! ### Segments -/

/-- The entries of both maps, those of `m'` where both have one. -/
def StdMap.override (m m' : StdMap) : StdMap := fun k => (m' k).or (m k)

namespace StdMap

theorem override_empty (m : StdMap) : m.override empty = m := rfl

theorem override_assoc (m m' m'' : StdMap) : (m.override m').override m'' = m.override (m'.override m'') := by
  funext k
  exact (Option.or_assoc ..).symm

theorem override_set (m m' : StdMap) (k v : Bytes) : m.override (m'.set k v) = (m.override m').set k v := by
  funext x
  by_cases hx : x = k <;> simp [override, set, hx]

end StdMap

theorem setPair_override (m : StdMap) (pair : Bytes) : setPair m pair = m.override (setPair StdMap.empty pair) := by
  unfold setPair
  split
  · rfl
  · rw [StdMap.override_set, StdMap.override_empty]

/-- What the segments store does not depend on the map they are stored into. -/
theorem foldl_setPair (pairs : List Bytes) (m : StdMap) :
    pairs.foldl setPair m = m.override (pairs.foldl setPair StdMap.empty) := by
  induction pairs generalizing m with
  | nil => rfl
  | cons pair pairs ih =>
    rw [List.foldl_cons, List.foldl_cons, ih, setPair_override, StdMap.override_assoc, ← ih]

theorem queryMap_append (q q' : Bytes) : queryMap (q ++ 38 :: q') = (queryMap q).override (queryMap q') := by
  have hsplit : splitOn [38] (q ++ 38 :: q') = splitOn [38] q ++ splitOn [38] q' := splitOn_put (by simp) q q'
  rw [queryMap, hsplit, List.foldl_append, foldl_setPair, queryMap, queryMap]

/-- The entry one segment of a query writes. -/
def entryOf (segment : Bytes) : Option (Bytes × Bytes) :=
  if segment.isEmpty then none
  else some (decodeForm (textBefore [61] segment), decodeForm (textAfter [61] segment))

/-- The entries a query writes, in order. -/
def entries (q : Bytes) : List (Bytes × Bytes) := (splitOn [38] q).filterMap entryOf

theorem foldl_setPair_eq (segments : List Bytes) (m : StdMap) (k : Bytes) :
    segments.foldl setPair m k = (last k (segments.filterMap entryOf)).or (m k) := by
  induction segments using List.reverseRecOn with
  | nil => rfl
  | append_singleton segments s ih =>
    rw [List.foldl_append, List.filterMap_append, List.foldl_cons, List.foldl_nil, setPair]
    by_cases hs : s.isEmpty = true
    · rw [if_pos hs, ih, List.filterMap_cons_none (by rw [entryOf, if_pos hs]), List.filterMap_nil, List.append_nil]
    · rw [if_neg hs, List.filterMap_cons_some (by rw [entryOf, if_neg hs]), List.filterMap_nil, last_concat,
        StdMap.set]
      by_cases hk : k = decodeForm (textBefore [61] s)
      · rw [hk, Function.update_self, if_pos rfl]; rfl
      · rw [Function.update_of_ne hk, ih, if_neg (Ne.symm hk)]

/-- A query stores its last entry of each key. -/
theorem queryMap_apply (q k : Bytes) : queryMap q k = last k (entries q) := by
  rw [queryMap, foldl_setPair_eq]
  exact Option.or_none

theorem queryMap_segment {s : Bytes} (hs : 38 ∉ s) : queryMap s = setPair StdMap.empty s := by
  rw [queryMap, splitOn_of_none (breakOn_singleton_eq_none.mpr hs)]
  rfl

/-- What the query `q` stores. -/
structure Stores (q : Bytes) (m : StdMap) : Prop where
  /-- Of several values of a key, the last. -/
  last : ∀ k, m k = last k (entries q)
  empty : q = [] → m = StdMap.empty
  /-- One segment stores what stands before its first `=` with what stands after it, each decoded by itself. -/
  segment : q ≠ [] → 38 ∉ q → ∃ key value, decode (q.takeWhile (· ≠ 61)) = .ok key ∧
    decode (q.dropWhile (· ≠ 61)).tail = .ok value ∧ m = StdMap.empty.set key value

theorem stores_queryMap (q : Bytes) : Stores q (queryMap q) := by
  refine ⟨queryMap_apply q, fun hq => ?_, fun hq hone => ⟨_, _, decode_eq _, decode_eq _, ?_⟩⟩
  · rw [hq, queryMap_segment (by simp)]
    rfl
  · rw [queryMap_segment hone, setPair, if_neg (by simpa using hq), textBefore_singleton, textAfter_singleton]

/-- Joining two queries with `&` merges their maps, the second one over the first. -/
theorem parseQuery_merge {p : Bytes} (hp : 63 ∉ p) (q q' : Bytes) : ∃ m m',
    parseQuery (p ++ 63 :: q) = .ok m ∧ parseQuery (p ++ 63 :: q') = .ok m' ∧
      parseQuery (p ++ 63 :: (q ++ 38 :: q')) = .ok (m.override m') ∧
      Stores q m ∧ Stores q' m' ∧ Stores (q ++ 38 :: q') (m.override m') := by
  refine ⟨_, _, parseQuery_target hp q, parseQuery_target hp q', ?_, stores_queryMap q, stores_queryMap q', ?_⟩
  · rw [parseQuery_target hp, queryMap_append]
  · rw [← queryMap_append]
    exact stores_queryMap _

theorem parseQuery_merge_again : ∃ m m',
    parseQuery (ascii "/a" ++ 63 :: ascii "x=1&&y") = .ok m ∧ parseQuery (ascii "/a" ++ 63 :: ascii "x=%2&?") = .ok m' ∧
      parseQuery (ascii "/a" ++ 63 :: (ascii "x=1&&y" ++ 38 :: ascii "x=%2&?")) = .ok (m.override m') ∧
      m (ascii "x") = some (ascii "1") ∧ (m.override m') (ascii "x") = some (ascii "%2") ∧
      (m.override m') (ascii "y") = some [] := by
  obtain ⟨m, m', hm, hm', hboth, hstored, -, hmerged⟩ :=
    @parseQuery_merge (ascii "/a") (by decide) (ascii "x=1&&y") (ascii "x=%2&?")
  refine ⟨m, m', hm, hm', hboth, ?_, ?_, ?_⟩
  · rw [hstored.last]; decide +kernel
  · rw [hmerged.last]; decide +kernel
  · rw [hmerged.last]; decide +kernel

/-! ### Form-encoded maps -/

/-- One `key=value` segment, each byte written in one of its ways. -/
def SpellsPair (entry : Bytes × Bytes) (segment : Bytes) : Prop :=
  ∃ k v, Spelling [38, 61] entry.1 k ∧ Spelling [38] entry.2 v ∧ segment = k ++ 61 :: v

/-- A map as a sender may write it: its entries in any order, with empty segments anywhere. -/
structure FormQuery where
  path : Bytes
  entries : List (Bytes × Bytes)
  segments : List Bytes
  path_text : 63 ∉ path
  keys_distinct : (entries.map Prod.fst).Nodup
  spelled : List.Forall₂ SpellsPair entries (segments.filter fun x => !x.isEmpty)

theorem SpellsPair.setPair {entry : Bytes × Bytes} {segment : Bytes} (h : SpellsPair entry segment) (m : StdMap) :
    setPair m segment = m.set entry.1 entry.2 := by
  obtain ⟨k, v, hk, hv, rfl⟩ := h
  rw [setPair_eq (hk.not_mem (by simp) (by decide) (by decide) (by decide)), (decodeForm_iff k).mpr hk.complete,
    (decodeForm_iff v).mpr hv.complete, hk.percentDecode, hv.percentDecode]

theorem SpellsPair.not_mem {entry : Bytes × Bytes} {segment : Bytes} (h : SpellsPair entry segment) : 38 ∉ segment := by
  obtain ⟨k, v, hk, hv, rfl⟩ := h
  have hk' : 38 ∉ k := hk.not_mem (by simp) (by decide) (by decide) (by decide)
  have hv' : 38 ∉ v := hv.not_mem (by simp) (by decide) (by decide) (by decide)
  simp [hk', hv']

/-- Empty segments store nothing. -/
theorem foldl_setPair_filter (segments : List Bytes) (m : StdMap) :
    (segments.filter fun x => !x.isEmpty).foldl setPair m = segments.foldl setPair m := by
  rw [List.foldl_filter]
  congr 1
  funext m x
  cases x <;> simp [setPair]

theorem foldl_setPair_spelled {entries : List (Bytes × Bytes)} {segments : List Bytes}
    (h : List.Forall₂ SpellsPair entries segments) (m : StdMap) :
    segments.foldl setPair m = entries.foldl (fun m e => m.set e.1 e.2) m := by
  induction h generalizing m with
  | nil => rfl
  | cons hpair _ ih => rw [List.foldl_cons, List.foldl_cons, hpair.setPair, ih]

theorem not_mem_of_spelled {entries : List (Bytes × Bytes)} {segments : List Bytes}
    (h : List.Forall₂ SpellsPair entries segments) : ∀ x ∈ segments, 38 ∉ x := by
  induction h with
  | nil => simp
  | cons hpair _ ih =>
    intro x hx
    rcases List.mem_cons.mp hx with rfl | hx
    · exact hpair.not_mem
    · exact ih x hx

theorem intercalate_cons (sep l : Bytes) (ls : List Bytes) :
    List.intercalate sep (l :: ls) = l ++ ls.flatMap fun x => sep ++ x := by
  induction ls generalizing l with
  | nil => simp
  | cons x ls ih =>
    rw [List.intercalate_cons_cons, ih, List.flatMap_cons]
    simp

namespace FormQuery

def target (f : FormQuery) : Bytes := f.path ++ 63 :: List.intercalate [38] f.segments

theorem not_mem_segments (f : FormQuery) : ∀ x ∈ f.segments, 38 ∉ x := by
  intro x hx
  by_cases hne : x = []
  · simp [hne]
  · exact not_mem_of_spelled f.spelled x (List.mem_filter.mpr ⟨hx, by simpa using hne⟩)

/-- The query stores the entries, one after the other. -/
theorem queryMap_segments (f : FormQuery) :
    queryMap (List.intercalate [38] f.segments) = f.entries.foldl (fun m e => m.set e.1 e.2) StdMap.empty := by
  rw [← foldl_setPair_spelled f.spelled, foldl_setPair_filter, queryMap]
  cases hs : f.segments with
  | nil =>
    rw [List.intercalate_nil, splitOn_of_none (breakOn_eq_none (by simp))]
    simp [setPair]
  | cons l ls =>
    have hcut := @splitOn_intercalate 38 [] l ls fun x hx => f.not_mem_segments x (hs ▸ hx)
    rw [intercalate_cons, hcut]

end FormQuery

/-- `parseQuery` undoes form encoding, whatever is written as an escape. -/
theorem parseQuery_formQuery (f : FormQuery) : ∃ m, parseQuery f.target = .ok m ∧
    ∀ k v, m k = some v ↔ (k, v) ∈ f.entries := by
  refine ⟨_, parseQuery_target f.path_text _, fun k v => ?_⟩
  rw [f.queryMap_segments, foldl_set_apply f.keys_distinct]
  simp [StdMap.empty]

end CameraPlatform
