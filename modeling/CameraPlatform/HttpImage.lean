import CameraPlatform.FormQuery
import CameraPlatform.HttpHead
import CameraPlatform.Protocol
import CameraPlatform.QueryForms
import Mathlib.Data.Set.Finite.List

/-!
# The requests that `parseRequest` can make

`HttpRequest.WellFormed` says it of the fields alone. That every request of this form is made takes a
text for it: `print` writes one.
-/

namespace CameraPlatform
open ByteString FormUrl History

namespace StdMap

/-- A `std::map` has finitely many entries. -/
def Finite (m : StdMap) : Prop := {k | m k ≠ none}.Finite

theorem Finite.entries {m : StdMap} (h : m.Finite) : ∃ entries : List (Bytes × Bytes),
    (entries.map Prod.fst).Nodup ∧ ∀ k v, m k = some v ↔ (k, v) ∈ entries := by
  have hmem : ∀ k, k ∈ h.toFinset ↔ m k ≠ none := fun k => Set.Finite.mem_toFinset h
  refine ⟨h.toFinset.toList.map fun k => (k, (m k).getD []), ?_, fun k v => ?_⟩
  · simpa [Function.comp_def] using h.toFinset.nodup_toList
  · simp only [List.mem_map, Finset.mem_toList, hmem, Prod.mk.injEq]
    constructor
    · intro hv
      exact ⟨k, by simp [hv], rfl, by simp [hv]⟩
    · rintro ⟨_, hne, rfl, rfl⟩
      obtain ⟨v, hv⟩ := Option.ne_none_iff_exists'.mp hne
      simp [hv]

theorem finite_last (writes : List (Bytes × Bytes)) : Finite fun k => last k writes := by
  refine (writes.map Prod.fst).finite_toSet.subset fun k hk => ?_
  obtain ⟨v, hv⟩ := Option.ne_none_iff_exists'.mp hk
  exact List.mem_map.mpr ⟨(k, v), mem_of_last hv, rfl⟩

end StdMap

/-- A header as it is stored. -/
structure StoredField (name value : Bytes) : Prop where
  name_ne : name ≠ []
  name_lower : toLowerHelper name = name
  name_text : 58 ∉ name ∧ ¬ crlf <:+: name
  name_trimmed : Trimmed name
  value_text : ¬ crlf <:+: value
  value_trimmed : Trimmed value

/-- What holds of every request that was accepted, and of no other. -/
structure HttpRequest.WellFormed (r : HttpRequest) : Prop where
  method_ne : r.method ≠ []
  method_text : 32 ∉ r.method ∧ ¬ crlf <:+: r.method
  path_slash : r.path.head? = some 47
  path_text : 32 ∉ r.path ∧ 63 ∉ r.path ∧ ¬ crlf <:+: r.path
  query_finite : r.query.Finite
  headers_finite : r.headers.Finite
  headers_stored : ∀ name value, r.headers name = some value → StoredField name value

/-! ### What is accepted is well formed -/

theorem trimmed_trim (s : Bytes) : Trimmed (trim s) := by
  have hlast : ∀ b ∈ (trim s).getLast?, isSpace b = false := by
    intro b hb
    have hne : trim s ≠ [] := by
      intro hnil
      rw [hnil] at hb
      cases hb
    have hkept := List.rdropWhile_last_not isSpace _ hne
    rw [List.getLast?_eq_some_getLast hne, Option.mem_some_iff] at hb
    rw [← hb]
    exact Bool.eq_false_iff.mpr hkept
  refine ⟨fun b hb => ?_, hlast⟩
  obtain ⟨t, ht⟩ := List.rdropWhile_prefix isSpace (l := s.dropWhile isSpace)
  obtain ⟨rest, hrest⟩ : ∃ rest, trim s = b :: rest := ⟨_, List.eq_cons_of_mem_head? hb⟩
  have hdrop : s.dropWhile isSpace = b :: (rest ++ t) := by
    rw [← ht]
    show trim s ++ t = _
    rw [hrest]
    rfl
  have hhead := List.dropWhile_get_zero_not isSpace s (by rw [hdrop]; simp)
  simp only [hdrop, List.get_eq_getElem, List.getElem_cons_zero] at hhead
  exact Bool.eq_false_iff.mpr hhead

/-- Only capital letters are changed, and into small ones. -/
theorem toLower_cases (c : UInt8) :
    toLower c = c ∨ (65 ≤ c.toNat ∧ c.toNat ≤ 90) ∧ (toLower c).toNat = c.toNat + 32 := by
  by_cases hc : 65 ≤ c ∧ c ≤ 90
  · have hrange : 65 ≤ c.toNat ∧ c.toNat ≤ 90 := hc
    have hlower : toLower c = c + 32 := by simp [toLower, hc]
    refine .inr ⟨hrange, ?_⟩
    rw [hlower, UInt8.toNat_add]
    simp only [UInt8.reduceToNat]
    omega
  · left
    simp only [toLower, Bool.and_eq_true, decide_eq_true_eq]
    exact if_neg hc

theorem toLower_eq_iff {b : UInt8} (hb : b.toNat < 65) (c : UInt8) : toLower c = b ↔ c = b := by
  rcases toLower_cases c with hc | ⟨hc, hlower⟩
  · rw [hc]
  · rw [← UInt8.toNat_inj, ← UInt8.toNat_inj, hlower]
    omega

theorem isSpace_eq_false {c : UInt8} (h : 65 ≤ c.toNat) : isSpace c = false := by
  have hrange : ¬ (9 ≤ c ∧ c ≤ 13) := by
    rw [UInt8.le_iff_toNat_le, UInt8.le_iff_toNat_le]
    simp only [UInt8.reduceToNat]
    omega
  have hblank : c ≠ 32 := by
    rintro rfl
    simp at h
  simpa [isSpace, hblank] using hrange

theorem isSpace_toLower (c : UInt8) : isSpace (toLower c) = isSpace c := by
  rcases toLower_cases c with hc | ⟨hc, hlower⟩
  · rw [hc]
  · rw [isSpace_eq_false hc.1, isSpace_eq_false (by omega)]

theorem toLowerHelper_idem (s : Bytes) : toLowerHelper (toLowerHelper s) = toLowerHelper s := by
  have h : ∀ c : UInt8, toLower (toLower c) = toLower c := by
    intro c
    rcases toLower_cases c with hc | ⟨hc, hlower⟩
    · rw [hc, hc]
    · rcases toLower_cases (toLower c) with hc' | ⟨hc', -⟩
      · exact hc'
      · omega
  simp [toLowerHelper, h]

theorem Trimmed.toLowerHelper {s : Bytes} (h : Trimmed s) : Trimmed (toLowerHelper s) := by
  constructor
  · intro b hb
    rw [CameraPlatform.toLowerHelper, List.head?_map, Option.mem_map] at hb
    obtain ⟨c, hc, rfl⟩ := hb
    rw [isSpace_toLower]
    exact h.1 c hc
  · intro b hb
    rw [CameraPlatform.toLowerHelper, List.getLast?_map, Option.mem_map] at hb
    obtain ⟨c, hc, rfl⟩ := hb
    rw [isSpace_toLower]
    exact h.2 c hc

theorem mem_toLowerHelper {b : UInt8} (hb : b.toNat < 65) {s : Bytes} : b ∈ toLowerHelper s ↔ b ∈ s := by
  simp [toLowerHelper, toLower_eq_iff hb]

/-- The case of a name has no part in line ends. -/
theorem crlf_infix_toLowerHelper {s : Bytes} (h : crlf <:+: toLowerHelper s) : crlf <:+: s := by
  obtain ⟨p, q, hpq⟩ := h
  obtain ⟨pc, s', rfl, hpc, rfl⟩ := List.map_eq_append_iff.mp hpq.symm
  obtain ⟨p', c, rfl, rfl, hc⟩ := List.map_eq_append_iff.mp hpc
  have hcrlf : c = crlf := by
    obtain ⟨x, c, rfl, hx, hc⟩ := List.map_eq_cons_iff.mp hc
    obtain ⟨y, c, rfl, hy, hc⟩ := List.map_eq_cons_iff.mp hc
    rw [List.map_eq_nil_iff.mp hc, (toLower_eq_iff (by decide) x).mp hx, (toLower_eq_iff (by decide) y).mp hy]
    rfl
  exact ⟨p', s', by rw [hcrlf]⟩

theorem not_crlf_textBefore (s : Bytes) : ¬ crlf <:+: textBefore crlf s :=
  (breakOn_eq_none_iff crlf_ne_nil).mp (breakOn_textBefore crlf_ne_nil s)

theorem not_crlf_of_headerLines {head line : Bytes} (h : line ∈ headerLines head) : ¬ crlf <:+: line := by
  unfold headerLines at h
  cases hb : breakOn crlf head with
  | none =>
    rw [hb] at h
    cases h
  | some cut =>
    rw [hb] at h
    exact not_infix_of_mem_splitOn crlf_ne_nil h

theorem trim_isInfix (s : Bytes) : trim s <:+: s :=
  (List.rdropWhile_prefix isSpace _).isInfix.trans (List.dropWhile_suffix isSpace).isInfix

/-- The field of a header line is one that can be stored. -/
theorem HeaderForm.stored {line : Bytes} (h : HeaderForm line) (htext : ¬ crlf <:+: line) :
    StoredField (toLowerHelper (fieldOf line).1) (fieldOf line).2 := by
  obtain ⟨name, value, rfl, hcolon, hne⟩ := h
  have hcut : breakOn [58] (name ++ 58 :: value) = some (name, value) := breakOn_append hcolon value
  have hfield : fieldOf (name ++ 58 :: value) = (trim name, trim value) := by rw [fieldOf, textBefore, textAfter, hcut]
  have hname : trim name <:+: name ++ 58 :: value := (trim_isInfix name).trans List.infix_append_left
  have hvalue : trim value <:+: name ++ 58 :: value :=
    (trim_isInfix value).trans ((List.suffix_cons 58 value).isInfix.trans List.infix_append_right)
  rw [hfield]
  refine ⟨by simpa [toLowerHelper] using hne, toLowerHelper_idem _, ⟨?_, fun hcrlf => ?_⟩, (trimmed_trim name).toLowerHelper,
    fun hcrlf => htext (hcrlf.trans hvalue), trimmed_trim value⟩
  · rw [mem_toLowerHelper (by decide)]
    exact fun hmem => hcolon ((trim_isInfix name).subset hmem)
  · exact htext ((crlf_infix_toLowerHelper hcrlf).trans hname)

theorem targetQuery_finite (target : Bytes) : (targetQuery target).Finite := by
  unfold targetQuery
  split
  · exact StdMap.finite_last []
  · have hlast : queryMap (textAfter [63] target) = fun k => last k (entries (textAfter [63] target)) :=
      funext fun k => queryMap_apply _ k
    rw [hlast]
    exact StdMap.finite_last _

theorem wellFormed_of_request {raw : Bytes} {r : HttpRequest} (h : request raw = (true, r)) : r.WellFormed := by
  obtain ⟨method, target, version, hform, hok, hr⟩ := request_true_iff.mp h
  have hline := not_crlf_textBefore (headOf raw)
  rw [hform.line_eq] at hline
  have hpath : textBefore [63] target <+: target := by
    rw [textBefore_singleton]
    exact List.takeWhile_prefix _
  have htarget : target <:+: method ++ 32 :: (target ++ 32 :: version) :=
    List.infix_append_of_infix_right (List.infix_cons List.infix_append_left)
  have hquestion : 63 ∉ textBefore [63] target := breakOn_singleton_eq_none.mp (breakOn_textBefore (by simp) target)
  have hslash : (textBefore [63] target).head? = some 47 := by
    obtain ⟨t, rfl⟩ : ∃ t, target = 47 :: t := ⟨_, List.eq_cons_of_mem_head? hform.target_slash⟩
    rw [textBefore_singleton]
    rfl
  have hheaders : ∀ key, r.headers key = last key (headerWrites (headerLines (headOf raw))) := headers_eq_last h
  refine ⟨?_, ?_, ?_, ?_, ?_, ?_, fun name value hname => ?_⟩
  · rw [hr]
    exact hform.method_ne
  · rw [hr]
    exact ⟨hform.method_text, fun hcrlf => hline (hcrlf.trans List.infix_append_left)⟩
  · rw [hr]
    exact hslash
  · rw [hr]
    exact ⟨fun hspace => hform.target_text (hpath.subset hspace), hquestion,
      fun hcrlf => hline (hcrlf.trans (hpath.isInfix.trans htarget))⟩
  · rw [hr]
    exact targetQuery_finite target
  · rw [show r.headers = fun key => last key (headerWrites (headerLines (headOf raw))) from funext hheaders]
    exact StdMap.finite_last _
  · rw [hheaders] at hname
    obtain ⟨f, hf, hw⟩ := List.mem_map.mp (mem_of_last hname)
    obtain ⟨line, hline, rfl⟩ := List.mem_map.mp hf
    obtain ⟨hmem, hne⟩ := List.mem_filter.mp hline
    obtain ⟨rfl, rfl⟩ := Prod.mk.inj hw
    have hlines := (headerMap_spec (nil_not_mem_headerLines raw) StdMap.empty).1.mp hok
    exact (hlines line hmem (by simpa using hne)).stored (not_crlf_of_headerLines hmem)

/-! ### What is well formed is accepted -/

def escapedSegment (entry : Bytes × Bytes) : Bytes := escapeAll entry.1 ++ 61 :: escapeAll entry.2

/-- A query with every byte of its keys and values escaped. -/
def escapedQuery (entries : List (Bytes × Bytes)) : Bytes := List.intercalate [38] (entries.map escapedSegment)

theorem not_mem_escapedQuery {d : UInt8} (hhex : hexDigit? d = none) (hd : d ∉ ([37, 43, 38, 61] : List UInt8))
    (entries : List (Bytes × Bytes)) : d ∉ escapedQuery entries := by
  simp only [List.mem_cons, List.not_mem_nil, or_false, not_or] at hd
  obtain ⟨hpercent, hplus, hand, hequals⟩ := hd
  have hsegment : ∀ entry, d ∉ escapedSegment entry := by
    intro entry
    simp [escapedSegment, hequals, not_mem_escapeAll hhex hpercent hplus]
  unfold escapedQuery
  cases entries with
  | nil => simp
  | cons entry entries =>
    rw [List.map_cons, intercalate_cons]
    simp [hsegment, hand]

theorem spelled_escaped (entries : List (Bytes × Bytes)) :
    List.Forall₂ SpellsPair entries ((entries.map escapedSegment).filter fun x => !x.isEmpty) := by
  induction entries with
  | nil => exact .nil
  | cons entry entries ih =>
    rw [List.map_cons, List.filter_cons_of_pos (by simp [escapedSegment])]
    exact .cons ⟨_, _, spelling_escapeAll _ _, spelling_escapeAll _ _, rfl⟩ ih

/-- The lines of a text that was made of lines. -/
theorem cut_of_lines {x : Bytes} {ls : List Bytes} (h : ∀ l ∈ x :: ls, ¬ crlf <:+: l) (hne : ∀ l ∈ ls, l ≠ []) (t : Bytes) :
    let raw := x ++ ((ls.flatMap fun l => crlf ++ l) ++ (crlf ++ (crlf ++ t)))
    textBefore crlf (headOf raw) = x ∧ headerLines (headOf raw) = ls ∧ textAfter (crlf ++ crlf) raw = t := by
  intro raw
  have hcr : (13 : UInt8) ∉ ([10] : Bytes) := by simp
  have hnone : ∀ l ∈ x :: ls, breakOn crlf l = none := fun l hl => (breakOn_eq_none_iff crlf_ne_nil).mpr (h l hl)
  have hbreak : breakOn (crlf ++ crlf) raw = some (x ++ (ls.flatMap fun l => crlf ++ l), t) := breakOn_lines hcr hnone hne t
  have hhead : headOf raw = x ++ ls.flatMap fun l => crlf ++ l := (text_of_some hbreak).1
  rw [hhead]
  refine ⟨?_, ?_, (text_of_some hbreak).2⟩
  · cases ls with
    | nil =>
      rw [List.flatMap_nil, List.append_nil]
      exact (text_of_none (hnone x (by simp))).1
    | cons l ls =>
      rw [List.flatMap_cons, List.append_assoc]
      exact (text_of_some (breakOn_put hcr (hnone x (by simp)) _)).1
  · unfold headerLines
    cases ls with
    | nil => rw [List.flatMap_nil, List.append_nil, hnone x (by simp)]
    | cons l ls =>
      have hcut : breakOn crlf (x ++ (crlf ++ (l ++ ls.flatMap fun l => crlf ++ l))) =
          some (x, l ++ ls.flatMap fun l => crlf ++ l) := breakOn_put hcr (hnone x (by simp)) _
      rw [List.flatMap_cons, List.append_assoc, hcut]
      exact splitOn_lines hcr fun l hl => hnone l (List.mem_cons_of_mem x hl)

namespace StoredField
variable {name value : Bytes}

theorem fieldOf (h : StoredField name value) : fieldOf (name ++ 58 :: value) = (name, value) := by
  have hcut : breakOn [58] (name ++ 58 :: value) = some (name, value) := breakOn_append h.name_text.1 value
  have htrim : ∀ s, Trimmed s → trim s = s := by
    intro s hs
    have hblank : Blank [] := nofun
    simpa using trim_pad hblank hblank hs
  rw [CameraPlatform.fieldOf, textBefore, textAfter, hcut, htrim name h.name_trimmed, htrim value h.value_trimmed]

theorem headerForm (h : StoredField name value) : HeaderForm (name ++ 58 :: value) := by
  have hcut : breakOn [58] (name ++ 58 :: value) = some (name, value) := breakOn_append h.name_text.1 value
  have hname := congrArg Prod.fst h.fieldOf
  rw [CameraPlatform.fieldOf, (text_of_some hcut).1] at hname
  refine ⟨name, value, rfl, h.name_text.1, ?_⟩
  rw [show trim name = name from hname]
  exact h.name_ne

theorem not_crlf (h : StoredField name value) : ¬ crlf <:+: name ++ 58 :: value := by
  rw [infix_join_iff (by decide)]
  simp [h.name_text.2, h.value_text]

end StoredField

namespace HttpRequest
variable {r : HttpRequest} {query headers : List (Bytes × Bytes)}

def printTarget (r : HttpRequest) (query : List (Bytes × Bytes)) : Bytes := r.path ++ 63 :: escapedQuery query

def printLine (r : HttpRequest) (query : List (Bytes × Bytes)) : Bytes :=
  r.method ++ 32 :: (r.printTarget query ++ 32 :: ascii "HTTP/1.1")

def printHeaders (headers : List (Bytes × Bytes)) : List Bytes := headers.map fun f => f.1 ++ 58 :: f.2

/-- The text of a request with these entries in its maps. -/
def print (r : HttpRequest) (query headers : List (Bytes × Bytes)) : Bytes :=
  r.printLine query ++ (((printHeaders headers).flatMap fun l => crlf ++ l) ++ (crlf ++ (crlf ++ r.body)))

theorem WellFormed.lineForm (h : r.WellFormed) (query : List (Bytes × Bytes)) :
    LineForm (r.printLine query) r.method (r.printTarget query) (ascii "HTTP/1.1") := by
  have hspace : 32 ∉ escapedQuery query := not_mem_escapedQuery (by decide) (by decide) query
  refine ⟨rfl, h.method_text.1, ?_, h.method_ne, ?_, by decide⟩
  · simp [printTarget, h.path_text.1, hspace]
  · rw [printTarget, List.head?_append, h.path_slash]
    rfl

theorem WellFormed.not_crlf_printLine (h : r.WellFormed) (query : List (Bytes × Bytes)) :
    ¬ crlf <:+: r.printLine query := by
  have hcr : ∀ {s : Bytes}, 13 ∉ s → ¬ crlf <:+: s := fun hs hcrlf => hs (hcrlf.subset (by simp [crlf]))
  have hquery : ¬ crlf <:+: escapedQuery query := hcr (not_mem_escapedQuery (by decide) (by decide) query)
  have hversion : ¬ crlf <:+: ascii "HTTP/1.1" := hcr (by decide)
  rw [printLine, printTarget, infix_join_iff (by decide), infix_join_iff (by decide), infix_join_iff (by decide)]
  simp [h.method_text.2, h.path_text.2.2, hquery, hversion]

/-- The target gives the path and the entries back. -/
theorem WellFormed.target (h : r.WellFormed) (hnd : (query.map Prod.fst).Nodup)
    (hquery : ∀ k v, r.query k = some v ↔ (k, v) ∈ query) :
    textBefore [63] (r.printTarget query) = r.path ∧ targetQuery (r.printTarget query) = r.query := by
  have hcut : breakOn [63] (r.printTarget query) = some (r.path, escapedQuery query) :=
    breakOn_append h.path_text.2.1 (escapedQuery query)
  refine ⟨(text_of_some hcut).1, ?_⟩
  let f : FormQuery := ⟨r.path, query, query.map escapedSegment, h.path_text.2.1, hnd, spelled_escaped query⟩
  rw [targetQuery, if_neg (by rw [hcut]; simp), (text_of_some hcut).2]
  refine funext fun k => Option.ext fun v => ?_
  rw [show queryMap (escapedQuery query) = query.foldl (fun m e => m.set e.1 e.2) StdMap.empty from f.queryMap_segments,
    foldl_set_apply hnd, hquery]
  simp [StdMap.empty]

/-- The header lines give the entries back. -/
theorem WellFormed.stored (hnd : (headers.map Prod.fst).Nodup) (hstored : ∀ f ∈ headers, StoredField f.1 f.2)
    (hheaders : ∀ k v, r.headers k = some v ↔ (k, v) ∈ headers) :
    headerMap (printHeaders headers) StdMap.empty = (true, r.headers) := by
  have hne : ∀ l ∈ printHeaders headers, l ≠ [] := by
    intro l hl
    obtain ⟨f, -, rfl⟩ := List.mem_map.mp hl
    simp
  obtain ⟨hok, hmap⟩ := headerMap_spec (fun hmem => hne [] (List.mem_of_mem_dropLast hmem) rfl) StdMap.empty
  have htrue := hok.mpr fun l hl _ => by
    obtain ⟨f, hf, rfl⟩ := List.mem_map.mp hl
    exact (hstored f hf).headerForm
  have hwrites : headerWrites (printHeaders headers) = headers := by
    unfold headerWrites fieldsOf
    rw [List.filter_eq_self.mpr fun l hl => by simp [hne l hl], printHeaders, List.map_map, List.map_map]
    refine (List.map_congr_left fun f hf => ?_).trans (List.map_id headers)
    simp only [Function.comp_apply]
    rw [(hstored f hf).fieldOf, (hstored f hf).name_lower]
    rfl
  refine Prod.ext htrue ((hmap htrue).trans (funext fun k => Option.ext fun v => ?_))
  rw [storeFields_apply, hwrites, last_eq_some_iff hnd, hheaders]

/-- `print` is read back. -/
theorem WellFormed.request_print (h : r.WellFormed) (hqnd : (query.map Prod.fst).Nodup)
    (hquery : ∀ k v, r.query k = some v ↔ (k, v) ∈ query) (hnd : (headers.map Prod.fst).Nodup)
    (hheaders : ∀ k v, r.headers k = some v ↔ (k, v) ∈ headers) : request (r.print query headers) = (true, r) := by
  have hstored : ∀ f ∈ headers, StoredField f.1 f.2 := fun f hf => h.headers_stored f.1 f.2 ((hheaders f.1 f.2).mpr hf)
  have hlines : ∀ l ∈ r.printLine query :: printHeaders headers, ¬ crlf <:+: l := by
    rw [List.forall_mem_cons]
    refine ⟨h.not_crlf_printLine query, fun l hl => ?_⟩
    obtain ⟨f, hf, rfl⟩ := List.mem_map.mp hl
    exact (hstored f hf).not_crlf
  have hne : ∀ l ∈ printHeaders headers, l ≠ [] := by
    intro l hl
    obtain ⟨f, -, rfl⟩ := List.mem_map.mp hl
    simp
  obtain ⟨hline, hheads, hbody⟩ := cut_of_lines hlines hne r.body
  obtain ⟨hpath, htarget⟩ := h.target hqnd hquery
  have hmap := WellFormed.stored hnd hstored hheaders
  refine request_true_iff.mpr ⟨r.method, r.printTarget query, ascii "HTTP/1.1", ?_, ?_, ?_⟩
  · rw [print, hline]
    exact h.lineForm query
  · rw [print, hheads, hmap]
  · rw [print, hheads, hmap, hbody, hpath, htarget]

end HttpRequest

/-- A request is made from some text if and only if it is well formed. -/
theorem request_image (r : HttpRequest) : (∃ raw, request raw = (true, r)) ↔ r.WellFormed := by
  constructor
  · rintro ⟨raw, h⟩
    exact wellFormed_of_request h
  · intro h
    obtain ⟨query, hqnd, hquery⟩ := h.query_finite.entries
    obtain ⟨headers, hnd, hheaders⟩ := h.headers_finite.entries
    exact ⟨_, h.request_print hqnd hquery hnd hheaders⟩

theorem parseRequest_image (r : HttpRequest) : (∃ raw, parseRequest raw = .ok (true, r)) ↔ r.WellFormed := by
  rw [← request_image]
  simp only [parseRequest_eq, Except.ok.injEq]

/-! ### The routes of the profiles -/

/-- A name between slashes. -/
theorem profileActionPath_eq {action : Bytes} (ha : action ∈ [proto.kActionOn, proto.kActionOff]) (name : Bytes) :
    ∃ verb : Bytes, (13 ∉ verb ∧ 32 ∉ verb ∧ 63 ∉ verb) ∧
      proto.profileActionPath name action = proto.kApiProfiles ++ 47 :: (name ++ 47 :: verb) := by
  simp only [List.mem_cons, List.not_mem_nil, or_false] at ha
  rcases ha with rfl | rfl
  · refine ⟨ascii "on", by decide, ?_⟩
    rw [proto.profileActionPath, List.append_assoc, List.append_assoc]
    rfl
  · refine ⟨ascii "off", by decide, ?_⟩
    rw [proto.profileActionPath, List.append_assoc, List.append_assoc]
    rfl

/-- What keeps a name out of a path. -/
theorem profileActionPath_text {action : Bytes} (ha : action ∈ [proto.kActionOn, proto.kActionOff]) (name : Bytes) :
    (32 ∉ proto.profileActionPath name action ∧ 63 ∉ proto.profileActionPath name action ∧
      ¬ crlf <:+: proto.profileActionPath name action) ↔ 32 ∉ name ∧ 63 ∉ name ∧ ¬ crlf <:+: name := by
  obtain ⟨verb, hverb, hpath⟩ := profileActionPath_eq ha name
  have hroot : 13 ∉ proto.kApiProfiles ∧ 32 ∉ proto.kApiProfiles ∧ 63 ∉ proto.kApiProfiles := by decide
  have hcr : ∀ {s : Bytes}, 13 ∉ s → ¬ crlf <:+: s := fun hs hcrlf => hs (hcrlf.subset (by simp [crlf]))
  have hroot' := hcr hroot.1
  have hverb' := hcr hverb.1
  rw [hpath, infix_join_iff (by decide), infix_join_iff (by decide)]
  simp [hroot.2, hverb.2, hroot', hverb']

/-- The path of an action names the profile and the action. Some request carries it if and only if the name
has no space, no `?` and no line end. -/
theorem profileActionPath_routes {action : Bytes} (ha : action ∈ [proto.kActionOn, proto.kActionOff]) (name : Bytes) :
    ((∃ raw r, parseRequest raw = .ok (true, r) ∧ r.path = proto.profileActionPath name action) ↔
      32 ∉ name ∧ 63 ∉ name ∧ ¬ crlf <:+: name) ∧
    ∀ name' action', action' ∈ [proto.kActionOn, proto.kActionOff] →
      (proto.profileActionPath name' action' = proto.profileActionPath name action ↔ name' = name ∧ action' = action) := by
  refine ⟨⟨?_, fun h => ?_⟩, fun name' action' ha' => proto.profileActionPath_inj ha' ha⟩
  · rintro ⟨raw, r, hraw, hpath⟩
    rw [parseRequest_eq, Except.ok.injEq] at hraw
    have htext := (wellFormed_of_request hraw).path_text
    rw [hpath] at htext
    exact (profileActionPath_text ha name).mp htext
  · have hmethod : 32 ∉ ascii "POST" ∧ ¬ crlf <:+: ascii "POST" := by decide
    have hform : HttpRequest.WellFormed { method := ascii "POST", path := proto.profileActionPath name action } :=
      ⟨List.cons_ne_nil _ _, hmethod, rfl, (profileActionPath_text ha name).mpr h, StdMap.finite_last [],
        StdMap.finite_last [], nofun⟩
    obtain ⟨raw, hraw⟩ := (request_image _).mpr hform
    exact ⟨raw, _, by rw [parseRequest_eq, hraw], rfl⟩

theorem profileActionPath_routes_hd :
    ((∃ raw r, parseRequest raw = .ok (true, r) ∧ r.path = proto.profileActionPath (ascii "hd") proto.kActionOn) ↔
      32 ∉ ascii "hd" ∧ 63 ∉ ascii "hd" ∧ ¬ crlf <:+: ascii "hd") ∧
    ∀ name' action', action' ∈ [proto.kActionOn, proto.kActionOff] →
      (proto.profileActionPath name' action' = proto.profileActionPath (ascii "hd") proto.kActionOn ↔
        name' = ascii "hd" ∧ action' = proto.kActionOn) :=
  profileActionPath_routes (by decide) (ascii "hd")

end CameraPlatform
