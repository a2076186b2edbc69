import CameraPlatform.Base.Cutting
import CameraPlatform.Base.Decimal
import CameraPlatform.Base.History
import CameraPlatform.HttpParse

/-!
# The heads that `parseRequest` accepts

A head is a request line and header lines. The checks on them are weaker than the grammar of HTTP: the
version is only looked at for its first seven bytes, and the name of a header is trimmed before it is
checked.
-/

namespace CameraPlatform
open ByteString History

/-! ### The lines of a head -/

theorem crlf_ne_nil : crlf ≠ [] := by simp [crlf]

/-- A head is its request line and its header lines. -/
theorem head_eq_lines (head : Bytes) :
    textBefore crlf head ++ ((headerLines head).flatMap fun line => crlf ++ line) = head := by
  unfold textBefore headerLines
  cases hb : breakOn crlf head with
  | none => simp
  | some cut =>
    rw [flatMap_splitOn crlf_ne_nil, breakOn_eq_append hb]
    simp

/-- The early exit of the header loop passes over no line: an empty line can only be the last one. -/
theorem nil_not_mem_headerLines (raw : Bytes) : [] ∉ (headerLines (headOf raw)).dropLast := by
  intro hmem
  have hblank : breakOn (crlf ++ crlf) (headOf raw) = none := breakOn_textBefore (by simp [crlf]) raw
  refine (breakOn_eq_none_iff (by simp [crlf])).mp hblank ?_
  obtain ⟨before, after, hsplit⟩ := List.append_of_mem hmem
  have hne : headerLines (headOf raw) ≠ [] := by
    intro hnil
    rw [hnil] at hmem
    cases hmem
  obtain ⟨next, rest, hnext⟩ : ∃ next rest, after ++ [(headerLines (headOf raw)).getLast hne] = next :: rest :=
    List.exists_cons_of_ne_nil (by simp)
  have hlines : headerLines (headOf raw) = before ++ [] :: next :: rest := by
    rw [← List.dropLast_concat_getLast hne, hsplit, ← hnext]
    simp
  -- the empty line and the line after it are both preceded by a CRLF
  rw [← head_eq_lines (headOf raw), hlines]
  exact ⟨textBefore crlf (headOf raw) ++ before.flatMap fun line => crlf ++ line,
    next ++ rest.flatMap fun line => crlf ++ line, by simp⟩

/-- Name and value of a header line, without the spaces around them. -/
def fieldOf (line : Bytes) : Bytes × Bytes := (trim (textBefore [58] line), trim (textAfter [58] line))

/-- The fields of the header lines, from the first line to the last. -/
def fieldsOf (lines : List Bytes) : List (Bytes × Bytes) := (lines.filter fun line => !line.isEmpty).map fieldOf

/-- A name that is not blank, the first `:`, and a value. -/
def HeaderForm (line : Bytes) : Prop := ∃ name value, line = name ++ 58 :: value ∧ 58 ∉ name ∧ trim name ≠ []

theorem headerForm_iff {line name value : Bytes} (h : breakOn [58] line = some (name, value)) :
    HeaderForm line ↔ trim name ≠ [] := by
  constructor
  · rintro ⟨name', value', rfl, hcolon, hne⟩
    have hcut : breakOn [58] (name' ++ 58 :: value') = some (name', value') := breakOn_append hcolon value'
    rw [hcut] at h
    cases h
    exact hne
  · exact fun hne => ⟨name, value, by simpa using breakOn_eq_append h, not_mem_of_breakOn h, hne⟩

theorem not_headerForm {line : Bytes} (h : breakOn [58] line = none) : ¬ HeaderForm line := by
  rintro ⟨name, value, rfl, hcolon, -⟩
  have hcut : breakOn [58] (name ++ 58 :: value) = some (name, value) := breakOn_append hcolon value
  rw [hcut] at h
  cases h

/-- The map that some fields build, later ones over earlier ones. -/
def storeFields (fields : List (Bytes × Bytes)) (headers : StdMap) : StdMap :=
  fields.foldl (fun m f => m.set (toLowerHelper f.1) f.2) headers

/-- The header loop takes every line, unless one of them is refused. -/
theorem headerMap_spec {lines : List Bytes} (h : [] ∉ lines.dropLast) (headers : StdMap) :
    ((headerMap lines headers).1 = true ↔ ∀ line ∈ lines, line ≠ [] → HeaderForm line) ∧
      ((headerMap lines headers).1 = true → (headerMap lines headers).2 = storeFields (fieldsOf lines) headers) := by
  induction lines generalizing headers with
  | nil => simp [headerMap, fieldsOf, storeFields]
  | cons line lines ih =>
    rw [headerMap]
    by_cases hline : line = []
    · subst hline
      have hlast : lines = [] := by
        by_contra hne
        exact h (by rw [List.dropLast_cons_of_ne_nil hne]; simp)
      subst hlast
      simp [fieldsOf, storeFields]
    · have hrest : [] ∉ lines.dropLast := by
        intro hmem
        cases lines with
        | nil => cases hmem
        | cons next lines => exact h (List.mem_cons_of_mem _ hmem)
      have hrefused : ¬ HeaderForm line → (false = true ↔ ∀ l ∈ line :: lines, l ≠ [] → HeaderForm l) := fun hform =>
        iff_of_false (by simp) fun hall => hform (hall line (by simp) hline)
      rw [if_neg (by simpa using hline)]
      cases hb : breakOn [58] line with
      | none => exact ⟨hrefused (not_headerForm hb), by simp⟩
      | some cut =>
        obtain ⟨name, value⟩ := cut
        have hempty : (toLowerHelper (trim name)).isEmpty = true ↔ trim name = [] := by simp [toLowerHelper]
        simp only [hempty]
        by_cases hname : trim name = []
        · rw [if_pos hname]
          exact ⟨hrefused fun hform => (headerForm_iff hb).mp hform hname, by simp⟩
        · rw [if_neg hname]
          obtain ⟨hok, hmap⟩ := ih hrest (headers.set (toLowerHelper (trim name)) (trim value))
          have hfield : fieldOf line = (trim name, trim value) := by rw [fieldOf, textBefore, textAfter, hb]
          have hfields : fieldsOf (line :: lines) = (trim name, trim value) :: fieldsOf lines := by
            simp [fieldsOf, hline, hfield]
          rw [hok, hfields]
          refine ⟨?_, fun hall => (hmap (hok.mpr hall)).trans rfl⟩
          rw [List.forall_mem_cons, iff_and_self]
          exact fun _ _ => (headerForm_iff hb).mpr hname

/-! ### The request line -/

/-- The request line as the parser takes it apart. -/
structure LineForm (line method target version : Bytes) : Prop where
  line_eq : line = method ++ 32 :: (target ++ 32 :: version)
  method_text : 32 ∉ method
  target_text : 32 ∉ target
  method_ne : method ≠ []
  target_slash : target.head? = some 47
  version_prefix : ascii "HTTP/1." <+: version

theorem LineForm.cut {line method target version : Bytes} (h : LineForm line method target version) :
    breakOn [32] line = some (method, target ++ 32 :: version) ∧
      breakOn [32] (target ++ 32 :: version) = some (target, version) := by
  rw [h.line_eq]
  exact ⟨breakOn_append h.method_text _, breakOn_append h.target_text _⟩

/-- The checks that `parseRequest` makes on the parts of the line. -/
theorem line_checks_iff {method target version : Bytes} :
    (¬ (method.isEmpty = true ∨ target.isEmpty = true ∨ rfind version (ascii "HTTP/1.") 0 ≠ some 0) ∧
      ¬ target.head? ≠ some 47) ↔
    method ≠ [] ∧ target.head? = some 47 ∧ ascii "HTTP/1." <+: version := by
  have hprefix : rfind version (ascii "HTTP/1.") 0 = some 0 ↔ ascii "HTTP/1." <+: version := by
    rw [rfind, ← List.isPrefixOf_iff_prefix]
    split <;> simp_all
  rw [ne_eq, hprefix, List.isEmpty_iff, List.isEmpty_iff, not_not]
  constructor
  · rintro ⟨hchecks, hslash⟩
    exact ⟨fun hm => hchecks (.inl hm), hslash, by_contra fun hv => hchecks (.inr (.inr hv))⟩
  · rintro ⟨hm, hslash, hv⟩
    refine ⟨?_, hslash⟩
    rintro (h | rfl | h)
    · exact hm h
    · cases hslash
    · exact h hv

/-- What `parseRequest` accepts, and what it then stores. -/
theorem request_true_iff {raw : Bytes} {out : HttpRequest} : request raw = (true, out) ↔
    ∃ method target version, LineForm (textBefore crlf (headOf raw)) method target version ∧
      (headerMap (headerLines (headOf raw)) StdMap.empty).1 = true ∧
      out = { method, path := textBefore [63] target, query := targetQuery target,
              headers := (headerMap (headerLines (headOf raw)) StdMap.empty).2
              body := textAfter (crlf ++ crlf) raw } := by
  constructor
  · intro h
    unfold request at h
    split at h
    · cases h
    · next method rest hcut =>
      split at h
      · cases h
      · next target version hcut' =>
        unfold acceptLine at h
        split at h
        · cases h
        · next hchecks =>
          split at h
          · cases h
          · next hslash =>
            obtain ⟨hm, ht, hv⟩ := line_checks_iff.mp ⟨hchecks, hslash⟩
            have hrest : rest = target ++ 32 :: version := by simpa using breakOn_eq_append hcut'
            have hline : textBefore crlf (headOf raw) = method ++ 32 :: (target ++ 32 :: version) := by
              rw [← hrest]
              simpa using breakOn_eq_append hcut
            refine ⟨method, target, version,
              ⟨hline, not_mem_of_breakOn hcut, not_mem_of_breakOn hcut', hm, ht, hv⟩, ?_⟩
            unfold finishRequest at h
            split at h
            · next hmap =>
              rw [hmap]
              exact ⟨rfl, (Prod.mk.inj h).2.symm⟩
            · cases h
  · rintro ⟨method, target, version, hform, hok, rfl⟩
    obtain ⟨hchecks, hslash⟩ := line_checks_iff.mpr ⟨hform.method_ne, hform.target_slash, hform.version_prefix⟩
    rw [request, hform.cut.1]
    simp only [hform.cut.2]
    rw [acceptLine, if_neg hchecks, if_neg hslash, finishRequest]
    generalize headerMap (headerLines (headOf raw)) StdMap.empty = result at hok ⊢
    obtain ⟨ok, headers⟩ := result
    simp only at hok
    rw [hok]

/-- Every request line that is accepted has a method, a target and the start of a version. -/
def AcceptedLine (line : Bytes) : Prop := ∃ method target version, LineForm line method target version

theorem request_fst_iff (raw : Bytes) : (request raw).1 = true ↔
    AcceptedLine (textBefore crlf (headOf raw)) ∧
      ∀ line ∈ headerLines (headOf raw), line ≠ [] → HeaderForm line := by
  have hlines := (headerMap_spec (nil_not_mem_headerLines raw) StdMap.empty).1
  constructor
  · intro h
    obtain ⟨method, target, version, hform, hok, -⟩ := request_true_iff.mp (Prod.ext h rfl)
    exact ⟨⟨method, target, version, hform⟩, hlines.mp hok⟩
  · rintro ⟨⟨method, target, version, hform⟩, hall⟩
    rw [request_true_iff.mpr ⟨method, target, version, hform, hlines.mpr hall, rfl⟩]

theorem request_accepted {raw : Bytes} (h : (request raw).1 = true) : parseRequest raw = .ok (true, (request raw).2) := by
  rw [parseRequest_eq]
  exact congrArg Except.ok (Prod.ext h rfl)

/-- `parseRequest` accepts only heads whose lines have these forms. -/
theorem parseRequest_accepts (raw : Bytes) : ∃ ok out, parseRequest raw = .ok (ok, out) ∧
    (ok = true → AcceptedLine (textBefore crlf (headOf raw)) ∧
      ∀ line ∈ headerLines (headOf raw), line ≠ [] → HeaderForm line) ∧
    (¬ AcceptedLine (textBefore crlf (headOf raw)) → ok = false) ∧
    ∀ line ∈ headerLines (headOf raw), line ≠ [] → ¬ HeaderForm line → ok = false := by
  have hiff := request_fst_iff raw
  refine ⟨_, _, parseRequest_eq raw, hiff.mp, fun hline => ?_, fun line hmem hne hform => ?_⟩
  · exact Bool.eq_false_iff.mpr fun h => hline (hiff.mp h).1
  · exact Bool.eq_false_iff.mpr fun h => hform ((hiff.mp h).2 line hmem hne)

/-- A method, a target and a version of one digit, with single spaces between them. -/
def WellFormedLine (line : Bytes) : Prop := ∃ method target digit,
  line = method ++ 32 :: (target ++ 32 :: (ascii "HTTP/1." ++ [digit])) ∧
    method ≠ [] ∧ 32 ∉ method ∧ 32 ∉ target ∧ target.head? = some 47 ∧ isDigit digit = true

/-- A name without spaces, a `:` and a value. -/
def WellFormedHeader (line : Bytes) : Prop := ∃ name value,
  line = name ++ 58 :: value ∧ name ≠ [] ∧ ∀ b ∈ name, isSpace b = false

theorem WellFormedLine.lineForm {line : Bytes} (h : WellFormedLine line) :
    ∃ method target digit, LineForm line method target (ascii "HTTP/1." ++ [digit]) := by
  obtain ⟨method, target, digit, hline, hm, hm', ht', ht, -⟩ := h
  exact ⟨method, target, digit, hline, hm', ht', hm, ht, List.prefix_append _ _⟩

/-- A space around the name of a header, or more than a digit in the version, is let through. -/
theorem parseRequest_accepts_more :
    (∃ out, parseRequest (ascii "GET / HTTP/1.1\r\n Host : x\r\n\r\n") = .ok (true, out) ∧
      ascii " Host : x" ∈ headerLines (headOf (ascii "GET / HTTP/1.1\r\n Host : x\r\n\r\n")) ∧
      ¬ WellFormedHeader (ascii " Host : x")) ∧
    ∃ out, parseRequest (ascii "GET / HTTP/1.10\r\n\r\n") = .ok (true, out) ∧
      ¬ WellFormedLine (textBefore crlf (headOf (ascii "GET / HTTP/1.10\r\n\r\n"))) := by
  refine ⟨⟨_, request_accepted (by decide +kernel), by decide +kernel, ?_⟩,
    ⟨_, request_accepted (by decide +kernel), ?_⟩⟩
  · rintro ⟨name, value, hline, hne, hspace⟩
    obtain ⟨b, t, rfl⟩ := List.exists_cons_of_ne_nil hne
    have hb : 32 = b := (List.cons.inj hline).1
    have := hspace b (by simp)
    rw [← hb] at this
    exact absurd this (by decide)
  · intro hline
    obtain ⟨method, target, digit, hform⟩ := hline.lineForm
    have hcut := hform.cut
    have hline : textBefore crlf (headOf (ascii "GET / HTTP/1.10\r\n\r\n")) = ascii "GET / HTTP/1.10" := by decide +kernel
    have hfirst : breakOn [32] (ascii "GET / HTTP/1.10") = some (ascii "GET", ascii "/ HTTP/1.10") := by decide +kernel
    have hsecond : breakOn [32] (ascii "/ HTTP/1.10") = some (ascii "/", ascii "HTTP/1.10") := by decide +kernel
    rw [hline, hfirst] at hcut
    obtain ⟨hcut, hcut'⟩ := hcut
    obtain ⟨-, hrest⟩ := Prod.mk.inj (Option.some.inj hcut)
    rw [← hrest, hsecond] at hcut'
    obtain ⟨-, hversion⟩ := Prod.mk.inj (Option.some.inj hcut')
    exact absurd (congrArg List.length hversion) (by simp [ascii])

/-! ### The stored headers -/

/-- The writes that the fields of some header lines make. -/
def headerWrites (lines : List Bytes) : List (Bytes × Bytes) :=
  (fieldsOf lines).map fun f => (toLowerHelper f.1, f.2)

theorem storeFields_apply (lines : List Bytes) (key : Bytes) :
    storeFields (fieldsOf lines) StdMap.empty key = last key (headerWrites lines) := by
  unfold headerWrites
  induction fieldsOf lines using List.reverseRecOn with
  | nil => rfl
  | append_singleton fields f ih =>
    rw [List.map_append, List.map_singleton, last_concat, ← ih, storeFields, List.foldl_append]
    by_cases hkey : toLowerHelper f.1 = key
    · simp [StdMap.set, hkey]
    · simp [StdMap.set, hkey, Function.update_of_ne (Ne.symm hkey), storeFields]

/-- The header map holds the last value of each name, and nothing else. -/
theorem headers_eq_last {raw : Bytes} {out : HttpRequest} (h : request raw = (true, out)) (key : Bytes) :
    out.headers key = last key (headerWrites (headerLines (headOf raw))) := by
  obtain ⟨method, target, version, -, hok, rfl⟩ := request_true_iff.mp h
  show (headerMap (headerLines (headOf raw)) StdMap.empty).2 key = _
  rw [(headerMap_spec (nil_not_mem_headerLines raw) StdMap.empty).2 hok, storeFields_apply]

/-- A lookup finds the last header line with this name, whatever its case; no line is passed over, and every
key comes from a line. -/
theorem header_eq_last {raw : Bytes} {out : HttpRequest} (h : parseRequest raw = .ok (true, out)) :
    (∀ name, out.header name = (last (toLowerHelper name) (headerWrites (headerLines (headOf raw)))).getD []) ∧
    [] ∉ (headerLines (headOf raw)).dropLast ∧
    ∀ key, out.headers key ≠ none → ∃ line ∈ headerLines (headOf raw), line ≠ [] ∧
      toLowerHelper (trim (textBefore [58] line)) = key := by
  rw [parseRequest_eq, Except.ok.injEq] at h
  refine ⟨fun name => ?_, nil_not_mem_headerLines raw, fun key hkey => ?_⟩
  · rw [HttpRequest.header, headers_eq_last h]
    cases last (toLowerHelper name) (headerWrites (headerLines (headOf raw))) <;> rfl
  · rw [headers_eq_last h, ne_eq, last_eq_none_iff] at hkey
    push Not at hkey
    obtain ⟨w, hw, rfl⟩ := hkey
    obtain ⟨f, hf, rfl⟩ := List.mem_map.mp hw
    obtain ⟨line, hline, rfl⟩ := List.mem_map.mp hf
    obtain ⟨hmem, hne⟩ := List.mem_filter.mp hline
    exact ⟨line, hmem, by simpa using hne, rfl⟩

theorem header_eq_last_host :
    let raw := ascii "GET / HTTP/1.1\r\nHost: a\r\nhOST : b\r\n\r\n"
    let out := (request raw).2
    (∀ name, out.header name = (last (toLowerHelper name) (headerWrites (headerLines (headOf raw)))).getD []) ∧
    [] ∉ (headerLines (headOf raw)).dropLast ∧
    ∀ key, out.headers key ≠ none → ∃ line ∈ headerLines (headOf raw), line ≠ [] ∧
      toLowerHelper (trim (textBefore [58] line)) = key := by
  intro raw out
  exact header_eq_last (request_accepted (by decide +kernel))

end CameraPlatform
