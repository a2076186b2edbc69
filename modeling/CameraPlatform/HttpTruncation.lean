import CameraPlatform.HttpHead

/-!
# Requests that are cut off

A prefix of a request that is accepted asks for the same thing. Past the blank line only the body is
shorter; before it, the line in which the prefix ends is the only one whose header may differ.
-/

namespace CameraPlatform
open ByteString

/-- The request line ends before the head does. -/
theorem textBefore_headOf (raw : Bytes) : textBefore crlf (headOf raw) = textBefore crlf raw := by
  unfold headOf
  cases hb : breakOn (crlf ++ crlf) raw with
  | none => rw [(text_of_none hb).1]
  | some cut =>
    obtain ⟨head, body⟩ := cut
    have hraw : raw = head ++ (crlf ++ (crlf ++ body)) := by rw [breakOn_eq_append hb]; simp
    rw [(text_of_some hb).1]
    cases hb' : breakOn crlf head with
    | none =>
      have hput : breakOn crlf (head ++ (crlf ++ (crlf ++ body))) = some (head, crlf ++ body) :=
        breakOn_put (by decide) hb' _
      rw [(text_of_none hb').1, hraw, (text_of_some hput).1]
    | some cut =>
      have hlong := breakOn_extend hb' (crlf ++ (crlf ++ body))
      rw [(text_of_some hb').1, hraw, (text_of_some hlong).1]

/-- The lines of the whole text go on after the head with an empty line. -/
theorem lines_of_raw {raw line rest : Bytes} (h : breakOn crlf raw = some (line, rest)) : ∃ more,
    splitOn crlf rest = headerLines (headOf raw) ++ more ∧ (more = [] ∨ more.head? = some []) := by
  have hself : ∀ t, splitOn crlf (crlf ++ t) = [] :: splitOn crlf t := fun t =>
    splitOn_of_some crlf_ne_nil (breakOn_self 13 [10] t)
  cases hb : breakOn (crlf ++ crlf) raw with
  | none =>
    exact ⟨[], by rw [headOf, (text_of_none hb).1, headerLines, h, List.append_nil], .inl rfl⟩
  | some cut =>
    obtain ⟨head, body⟩ := cut
    have hraw : raw = head ++ (crlf ++ (crlf ++ body)) := by rw [breakOn_eq_append hb]; simp
    refine ⟨splitOn crlf (crlf ++ body), ?_, .inr (by rw [hself]; rfl)⟩
    rw [headOf, (text_of_some hb).1, headerLines]
    cases hb' : breakOn crlf head with
    | none =>
      have hput : breakOn crlf raw = some (head, crlf ++ body) := by
        rw [hraw]
        exact breakOn_put (by decide) hb' _
      rw [h] at hput
      rw [(Prod.mk.inj (Option.some.inj hput)).2]
      rfl
    | some cut =>
      obtain ⟨line', rest'⟩ := cut
      have hlong := breakOn_extend hb' (crlf ++ (crlf ++ body))
      rw [← hraw, h] at hlong
      rw [(Prod.mk.inj (Option.some.inj hlong)).2]
      exact splitOn_put (by decide) _ _

/-- The first pieces of both lists agree until an empty one. -/
theorem prefix_of_split {init hl more rest : List Bytes} {l : Bytes} (heq : init ++ l :: more = hl ++ rest)
    (hrest : rest = [] ∨ rest.head? = some []) (hinit : [] ∉ init) :
    init <+: hl ∧ (l ≠ [] → hl[init.length]? = some l) := by
  have hget : ∀ i : Nat, (init ++ l :: more)[i]? = (hl ++ rest)[i]? := fun i => by rw [heq]
  -- past `hl` comes an empty piece, and `init` has none
  have hlen : init.length ≤ hl.length := by
    by_contra hlt
    have hlt : hl.length < init.length := by omega
    have hat := hget hl.length
    rw [List.getElem?_append_left hlt, List.getElem?_append_right (Nat.le_refl _), Nat.sub_self,
      ← List.head?_eq_getElem?] at hat
    rcases hrest with rfl | hhead
    · rw [List.head?_nil, List.getElem?_eq_none_iff] at hat
      omega
    · rw [hhead] at hat
      exact hinit (List.mem_of_getElem? hat)
  have hpre : init <+: hl := by
    have hinit' : init <+: hl ++ rest := by
      rw [← heq]
      exact List.prefix_append _ _
    exact List.prefix_of_prefix_length_le hinit' (List.prefix_append _ _) hlen
  refine ⟨hpre, fun hl' => ?_⟩
  have hat := hget init.length
  rw [List.getElem?_append_right (Nat.le_refl _), Nat.sub_self, List.getElem?_cons_zero] at hat
  rcases Nat.lt_or_ge init.length hl.length with hlt | hge
  · rw [List.getElem?_append_left hlt] at hat
    exact hat.symm
  · have : init.length = hl.length := by omega
    rw [this, List.getElem?_append_right (Nat.le_refl _), Nat.sub_self, ← List.head?_eq_getElem?] at hat
    rcases hrest with rfl | hhead
    · cases hat
    · rw [hhead] at hat
      exact absurd (Option.some.inj hat) hl'

/-- A line that ends early, or in its CR, has the name of the whole line. -/
theorem name_of_cut {x l : Bytes} (hx : HeaderForm x) (hpre : x <+: l ++ crlf) :
    textBefore [58] x = textBefore [58] l ∧ l ≠ [] := by
  obtain ⟨name, value, rfl, hcolon, -⟩ := hx
  have hcut : breakOn [58] (name ++ 58 :: value) = some (name, value) := breakOn_append hcolon value
  obtain ⟨rest, hlong, -⟩ := breakOn_of_prefix hcut hpre
  cases hb : breakOn [58] l with
  | none =>
    have hnone : breakOn [58] (l ++ crlf) = none :=
      breakOn_eq_none (by simpa [crlf] using breakOn_singleton_eq_none.mp hb)
    rw [hnone] at hlong
    cases hlong
  | some cut =>
    obtain ⟨name', value'⟩ := cut
    have hlong' := breakOn_extend hb crlf
    rw [hlong] at hlong'
    obtain ⟨rfl, -⟩ := Prod.mk.inj (Option.some.inj hlong')
    refine ⟨by rw [(text_of_some hcut).1, (text_of_some hb).1], ?_⟩
    rintro rfl
    simp [breakOn] at hb

/-! ### Two parses -/

/-- Both request lines have the same method and the same target. -/
theorem LineForm.same {raw pre method target version method' target' version' : Bytes} (hpre : pre <+: raw)
    (h : LineForm (textBefore crlf (headOf raw)) method target version)
    (h' : LineForm (textBefore crlf (headOf pre)) method' target' version') : method' = method ∧ target' = target := by
  have hle := textBefore_prefix crlf_ne_nil hpre
  rw [← textBefore_headOf raw, ← textBefore_headOf pre] at hle
  obtain ⟨rest, hcut, hrest⟩ := breakOn_of_prefix h'.cut.1 hle
  rw [breakOn_extend h.cut.1 crlf] at hcut
  obtain ⟨hmethod, rfl⟩ := Prod.mk.inj (Option.some.inj hcut)
  obtain ⟨rest', hcut', -⟩ := breakOn_of_prefix h'.cut.2 hrest
  rw [breakOn_extend h.cut.2 crlf] at hcut'
  exact ⟨hmethod.symm, (Prod.mk.inj (Option.some.inj hcut')).1.symm⟩

/-- The header lines of a prefix that are there with their CRLF. -/
def wholeLines (pre : Bytes) : List Bytes := (headerLines pre).dropLast

/-- Only the header of the line in which the prefix ends may differ. -/
theorem headers_of_prefix {raw pre : Bytes} (hpre : pre <+: raw) (hblank : breakOn (crlf ++ crlf) pre = none)
    (hok : ∀ line ∈ headerLines pre, line ≠ [] → HeaderForm line) :
    wholeLines pre <+: headerLines (headOf raw) ∧
      ∀ key, storeFields (fieldsOf (headerLines pre)) StdMap.empty key ≠
          storeFields (fieldsOf (wholeLines pre)) StdMap.empty key →
        ∃ line, (headerLines (headOf raw))[(wholeLines pre).length]? = some line ∧
          toLowerHelper (trim (textBefore [58] line)) = key := by
  unfold wholeLines
  have hnil : [] ∉ (headerLines pre).dropLast := by
    have := nil_not_mem_headerLines pre
    rwa [headOf, (text_of_none hblank).1] at this
  cases hb : breakOn crlf pre with
  | none =>
    have hlines : headerLines pre = [] := by rw [headerLines, hb]
    rw [hlines]
    exact ⟨List.nil_prefix, fun key hkey => absurd rfl hkey⟩
  | some cut =>
    obtain ⟨line, rest⟩ := cut
    obtain ⟨rest', hb', hrest⟩ := breakOn_of_prefix hb hpre
    obtain ⟨more', hsplit', hmore'⟩ := lines_of_raw hb'
    obtain ⟨init, x, l, more, hsplit, hlong, hx⟩ := splitOn_prefix crlf_ne_nil hrest
    have hlines : headerLines pre = init ++ [x] := by rw [headerLines, hb, ← hsplit]
    rw [hlines, List.dropLast_concat] at hnil ⊢
    rw [hlines] at hok
    obtain ⟨hinit, hat⟩ := prefix_of_split (hlong.symm.trans hsplit') hmore' hnil
    refine ⟨hinit, fun key hkey => ?_⟩
    by_cases hxnil : x = []
    · exact absurd (by simp [hxnil, fieldsOf]) hkey
    · obtain ⟨hname, hl⟩ := name_of_cut (hok x (by simp) hxnil) hx
      refine ⟨l, hat hl, ?_⟩
      by_contra hne
      refine hkey ?_
      have hfields : fieldsOf (init ++ [x]) = fieldsOf init ++ [fieldOf x] := by simp [fieldsOf, hxnil]
      rw [hfields, storeFields, List.foldl_append, List.foldl_cons, List.foldl_nil, fieldOf, hname, StdMap.set,
        Function.update_of_ne (Ne.symm hne), storeFields]

/-- What follows the blank line of a prefix is a prefix of the body. -/
theorem body_of_prefix {raw body : Bytes} (hpre : headOf raw ++ (crlf ++ crlf) ++ body <+: raw) :
    breakOn (crlf ++ crlf) raw = some (headOf raw, textAfter (crlf ++ crlf) raw) ∧
      body <+: textAfter (crlf ++ crlf) raw := by
  cases hb : breakOn (crlf ++ crlf) raw with
  | none =>
    -- the head would be all of `raw`, and the prefix longer than it
    have hlen := hpre.length_le
    rw [headOf, (text_of_none hb).1] at hlen
    simp only [crlf, List.length_append, List.length_cons, List.length_nil] at hlen
    omega
  | some cut =>
    obtain ⟨head, rest⟩ := cut
    obtain ⟨hhead, hrest⟩ := text_of_some hb
    rw [headOf, hhead, breakOn_eq_append hb, List.prefix_append_right_inj] at hpre
    rw [headOf, hhead, hrest]
    exact ⟨rfl, hpre⟩

/-- What a prefix of an accepted request asks for. -/
theorem parseRequest_prefix {raw pre : Bytes} {full : HttpRequest} (hraw : parseRequest raw = .ok (true, full))
    (hpre : pre <+: raw) :
    (∀ out, parseRequest pre = .ok (true, out) →
      out.method = full.method ∧ out.path = full.path ∧ out.query = full.query) ∧
    (headOf raw ++ (crlf ++ crlf) <+: pre → ∃ body, pre = headOf raw ++ (crlf ++ crlf) ++ body ∧
      body <+: full.body ∧ parseRequest pre = .ok (true, { full with body })) ∧
    (¬ headOf raw ++ (crlf ++ crlf) <+: pre → ∀ out, parseRequest pre = .ok (true, out) →
      out.body = [] ∧ wholeLines pre <+: headerLines (headOf raw) ∧
      ∀ key, out.headers key ≠ storeFields (fieldsOf (wholeLines pre)) StdMap.empty key →
        ∃ line, (headerLines (headOf raw))[(wholeLines pre).length]? = some line ∧
          toLowerHelper (trim (textBefore [58] line)) = key) := by
  simp only [parseRequest_eq, Except.ok.injEq] at hraw ⊢
  obtain ⟨method, target, version, hform, hmap, rfl⟩ := request_true_iff.mp hraw
  have hn : crlf ++ crlf ≠ [] := by simp [crlf]
  refine ⟨fun out hout => ?_, fun hhead => ?_, fun hhead out hout => ?_⟩
  · obtain ⟨method', target', version', hform', -, rfl⟩ := request_true_iff.mp hout
    obtain ⟨rfl, rfl⟩ := hform.same hpre hform'
    exact ⟨rfl, rfl, rfl⟩
  · obtain ⟨body, rfl⟩ := hhead
    obtain ⟨hb, hbody⟩ := body_of_prefix hpre
    have hcut := breakOn_cut hn hb body
    have hsame : headOf (headOf raw ++ (crlf ++ crlf) ++ body) = headOf raw := (text_of_some hcut).1
    refine ⟨body, rfl, hbody, ?_⟩
    refine request_true_iff.mpr ⟨method, target, version, by rw [hsame]; exact hform, by rw [hsame]; exact hmap, ?_⟩
    rw [hsame, (text_of_some hcut).2]
  · obtain ⟨method', target', version', hform', hmap', rfl⟩ := request_true_iff.mp hout
    have hblank : breakOn (crlf ++ crlf) pre = none := by
      cases hb : breakOn (crlf ++ crlf) pre with
      | none => rfl
      | some cut =>
        obtain ⟨head, body⟩ := cut
        obtain ⟨body', hb', -⟩ := breakOn_of_prefix hb hpre
        refine absurd ?_ hhead
        rw [headOf, (text_of_some hb').1, breakOn_eq_append hb]
        exact List.prefix_append _ _
    have hall : headOf pre = pre := (text_of_none hblank).1
    have hspec := headerMap_spec (nil_not_mem_headerLines pre) StdMap.empty
    rw [hall] at hmap' hspec ⊢
    obtain ⟨hwhole, hkeys⟩ := headers_of_prefix hpre hblank (hspec.1.mp hmap')
    refine ⟨(text_of_none hblank).2, hwhole, fun key hkey => hkeys key ?_⟩
    rw [← hspec.2 hmap']
    exact hkey

/-- Cut inside the value of the second header. -/
theorem parseRequest_prefix_header :
    let raw := ascii "GET /a?x=1 HTTP/1.1\r\nHost: a\r\nCookie: abc\r\n\r\nbody"
    let pre := ascii "GET /a?x=1 HTTP/1.1\r\nHost: a\r\nCookie: a"
    let full := (request raw).2
    (∀ out, parseRequest pre = .ok (true, out) →
      out.method = full.method ∧ out.path = full.path ∧ out.query = full.query) ∧
    (headOf raw ++ (crlf ++ crlf) <+: pre → ∃ body, pre = headOf raw ++ (crlf ++ crlf) ++ body ∧
      body <+: full.body ∧ parseRequest pre = .ok (true, { full with body })) ∧
    (¬ headOf raw ++ (crlf ++ crlf) <+: pre → ∀ out, parseRequest pre = .ok (true, out) →
      out.body = [] ∧ wholeLines pre <+: headerLines (headOf raw) ∧
      ∀ key, out.headers key ≠ storeFields (fieldsOf (wholeLines pre)) StdMap.empty key →
        ∃ line, (headerLines (headOf raw))[(wholeLines pre).length]? = some line ∧
          toLowerHelper (trim (textBefore [58] line)) = key) := by
  intro raw pre full
  exact parseRequest_prefix (request_accepted (by decide +kernel)) (by decide +kernel)

end CameraPlatform
