import CameraPlatform.HttpParse

/-!
# Parsing what a client writes

A `WireRequest` is a request a client may send, with any blanks around header names and values;
`render` is its text. `parseRequest_render` reads it back.
-/

namespace CameraPlatform
open ByteString

/-! ### Texts without surrounding spaces -/

/-- No space at either end. -/
def Trimmed (s : Bytes) : Prop :=
  (∀ b ∈ s.head?, isSpace b = false) ∧ ∀ b ∈ s.getLast?, isSpace b = false

/-- A run of spaces and tabs. -/
def Blank (s : Bytes) : Prop := ∀ b ∈ s, b = 32 ∨ b = 9

theorem Blank.isSpace {s : Bytes} (h : Blank s) : ∀ b ∈ s, isSpace b = true := by
  intro b hb
  rcases h b hb with rfl | rfl <;> decide

theorem Blank.not_mem {s : Bytes} (h : Blank s) {c : UInt8} (hs : c ≠ 32) (ht : c ≠ 9) : c ∉ s := by
  intro hc
  rcases h c hc with rfl | rfl
  · exact hs rfl
  · exact ht rfl

theorem dropWhile_of_head {s : Bytes} (h : ∀ b ∈ s.head?, isSpace b = false) (q : Bytes)
    (hne : s ≠ []) : (s ++ q).dropWhile isSpace = s ++ q := by
  obtain ⟨b, t, rfl⟩ := List.exists_cons_of_ne_nil hne
  exact List.dropWhile_cons_of_neg (by simp [h b rfl])

theorem rdropWhile_append {q : Bytes} (hq : ∀ b ∈ q, isSpace b = true) (s : Bytes) :
    (s ++ q).rdropWhile isSpace = s.rdropWhile isSpace := by
  unfold List.rdropWhile
  rw [List.reverse_append, List.dropWhile_append_of_pos]
  intro b hb
  exact hq b (List.mem_reverse.mp hb)

/-- Trimming takes off exactly the blanks around a text. -/
theorem trim_pad {p q s : Bytes} (hp : Blank p) (hq : Blank q) (hs : Trimmed s) :
    trim (p ++ s ++ q) = s := by
  rw [trim, List.append_assoc, List.dropWhile_append_of_pos hp.isSpace]
  by_cases hne : s = []
  · subst hne
    have hnil : q.dropWhile isSpace = [] := List.dropWhile_eq_nil_iff.mpr hq.isSpace
    rw [List.nil_append, hnil, List.rdropWhile_nil]
  · rw [dropWhile_of_head hs.1 q hne, rdropWhile_append hq.isSpace, List.rdropWhile_eq_self_iff]
    intro hl
    have := hs.2 (s.getLast hl) (List.getLast?_eq_some_getLast hl)
    simp [this]

/-! ### What a client writes -/

/-- A header field and the blanks a client puts around its name and its value. -/
structure HeaderField where
  name : Bytes
  value : Bytes
  beforeName : Bytes := []
  afterName : Bytes := []
  beforeValue : Bytes := []
  afterValue : Bytes := []
  name_ne : name ≠ []
  name_text : 58 ∉ name ∧ 13 ∉ name ∧ 10 ∉ name
  name_trimmed : Trimmed name
  value_text : 13 ∉ value ∧ 10 ∉ value
  value_trimmed : Trimmed value
  blank : Blank beforeName ∧ Blank afterName ∧ Blank beforeValue ∧ Blank afterValue

namespace HeaderField

def line (f : HeaderField) : Bytes :=
  f.beforeName ++ f.name ++ f.afterName ++ 58 :: (f.beforeValue ++ f.value ++ f.afterValue)

theorem line_ne (f : HeaderField) : f.line ≠ [] := by simp [line]

theorem cr_not_mem_line (f : HeaderField) : 13 ∉ f.line := by
  obtain ⟨h1, h2, h3, h4⟩ := f.blank
  simp [line, f.name_text.2.1, f.value_text.1, h1.not_mem, h2.not_mem, h3.not_mem, h4.not_mem]

theorem breakOn_line (f : HeaderField) : breakOn [58] f.line =
    some (f.beforeName ++ f.name ++ f.afterName, f.beforeValue ++ f.value ++ f.afterValue) := by
  obtain ⟨h1, h2, -, -⟩ := f.blank
  refine breakOn_append ?_ _
  simp [f.name_text.1, h1.not_mem, h2.not_mem]

/-- One header line stores one field. -/
theorem headerMap_line (f : HeaderField) (lines : List Bytes) (m : StdMap) :
    headerMap (f.line :: lines) m = headerMap lines (m.set (toLowerHelper f.name) f.value) := by
  obtain ⟨h1, h2, h3, h4⟩ := f.blank
  have hname : toLowerHelper f.name ≠ [] := by simp [toLowerHelper, f.name_ne]
  rw [headerMap, if_neg (by simp [f.line_ne]), breakOn_line]
  simp only [trim_pad h1 h2 f.name_trimmed, trim_pad h3 h4 f.value_trimmed]
  rw [if_neg (by simpa using hname)]

end HeaderField

/-- A request a client may send. -/
structure WireRequest where
  method : Bytes
  target : Bytes
  headers : List HeaderField
  body : Bytes
  method_ne : method ≠ []
  method_text : 32 ∉ method ∧ 13 ∉ method ∧ 10 ∉ method
  target_slash : target.head? = some 47
  target_text : 32 ∉ target ∧ 13 ∉ target ∧ 10 ∉ target
  names_distinct : (headers.map fun f => toLowerHelper f.name).Nodup

namespace WireRequest

def requestLine (w : WireRequest) : Bytes :=
  w.method ++ 32 :: (w.target ++ 32 :: ascii "HTTP/1.1")

/-- The text of the request. -/
def render (w : WireRequest) : Bytes :=
  w.requestLine ++ crlf ++ (w.headers.flatMap fun f => f.line ++ crlf) ++ crlf ++ w.body

end WireRequest

/-! ### The head ends at the first empty line -/

/-- Text with neither an empty line nor a CR of its own before the blank line is all of the head. -/
theorem breakOn_blank_line {l : Bytes} {ls : List Bytes} (hcr : ∀ x ∈ l :: ls, (13 : UInt8) ∉ x)
    (hne : ∀ x ∈ ls, x ≠ []) (body : Bytes) :
    breakOn (crlf ++ crlf) (l ++ ((ls.flatMap fun x => crlf ++ x) ++ (crlf ++ crlf ++ body))) =
      some (l ++ ls.flatMap fun x => crlf ++ x, body) := by
  induction ls generalizing l with
  | nil =>
    rw [List.flatMap_nil, List.nil_append, List.append_nil]
    exact breakOn_append (hcr l (by simp)) body
  | cons x ls ih =>
    have ih := ih (l := x) (fun y hy => hcr y (List.mem_cons_of_mem _ hy))
      fun y hy => hne y (List.mem_cons_of_mem _ hy)
    obtain ⟨b, t, hx⟩ := List.exists_cons_of_ne_nil (hne x (by simp))
    have hb : (13 : UInt8) ≠ b := fun h => hcr x (by simp) (by rw [hx, h]; simp)
    rw [show crlf ++ crlf = 13 :: [10, 13, 10] from rfl, breakOn_skip (hcr l (by simp))]
    rw [show (13 : UInt8) :: [10, 13, 10] = crlf ++ crlf from rfl, List.flatMap_cons]
    simp only [List.append_assoc] at ih ⊢
    -- neither the CR nor the LF of this line end starts the blank line: `b` is in the way
    have hskip : breakOn (crlf ++ crlf)
        (crlf ++ (x ++ ((ls.flatMap fun x => crlf ++ x) ++ (crlf ++ (crlf ++ body))))) =
        (breakOn (crlf ++ crlf)
          (x ++ ((ls.flatMap fun x => crlf ++ x) ++ (crlf ++ (crlf ++ body))))).map
          fun p => (crlf ++ p.1, p.2) := by
      rw [hx]
      simp only [crlf, List.cons_append, List.nil_append]
      rw [breakOn, if_neg (by simp [List.isPrefixOf, hb]), breakOn,
        if_neg (by simp [List.isPrefixOf]), Option.map_map]
      rfl
    rw [hskip, ih]
    simp

theorem crlf_flatMap (ls : List HeaderField) :
    crlf ++ (ls.flatMap fun f => f.line ++ crlf) = ((ls.map (·.line)).flatMap fun x => crlf ++ x) ++ crlf := by
  induction ls with
  | nil => simp
  | cons f ls ih =>
    simp only [List.flatMap_cons, List.map_cons, List.append_assoc] at ih ⊢
    rw [← ih]

/-! ### The stored headers -/

/-- A map filled from pairs with distinct keys holds exactly these pairs. -/
theorem foldl_set_apply {l : List (Bytes × Bytes)} (hnd : (l.map Prod.fst).Nodup) (m : StdMap) (k v : Bytes) :
    l.foldl (fun m p => m.set p.1 p.2) m k = some v ↔
      (k, v) ∈ l ∨ (k ∉ l.map Prod.fst ∧ m k = some v) := by
  induction l generalizing m with
  | nil => simp
  | cons p l ih =>
    obtain ⟨k', v'⟩ := p
    rw [List.map_cons, List.nodup_cons] at hnd
    rw [List.foldl_cons, ih hnd.2, StdMap.set, List.map_cons, List.mem_cons, List.mem_cons]
    by_cases hk : k = k'
    · subst hk
      have hmem : (k, v) ∉ l := fun h => hnd.1 (List.mem_map.mpr ⟨_, h, rfl⟩)
      simp [hnd.1, hmem, eq_comm]
    · simp [hk]

theorem headerMap_fields (fs : List HeaderField) (m : StdMap) :
    headerMap (fs.map (·.line)) m =
      (true, (fs.map fun f => (toLowerHelper f.name, f.value)).foldl (fun m p => m.set p.1 p.2) m) := by
  induction fs generalizing m with
  | nil => rfl
  | cons f fs ih => rw [List.map_cons, HeaderField.headerMap_line, ih]; rfl

namespace WireRequest

/-- The request line and the header lines of `w`, as `parseRequest` cuts them out. -/
def lines (w : WireRequest) : List Bytes := w.headers.map (·.line)

theorem cr_not_mem_requestLine (w : WireRequest) : (13 : UInt8) ∉ w.requestLine := by
  have hver : (13 : UInt8) ∉ ascii "HTTP/1.1" := by decide
  simp [requestLine, w.method_text.2.1, w.target_text.2.1, hver]

theorem cr_not_mem_lines (w : WireRequest) : ∀ x ∈ w.requestLine :: w.lines, (13 : UInt8) ∉ x := by
  intro x hx
  rcases List.mem_cons.mp hx with rfl | hx
  · exact w.cr_not_mem_requestLine
  · obtain ⟨f, -, rfl⟩ := List.mem_map.mp hx
    exact f.cr_not_mem_line

theorem lines_ne (w : WireRequest) : ∀ x ∈ w.lines, x ≠ [] := by
  intro x hx
  obtain ⟨f, -, rfl⟩ := List.mem_map.mp hx
  exact f.line_ne

theorem breakOn_render (w : WireRequest) : breakOn (crlf ++ crlf) w.render =
    some (w.requestLine ++ w.lines.flatMap fun x => crlf ++ x, w.body) := by
  have hrender : w.render =
      w.requestLine ++ ((w.lines.flatMap fun x => crlf ++ x) ++ (crlf ++ crlf ++ w.body)) := by
    rw [render, List.append_assoc w.requestLine, crlf_flatMap]
    simp [lines]
  rw [hrender]
  exact breakOn_blank_line w.cr_not_mem_lines w.lines_ne w.body

theorem headOf_render (w : WireRequest) :
    headOf w.render = w.requestLine ++ w.lines.flatMap fun x => crlf ++ x := by
  rw [headOf, textBefore, w.breakOn_render]

/-- The head cuts into the request line and the header lines. -/
theorem headOf_cut (w : WireRequest) :
    textBefore crlf (headOf w.render) = w.requestLine ∧ headerLines (headOf w.render) = w.lines := by
  rw [headOf_render, textBefore, headerLines]
  have hcr := w.cr_not_mem_lines
  cases hl : w.lines with
  | nil =>
    rw [List.flatMap_nil, List.append_nil, crlf, breakOn_eq_none w.cr_not_mem_requestLine]
    exact ⟨rfl, rfl⟩
  | cons x xs =>
    rw [hl] at hcr
    rw [List.flatMap_cons, List.append_assoc, crlf, breakOn_append w.cr_not_mem_requestLine]
    exact ⟨rfl, splitOn_intercalate fun y hy => hcr y (List.mem_cons_of_mem _ hy)⟩

/-- `parseRequest` reduced to the header map and the query of `w`. -/
theorem request_render (w : WireRequest) : request w.render =
    (true,
      { method := w.method, path := textBefore [63] w.target, body := w.body,
        query := targetQuery w.target,
        headers := (w.headers.map fun f => (toLowerHelper f.name, f.value)).foldl
          (fun m p => m.set p.1 p.2) StdMap.empty }) := by
  have hversion : rfind (ascii "HTTP/1.1") (ascii "HTTP/1.") 0 = some 0 := by decide
  have htarget : w.target ≠ [] := by
    intro h; have := w.target_slash; simp [h] at this
  have hbody : textAfter (crlf ++ crlf) w.render = w.body := by rw [textAfter, w.breakOn_render]
  rw [request, w.headOf_cut.1, w.headOf_cut.2, requestLine,
    show (32 : UInt8) :: (w.target ++ 32 :: ascii "HTTP/1.1") =
      [32] ++ (w.target ++ ([32] ++ ascii "HTTP/1.1")) by simp,
    breakOn_append w.method_text.1]
  simp only [breakOn_append w.target_text.1, hbody]
  rw [acceptLine, if_neg (by simp [w.method_ne, htarget, hversion]), if_neg (by simp [w.target_slash]),
    finishRequest, lines, headerMap_fields]

end WireRequest

/-- `parseRequest` undoes the serialization of a request. -/
theorem parseRequest_render (w : WireRequest) : ∃ query headers,
    parseRequest w.render = .ok (true,
      { method := w.method, path := w.target.takeWhile (· ≠ 63), body := w.body,
        query := query, headers := headers }) ∧
    (63 ∈ w.target → parseQuery w.target = .ok query) ∧
    (63 ∉ w.target → query = StdMap.empty) ∧
    ∀ k v, headers k = some v ↔ ∃ f ∈ w.headers, toLowerHelper f.name = k ∧ f.value = v := by
  have hpath := textBefore_singleton 63 w.target
  refine ⟨_, _, by rw [parseRequest_eq, w.request_render, hpath], fun h => ?_, fun h => ?_, fun k v => ?_⟩
  · have hb : breakOn [63] w.target ≠ none := fun hn => breakOn_singleton_eq_none.mp hn h
    rw [parseQuery_eq, targetQuery, if_neg hb, if_neg hb]
  · rw [targetQuery, if_pos (breakOn_eq_none h)]
  · rw [foldl_set_apply (by simpa [Function.comp_def] using w.names_distinct)]
    simp [StdMap.empty]

/-- Two fields with blanks around their names and values, and a body that looks like a head. -/
def WireRequest.upload : WireRequest where
  method := ascii "POST"
  target := ascii "/profiles/hd?on=1&by=a?b"
  headers := [
    { name := ascii "Host", value := ascii "camera: 1", beforeName := [32], afterName := [32, 9], beforeValue := [9],
      afterValue := [32], name_ne := by decide +kernel, name_text := by decide +kernel,
      name_trimmed := ⟨by decide +kernel, by decide +kernel⟩,
      value_text := by decide +kernel, value_trimmed := ⟨by decide +kernel, by decide +kernel⟩,
      blank := by unfold Blank; decide +kernel },
    { name := ascii "X-Empty", value := [], afterValue := [32, 32], name_ne := by decide +kernel,
      name_text := by decide +kernel, name_trimmed := ⟨by decide +kernel, by decide +kernel⟩,
      value_text := by decide +kernel, value_trimmed := ⟨by decide +kernel, by decide +kernel⟩,
      blank := by unfold Blank; decide +kernel }]
  body := ascii "GET / HTTP/1.1" ++ crlf ++ crlf ++ ascii "Host: b" ++ crlf ++ crlf
  method_ne := by decide +kernel
  method_text := by decide +kernel
  target_slash := by decide +kernel
  target_text := by decide +kernel
  names_distinct := by decide +kernel

theorem parseRequest_render_upload : ∃ query headers,
    parseRequest WireRequest.upload.render = .ok (true,
      { method := ascii "POST", path := ascii "/profiles/hd",
        body := ascii "GET / HTTP/1.1" ++ crlf ++ crlf ++ ascii "Host: b" ++ crlf ++ crlf,
        query := query, headers := headers }) ∧
    parseQuery (ascii "/profiles/hd?on=1&by=a?b") = .ok query ∧
    headers (ascii "host") = some (ascii "camera: 1") ∧ headers (ascii "x-empty") = some [] := by
  obtain ⟨query, headers, hparse, hquery, -, hheaders⟩ := parseRequest_render WireRequest.upload
  refine ⟨query, headers, hparse, hquery (by decide), ?_, ?_⟩
  · exact (hheaders _ _).mpr ⟨_, List.mem_cons_self .., by decide, rfl⟩
  · exact (hheaders _ _).mpr ⟨_, List.mem_cons_of_mem _ (List.mem_cons_self ..), by decide, rfl⟩

end CameraPlatform
