import CameraPlatform.HttpMessage
import Mathlib.Data.List.DropRight

/-!
# `parseRequest` without offsets

The offset loops of `HttpMessage` never fail, and what they compute is what cutting the text at its
separators gives: `trim`, `decodeForm`, `queryMap`, `headerMap`, and `request` for all of
`parseRequest`. Statements about parsing are proved on these.
-/

namespace CameraPlatform
open ByteString

@[simp] theorem ok_bind {α β : Type} (a : α) (f : α → Except Error β) : (Except.ok a >>= f) = f a := rfl

/-! ### `trimHelper` -/

/-- Spaces off both ends. -/
def trim (value : Bytes) : Bytes := (value.dropWhile isSpace).rdropWhile isSpace

theorem trimBegin_eq {fuel : Nat} {value : Bytes} {first : Nat} (hf : value.length - first < fuel)
    (hle : first ≤ value.length) :
    trimBegin fuel value first value.length =
      .ok (value.length - ((value.drop first).dropWhile isSpace).length) := by
  induction fuel generalizing first with
  | zero => omega
  | succ fuel ih =>
    rw [trimBegin]
    split
    · next h =>
      rw [charAt_eq h, ok_bind, List.drop_eq_getElem_cons h]
      split
      · next hs => rw [ih (by omega) h, List.dropWhile_cons_of_pos hs]
      · next hs =>
        rw [List.dropWhile_cons_of_neg hs, ← List.drop_eq_getElem_cons h, List.length_drop]
        congr 1; omega
    · next h =>
      have : first = value.length := by omega
      simp [this]

theorem trimEnd_eq {fuel : Nat} {value : Bytes} {first last : Nat} (hf : last - first < fuel)
    (hle : first ≤ last) (hlast : last ≤ value.length) :
    trimEnd fuel value first last =
      .ok (first + (((value.take last).drop first).rdropWhile isSpace).length) := by
  induction fuel generalizing last with
  | zero => omega
  | succ fuel ih =>
    rw [trimEnd]
    split
    · next h =>
      obtain ⟨n, rfl⟩ : ∃ n, last = n + 1 := ⟨last - 1, by omega⟩
      have hn : n < value.length := by omega
      have hsplit : (value.take (n + 1)).drop first = (value.take n).drop first ++ [value[n]] := by
        rw [List.take_succ_eq_append_getElem hn, List.drop_append_of_le_length]
        simp only [List.length_take]; omega
      rw [Nat.add_sub_cancel, charAt_eq hn, ok_bind, hsplit]
      split
      · next hs => rw [ih (by omega) (by omega) (by omega), List.rdropWhile_concat_pos _ _ _ hs]
      · next hs =>
        rw [List.rdropWhile_concat_neg _ _ _ hs]
        simp only [List.length_append, List.length_drop, List.length_take, List.length_singleton]
        congr 1; omega
    · next h =>
      have : first = last := by omega
      simp [this]

theorem trimHelper_eq (value : Bytes) : trimHelper value = .ok (trim value) := by
  set rest := value.dropWhile isSpace with hrest
  have hsuf : rest <:+ value := List.dropWhile_suffix _
  have hlen := hsuf.length_le
  have hdrop : value.drop (value.length - rest.length) = rest :=
    (List.suffix_iff_eq_drop.mp hsuf).symm
  have hpre : rest.rdropWhile isSpace <+: rest := List.rdropWhile_prefix _ _
  rw [trimHelper, trimBegin_eq (by omega) (Nat.zero_le _), ok_bind, List.drop_zero, ← hrest,
    trimEnd_eq (by omega) (by omega) (Nat.le_refl _), ok_bind, List.take_length, hdrop,
    substr_eq_take (by omega), hdrop, Nat.add_sub_cancel_left, trim, ← hrest]
  exact congrArg Except.ok (List.prefix_iff_eq_take.mp hpre).symm

/-! ### `parseQuery` -/

/-- Form decoding: `+` is a space, `%` takes the two bytes after it to `strtol`. -/
def decodeForm : Bytes → Bytes
  | [] => []
  | 37 :: a :: b :: s => toChar (strtol16 [a, b]) :: decodeForm s
  | c :: s => (if c = 43 then 32 else c) :: decodeForm s

theorem decodeForm_cons {c : UInt8} {s : Bytes} (h : c ≠ 37 ∨ s.length < 2) :
    decodeForm (c :: s) = (if c = 43 then 32 else c) :: decodeForm s := by
  rw [decodeForm]
  rintro a b t rfl rfl
  simp only [List.length_cons, ne_eq, not_true_eq_false, false_or] at h
  omega

theorem decodeLoop_eq {fuel : Nat} {input : Bytes} {i : Nat} (hf : input.length - i < fuel)
    (decoded : Bytes) :
    decodeLoop fuel input i decoded = .ok (decoded ++ decodeForm (input.drop i)) := by
  induction fuel generalizing i decoded with
  | zero => omega
  | succ fuel ih =>
    rw [decodeLoop]
    split
    · next h =>
      rw [charAt_eq h, ok_bind, List.drop_eq_getElem_cons h]
      split
      · next hc =>
        rw [ih (by omega), decodeForm_cons (.inl (by rw [hc]; decide)), if_pos hc]
        simp
      · next hc =>
        split
        · next hp =>
          obtain ⟨hp, hi⟩ := hp
          have h1 : i + 1 < input.length := by omega
          have hhex : (input.drop (i + 1)).take 2 = [input[i + 1], input[i + 2]] := by
            rw [List.drop_eq_getElem_cons h1, List.drop_eq_getElem_cons hi]
            rfl
          rw [substr_eq_take (by omega), ok_bind, ih (by omega), hp, List.drop_eq_getElem_cons h1,
            List.drop_eq_getElem_cons hi, decodeForm]
          simp [hhex]
        · next hp =>
          have hd : input[i] ≠ 37 ∨ (input.drop (i + 1)).length < 2 := by
            by_cases h37 : input[i] = 37
            · right; simp only [List.length_drop]; have := mt (And.intro h37) hp; omega
            · exact .inl h37
          rw [ih (by omega), decodeForm_cons hd, if_neg hc]
          simp
    · next h =>
      rw [List.drop_eq_nil_of_le (by omega), decodeForm, List.append_nil]

theorem decode_eq (input : Bytes) : decode input = .ok (decodeForm input) := by
  rw [decode, decodeLoop_eq (by omega)]; simp

/-- What one pair of the query stores. -/
def setPair (result : StdMap) (pair : Bytes) : StdMap :=
  if pair.isEmpty then result
  else result.set (decodeForm (textBefore [61] pair)) (decodeForm (textAfter [61] pair))

theorem storePair_eq (pair : Bytes) (result : StdMap) :
    storePair pair result = .ok (setPair result pair) := by
  rw [storePair, setPair]
  split
  · rfl
  · have ha := substrAfter_find pair [61]
    rw [List.length_singleton] at ha
    simp only [substrUntil_find, ha, ok_bind, decode_eq]

/-- The map of a query string: its pairs from left to right, later keys over earlier ones. -/
def queryMap (query : Bytes) : StdMap := (splitOn [38] query).foldl setPair StdMap.empty

theorem queryLoop_eq {fuel : Nat} {query : Bytes} {pos : Nat} (hf : query.length - pos + 1 < fuel)
    (hpos : pos ≤ query.length) (result : StdMap) :
    queryLoop fuel query pos result = .ok ((splitOn [38] (query.drop pos)).foldl setPair result) := by
  induction fuel generalizing pos result with
  | zero => omega
  | succ fuel ih =>
    rw [queryLoop]
    split
    · rw [find_drop hpos]
      cases hb : breakOn [38] (query.drop pos) with
      | none =>
        simp only [Option.map_none]
        rw [substr_eq_drop hpos, ok_bind, storePair_eq, ok_bind, splitOn_of_none hb]
        rfl
      | some p =>
        obtain ⟨pair, rest⟩ := p
        have he := breakOn_eq_append hb
        have hlen := congrArg List.length he
        simp only [List.length_drop, List.length_append, List.length_singleton] at hlen
        simp only [Option.map_some, Nat.add_sub_cancel_left]
        have hrest : query.drop (pos + pair.length + 1) = rest := by
          rw [Nat.add_assoc, ← List.drop_drop, he]; simp
        rw [substr_eq_take hpos, ok_bind, storePair_eq, ok_bind, ih (by omega) (by omega), hrest,
          splitOn_of_some (List.cons_ne_nil _ _) hb, List.foldl_cons, he]
        simp
    · next h =>
      obtain rfl : query = [] := by
        by_contra hne; exact h ⟨hpos, hne⟩
      simp [splitOn_of_none, breakOn, setPair]

/-- The query of a target as the text after its first `?`. -/
theorem queryText_eq (target : Bytes) :
    queryText target = .ok (if breakOn [63] target = none then target else textAfter [63] target) := by
  rw [queryText, find_zero, textAfter]
  cases hb : breakOn [63] target with
  | none => rfl
  | some p =>
    have he := breakOn_eq_append hb
    simp only [Option.map_some]
    rw [substr_eq_drop (by simp [he])]
    simp [he]

theorem parseQuery_eq (target : Bytes) :
    parseQuery target =
      .ok (queryMap (if breakOn [63] target = none then target else textAfter [63] target)) := by
  rw [parseQuery, queryText_eq, ok_bind, queryLoop_eq (by omega) (Nat.zero_le _)]
  rfl

/-! ### `parseRequest` -/

/-- The header lines up to an empty one, and whether none of them is malformed. -/
def headerMap : List Bytes → StdMap → Bool × StdMap
  | [], headers => (true, headers)
  | line :: lines, headers =>
    if line.isEmpty then (true, headers)
    else
      match breakOn [58] line with
      | none => (false, headers)
      | some (name, value) =>
        if (toLowerHelper (trim name)).isEmpty then (false, headers)
        else headerMap lines (headers.set (toLowerHelper (trim name)) (trim value))

theorem headerLoop_none (fuel : Nat) (head : Bytes) (headers : StdMap) :
    headerLoop (fuel + 1) head none headers = .ok (headerMap [] headers) := rfl

/-- One line of the header loop, the rest of the lines as the function `k` of the headers. -/
theorem headerLoop_line {line : Bytes} {headers : StdMap} {lines : List Bytes}
    {k : StdMap → Except Error (Bool × StdMap)} (hk : ∀ m, k m = .ok (headerMap lines m)) :
    (if line.isEmpty then Except.ok (true, headers)
      else match find line [58] 0 with
        | none => Except.ok (false, headers)
        | some colon => do
          let rawName ← substr line 0 (some colon)
          let trimmed ← trimHelper rawName
          let name := toLowerHelper trimmed
          if name.isEmpty then Except.ok (false, headers)
          else do
            let rawValue ← substr line (colon + 1) none
            let value ← trimHelper rawValue
            k (headers.set name value)) = .ok (headerMap (line :: lines) headers) := by
  rw [headerMap]
  split
  · rfl
  · rw [find_zero]
    cases hb : breakOn [58] line with
    | none => rfl
    | some p =>
      obtain ⟨name, value⟩ := p
      have he := breakOn_eq_append hb
      have hlen : name.length + 1 ≤ line.length := by simp [he]
      have hname : (line.drop 0).take name.length = name := by simp [he]
      have hvalue : line.drop (name.length + 1) = value := by simp [he]
      simp only [Option.map_some]
      rw [substr_eq_take (Nat.zero_le _), ok_bind, hname, trimHelper_eq, ok_bind]
      split
      · rfl
      · rw [substr_eq_drop hlen, ok_bind, hvalue, trimHelper_eq, ok_bind, hk]

theorem headerLoop_eq {fuel : Nat} {head : Bytes} {pos : Nat} (hf : head.length - pos + 1 < fuel)
    (hpos : pos ≤ head.length) (headers : StdMap) :
    headerLoop fuel head (some pos) headers = .ok (headerMap (splitOn crlf (head.drop pos)) headers) := by
  induction fuel generalizing pos headers with
  | zero => omega
  | succ fuel ih =>
    rw [headerLoop]
    split
    · rw [find_drop hpos]
      cases hb : breakOn crlf (head.drop pos) with
      | none =>
        simp only [Option.map_none]
        rw [substr_eq_drop hpos, ok_bind, splitOn_of_none hb]
        obtain ⟨n, rfl⟩ : ∃ n, fuel = n + 1 := ⟨fuel - 1, by omega⟩
        exact headerLoop_line fun m => headerLoop_none n head m
      | some p =>
        obtain ⟨line, rest⟩ := p
        have he := breakOn_eq_append hb
        have hlen := congrArg List.length he
        simp only [List.length_drop, List.length_append, crlf, List.length_cons, List.length_nil] at hlen
        have hline : (head.drop pos).take line.length = line := by rw [he]; simp
        have hrest : head.drop (pos + line.length + 2) = rest := by
          rw [Nat.add_assoc, ← List.drop_drop, he]; simp [crlf]
        simp only [Option.map_some, Nat.add_sub_cancel_left]
        rw [substr_eq_take hpos, ok_bind, hline, splitOn_of_some (by simp [crlf]) hb]
        refine headerLoop_line fun m => ?_
        rw [ih (by omega) (by omega), hrest]
    · rw [List.drop_eq_nil_of_le (by omega), splitOn_of_none (by simp [breakOn, crlf])]
      rfl

/-- The query a target carries. -/
def targetQuery (target : Bytes) : StdMap :=
  if breakOn [63] target = none then StdMap.empty else queryMap (textAfter [63] target)

/-- The head, up to the first empty line. -/
def headOf (raw : Bytes) : Bytes := textBefore (crlf ++ crlf) raw

/-- The header lines of a head. -/
def headerLines (head : Bytes) : List Bytes :=
  match breakOn crlf head with
  | none => []
  | some p => splitOn crlf p.2

/-- What `parseRequest` makes of the header lines and the body once the request line is accepted. -/
def finishRequest (out : HttpRequest) (lines : List Bytes) (body : Bytes) : Bool × HttpRequest :=
  match headerMap lines StdMap.empty with
  | (true, headers) => (true, { out with headers := headers, body := body })
  | (false, headers) => (false, { out with headers := headers })

/-- What `parseRequest` makes of the three parts of the request line. -/
def acceptLine (method target version : Bytes) (lines : List Bytes) (body : Bytes) :
    Bool × HttpRequest :=
  if method.isEmpty ∨ target.isEmpty ∨ rfind version (ascii "HTTP/1.") 0 ≠ some 0 then
    (false, { method := method })
  else if target.head? ≠ some 47 then (false, { method := method })
  else
    finishRequest { method := method, path := textBefore [63] target, query := targetQuery target }
      lines body

/-- `parseRequest` by cutting. -/
def request (raw : Bytes) : Bool × HttpRequest :=
  match breakOn [32] (textBefore crlf (headOf raw)) with
  | none => (false, {})
  | some (method, rest) =>
    match breakOn [32] rest with
    | none => (false, {})
    | some (target, version) =>
      acceptLine method target version (headerLines (headOf raw)) (textAfter (crlf ++ crlf) raw)

theorem substr_head (raw : Bytes) :
    substr raw 0 (some ((find raw (crlf ++ crlf) 0).getD raw.length)) = .ok (headOf raw) := by
  rw [substr_eq_take (Nat.zero_le _), find_zero, headOf, textBefore]
  cases hb : breakOn (crlf ++ crlf) raw with
  | none => simp
  | some p => simp [breakOn_eq_append hb]

theorem substr_line (head : Bytes) :
    substr head 0 (find head crlf 0) = .ok (textBefore crlf head) := by
  rw [find_zero, textBefore]
  cases hb : breakOn crlf head with
  | none => simp [substr]
  | some p => simp [substr, breakOn_eq_append hb]

theorem headerLoop_lines (head : Bytes) :
    headerLoop (head.length + 2) head ((find head crlf 0).map (· + 2)) StdMap.empty =
      .ok (headerMap (headerLines head) StdMap.empty) := by
  rw [find_zero, headerLines]
  cases hb : breakOn crlf head with
  | none => rfl
  | some p =>
    have he := breakOn_eq_append hb
    have hlen := congrArg List.length he
    simp only [List.length_append, crlf, List.length_cons, List.length_nil] at hlen
    simp only [Option.map_some]
    rw [headerLoop_eq (by omega) (by omega)]
    simp [he, crlf]

theorem query_eq (target : Bytes) :
    (if find target [63] 0 ≠ none then parseQuery target else .ok StdMap.empty) =
      .ok (targetQuery target) := by
  rw [find_zero, targetQuery, parseQuery_eq]
  cases hb : breakOn [63] target <;> simp

/-- `parseRequest` never fails, and computes `request`. -/
theorem parseRequest_eq (raw : Bytes) : parseRequest raw = .ok (request raw) := by
  have hbody := substrAfter_find raw (crlf ++ crlf)
  rw [show (crlf ++ crlf).length = 4 from rfl] at hbody
  rw [parseRequest, request]
  simp only [substr_head, ok_bind, substr_line]
  set head := headOf raw
  set line := textBefore crlf head
  rw [find_zero line]
  cases hb : breakOn [32] line with
  | none => rfl
  | some p =>
    obtain ⟨method, rest⟩ := p
    have he := breakOn_eq_append hb
    have hlen : method.length + 1 ≤ line.length := by simp [he]
    have hmethod : (line.drop 0).take method.length = method := by simp [he]
    have hrest : line.drop (method.length + 1) = rest := by simp [he]
    simp only [Option.map_some]
    rw [find_drop hlen, hrest]
    cases hb' : breakOn [32] rest with
    | none => rfl
    | some p =>
      obtain ⟨target, version⟩ := p
      have he' := breakOn_eq_append hb'
      have hlen' : method.length + 1 + target.length + 1 ≤ line.length := by
        simp [he, he']; omega
      have htarget : (line.drop (method.length + 1)).take target.length = target := by
        rw [hrest, he']; simp
      have hversion : line.drop (method.length + 1 + target.length + 1) = version := by
        rw [Nat.add_assoc (method.length + 1), ← List.drop_drop, hrest, he']; simp
      have hsub : method.length + 1 + target.length - method.length - 1 = target.length := by omega
      simp only [Option.map_some, hsub]
      rw [substr_eq_take (Nat.zero_le _), substr_eq_take hlen, substr_eq_drop hlen', hmethod,
        htarget, hversion]
      simp only [ok_bind, acceptLine]
      split
      · rfl
      · next hacc =>
        have hne : target ≠ [] := fun h => hacc (.inr (.inl (by simp [h])))
        obtain ⟨c, t, rfl⟩ := List.exists_cons_of_ne_nil hne
        have hfront : front (c :: t) = .ok c := rfl
        simp only [hfront, ok_bind, List.head?_cons, ne_eq, Option.some.injEq]
        split
        · rfl
        · simp only [substrUntil_find, ← ne_eq, query_eq, headerLoop_lines, hbody, ok_bind,
            finishRequest]
          cases headerMap (headerLines head) StdMap.empty with
          | mk ok headers => cases ok <;> rfl

end CameraPlatform
