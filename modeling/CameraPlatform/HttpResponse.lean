import CameraPlatform.Base.Decimal
import CameraPlatform.HttpRoundTrip

/-!
# Responses (`web/HttpMessage.hpp`)

`readResponse` is a client that takes the head up to the first empty line and then as many bytes as the
head announces. It reads back what `serializeResponse` wrote.
-/

namespace CameraPlatform
open ByteString

structure HttpResponse where
  status : Int32 := 200
  contentType : Bytes := ascii "application/json"
  body : Bytes := []
deriving DecidableEq

namespace HttpResponse

def json (payload : Bytes) (code : Int32) : HttpResponse :=
  { status := code, contentType := ascii "application/json", body := payload }

end HttpResponse

def statusText (status : Int32) : Bytes :=
  match status.toInt with
  | 200 => ascii "OK"
  | 201 => ascii "Created"
  | 204 => ascii "No Content"
  | 400 => ascii "Bad Request"
  | 404 => ascii "Not Found"
  | 405 => ascii "Method Not Allowed"
  | 500 => ascii "Internal Server Error"
  | 501 => ascii "Not Implemented"
  | _ => ascii "Unknown"

def serializeResponse (response : HttpResponse) : Bytes :=
  ascii "HTTP/1.1 " ++ decimalInt response.status.toInt ++ ascii " " ++ statusText response.status ++ crlf ++
  ascii "Content-Type: " ++ response.contentType ++ crlf ++
  ascii "Content-Length: " ++ decimal response.body.length ++ crlf ++
  ascii "Connection: close" ++ crlf ++
  crlf ++
  response.body

/-! ### A client -/

/-- What a line has after its name, when it has this name. -/
def lineValue (name line : Bytes) : Option Bytes :=
  match breakOn (ascii ": ") line with
  | some (n, v) => if n = name then some v else none
  | none => none

def valuesOf (name : Bytes) (headers : List Bytes) : List Bytes := headers.filterMap (lineValue name)

/-- The status of a response, its content type and its body; both headers must be there once. -/
def readResponse (text : Bytes) : Option (Int × Bytes × Bytes) := do
  let (head, rest) ← breakOn (crlf ++ crlf) text
  match splitOn crlf head with
  | statusLine :: headers => do
    let (version, line) ← breakOn [32] statusLine
    let (code, _) ← breakOn [32] line
    match valuesOf (ascii "Content-Type") headers, valuesOf (ascii "Content-Length") headers with
    | [contentType], [contentLength] =>
      if version = ascii "HTTP/1.1" ∧ ofDecimal contentLength ≤ rest.length then
        some (ofDecimalInt code, contentType, rest.take (ofDecimal contentLength))
      else none
    | _, _ => none
  | [] => none

theorem lineValue_field {name n : Bytes} (hn : 58 ∉ n) (v : Bytes) :
    lineValue name (n ++ ascii ": " ++ v) = if n = name then some v else none := by
  have hcut : breakOn (ascii ": ") (n ++ ascii ": " ++ v) = some (n, v) := by
    rw [List.append_assoc]
    exact breakOn_append hn v
  rw [lineValue, hcut]

/-! ### The head -/

namespace HttpResponse

def statusLine (r : HttpResponse) : Bytes :=
  ascii "HTTP/1.1 " ++ decimalInt r.status.toInt ++ ascii " " ++ statusText r.status

/-- The header lines of a response. -/
def headers (r : HttpResponse) : List Bytes :=
  [ascii "Content-Type: " ++ r.contentType, ascii "Content-Length: " ++ decimal r.body.length,
    ascii "Connection: close"]

/-- A content type that stays on its line. -/
def OneLine (r : HttpResponse) : Prop := 13 ∉ r.contentType ∧ 10 ∉ r.contentType

theorem serializeResponse_eq (r : HttpResponse) : serializeResponse r =
    r.statusLine ++ ((r.headers.flatMap fun line => crlf ++ line) ++ (crlf ++ crlf ++ r.body)) := by
  simp [serializeResponse, statusLine, headers]

theorem not_mem_decimalInt {c : UInt8} (hc : isDigit c = false) (hminus : c ≠ 45) (z : Int) : c ∉ decimalInt z := by
  intro hmem
  rcases mem_decimalInt hmem with h | h
  · exact hminus h
  · rw [hc] at h
    cases h

theorem not_mem_statusText (status : Int32) : (13 : UInt8) ∉ statusText status := by
  unfold statusText
  split <;> decide

theorem cr_not_mem_lines {r : HttpResponse} (h : r.OneLine) : ∀ x ∈ r.statusLine :: r.headers, (13 : UInt8) ∉ x := by
  have hdec := not_mem_decimalInt (c := 13) rfl (by decide)
  have hlength : (13 : UInt8) ∉ decimal r.body.length := hdec r.body.length
  intro x hx
  simp only [headers, List.mem_cons, List.not_mem_nil, or_false] at hx
  rcases hx with rfl | rfl | rfl | rfl
  · have hversion : (13 : UInt8) ∉ ascii "HTTP/1.1 " := by decide
    have hspace : (13 : UInt8) ∉ ascii " " := by decide
    simp [statusLine, hversion, hspace, hdec, not_mem_statusText]
  · have hname : (13 : UInt8) ∉ ascii "Content-Type: " := by decide
    simp [hname, h.1]
  · have hname : (13 : UInt8) ∉ ascii "Content-Length: " := by decide
    simp [hname, hlength]
  · decide

/-- The first empty line ends the head, and the head has these four lines. -/
theorem head_of_response {r : HttpResponse} (h : r.OneLine) : ∃ head,
    breakOn (crlf ++ crlf) (serializeResponse r) = some (head, r.body) ∧
      splitOn crlf head = r.statusLine :: r.headers := by
  have hne : ∀ x ∈ r.headers, x ≠ [] := by
    intro x hx
    simp only [headers, List.mem_cons, List.not_mem_nil, or_false] at hx
    rcases hx with rfl | rfl | rfl <;> simp [ascii]
  refine ⟨_, ?_, splitOn_intercalate (cr_not_mem_lines h)⟩
  rw [serializeResponse_eq]
  exact breakOn_blank_line (cr_not_mem_lines h) hne r.body

/-- No header is there twice. -/
theorem valuesOf_headers (r : HttpResponse) :
    valuesOf (ascii "Content-Type") r.headers = [r.contentType] ∧
      valuesOf (ascii "Content-Length") r.headers = [decimal r.body.length] := by
  have hvalues : ∀ name, valuesOf name r.headers =
      [if ascii "Content-Type" = name then some r.contentType else none,
        if ascii "Content-Length" = name then some (decimal r.body.length) else none,
        if ascii "Connection" = name then some (ascii "close") else none].filterMap id := by
    intro name
    have htype := @lineValue_field name (ascii "Content-Type") (by decide) r.contentType
    have hlength := @lineValue_field name (ascii "Content-Length") (by decide) (decimal r.body.length)
    have hconnection := @lineValue_field name (ascii "Connection") (by decide) (ascii "close")
    rw [← htype, ← hlength, ← hconnection]
    rfl
  rw [hvalues, hvalues]
  exact ⟨rfl, rfl⟩

theorem statusLine_cut (r : HttpResponse) : ∃ line,
    breakOn [32] r.statusLine = some (ascii "HTTP/1.1", line) ∧
      breakOn [32] line = some (decimalInt r.status.toInt, statusText r.status) := by
  refine ⟨decimalInt r.status.toInt ++ 32 :: statusText r.status, ?_, ?_⟩
  · have hline : r.statusLine = ascii "HTTP/1.1" ++ ([32] ++ (decimalInt r.status.toInt ++ 32 :: statusText r.status)) := by
      simp [statusLine, ascii]
    rw [hline]
    exact breakOn_append (by decide) _
  · exact breakOn_append (not_mem_decimalInt rfl (by decide) _) _

end HttpResponse

theorem readResponse_serialize {r : HttpResponse} (h : r.OneLine) :
    readResponse (serializeResponse r) = some (r.status.toInt, r.contentType, r.body) := by
  obtain ⟨head, hcut, hlines⟩ := r.head_of_response h
  obtain ⟨line, hstatus, hcode⟩ := r.statusLine_cut
  obtain ⟨htype, hlength⟩ := r.valuesOf_headers
  rw [readResponse, hcut]
  simp only [Option.bind_eq_bind, Option.bind_some, hlines, hstatus, hcode, htype, hlength]
  rw [ofDecimal_decimal, ofDecimalInt_decimalInt, if_pos ⟨trivial, Nat.le_refl _⟩, List.take_length]

/-- Every response is framed: the head ends at the first empty line and has four lines, one of which gives
the length of the rest; a client reads back what was written. -/
theorem serializeResponse_framed (r : HttpResponse) (h : r.OneLine) :
    (∃ head, breakOn (crlf ++ crlf) (serializeResponse r) = some (head, r.body) ∧
      splitOn crlf head = r.statusLine :: r.headers ∧ r.headers.length = 3 ∧
      valuesOf (ascii "Content-Length") r.headers = [decimal r.body.length] ∧
      ofDecimal (decimal r.body.length) = r.body.length) ∧
    readResponse (serializeResponse r) = some (r.status.toInt, r.contentType, r.body) ∧
    ∀ r' : HttpResponse, r'.OneLine → serializeResponse r' = serializeResponse r → r' = r := by
  refine ⟨?_, readResponse_serialize h, fun r' h' heq => ?_⟩
  · obtain ⟨head, hcut, hlines⟩ := r.head_of_response h
    exact ⟨head, hcut, hlines, rfl, r.valuesOf_headers.2, ofDecimal_decimal _⟩
  · have hread := readResponse_serialize h'
    rw [heq, readResponse_serialize h] at hread
    obtain ⟨hstatus, htype, hbody⟩ : r.status.toInt = r'.status.toInt ∧ r.contentType = r'.contentType ∧
        r.body = r'.body := by
      simpa using hread
    obtain ⟨status, contentType, body⟩ := r
    obtain ⟨status', contentType', body'⟩ := r'
    simp only at hstatus htype hbody
    rw [Int32.toInt_inj.mp hstatus, htype, hbody]

theorem serializeResponse_framed_json :
    let r : HttpResponse := .json (ascii "\r\n\r\nHTTP/1.1 200 OK") 404
    (∃ head, breakOn (crlf ++ crlf) (serializeResponse r) = some (head, r.body) ∧
      splitOn crlf head = r.statusLine :: r.headers ∧ r.headers.length = 3 ∧
      valuesOf (ascii "Content-Length") r.headers = [decimal r.body.length] ∧
      ofDecimal (decimal r.body.length) = r.body.length) ∧
    readResponse (serializeResponse r) = some (r.status.toInt, r.contentType, r.body) ∧
    ∀ r' : HttpResponse, r'.OneLine → serializeResponse r' = serializeResponse r → r' = r := by
  intro r
  exact serializeResponse_framed r ⟨by decide, by decide⟩

end CameraPlatform
