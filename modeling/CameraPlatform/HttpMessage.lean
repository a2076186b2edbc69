import CameraPlatform.Base.ByteString
import Mathlib.Logic.Function.Basic

/-!
# `web/HttpMessage.hpp`: requests

`parseQuery` and `parseRequest` with the offsets of the source. A `std::out_of_range`, a `front()` of
an empty string or a loop that does not end shows as an `Error`; `std::isspace`, `std::tolower` and
`std::strtol` are those of the C locale.
-/

namespace CameraPlatform
open ByteString

/-- A `std::map<std::string, std::string>`, by its lookups. -/
abbrev StdMap := Bytes → Option Bytes

/-- `map[key] = value`. -/
def StdMap.set (m : StdMap) (key value : Bytes) : StdMap := Function.update m key (some value)

def StdMap.empty : StdMap := fun _ => none

def isSpace (c : UInt8) : Bool := (9 ≤ c && c ≤ 13) || c == 32

def toLower (c : UInt8) : UInt8 := if 65 ≤ c && c ≤ 90 then c + 32 else c

def toLowerHelper (value : Bytes) : Bytes := value.map toLower

/-- `while (begin < end && isSpace(value[begin])) ++begin`. -/
def trimBegin : Nat → Bytes → Nat → Nat → Except Error Nat
  | 0, _, _, _ => .error .outOfFuel
  | fuel + 1, value, first, last =>
    if first < last then do
      let c ← charAt value first
      if isSpace c then trimBegin fuel value (first + 1) last else .ok first
    else .ok first

/-- `while (end > begin && isSpace(value[end - 1])) --end`. -/
def trimEnd : Nat → Bytes → Nat → Nat → Except Error Nat
  | 0, _, _, _ => .error .outOfFuel
  | fuel + 1, value, first, last =>
    if first < last then do
      let c ← charAt value (last - 1)
      if isSpace c then trimEnd fuel value first (last - 1) else .ok last
    else .ok last

def trimHelper (value : Bytes) : Except Error Bytes := do
  let first ← trimBegin (value.length + 1) value 0 value.length
  let last ← trimEnd (value.length + 1) value first value.length
  substr value first (some (last - first))

structure HttpRequest where
  method : Bytes := []
  path : Bytes := []
  body : Bytes := []
  query : StdMap := StdMap.empty
  headers : StdMap := StdMap.empty

/-- Case-insensitive lookup, empty when absent. -/
def HttpRequest.header (r : HttpRequest) (name : Bytes) : Bytes :=
  match r.headers (toLowerHelper name) with
  | none => []
  | some v => v

/-! ### `parseQuery` -/

/-- The leading hexadecimal digits of `s`, after those read into `acc`. -/
def hexValue (acc : Nat) : Bytes → Nat
  | [] => acc
  | c :: s =>
    match hexDigit? c with
    | some d => hexValue (16 * acc + d) s
    | none => acc

/-- A `0x` prefix counts only when a digit follows it. -/
def skipHexPrefix : Bytes → Bytes
  | 48 :: x :: c :: s => if (x = 120 ∨ x = 88) ∧ (hexDigit? c).isSome then c :: s else 48 :: x :: c :: s
  | s => s

/-- `std::strtol(s, nullptr, 16)`: leading spaces, a sign, a prefix, then digits as far as they go. -/
def strtol16 (s : Bytes) : Int :=
  match s.dropWhile isSpace with
  | 45 :: s => -(hexValue 0 (skipHexPrefix s) : Int)
  | 43 :: s => hexValue 0 (skipHexPrefix s)
  | s => hexValue 0 (skipHexPrefix s)

/-- `static_cast<char>` of a `long`. -/
def toChar (n : Int) : UInt8 := UInt8.ofNat (n % 256).toNat

/-- The loop of the `decode` lambda, from index `i` on. -/
def decodeLoop : Nat → Bytes → Nat → Bytes → Except Error Bytes
  | 0, _, _, _ => .error .outOfFuel
  | fuel + 1, input, i, decoded =>
    if i < input.length then do
      let c ← charAt input i
      if c = 43 then decodeLoop fuel input (i + 1) (decoded ++ [32])
      else if c = 37 ∧ i + 2 < input.length then do
        let hex ← substr input (i + 1) (some 2)
        -- `i += 2` on top of the loop's own `++i`
        decodeLoop fuel input (i + 3) (decoded ++ [toChar (strtol16 hex)])
      else decodeLoop fuel input (i + 1) (decoded ++ [c])
    else .ok decoded

def decode (input : Bytes) : Except Error Bytes := decodeLoop (input.length + 1) input 0 []

/-- One `key=value` pair of the query. -/
def storePair (pair : Bytes) (result : StdMap) : Except Error StdMap :=
  if pair.isEmpty then .ok result
  else do
    let equals := find pair [61] 0
    let rawKey ← substrUntil pair equals
    let rawValue ← substrAfter pair 1 equals
    let value ← decode rawValue
    let key ← decode rawKey
    .ok (result.set key value)

def queryLoop : Nat → Bytes → Nat → StdMap → Except Error StdMap
  | 0, _, _, _ => .error .outOfFuel
  | fuel + 1, query, pos, result =>
    if pos ≤ query.length ∧ query ≠ [] then do
      let ampersand := find query [38] pos
      let pair ← substr query pos (ampersand.map (· - pos))
      let result ← storePair pair result
      match ampersand with
      | none => .ok result
      | some a => queryLoop fuel query (a + 1) result
    else .ok result

/-- The query of a full `/path?a=1` target, all of `target` when it has no `?`. -/
def queryText (target : Bytes) : Except Error Bytes :=
  match find target [63] 0 with
  | none => .ok target
  | some question => substr target (question + 1) none

def parseQuery (target : Bytes) : Except Error StdMap := do
  let query ← queryText target
  queryLoop (query.length + 2) query 0 StdMap.empty

/-! ### `parseRequest` -/

def crlf : Bytes := [13, 10]

/-- The header loop from `pos`: `false` when a line is malformed, and the headers stored so far. -/
def headerLoop : Nat → Bytes → Option Nat → StdMap → Except Error (Bool × StdMap)
  | 0, _, _, _ => .error .outOfFuel
  | _ + 1, _, none, headers => .ok (true, headers)
  | fuel + 1, head, some pos, headers =>
    if pos < head.length then do
      let lineEnd := find head crlf pos
      let line ← substr head pos (lineEnd.map (· - pos))
      let next := lineEnd.map (· + 2)
      if line.isEmpty then .ok (true, headers)
      else
        match find line [58] 0 with
        | none => .ok (false, headers)
        | some colon => do
          let rawName ← substr line 0 (some colon)
          let trimmed ← trimHelper rawName
          let name := toLowerHelper trimmed
          if name.isEmpty then .ok (false, headers)
          else do
            let rawValue ← substr line (colon + 1) none
            let value ← trimHelper rawValue
            headerLoop fuel head next (headers.set name value)
    else .ok (true, headers)

/-- The result and `out`, which after a refusal holds what was stored before it. -/
def parseRequest (raw : Bytes) : Except Error (Bool × HttpRequest) := do
  let headerEnd := find raw (crlf ++ crlf) 0
  let headerLength := headerEnd.getD raw.length
  let head ← substr raw 0 (some headerLength)
  let requestLineEnd := find head crlf 0
  let requestLine ← substr head 0 requestLineEnd
  match find requestLine [32] 0 with
  | none => .ok (false, {})
  | some firstSpace =>
    match find requestLine [32] (firstSpace + 1) with
    | none => .ok (false, {})
    | some secondSpace => do
      let method ← substr requestLine 0 (some firstSpace)
      let target ← substr requestLine (firstSpace + 1) (some (secondSpace - firstSpace - 1))
      let version ← substr requestLine (secondSpace + 1) none
      if method.isEmpty ∨ target.isEmpty ∨ rfind version (ascii "HTTP/1.") 0 ≠ some 0 then
        .ok (false, { method := method })
      else do
        let first ← front target
        if first ≠ 47 then .ok (false, { method := method })
        else do
          let question := find target [63] 0
          let path ← substrUntil target question
          let query ← (if question ≠ none then parseQuery target else .ok StdMap.empty)
          let out : HttpRequest := { method := method, path := path, query := query }
          let (ok, headers) ← headerLoop (head.length + 2) head (requestLineEnd.map (· + 2)) StdMap.empty
          if !ok then .ok (false, { out with headers := headers })
          else do
            let body ← substrAfter raw 4 headerEnd
            .ok (true, { out with headers := headers, body := body })

end CameraPlatform
