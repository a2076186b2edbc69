import CameraPlatform.JsonEscape
import Mathlib.Data.List.Forall2

/-!
# What the serializers write, a JSON parser reads back

An escaped string field stays UTF-8 and reads back as itself. Each serializer's text is the
`renderObject` of its members, so it parses to exactly those members.
-/

namespace CameraPlatform
open ByteString Rfc8259

/-! ### The escaper -/

theorem escapeByte_ascii {c : UInt8} (hc : c < 128) : Ascii (escapeByte c) := by
  rcases escapeByte_cases c with ⟨e, he, heq⟩ | ⟨h₃, h₄, -, hhex, heq⟩ | ⟨-, heq⟩
  · rw [heq]
    exact List.forall_mem_cons.mpr ⟨by decide, List.forall_mem_singleton.mpr (ascii_of_unescape he).1⟩
  · obtain ⟨-, -, hh₃, hh₄⟩ := ascii_of_hex4 hhex
    rw [heq]
    simp [Ascii, hh₃, hh₄]
  · rw [heq]
    exact List.forall_mem_singleton.mpr hc

theorem escapeByte_of_le {c : UInt8} (h : 128 ≤ c) : escapeByte c = [c] := by
  rcases escapeByte_cases c with ⟨e, he, -⟩ | ⟨h₃, h₄, hc, -⟩ | ⟨-, heq⟩
  · exact absurd h (UInt8.not_le.mpr (ascii_of_unescape he).2)
  · exact absurd (UInt8.le_trans (by decide) h) (UInt8.not_le.mpr hc)
  · exact heq

/-- Escaping keeps a text UTF-8: it only ever rewrites whole characters. -/
theorem validUtf8_jsonEscape {value : Bytes} (h : ValidUtf8 value) : ValidUtf8 (jsonEscape value) := by
  obtain ⟨cs, rfl⟩ := h
  rw [jsonEscape_eq, List.flatMap_assoc]
  refine ValidUtf8.flatMap fun c _ => ?_
  by_cases hc : c.utf8Size = 1
  · rw [String.utf8EncodeChar_eq_singleton hc, List.flatMap_singleton]
    refine .ascii (escapeByte_ascii ?_)
    rw [Char.utf8Size_eq_one_iff, UInt32.le_iff_toNat_le] at hc
    rw [UInt8.lt_iff_toNat_lt, UInt32.toNat_toUInt8]
    simp at hc ⊢
    omega
  · have hplain : (String.utf8EncodeChar c).flatMap escapeByte = String.utf8EncodeChar c := by
      have hle := le_utf8EncodeChar hc
      generalize String.utf8EncodeChar c = bs at hle
      induction bs with
      | nil => rfl
      | cons b bs ih =>
        rw [List.flatMap_cons, escapeByte_of_le (hle b (by simp)),
          ih fun d hd => hle d (List.mem_cons_of_mem _ hd), List.singleton_append]
    rw [hplain]
    exact .char c

/-! ### Objects -/

/-- What a member of the parsed object must hold. -/
inductive Field where
  | string (s : Bytes)
  | integer (z : Int)
  | boolean (b : Bool)
  | number (token : Bytes)

/-- `v` is the value of `f`. -/
def Field.Holds : Field → Value → Prop
  | string s, v => v = .str s
  | integer z, v => v.int? = some z
  | boolean b, v => v = .bool b
  | number token, v => v = .num token ∧ NumberToken token

/-- `text` is one JSON object with exactly the keys of `fields`, each once and in order, and their values. -/
def Writes (text : Bytes) (fields : List (Bytes × Field)) : Prop :=
  (fields.map Prod.fst).Nodup ∧
    ∃ ms, parse text = some (.obj ms) ∧ List.Forall₂ (fun m f => m.1 = f.1 ∧ f.2.Holds m.2) ms fields

/-- A key of printable ASCII characters. -/
def AsciiKey (key : Bytes) : Prop := ∀ b ∈ key, b ≠ 34 ∧ b ≠ 92 ∧ ¬ b < 32 ∧ b < 128

instance (key : Bytes) : Decidable (AsciiKey key) := List.decidableBAll _ key

section Members
variable (key : Bytes) (hkey : AsciiKey key)

def strMember {s : Bytes} (hs : ValidUtf8 s) : Member where
  key := key
  text := 34 :: (jsonEscape s ++ [34])
  val := .str s
  plain b hb := ⟨(hkey b hb).1, (hkey b hb).2.1, (hkey b hb).2.2.1⟩
  reads := reads_str (scanString_jsonEscape s)
  key_utf8 := .ascii fun b hb => (hkey b hb).2.2.2
  text_utf8 := by
    rw [← List.singleton_append]
    exact (ValidUtf8.byte (by decide)).append ((validUtf8_jsonEscape hs).append (.byte (by decide)))

def numMember {token : Bytes} (ht : NumberToken token) : Member where
  key := key
  text := token
  val := .num token
  plain b hb := ⟨(hkey b hb).1, (hkey b hb).2.1, (hkey b hb).2.2.1⟩
  reads := reads_number ht
  key_utf8 := .ascii fun b hb => (hkey b hb).2.2.2
  text_utf8 := .ascii ht.ascii

def boolMember (b : Bool) : Member where
  key := key
  text := if b then ascii "true" else ascii "false"
  val := .bool b
  plain b hb := ⟨(hkey b hb).1, (hkey b hb).2.1, (hkey b hb).2.2.1⟩
  reads := by
    cases b
    · exact reads_false
    · exact reads_true
  key_utf8 := .ascii fun b hb => (hkey b hb).2.2.2
  text_utf8 := .ascii (by cases b <;> decide)

theorem strMember_render {s : Bytes} (hs : ValidUtf8 s) :
    (strMember key hkey hs).render = 34 :: (key ++ 34 :: 58 :: 34 :: (jsonEscape s ++ [34])) := rfl

theorem numMember_render {token : Bytes} (ht : NumberToken token) :
    (numMember key hkey ht).render = 34 :: (key ++ 34 :: 58 :: token) := rfl

theorem boolMember_render (b : Bool) :
    (boolMember key hkey b).render = 34 :: (key ++ 34 :: 58 :: if b then ascii "true" else ascii "false") :=
  rfl

end Members

/-- The members with the value of one key replaced. -/
def setMember (key : Bytes) (v : Value) (ms : List (Bytes × Value)) : List (Bytes × Value) :=
  ms.map fun m => if m.1 = key then (key, v) else m

/-- Both texts are objects, and the second one is the first with `v` at `key`. -/
def ChangesOnly (text text' key : Bytes) (v : Value) : Prop :=
  ∃ ms, parse text = some (.obj ms) ∧ parse text' = some (.obj (setMember key v ms))

/-! ### `ProfileInfo` -/

namespace ProfileInfo

/-- The string fields are UTF-8 and the double is finite. -/
structure Encodable (info : ProfileInfo) : Prop where
  name : ValidUtf8 info.name
  state : ValidUtf8 info.state
  url : ValidUtf8 info.url
  cpuPercent : info.cpuPercent.isFinite = true
  lastError : ValidUtf8 info.lastError

def fields (showDouble : Double → Bytes) (info : ProfileInfo) : List (Bytes × Field) :=
  [(ascii "name", .string info.name), (ascii "width", .integer info.width.toNat),
    (ascii "height", .integer info.height.toNat), (ascii "fps", .integer info.fps.toNat),
    (ascii "bitrateKbps", .integer info.bitrateKbps.toNat), (ascii "state", .string info.state),
    (ascii "url", .string info.url), (ascii "viewers", .integer info.viewers.toNat),
    (ascii "cpuPercent", .number (showDouble info.cpuPercent)), (ascii "lastError", .string info.lastError)]

/-- What the text parses to. -/
def members (showDouble : Double → Bytes) (info : ProfileInfo) : List (Bytes × Value) :=
  [(ascii "name", .str info.name), (ascii "width", .num (decimal info.width.toNat)),
    (ascii "height", .num (decimal info.height.toNat)), (ascii "fps", .num (decimal info.fps.toNat)),
    (ascii "bitrateKbps", .num (decimal info.bitrateKbps.toNat)), (ascii "state", .str info.state),
    (ascii "url", .str info.url), (ascii "viewers", .num (decimal info.viewers.toNat)),
    (ascii "cpuPercent", .num (showDouble info.cpuPercent)), (ascii "lastError", .str info.lastError)]

inductive StringField where
  | name
  | state
  | url
  | lastError

def StringField.key : StringField → Bytes
  | name => ascii "name"
  | state => ascii "state"
  | url => ascii "url"
  | lastError => ascii "lastError"

def set (info : ProfileInfo) (s : Bytes) : StringField → ProfileInfo
  | .name => { info with name := s }
  | .state => { info with state := s }
  | .url => { info with url := s }
  | .lastError => { info with lastError := s }

variable {showDouble : Double → Bytes} (hshow : ∀ d, d.isFinite = true → NumberToken (showDouble d))
  {info : ProfileInfo}
include hshow

/-- The text is the object of its members. -/
theorem parse_toJson (h : info.Encodable) :
    parse (info.toJson showDouble) = some (.obj (info.members showDouble)) := by
  have htext : info.toJson showDouble =
      renderObject [strMember (ascii "name") (by decide) h.name,
        numMember (ascii "width") (by decide) (numberToken_decimal info.width.toNat),
        numMember (ascii "height") (by decide) (numberToken_decimal info.height.toNat),
        numMember (ascii "fps") (by decide) (numberToken_decimal info.fps.toNat),
        numMember (ascii "bitrateKbps") (by decide) (numberToken_decimal info.bitrateKbps.toNat),
        strMember (ascii "state") (by decide) h.state,
        strMember (ascii "url") (by decide) h.url,
        numMember (ascii "viewers") (by decide) (numberToken_decimal info.viewers.toNat),
        numMember (ascii "cpuPercent") (by decide) (hshow _ h.cpuPercent),
        strMember (ascii "lastError") (by decide) h.lastError] := by
    simp only [renderObject, renderMembers_cons_cons, renderMembers_singleton, strMember_render, numMember_render]
    unfold toJson
    simp only [List.append_assoc, List.cons_append, List.nil_append]
    rfl
  rw [htext, parse_renderObject]
  rfl

omit hshow in
theorem keys_nodup : [ascii "name", ascii "width", ascii "height", ascii "fps", ascii "bitrateKbps",
    ascii "state", ascii "url", ascii "viewers", ascii "cpuPercent", ascii "lastError"].Nodup := by
  decide

theorem writes_toJson (h : info.Encodable) : Writes (info.toJson showDouble) (info.fields showDouble) := by
  refine ⟨keys_nodup, _, parse_toJson hshow h, ?_⟩
  simp only [members, fields, List.forall₂_cons, List.forall₂_nil_left_iff, Field.Holds, int?_decimal,
    hshow _ h.cpuPercent, and_self]

omit hshow in
theorem Encodable.set (h : info.Encodable) {s : Bytes} (hs : ValidUtf8 s) (k : StringField) :
    (info.set s k).Encodable := by
  cases k
  · exact { h with name := hs }
  · exact { h with state := hs }
  · exact { h with url := hs }
  · exact { h with lastError := hs }

theorem changesOnly_set (h : info.Encodable) {s : Bytes} (hs : ValidUtf8 s) (k : StringField) :
    ChangesOnly (info.toJson showDouble) ((info.set s k).toJson showDouble) k.key (.str s) := by
  refine ⟨_, parse_toJson hshow h, ?_⟩
  rw [parse_toJson hshow (h.set hs k)]
  cases k <;> rfl

end ProfileInfo

/-! ### `SystemStatus` -/

namespace SystemStatus

structure Encodable (status : SystemStatus) : Prop where
  ipAddress : ValidUtf8 status.ipAddress
  cpuPercent : status.cpuPercent.isFinite = true
  memoryPercent : status.memoryPercent.isFinite = true
  bitrateKbps : status.bitrateKbps.isFinite = true

def fields (showDouble : Double → Bytes) (status : SystemStatus) : List (Bytes × Field) :=
  [(ascii "network", .string status.network.toString), (ascii "ipAddress", .string status.ipAddress),
    (ascii "cpuPercent", .number (showDouble status.cpuPercent)),
    (ascii "memoryPercent", .number (showDouble status.memoryPercent)),
    (ascii "bitrateKbps", .number (showDouble status.bitrateKbps)),
    (ascii "droppedFrames", .integer status.droppedFrames.toNat),
    (ascii "cameraConnected", .boolean status.cameraConnected),
    (ascii "uptimeMs", .integer status.uptimeMs.toInt)]

def members (showDouble : Double → Bytes) (status : SystemStatus) : List (Bytes × Value) :=
  [(ascii "network", .str status.network.toString), (ascii "ipAddress", .str status.ipAddress),
    (ascii "cpuPercent", .num (showDouble status.cpuPercent)),
    (ascii "memoryPercent", .num (showDouble status.memoryPercent)),
    (ascii "bitrateKbps", .num (showDouble status.bitrateKbps)),
    (ascii "droppedFrames", .num (decimal status.droppedFrames.toNat)),
    (ascii "cameraConnected", .bool status.cameraConnected),
    (ascii "uptimeMs", .num (decimalInt status.uptimeMs.toInt))]

def setIpAddress (status : SystemStatus) (s : Bytes) : SystemStatus := { status with ipAddress := s }

/-- The enumerators' names are written without the escaper; none of them needs it. -/
theorem escape_network (state : NetworkState) : jsonEscape state.toString = state.toString := by
  cases state <;> decide

theorem validUtf8_network (state : NetworkState) : ValidUtf8 state.toString := by
  cases state <;> exact .ascii (by decide)

variable {showDouble : Double → Bytes} (hshow : ∀ d, d.isFinite = true → NumberToken (showDouble d))
  {status : SystemStatus}
include hshow

theorem parse_toJson (h : status.Encodable) :
    parse (status.toJson showDouble) = some (.obj (status.members showDouble)) := by
  have htext : status.toJson showDouble =
      renderObject [strMember (ascii "network") (by decide) (validUtf8_network status.network),
        strMember (ascii "ipAddress") (by decide) h.ipAddress,
        numMember (ascii "cpuPercent") (by decide) (hshow _ h.cpuPercent),
        numMember (ascii "memoryPercent") (by decide) (hshow _ h.memoryPercent),
        numMember (ascii "bitrateKbps") (by decide) (hshow _ h.bitrateKbps),
        numMember (ascii "droppedFrames") (by decide) (numberToken_decimal status.droppedFrames.toNat),
        boolMember (ascii "cameraConnected") (by decide) status.cameraConnected,
        numMember (ascii "uptimeMs") (by decide) (numberToken_decimalInt status.uptimeMs.toInt)] := by
    simp only [renderObject, renderMembers_cons_cons, renderMembers_singleton, strMember_render, numMember_render,
      boolMember_render, escape_network]
    unfold toJson
    simp only [List.append_assoc, List.cons_append, List.nil_append]
    rfl
  rw [htext, parse_renderObject]
  rfl

omit hshow in
theorem keys_nodup : [ascii "network", ascii "ipAddress", ascii "cpuPercent", ascii "memoryPercent",
    ascii "bitrateKbps", ascii "droppedFrames", ascii "cameraConnected", ascii "uptimeMs"].Nodup := by
  decide

theorem writes_toJson (h : status.Encodable) :
    Writes (status.toJson showDouble) (status.fields showDouble) := by
  refine ⟨keys_nodup, _, parse_toJson hshow h, ?_⟩
  simp only [members, fields, List.forall₂_cons, List.forall₂_nil_left_iff, Field.Holds, int?_decimal,
    int?_decimalInt, hshow _ h.cpuPercent, hshow _ h.memoryPercent, hshow _ h.bitrateKbps, and_self]

theorem changesOnly_setIpAddress (h : status.Encodable) {s : Bytes} (hs : ValidUtf8 s) :
    ChangesOnly (status.toJson showDouble) ((status.setIpAddress s).toJson showDouble)
      (ascii "ipAddress") (.str s) := by
  have h' : (status.setIpAddress s).Encodable := { h with ipAddress := hs }
  refine ⟨_, parse_toJson hshow h, ?_⟩
  rw [parse_toJson hshow h']
  rfl

end SystemStatus

/-! ### `CameraState` -/

namespace CameraState

structure Encodable (state : CameraState) : Prop where
  sourceName : ValidUtf8 state.sourceName
  pixelFormat : ValidUtf8 state.pixelFormat
  lastError : ValidUtf8 state.lastError

def fields (state : CameraState) : List (Bytes × Field) :=
  [(ascii "status", .string state.status.toString), (ascii "sourceName", .string state.sourceName),
    (ascii "width", .integer state.width.toNat), (ascii "height", .integer state.height.toNat),
    (ascii "fpsNum", .integer state.fpsNum.toNat), (ascii "fpsDenom", .integer state.fpsDenom.toNat),
    (ascii "pixelFormat", .string state.pixelFormat), (ascii "uptimeMs", .integer state.uptimeMs.toInt),
    (ascii "lastError", .string state.lastError)]

def members (state : CameraState) : List (Bytes × Value) :=
  [(ascii "status", .str state.status.toString), (ascii "sourceName", .str state.sourceName),
    (ascii "width", .num (decimal state.width.toNat)), (ascii "height", .num (decimal state.height.toNat)),
    (ascii "fpsNum", .num (decimal state.fpsNum.toNat)), (ascii "fpsDenom", .num (decimal state.fpsDenom.toNat)),
    (ascii "pixelFormat", .str state.pixelFormat), (ascii "uptimeMs", .num (decimalInt state.uptimeMs.toInt)),
    (ascii "lastError", .str state.lastError)]

inductive StringField where
  | sourceName
  | pixelFormat
  | lastError

def StringField.key : StringField → Bytes
  | sourceName => ascii "sourceName"
  | pixelFormat => ascii "pixelFormat"
  | lastError => ascii "lastError"

def set (state : CameraState) (s : Bytes) : StringField → CameraState
  | .sourceName => { state with sourceName := s }
  | .pixelFormat => { state with pixelFormat := s }
  | .lastError => { state with lastError := s }

theorem escape_status (status : CameraStatus) : jsonEscape status.toString = status.toString := by
  cases status <;> decide

theorem validUtf8_status (status : CameraStatus) : ValidUtf8 status.toString := by
  cases status <;> exact .ascii (by decide)

variable {state : CameraState}

theorem parse_toJson (h : state.Encodable) : parse state.toJson = some (.obj state.members) := by
  have htext : state.toJson =
      renderObject [strMember (ascii "status") (by decide) (validUtf8_status state.status),
        strMember (ascii "sourceName") (by decide) h.sourceName,
        numMember (ascii "width") (by decide) (numberToken_decimal state.width.toNat),
        numMember (ascii "height") (by decide) (numberToken_decimal state.height.toNat),
        numMember (ascii "fpsNum") (by decide) (numberToken_decimal state.fpsNum.toNat),
        numMember (ascii "fpsDenom") (by decide) (numberToken_decimal state.fpsDenom.toNat),
        strMember (ascii "pixelFormat") (by decide) h.pixelFormat,
        numMember (ascii "uptimeMs") (by decide) (numberToken_decimalInt state.uptimeMs.toInt),
        strMember (ascii "lastError") (by decide) h.lastError] := by
    simp only [renderObject, renderMembers_cons_cons, renderMembers_singleton, strMember_render, numMember_render,
      escape_status]
    unfold toJson
    simp only [List.append_assoc, List.cons_append, List.nil_append]
    rfl
  rw [htext, parse_renderObject]
  rfl

theorem keys_nodup : [ascii "status", ascii "sourceName", ascii "width", ascii "height", ascii "fpsNum",
    ascii "fpsDenom", ascii "pixelFormat", ascii "uptimeMs", ascii "lastError"].Nodup := by
  decide

theorem writes_toJson (h : state.Encodable) : Writes state.toJson state.fields := by
  refine ⟨keys_nodup, _, parse_toJson h, ?_⟩
  simp only [members, fields, List.forall₂_cons, List.forall₂_nil_left_iff, Field.Holds, int?_decimal,
    int?_decimalInt, and_self]

theorem Encodable.set (h : state.Encodable) {s : Bytes} (hs : ValidUtf8 s) (k : StringField) :
    (state.set s k).Encodable := by
  cases k
  · exact { h with sourceName := hs }
  · exact { h with pixelFormat := hs }
  · exact { h with lastError := hs }

theorem changesOnly_set (h : state.Encodable) {s : Bytes} (hs : ValidUtf8 s) (k : StringField) :
    ChangesOnly state.toJson (state.set s k).toJson k.key (.str s) := by
  refine ⟨_, parse_toJson h, ?_⟩
  rw [parse_toJson (h.set hs k)]
  cases k <;> rfl

end CameraState

/-! ### `jsonError` -/

theorem parse_jsonError {message : Bytes} (h : ValidUtf8 message) :
    parse (jsonError message) = some (.obj [(ascii "error", .str message)]) := by
  have htext : jsonError message = renderObject [strMember (ascii "error") (by decide) h] := by
    simp only [renderObject, renderMembers_singleton, strMember_render]
    unfold jsonError
    simp only [List.append_assoc, List.cons_append, List.nil_append]
    rfl
  rw [htext, parse_renderObject]
  rfl

theorem writes_jsonError {message : Bytes} (h : ValidUtf8 message) :
    Writes (jsonError message) [(ascii "error", .string message)] :=
  ⟨List.pairwise_singleton _ _, _, parse_jsonError h, .cons ⟨rfl, rfl⟩ .nil⟩

theorem changesOnly_jsonError {message s : Bytes} (h : ValidUtf8 message) (hs : ValidUtf8 s) :
    ChangesOnly (jsonError message) (jsonError s) (ascii "error") (.str s) :=
  ⟨_, parse_jsonError h, parse_jsonError hs⟩

/-! ### All four serializers -/

/-- Every text the control plane writes for its value types is one JSON object with the declared
members, and a string field reaches its own member only. -/
theorem toJson_reads_back (showDouble : Double → Bytes)
    (hshow : ∀ d, d.isFinite = true → NumberToken (showDouble d)) :
    (∀ info : ProfileInfo, info.Encodable →
      Writes (info.toJson showDouble) (info.fields showDouble) ∧
      ∀ k s, ValidUtf8 s →
        ChangesOnly (info.toJson showDouble) ((info.set s k).toJson showDouble) k.key (.str s)) ∧
    (∀ status : SystemStatus, status.Encodable →
      Writes (status.toJson showDouble) (status.fields showDouble) ∧
      ∀ s, ValidUtf8 s →
        ChangesOnly (status.toJson showDouble) ((status.setIpAddress s).toJson showDouble)
          (ascii "ipAddress") (.str s)) ∧
    (∀ state : CameraState, state.Encodable →
      Writes state.toJson state.fields ∧
      ∀ k s, ValidUtf8 s → ChangesOnly state.toJson (state.set s k).toJson k.key (.str s)) ∧
    ∀ message, ValidUtf8 message →
      Writes (jsonError message) [(ascii "error", .string message)] ∧
      ∀ s, ValidUtf8 s → ChangesOnly (jsonError message) (jsonError s) (ascii "error") (.str s) := by
  refine ⟨fun info h => ⟨info.writes_toJson hshow h, fun k s hs => info.changesOnly_set hshow h hs k⟩,
    fun status h => ⟨status.writes_toJson hshow h, fun s hs => status.changesOnly_setIpAddress hshow h hs⟩,
    fun state h => ⟨state.writes_toJson h, fun k s hs => state.changesOnly_set h hs k⟩,
    fun message h => ⟨writes_jsonError h, fun s hs => changesOnly_jsonError h hs⟩⟩

/-- A name that tries to close its literal, with the double zero printed as `0`. -/
theorem toJson_reads_back_quoted :
    Writes (ProfileInfo.toJson (fun _ => ascii "0") { name := ascii "hd\",\"state\":\"live" })
      (ProfileInfo.fields (fun _ => ascii "0") { name := ascii "hd\",\"state\":\"live" }) ∧
    Writes (SystemStatus.toJson (fun _ => ascii "0") {}) (SystemStatus.fields (fun _ => ascii "0") {}) ∧
    Writes (CameraState.toJson {}) (CameraState.fields {}) ∧
    Writes (jsonError (ascii "\\\n")) [(ascii "error", .string (ascii "\\\n"))] := by
  have h := toJson_reads_back (fun _ => ascii "0") fun _ _ => numberToken_decimal 0
  exact ⟨(h.1 _ ⟨.ascii (by decide), .ascii (by decide), .nil, by decide, .nil⟩).1,
    (h.2.1 _ ⟨.nil, by decide, by decide, by decide⟩).1,
    (h.2.2.1 _ ⟨.ascii (by decide), .ascii (by decide), .nil⟩).1, (h.2.2.2 _ (.ascii (by decide))).1⟩

end CameraPlatform
