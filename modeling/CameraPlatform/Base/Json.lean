import CameraPlatform.Base.Decimal
import Mathlib.Data.Option.Basic

/-!
# A reference JSON parser (RFC 8259)

`parse` reads a UTF-8 text as one JSON value with nothing left over. Strings are read byte by byte:
in a valid text the bytes from `0x80` up belong to unescaped characters. A number keeps its token.
-/

namespace Rfc8259
open ByteString

inductive Value where
  | null
  | bool (b : Bool)
  | num (token : Bytes)
  | str (s : Bytes)
  | arr (elements : List Value)
  | obj (members : List (Bytes × Value))

/-! ### UTF-8 -/

/-- The encoding of some characters. -/
def ValidUtf8 (s : Bytes) : Prop := ∃ cs : List Char, s = cs.flatMap String.utf8EncodeChar

theorem validUtf8_iff (s : Bytes) : s.toByteArray.IsValidUTF8 ↔ ValidUtf8 s := by
  constructor
  · rintro ⟨cs, h⟩
    exact ⟨cs, by simpa [List.utf8Encode] using congrArg (fun b => b.data.toList) h⟩
  · rintro ⟨cs, rfl⟩
    exact .intro cs rfl

instance (s : Bytes) : Decidable (ValidUtf8 s) := decidable_of_iff _ (validUtf8_iff s)

/-- Bytes that are characters of their own. -/
def Ascii (s : Bytes) : Prop := ∀ b ∈ s, b < 128

-- over the bytes of the text, not over all 256
instance (s : Bytes) : Decidable (Ascii s) := List.decidableBAll _ s

namespace ValidUtf8
variable {s t : Bytes}

theorem nil : ValidUtf8 [] := ⟨[], rfl⟩

theorem append (hs : ValidUtf8 s) (ht : ValidUtf8 t) : ValidUtf8 (s ++ t) := by
  obtain ⟨cs, rfl⟩ := hs
  obtain ⟨ds, rfl⟩ := ht
  exact ⟨cs ++ ds, by rw [List.flatMap_append]⟩

theorem char (c : Char) : ValidUtf8 (String.utf8EncodeChar c) := ⟨[c], by simp⟩

theorem flatMap {α : Type} {f : α → Bytes} {l : List α} (h : ∀ a ∈ l, ValidUtf8 (f a)) :
    ValidUtf8 (l.flatMap f) := by
  induction l with
  | nil => exact nil
  | cons a l ih =>
    rw [List.flatMap_cons]
    exact (h a (by simp)).append (ih fun b hb => h b (List.mem_cons_of_mem _ hb))

/-- An ASCII byte is a character. -/
theorem byte {b : UInt8} (hb : b < 128) : ValidUtf8 [b] := by
  have hn : b.toNat < 128 := UInt8.lt_iff_toNat_lt.mp hb
  have hval : (Char.ofNat b.toNat).toNat = b.toNat := by
    have hv : b.toNat.isValidChar := .inl (by omega)
    rw [Char.ofNat, dif_pos hv]; rfl
  have hsize : (Char.ofNat b.toNat).utf8Size = 1 := by
    rw [Char.utf8Size_eq_one_iff, UInt32.le_iff_toNat_le]
    show (Char.ofNat b.toNat).toNat ≤ _
    rw [hval]; simp; omega
  refine ⟨[Char.ofNat b.toNat], ?_⟩
  rw [List.flatMap_singleton, String.utf8EncodeChar_eq_singleton hsize]
  congr 1
  apply UInt8.toNat_inj.mp
  rw [UInt32.toNat_toUInt8]
  show _ = (Char.ofNat b.toNat).toNat % 256
  rw [hval]; omega

theorem ascii {s : Bytes} (h : Ascii s) : ValidUtf8 s := by
  have := flatMap (f := fun b => [b]) fun b hb => byte (h b hb)
  simpa using this

end ValidUtf8

/-- The bytes of a character beyond ASCII are all beyond ASCII. -/
theorem le_utf8EncodeChar {c : Char} (h : c.utf8Size ≠ 1) : ∀ b ∈ String.utf8EncodeChar c, 128 ≤ b := by
  have hor : ∀ a m : UInt8, 128 ≤ m → 128 ≤ a ||| m := fun a m hm => UInt8.le_trans hm UInt8.right_le_or
  rcases c.utf8Size_eq with h1 | h2 | h3 | h4
  · exact absurd h1 h
  · rw [String.utf8EncodeChar_eq_cons_cons h2]
    simp [hor]
  · rw [String.utf8EncodeChar_eq_cons_cons_cons h3]
    simp [hor]
  · rw [String.utf8EncodeChar_eq_cons_cons_cons_cons h4]
    simp [hor]

/-! ### Strings -/

/-- The character a two-character escape stands for. -/
def unescape : UInt8 → Option UInt8
  | 34 => some 34
  | 92 => some 92
  | 47 => some 47
  | 98 => some 8
  | 102 => some 12
  | 110 => some 10
  | 114 => some 13
  | 116 => some 9
  | _ => none

def hex4 (a b c d : UInt8) : Option Nat := do
  let a ← hexDigit? a
  let b ← hexDigit? b
  let c ← hexDigit? c
  let d ← hexDigit? d
  some (((a * 16 + b) * 16 + c) * 16 + d)

theorem ascii_of_unescape {e c : UInt8} (h : unescape e = some c) : e < 128 ∧ c < 128 := by
  unfold unescape at h
  split at h
  all_goals cases h
  all_goals decide

theorem ascii_of_hexDigit? {c : UInt8} {d : Nat} (h : hexDigit? c = some d) : c < 128 := by
  unfold hexDigit? at h
  split_ifs at h with h₁ h₂ h₃
  · exact UInt8.lt_of_le_of_lt h₁.2 (by decide)
  · exact UInt8.lt_of_le_of_lt h₂.2 (by decide)
  · exact UInt8.lt_of_le_of_lt h₃.2 (by decide)

theorem ascii_of_hex4 {a b c d : UInt8} {u : Nat} (h : hex4 a b c d = some u) :
    a < 128 ∧ b < 128 ∧ c < 128 ∧ d < 128 := by
  simp only [hex4, Option.bind_eq_bind, Option.bind_eq_some_iff] at h
  obtain ⟨_, ha, _, hb, _, hc, _, hd, -⟩ := h
  exact ⟨ascii_of_hexDigit? ha, ascii_of_hexDigit? hb, ascii_of_hexDigit? hc, ascii_of_hexDigit? hd⟩

def isHighSurrogate (u : Nat) : Bool := 0xD800 ≤ u && u < 0xDC00

def isLowSurrogate (u : Nat) : Bool := 0xDC00 ≤ u && u < 0xE000

/-- `text` in front of a scanned string. -/
def prepend (text : Bytes) (r : Option (Bytes × Bytes)) : Option (Bytes × Bytes) :=
  r.map fun p => (text ++ p.1, p.2)

/-- The string from after its opening quote, and what follows its closing quote. -/
def scanString : Bytes → Option (Bytes × Bytes)
  | [] => none
  | b :: s =>
    if b = 34 then some ([], s)
    else if b = 92 then
      match s with
      | 117 :: h₁ :: h₂ :: h₃ :: h₄ :: s =>
        match hex4 h₁ h₂ h₃ h₄ with
        | none => none
        | some u =>
          if isHighSurrogate u then
            match s with
            | 92 :: 117 :: l₁ :: l₂ :: l₃ :: l₄ :: s =>
              match hex4 l₁ l₂ l₃ l₄ with
              | none => none
              | some v =>
                if isLowSurrogate v then
                  prepend (String.utf8EncodeChar
                    (Char.ofNat (0x10000 + (u - 0xD800) * 0x400 + (v - 0xDC00)))) (scanString s)
                else none
            | _ => none
          else if isLowSurrogate u then none
          else prepend (String.utf8EncodeChar (Char.ofNat u)) (scanString s)
      | c :: s =>
        match unescape c with
        | none => none
        | some d => prepend [d] (scanString s)
      | [] => none
    else if b < 32 then none
    else prepend [b] (scanString s)

theorem scanString_quote (s : Bytes) : scanString (34 :: s) = some ([], s) := by
  unfold scanString
  exact if_pos rfl

theorem scanString_plain {b : UInt8} (hq : b ≠ 34) (hb : b ≠ 92) (h : ¬ b < 32) (s : Bytes) :
    scanString (b :: s) = prepend [b] (scanString s) := by
  rw [scanString.eq_def]
  simp only [hq, hb, h, if_false]

/-! ### Numbers -/

/-- A leading non-empty run of digits. -/
def scanDigits (s : Bytes) : Option (Bytes × Bytes) :=
  if s.takeWhile isDigit = [] then none else some (s.takeWhile isDigit, s.dropWhile isDigit)

def scanInt : Bytes → Option (Bytes × Bytes)
  | 48 :: s => some ([48], s)
  | s => scanDigits s

def scanFrac : Bytes → Option (Bytes × Bytes)
  | 46 :: s => prepend [46] (scanDigits s)
  | s => some ([], s)

def scanSign : Bytes → Bytes × Bytes
  | 43 :: s => ([43], s)
  | 45 :: s => ([45], s)
  | s => ([], s)

def scanExp : Bytes → Option (Bytes × Bytes)
  | e :: s =>
    if e = 101 ∨ e = 69 then prepend (e :: (scanSign s).1) (scanDigits (scanSign s).2)
    else some ([], e :: s)
  | [] => some ([], [])

def scanMinus : Bytes → Bytes × Bytes
  | 45 :: s => ([45], s)
  | s => ([], s)

/-- A leading number token, as long as the grammar allows. -/
def scanNumber (s : Bytes) : Option (Bytes × Bytes) := do
  let (minus, s) := scanMinus s
  let (int, s) ← scanInt s
  let (frac, s) ← scanFrac s
  let (exp, s) ← scanExp s
  some (minus ++ int ++ frac ++ exp, s)

def IsDigits (s : Bytes) : Prop := s ≠ [] ∧ ∀ b ∈ s, isDigit b = true

/-- `number = [ minus ] int [ frac ] [ exp ]`. -/
structure IsNumber (token minus int frac exp : Bytes) : Prop where
  token_eq : token = minus ++ (int ++ (frac ++ exp))
  minus_ok : minus = [] ∨ minus = [45]
  int_ok : int = [48] ∨ IsDigits int ∧ int.head? ≠ some 48
  frac_ok : frac = [] ∨ ∃ ds, frac = 46 :: ds ∧ IsDigits ds
  exp_ok : exp = [] ∨ ∃ e sign ds, exp = e :: (sign ++ ds) ∧ (e = 101 ∨ e = 69) ∧
    (sign = [] ∨ sign = [43] ∨ sign = [45]) ∧ IsDigits ds

/-- A JSON number, whole. -/
def NumberToken (token : Bytes) : Prop := ∃ minus int frac exp, IsNumber token minus int frac exp

/-- Text that no number token runs into. -/
def NumberEnds (s : Bytes) : Prop :=
  ∀ b ∈ s.head?, isDigit b = false ∧ b ≠ 46 ∧ b ≠ 101 ∧ b ≠ 69

theorem scanDigits_append {ds s : Bytes} (hds : IsDigits ds) (hs : ∀ b ∈ s.head?, isDigit b = false) :
    scanDigits (ds ++ s) = some (ds, s) := by
  have htake : s.takeWhile isDigit = [] := by
    cases s with
    | nil => rfl
    | cons b s => exact List.takeWhile_cons_of_neg (by simp [hs b rfl])
  have hdrop : s.dropWhile isDigit = s := by
    cases s with
    | nil => rfl
    | cons b s => exact List.dropWhile_cons_of_neg (by simp [hs b rfl])
  rw [scanDigits, List.takeWhile_append_of_pos hds.2, List.dropWhile_append_of_pos hds.2, htake,
    hdrop, List.append_nil, if_neg hds.1]

theorem IsDigits.head {ds : Bytes} (h : IsDigits ds) (s : Bytes) :
    ∃ d t, ds ++ s = d :: t ∧ isDigit d = true := by
  obtain ⟨d, t, rfl⟩ := List.exists_cons_of_ne_nil h.1
  exact ⟨d, t ++ s, rfl, h.2 d (by simp)⟩

theorem scanExp_append {exp s : Bytes} (hs : NumberEnds s)
    (h : exp = [] ∨ ∃ e sign ds, exp = e :: (sign ++ ds) ∧ (e = 101 ∨ e = 69) ∧
      (sign = [] ∨ sign = [43] ∨ sign = [45]) ∧ IsDigits ds) :
    scanExp (exp ++ s) = some (exp, s) := by
  rcases h with rfl | ⟨e, sign, ds, rfl, he, hsign, hds⟩
  · cases s with
    | nil => rfl
    | cons b s =>
      obtain ⟨-, -, h1, h2⟩ := hs b rfl
      rw [List.nil_append, scanExp, if_neg (by simp [h1, h2])]
  · have hscan : scanSign (sign ++ (ds ++ s)) = (sign, ds ++ s) := by
      rcases hsign with rfl | rfl | rfl
      · obtain ⟨d, t, ht, hd⟩ := hds.head s
        rw [List.nil_append, ht, scanSign]
        · rintro t' h; cases h; exact absurd hd (by decide)
        · rintro t' h; cases h; exact absurd hd (by decide)
      · rfl
      · rfl
    rw [List.cons_append, List.append_assoc, scanExp, if_pos he, hscan]
    simp only
    rw [scanDigits_append hds fun b hb => (hs b hb).1]
    rfl

theorem scanFrac_append {frac s : Bytes} (hs : ∀ b ∈ s.head?, isDigit b = false ∧ b ≠ 46)
    (h : frac = [] ∨ ∃ ds, frac = 46 :: ds ∧ IsDigits ds) :
    scanFrac (frac ++ s) = some (frac, s) := by
  rcases h with rfl | ⟨ds, rfl, hds⟩
  · cases s with
    | nil => rfl
    | cons b s =>
      rw [List.nil_append, scanFrac]
      rintro t h
      cases h
      exact (hs 46 rfl).2 rfl
  · rw [List.cons_append, scanFrac, scanDigits_append hds fun b hb => (hs b hb).1]
    rfl

theorem scanInt_append {int s : Bytes} (hs : ∀ b ∈ s.head?, isDigit b = false)
    (h : int = [48] ∨ IsDigits int ∧ int.head? ≠ some 48) : scanInt (int ++ s) = some (int, s) := by
  rcases h with rfl | ⟨hds, h0⟩
  · rfl
  · rw [scanInt, scanDigits_append hds hs]
    rintro t ht
    obtain ⟨d, r, rfl⟩ := List.exists_cons_of_ne_nil hds.1
    cases ht
    exact h0 rfl

theorem scanMinus_append {minus int s : Bytes} (h : minus = [] ∨ minus = [45])
    (hint : int = [48] ∨ IsDigits int ∧ int.head? ≠ some 48) :
    scanMinus (minus ++ (int ++ s)) = (minus, int ++ s) := by
  rcases h with rfl | rfl
  · obtain ⟨d, t, ht, hd⟩ : ∃ d t, int ++ s = d :: t ∧ isDigit d = true := by
      rcases hint with rfl | ⟨hds, -⟩
      · exact ⟨48, s, rfl, by decide⟩
      · exact hds.head s
    rw [List.nil_append, ht, scanMinus]
    rintro t' h
    cases h
    exact absurd hd (by decide)
  · rfl

/-- A number token is scanned whole when what follows does not continue it. -/
theorem scanNumber_append {token s : Bytes} (h : NumberToken token) (hs : NumberEnds s) :
    scanNumber (token ++ s) = some (token, s) := by
  obtain ⟨minus, int, frac, exp, rfl, hminus, hint, hfrac, hexp⟩ := h
  have hexp_head : ∀ b ∈ (exp ++ s).head?, isDigit b = false ∧ b ≠ 46 := by
    rcases hexp with rfl | ⟨e, sign, ds, rfl, he, -⟩
    · intro b hb
      exact ⟨(hs b hb).1, (hs b hb).2.1⟩
    · intro b hb
      cases hb
      rcases he with rfl | rfl <;> decide
  have hfrac_head : ∀ b ∈ (frac ++ (exp ++ s)).head?, isDigit b = false := by
    rcases hfrac with rfl | ⟨ds, rfl, -⟩
    · exact fun b hb => (hexp_head b hb).1
    · intro b hb
      cases hb
      decide
  rw [scanNumber, List.append_assoc, List.append_assoc, List.append_assoc,
    scanMinus_append hminus hint]
  simp only [scanInt_append hfrac_head hint, Option.bind_eq_bind, Option.bind_some,
    scanFrac_append hexp_head hfrac, scanExp_append hs hexp, List.append_assoc]

/-! ### Values -/

def isWs (c : UInt8) : Bool := c == 32 || c == 9 || c == 10 || c == 13

def skipWs (s : Bytes) : Bytes := s.dropWhile isWs

mutual

/-- A value at the start of the text, and what follows it. The first argument is fuel. -/
def value : Nat → Bytes → Option (Value × Bytes)
  | 0, _ => none
  | n + 1, s =>
    match s with
    | 123 :: s =>
      match skipWs s with
      | 125 :: s => some (.obj [], s)
      | s => (members n s).map fun p => (.obj p.1, p.2)
    | 91 :: s =>
      match skipWs s with
      | 93 :: s => some (.arr [], s)
      | s => (elements n s).map fun p => (.arr p.1, p.2)
    | 34 :: s => (scanString s).map fun p => (.str p.1, p.2)
    | 116 :: 114 :: 117 :: 101 :: s => some (.bool true, s)
    | 102 :: 97 :: 108 :: 115 :: 101 :: s => some (.bool false, s)
    | 110 :: 117 :: 108 :: 108 :: s => some (.null, s)
    | s => (scanNumber s).map fun p => (.num p.1, p.2)

/-- The members of an object up to its closing brace. -/
def members : Nat → Bytes → Option (List (Bytes × Value) × Bytes)
  | 0, _ => none
  | n + 1, s =>
    match s with
    | 34 :: s => do
      let (key, s) ← scanString s
      match skipWs s with
      | 58 :: s => do
        let (v, s) ← value n (skipWs s)
        match skipWs s with
        | 44 :: s => do
          let (ms, s) ← members n (skipWs s)
          some ((key, v) :: ms, s)
        | 125 :: s => some ([(key, v)], s)
        | _ => none
      | _ => none
    | _ => none

/-- The elements of an array up to its closing bracket. -/
def elements : Nat → Bytes → Option (List Value × Bytes)
  | 0, _ => none
  | n + 1, s => do
    let (v, s) ← value n s
    match skipWs s with
    | 44 :: s => do
      let (vs, s) ← elements n (skipWs s)
      some (v :: vs, s)
    | 93 :: s => some ([v], s)
    | _ => none

end

/-- The value of a whole text. -/
def parse (text : Bytes) : Option Value :=
  if ValidUtf8 text then
    match value (text.length + 1) (skipWs text) with
    | some (v, rest) => if skipWs rest = [] then some v else none
    | none => none
  else none

/-! ### Integers -/

theorem isDigits_decimal (n : Nat) : IsDigits (decimal n) := ⟨decimal_ne_nil n, isDigit_of_mem_decimal⟩

theorem int_decimal (n : Nat) :
    decimal n = [48] ∨ IsDigits (decimal n) ∧ (decimal n).head? ≠ some 48 := by
  by_cases hn : n = 0
  · left; rw [hn, decimal_zero]
  · right; exact ⟨isDigits_decimal n, head_decimal hn⟩

theorem numberToken_decimal (n : Nat) : NumberToken (decimal n) :=
  ⟨[], decimal n, [], [], by simp, .inl rfl, int_decimal n, .inl rfl, .inl rfl⟩

theorem numberToken_decimalInt (z : Int) : NumberToken (decimalInt z) := by
  cases z with
  | ofNat n => exact numberToken_decimal n
  | negSucc n =>
    exact ⟨[45], decimal (n + 1), [], [], by simp [decimalInt], .inr rfl, int_decimal _, .inl rfl, .inl rfl⟩

/-- The integer a value is, when its token is a sign and digits only. -/
def Value.int? : Value → Option Int
  | .num (45 :: ds) => if ds ≠ [] ∧ ds.all isDigit then some (-(ofDecimal ds : Int)) else none
  | .num ds => if ds ≠ [] ∧ ds.all isDigit then some (ofDecimal ds) else none
  | _ => none

theorem int?_decimal (n : Nat) : (Value.num (decimal n)).int? = some (n : Int) := by
  have hall : (decimal n).all isDigit = true := List.all_eq_true.mpr isDigit_of_mem_decimal
  rw [Value.int?, if_pos ⟨decimal_ne_nil n, hall⟩, ofDecimal_decimal]
  rintro ds h
  have := isDigit_of_mem_decimal (n := n) 45 (by rw [h]; simp)
  exact absurd this (by decide)

theorem int?_decimalInt (z : Int) : (Value.num (decimalInt z)).int? = some z := by
  cases z with
  | ofNat n => exact int?_decimal n
  | negSucc n =>
    have hall : (decimal (n + 1)).all isDigit = true := List.all_eq_true.mpr isDigit_of_mem_decimal
    rw [decimalInt, Value.int?, if_pos ⟨decimal_ne_nil _, hall⟩, ofDecimal_decimal]
    rfl

/-! ### Objects written without whitespace -/

/-- `text` reads as `v` in front of a comma or a closing brace. -/
def Reads (text : Bytes) (v : Value) : Prop :=
  ∀ n b s, (b = 44 ∨ b = 125) →
    skipWs (text ++ b :: s) = text ++ b :: s ∧ value (n + 1) (text ++ b :: s) = some (v, b :: s)

/-- A key that needs no escape. -/
def PlainKey (key : Bytes) : Prop := ∀ b ∈ key, b ≠ 34 ∧ b ≠ 92 ∧ ¬ b < 32

structure Member where
  key : Bytes
  text : Bytes
  val : Value
  plain : PlainKey key
  reads : Reads text val
  key_utf8 : ValidUtf8 key
  text_utf8 : ValidUtf8 text

/-- `"key":text`. -/
def Member.render (m : Member) : Bytes := 34 :: (m.key ++ 34 :: 58 :: m.text)

def renderMembers : List Member → Bytes
  | [] => []
  | [m] => m.render
  | m :: ms => m.render ++ 44 :: renderMembers ms

def renderObject (ms : List Member) : Bytes := 123 :: (renderMembers ms ++ [125])

theorem skipWs_cons {b : UInt8} (h : isWs b = false) (s : Bytes) : skipWs (b :: s) = b :: s :=
  List.dropWhile_cons_of_neg (by simp [h])

theorem scanString_key {key : Bytes} (h : PlainKey key) (s : Bytes) :
    scanString (key ++ 34 :: s) = some (key, s) := by
  induction key with
  | nil => exact scanString_quote s
  | cons b key ih =>
    obtain ⟨hq, hb, hlt⟩ := h b (by simp)
    rw [List.cons_append, scanString_plain hq hb hlt, ih fun c hc => h c (List.mem_cons_of_mem _ hc)]
    rfl

/-- One member, read up to the end of its value. -/
theorem members_member (m : Member) (n : Nat) {b : UInt8} (hb : b = 44 ∨ b = 125) (s : Bytes) :
    members (n + 2) (m.render ++ b :: s) =
      match skipWs (b :: s) with
      | 44 :: s => (members (n + 1) (skipWs s)).bind fun r => some ((m.key, m.val) :: r.1, r.2)
      | 125 :: s => some ([(m.key, m.val)], s)
      | _ => none := by
  obtain ⟨hws, hv⟩ := m.reads n b s hb
  rw [Member.render, List.cons_append, List.append_assoc, List.cons_append, List.cons_append, members]
  simp only [scanString_key m.plain, Option.bind_eq_bind, Option.bind_some]
  rw [skipWs_cons (by decide)]
  simp only [hws, hv, Option.bind_some]

theorem renderMembers_singleton (m : Member) : renderMembers [m] = m.render := rfl

theorem renderMembers_cons_cons (m m' : Member) (ms : List Member) :
    renderMembers (m :: m' :: ms) = m.render ++ 44 :: renderMembers (m' :: ms) := rfl

theorem members_render (m : Member) (ms : List Member) {n : Nat} (hn : (m :: ms).length < n) (s : Bytes) :
    members n (renderMembers (m :: ms) ++ 125 :: s) =
      some ((m :: ms).map fun m => (m.key, m.val), s) := by
  induction ms generalizing m n with
  | nil =>
    obtain ⟨n, rfl⟩ : ∃ k, n = k + 2 := ⟨n - 2, by simp at hn; omega⟩
    rw [renderMembers, members_member m n (.inr rfl), skipWs_cons (by decide)]
    rfl
  | cons m' ms ih =>
    obtain ⟨n, rfl⟩ : ∃ k, n = k + 2 := ⟨n - 2, by simp at hn; omega⟩
    have hnext : skipWs (renderMembers (m' :: ms) ++ 125 :: s) = renderMembers (m' :: ms) ++ 125 :: s := by
      cases ms <;> exact skipWs_cons (by decide) _
    rw [renderMembers_cons_cons, List.append_assoc, List.cons_append, members_member m n (.inl rfl),
      skipWs_cons (by decide)]
    simp only [hnext, @ih m' (n + 1) (by simpa using hn), Option.bind_some]
    rfl

theorem renderMembers_length (ms : List Member) : ms.length ≤ (renderMembers ms).length := by
  induction ms with
  | nil => exact Nat.le_refl 0
  | cons m ms ih =>
    cases ms with
    | nil => simp [renderMembers, Member.render]
    | cons m' ms =>
      rw [renderMembers_cons_cons]
      simp only [List.length_append, List.length_cons] at ih ⊢
      omega

theorem Member.render_utf8 (m : Member) : ValidUtf8 m.render := by
  have h : m.render = [34] ++ (m.key ++ ([34, 58] ++ m.text)) := rfl
  rw [h]
  exact (ValidUtf8.ascii (by decide)).append
    (m.key_utf8.append ((ValidUtf8.ascii (by decide)).append m.text_utf8))

theorem renderMembers_utf8 (ms : List Member) : ValidUtf8 (renderMembers ms) := by
  induction ms with
  | nil => exact .nil
  | cons m ms ih =>
    cases ms with
    | nil => exact m.render_utf8
    | cons m' ms =>
      rw [renderMembers_cons_cons, ← List.singleton_append]
      exact m.render_utf8.append ((ValidUtf8.byte (by decide)).append ih)

theorem renderObject_utf8 (ms : List Member) : ValidUtf8 (renderObject ms) := by
  rw [renderObject, ← List.singleton_append]
  exact (ValidUtf8.byte (by decide)).append ((renderMembers_utf8 ms).append (ValidUtf8.byte (by decide)))

theorem value_object {s t : Bytes} (h : skipWs s = 34 :: t) (n : Nat) :
    value (n + 1) (123 :: s) = (members n (skipWs s)).map fun p => (.obj p.1, p.2) := by
  rw [value, h]
  rfl

/-- A rendered object is a JSON text, and parses to its members in order. -/
theorem parse_renderObject (m : Member) (ms : List Member) :
    parse (renderObject (m :: ms)) = some (.obj ((m :: ms).map fun m => (m.key, m.val))) := by
  have hlen := renderMembers_length (m :: ms)
  obtain ⟨t, ht⟩ : ∃ t, renderMembers (m :: ms) ++ [125] = 34 :: t := by
    cases ms <;> exact ⟨_, rfl⟩
  have hws : skipWs (renderMembers (m :: ms) ++ [125]) = 34 :: t := by
    rw [ht]; exact skipWs_cons (by decide) _
  have hfuel : (m :: ms).length < (renderObject (m :: ms)).length := by
    have : (renderObject (m :: ms)).length = (renderMembers (m :: ms)).length + 2 := by simp [renderObject]
    omega
  have hval : value ((renderObject (m :: ms)).length + 1) (renderObject (m :: ms)) =
      some (.obj ((m :: ms).map fun m => (m.key, m.val)), []) := by
    conv => lhs; arg 2; rw [renderObject]
    rw [value_object hws, hws, ← ht, members_render m ms hfuel]
    rfl
  rw [parse, if_pos (renderObject_utf8 _)]
  have hskip : skipWs (renderObject (m :: ms)) = renderObject (m :: ms) := skipWs_cons (by decide) _
  rw [hskip, hval]
  rfl

/-! ### The texts of values -/

theorem reads_of_value {text : Bytes} {v : Value} {d : UInt8} {t : Bytes} (htext : text = d :: t)
    (hd : isWs d = false) (h : ∀ n b s, (b = 44 ∨ b = 125) → value (n + 1) (text ++ b :: s) = some (v, b :: s)) :
    Reads text v := by
  intro n b s hb
  refine ⟨?_, h n b s hb⟩
  rw [htext, List.cons_append, skipWs_cons hd]

theorem reads_true : Reads [116, 114, 117, 101] (.bool true) :=
  reads_of_value rfl (by decide) fun _ _ _ _ => by simp [value]

theorem reads_false : Reads [102, 97, 108, 115, 101] (.bool false) :=
  reads_of_value rfl (by decide) fun _ _ _ _ => by simp [value]

/-- A string literal whose inside scans to `s`. -/
theorem reads_str {inside s : Bytes} (h : ∀ rest, scanString (inside ++ 34 :: rest) = some (s, rest)) :
    Reads (34 :: (inside ++ [34])) (.str s) := by
  refine reads_of_value rfl (by decide) fun n b t _ => ?_
  rw [List.cons_append, List.append_assoc, List.singleton_append, value, h]
  rfl

theorem NumberToken.head {token : Bytes} (h : NumberToken token) :
    ∃ d t, token = d :: t ∧ (d = 45 ∨ isDigit d = true) := by
  obtain ⟨minus, int, frac, exp, rfl, hminus, hint, -, -⟩ := h
  rcases hminus with rfl | rfl
  · rcases hint with rfl | ⟨hds, -⟩
    · exact ⟨48, _, rfl, .inr (by decide)⟩
    · obtain ⟨d, t, ht, hd⟩ := hds.head (frac ++ exp)
      exact ⟨d, t, ht, .inr hd⟩
  · exact ⟨45, _, rfl, .inl rfl⟩

theorem NumberToken.ascii {token : Bytes} (h : NumberToken token) : Ascii token := by
  have hdig : ∀ {ds : Bytes}, IsDigits ds → Ascii ds := by
    intro ds hds b hb
    have := hds.2 b hb
    simp only [isDigit, Bool.and_eq_true, decide_eq_true_eq] at this
    exact UInt8.lt_of_le_of_lt this.2 (by decide)
  obtain ⟨minus, int, frac, exp, rfl, hminus, hint, hfrac, hexp⟩ := h
  intro b hb
  simp only [List.mem_append] at hb
  rcases hb with hb | hb | hb | hb
  · rcases hminus with rfl | rfl
    · cases hb
    · rw [List.mem_singleton.mp hb]; decide
  · rcases hint with rfl | ⟨hds, -⟩
    · rw [List.mem_singleton.mp hb]; decide
    · exact hdig hds b hb
  · rcases hfrac with rfl | ⟨ds, rfl, hds⟩
    · cases hb
    · rcases List.mem_cons.mp hb with rfl | hb
      · decide
      · exact hdig hds b hb
  · rcases hexp with rfl | ⟨e, sign, ds, rfl, he, hsign, hds⟩
    · cases hb
    · simp only [List.mem_cons, List.mem_append] at hb
      rcases hb with rfl | hb | hb
      · rcases he with rfl | rfl <;> decide
      · rcases hsign with rfl | rfl | rfl
        · cases hb
        · rw [List.mem_singleton.mp hb]; decide
        · rw [List.mem_singleton.mp hb]; decide
      · exact hdig hds b hb

theorem value_number {d : UInt8} (hd : d = 45 ∨ isDigit d = true) (n : Nat) (t : Bytes) :
    value (n + 1) (d :: t) = (scanNumber (d :: t)).map fun p => (.num p.1, p.2) := by
  have hne : ∀ c : UInt8, c ≠ 45 → isDigit c = false → d ≠ c := by
    rintro c hc hdig rfl
    rcases hd with rfl | h
    · exact hc rfl
    · rw [hdig] at h; cases h
  rw [value]
  all_goals
    rintro s h
    exact absurd (List.cons.inj h).1 (hne _ (by decide) (by decide))

theorem reads_number {token : Bytes} (h : NumberToken token) : Reads token (.num token) := by
  obtain ⟨d, t, rfl, hd⟩ := h.head
  have hws : isWs d = false := by
    rcases hd with rfl | hd
    · decide
    · simp only [isDigit, Bool.and_eq_true, decide_eq_true_eq, UInt8.le_iff_toNat_le] at hd
      simp only [isWs, Bool.or_eq_false_iff, beq_eq_false_iff_ne, ne_eq, ← UInt8.toNat_inj]
      have := hd.1
      simp at this ⊢
      omega
  refine reads_of_value rfl hws fun n b s hb => ?_
  have hends : NumberEnds (b :: s) := by
    rintro c hc
    cases hc
    rcases hb with rfl | rfl <;> decide
  rw [List.cons_append, value_number hd, ← List.cons_append, scanNumber_append h hends]
  rfl

end Rfc8259
