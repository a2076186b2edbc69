import CameraPlatform.Base.ByteString

/-!
# Form encoding (`application/x-www-form-urlencoded`)

`percentDecode` is a reference decoder: an escape is a `%` with two hexadecimal digits after it, and
any other `%` stands for itself. `Spelling` relates a byte string to the texts a sender may write for it.
-/

namespace FormUrl
open ByteString

/-- The byte that two hexadecimal digits denote. -/
def hexByte? (a b : UInt8) : Option UInt8 :=
  match hexDigit? a, hexDigit? b with
  | some x, some y => some (16 * x + y).toUInt8
  | _, _ => none

def percentDecode : Bytes → Bytes
  | [] => []
  | 37 :: a :: b :: s =>
    match hexByte? a b with
    | some c => c :: percentDecode s
    | none => 37 :: percentDecode (a :: b :: s)
  | c :: s => (if c = 43 then 32 else c) :: percentDecode s

/-- Every `%` that has two bytes after it is an escape. -/
def Complete (s : Bytes) : Prop := ∀ p a b q, s = p ++ 37 :: a :: b :: q → (hexByte? a b).isSome

theorem hexByte?_some {a b c : UInt8} (h : hexByte? a b = some c) :
    ∃ x y, hexDigit? a = some x ∧ hexDigit? b = some y ∧ c = (16 * x + y).toUInt8 := by
  unfold hexByte? at h
  split at h
  · next x y hx hy => exact ⟨x, y, hx, hy, (Option.some.inj h).symm⟩
  · cases h

theorem hexDigit?_lt {c : UInt8} {x : Nat} (h : hexDigit? c = some x) : x < 16 := by
  unfold hexDigit? at h
  simp only [UInt8.le_iff_toNat_le] at h
  split at h
  · next hc => cases h; have := hc.2; simp at this; omega
  · split at h
    · next hc => cases h; have := hc.2; simp at this; omega
    · split at h
      · next hc => cases h; have := hc.2; simp at this; omega
      · cases h

/-- A hexadecimal digit is none of the bytes with a meaning of their own. -/
theorem ne_of_hexDigit? {c d : UInt8} {x : Nat} (h : hexDigit? c = some x) (hd : hexDigit? d = none) : c ≠ d := by
  rintro rfl
  rw [h] at hd
  cases hd

theorem percentDecode_cons {c : UInt8} {s : Bytes} (h : c ≠ 37) :
    percentDecode (c :: s) = (if c = 43 then 32 else c) :: percentDecode s := by
  rw [percentDecode]
  rintro a b t rfl
  exact absurd rfl h

theorem percentDecode_escape {a b c : UInt8} (h : hexByte? a b = some c) (s : Bytes) :
    percentDecode (37 :: a :: b :: s) = c :: percentDecode s := by
  rw [percentDecode, h]

theorem complete_nil : Complete [] := fun p a b q h => by simp at h

theorem complete_cons {c : UInt8} {s : Bytes} (h : c ≠ 37 ∨ s.length < 2) : Complete (c :: s) ↔ Complete s := by
  constructor
  · rintro hc p a b q rfl
    exact hc (c :: p) a b q rfl
  · intro hs p a b q hsplit
    cases p with
    | nil =>
      obtain ⟨rfl, rfl⟩ := List.cons.inj hsplit
      rcases h with h | h
      · exact absurd rfl h
      · simp only [List.length_cons] at h
        omega
    | cons d p => exact hs p a b q (List.cons.inj hsplit).2

theorem complete_escape {a b c : UInt8} (h : hexByte? a b = some c) {s : Bytes} :
    Complete (37 :: a :: b :: s) ↔ Complete s := by
  obtain ⟨x, y, ha, hb, -⟩ := hexByte?_some h
  have hrest : Complete (a :: b :: s) ↔ Complete s :=
    (complete_cons (.inl (ne_of_hexDigit? ha (by decide)))).trans (complete_cons (.inl (ne_of_hexDigit? hb (by decide))))
  refine Iff.trans ⟨fun hc p a' b' q hsplit => hc (37 :: p) a' b' q (by rw [hsplit]; rfl), ?_⟩ hrest
  intro hs p a' b' q hsplit
  cases p with
  | nil =>
    obtain ⟨hab, -⟩ : (a = a' ∧ b = b') ∧ s = q := by simpa [and_assoc] using hsplit
    rw [← hab.1, ← hab.2, h]
    rfl
  | cons d p => exact hs p a' b' q (List.cons.inj hsplit).2

/-! ### Writing -/

/-- The ways to write one byte; the bytes of `stops` are never left as they are. -/
inductive Spells (stops : List UInt8) : UInt8 → Bytes → Prop
  | escape {a b c : UInt8} (h : hexByte? a b = some c) : Spells stops c [37, a, b]
  | plus : Spells stops 32 [43]
  | literal {c : UInt8} (hpercent : c ≠ 37) (hplus : c ≠ 43) (hstop : c ∉ stops) : Spells stops c [c]

/-- The ways to write a byte string, one byte after the other. -/
inductive Spelling (stops : List UInt8) : Bytes → Bytes → Prop
  | nil : Spelling stops [] []
  | cons {c : UInt8} {s t u : Bytes} (head : Spells stops c t) (tail : Spelling stops s u) :
      Spelling stops (c :: s) (t ++ u)

namespace Spelling
variable {stops : List UInt8} {s t : Bytes}

theorem complete (h : Spelling stops s t) : Complete t := by
  induction h with
  | nil => exact complete_nil
  | cons head _ ih =>
    cases head with
    | escape h => exact (complete_escape h).mpr ih
    | plus => exact (complete_cons (.inl (by decide))).mpr ih
    | literal hpercent => exact (complete_cons (.inl hpercent)).mpr ih

/-- Decoding undoes every spelling. -/
theorem percentDecode (h : Spelling stops s t) : percentDecode t = s := by
  induction h with
  | nil => rfl
  | cons head _ ih =>
    cases head with
    | escape h => exact (percentDecode_escape h _).trans (congrArg _ ih)
    | plus => exact (percentDecode_cons (by decide)).trans (congrArg _ ih)
    | literal hpercent hplus => exact (percentDecode_cons hpercent).trans (by rw [if_neg hplus]; exact congrArg _ ih)

/-- A stop does not occur in the text, as long as it is no part of an escape. -/
theorem not_mem (h : Spelling stops s t) {d : UInt8} (hd : d ∈ stops) (hhex : hexDigit? d = none) (hpercent : d ≠ 37)
    (hplus : d ≠ 43) : d ∉ t := by
  induction h with
  | nil => simp
  | cons head _ ih =>
    rw [List.mem_append, not_or]
    refine ⟨?_, ih⟩
    cases head with
    | escape h =>
      obtain ⟨x, y, ha, hb, -⟩ := hexByte?_some h
      simp [hpercent, (ne_of_hexDigit? ha hhex).symm, (ne_of_hexDigit? hb hhex).symm]
    | plus => simpa using hplus
    | literal _ _ hstop =>
      rw [List.mem_singleton]
      rintro rfl
      exact hstop hd

end Spelling

/-- The upper-case digit for a number below sixteen. -/
def hexDigitOf (n : Nat) : UInt8 := if n < 10 then (48 + n).toUInt8 else (55 + n).toUInt8

theorem hexDigit?_hexDigitOf : ∀ n < 16, hexDigit? (hexDigitOf n) = some n := by decide

/-- Every byte as an escape. -/
def escapeAll (s : Bytes) : Bytes := s.flatMap fun c => [37, hexDigitOf (c.toNat / 16), hexDigitOf (c.toNat % 16)]

theorem hexByte?_hexDigitOf (c : UInt8) :
    hexByte? (hexDigitOf (c.toNat / 16)) (hexDigitOf (c.toNat % 16)) = some c := by
  have hc := UInt8.toNat_lt c
  have hvalue : 16 * (c.toNat / 16) + c.toNat % 16 = c.toNat := by omega
  unfold hexByte?
  rw [hexDigit?_hexDigitOf _ (by omega), hexDigit?_hexDigitOf _ (by omega)]
  simp only [hvalue, Nat.toUInt8_eq, UInt8.ofNat_toNat]

/-- This spelling avoids every stop. -/
theorem spelling_escapeAll (stops : List UInt8) (s : Bytes) : Spelling stops s (escapeAll s) := by
  induction s with
  | nil => exact .nil
  | cons c s ih => exact .cons (.escape (hexByte?_hexDigitOf c)) ih

theorem not_mem_escapeAll {d : UInt8} (hhex : hexDigit? d = none) (hpercent : d ≠ 37) (hplus : d ≠ 43) (s : Bytes) :
    d ∉ escapeAll s :=
  (spelling_escapeAll [d] s).not_mem (by simp) hhex hpercent hplus

end FormUrl
