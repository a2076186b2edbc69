import CameraPlatform.Base.ByteString

/-!
# Decimal numbers as bytes

`decimal n` has no leading zero, and `ofDecimal` reads it back.
-/

namespace ByteString

def isDigit (c : UInt8) : Bool := 48 ≤ c && c ≤ 57

/-- A natural number in plain decimal. -/
def decimal (n : Nat) : Bytes := (Nat.toDigits 10 n).map fun c => c.toNat.toUInt8

/-- An integer in plain decimal. -/
def decimalInt : Int → Bytes
  | .ofNat n => decimal n
  | .negSucc n => 45 :: decimal (n + 1)

/-- The number a run of digits denotes. -/
def ofDecimal (s : Bytes) : Nat := s.foldl (fun n b => 10 * n + (b.toNat - 48)) 0

/-- The number that a sign and a run of digits denote. -/
def ofDecimalInt : Bytes → Int
  | 45 :: s => -(ofDecimal s : Int)
  | s => ofDecimal s

theorem isDigit_toUInt8 {c : Char} (h : c.isDigit = true) :
    isDigit c.toNat.toUInt8 = true ∧ c.toNat.toUInt8.toNat = c.toNat := by
  have hc : 48 ≤ c.toNat ∧ c.toNat ≤ 57 := by
    simpa [Char.isDigit, UInt32.le_iff_toNat_le] using h
  have hn : c.toNat.toUInt8.toNat = c.toNat := by
    rw [Nat.toUInt8_eq, UInt8.toNat_ofNat']; omega
  refine ⟨?_, hn⟩
  simp only [isDigit, Bool.and_eq_true, decide_eq_true_eq, UInt8.le_iff_toNat_le, hn]
  exact hc

theorem isDigit_of_mem_toDigits {c : Char} {n : Nat} (h : c ∈ Nat.toDigits 10 n) : c.isDigit = true :=
  Nat.isDigit_of_mem_toDigits (by decide) (by decide) h

theorem isDigit_of_mem_decimal {n : Nat} : ∀ b ∈ decimal n, isDigit b = true := by
  intro b hb
  obtain ⟨c, hc, rfl⟩ := List.mem_map.mp hb
  exact (isDigit_toUInt8 (isDigit_of_mem_toDigits hc)).1

theorem decimal_ne_nil (n : Nat) : decimal n ≠ [] := by
  simp [decimal]

/-- No leading zero. -/
theorem head_decimal {n : Nat} (hn : n ≠ 0) : (decimal n).head? ≠ some 48 := by
  induction n using Nat.strong_induction_on with
  | _ n ih =>
    rw [decimal, Nat.toDigits_eq_if (by decide)]
    split
    · next h =>
      have : ∀ m < 10, m ≠ 0 → (Nat.digitChar m).toNat.toUInt8 ≠ 48 := by decide
      simpa using this n h hn
    · next h =>
      have hne := decimal_ne_nil (n / 10)
      have ih := ih (n / 10) (by omega) (by omega)
      obtain ⟨b, t, hb⟩ := List.exists_cons_of_ne_nil hne
      rw [hb] at ih
      rw [decimal] at hb
      rw [List.map_append, hb]
      simpa using ih

theorem decimal_zero : decimal 0 = [48] := by decide

theorem ofDecimal_decimal (n : Nat) : ofDecimal (decimal n) = n := by
  have hfold : ∀ (l : List Char), (∀ c ∈ l, c.isDigit = true) → ∀ m : Nat,
      (l.map fun c => c.toNat.toUInt8).foldl (fun n b => 10 * n + (b.toNat - 48)) m =
        Nat.ofDigitChars 10 l m := by
    intro l hl
    induction l with
    | nil => intro m; simp
    | cons c l ih =>
      intro m
      rw [List.map_cons, List.foldl_cons, ih fun d hd => hl d (List.mem_cons_of_mem _ hd),
        Nat.ofDigitChars_cons, (isDigit_toUInt8 (hl c (by simp))).2]
      rfl
  rw [ofDecimal, decimal, hfold _ fun c hc => isDigit_of_mem_toDigits hc]
  exact Nat.ofDigitChars_ten_toDigits

theorem ofDecimalInt_decimalInt (z : Int) : ofDecimalInt (decimalInt z) = z := by
  cases z with
  | ofNat n =>
    rw [decimalInt, ofDecimalInt, ofDecimal_decimal]
    · rfl
    · intro s hs
      have := isDigit_of_mem_decimal 45 (hs ▸ List.mem_cons_self)
      simp [isDigit] at this
  | negSucc n =>
    rw [decimalInt, ofDecimalInt, ofDecimal_decimal]
    rfl

theorem mem_decimalInt {z : Int} {b : UInt8} (hb : b ∈ decimalInt z) : b = 45 ∨ isDigit b = true := by
  cases z with
  | ofNat n => exact .inr (isDigit_of_mem_decimal b hb)
  | negSucc n =>
    rcases List.mem_cons.mp hb with rfl | hb
    · exact .inl rfl
    · exact .inr (isDigit_of_mem_decimal b hb)

end ByteString
