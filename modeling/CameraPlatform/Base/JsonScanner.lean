import CameraPlatform.Base.Json

/-!
# A JSON string read byte by byte (RFC 8259)

A `Scanner` stands inside a literal, after its opening quote. A backslash changes what the next one to
five bytes mean, and a high surrogate the six after it: what the next byte means is the mode.
The bytes from `0x80` up are characters of their own; a surrogate alone is none. `run` says where a
text leaves the scanner, `result_run` that `scanString` reads the same literals.
-/

namespace Rfc8259
open ByteString

namespace Scanner

/-- What comes next. `high` is a high surrogate whose low one is awaited. -/
inductive Mode where
  | plain
  | escape
  | hex (high : Option Nat) (more value : Nat)
  | pair (high : Nat)
  | pairEscape (high : Nat)
deriving DecidableEq

/-- What a byte does: it adds to the decoded text, ends the literal, or may not stand here. -/
inductive Move where
  | next (mode : Mode) (emitted : Bytes)
  | close
  | refuse
deriving DecidableEq

/-- The four digits of an escape are read. -/
def finishHex : Option Nat → Nat → Move
  | none, u =>
    if isHighSurrogate u then .next (.pair u) []
    else if isLowSurrogate u then .refuse
    else .next .plain (String.utf8EncodeChar (Char.ofNat u))
  | some high, u =>
    if isLowSurrogate u then
      .next .plain (String.utf8EncodeChar (Char.ofNat (0x10000 + (high - 0xD800) * 0x400 + (u - 0xDC00))))
    else .refuse

def step : Mode → UInt8 → Move
  | .plain, b =>
    if b = 34 then .close
    else if b = 92 then .next .escape []
    else if b < 32 then .refuse
    else .next .plain [b]
  | .escape, b =>
    if b = 117 then .next (.hex none 3 0) []
    else
      match unescape b with
      | none => .refuse
      | some d => .next .plain [d]
  | .hex high more value, b =>
    match hexDigit? b with
    | none => .refuse
    | some d =>
      match more with
      | 0 => finishHex high (value * 16 + d)
      | more + 1 => .next (.hex high more (value * 16 + d)) []
  | .pair high, b => if b = 92 then .next (.pairEscape high) [] else .refuse
  | .pairEscape high, b => if b = 117 then .next (.hex (some high) 3 0) [] else .refuse

end Scanner

/-- A scanner inside a literal: what it has read of it, and what that says. -/
structure Scanner where
  mode : Scanner.Mode := .plain
  consumed : Bytes := []
  decoded : Bytes := []
deriving DecidableEq

namespace Scanner

/-- Where a text leaves a scanner: still inside, behind the closing quote, or refusing a byte. -/
inductive Outcome where
  | inside (s : Scanner)
  | closed (consumed decoded rest : Bytes)
  | refused
deriving DecidableEq

def run (s : Scanner) : Bytes → Outcome
  | [] => .inside s
  | b :: bs =>
    match step s.mode b with
    | .next mode emitted => run { mode, consumed := s.consumed ++ [b], decoded := s.decoded ++ emitted } bs
    | .close => .closed s.consumed s.decoded bs
    | .refuse => .refused

/-- The literal, if it is closed, and what follows it. -/
def Outcome.result : Outcome → Option (Bytes × Bytes)
  | closed _ decoded rest => some (decoded, rest)
  | _ => none

variable {s : Scanner}

theorem run_next {mode : Mode} {emitted : Bytes} {b : UInt8} (h : step s.mode b = .next mode emitted) (t : Bytes) :
    s.run (b :: t) = run ⟨mode, s.consumed ++ [b], s.decoded ++ emitted⟩ t := by
  rw [run, h]

/-! ### What a closed literal is made of -/

theorem finishHex_ne_close (high : Option Nat) (u : Nat) : finishHex high u ≠ .close := by
  cases high with
  | none =>
    rw [finishHex]
    split_ifs <;> rintro ⟨⟩
  | some high =>
    rw [finishHex]
    split_ifs <;> rintro ⟨⟩

/-- Only a quote closes a literal. -/
theorem step_close {m : Mode} {b : UInt8} (h : step m b = .close) : b = 34 := by
  cases m with
  | plain =>
    rw [step] at h
    split_ifs at h with hq
    exact hq
  | escape =>
    rw [step] at h
    split_ifs at h
    split at h <;> cases h
  | hex high more value =>
    rw [step] at h
    split at h
    · cases h
    · split at h
      · exact absurd h (finishHex_ne_close _ _)
      · cases h
  | pair high =>
    rw [step] at h
    split_ifs at h
  | pairEscape high =>
    rw [step] at h
    split_ifs at h

/-- The consumed bytes are those in front of the closing quote. -/
theorem run_closed {t consumed decoded rest : Bytes} (h : s.run t = .closed consumed decoded rest) :
    s.consumed ++ t = consumed ++ 34 :: rest := by
  induction t generalizing s with
  | nil => cases h
  | cons b t ih =>
    rw [run] at h
    cases hstep : step s.mode b with
    | next mode emitted =>
      rw [hstep] at h
      have := ih h
      rwa [List.append_assoc] at this
    | close =>
      rw [hstep] at h
      cases h
      rw [step_close hstep]
    | refuse =>
      rw [hstep] at h
      cases h

/-- A literal never gets shorter. -/
theorem consumed_prefix {t consumed decoded rest : Bytes} (h : s.run t = .closed consumed decoded rest) :
    ∃ more, consumed = s.consumed ++ more := by
  induction t generalizing s with
  | nil => cases h
  | cons b t ih =>
    rw [run] at h
    split at h
    · obtain ⟨more, hmore⟩ := ih h
      exact ⟨b :: more, hmore.trans (List.append_assoc ..)⟩
    · cases h
      exact ⟨[], (List.append_nil _).symm⟩
    · cases h

theorem control_none : ∀ n < 32, unescape n.toUInt8 = none ∧ hexDigit? n.toUInt8 = none := by decide

/-- No control character may stand in a literal, not even within an escape. -/
theorem step_control (m : Mode) {b : UInt8} (hb : b < 32) : step m b = .refuse := by
  have hne : ∀ c : UInt8, ¬ c < 32 → b ≠ c := by
    rintro c hc rfl
    exact hc hb
  have hnone := control_none b.toNat (UInt8.lt_iff_toNat_lt.mp hb)
  rw [Nat.toUInt8_eq, UInt8.ofNat_toNat] at hnone
  cases m with
  | plain => rw [step, if_neg (hne _ (by decide)), if_neg (hne _ (by decide)), if_pos hb]
  | escape => rw [step, if_neg (hne _ (by decide)), hnone.1]
  | hex high more value => rw [step, hnone.2]
  | pair high => rw [step, if_neg (hne _ (by decide))]
  | pairEscape high => rw [step, if_neg (hne _ (by decide))]

theorem not_control_of_closed {t consumed decoded rest : Bytes} (h : s.run t = .closed consumed decoded rest)
    (hs : ∀ b ∈ s.consumed, ¬ b < 32) : ∀ b ∈ consumed, ¬ b < 32 := by
  induction t generalizing s with
  | nil => cases h
  | cons b t ih =>
    rw [run] at h
    cases hstep : step s.mode b with
    | next mode emitted =>
      rw [hstep] at h
      refine ih h fun c hc => ?_
      rcases List.mem_append.mp hc with hc | hc
      · exact hs c hc
      · rw [List.mem_singleton.mp hc]
        intro hb
        rw [step_control _ hb] at hstep
        cases hstep
    | close =>
      rw [hstep] at h
      cases h
      exact hs
    | refuse =>
      rw [hstep] at h
      cases h

/-! ### Characters -/

section
variable (c d : Bytes)

theorem run_quote (t : Bytes) : run ⟨.plain, c, d⟩ (34 :: t) = .closed c d t := by
  rw [run, step, if_pos rfl]

theorem run_plain {b : UInt8} (hq : b ≠ 34) (hb : b ≠ 92) (h : ¬ b < 32) (t : Bytes) :
    run ⟨.plain, c, d⟩ (b :: t) = run ⟨.plain, c ++ [b], d ++ [b]⟩ t :=
  run_next (by rw [step, if_neg hq, if_neg hb, if_neg h]) t

theorem run_escape_u (t : Bytes) :
    run ⟨.plain, c, d⟩ (92 :: 117 :: t) = run ⟨.hex none 3 0, c ++ [92, 117], d⟩ t := by
  have hplain : step .plain 92 = .next .escape [] := rfl
  have hescape : step .escape 117 = .next (.hex none 3 0) [] := rfl
  rw [run_next hplain, run_next hescape, List.append_nil, List.append_nil, List.append_assoc]
  rfl

theorem run_pair_u (high : Nat) (t : Bytes) :
    run ⟨.pair high, c, d⟩ (92 :: 117 :: t) = run ⟨.hex (some high) 3 0, c ++ [92, 117], d⟩ t := by
  have hpair : step (.pair high) 92 = .next (.pairEscape high) [] := rfl
  have hescape : step (.pairEscape high) 117 = .next (.hex (some high) 3 0) [] := rfl
  rw [run_next hpair, run_next hescape, List.append_nil, List.append_nil, List.append_assoc]
  rfl

theorem run_backslash (t : Bytes) : run ⟨.plain, c, d⟩ (92 :: t) = run ⟨.escape, c ++ [92], d⟩ t := by
  have hstep : step .plain 92 = .next .escape [] := rfl
  rw [run_next hstep, List.append_nil]

theorem run_escape {b e : UInt8} (h : unescape b = some e) (t : Bytes) :
    run ⟨.plain, c, d⟩ (92 :: b :: t) = run ⟨.plain, c ++ [92, b], d ++ [e]⟩ t := by
  have hstep : step .escape b = .next .plain [e] := by
    have hb : b ≠ 117 := by rintro rfl; cases h
    rw [step, if_neg hb, h]
  rw [run_backslash, run_next hstep, List.append_assoc]
  rfl

/-- Four hexadecimal digits are one number. -/
theorem run_hex {high : Option Nat} {h₁ h₂ h₃ h₄ : UInt8} {u : Nat} (h : hex4 h₁ h₂ h₃ h₄ = some u) (t : Bytes) :
    run ⟨.hex high 3 0, c, d⟩ (h₁ :: h₂ :: h₃ :: h₄ :: t) =
      match finishHex high u with
      | .next mode emitted => run ⟨mode, c ++ [h₁, h₂, h₃, h₄], d ++ emitted⟩ t
      | .close => .closed (c ++ [h₁, h₂, h₃]) d t
      | .refuse => .refused := by
  simp only [hex4, Option.bind_eq_bind, Option.bind_eq_some_iff] at h
  obtain ⟨a₁, e₁, a₂, e₂, a₃, e₃, a₄, e₄, hu⟩ := h
  simp only [run, step, e₁, e₂, e₃, e₄, List.append_nil, Nat.zero_mul, Nat.zero_add, List.append_assoc,
    List.cons_append, List.nil_append, Option.some.inj hu]

theorem run_unicode {h₁ h₂ h₃ h₄ : UInt8} {u : Nat} (h : hex4 h₁ h₂ h₃ h₄ = some u)
    (hh : isHighSurrogate u = false) (hl : isLowSurrogate u = false) (t : Bytes) :
    run ⟨.plain, c, d⟩ (92 :: 117 :: h₁ :: h₂ :: h₃ :: h₄ :: t) =
      run ⟨.plain, c ++ [92, 117, h₁, h₂, h₃, h₄], d ++ String.utf8EncodeChar (Char.ofNat u)⟩ t := by
  rw [run_escape_u, run_hex _ _ h, finishHex, hh, hl]
  simp only [Bool.false_eq_true, if_false, List.append_assoc, List.cons_append, List.nil_append]

/-! ### The literals that `scanString` reads -/

theorem run_hex_none {high : Option Nat} {h₁ h₂ h₃ h₄ : UInt8} (h : hex4 h₁ h₂ h₃ h₄ = none) (t : Bytes) :
    run ⟨.hex high 3 0, c, d⟩ (h₁ :: h₂ :: h₃ :: h₄ :: t) = .refused := by
  cases e₁ : hexDigit? h₁ with
  | none => simp only [run, step, e₁]
  | some a₁ =>
    cases e₂ : hexDigit? h₂ with
    | none => simp only [run, step, e₁, e₂]
    | some a₂ =>
      cases e₃ : hexDigit? h₃ with
      | none => simp only [run, step, e₁, e₂, e₃]
      | some a₃ =>
        cases e₄ : hexDigit? h₄ with
        | none => simp only [run, step, e₁, e₂, e₃, e₄]
        | some a₄ =>
          rw [hex4, e₁, e₂, e₃, e₄] at h
          cases h

/-- A text that ends among the digits of an escape closes nothing. -/
theorem result_hex_short {high : Option Nat} {more value : Nat} {t : Bytes} (h : t.length ≤ more) :
    (run ⟨.hex high more value, c, d⟩ t).result = none := by
  induction t generalizing c d more value with
  | nil => rfl
  | cons b t ih =>
    obtain ⟨more, rfl⟩ : ∃ n, more = n + 1 := Nat.exists_eq_add_one_of_ne_zero (by simp at h; omega)
    cases hb : hexDigit? b with
    | none => simp only [run, step, hb, Outcome.result]
    | some a =>
      have hstep : step (.hex high (more + 1) value) b = .next (.hex high more (value * 16 + a)) [] := by
        rw [step, hb]
      rw [run_next hstep]
      exact ih _ _ (by simpa using h)

theorem length_le_three {t : Bytes} (h : ∀ h₁ h₂ h₃ h₄ s, t = h₁ :: h₂ :: h₃ :: h₄ :: s → False) : t.length ≤ 3 := by
  match t with
  | [] | [_] | [_, _] | [_, _, _] => simp
  | h₁ :: h₂ :: h₃ :: h₄ :: s => exact (h h₁ h₂ h₃ h₄ s rfl).elim

/-- After a high surrogate nothing but an escape closes the literal. -/
theorem result_pair_none (high : Nat) {t : Bytes}
    (h : ∀ l₁ l₂ l₃ l₄ s, t = 92 :: 117 :: l₁ :: l₂ :: l₃ :: l₄ :: s → False) :
    (run ⟨.pair high, c, d⟩ t).result = none := by
  match t with
  | [] => rfl
  | b :: t =>
    by_cases hb : b = 92
    · subst hb
      match t with
      | [] => rfl
      | e :: t =>
        by_cases he : e = 117
        · subst he
          rw [run_pair_u]
          exact result_hex_short _ _ (length_le_three fun l₁ l₂ l₃ l₄ s ht => h l₁ l₂ l₃ l₄ s (by rw [ht]))
        · have hstep : step (.pair high) 92 = .next (.pairEscape high) [] := rfl
          rw [run_next hstep, run, step, if_neg he]
          rfl
    · rw [run, step, if_neg hb]
      rfl

theorem finishHex_high {u : Nat} (h : isHighSurrogate u = true) : finishHex none u = .next (.pair u) [] := by
  rw [finishHex, if_pos h]

theorem prepend_prepend (e : Bytes) (r : Option (Bytes × Bytes)) :
    prepend d (prepend e r) = prepend (d ++ e) r := by
  cases r with
  | none => rfl
  | some p => rw [prepend, prepend, prepend, Option.map_some, Option.map_some, Option.map_some, List.append_assoc]

/-- The scanner closes the literals that `scanString` reads, says what it says, and leaves what it leaves. -/
theorem result_run (t : Bytes) : (run ⟨.plain, c, d⟩ t).result = prepend d (scanString t) := by
  fun_induction scanString t generalizing c d with
  | case1 => rfl
  | case2 t => rw [run_quote, Outcome.result, prepend, Option.map_some, List.append_nil]
  | case3 _ _ _ _ _ hnone =>
    rw [run_escape_u, run_hex_none _ _ hnone]
    rfl
  | case4 _ _ _ _ u hu hhigh _ _ _ _ _ hnone =>
    -- a high surrogate, and no number after it
    rw [run_escape_u, run_hex _ _ hu, finishHex_high hhigh]
    simp only
    rw [run_pair_u, run_hex_none _ _ hnone]
    rfl
  | case5 _ _ _ _ u hu hhigh _ _ _ _ _ v hv hlow _ ih =>
    rw [run_escape_u, run_hex _ _ hu, finishHex_high hhigh]
    simp only
    rw [run_pair_u, run_hex _ _ hv, finishHex, if_pos hlow]
    simp only
    rw [ih, List.append_nil, prepend_prepend]
  | case6 _ _ _ _ u hu hhigh _ _ _ _ _ v hv hlow =>
    rw [run_escape_u, run_hex _ _ hu, finishHex_high hhigh]
    simp only
    rw [run_pair_u, run_hex _ _ hv, finishHex, if_neg hlow]
    rfl
  | case7 _ _ _ _ _ u hu hhigh hno =>
    rw [run_escape_u, run_hex _ _ hu, finishHex_high hhigh]
    exact result_pair_none _ _ _ hno
  | case8 _ _ _ _ _ u hu hhigh hlow =>
    rw [run_escape_u, run_hex _ _ hu, finishHex, if_neg hhigh, if_pos hlow]
    rfl
  | case9 _ _ _ _ _ u hu hhigh hlow _ ih =>
    rw [run_unicode _ _ hu (by simpa using hhigh) (by simpa using hlow), ih, prepend_prepend]
  | case10 b t hshort hnone =>
    by_cases hb : b = 117
    · subst hb
      rw [run_escape_u]
      exact result_hex_short _ _ (length_le_three fun h₁ h₂ h₃ h₄ s ht => hshort h₁ h₂ h₃ h₄ s rfl ht)
    · rw [run_backslash, run, step, if_neg hb, hnone]
      rfl
  | case11 b t _ e he _ ih => rw [run_escape _ _ he, ih, prepend_prepend]
  | case12 => rfl
  | case13 b t _ _ hcontrol =>
    rw [run, step_control _ hcontrol]
    rfl
  | case14 b t hq hb hcontrol ih => rw [run_plain _ _ hq hb hcontrol, ih, prepend_prepend]

end

end Scanner

end Rfc8259
