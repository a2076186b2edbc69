import CameraPlatform.Base.JsonScanner
import CameraPlatform.Model

/-!
# `jsonEscape` is exactly delimited

Per byte, `escapeByte` writes what a scanner reads as that byte, and leaves it between two characters.
So a scanner that stands in front of an escaped text stands behind it next, whatever follows.
-/

namespace CameraPlatform
open ByteString Rfc8259 Scanner

theorem jsonEscape_eq (value : Bytes) : jsonEscape value = value.flatMap escapeByte := by
  have h : ∀ out : Bytes, value.foldl (fun out c => out ++ escapeByte c) out = out ++ value.flatMap escapeByte := by
    induction value with
    | nil => simp
    | cons c value ih =>
      intro out
      rw [List.foldl_cons, ih, List.flatMap_cons, List.append_assoc]
  exact h []

theorem hex4_control : ∀ n < 32,
    hex4 48 48 (hexDigits.getD ((n.toUInt8 >>> 4) &&& (0x0F : UInt8)).toNat 0)
      (hexDigits.getD (n.toUInt8 &&& (0x0F : UInt8)).toNat 0) = some n := by
  decide

theorem encode_control : ∀ n < 32, String.utf8EncodeChar (Char.ofNat n) = [n.toUInt8] := by
  decide

theorem control_lt {c : UInt8} (h : c < 0x20) : c.toNat < 32 := UInt8.lt_iff_toNat_lt.mp h

/-- A byte is escaped by one character, by its number, or not at all. -/
theorem escapeByte_cases (c : UInt8) :
    (∃ e, unescape e = some c ∧ escapeByte c = [92, e]) ∨
    (∃ h₃ h₄, c < 32 ∧ hex4 48 48 h₃ h₄ = some c.toNat ∧ escapeByte c = [92, 117, 48, 48, h₃, h₄]) ∨
    (c ≠ 34 ∧ c ≠ 92 ∧ ¬ c < 32) ∧ escapeByte c = [c] := by
  unfold escapeByte
  split
  · next h => exact .inl ⟨34, by rw [h]; rfl, rfl⟩
  split
  · next h => exact .inl ⟨92, by rw [h]; rfl, rfl⟩
  split
  · next h => exact .inl ⟨98, by rw [h]; rfl, rfl⟩
  split
  · next h => exact .inl ⟨102, by rw [h]; rfl, rfl⟩
  split
  · next h => exact .inl ⟨110, by rw [h]; rfl, rfl⟩
  split
  · next h => exact .inl ⟨114, by rw [h]; rfl, rfl⟩
  split
  · next h => exact .inl ⟨116, by rw [h]; rfl, rfl⟩
  split
  · next h =>
    -- the control characters without a short escape
    have hhex := hex4_control c.toNat (control_lt h)
    rw [Nat.toUInt8_eq, UInt8.ofNat_toNat] at hhex
    exact .inr (.inl ⟨_, _, h, hhex, rfl⟩)
  · next hq hb _ _ _ _ _ h => exact .inr (.inr ⟨⟨hq, hb, h⟩, rfl⟩)

/-- One escaped byte is read as that byte. -/
theorem run_escapeByte (consumed decoded : Bytes) (c : UInt8) (t : Bytes) :
    run ⟨.plain, consumed, decoded⟩ (escapeByte c ++ t) =
      run ⟨.plain, consumed ++ escapeByte c, decoded ++ [c]⟩ t := by
  rcases escapeByte_cases c with ⟨e, he, heq⟩ | ⟨h₃, h₄, hc, hhex, heq⟩ | ⟨⟨hq, hb, hc⟩, heq⟩
  · rw [heq]
    exact run_escape _ _ he t
  · have hn := control_lt hc
    have henc := encode_control c.toNat hn
    rw [Nat.toUInt8_eq, UInt8.ofNat_toNat] at henc
    have hhigh : isHighSurrogate c.toNat = false := by simp [isHighSurrogate]; omega
    have hlow : isLowSurrogate c.toNat = false := by simp [isLowSurrogate]; omega
    rw [heq, ← henc]
    exact run_unicode _ _ hhex hhigh hlow t
  · rw [heq]
    exact run_plain _ _ hq hb hc t

/-- Behind an escaped text a scanner has read all of it, and stands between two characters. -/
theorem run_jsonEscape (consumed decoded value t : Bytes) :
    run ⟨.plain, consumed, decoded⟩ (jsonEscape value ++ t) =
      run ⟨.plain, consumed ++ jsonEscape value, decoded ++ value⟩ t := by
  rw [jsonEscape_eq]
  induction value generalizing consumed decoded with
  | nil => rw [List.flatMap_nil, List.append_nil, List.append_nil, List.nil_append]
  | cons c value ih =>
    rw [List.flatMap_cons, List.append_assoc, run_escapeByte, ih, List.append_assoc, List.append_assoc,
      List.singleton_append]

theorem run_jsonEscape_quote (value t : Bytes) :
    run {} (jsonEscape value ++ 34 :: t) = .closed (jsonEscape value) value t := by
  rw [run_jsonEscape, run_quote, List.nil_append, List.nil_append]

/-- An escaped string ends at the quote written after it. -/
theorem scanString_jsonEscape (value rest : Bytes) :
    scanString (jsonEscape value ++ 34 :: rest) = some (value, rest) := by
  have h := result_run [] [] (jsonEscape value ++ 34 :: rest)
  rw [run_jsonEscape_quote] at h
  have hprepend : ∀ r, prepend [] r = r := fun r => by cases r <;> rfl
  rw [← hprepend (scanString _), ← h, Outcome.result]

theorem not_control_of_mem_jsonEscape {value : Bytes} : ∀ b ∈ jsonEscape value, ¬ b < 0x20 :=
  not_control_of_closed (run_jsonEscape_quote value []) fun _ hb => absurd hb List.not_mem_nil

theorem jsonEscape_injective : Function.Injective jsonEscape := by
  intro value value' h
  have hscan := run_jsonEscape_quote value []
  rw [h, run_jsonEscape_quote] at hscan
  cases hscan
  rfl

/-- Whatever follows an escaped text, a quote in there closes the literal, if any. -/
theorem closed_after_jsonEscape {value u consumed decoded rest : Bytes}
    (h : run {} (jsonEscape value ++ u) = .closed consumed decoded rest) :
    ∃ more, consumed = jsonEscape value ++ more ∧ u = more ++ 34 :: rest := by
  rw [run_jsonEscape, List.nil_append, List.nil_append] at h
  obtain ⟨more, rfl⟩ := consumed_prefix h
  have htext := run_closed h
  rw [List.append_assoc] at htext
  exact ⟨more, rfl, List.append_cancel_left htext⟩

/-- The literal of an escaped text ends at the quote behind it and nowhere before. -/
theorem jsonEscape_delimited :
    (∀ s t : Bytes, run {} (jsonEscape s ++ 34 :: t) = .closed (jsonEscape s) s t) ∧
    (∀ s : Bytes, ∀ b ∈ jsonEscape s, ¬ b < 0x20) ∧
    Function.Injective jsonEscape ∧
    ∀ s u consumed decoded rest : Bytes, run {} (jsonEscape s ++ u) = .closed consumed decoded rest →
      ∃ more, consumed = jsonEscape s ++ more ∧ u = more ++ 34 :: rest :=
  ⟨run_jsonEscape_quote, fun _ => not_control_of_mem_jsonEscape, jsonEscape_injective,
    fun _ _ _ _ _ => closed_after_jsonEscape⟩

/-- A text that tries to close its literal, and a control character without a short escape. -/
theorem jsonEscape_delimited_quoted :
    run {} (jsonEscape (ascii "\"\x01") ++ 34 :: ascii ",\"") =
      .closed (ascii "\\\"\\u0001") (ascii "\"\x01") (ascii ",\"") ∧
    ¬ (92 : UInt8) < 0x20 ∧
    ∃ more, ascii "\\\"\\u0001x" = jsonEscape (ascii "\"\x01") ++ more ∧ ascii "x\"" = more ++ 34 :: [] := by
  obtain ⟨hstop, hbytes, -, hearly⟩ := jsonEscape_delimited
  exact ⟨hstop (ascii "\"\x01") _, hbytes (ascii "\"\x01") 92 (by decide),
    hearly _ (ascii "x\"") _ (ascii "\"\x01x") [] (by decide)⟩

end CameraPlatform
