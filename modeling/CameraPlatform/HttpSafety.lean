import CameraPlatform.HttpParse

/-!
# No offset leaves its string

An operation on offsets that is out of range is an `Error` of the model, and so is a loop that does not
end; neither parser ever meets one. The look-ahead of the decoder is no such operation: `decodeChecked`
makes it one, and is no different.
-/

namespace CameraPlatform
open ByteString

/-- `decodeLoop` with a check of the index in each turn and of both characters after a `%`. -/
def decodeLoopChecked : Nat → Bytes → Nat → Bytes → Except Error Bytes
  | 0, _, _, _ => .error .outOfFuel
  | fuel + 1, input, i, decoded =>
    if input.length < i then .error .outOfRange
    else if i < input.length then do
      let c ← charAt input i
      if c = 43 then decodeLoopChecked fuel input (i + 1) (decoded ++ [32])
      else if c = 37 ∧ i + 2 < input.length then do
        let _ ← charAt input (i + 1)
        let _ ← charAt input (i + 2)
        let hex ← substr input (i + 1) (some 2)
        decodeLoopChecked fuel input (i + 3) (decoded ++ [toChar (strtol16 hex)])
      else decodeLoopChecked fuel input (i + 1) (decoded ++ [c])
    else .ok decoded

def decodeChecked (input : Bytes) : Except Error Bytes := decodeLoopChecked (input.length + 1) input 0 []

/-- The index never passes the end, so the checks change nothing. -/
theorem decodeLoopChecked_eq {input : Bytes} {i : Nat} (hi : i ≤ input.length) (fuel : Nat) (decoded : Bytes) :
    decodeLoopChecked fuel input i decoded = decodeLoop fuel input i decoded := by
  induction fuel generalizing i decoded with
  | zero => rfl
  | succ fuel ih =>
    rw [decodeLoopChecked, decodeLoop, if_neg (Nat.not_lt.mpr hi)]
    split
    · next hlt =>
      rw [charAt_eq hlt, ok_bind, ok_bind]
      split
      · exact ih hlt _
      · split
        · next hp =>
          have hnext : i + 1 < input.length := by omega
          rw [charAt_eq hnext, charAt_eq hp.2, ok_bind, ok_bind, substr_eq_take (by omega), ok_bind, ok_bind]
          exact ih hp.2 _
        · exact ih hlt _
    · rfl

/-- Both parsers return on every input, with every offset in range. -/
theorem parsers_in_range :
    (∀ raw, ∃ accepted out, parseRequest raw = .ok (accepted, out)) ∧
    (∀ target, ∃ query, parseQuery target = .ok query) ∧
    ∀ input, ∃ text, decode input = .ok text ∧ decodeChecked input = .ok text := by
  refine ⟨fun raw => ⟨_, _, parseRequest_eq raw⟩, fun target => ⟨_, parseQuery_eq target⟩, fun input => ?_⟩
  refine ⟨decodeForm input, decode_eq input, ?_⟩
  rw [decodeChecked, decodeLoopChecked_eq (Nat.zero_le _)]
  exact decode_eq input

end CameraPlatform
