import Breadboard.Text.Utf8

/-! Bytes cut into segments of one size. -/

namespace Breadboard

/-- The bytes in segments of one size, the last of them perhaps smaller. -/
def segments (size : Nat) (data : Bytes) : List Bytes :=
  if 0 < size ∧ size < data.length then data.take size :: segments size (data.drop size)
  else [data]
termination_by data.length
decreasing_by simp only [List.length_drop]; omega

theorem segments_flatten (size : Nat) (data : Bytes) : (segments size data).flatten = data := by
  fun_induction segments size data with
  | case1 data h ih => simp [ih]
  | case2 data h => simp

end Breadboard
