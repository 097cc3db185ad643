/-!
# Doubles as bit patterns

A double is compared here by its sixty-four bits: the sign bit first, then the magnitude. This gives
a total order in which `-0` stands below `+0` and not-a-number above every infinity, so a list of
doubles has one sorted form whatever order it came in.
-/
namespace Multimodal.Number

/-- The sixty-three bits below the sign. -/
def magnitude (x : Float) : Nat := x.toBits.toNat % 0x8000000000000000

/-- Whether the sign bit is set; it is for `-0`. -/
def isNegative (x : Float) : Bool := decide (0x8000000000000000 ≤ x.toBits.toNat)

/-- The place of a double in the total order: positive doubles by magnitude, negative ones in
reverse below them, with `-0` just under `+0`. -/
def orderKey (x : Float) : Int :=
  if isNegative x then -(magnitude x : Int) - 1 else magnitude x

/-- The total order of doubles. -/
def totalLe (x y : Float) : Bool := decide (orderKey x ≤ orderKey y)

theorem orderKey_eq (x : Float) :
    orderKey x = if 0x8000000000000000 ≤ x.toBits.toNat then
      (0x7FFFFFFFFFFFFFFF - x.toBits.toNat : Int) else x.toBits.toNat := by
  have h := x.toBits.toNat_lt
  simp only [orderKey, isNegative, magnitude, decide_eq_true_eq]
  split <;> omega

/-- A double is determined by its bits. -/
theorem toBits_inj {x y : Float} (h : x.toBits = y.toBits) : x = y := by
  obtain ⟨⟨b, _⟩⟩ := x
  obtain ⟨⟨c, _⟩⟩ := y
  obtain rfl : b = c := h
  rfl

end Multimodal.Number
