/-
Module: MultisigQueue.Power
Purpose: Powers of numbers.
Main exports:
  natPower
-/

namespace MultisigQueue

/-!
Powers with a natural exponent are those by repeated multiplication. A theory that brings powers of
its own, equal to these, does not change what `^` stands for in this library; between literals, the
type of the exponent says so.
-/

/-- Powers by repeated multiplication, before all others. -/
scoped instance (priority := 2000) natPower {α : Type} [NatPow α] : Pow α Nat := instPowNat

end MultisigQueue
