/-
Module: MultisigQueue.Rpc.Backoff
Purpose: Pauses between attempts, which grow by a factor.
Main exports:
  Rpc.backoff, Rpc.refusal?
-/
import MultisigQueue.Argument.Order

namespace MultisigQueue.Rpc

/-!
The pause after an attempt is a base times a power of a factor, whose exponent is the number of
attempts before it. All three are loosely typed: with integers the power is exact, and it is rounded
only when it meets a real number. A power or a product that is too large to be rounded is a failure.
A pause that can be computed need not be one that a clock can wait for.
-/

/-- A number as a real number, unless it is too large for one. -/
def realNumber : Number → Except InputError Float
  | .int n => Value.finiteReal n
  | .real x => .ok x

/-- The number that an operand is. -/
def operand (sign : String) (v : Value) (left right : String) : Except InputError Number :=
  match v.number? with
  | some n => .ok n
  | none => .error (.badOperands sign left right)

/-- The name of the kind of a number. -/
def kindOf : Number → String
  | .int _ => (Value.int 0).kindName
  | .real _ => (Value.real 0).kindName

/-- The number of attempts before one, which is never negative. -/
def attemptsBefore (attempt : Value) : Except InputError Number := do
  match ← operand "-" attempt attempt.kindName (kindOf (.int 0)) with
  | .int n => return .int (max (n - 1) 0)
  | .real x => return if x - 1.0 < 0.0 then .int 0 else .real (x - 1.0)

/-- The greatest exponent at which powers of integers are told apart. What lies beyond is too large
for a real number, as is its product with any integer but 0. -/
def exponentBound : Int := 1024

/-- A real number to the power of another, whose result is too large if it is infinite though
neither of them is. -/
def realPower (x y : Float) : Except InputError Float :=
  let power := x.pow y
  if power.isInf && !x.isInf && !y.isInf then .error .realOverflow else .ok power

/-- A number to the power of one that is not negative. -/
def power (factor exponent : Number) : Except InputError Number :=
  match factor, exponent with
  | .int b, .int e =>
    -- Whether the exponent is even decides the power of -1, which no bound is too large for.
    let kept := if exponentBound < e then exponentBound + e % 2 else e
    .ok (.int (b ^ kept.toNat))
  | factor, exponent => do
    let x ← realNumber factor
    let y ← realNumber exponent
    return .real (← realPower x y)

/-- The product of two numbers. -/
def product (a b : Number) : Except InputError Number :=
  match a, b with
  | .int m, .int n => .ok (.int (m * n))
  | a, b => do return .real ((← realNumber a) * (← realNumber b))

/-- The pause after an attempt. -/
def backoff (base factor attempt : Value) : Except InputError Float := do
  let exponent ← attemptsBefore attempt
  let factor ← operand "** or pow()" factor factor.kindName (kindOf exponent)
  let power ← power factor exponent
  let base ← operand "*" base base.kindName (kindOf power)
  let pause ← realNumber (← product base power)
  return pause + 0.0

/-- Why a clock that counts nanoseconds in 64 bits, one of them for the sign, does not wait for so
many seconds. -/
def refusal? (seconds : Float) : Option InputError :=
  if seconds.isNaN then some (.badPause true)
  else if seconds < -9223372036.854776 || 9223372036.854776 ≤ seconds then some .pauseTooLong
  else if seconds < 0.0 then some (.badPause false)
  else none

end MultisigQueue.Rpc
