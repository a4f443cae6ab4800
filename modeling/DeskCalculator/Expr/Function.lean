import DeskCalculator.Breakdown
import DeskCalculator.Decimal.Basic

/-!
# Functions of floats

The operations that an expression may use beyond sums, differences and products.
Arithmetic refuses some of them: division by zero, functions outside their
domain, and powers and whole numbers that are too large.  The operations of an
expression are meant to have a value everywhere: where there is no answer NaN,
where the answer is too large an infinity.  So each of them looks at its operands
before it asks for something that may be refused, or answers for the refusal
itself; a refusal it does not answer for is its own.  Angles are in degrees.
-/

namespace DeskCalculator

/-! ## Values -/

/-- Not a number. -/
def notANumber : Float := 0.0 / 0.0

/-- Positive infinity. -/
def infinity : Float := 1.0 / 0.0

/-- The float nearest to the circle number. -/
def circleNumber : Float := Float.ofBits 0x400921FB54442D18

/-- The float nearest to the base of the natural logarithm. -/
def eulerNumber : Float := Float.ofBits 0x4005BF0A8B145769

/-! ## Whole numbers among the floats -/

/-- The magnitude of a finite float without its fractional part. -/
def wholePart (v : Float) : Nat :=
  match scale v with
  | .ofNat power => significand v <<< power
  | .negSucc power => significand v >>> (power + 1)

/-- Whether a float is finite and has no fractional part. -/
def isWhole (v : Float) : Bool :=
  v.isFinite &&
    match scale v with
    | .ofNat _ => true
    | .negSucc power => significand v % (1 <<< (power + 1)) == 0

/-- Whether a float is an odd whole number. -/
def isOdd (v : Float) : Bool :=
  isWhole v && wholePart v % 2 == 1

/-! ## What arithmetic refuses -/

namespace Arithmetic

/-- The quotient of two numbers; nothing is divided by zero. -/
def divide (a b : Float) : Except ArithmeticError Float :=
  if b == 0.0 then .error .zeroDivision else .ok (a / b)

/-- The power of two numbers.  If both are finite but the power is not, it is either too large or
there is none. -/
def power (a b : Float) : Except ArithmeticError Float :=
  let result := Float.pow a b
  if !a.isFinite || !b.isFinite || result.isFinite then .ok result
  else if result.isNaN || a == 0.0 then .error .outsideDomain
  else .error .overflow

/-- The decimal logarithm of a number that is neither zero nor negative. -/
def logarithm (x : Float) : Except ArithmeticError Float :=
  if x == 0.0 || x < 0.0 then .error .outsideDomain else .ok (Float.log10 x)

/-- A function of an angle, which has no value at an infinite one. -/
def atAngle (f : Float → Float) (x : Float) : Except ArithmeticError Float :=
  if x.isInf then .error .outsideDomain else .ok (f x)

/-- The float nearest to a natural number. -/
def ofNat (n : Nat) : Except ArithmeticError Float :=
  if (Float.ofNat n).isInf then .error .overflow else .ok (Float.ofNat n)

/-- The natural number that is left of a float that is not negative without its fractional part. -/
def whole (v : Float) : Except ArithmeticError Nat :=
  if v.isNaN then .error .outsideDomain
  else if v.isInf then .error .overflow
  else .ok (wholePart v)

end Arithmetic

/-! ## The operations -/

/-- The quotient of two numbers.  What is divided by zero is infinite, with the signs of both
numbers, unless it is zero itself or NaN. -/
def divide (a b : Float) : Except ArithmeticError Float :=
  if b == 0.0 then
    if a == 0.0 || a.isNaN then .ok notANumber
    else .ok (withSign (signBit a) infinity * withSign (signBit b) 1.0)
  else Arithmetic.divide a b

/-- `a` to the power of `b`.  Where the power is too large it is infinite, with the sign of an odd
power; either zero to a negative power is positive infinity. -/
def power (a b : Float) : Except ArithmeticError Float :=
  match Arithmetic.power a b with
  | .error .overflow => .ok (if a < 0.0 && isOdd b then -infinity else infinity)
  | .error .outsideDomain => .ok (if a == 0.0 && b < 0.0 then infinity else notANumber)
  | outcome => outcome

/-- A function of an angle in degrees; an angle that is not finite has no value. -/
def ofDegrees (f : Float → Float) (x : Float) : Except ArithmeticError Float :=
  if x.isFinite then Arithmetic.atAngle f (x * (circleNumber / 180.0)) else .ok notANumber

/-- The decimal logarithm. -/
def logarithm (x : Float) : Except ArithmeticError Float :=
  if x == 0.0 then .ok (-infinity)
  else if x < 0.0 || x.isNaN then .ok notANumber
  else Arithmetic.logarithm x

/-- The root of a number, as a power with the reciprocal degree. -/
def root (degree number : Float) : Except ArithmeticError Float := do
  power number (← divide 1.0 degree)

/-- Multiplies `product` by `count` successive numbers from `factor` on, and stops early at an
infinity, which no further factor can change. -/
def multiplied (product : Float) (factor : Nat) : Nat → Except ArithmeticError Float
  | 0 => .ok product
  | count + 1 => do
    let next := product * (← Arithmetic.ofNat factor)
    if next.isInf then return next else multiplied next (factor + 1) count

/-- The factorial, multiplied up from below. -/
def factorial (n : Float) : Except ArithmeticError Float :=
  if n.isNaN || n < 0.0 || !isWhole n then .ok notANumber
  else if n == 0.0 || n == 1.0 then .ok 1.0
  else do multiplied 1.0 2 ((← Arithmetic.whole n) - 1)

/-- Whether `n` and `r` are whole numbers with `0 ≤ r ≤ n`. -/
def isChoice (n r : Float) : Bool :=
  !(n < r || n < 0.0 || r < 0.0 || !isWhole n || !isWhole r)

/-- The number of ways to arrange `r` of `n` things. -/
def permutations (n r : Float) : Except ArithmeticError Float :=
  if isChoice n r then do
    let every ← factorial n
    let rest ← factorial (n - r)
    divide every rest
  else .ok notANumber

/-- The number of ways to choose `r` of `n` things. -/
def combinations (n r : Float) : Except ArithmeticError Float :=
  if isChoice n r then do
    let every ← factorial n
    let chosen ← factorial r
    let rest ← factorial (n - r)
    divide every (chosen * rest)
  else .ok notANumber

/-! ## Functions by name -/

/-- The functions that an expression may call. -/
inductive Function where
  | sine
  | cosine
  | tangent
  | logarithm
  | root
  | permutations
  | combinations
  | factorial
  deriving DecidableEq, Repr

namespace Function

/-- Every function. -/
def all : List Function :=
  [sine, cosine, tangent, logarithm, root, permutations, combinations, factorial]

/-- The name by which a function is called. -/
def name : Function → String
  | sine => "sin"
  | cosine => "cos"
  | tangent => "tan"
  | logarithm => "log"
  | root => "root"
  | permutations => "nPr"
  | combinations => "nCr"
  | factorial => "factorial"

/-- How many arguments a function takes. -/
def arity : Function → Nat
  | root | permutations | combinations => 2
  | sine | cosine | tangent | logarithm | factorial => 1

/-- The function with a given name. -/
def ofName? (text : String) : Option Function :=
  all.find? (·.name == text)

/-- The value of a function of one argument, or of the first of two. -/
def apply (f : Function) (x y : Float) : Except ArithmeticError Float :=
  match f with
  | sine => ofDegrees Float.sin x
  | cosine => ofDegrees Float.cos x
  | tangent => ofDegrees Float.tan x
  | logarithm => DeskCalculator.logarithm x
  | root => DeskCalculator.root x y
  | permutations => DeskCalculator.permutations x y
  | combinations => DeskCalculator.combinations x y
  | factorial => DeskCalculator.factorial x

/-- The value of a function at a list of arguments, of which there are `f.arity`. -/
def applyAll (f : Function) (arguments : List Float) : Except ArithmeticError Float :=
  f.apply (arguments.getD 0 notANumber) (arguments.getD 1 notANumber)

theorem ofName?_name (f : Function) : ofName? f.name = some f := by
  cases f <;> decide

theorem name_of_ofName? {text : String} {f : Function} (h : ofName? text = some f) :
    f.name = text := by
  simpa using List.find?_some h

end Function

end DeskCalculator
