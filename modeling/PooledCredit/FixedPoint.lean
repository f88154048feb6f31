import PooledCredit.Refusal

/-!
# Fixed-point arithmetic

Amounts, prices, rates and indices are whole numbers of sixteen bytes; clock readings and counts
are whole numbers of eight bytes. Rates and indices are scaled by a *ray* (`10 ^ 27`), health
factors and prices by a *wad* (`10 ^ 18`), and shares are given in basis points. Products are
exact before they are divided, every division says which way it rounds, and a result outside its
range is refused.
-/

namespace PooledCredit

/-- Amounts stay below this bound. -/
def amountBound : Nat := Bytes.span 16

/-- Clock readings, counts and basis points stay below this bound. -/
def clockBound : Nat := Bytes.span 8

/-- The largest amount. -/
def maxAmount : Nat := amountBound - 1

/-- The largest clock reading. -/
def maxClock : Nat := clockBound - 1

/-- One, on the scale of rates and indices. -/
def ray : Nat := 1_000_000_000_000_000_000_000_000_000

/-- One, on the scale of health factors and prices. -/
def wad : Nat := 1_000_000_000_000_000_000

/-- One hundred percent in basis points. -/
def fullShare : Nat := 10000

/-- The seconds of an hour. -/
def hour : Nat := 3600

/-- The seconds of a day. -/
def day : Nat := 24 * hour

/-- The seconds of a year of 365 days. -/
def year : Nat := 365 * day

/-- Which way a division rounds. -/
inductive Rounding where
  | down
  | up
deriving DecidableEq, Repr

/-- The quotient of two numbers, rounded as told. -/
def Rounding.divide (round : Rounding) (n d : Nat) : Nat :=
  match round with
  | .down => n / d
  | .up => (n + d - 1) / d

/-- Accepts a number that is in the range of amounts. -/
def fitAmount (n : Nat) : Result Nat :=
  if n < amountBound then .ok n else refuse .overflow

/-- Accepts a number that is in the range of clock readings. -/
def fitClock (n : Nat) : Result Nat :=
  if n < clockBound then .ok n else refuse .overflow

/-- The sum of two amounts. -/
def addAmount (a b : Nat) : Result Nat := fitAmount (a + b)

/-- The difference of two amounts. -/
def subAmount (a b : Nat) : Result Nat :=
  if b ≤ a then .ok (a - b) else refuse .underflow

/-- A difference that the rules take to be in range; it is a fault when it is not. -/
def bareSub (a b : Nat) : Result Nat :=
  if b ≤ a then .ok (a - b) else breakOff .subtraction

/-- A sum that the rules take to be below a bound; it is a fault when it is not. -/
def bareAdd (bound a b : Nat) : Result Nat :=
  if a + b < bound then .ok (a + b) else breakOff .addition

/-- `a * b / d`, with the product formed exactly. -/
def mulDiv (round : Rounding) (a b d : Nat) : Result Nat :=
  if d = 0 then refuse .divisionByZero else fitAmount (round.divide (a * b) d)

/-- The product of an amount or a ray with a ray. -/
def rayMul (round : Rounding) (a b : Nat) : Result Nat := mulDiv round a b ray

/-- The quotient by a ray. -/
def rayDiv (round : Rounding) (a b : Nat) : Result Nat := mulDiv round a ray b

/-- The product of two wads. -/
def wadMul (round : Rounding) (a b : Nat) : Result Nat := mulDiv round a b wad

/-- The quotient by a wad. -/
def wadDiv (round : Rounding) (a b : Nat) : Result Nat := mulDiv round a wad b

/-- The given share, in basis points, of a value. -/
def shareOf (round : Rounding) (value bps : Nat) : Result Nat := mulDiv round value bps fullShare

/-- The value of which the given number is the given share. -/
def wholeOf (round : Rounding) (value bps : Nat) : Result Nat := mulDiv round value fullShare bps

/-- The factor, in ray, by which a yearly rate grows a value from one clock reading to another
without compounding. -/
def linearGrowth (rate last now : Nat) : Result Nat := do
  require (last ≤ now) (.timeBackwards last now)
  let elapsed ← bareSub now last
  let accrued ← mulDiv .down rate elapsed year
  addAmount ray accrued

/-- The number of smallest units in one unit with the given number of decimals. -/
def unitScale (decimals : Nat) : Result Nat := fitAmount (Nat.pow 10 decimals)

/-- What an amount is worth in base units at a price. -/
def worthOf (round : Rounding) (amount price decimals : Nat) : Result Nat := do
  mulDiv round amount price (← unitScale decimals)

/-- The amount that is worth the given base units at a price. -/
def amountWorth (round : Rounding) (value price decimals : Nat) : Result Nat := do
  require (price ≠ 0) (.priceZero "conversion")
  mulDiv round value (← unitScale decimals) price

end PooledCredit
