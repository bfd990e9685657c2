import TemplateLint.Text.Literal

/-!
The shortest decimal that reads back as a given binary float. A finite float is `mantissa * 2 ^ exponent`; the decimals that
round to it fill an interval around it, and the answer is the point of the coarsest decimal grid inside that interval that
lies nearest.
-/

namespace TemplateLint.Decimal

structure Fraction where
  num : Nat
  den : Nat

def Fraction.le (a b : Fraction) : Bool := a.num * b.den ≤ b.num * a.den

def Fraction.lt (a b : Fraction) : Bool := a.num * b.den < b.num * a.den

def twoTo (n : Nat) : Nat := Nat.pow 2 n

def tenTo (n : Nat) : Nat := Nat.pow 10 n

def scaled (num : Nat) (exponent : Int) : Fraction :=
  match exponent with
  | .ofNat e => ⟨num * twoTo e, 1⟩
  | .negSucc e => ⟨num, twoTo (e + 1)⟩

def timesPower (f : Fraction) (power : Int) : Fraction :=
  match power with
  | .ofNat p => ⟨f.num * tenTo p, f.den⟩
  | .negSucc p => ⟨f.num, f.den * tenTo (p + 1)⟩

/-- The decimals that round to a float: the bounds themselves belong to it when its mantissa is even. -/
structure Interval where
  low : Fraction
  high : Fraction
  closed : Bool

def Interval.holds (i : Interval) (f : Fraction) : Bool :=
  if i.closed then i.low.le f && f.le i.high else i.low.lt f && f.lt i.high

def interval (mantissa : Nat) (exponent : Int) : Interval :=
  -- In quarters of the unit, for the gap below a power of two is half the gap above it.
  let narrow := mantissa = twoTo 52 ∧ -1074 < exponent
  { low := scaled (4 * mantissa - (if narrow then 1 else 2)) (exponent - 2)
    high := scaled (4 * mantissa + 2) (exponent - 2)
    closed := mantissa % 2 = 0 }

def magnitude (f : Fraction) : Nat → Int → Int
  | 0, power => power
  | steps + 1, power => if (timesPower ⟨1, 1⟩ power).le f then power else magnitude f steps (power - 1)

def onGrid (f : Fraction) (i : Interval) (power : Int) (count : Nat) : Option Nat :=
  let unit : Int := power - (count - 1 : Int)
  let grid := timesPower f (-unit)
  let below : Nat := grid.num / grid.den
  let inside (n : Nat) := i.holds (timesPower ⟨n, 1⟩ unit)
  let rest : Nat := 2 * (grid.num % grid.den)
  let preferBelow := rest < grid.den || (rest == grid.den && below % 2 == 0)
  match inside below, inside (below + 1) with
  | true, true => some (if preferBelow then below else below + 1)
  | true, false => some below
  | false, true => some (below + 1)
  | false, false => none

def shortest (mantissa : Nat) (exponent : Int) : Nat × Int :=
  let f := scaled mantissa exponent
  let i := interval mantissa exponent
  let power := magnitude f 640 310
  let found := (List.range 17).findSome? fun n => (onGrid f i power (n + 1)).map (·, n)
  match found with
  | some (n, count) => if n = tenTo (count + 1) then (1, power + 1) else (n, power)
  | none => (0, 0)

inductive Number where
  | nan
  | infinite (negative : Bool)
  | finite (negative : Bool) (mantissa : Nat) (exponent : Int)
  deriving DecidableEq, Repr

def Number.ofFloat (x : Float) : Number :=
  let bits := x.toBits.toNat
  let negative := bits / twoTo 63 = 1
  let field : Nat := bits / twoTo 52 % twoTo 11
  let low : Nat := bits % twoTo 52
  if field = 2047 then if low = 0 then .infinite negative else .nan
  else if field = 0 then .finite negative low (-1074)
  else .finite negative (twoTo 52 + low) ((field : Int) - 1075)

def significant (n : Nat) : List Char :=
  match ((Text.digits n).reverse.dropWhile (· == '0')).reverse with
  | [] => ['0']
  | cs => cs

def layout (cs : List Char) (power : Int) : List Char :=
  if power < -4 ∨ 16 ≤ power then
    -- An exponent has a sign and at least two digits.
    let tail := if cs.length ≤ 1 then [] else '.' :: cs.drop 1
    let exponent := Text.digits power.natAbs
    cs.take 1 ++ tail ++ ['e', if power < 0 then '-' else '+'] ++ (if exponent.length < 2 then '0' :: exponent else exponent)
  else if power < 0 then '0' :: '.' :: List.replicate (power.natAbs - 1) '0' ++ cs
  else
    let whole := power.toNat + 1
    let front := cs.take whole ++ List.replicate (whole - cs.length) '0'
    front ++ '.' :: (if cs.length ≤ whole then ['0'] else cs.drop whole)

def Number.render : Number → List Char
  | .nan => "NaN".toList
  | .infinite negative => if negative then "-Infinity".toList else "Infinity".toList
  | .finite negative 0 _ => if negative then "-0.0".toList else "0.0".toList
  | .finite negative mantissa exponent =>
    let (n, power) := shortest mantissa exponent
    let body := layout (significant n) power
    if negative then '-' :: body else body

def toFloat (negative : Bool) (n : Nat) (power : Int) : Float :=
  let size : Int := (Text.digits n).length
  let x :=
    if n = 0 ∨ power + size < -400 then 0.0
    else if 400 < power + size then 1.0 / 0.0
    else Float.ofScientific n (power < 0) power.natAbs
  if negative then -x else x

end TemplateLint.Decimal
