import Mathlib.Data.Rat.Floor

/-! # Numbers of JavaScript -/

namespace Kanaka.Backend

/-- A double, up to the sign of zero. -/
inductive JsNumber where
  | finite (value : Rat)
  | infinite (negative : Bool)
  | nan
deriving DecidableEq

/-- A double that is no fraction. -/
inductive JsInteger where
  | finite (value : Int)
  | infinite (negative : Bool)
  | nan
deriving DecidableEq

namespace JsNumber

def ofNat (n : Nat) : JsNumber := .finite n

/-- The nearest integer, the even one of two. -/
def nearestEven (x : Rat) : Int :=
  let rest := x - ⌊x⌋
  if rest < 1 / 2 then ⌊x⌋
  else if 1 / 2 < rest then ⌊x⌋ + 1
  else if ⌊x⌋ % 2 = 0 then ⌊x⌋
  else ⌊x⌋ + 1

/-- The power of two that the last bit of a positive number stands for. -/
def lastBit (x : Rat) : Int :=
  let e := (Nat.log2 x.num.toNat : Int) - Nat.log2 x.den
  max ((if x < 2 ^ e then e - 1 else e) - 52) (-1074)

def round (x : Rat) : JsNumber :=
  if x = 0 then .finite 0
  else
    let unit : Rat := 2 ^ lastBit |x|
    let rounded := nearestEven (x / unit) * unit
    if 2 ^ 1024 ≤ |rounded| then .infinite (decide (x < 0)) else .finite rounded

def negative : JsNumber → Bool
  | .finite value => value < 0
  | .infinite negative => negative
  | .nan => false

def mul : JsNumber → JsNumber → JsNumber
  | .finite x, .finite y => round (x * y)
  | .nan, _ | _, .nan => .nan
  | x, y =>
      if x = .finite 0 ∨ y = .finite 0 then .nan else .infinite (x.negative != y.negative)

def add : JsNumber → JsNumber → JsNumber
  | .finite x, .finite y => round (x + y)
  | .nan, _ | _, .nan => .nan
  | .infinite x, .infinite y => if x = y then .infinite x else .nan
  | .infinite x, .finite _ | .finite _, .infinite x => .infinite x

/-- `x / n`, of a positive `n`. -/
def divNat (x : JsNumber) (n : Nat) : JsNumber :=
  match x with
  | .finite x => round (x / n)
  | x => x

structure Arithmetic where
  add : JsNumber → JsNumber → JsNumber
  divNat : JsNumber → Nat → JsNumber

def Arithmetic.doubles : Arithmetic := ⟨JsNumber.add, JsNumber.divNat⟩

def Arithmetic.exact : Arithmetic where
  add
    | .finite x, .finite y => .finite (x + y)
    | x, y => x.add y
  divNat
    | .finite x, n => .finite (x / n)
    | x, n => x.divNat n

def powTwo (exponent : Nat) : JsNumber := round (2 ^ exponent)

def min : JsNumber → JsNumber → JsNumber
  | .nan, _ | _, .nan => .nan
  | .infinite true, _ | _, .infinite true => .infinite true
  | .infinite false, y => y
  | x, .infinite false => x
  | .finite x, .finite y => .finite (if x ≤ y then x else y)

def lt : JsNumber → JsNumber → Bool
  | .finite x, .finite y => x < y
  | .nan, _ | _, .nan => false
  | .finite _, .infinite negative => !negative
  | .infinite negative, .finite _ => negative
  | .infinite x, .infinite y => x && !y

def ceil : JsNumber → JsInteger
  | .finite value => .finite ⌈value⌉
  | .infinite negative => .infinite negative
  | .nan => .nan

def truthy : JsNumber → Bool
  | .finite value => value ≠ 0
  | .infinite _ => true
  | .nan => false

def or (value : Option JsNumber) (other : JsNumber) : JsNumber :=
  match value with
  | some value => if value.truthy then value else other
  | none => other

end JsNumber

namespace JsInteger

def toNumber : JsInteger → JsNumber
  | .finite value => .finite value
  | .infinite negative => .infinite negative
  | .nan => .nan

/-- The multiple of a power of ten that is read back as the number, the nearer one of two. -/
def multiple (n power : Nat) : Option Nat :=
  let lower := n / power
  let reads (digits : Nat) : Bool := JsNumber.round (digits * power : Nat) = .finite n
  if reads lower ∧ (¬ reads (lower + 1) ∨ n - lower * power ≤ (lower + 1) * power - n) then some lower
  else if reads (lower + 1) then some (lower + 1)
  else none

/-- The shortest digits that are read back as the number, and how many zeros follow. -/
def shortest (n : Nat) : Nat → Nat × Nat
  | 0 => (n, 0)
  | zeros + 1 =>
      match multiple n (10 ^ (zeros + 1)) with
      | some digits => (digits, zeros + 1)
      | none => shortest n zeros

/-- More than 21 digits are written with an exponent. -/
def decimal (n : Nat) : String :=
  let (digits, zeros) := shortest n (toString n).length
  let text := toString digits
  if text.length + zeros ≤ 21 then text ++ String.ofList (List.replicate zeros '0')
  else
    let fraction := String.ofList (text.toList.drop 1)
    String.ofList (text.toList.take 1) ++ (if fraction = "" then "" else "." ++ fraction) ++ "e+" ++
      toString (text.length + zeros - 1)

def toString : JsInteger → String
  | .finite value => if value < 0 then "-" ++ decimal value.natAbs else
      if value = 0 then "0" else decimal value.natAbs
  | .infinite negative => if negative then "-Infinity" else "Infinity"
  | .nan => "NaN"

example : (JsNumber.round (2 ^ 60)).ceil.toString = "1152921504606847000" := by decide +kernel

example : ((JsNumber.round 10).mul (JsNumber.round (11 / 10))).ceil.toString = "11" := by decide +kernel

example : (JsNumber.round (15 * 10 ^ 20)).ceil.toString = "1.5e+21" := by decide +kernel

end JsInteger

end Kanaka.Backend
