/-! # Decimal numbers

A number with a fraction or an exponent is kept as its digits and the power of ten they are scaled by.
It stands for a binary floating-point number, which is written with the fewest digits that tell it from
its neighbours.
-/

namespace ScriptBundle

/-- The number `significand * 10 ^ exponent`, or its negative. -/
structure Decimal where
  negative : Bool
  significand : Nat
  exponent : Int
  deriving DecidableEq, Repr, Inhabited

namespace Decimal

def greatestPower : Nat := 308

def powerOfTen (n : Nat) : Float := Float.ofScientific 1 false n

/-- Divides by powers of ten, the greatest ones first. The number of steps is bounded, since whatever is
divided often enough is zero. -/
def scaleDown : Nat → Float → Nat → Float
  | 0, x, _ => x
  | fuel + 1, x, n =>
    if n ≤ greatestPower then x / powerOfTen n
    else if x == 0 then x
    else scaleDown fuel (x / powerOfTen greatestPower) (n - greatestPower)

/-- The absolute value as a floating-point number, rounded at each scaling step; `none` if it is out of
range. -/
def magnitude? (d : Decimal) : Option Float :=
  let x := (UInt64.ofNat d.significand).toFloat
  match d.exponent with
  | .ofNat n =>
    if n ≤ greatestPower then
      let y := x * powerOfTen n
      if y.isInf then none else some y
    else if x == 0 then some x
    else none
  | .negSucc n => some (scaleDown 4 x (n + 1))

/-- A positive binary number `mantissa * 2 ^ exponent`, with the mark of the least mantissa of its
exponent, whose lower neighbour is nearer. -/
structure Binary where
  mantissa : Nat
  exponent : Int
  least : Bool
  deriving DecidableEq, Repr

def Binary.ofFloat (x : Float) : Binary :=
  let bits := x.toBits.toNat
  let fraction := bits % Nat.pow 2 52
  let biased := bits / Nat.pow 2 52 % Nat.pow 2 11
  if biased = 0 then ⟨fraction, -1074, false⟩
  else ⟨Nat.pow 2 52 + fraction, Int.ofNat biased - 1075, fraction == 0 && 1 < biased⟩

structure Ratio where
  num : Nat
  den : Nat

namespace Ratio

def scaled (n : Nat) (e : Int) : Ratio :=
  match e with
  | .ofNat k => ⟨n * Nat.pow 2 k, 1⟩
  | .negSucc k => ⟨n, Nat.pow 2 (k + 1)⟩

def perTen (r : Ratio) (k : Int) : Ratio :=
  match k with
  | .ofNat k => ⟨r.num, r.den * Nat.pow 10 k⟩
  | .negSucc k => ⟨r.num * Nat.pow 10 (k + 1), r.den⟩

def le (r : Ratio) (n : Nat) : Bool := r.num ≤ n * r.den

def lt (r : Ratio) (n : Nat) : Bool := r.num < n * r.den

/-- The number of digits before the point, less the number of zeros behind it if there are none. -/
def digitCount (r : Ratio) : Int :=
  let guess : Int := (Nat.toDigits 10 r.num).length - (Nat.toDigits 10 r.den).length
  if (r.perTen guess).lt 1 then guess else guess + 1

end Ratio

/-- A decimal of `n` digits that reads back as the binary number, the nearest one if there are two. -/
def withDigits? (b : Binary) (n : Nat) : Option (Nat × Int) :=
  let value := Ratio.scaled (4 * b.mantissa) (b.exponent - 2)
  let low := Ratio.scaled (4 * b.mantissa - (if b.least then 1 else 2)) (b.exponent - 2)
  let high := Ratio.scaled (4 * b.mantissa + 2) (b.exponent - 2)
  let k := value.digitCount - n
  let value := value.perTen k
  let low := low.perTen k
  let high := high.perTen k
  let even := b.mantissa % 2 == 0
  let inside (d : Nat) : Bool :=
    if even then low.le d && !high.lt d else low.lt d && !high.le d
  let down := value.num / value.den
  let up := down + 1
  match inside down, inside up with
  | true, true =>
    let below := value.num - down * value.den
    let above := up * value.den - value.num
    if below < above || (below == above && down % 2 == 0) then some (down, k) else some (up, k)
  | true, false => some (down, k)
  | false, true => some (up, k)
  | false, false => none

def stripZeros : Nat → Nat × Int → Nat × Int
  | 0, d => d
  | fuel + 1, (n, k) => if n % 10 = 0 && n != 0 then stripZeros fuel (n / 10, k + 1) else (n, k)

/-- The fewest digits that read back as the number, and their power of ten. -/
def shortest (x : Float) : Nat × Int :=
  let b := Binary.ofFloat x
  stripZeros 20 (((List.range 17).findSome? fun n => withDigits? b (n + 1)).getD (0, 0))

/-- The text of digits and a power of ten: positional where the point falls within the first sixteen
places or not more than five zeros come first, with an exponent elsewhere. -/
def layout (digits : Nat) (k : Int) : String :=
  let ds := Nat.toDigits 10 digits
  let len : Int := ds.length
  let point := len + k
  let zeros (n : Int) := List.replicate n.toNat '0'
  if 0 ≤ k && point ≤ 16 then String.ofList (ds ++ zeros k) ++ ".0"
  else if 0 < point && point ≤ 16 then
    String.ofList (ds.take point.toNat) ++ "." ++ String.ofList (ds.drop point.toNat)
  else if -5 < point && point ≤ 0 then "0." ++ String.ofList (zeros (-point) ++ ds)
  else
    let mantissa := match ds with
      | [d] => String.ofList [d]
      | d :: rest => String.ofList (d :: '.' :: rest)
      | [] => "0"
    mantissa ++ "e" ++ toString (point - 1)

def text (d : Decimal) : String :=
  let x := d.magnitude?.getD 0
  let body := if x == 0 then "0.0" else
    let (digits, k) := shortest x
    layout digits k
  if d.negative then "-" ++ body else body

end Decimal

end ScriptBundle
