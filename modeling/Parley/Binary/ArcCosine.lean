import Parley.Binary.Value

/-!
# The arc cosine in single precision

`Binary32.acos` is the arc cosine computed entirely in single precision arithmetic, step by
step, so that every intermediate result is rounded to a single. Its value is therefore a fixed
function of the input bits, the one the classic single precision routine gives.

For `|x| < 1/2` the angle is `π/2 - asin x`; above, it is found through the half angle:
`acos x = 2 asin √((1 - x) / 2)` for `x > 1/2` and `π - 2 asin √((1 + x) / 2)` for `x < -1/2`.
In each case `asin t = t + t * R(t²)`, with `R` a fixed rational function, and `π/2` is carried as
a high and a low part. For `x > 1/2` the square root is split into its upper twelve bits and a
correction, so that `2 (df + w)` keeps the bits lost when squaring. Outside `[-1, 1]` the
result is a NaN.
-/

namespace Parley

namespace Binary32

namespace ArcCosine

def one : Binary32 := ⟨0x3f800000⟩
def half : Binary32 := ⟨0x3f000000⟩
def two : Binary32 := ⟨0x40000000⟩
/-- `π` rounded down to a single. -/
def pi : Binary32 := ⟨0x40490fda⟩
/-- The high part of `π/2`. -/
def halfPiHigh : Binary32 := ⟨0x3fc90fda⟩
/-- The low part of `π/2`: `π/2 - halfPiHigh`, rounded. -/
def halfPiLow : Binary32 := ⟨0x33a22168⟩

/-- The coefficients of the numerator of `R`, lowest first, each after a factor `z`. -/
def p0 : Binary32 := ⟨0x3e2aaaab⟩
def p1 : Binary32 := ⟨0xbea6b090⟩
def p2 : Binary32 := ⟨0x3e4e0aa8⟩
def p3 : Binary32 := ⟨0xbd241146⟩
def p4 : Binary32 := ⟨0x3a4f7f04⟩
def p5 : Binary32 := ⟨0x3811ef08⟩

/-- The coefficients of the denominator of `R` after its constant `1`, lowest first. -/
def q1 : Binary32 := ⟨0xc019d139⟩
def q2 : Binary32 := ⟨0x4001572d⟩
def q3 : Binary32 := ⟨0xbf303361⟩
def q4 : Binary32 := ⟨0x3d9dc62e⟩

/-- `R(z)`, where `asin t = t + t * R(t²)`, evaluated by Horner's rule. -/
def ratio (z : Binary32) : Binary32 :=
  let p := z * (p0 + z * (p1 + z * (p2 + z * (p3 + z * (p4 + z * p5)))))
  let q := one + z * (q1 + z * (q2 + z * (q3 + z * q4)))
  p / q

end ArcCosine

open ArcCosine

/-- The arc cosine in radians. -/
def acos (x : Binary32) : Binary32 :=
  let magnitude := x.bits &&& 0x7fffffff
  let negative := x.bits &&& 0x80000000 != 0
  if magnitude == 0x3f800000 then
    if negative then pi + two * halfPiLow else zero
  else if 0x3f800000 < magnitude then (x - x) / (x - x)
  else if magnitude < 0x3f000000 then
    if magnitude ≤ 0x23000000 then halfPiHigh + halfPiLow
    else halfPiHigh - (x - (halfPiLow - x * ratio (x * x)))
  else if negative then
    let z := (one + x) * half
    let s := z.sqrt
    let w := ratio z * s - halfPiLow
    pi - two * (s + w)
  else
    let z := (one - x) * half
    let s := z.sqrt
    let df : Binary32 := ⟨s.bits &&& 0xfffff000⟩
    let c := (z - df * df) / (s + df)
    let w := ratio z * s + c
    two * (df + w)

end Binary32

end Parley
