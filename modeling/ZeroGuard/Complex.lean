import ZeroGuard.Binary.Arithmetic
import ZeroGuard.Binary.Text

namespace ZeroGuard

structure Complex where
  re : Double
  im : Double
deriving DecidableEq, Repr

namespace Complex

def ofDouble (x : Double) : Complex :=
  ⟨x, Binary.zero false⟩

/-- The same number with both parts rounded to singles. -/
def toSingle (z : Complex) : Complex :=
  ⟨(z.re.convert : Single).convert, (z.im.convert : Single).convert⟩

def isZero (z : Complex) : Bool :=
  z.re.isZero && z.im.isZero

/-- The quotient, scaled by the larger part of the divisor so that no intermediate square can
overflow. The divisor is not zero; a NaN in it makes both parts NaN. -/
def div (a b : Complex) : Complex :=
  if b.re.isNaN || b.im.isNaN then ⟨.nan, .nan⟩
  else if !Binary.lt b.re.abs b.im.abs then
    let ratio := b.im.div b.re
    let scale := b.re.add (b.im.mul ratio)
    ⟨(a.re.add (a.im.mul ratio)).div scale, (a.im.sub (a.re.mul ratio)).div scale⟩
  else
    let ratio := b.re.div b.im
    let scale := (b.re.mul ratio).add b.im
    ⟨((a.re.mul ratio).add a.im).div scale, ((a.im.mul ratio).sub a.re).div scale⟩

/-- The imaginary part with its sign always shown. -/
def signedPart (x : Double) : String :=
  if x.isNegative then x.text .part else "+" ++ x.text .part

/-- A real part that is positive zero is left out, and the parentheses with it. -/
def text (z : Complex) : String :=
  if z.re.isZero && !z.re.isNegative then z.im.text .part ++ "j"
  else "(" ++ z.re.text .part ++ signedPart z.im ++ "j)"

end Complex

end ZeroGuard
