import Chip8Console.Decimal.Shortest

/-!
# Doubles as text

`Decimal.Style` lists the decisions that a way of writing doubles has to take; `Decimal.text` writes a
double in a given style.  `Decimal.plain` is the style of messages: every digit is written out and no
exponent is ever used.
-/

namespace Chip8Console.Decimal

structure Style where
  tie : Tie
  /-- Whether a number whose first digit counts `10 ^ n` is written without an exponent. -/
  positional : Int → Bool
  /-- What follows the digits of a whole number. -/
  whole : String
  nan : String
  infinite : String

/-- Messages write numbers positionally, whole ones without a point. -/
def plain : Style where
  tie := .up
  positional := fun _ => true
  whole := ""
  nan := "NaN"
  infinite := "inf"

def zeros (n : Nat) : String :=
  String.ofList (List.replicate n '0')

/-- The digits with a point after the first `point` of them; zeros fill up what is missing. -/
def positionalText (style : Style) (digits : List Char) (point : Int) : String :=
  if point ≤ 0 then "0." ++ zeros (-point).toNat ++ String.ofList digits
  else
    let whole := point.toNat
    if digits.length ≤ whole then
      String.ofList digits ++ zeros (whole - digits.length) ++ style.whole
    else String.ofList (digits.take whole) ++ "." ++ String.ofList (digits.drop whole)

/-- One digit, a point if more follow, and a signed exponent. -/
def exponentText (digits : List Char) (exponent : Int) : String :=
  let fraction := digits.drop 1
  let mantissa :=
    String.ofList (digits.take 1) ++ if fraction.isEmpty then "" else "." ++ String.ofList fraction
  mantissa ++ "e" ++ (if exponent < 0 then "-" else "+") ++ toString exponent.natAbs

def Style.decimal (style : Style) (d : Decimal) : String :=
  let all := Nat.toDigits 10 d.coefficient
  let digits := (all.reverse.dropWhile (· == '0')).reverse
  let point := all.length + d.exponent
  if style.positional (point - 1) then positionalText style digits point
  else exponentText digits (point - 1)

/-- A double in the given style.  Zero keeps its sign; what is no number has none. -/
def text (style : Style) (x : Float) : String :=
  let sign (negative : Bool) := if negative then "-" else ""
  match Binary64.ofFloat x with
  | .nan => style.nan
  | .infinite negative => sign negative ++ style.infinite
  | .finite negative significand exponent =>
    sign negative ++
      if significand = 0 then "0" ++ style.whole
      else style.decimal (shortest style.tie significand exponent)

end Chip8Console.Decimal
