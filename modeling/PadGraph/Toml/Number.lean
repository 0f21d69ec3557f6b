import PadGraph.Toml.Reader

/-!
# TOML numbers

Integers are signed 64-bit numbers; a decimal one has no leading zeros, and hexadecimal, octal and
binary ones have no sign. Single underscores may stand between digits. A floating-point number must
not be so large that it rounds to infinity.

* `Toml.integer` — reads an integer.
* `Toml.float` — reads a floating-point number.
* `Toml.roundsToInfinity` — whether a decimal number is too large for a double.
-/

namespace PadGraph

namespace Toml

/-- The digits at the front of a text behind a first one, without the single underscores between
them, and what stands behind them. -/
def moreDigits (isDigit : Char → Bool) : Text → Text × Text
  | [] => ([], [])
  | c :: rest =>
    if isDigit c then
      let read := moreDigits isDigit rest
      (c :: read.1, read.2)
    else if c = '_' then
      match rest with
      | [] => ([], [c])
      | d :: rest =>
        if isDigit d then
          let read := moreDigits isDigit rest
          (d :: read.1, read.2)
        else ([], c :: d :: rest)
    else ([], c :: rest)

/-- Reads at least one digit. -/
def digits (isDigit : Char → Bool) : Reader Text
  | [] => none
  | c :: rest =>
    if isDigit c then
      let read := moreDigits isDigit rest
      some (c :: read.1, read.2)
    else none

/-- The number that digits write in a base. -/
def ofDigits (base : Nat) (digits : Text) : Nat :=
  digits.foldl (fun value c => value * base + (Text.hexDigit? c).getD 0) 0

/-- Reads a sign if there is one, and tells whether it is a minus sign. -/
def sign : Text → Bool × Text
  | '+' :: rest => (false, rest)
  | '-' :: rest => (true, rest)
  | text => (false, text)

/-- Reads the digits of a whole number: a zero alone, or digits of which the first is no zero. -/
def wholeDigits : Reader Text
  | '0' :: rest => some (['0'], rest)
  | text => digits Char.isDigit text

/-! ### Integers -/

/-- The integer with a sign and a magnitude, if 64 bits hold it. -/
def signed? (negative : Bool) (magnitude : Nat) : Option Int64 :=
  if negative then
    if magnitude ≤ 1 <<< 63 then some (Int64.ofInt (-magnitude)) else none
  else if magnitude < 1 <<< 63 then some (Int64.ofNat magnitude) else none

/-- Reads the digits behind the mark of a base. -/
def based (base : Nat) (isDigit : Char → Bool) : Reader Int64 := fun text => do
  let (digits, rest) ← digits isDigit text
  let value ← signed? false (ofDigits base digits)
  return (value, rest)

/-- Reads a decimal integer. -/
def decimal : Reader Int64 := fun text => do
  let (negative, text) := sign text
  let (digits, rest) ← wholeDigits text
  let value ← signed? negative (ofDigits 10 digits)
  return (value, rest)

/-- Reads an integer. -/
def integer : Reader Int64
  | '0' :: 'x' :: rest => based 16 (fun c => (Text.hexDigit? c).isSome) rest
  | '0' :: 'o' :: rest => based 8 (fun c => '0' ≤ c && c ≤ '7') rest
  | '0' :: 'b' :: rest => based 2 (fun c => c == '0' || c == '1') rest
  | text => decimal text

/-! ### Floating-point numbers -/

/-- The least number that a double rounds to infinity: half a step above the largest double. -/
def infinityThreshold : Nat := (1 <<< 1024) - (1 <<< 970)

/-- Whether the number written by `digits`, times ten to the power `exponent`, is so large that a
double rounds it to infinity. Numbers far from the threshold are told by their count of digits. -/
def roundsToInfinity (digits : Text) (exponent : Int) : Bool :=
  let significant := digits.dropWhile (· == '0')
  let size : Int := significant.length + exponent
  if significant.isEmpty || size < 309 then false
  else if 309 < size then true
  else
    let value := ofDigits 10 significant
    infinityThreshold * Nat.pow 10 (-exponent).toNat ≤ value * Nat.pow 10 exponent.toNat

/-- Reads a fraction. -/
def fraction : Reader Text
  | '.' :: rest => digits Char.isDigit rest
  | _ => none

/-- Reads an exponent. -/
def exponent : Reader Int
  | c :: rest =>
    if c = 'e' ∨ c = 'E' then do
      let (negative, text) := sign rest
      let (digits, rest) ← digits Char.isDigit text
      let value : Int := ofDigits 10 digits
      return (if negative then -value else value, rest)
    else none
  | [] => none

/-- Reads a fraction, an exponent or both; one of them must be there. -/
def fractionOrExponent : Reader (Text × Int) := fun text =>
  match fraction text with
  | some (digits, rest) =>
    match exponent rest with
    | some (power, rest) => some ((digits, power), rest)
    | none => some ((digits, 0), rest)
  | none => (exponent text).map fun (power, rest) => (([], power), rest)

/-- Reads a number with a fraction or an exponent. -/
def finiteFloat : Reader Unit := fun text => do
  let (negative, text) := sign text
  let (whole, text) ← wholeDigits text
  let ((fraction, power), rest) ← fractionOrExponent text
  if !negative && roundsToInfinity (whole ++ fraction) (power - fraction.length) then none
  else some ((), rest)

/-- Reads an infinity, or the number that is none. -/
def specialFloat : Reader Unit := fun text =>
  let (_, text) := sign text
  match behindAll? ['i', 'n', 'f'] text with
  | some rest => some ((), rest)
  | none => (behindAll? ['n', 'a', 'n'] text).map ((), ·)

/-- Reads a floating-point number. -/
def float : Reader Unit := fun text =>
  match finiteFloat text with
  | some read => some read
  | none => specialFloat text

end Toml

end PadGraph
