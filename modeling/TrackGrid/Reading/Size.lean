import TrackGrid.Reading.Error
import TrackGrid.Reading.Number
import TrackGrid.Text.Blank
import TrackGrid.Text.Pieces

/-! # Reading sizes and weights

All texts are in lower case here, without blanks at their ends.
-/

namespace TrackGrid.Reading

open Text

/-! ## Terms -/

/-- A size without bounds, or one part of a size with bounds. -/
inductive Term where
  | constant (length : Length)
  | component (basis : Basis)

/-- A number with a unit right behind it. The number has no sign, and digits on both sides of its
point if it has one. -/
def readLength? (axis : Axis) (token : List Char) : Option Length :=
  match splitDigits token with
  | ([], _) => none
  | (whole, '.' :: rest) =>
    match splitDigits rest with
    | ([], _) => none
    | (fraction, suffix) =>
      (LengthUnit.ofLetters? axis suffix).map fun unit => ⟨ofDigits whole fraction 0, unit⟩
  | (whole, suffix) =>
    (LengthUnit.ofLetters? axis suffix).map fun unit => ⟨ofDigits whole [] 0, unit⟩

def readTerm (axis : Axis) (token : List Char) : Except ReadError Term :=
  match Basis.ofLetters? token with
  | some basis => .ok (.component basis)
  | none =>
    match readLength? axis token with
    | some length => .ok (.constant length)
    | none => .error (.invalidSize (String.ofList token))

/-! ## Sizes -/

/-- `[lower;basis]`, `[basis;upper]` or `[lower;basis;upper]`. -/
def readBracketed (axis : Axis) (token inner : List Char) : Except ReadError Size := do
  match ← (split ';' inner).mapM fun part => readTerm axis (trim part) with
  | [.constant lower, .component basis] => return .bounded basis (.atLeast lower)
  | [.component basis, .constant upper] => return .bounded basis (.atMost upper)
  | [.constant lower, .component basis, .constant upper] =>
    return .bounded basis (.between lower upper)
  | _ => throw (.illegalBounds (String.ofList token))

/-- What a pair of a constant and a component size takes: the larger, which makes the constant a
lower bound, or the smaller, which makes it an upper bound. -/
inductive Choice where
  | larger
  | smaller

/-- The pair in `max(..)` or `min(..)`. -/
def splitChoice? : List Char → Option (Choice × List Char)
  | 'm' :: 'a' :: 'x' :: '(' :: rest => (dropLast? ')' rest).map fun inner => (.larger, inner)
  | 'm' :: 'i' :: 'n' :: '(' :: rest => (dropLast? ')' rest).map fun inner => (.smaller, inner)
  | _ => none

def Choice.bounds : Choice → Length → Bounds
  | larger, constant => .atLeast constant
  | smaller, constant => .atMost constant

def readChoice (axis : Axis) (token : List Char) (choice : Choice) (inner : List Char) :
    Except ReadError Size :=
  match splitFirst ';' inner with
  | none => .error (.illegalBounds (String.ofList token))
  | some (first, second) => do
    match ← readTerm axis (trim first), ← readTerm axis (trim second) with
    | .constant constant, .component basis
    | .component basis, .constant constant => return .bounded basis (choice.bounds constant)
    | .constant _, .constant _ => throw (.bothConstant (String.ofList token))
    | .component _, .component _ => throw (.bothComponent (String.ofList token))

def readSize (axis : Axis) (token : List Char) : Except ReadError Size :=
  match token with
  | '[' :: rest =>
    match dropLast? ']' rest with
    | some inner => readBracketed axis token inner
    | none => .error (.unbalanced (String.ofList token))
  | _ =>
    match splitChoice? token with
    | some (choice, inner) => readChoice axis token choice inner
    | none => do
      match ← readTerm axis token with
      | .constant length => return .constant length
      | .component basis => return .component basis

/-! ## Weights -/

/-- The words for weight one. -/
def growWords : List (List Char) := [['g', 'r', 'o', 'w'], ['g']]

/-- The words for no weight. -/
def noGrowWords : List (List Char) :=
  [['n', 'o', 'g', 'r', 'o', 'w'], ['n', 'o', 'n', 'e'], ['n']]

/-- What stands in the parentheses of `grow(..)` or `g(..)`; there is nothing behind them. -/
def splitWeight? (token : List Char) : Option (List Char) :=
  let rest := match token with
    | 'g' :: 'r' :: 'o' :: 'w' :: '(' :: rest => some rest
    | 'g' :: '(' :: rest => some rest
    | _ => none
  match rest.bind (splitFirst ')') with
  | some (argument, []) => some argument
  | _ => none

def readWeight (token : List Char) : Except ReadError Binary64 :=
  if token ∈ growWords then .ok .one
  else if token ∈ noGrowWords then .ok .zero
  else
    match splitWeight? token with
    | none => .error (.invalidResize (String.ofList token))
    | some argument =>
      match readDecimal? (trim argument) with
      | some weight => .ok weight
      | none => .error (.invalidNumber (String.ofList (trim argument)))

end TrackGrid.Reading
