/-
# Numbers from values

A scalar is read from a truth value, a whole number, a scalar or a text that spells one.  An
integer is read in the same way, losing the fraction of a scalar; a text must spell a whole
number for that.  What is computed from a scalar later may fail as well.
-/
import Diorama.Value

namespace Diorama

namespace Value

variable {α : Type} [Scalar α]

/-- The scalar nearest to an integer; one out of range is a fault. -/
def scalarOfInt (n : Int) : Except Fault α :=
  match Scalar.ofInt? n with
  | some x => .ok x
  | none => .error .tooLarge

/-- The scalar that a value stands for. -/
def toScalar : Value α → Except Fault α
  | .bool b => .ok (Scalar.ofInt (ofBool b))
  | .int n => scalarOfInt n
  | .num x => .ok x
  | .text s =>
    match (Decimal.Numeral.ofText? s).bind Scalar.ofNumeral? with
    | some x => .ok x
    | none => .error .notANumber
  | _ => .error .wrongKind

/-- The value's scalar, or none where the value is not a number at all.  A number out of range
is still a fault. -/
def toScalar? (v : Value α) : Except Fault (Option α) :=
  match v.toScalar with
  | .ok x => .ok (some x)
  | .error .tooLarge => .error .tooLarge
  | .error _ => .ok none

/-- The integer that an integral conversion of a scalar gives; infinities are too large, and
what is not a number has none. -/
def wholeOf (convert : α → Option Int) (x : α) : Except Fault Int :=
  match convert x with
  | some n => .ok n
  | none => .error (if Scalar.isUndefined x then .notANumber else .tooLarge)

/-- The integer that a value stands for. -/
def toWhole : Value α → Except Fault Int
  | .bool b => .ok (ofBool b)
  | .int n => .ok n
  | .num x => wholeOf Scalar.trunc? x
  | .text s =>
    match Decimal.Numeral.wholeOfText? s with
    | some n => .ok n
    | none => .error .notANumber
  | _ => .error .wrongKind

end Value

/-- The whole part of a scalar. -/
def Scalar.whole {α : Type} [Scalar α] (x : α) : Except Fault Int := Value.wholeOf Scalar.trunc? x

/-- The nearest integer to a scalar. -/
def Scalar.nearest {α : Type} [Scalar α] (x : α) : Except Fault Int :=
  Value.wholeOf Scalar.round? x

/-- The sine of a scalar; an infinity has none. -/
def Scalar.sine {α : Type} [Scalar α] (x : α) : Except Fault α :=
  if isFinite x || isUndefined x then .ok (sin x) else .error .notANumber

end Diorama
