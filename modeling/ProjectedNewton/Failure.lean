import ProjectedNewton.Run
import ProjectedNewton.Decimal.General
import ProjectedNewton.Tensor.Broadcast

/-!
# Failures

Why a request to a solver fails, and how this is put into words.
-/

namespace ProjectedNewton

open Decimal

/-- The array arguments of a solve, in the order in which they are checked. -/
inductive Input where
  | hessian
  | linear
  | lower
  | upper
  | start
  deriving DecidableEq

def Input.name : Input → String
  | hessian => "H"
  | linear => "q"
  | lower => "lb"
  | upper => "ub"
  | start => "x_init"

/-- The configuration values of a solver, in the order in which they are checked. -/
inductive Setting where
  | dimension
  | maxIterations
  | acceptStepThreshold
  | gradThreshold
  | regularization
  deriving DecidableEq

namespace Setting

def all : List Setting :=
  [dimension, maxIterations, acceptStepThreshold, gradThreshold, regularization]

def name : Setting → String
  | dimension => "nx"
  | maxIterations => "max_iterations"
  | acceptStepThreshold => "accept_step_threshold"
  | gradThreshold => "grad_threshold"
  | regularization => "regularization"

/-- The values that a setting may have. -/
def range : Setting → String
  | dimension => "a positive integer"
  | maxIterations => "a non-negative integer"
  | acceptStepThreshold => "in (0, 1)"
  | gradThreshold => ">= 0"
  | regularization => ">= 0"

/-- The values that a setting should have, in words. -/
def rangeInWords : Setting → String
  | acceptStepThreshold => "between 0 and 1"
  | gradThreshold => "positive"
  | regularization => "positive"
  | s => s.range

/-- The setting with the given name. -/
def ofName? (name : String) : Option Setting := all.find? fun s => s.name == name

end Setting

/-! ## Causes -/

/-- Why an argument is refused. -/
inductive Rejection where
  /-- An array does not have the shape it should have. -/
  | wrongShape (input : Input) (shape : List Nat)
  /-- A configuration value is of the wrong kind or out of range. -/
  | outOfRange (setting : Setting)
  deriving DecidableEq

/-- Why a request fails. -/
inductive Failure (α : Type) where
  | rejected (cause : Rejection)
  | notPositiveDefinite (error : NotPositiveDefinite α)
  /-- A system with the factor of a matrix is taken to be singular. -/
  | singular
  | unreadable (error : ReadError)
  /-- Arrays whose shapes have not been checked do not fit together. -/
  | shape (error : ShapeError)
  /-- There is no working memory for so many coordinates. -/
  | tooManyCoordinates
  /-- A configuration value was given under a name that no setting has. -/
  | unknownOption
  /-- What can only be read was to be changed. -/
  | readOnly
  /-- A solve was to start from the solution of a request that returned none. -/
  | noSolution

/-- The failure of a request because of a matrix that is not factorized. -/
def FactorizationError.failure {α : Type} : FactorizationError α → Failure α
  | notPositiveDefinite error => .notPositiveDefinite error
  | singular => .singular

/-- The classes that an error may belong to, from the reader's point of view. -/
inductive ErrorFamily where
  /-- Errors of the solver itself. -/
  | solver
  /-- Errors about a value. -/
  | value
  /-- Errors of linear algebra. -/
  | linearAlgebra
  deriving DecidableEq

/-! ## Words -/

/-- A refused argument as it is reported. -/
structure InvalidArgument where
  argument : String
  expected : String
  /-- The wording, if it differs from the one for wrong dimensions. -/
  wording? : Option String := none

namespace InvalidArgument

def message (e : InvalidArgument) : String :=
  e.wording?.getD
    ("Invalid argument: " ++ e.argument ++ " has wrong dimension (it should be " ++
      e.expected ++ ")")

def families : List ErrorFamily := [.solver, .value]

end InvalidArgument

/-- The report of a refused argument. -/
def Rejection.report : Rejection → InvalidArgument
  | wrongShape input shape => ⟨input.name, ",".intercalate (shape.map toString), none⟩
  | outOfRange setting =>
    ⟨setting.name, setting.range,
      some ("Invalid argument: " ++ setting.name ++ " should be " ++ setting.rangeInWords)⟩

namespace NotPositiveDefinite

/-- The regularization in six significant digits, without a minimal width. -/
def regularizationField : GeneralField := {}

def message (e : NotPositiveDefinite Float) : String :=
  let size := toString e.size
  "backward_error: free Hessian (" ++ size ++ " x " ++ size ++ ", regularization " ++
    regularizationField.render e.regularization ++ ") is not positive definite"

def families : List ErrorFamily := [.solver, .value, .linearAlgebra]

end NotPositiveDefinite

end ProjectedNewton
