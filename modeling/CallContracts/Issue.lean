import CallContracts.Value.Describe

/-!
# Issues

What a check found wrong: where the offending part stands, what was expected there and what was
received. A failure has at least one issue.
-/

namespace CallContracts

/-- The side of a call that is checked. -/
inductive Phase where
  | arguments
  | result
  deriving DecidableEq

namespace Phase

def text : Phase → String
  | .arguments => "arguments"
  | .result => "return value"

/-- The single word that stands for the side in data. -/
def word : Phase → String
  | .arguments => "arguments"
  | .result => "return"

end Phase

/-- The place of a part: the side of the call, and indices that lead from it to the part. The first
index of an argument is the position of its parameter. -/
structure IssuePath where
  phase : Phase
  indices : List Nat
  deriving DecidableEq

namespace IssuePath

def arguments : IssuePath :=
  ⟨.arguments, []⟩

def result : IssuePath :=
  ⟨.result, []⟩

def push (path : IssuePath) (index : Nat) : IssuePath :=
  ⟨path.phase, path.indices ++ [index]⟩

/-- The position of the parameter that an argument place belongs to. -/
def position? (path : IssuePath) : Option Nat :=
  match path.phase with
  | .arguments => path.indices.head?
  | .result => none

def bracketed (indices : List Nat) : String :=
  String.join (indices.map fun index => "[" ++ toString index ++ "]")

def text : IssuePath → String
  | ⟨.arguments, []⟩ => "arguments"
  | ⟨.arguments, position :: indices⟩ => "argument " ++ toString position ++ bracketed indices
  | ⟨.result, indices⟩ => "return value" ++ bracketed indices

end IssuePath

/-- One thing that a check found wrong. -/
structure Issue where
  path : IssuePath
  expected : String
  received : String
  deriving DecidableEq

namespace Issue

/-- A value that is not what was expected at its place. -/
def mismatch (path : IssuePath) (expected : String) (value : Value) : Issue :=
  ⟨path, expected, value.describe⟩

def text (issue : Issue) : String :=
  issue.path.text ++ ": expected " ++ issue.expected ++ ", received " ++ issue.received

end Issue

/-- Why one side of a call was rejected. There is always a first issue. -/
structure ValidationFailure where
  phase : Phase
  first : Issue
  others : List Issue
  deriving DecidableEq

namespace ValidationFailure

/-- All issues in the order in which they were found. -/
def issues (failure : ValidationFailure) : List Issue :=
  failure.first :: failure.others

/-- The positions of the parameters at fault, in the order of the issues. -/
def positions (failure : ValidationFailure) : List Nat :=
  failure.issues.filterMap fun issue => issue.path.position?

def text (failure : ValidationFailure) : String :=
  "Invalid " ++ failure.phase.text ++ ": " ++ "; ".intercalate (failure.issues.map Issue.text)

end ValidationFailure

end CallContracts
