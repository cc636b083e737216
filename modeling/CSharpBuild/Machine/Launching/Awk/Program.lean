/-
Programs that take records apart: rules that say what to do with which record, and functions. A
variable holds a number or a text; an array has elements, each under a text.
-/
import CSharpBuild.Machine.Regex
import Std.Data.HashMap.Basic

namespace CSharpBuild.Machine.Launching.Awk

/-- The name of a variable or of an array; within a function that of a parameter is its number. -/
inductive Name where
  | shared (name : String)
  | parameter (number : Nat)
  deriving Repr, DecidableEq

/-- What is computed of two numbers. -/
inductive Operator where
  | plus
  | minus
  | times
  | over
  | rest
  | power
  deriving Repr, DecidableEq

/-- How two values are compared. -/
inductive Comparison where
  | equal
  | unequal
  | less
  | atMost
  | greater
  | atLeast
  deriving Repr, DecidableEq

/-- Functions that are always there, apart from those that have a form of their own. -/
inductive Builtin where
  | length
  | substring
  | index
  | find
  | lower
  | upper
  | format
  | integer
  | root
  | exponential
  | logarithm
  | sine
  | cosine
  | arcTangent
  | random
  | seed
  | close
  | flush
  | system
  | time
  deriving Repr, DecidableEq

/-- An expression. -/
inductive Expr where
  | number (value : Float)
  | text (text : String)
  /-- Whether the record matches. -/
  | pattern (regex : Regex)
  | named (name : Name)
  | field (number : Expr)
  | element (array : Name) (index : List Expr)
  | assign (target : Expr) (operator : Option Operator) (value : Expr)
  /-- Count a variable up or down, before its value is taken or after that. -/
  | step (target : Expr) (up before : Bool)
  | negative (value : Expr)
  | positive (value : Expr)
  | opposite (value : Expr)
  | compute (operator : Operator) (first second : Expr)
  | compare (comparison : Comparison) (first second : Expr)
  | join (first second : Expr)
  | matching (expected : Bool) (text pattern : Expr)
  | both (first second : Expr)
  | either (first second : Expr)
  | choose (condition first second : Expr)
  | isIn (index : List Expr) (array : Name)
  | call (function : String) (arguments : List Expr)
  | builtin (function : Builtin) (arguments : List Expr)
  | split (text : Expr) (array : Name) (separator : Option Expr)
  /-- Replace matches, all of them or the first. -/
  | replace (all : Bool) (pattern replacement : Expr) (target : Option Expr)
  /-- Get a record of the input. -/
  | next (target : Option Expr)
  /-- Get a record of what a file holds or a command writes. -/
  | nextOf (isCommand : Bool) (source : Expr) (target : Option Expr)
  deriving Inhabited

/-- Where output goes. -/
inductive Direction where
  | file
  | append
  | command
  deriving Repr, DecidableEq

/-- A statement. -/
inductive Statement where
  | nothing
  | value (value : Expr)
  | print (values : List Expr) (target : Option (Direction × Expr))
  | format (values : List Expr) (target : Option (Direction × Expr))
  | block (statements : List Statement)
  | choice (condition : Expr) (first : Statement) (second : Option Statement)
  | repeated (condition : Expr) (body : Statement)
  | repeatedAfter (body : Statement) (condition : Expr)
  | counted (start condition step : Option Expr) (body : Statement)
  | forEach (name : Name) (array : Name) (body : Statement)
  | leave
  | again
  | nextRecord
  | nextFile
  | exit (status : Option Expr)
  | give (value : Option Expr)
  | delete (array : Name) (index : List Expr)
  | deleteAll (array : Name)
  deriving Inhabited

/-- When a rule applies. -/
inductive Condition where
  | always
  | holds (condition : Expr)
  /-- From a record for which the first holds up to one for which the second does. -/
  | range (first last : Expr)

/-- A rule for records; without a statement it prints them. -/
structure Rule where
  condition : Condition
  statement : Option Statement

/-- A function. -/
structure Function where
  /-- Which parameters are arrays. -/
  arrays : List Bool
  body : Statement

/-- A program. -/
structure Program where
  first : List Statement
  rules : List Rule
  last : List Statement
  functions : Std.HashMap String Function

end CSharpBuild.Machine.Launching.Awk
