import Bootstrap.Template.Value
import Bootstrap.Text.Blank

/-!
# Trees of a template

A template is a list of statements over expressions. `Document.read?` reads them from tokens, `Document.render?` carries
them out.
-/

namespace Bootstrap.Template

inductive Operator where
  | or
  | and
  | add
  | subtract
  | concat
  | multiply
  | divide
  | quotient
  | remainder
  | power
deriving DecidableEq

inductive Comparison where
  | equal
  | differ
  | less
  | lessEqual
  | greater
  | greaterEqual
  | isIn
  | notIn
deriving DecidableEq

mutual

inductive Expr where
  | literal (v : Value)
  | variable (name : String)
  | list (elements : List Expr)
  | record (fields : List (Expr × Expr))
  | field (e : Expr) (name : String)
  | element (e key : Expr)
  | slice (e start stop step : Expr)
  | call (callee : Expr) (arguments : List Argument)
  | filter (e : Expr) (name : String) (arguments : List Argument)
  | test (e : Expr) (name : String) (arguments : List Argument)
  | not (e : Expr)
  | negate (e : Expr)
  | binary (op : Operator) (a b : Expr)
  /-- Comparisons between neighbours, all of which have to hold. -/
  | compare (first : Expr) (rest : List (Comparison × Expr))
  | choose (condition yes no : Expr)
  /-- The text that was captured last. -/
  | captured

inductive Argument where
  | plain (e : Expr)
  | named (name : String) (e : Expr)
  /-- The elements of a list, each as an argument. -/
  | spread (e : Expr)
  /-- The fields of a record, each as an argument with a name. -/
  | spreadNamed (e : Expr)

end

/-- Whether an expression only looks up a value that is kept somewhere. -/
def Expr.isReference : Expr → Bool
  | .variable _ | .field .. | .element .. => true
  | _ => false

def Argument.isReference : Argument → Bool
  | .plain e | .named _ e => e.isReference
  | .spread _ | .spreadNamed _ => true

/-- What values can be assigned to. -/
inductive Target where
  | name (x : String)
  | field (e : Expr) (name : String)
  /-- Targets for the elements of a list, one for each. -/
  | all (targets : List Target)

/-- What a routine is called with: the last parameters may have defaults. -/
structure Parameters where
  names : List String := []
  defaults : List Expr := []

inductive Statement where
  | text (s : List Char)
  | output (e : Expr)
  | choose (condition : Expr) (yes no : List Statement)
  /-- A loop over the elements that satisfy a condition; `otherwise` is for none. -/
  | loop (target : Target) (elements : Expr) (condition : Option Expr) (recursive : Bool)
      (body otherwise : List Statement)
  /-- Names that are forgotten behind the statement. -/
  | scope (bindings : List (Target × Expr)) (body : List Statement)
  | assign (target : Target) (e : Expr)
  /-- Assigns the text of some statements, as an expression with it says. -/
  | capture (target : Target) (e : Expr) (body : List Statement)
  /-- Prints the text of some statements, as an expression with it says. -/
  | transform (e : Expr) (body : List Statement)
  | escape (mode : Expr) (body : List Statement)
  | block (name : String) (body : List Statement)
  /-- Declares a routine, in whose body some names are mentioned. -/
  | declare (name : String) (parameters : Parameters) (mentioned : List String) (body : List Statement)
  /-- Prints what a call comes to that is given a routine besides its arguments. -/
  | callWith (callee : Expr) (arguments : List Argument) (parameters : Parameters) (mentioned : List String)
      (body : List Statement)
  | perform (e : Expr)
  /-- Prints another template; one that is missing may be passed over. -/
  | include (name : Expr) (ignoresMissing : Bool)
  /-- Needs another template for all that follows. -/
  | require (name : Expr)
  /-- Stands for what only another template could say. -/
  | refuse

/-- Whether a statement is a text of blank characters. -/
def Statement.isBlankText : Statement → Bool
  | .text s => s.all Text.isBlank
  | _ => false

/-- A template as it was read. -/
structure Document where
  body : List Statement
  /-- All blocks in it, by their names. -/
  blocks : List (String × List Statement)
  /-- Nothing in it is nested deeper than this. -/
  size : Nat

end Bootstrap.Template
