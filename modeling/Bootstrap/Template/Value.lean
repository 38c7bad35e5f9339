import Bootstrap.Decimal.Layout
import Bootstrap.Text.Concealed

/-!
# Values in templates

What a name in a template can stand for, how a value is printed, and whether it counts as true.

* `Value.display` is what is printed for a value, `Value.shown` how it looks inside a list.
-/

namespace Bootstrap.Template

/-- The functions that every template knows. -/
inductive Builtin where
  | range
  | dict
  | space
  | debug
deriving DecidableEq

def Builtin.name : Builtin → String
  | .range => "range"
  | .dict => "dict"
  | .space => "namespace"
  | .debug => "debug"

/-- How a function is shown: by its name behind those of the places where it is kept. -/
def Builtin.shownName (f : Builtin) : String := "minijinja::functions::builtins::" ++ f.name

/-- What kind of list a list is. All of them are gone through alike. -/
inductive ListForm where
  /-- One whose elements are there from the start. -/
  | given
  /-- One that is worked out from other values; it is no sequence to the test of that name. -/
  | computed
  /-- One that is worked out element by element, so that its length is not known in advance. -/
  | streamed
  /-- What some elements have in common, and the list of them; these two have names. -/
  | group
deriving DecidableEq

inductive Value where
  /-- The value of a name that nobody defined. -/
  | undefined
  | none
  | bool (b : Bool)
  | int (n : Int)
  | float (x : Float)
  /-- A text; a safe one is printed as it is even where markup is escaped. -/
  | text (s : List Char) (safe : Bool)
  | list (form : ListForm) (elements : List Value)
  /-- Fields in the order of their keys. Those of a record with a number may change while the template runs. -/
  | record (space : Option Nat) (fields : List (Value × Value))
  | function (f : Builtin)
  /-- A routine that the template declares, found by its number; what it tells about itself are its fields. -/
  | routine (id : Nat) (name : String) (parameters : List String) (takesCaller : Bool)
  /-- A turn of a loop, which is found by its number; what it tells about itself are its fields. The length of a loop is not
  always known in advance. -/
  | loop (id index : Nat) (length : Option Nat) (depth : Nat) (previous next : Value)

instance : Inhabited Value := ⟨.undefined⟩

namespace Value

/-- A text that is not safe. -/
def plain (s : List Char) : Value := .text s false

/-- The text of a string. -/
def ofString (s : String) : Value := .plain s.toList

/-- The value of one, if there is one. -/
def ofOption : Option Value → Value
  | some v => v
  | Option.none => .undefined

/-! ### Texts of values -/

/-- Numbers with a point are printed without exponents. -/
def printedNumbers : Decimal.Layout := .positional

/-- Inside lists very small and very large numbers have exponents. -/
def shownNumbers : Decimal.Layout := .general

/-- A hexadecimal number without zeros in front. -/
def hexText (n : Nat) : List Char := Nat.toDigits 16 n

/-- One character of a text inside a list. -/
def escapeChar (c : Char) : List Char :=
  if c = '"' then ['\\', '"']
  else if c = '\\' then ['\\', '\\']
  else if c = '\n' then ['\\', 'n']
  else if c = '\r' then ['\\', 'r']
  else if c = '\t' then ['\\', 't']
  else if c.toNat = 0 then ['\\', '0']
  else if Text.isConcealed c then ['\\', 'u', '\x7b'] ++ hexText c.toNat ++ ['\x7d']
  else [c]

/-- A text inside a list, in double quotes. -/
def quotedText (s : List Char) : List Char := '"' :: (s.flatMap escapeChar ++ ['"'])

mutual

/-- A value inside a list. -/
def shown : Value → List Char
  | .undefined => "undefined".toList
  | .none => "None".toList
  | .bool b => (if b then "True" else "False").toList
  | .int n => (toString n).toList
  | .float x => shownNumbers.text x
  | .text s _ => quotedText s
  | .list .streamed _ => "Iterable".toList
  | .list _ [] => ['[', ']']
  | .list _ (v :: vs) => '[' :: (shown v ++ shownRest vs ++ [']'])
  | .record _ [] => ['\x7b', '\x7d']
  | .record _ ((k, v) :: fs) =>
    '\x7b' :: (shown k ++ [':', ' '] ++ shown v ++ shownFields fs ++ ['\x7d'])
  | .function f => f.shownName.toList
  | .routine _ name _ _ => ("<macro " ++ name ++ ">").toList
  | .loop _ index Option.none _ _ _ => ("<loop " ++ toString index ++ "/?>").toList
  | .loop _ index (some length) _ _ _ => ("<loop " ++ toString index ++ "/" ++ toString length ++ ">").toList

/-- The elements behind the first. -/
def shownRest : List Value → List Char
  | [] => []
  | v :: vs => ',' :: ' ' :: (shown v ++ shownRest vs)

/-- The fields behind the first. -/
def shownFields : List (Value × Value) → List Char
  | [] => []
  | (k, v) :: fs => ',' :: ' ' :: (shown k ++ [':', ' '] ++ shown v ++ shownFields fs)

end

/-- What is printed for a value. -/
def display : Value → List Char
  | .undefined => []
  | .text s _ => s
  | .float x => printedNumbers.text x
  | v => shown v

/-- Blanks in front of a line of a value that is shown over several lines. -/
def margin (depth : Nat) : List Char := List.replicate (4 * depth) ' '

mutual

/-- A value with each element on a line of its own. -/
def spread (depth : Nat) : Value → List Char
  | .list .streamed vs => shown (.list .streamed vs)
  | .list _ (v :: vs) => '[' :: '\n' :: (spreadAll (depth + 1) (v :: vs) ++ margin depth ++ [']'])
  | .record _ (f :: fs) => '\x7b' :: '\n' :: (spreadFields (depth + 1) (f :: fs) ++ margin depth ++ ['\x7d'])
  | v => shown v

def spreadAll (depth : Nat) : List Value → List Char
  | [] => []
  | v :: vs => margin depth ++ spread depth v ++ ',' :: '\n' :: spreadAll depth vs

def spreadFields (depth : Nat) : List (Value × Value) → List Char
  | [] => []
  | (k, v) :: fs =>
    margin depth ++ shown k ++ ':' :: ' ' :: (spread depth v ++ ',' :: '\n' :: spreadFields depth fs)

end

/-! ### Truth and kind -/

/-- Whether a condition with this value holds. -/
def holds : Value → Bool
  | .undefined | .none => false
  | .bool b => b
  | .int n => n != 0
  | .float x => x != 0.0
  | .text s _ => !s.isEmpty
  | .list .streamed _ => true
  | .list _ vs => !vs.isEmpty
  | .record _ fs => !fs.isEmpty
  | .function _ | .routine .. | .loop .. => true

/-- The place of the kind of a value among all kinds; values of different kinds are ordered by it. -/
def rank : Value → Nat
  | .undefined => 0
  | .none => 1
  | .bool _ => 2
  | .int _ | .float _ => 3
  | .text .. => 4
  | .list .given _ | .list .group _ => 6
  | .record .. | .routine .. | .loop .. => 7
  | .list .computed _ | .list .streamed _ => 8
  | .function _ => 9

def isUndefined : Value → Bool
  | .undefined => true
  | _ => false

def isNumber (v : Value) : Bool := v.rank == 3

def text? : Value → Option (List Char)
  | .text s _ => some s
  | _ => Option.none

/-- Whether a value is a list or has fields. Two of these are the same only if they were made in one go. -/
def isCompound (v : Value) : Bool := 6 ≤ v.rank

def isSafe : Value → Bool
  | .text _ safe => safe
  | _ => false

end Value

end Bootstrap.Template
