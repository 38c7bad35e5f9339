/-!
# JSON values

A value keeps what a reader may have to tell apart: the digits of a number as they are written, and the fields of
an object in order and with repetitions. A string whose escapes do not form a text is a value too, `brokenText`,
so that a document may hold one where nobody reads it.
-/

namespace Bootstrap.Json

inductive Value where
  | null
  | bool (b : Bool)
  | number (digits : List Char)
  | text (s : List Char)
  | brokenText
  | array (elements : List Value)
  | object (fields : List (Option (List Char) × Value))

instance : Inhabited Value := ⟨.null⟩

namespace Value

def ofText (s : String) : Value := .text s.toList

def ofNat (n : Nat) : Value := .number (toString n).toList

/-- An object with fields that all have a name. -/
def ofFields (fields : List (String × Value)) : Value :=
  .object (fields.map fun f => (some f.1.toList, f.2))

end Value

end Bootstrap.Json
