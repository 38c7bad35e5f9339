import Bootstrap.Template.Access

/-!
# Arguments

What filters, tests and functions are called with. An option that is left out may also be given as `none` or be
undefined.
-/

namespace Bootstrap.Template

structure Arguments where
  plain : List Value := []
  named : List (String × Value) := []

namespace Arguments

/-- The argument at a place, or else the one with a name. -/
def find? (as : Arguments) (place : Nat) (name : String) : Option Value :=
  match as.plain[place]? with
  | some v => some v
  | none => as.named.lookup name

/-- Whether there are at most so many arguments without names, and no names but some. -/
def within (as : Arguments) (places : Nat) (names : List String) : Bool :=
  as.plain.length ≤ places && as.named.all fun a => names.contains a.1

end Arguments

/-- An option: absent, or read from its value if that admits it. -/
def option? (read : Value → Option α) : Option Value → Option (Option α)
  | none => some none
  | some .undefined => some none
  | some .none => some none
  | some v => (read v).map some

/-- A truth value; no other value takes its place. -/
def truth? : Value → Option Bool
  | .bool b => some b
  | _ => none

/-- A switch that is off when it is left out. -/
def switch? (v : Option Value) : Option Bool := (option? truth? v).map fun b => b.getD false

/-- A text; any other value gives the text that is printed for it. -/
def textOption? (v : Option Value) : Option (Option (List Char)) := option? (fun v => some v.display) v

end Bootstrap.Template
