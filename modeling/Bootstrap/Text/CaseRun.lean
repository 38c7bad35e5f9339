/-!
# Runs of letters

Letters stand in runs: one after the other, or every other, capitals and small letters taking turns. A run that is mapped
to another case is mapped in order.
-/

namespace Bootstrap.Text

/-- The letters from `first` to `last`, every one or every other. -/
structure LetterRun where
  first : Nat
  last : Nat
  stride : Nat

/-- Letters from `first` to `last`, every one or every other, which are mapped in order to the letters from `target`
on. -/
structure CaseRun where
  first : Nat
  last : Nat
  stride : Nat
  target : Nat

/-- Whether a code point belongs to the run. -/
def LetterRun.contains (r : LetterRun) (n : Nat) : Bool :=
  r.first ≤ n && n ≤ r.last && (n - r.first) % r.stride == 0

/-- The letter that a letter of the run is mapped to. -/
def CaseRun.map? (r : CaseRun) (n : Nat) : Option Nat :=
  if r.first ≤ n && n ≤ r.last && (n - r.first) % r.stride == 0 then some (r.target + (n - r.first)) else none

/-- What a character is mapped to by texts for some letters and runs for others; any other character stays. -/
def mapCase (texts : List (Nat × List Nat)) (runs : List CaseRun) (c : Char) : List Char :=
  match texts.lookup c.toNat with
  | some codes => codes.map Char.ofNat
  | none =>
    match runs.findSome? fun r => r.map? c.toNat with
    | some code => [Char.ofNat code]
    | none => [c]

end Bootstrap.Text
