import Bootstrap.Template.Number

/-!
# Order of values

Any two values can be compared: values of different kinds by their kind, numbers by size, texts by their characters, lists
by their first difference.

* `Value.equal` is equality; numbers of different kinds can be equal.
* `Value.order` is the order; `Value.findKey?` looks a key up by it.
-/

namespace Bootstrap.Template

/-- Two texts by their first difference. -/
def orderChars : List Char → List Char → Ordering
  | [], [] => .eq
  | [], _ :: _ => .lt
  | _ :: _, [] => .gt
  | a :: as, b :: bs => if a = b then orderChars as bs else compare a.toNat b.toNat

/-- The place of a double in the order of all doubles. -/
def floatPlace (x : Float) : Int :=
  let bits := Int.ofNat x.toBits.toNat
  if bits < Int.pow 2 63 then bits else Int.pow 2 63 - 1 - bits

namespace Value

/-- Whether two values are equal as numbers. -/
def equalNumbers (a b : Value) : Bool :=
  match a, b with
  | .int m, .int n => m == n
  | _, _ =>
    match Operands.of? true a b with
    | some (.ints m n) => m == n
    | some (.floats x y) => x == y
    | Option.none => false

/-- The order of two numbers; any two other values are taken to be equal. -/
def orderNumbers (a b : Value) : Ordering :=
  match a, b with
  | .int m, .int n => compare m n
  | _, _ =>
    match Operands.of? true a b with
    | some (.ints m n) => compare m n
    | some (.floats x y) => compare (floatPlace x) (floatPlace y)
    | Option.none => .eq

mutual

def equal : Value → Value → Bool
  | .undefined, .undefined => true
  | .none, .none => true
  | .text a _, .text b _ => a == b
  | .list _ as, .list _ bs => equalAll as bs
  | .record _ as, .record _ bs => equalFields as bs
  | .function f, .function g => f == g
  | .routine _ x ps c, .routine _ y qs d => x == y && ps == qs && c == d
  | .loop _ i n d p q, .loop _ j m e r s => i == j && n == m && d == e && equal p r && equal q s
  | a, b => equalNumbers a b

def equalAll : List Value → List Value → Bool
  | [], [] => true
  | a :: as, b :: bs => equal a b && equalAll as bs
  | _, _ => false

def equalFields : List (Value × Value) → List (Value × Value) → Bool
  | [], [] => true
  | (k, a) :: as, (l, b) :: bs => equal k l && equal a b && equalFields as bs
  | _, _ => false

end

mutual

def order : Value → Value → Ordering
  | .text a _, .text b _ => orderChars a b
  | .list f as, .list g bs => (compare (rank (.list f [])) (rank (.list g []))).then (orderAll as bs)
  | .record _ as, .record _ bs => orderFields as bs
  | a, b =>
    match compare a.rank b.rank with
    | .eq => if 7 ≤ a.rank then orderChars a.display b.display else orderNumbers a b
    | o => o

def orderAll : List Value → List Value → Ordering
  | [], [] => .eq
  | [], _ :: _ => .lt
  | _ :: _, [] => .gt
  | a :: as, b :: bs => (order a b).then (orderAll as bs)

def orderFields : List (Value × Value) → List (Value × Value) → Ordering
  | [], [] => .eq
  | [], _ :: _ => .lt
  | _ :: _, [] => .gt
  | (k, a) :: as, (l, b) :: bs => ((order k l).then (order a b)).then (orderFields as bs)

end

/-- Whether one value comes before another. -/
def before (a b : Value) : Bool := order a b == .lt

/-- The value of a key among the fields of a record. -/
def findKey? (fields : List (Value × Value)) (key : Value) : Option Value :=
  (fields.find? fun f => order f.1 key == .eq).map Prod.snd

/-- Fields with a value for a key, which replaces any other that the key has. -/
def withKey (key v : Value) : List (Value × Value) → List (Value × Value)
  | [] => [(key, v)]
  | (k, w) :: fs =>
    match order key k with
    | .lt => (key, v) :: (k, w) :: fs
    | .eq => (k, v) :: fs
    | .gt => (k, w) :: withKey key v fs

/-- A record with some fields; of two values for a key the later one counts. -/
def recordOf (fields : List (Value × Value)) : Value :=
  .record Option.none (fields.foldl (fun fs f => withKey f.1 f.2 fs) [])

end Value

end Bootstrap.Template
