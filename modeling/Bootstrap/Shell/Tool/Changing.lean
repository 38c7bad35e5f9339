import Bootstrap.Disk.Change
import Bootstrap.Shell.Tool.Options

/-!
# Tools that change the disk

Programs of the machine that make, copy, move, link and remove files and directories, and set their modes. What is new
gets its mode without the bits that the mask of the shell takes away.
-/

namespace Bootstrap.Shell.Tool

/-- A change of the disk; one that fails leaves a message. -/
def change (tool : String) (message : List Char) (f : Disk → Except Cause Disk) : Run Bool := do
  let s ← get
  match f s.disk with
  | .ok d =>
    set { s with disk := d }
    return true
  | .error c =>
    complain tool (message ++ ':' :: ' ' :: Run.reason c)
    return false

/-- Leaves a message and fails. -/
def failed (tool : String) (message : List Char) : Run Bool := do
  complain tool message
  return false

/-- Makes something new with a mode from which the mask of the shell is taken. -/
def make (tool : String) (message : List Char) (p : Path) (mode : Nat) (f : Disk → Except Cause Disk) : Run Bool := do
  let mask := (← get).mask
  if ← change tool message f then
    if mask = 0o022 then return true else change tool message fun d => d.setMode p (mode &&& (0o777 - mask))
  else return false

/-! ### Modes -/

/-- The bits of one class in the places of the classes that letters name. -/
def spread (who : List Char) (bits : Nat) : Nat :=
  who.foldl (fun n p => n ||| (bits <<< (if p = 'u' then 6 else if p = 'g' then 3 else 0))) 0

/-- The bits that letters stand for, for the classes of `who`. -/
def permissions (isDirectory : Bool) (old : Nat) (who letters : List Char) : Option Nat :=
  match letters with
  | ['u'] => some (spread who (old >>> 6 % 8))
  | ['g'] => some (spread who (old >>> 3 % 8))
  | ['o'] => some (spread who (old % 8))
  | letters => letters.foldlM (fun n c =>
    match c with
    | 'r' => some (n ||| spread who 4)
    | 'w' => some (n ||| spread who 2)
    | 'x' => some (n ||| spread who 1)
    | 'X' => some (if isDirectory || old &&& 0o111 ≠ 0 then n ||| spread who 1 else n)
    | 's' => some (n ||| (if who.contains 'u' then 0o4000 else 0) ||| (if who.contains 'g' then 0o2000 else 0))
    | 't' => some (n ||| 0o1000)
    | _ => none) 0

/-- A mode changed by signs with letters behind them, for the classes of `who`; bits of `mask` are left alone. -/
def changedMode? (isDirectory : Bool) (mask : Nat) (who : List Char) :
    (fuel : Nat) → List Char → (old : Nat) → Option Nat
  | 0, _, _ => none
  | _, [], old => some old
  | fuel + 1, sign :: cs, old => do
    let letters := cs.takeWhile fun c => !(['+', '-', '='].contains c)
    let bits := (← permissions isDirectory old who letters) &&& (0o7777 - mask)
    let new ← match sign with
      | '+' => some (old ||| bits)
      | '-' => some (old &&& (0o7777 - bits))
      | '=' => some ((old &&& (0o7777 - (spread who 7 &&& (0o777 - mask)))) ||| bits)
      | _ => none
    changedMode? isDirectory mask who fuel (cs.drop letters.length) new

/-- A new mode: octal digits, or changes of the old one with commas between them. Changes that name nobody are for all,
but for the bits of the mask. -/
def newMode? (mask : Nat) (isDirectory : Bool) (w : List Char) (old : Nat) : Option Nat :=
  if w.head?.any Char.isDigit then
    if w.all fun c => '0' ≤ c && c ≤ '7' then
      let n := w.foldl (fun n c => n * 8 + (c.toNat - 48)) 0
      if n ≤ 0o7777 then some n else none
    else none
  else
    (w.splitOn ',').foldlM (fun old clause =>
      let who := clause.takeWhile fun c => "ugoa".toList.contains c
      let changes := clause.drop who.length
      let everybody := ['u', 'g', 'o']
      if changes.isEmpty then none
      else if who.isEmpty then changedMode? isDirectory mask everybody (changes.length + 1) changes old
      else changedMode? isDirectory 0 (if who.contains 'a' then everybody else who) (changes.length + 1) changes old)
      old

/-- Sets the mode of what is at a location. -/
def withMode (mode : Nat) : Object → Object
  | .directory _ => .directory (mode &&& 0o7777)
  | .file _ content => .file (mode &&& 0o7777) content
  | .link target => .link target

def modeOf : Object → Nat
  | .directory mode | .file mode _ => mode
  | .link _ => 0

def chmod (ws : List (List Char)) : Run Nat :=
  -- A minus sign in front of the letters of a mode starts no option.
  let isMode (w : List Char) : Bool := match w with
    | '-' :: c :: _ => "rwxXst".toList.contains c
    | _ => false
  let (front, rest) := (ws.takeWhile fun w => !isMode w, ws.dropWhile fun w => !isMode w)
  ({ letters := "Rfvc".toList, inFront := !rest.isEmpty
     names := [("recursive", 'R'), ("silent", 'f'), ("quiet", 'f'), ("verbose", 'v')] } : Options).run "chmod" 1
    (fun g => do
  match g.words.filter (· ≠ ['-', '-']) with
  | [] => refuse "chmod" "missing operand".toList 1
  | [mode] => refuse "chmod" ("missing operand after ".toList ++ shown mode) 1
  | mode :: names =>
    let mask := (← get).mask
    if (newMode? mask false mode 0).isNone then refuse "chmod" ("invalid mode: ".toList ++ shown mode) 1
    else
      forAll names fun w => do
        let s ← get
        match s.disk.status (pathOf w) with
        | .error c => failed "chmod" ("cannot access ".toList ++ shown w ++ ':' :: ' ' :: Run.reason c)
        | .ok (l, o) =>
          let reached := (l, o) :: (if g.has 'R' then s.disk.objects.filter fun e => Disk.isBelow l e.1 else [])
          set { s with disk := reached.foldl (fun d (e : Location × Object) =>
            match newMode? mask e.2.isDirectory mode (modeOf e.2) with
            | some m => d.set e.1 (withMode m e.2)
            | none => d) s.disk }
          return true) (front ++ (if rest.isEmpty then [] else ['-', '-'] :: rest))

/-! ### Making and removing -/

/-- Makes directories, with those above them on demand. -/
def mkdir : List (List Char) → Run Nat :=
  ({ letters := ['p', 'v'], valued := ['m'], names := [("parents", 'p'), ("mode", 'm'), ("verbose", 'v')] } :
    Options).run "mkdir" 1 fun g => do
  if g.words.isEmpty then refuse "mkdir" "missing operand".toList 1
  else
    let mask := (← get).mask
    match (g.value? 'm').map fun w => (w, newMode? mask true w 0o777) with
    | some (w, none) =>
      complain "mkdir" ("invalid mode ".toList ++ shown w)
      return 1
    | mode =>
      forAll g.words fun w => do
        let message := "cannot create directory ".toList ++ shown w
        let p := pathOf w
        let above := if g.has 'p' then p.parents.reverse.filter fun q => !q.bytes.isEmpty else []
        let made ← above.mapM fun q => do
          if (← get).disk.isDirectory q then return true
          else make "mkdir" message q 0o777 fun d => d.makeDirectory q 0o777
        if !(made.all fun b => b) then return false
        else if g.has 'p' && (← get).disk.isDirectory p then return true
        else
          let done ← make "mkdir" message p 0o777 fun d => d.makeDirectory p 0o777
          match mode.bind Prod.snd with
          | some m => if done then change "mkdir" message fun d => d.setMode p m else return false
          | none => return done

def rmdir : List (List Char) → Run Nat :=
  ({ letters := ['p', 'v'], names := [("parents", 'p')] } : Options).run "rmdir" 1 fun g => do
  if g.words.isEmpty then refuse "rmdir" "missing operand".toList 1
  else
    forAll g.words fun w => do
      let p := pathOf w
      let above := if g.has 'p' then p.parents.filter fun q => !q.bytes.isEmpty else []
      let done ← (p :: above).mapM fun q =>
        change "rmdir" ("failed to remove ".toList ++ shown (ofBytes q.bytes)) fun d => d.removeEmptyDirectory q
      return done.all fun b => b

/-- Removes files, and directories with all that is in them on demand. -/
def rm : List (List Char) → Run Nat :=
  ({ letters := "rRfdiv".toList
     names := [("recursive", 'r'), ("force", 'f'), ("dir", 'd'), ("verbose", 'v')] } : Options).run "rm" 1 fun g => do
  let trees := g.has 'r' || g.has 'R'
  if g.words.isEmpty && !g.has 'f' then refuse "rm" "missing operand".toList 1
  else
    forAll g.words fun w => do
      let p := pathOf w
      let message := "cannot remove ".toList ++ shown w
      match (← get).disk.linkStatus p with
      | .ok (_, .directory _) =>
        if trees && [['.'], ['.', '.'], ['/']].contains (lastPart w) then
          failed "rm" ("refusing to remove '.' or '..' directory: skipping ".toList ++ shown w)
        else if trees then
          let (r, d) := (← get).disk.removeTree p
          modify fun s => { s with disk := d }
          return r.isOk
        else if g.has 'd' then change "rm" message fun d => d.removeEmptyDirectory p
        else failed "rm" (message ++ ": Is a directory".toList)
      | .ok _ => change "rm" message fun d => d.removeFile p
      | .error c =>
        let isMissing := match c with
          | .system .notFound | .system .notDirectory => true
          | _ => false
        if g.has 'f' && isMissing then return true else failed "rm" (message ++ ':' :: ' ' :: Run.reason c)
where
  /-- The last name of a path. -/
  lastPart (w : List Char) : List Char :=
    let cut := w.reverse.dropWhile (· = '/')
    if cut.isEmpty then ['/'] else (cut.takeWhile (· ≠ '/')).reverse

def touch : List (List Char) → Run Nat :=
  ({ letters := "acfm".toList, valued := "dtr".toList, names := [("no-create", 'c')] } : Options).run "touch" 1
    fun g => do
  if g.words.isEmpty then refuse "touch" "missing file operand".toList 1
  else
    forAll g.words fun w => do
      let p := pathOf w
      if (← get).disk.leadsSomewhere p || g.has 'c' then return true
      else make "touch" ("cannot touch ".toList ++ shown w) p 0o666 fun d => d.putFile p 0o666 []

/-! ### Copying, moving and linking -/

/-- Where something goes that has the name of a path: into a directory, or to its place. -/
def placeFor (d : Disk) (source target : List Char) : Path :=
  let t := pathOf target
  if d.isDirectory t then t.join ⟨((pathOf source).fileName?).getD []⟩ else t

/-- Does something for each source and the target behind them, which has to be a directory if there are many. -/
def toTarget (tool : String) (ws : List (List Char)) (f : List Char → List Char → Run Bool) : Run Nat := do
  match ws with
  | [] => refuse tool "missing file operand".toList 1
  | [w] => refuse tool ("missing destination file operand after ".toList ++ shown w) 1
  | [source, target] => forAll [source] fun w => f w target
  | ws =>
    let target := ws.getLastD []
    match (← get).disk.status (pathOf target) with
    | .ok (_, .directory _) => forAll ws.dropLast fun w => f w target
    | .ok _ =>
      complain tool ("target ".toList ++ shown target ++ ": Not a directory".toList)
      return 1
    | .error c =>
      complain tool ("target ".toList ++ shown target ++ ':' :: ' ' :: Run.reason c)
      return 1

/-- The objects at a location and below it, seen from there. -/
def treeAt (d : Disk) (l : Location) : List (Location × Object) :=
  (d.objects.filter fun e => e.1 = l || Disk.isBelow l e.1).map fun e => (e.1.drop l.length, e.2)

/-- Copies files, and directories with all that is in them on demand. -/
def cp : List (List Char) → Run Nat :=
  ({ letters := "rRapfndPLHvu".toList
     names := [("recursive", 'r'), ("archive", 'a'), ("force", 'f'), ("no-clobber", 'n'), ("verbose", 'v')] } :
    Options).run "cp" 1 fun g => toTarget "cp" g.words fun w target => do
  let s ← get
  let d := s.disk
  let trees := g.has 'r' || g.has 'R' || g.has 'a'
  let keepsModes := g.has 'p' || g.has 'a'
  let keepsLinks := (trees || g.has 'd' || g.has 'P') && !g.has 'L'
  let place := placeFor d w target
  let name := ofBytes place.bytes
  match if keepsLinks && !g.has 'H' then d.linkStatus (pathOf w) else d.status (pathOf w) with
  | .error c => failed "cp" ("cannot stat ".toList ++ shown w ++ ':' :: ' ' :: Run.reason c)
  | .ok (l, .file mode content) =>
    let there := d.status place
    if (there.toOption.map Prod.fst) = some l then
      failed "cp" (shown w ++ " and ".toList ++ shown name ++ " are the same file".toList)
    else if g.has 'n' && d.occupied place then return true
    else
      match there with
      | .ok (_, .directory _) =>
        failed "cp" ("cannot overwrite directory ".toList ++ shown name ++ " with non-directory".toList)
      | _ =>
        let message := "cannot create regular file ".toList ++ shown name
        let done ← if there.isOk then change "cp" message fun d => d.putFile place mode content
          else make "cp" message place mode fun d => d.putFile place mode content
        if done && keepsModes then change "cp" message fun d => d.setMode place mode else return done
  | .ok (_, .link path) =>
    change "cp" ("cannot create symbolic link ".toList ++ shown name) fun d => d.addLink place path
  | .ok (l, .directory _) =>
    if !trees then failed "cp" ("-r not specified; omitting directory ".toList ++ shown w)
    else
      match d.walk .always place with
      | .error c => failed "cp" ("cannot create directory ".toList ++ shown name ++ ':' :: ' ' :: Run.reason c)
      | .ok spot =>
        let base := spot.location
        if base = l || Disk.isBelow l base then
          failed "cp" ("cannot copy a directory, ".toList ++ shown w ++ ", into itself, ".toList ++ shown name)
        else if !d.isDirectoryAt base.dropLast then
          failed "cp" ("cannot create directory ".toList ++ shown name ++ ": No such file or directory".toList)
        else if (d.get? base).any fun o => !o.isDirectory then
          failed "cp" ("cannot overwrite non-directory ".toList ++ shown name ++ " with directory ".toList ++ shown w)
        else
          let masked (o : Object) : Object := if keepsModes then o else withMode (modeOf o &&& (0o777 - s.mask)) o
          set { s with disk := (treeAt d l).foldl (fun d (e : Location × Object) =>
            let there := d.get? (base ++ e.1)
            match there, e.2 with
            | some (.directory _), .directory _ => d
            | some (.file mode _), .file _ content => d.set (base ++ e.1) (.file mode content)
            | _, o => d.set (base ++ e.1) (masked o)) d }
          return true

/-- Puts what is at a location, and below it, at another one. -/
def moved (d : Disk) (source target : Location) : Disk :=
  let cleared := (((d.eraseBelow source).erase source).eraseBelow target).erase target
  (treeAt d source).foldl (fun d e => d.set (target ++ e.1) e.2) cleared

/-- Moves files and directories. -/
def mv : List (List Char) → Run Nat :=
  ({ letters := "fnivu".toList, names := [("force", 'f'), ("no-clobber", 'n'), ("verbose", 'v')] } : Options).run
    "mv" 1 fun g => toTarget "mv" g.words fun w target => do
  let d := (← get).disk
  let place := placeFor d w target
  let name := ofBytes place.bytes
  let wrong (c : Cause) : Run Bool :=
    failed "mv" ("cannot move ".toList ++ shown w ++ " to ".toList ++ shown name ++ ':' :: ' ' :: Run.reason c)
  match d.linkStatus (pathOf w) with
  | .error c => failed "mv" ("cannot stat ".toList ++ shown w ++ ':' :: ' ' :: Run.reason c)
  | .ok (source, o) =>
    match d.walk .never place with
    | .error c => wrong c
    | .ok spot =>
      let l := spot.location
      if source = l then failed "mv" (shown w ++ " and ".toList ++ shown name ++ " are the same file".toList)
      else if Disk.isBelow source l then
        failed "mv" ("cannot move ".toList ++ shown w ++ " to a subdirectory of itself, ".toList ++ shown name)
      else if !d.isDirectoryAt l.dropLast then wrong (.system .notFound)
      else if g.has 'n' && (d.get? l).isSome then return true
      else
        match d.get? l, o with
        | some (.directory _), .directory _ =>
          if d.hasBelow l then wrong (.system .notEmpty) else change "mv" [] fun d => .ok (moved d source l)
        | some (.directory _), _ =>
          failed "mv" ("cannot overwrite directory ".toList ++ shown name ++ " with non-directory".toList)
        | some _, .directory _ =>
          failed "mv" ("cannot overwrite non-directory ".toList ++ shown name ++ " with directory ".toList ++ shown w)
        | _, _ => change "mv" [] fun d => .ok (moved d source l)

/-- Makes links that hold a path, and second names for files. -/
def ln : List (List Char) → Run Nat :=
  ({ letters := "sfnTvrPL".toList
     names := [("symbolic", 's'), ("force", 'f'), ("no-dereference", 'n'), ("no-target-directory", 'T')] } :
    Options).run "ln" 1 fun g => do
  -- A link to a directory is taken for the directory, unless the call says otherwise.
  let link (w target : List Char) : Run Bool := do
    let d := (← get).disk
    let isLink := match d.linkStatus (pathOf target) with
      | .ok (_, .link _) => true
      | _ => false
    let place := if g.has 'T' || (g.has 'n' && isLink) then pathOf target else placeFor d w target
    let name := ofBytes place.bytes
    if g.has 'f' then
      modify fun s => { s with disk := (s.disk.removeFile place).toOption.getD s.disk }
    if g.has 's' then
      change "ln" ("failed to create symbolic link ".toList ++ shown name) fun d => d.addLink place (pathOf w)
    else
      match d.linkStatus (pathOf w) with
      | .error c => failed "ln" ("failed to access ".toList ++ shown w ++ ':' :: ' ' :: Run.reason c)
      | .ok (_, .directory _) => failed "ln" (w ++ ": hard link not allowed for directory".toList)
      | .ok (_, o) =>
        change "ln" ("failed to create hard link ".toList ++ shown name) fun d => do
          match ← d.walk .never place with
          | .name parent n _ =>
            if (d.get? (parent ++ [n])).isSome then .error (.system .alreadyExists) else d.place parent n o
          | .directory _ _ => .error (.system .alreadyExists)
  match g.words with
  | [] => refuse "ln" "missing file operand".toList 1
  | [w] => forAll [w] fun w => link w ['.']
  | ws => toTarget "ln" ws link

/-! ### Looking at directories -/

/-- The sign behind a name that tells what it is the name of. -/
def classSign (marksAll : Bool) : Object → List Char
  | .directory _ => ['/']
  | .link _ => if marksAll then ['@'] else []
  | .file mode _ => if marksAll && mode &&& 0o111 ≠ 0 then ['*'] else []

/-- Lists directories, with those below them on demand. -/
def ls : List (List Char) → Run Nat :=
  ({ letters := "1aAdrRFpU".toList
     names := [("all", 'a'), ("almost-all", 'A'), ("directory", 'd'), ("reverse", 'r'), ("recursive", 'R'),
       ("classify", 'F')] } : Options).run "ls" 2 fun g => do
  let d := (← get).disk
  let ordered (names : List (List Char)) : List (List Char) :=
    let names := names.mergeSort fun v w => decide (toBytes v ≤ toBytes w)
    if g.has 'r' then names.reverse else names
  let marked (p : Path) (name : List Char) : List Char :=
    match d.linkStatus p with
    | .ok (_, o) => if g.has 'F' || g.has 'p' then name ++ classSign (g.has 'F') o else name
    | .error _ => name
  let names := ordered (if g.words.isEmpty then [['.']] else g.words)
  let isDirectory (w : List Char) : Bool := !g.has 'd' && d.isDirectory (pathOf w)
  let there ← names.mapM fun w => do
    if d.occupied (pathOf w) then return true
    else failed "ls" ("cannot access ".toList ++ shown w ++ ": No such file or directory".toList)
  let files := names.filter fun w => d.occupied (pathOf w) && !isDirectory w
  let _ ← Run.write 1 (files.flatMap fun w => marked (pathOf w) w ++ ['\n'])
  let inside (w : List Char) : List (List Char) :=
    let all := ((d.listDirectory (pathOf w)).toOption.getD []).map ofBytes
    let all := if g.has 'a' then ['.'] :: ['.', '.'] :: all else all
    ordered (all.filter fun n => g.has 'a' || g.has 'A' || n.head? ≠ some '.')
  let below (w n : List Char) : List Char := if w.getLast? = some '/' then w ++ n else w ++ '/' :: n
  let directories := names.filter isDirectory
  let all := if g.has 'R' then directories.flatMap (reached d inside below (d.objects.length + 1)) else directories
  let headed := 1 < g.words.length || g.has 'R'
  let _ ← all.zipIdx.mapM fun (w, i) => do
    let heading := if headed then (if i = 0 && files.isEmpty then [] else ['\n']) ++ w ++ [':', '\n'] else []
    Run.write 1 (heading ++ (inside w).flatMap fun n => marked (pathOf (below w n)) n ++ ['\n'])
  return if there.all fun b => b then 0 else 2
where
  /-- A directory and those below it, each in front of those in it. -/
  reached (d : Disk) (inside : List Char → List (List Char)) (below : List Char → List Char → List Char) :
      (fuel : Nat) → List Char → List (List Char)
    | 0, _ => []
    | fuel + 1, w =>
      let subdirectories := ((inside w).filter fun n => n ≠ ['.'] && n ≠ ['.', '.']).filter fun n =>
        match d.linkStatus (pathOf (below w n)) with
        | .ok (_, .directory _) => true
        | _ => false
      w :: subdirectories.flatMap fun n => reached d inside below fuel (below w n)

end Bootstrap.Shell.Tool
