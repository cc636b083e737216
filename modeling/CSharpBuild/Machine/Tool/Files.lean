/-
Tools that change the disk or show what is on it: making, copying, moving and removing files,
directories and links.

A tool for several items goes on with the others when one of them fails, and its status tells in the
end. `Filing` keeps that.
-/
import CSharpBuild.Machine.Tool.Words

namespace CSharpBuild.Machine.Tool

/-! ## Paths -/

/-- A path without the separators at its end. -/
def withoutSlashes (path : String) : String := String.ofList (trimEnd '/' path.toList)

/-- A name below a directory's path. -/
def below (directory name : String) : String :=
  if directory.toList.getLast? = some '/' then directory ++ name else directory ++ "/" ++ name

/-- What stands at a path; a link at its end is not followed. -/
def entry (d : Disk) (cwd : Place) (path : String) : Except Trouble (Place × Node) :=
  match d.findLink cwd (withoutSlashes path) with
  | .ok (place, node) =>
    if path.toList.getLast? = some '/' && withoutSlashes path ≠ "/" && node ≠ .directory then
      .error .notDirectory
    else .ok (place, node)
  | .error trouble => .error trouble

/-- Whether a path leads to a directory. -/
def isDirectory (d : Disk) (cwd : Place) (path : String) : Bool :=
  (d.find cwd path) matches .ok .directory

/-- The trouble of making something at a path, if there is any. -/
def makingTrouble? (d : Disk) (cwd : Place) (path : String) : Option Trouble :=
  match d.locate ⟨false, true⟩ cwd (if path.isEmpty then path else withoutSlashes path) with
  | .error trouble => some trouble
  | .ok place => if (d.get? place).isSome then some .alreadyThere else none

/-- Put something new at a path. -/
def make (d : Disk) (cwd : Place) (path : String) (node : Node) : Except Trouble Disk :=
  match makingTrouble? d cwd path with
  | some trouble => .error trouble
  | none => do .ok (d.put (← d.locate ⟨false, true⟩ cwd (withoutSlashes path)) node)

/-- The tool for something about each operand, of which there is at least one. -/
def forOperands (o : Options) (lacking : String) (act : Arguments → Call → Effect → String → Effect) :
    Tool :=
  withOptions o 1 fun a c =>
    if a.operands.isEmpty then misused 1 lacking c
    else a.operands.foldl (act a c) (Effect.nothing c)

/-! ## Making -/

/-- Whether a text is the mode of a file. -/
def isMode (text : String) : Bool :=
  let octal (c : Char) : Bool := '0' ≤ c && c ≤ '7'
  let clause (text : List Char) : Bool :=
    let rest := text.dropWhile fun c => ['u', 'g', 'o', 'a'].contains c
    match rest with
    | sign :: rest =>
      ['+', '-', '='].contains sign &&
        rest.all fun c => "rwxXstugo+-=".toList.contains c
    | [] => false
  let chars := text.toList
  if chars.isEmpty then false
  else if chars.all Char.isDigit then chars.all octal && chars.length ≤ 5
  else (chars.splitOn ',').all clause

/-- Whether a file can be executed when a mode has been applied to it. -/
def executableAfter (mode : String) (isDirectory before : Bool) : Bool :=
  let chars := mode.toList
  if chars.all Char.isDigit then
    (chars.reverse.take 3).any fun c => c.toNat % 2 = 1
  else
    (chars.splitOn ',').foldl (fun before clause =>
      let who := clause.takeWhile fun c => ['u', 'g', 'o', 'a'].contains c
      let everybody := who.isEmpty || who.contains 'a' || ['u', 'g', 'o'].all who.contains
      match clause.drop who.length with
      | sign :: permissions =>
        let asks := permissions.contains 'x' || (permissions.contains 'X' && (before || isDirectory))
        if sign = '+' then before || asks
        else if sign = '-' then before && !(asks && everybody)
        else if everybody then asks
        else before || asks
      | [] => before) before

/-- Make directories. -/
def mkdir : Tool :=
  let options : Options := ⟨"m:pv", [("mode", 'm'), ("parents", 'p'), ("verbose", 'v')], [], true⟩
  withOptions options 1 fun a c =>
    match a.operands, (a.value? 'm').filter fun mode => !isMode mode with
    | [], _ => misused 1 "missing operand" c
    | _, some mode => refuses 1 ("invalid mode " ++ escaped mode) c
    | operands, none =>
      let made (e : Effect) (path : String) : Effect :=
        if a.has 'v' then e.line (c.name ++ ": created directory " ++ quoted path) else e
      let failed (e : Effect) (path : String) (trouble : Trouble) : Effect :=
        e.complain c.name 1 ("cannot create directory " ++ quoted path ++ ": " ++ trouble.words)
      let one (e : Effect) (path : String) : Except (String × Trouble) Effect :=
        match make e.disk c.cwd path .directory with
        | .ok disk => .ok (made { e with disk := disk } path)
        | .error trouble => .error (path, trouble)
      let finish (e : Effect) (result : Except (String × Trouble) Effect) : Effect :=
        match result with
        | .ok e => e
        | .error (path, trouble) => failed e path trouble
      let act (e : Effect) (path : String) : Effect :=
        if a.has 'p' then
          let pieces := (withoutSlashes path).toList.splitOn '/'
          let paths := (List.range pieces.length).map fun i =>
            String.ofList ((['/'] : List Char).intercalate (pieces.take (i + 1)))
          let paths := paths.filter fun path => !path.isEmpty
          let steps := paths.foldlM (fun (e : Effect) path =>
            if isDirectory e.disk c.cwd path then .ok e
            else
              match one e path with
              | .error (path, .alreadyThere) =>
                .error (if path = paths.getLastD "" then (path, .alreadyThere)
                  else (path, .notDirectory))
              | result => result) e
          if path.isEmpty then failed e path .missing else finish e steps
        else finish e (one e path)
      operands.foldl act (Effect.nothing c)

/-- Make files that are not there. -/
def touch : Tool :=
  let options : Options := ⟨"acd:fhmr:t:", [("no-create", 'c'), ("date", 'd'), ("reference", 'r')],
    [], true⟩
  forOperands options "missing file operand" fun a c e path =>
    let failed (trouble : Trouble) : Effect :=
      e.complain c.name 1 ("cannot touch " ++ quoted path ++ ": " ++ trouble.words)
    match e.disk.find c.cwd path with
    | .ok _ => e
    | .error .missing =>
      if a.has 'c' then e
      else
        match e.disk.update c.cwd path id with
        | .ok disk => { e with disk := disk }
        | .error trouble => failed trouble
    | .error trouble => failed trouble

/-- Change the mode of files. -/
def chmod : Tool := fun c =>
  -- A mode that takes something away looks like an option.
  let isOption (arg : String) : Bool :=
    match arg.toList with
    | '-' :: '-' :: _ => true
    | '-' :: rest => rest.all fun c => ['R', 'v', 'c', 'f'].contains c
    | _ => false
  let (front, rest) := c.args.span isOption
  let args := match rest with
    | mode :: rest => front ++ "--" :: mode :: rest
    | [] => front
  let options : Options := ⟨"Rvcf", [("recursive", 'R'), ("verbose", 'v'), ("changes", 'c'),
    ("silent", 'f'), ("quiet", 'f')], [], true⟩
  withOptions options 1 (fun a c =>
    match a.operands with
    | [] => misused 1 "missing operand" c
    | [mode] =>
      misused 1 (if Text.startsWith mode "-" then "missing operand"
        else "missing operand after " ++ quoted mode) c
    | mode :: paths =>
      if !isMode mode then misused 1 ("invalid mode: " ++ escaped mode) c
      else
        let change (d : Disk) (place : Place) : Disk :=
          match d.get? place with
          | some (.file content executable) =>
            d.put place (.file content (executableAfter mode false executable))
          | _ => d
        paths.foldl (fun (e : Effect) path =>
          match e.disk.locate ⟨true, false⟩ c.cwd path with
          | .ok place =>
            let places := if a.has 'R' then
              (e.disk.subtree place).map fun (below, _) => place ++ below else [place]
            { e with disk := places.foldl change e.disk }
          | .error trouble =>
            let isLink := (entry e.disk c.cwd path).toBool
            e.complain c.name 1 (if isLink && trouble = .missing then
                "cannot operate on dangling symlink " ++ quoted path
              else "cannot access " ++ quoted path ++ ": " ++ trouble.words))
          (Effect.nothing c)) { c with args := args }

/-! ## Removing -/

/-- Whether the last name of a path is the directory itself or the one above. -/
def endsInDots (path : String) : Bool := [".", ".."].contains (baseName path)

/-- What is said of the places at and below one as they are removed, from the inside out. -/
def removals (d : Disk) (place : Place) (path : String) : List String :=
  let words (below : Place) (node : Node) : String :=
    let shown := quoted ("/".intercalate (path :: below))
    (if node = .directory then "removed directory " else "removed ") ++ shown
  let all := (d.subtree place).mergeSort fun a b =>
    b.1.isPrefixOf a.1 || (!a.1.isPrefixOf b.1 && "/".intercalate a.1 ≤ "/".intercalate b.1)
  all.map fun (below, node) => words below node

/-- Remove files. -/
def rm : Tool :=
  let options : Options := ⟨"dfiIrRv", [("dir", 'd'), ("force", 'f'), ("recursive", 'r'),
    ("verbose", 'v')], [], true⟩
  withOptions options 1 fun a c =>
    let deep := a.has 'r' || a.has 'R'
    let act (e : Effect) (path : String) : Effect :=
      let failed (words : String) : Effect :=
        e.complain c.name 1 ("cannot remove " ++ quoted path ++ ": " ++ words)
      let removed (place : Place) : Effect :=
        let shown := if a.has 'v' then unlines (removals e.disk place (withoutSlashes path)) else ""
        { e with disk := e.disk.erase place }.out shown
      match entry e.disk c.cwd path with
      | .error .missing => if a.has 'f' then e else failed Trouble.missing.words
      | .error trouble => failed trouble.words
      | .ok (place, .directory) =>
        if deep && place = [] then
          let e := e.complain c.name 1 "it is dangerous to operate recursively on '/'"
          e.complain c.name 1 "use --no-preserve-root to override this failsafe"
        else if deep then
          if endsInDots path then
            e.complain c.name 1 ("refusing to remove '.' or '..' directory: skipping " ++ quoted path)
          else removed place
        else if a.has 'd' then
          if (e.disk.entries place).isEmpty then removed place else failed Trouble.notEmpty.words
        else failed Trouble.isDirectory.words
      | .ok (place, _) => removed place
    if a.operands.isEmpty && !a.has 'f' then misused 1 "missing operand" c
    else a.operands.foldl act (Effect.nothing c)

/-- Remove an empty directory. -/
def removeEmpty (d : Disk) (cwd : Place) (path : String) : Except Trouble Disk :=
  match entry d cwd path with
  | .error trouble => .error trouble
  | .ok (place, .directory) =>
    if (d.entries place).isEmpty then .ok (d.erase place) else .error .notEmpty
  | .ok _ => .error .notDirectory

/-- Remove empty directories. -/
def rmdir : Tool :=
  let options : Options := ⟨"pvI", [("parents", 'p'), ("verbose", 'v'),
    ("ignore-fail-on-non-empty", 'I')], [], true⟩
  forOperands options "missing operand" fun a c e path =>
    let pieces := (withoutSlashes path).toList.splitOn '/'
    let above := (List.range (pieces.length - 1)).map fun i =>
      String.ofList ((['/'] : List Char).intercalate (pieces.take (pieces.length - 1 - i)))
    let paths := path :: (if a.has 'p' then above.filter fun path => !path.isEmpty else [])
    (paths.zipIdx.foldl (fun (e, going) (path, i) =>
      if !going then (e, going)
      else
        let e := if a.has 'v' then e.line (c.name ++ ": removing directory, " ++ quoted path) else e
        match removeEmpty e.disk c.cwd path with
        | .ok disk => ({ e with disk := disk }, true)
        | .error trouble =>
          if trouble = .notEmpty && a.has 'I' then (e, false)
          else
            (e.complain c.name 1 ((if i = 0 then "failed to remove " else
              "failed to remove directory ") ++ quoted path ++ ": " ++ trouble.words), false))
      (e, true)).1

/-- Give a file another name as well. -/
def link : Tool := withOperands (lettersOnly "" true) 2 (some 2) fun a c =>
  match a.operands with
  | [source, target] =>
    let failed (trouble : Trouble) : Effect :=
      refuses 1 ("cannot create link " ++ quoted target ++ " to " ++ quoted source ++ ": "
        ++ trouble.words) c
    match entry c.disk c.cwd source with
    | .error trouble => failed trouble
    | .ok (_, node) =>
      match make c.disk c.cwd target node with
      | .ok disk => { Effect.nothing c with disk := disk }
      | .error trouble => failed trouble
  | _ => Effect.nothing c

/-- Remove one file. -/
def unlink : Tool := withOperands (lettersOnly "" true) 1 (some 1) fun a c =>
  let path := a.operands.headD ""
  let failed (trouble : Trouble) : Effect :=
    refuses 1 ("cannot unlink " ++ quoted path ++ ": " ++ trouble.words) c
  match entry c.disk c.cwd path with
  | .error trouble => failed trouble
  | .ok (_, .directory) => failed .isDirectory
  | .ok (place, _) => { Effect.nothing c with disk := c.disk.erase place }

/-! ## Copying and moving -/

/-- Where things are to go: the sources, and whether the target is the directory that they go into.
-/
structure Destination where
  sources : List String
  target : String
  isInto : Bool

/-- Read where things are to go; `lacking` is what is said if there is nothing. -/
def destination (a : Arguments) (c : Call) : Except (Bool × String) Destination :=
  match a.value? 't', a.operands with
  | _, [] => .error (true, "missing file operand")
  | some target, sources =>
    if isDirectory c.disk c.cwd target then .ok ⟨sources, target, true⟩
    else
      .error (false, "target directory " ++ quoted target ++ ": "
        ++ (match c.disk.find c.cwd target with
          | .error trouble => trouble.words
          | .ok _ => Trouble.notDirectory.words))
  | none, [one] => .error (true, "missing destination file operand after " ++ quoted one)
  | none, operands =>
    let target := operands.getLastD ""
    let sources := operands.dropLast
    if a.has 'T' then
      match operands[2]? with
      | some extra => .error (true, "extra operand " ++ quoted extra)
      | none => .ok ⟨sources, target, false⟩
    else
      let isInto := isDirectory c.disk c.cwd target
      if !isInto && 1 < sources.length then
        .error (false, "target " ++ quoted target ++ ": " ++
          (match c.disk.find c.cwd target with
            | .error trouble => trouble.words
            | .ok _ => Trouble.notDirectory.words))
      else .ok ⟨sources, target, isInto⟩

/-- The path that a source gets. -/
def Destination.pathOf (x : Destination) (source : String) : String :=
  if x.isInto then below x.target (baseName source) else x.target

/-- The place that a path leads to, whether there is something or not. -/
def placeOf (d : Disk) (cwd : Place) (follow : Bool) (path : String) : Except Trouble Place :=
  d.locate ⟨follow, true⟩ cwd path

/-- Copy one thing. -/
def copyOne (a : Arguments) (c : Call) (e : Effect) (source target : String) : Effect :=
  let deep := a.has 'r' || a.has 'R' || a.has 'a'
  let keepsLinks := a.has 'P' || a.has 'd' || (deep && !a.has 'L')
  let failed (text : String) : Effect := e.complain c.name 1 text
  let told (e : Effect) (source target : String) : Effect :=
    if a.has 'v' then e.line (quoted source ++ " -> " ++ quoted target) else e
  let found : Except Trouble (Place × Node) :=
    if keepsLinks then entry e.disk c.cwd source
    else do
      let place ← e.disk.locate ⟨true, false⟩ c.cwd source
      .ok (place, (e.disk.get? place).getD .directory)
  match found with
  | .error trouble => failed ("cannot stat " ++ quoted source ++ ": " ++ trouble.words)
  | .ok (place, .directory) =>
    if !deep then failed ("-r not specified; omitting directory " ++ quoted source)
    else
      match e.disk.locate ⟨true, true⟩ c.cwd (withoutSlashes target) with
      | .error trouble =>
        failed ("cannot create directory " ++ quoted target ++ ": " ++ trouble.words)
      | .ok goal =>
        if place.isPrefixOf goal then
          failed ("cannot copy a directory, " ++ quoted source ++ ", into itself, " ++ quoted target)
        else
          match e.disk.get? goal with
          | none | some .directory =>
            let tree := (e.disk.subtree place).mergeSort fun a b =>
              "/".intercalate a.1 ≤ "/".intercalate b.1
            let tree := if tree.any fun (below, _) => below = [] then tree
              else ([], .directory) :: tree
            let e := tree.foldl (fun e (below, _) =>
              told e ("/".intercalate (source :: below)) ("/".intercalate (target :: below))) e
            { e with disk := e.disk.graft goal tree }
          | some _ =>
            failed ("cannot overwrite non-directory " ++ quoted target ++ " with directory "
              ++ quoted source)
  | .ok (place, node) =>
    if isDirectory e.disk c.cwd target && target.toList.getLast? ≠ some '/' then
      failed ("cannot overwrite directory " ++ quoted target ++ " with non-directory")
    else if node.isLink then
      match placeOf e.disk c.cwd false target with
      | .error trouble =>
        failed ("cannot create symbolic link " ++ quoted target ++ ": " ++ trouble.words)
      | .ok goal => told { e with disk := e.disk.put goal node } source target
    else
      let isDangling := match entry e.disk c.cwd target, e.disk.find c.cwd target with
        | .ok (_, .link _), .error _ => true
        | _, _ => false
      if isDangling then failed ("not writing through dangling symlink " ++ quoted target)
      else
        match placeOf e.disk c.cwd true target with
        | .error trouble =>
          failed ("cannot create regular file " ++ quoted target ++ ": "
            ++ (if trouble = .missing && target.toList.getLast? = some '/' then
              Trouble.notDirectory.words else trouble.words))
        | .ok goal =>
          if goal = place then
            failed (quoted source ++ " and " ++ quoted target ++ " are the same file")
          else
            match e.disk.get? goal, node with
            | some (.file _ executable), .file content _ =>
              if a.has 'n' then e
              else told { e with disk := e.disk.put goal (.file content executable) } source target
            | some (.file ..), _ | none, _ =>
              let node := match node with
                | .file .. | .program _ => node
                | device => .file ((Disk.contentOf device).toOption.getD "") false
              told { e with disk := e.disk.put goal node } source target
            | some _, _ => told e source target

/-- A tool that brings things to a target. -/
def bringing (o : Options) (one : Arguments → Call → Effect → String → String → Effect) : Tool :=
  withOptions o 1 fun a c =>
    match destination a c with
    | .error (true, text) => misused 1 text c
    | .error (false, text) => refuses 1 text c
    | .ok x => x.sources.foldl (fun e source => one a c e source (x.pathOf source)) (Effect.nothing c)

/-- Copy files. -/
def cp : Tool :=
  bringing ⟨"abdfHiLlnPpRrst:Tuvx", [("archive", 'a'), ("force", 'f'), ("recursive", 'r'),
    ("no-clobber", 'n'), ("verbose", 'v'), ("target-directory", 't'), ("no-target-directory", 'T'),
    ("dereference", 'L'), ("no-dereference", 'P'), ("preserve", 'p')], ['p'], true⟩ copyOne

/-- Move one thing. -/
def moveOne (a : Arguments) (c : Call) (e : Effect) (source target : String) : Effect :=
  let failed (text : String) : Effect := e.complain c.name 1 text
  match entry e.disk c.cwd source with
  | .error trouble => failed ("cannot stat " ++ quoted source ++ ": " ++ trouble.words)
  | .ok (place, node) =>
    let bare := withoutSlashes target
    let cannotMove (trouble : Trouble) : Effect :=
      failed ("cannot move " ++ quoted source ++ " to " ++ quoted target ++ ": " ++ trouble.words)
    match e.disk.locate ⟨false, true⟩ c.cwd bare with
    | .error trouble => cannotMove trouble
    | .ok goal =>
      let there := e.disk.get? goal
      let isSlashed := bare ≠ target
      if goal = place then
        failed (quoted source ++ " and " ++ quoted target ++ " are the same file")
      else if node = .directory && place.isPrefixOf goal then
        failed ("cannot move " ++ quoted source ++ " to a subdirectory of itself, " ++ quoted target)
      else
        let move : Effect :=
          let e := { e with disk := e.disk.move place goal }
          if a.has 'v' then e.line ("renamed " ++ quoted source ++ " -> " ++ quoted target) else e
        match there, node with
        | some .directory, .directory =>
          if (e.disk.entries goal).isEmpty then move
          else failed ("cannot overwrite " ++ quoted target ++ ": " ++ Trouble.notEmpty.words)
        | some .directory, _ =>
          failed ("cannot overwrite directory " ++ quoted target ++ " with non-directory")
        | some _, .directory =>
          failed ("cannot overwrite non-directory " ++ quoted target ++ " with directory "
            ++ quoted source)
        | some _, _ =>
          if a.has 'n' then
            { (failed ("not replacing " ++ quoted target)) with status := 1 }
          else move
        | none, .directory => move
        | none, _ => if isSlashed then cannotMove .notDirectory else move

/-- Move files. -/
def mv : Tool :=
  bringing ⟨"bfint:Tuv", [("force", 'f'), ("no-clobber", 'n'), ("verbose", 'v'),
    ("target-directory", 't'), ("no-target-directory", 'T')], [], true⟩ moveOne

/-- Link one thing. -/
def linkOne (a : Arguments) (c : Call) (e : Effect) (source target : String) : Effect :=
  let isSymbolic := a.has 's'
  let kind := if isSymbolic then "symbolic link " else "hard link "
  let failed (text : String) : Effect := e.complain c.name 1 text
  let cannot (words : String) : Effect :=
    failed ("failed to create " ++ kind ++ quoted target ++
      (if isSymbolic || words = Trouble.alreadyThere.words then "" else " => " ++ quoted source)
        ++ ": " ++ words)
  let prepared : Except String Node :=
    if isSymbolic then .ok (.link source)
    else
      match entry e.disk c.cwd source with
      | .error trouble => .error ("failed to access " ++ quoted source ++ ": " ++ trouble.words)
      | .ok (_, .directory) => .error (shown source ++ ": hard link not allowed for directory")
      | .ok (_, node) => .ok node
  match prepared with
  | .error text => failed text
  | .ok node =>
    let told (e : Effect) : Effect :=
      if a.has 'v' then
        e.line (quoted target ++ (if isSymbolic then " -> " else " => ") ++ quoted source)
      else e
    match makingTrouble? e.disk c.cwd target with
    | some .alreadyThere =>
      match a.has 'f', entry e.disk c.cwd target with
      | true, .ok (_, .directory) => failed (shown target ++ ": cannot overwrite directory")
      | true, .ok (place, _) => told { e with disk := e.disk.put place node }
      | _, _ => cannot Trouble.alreadyThere.words
    | some trouble => cannot trouble.words
    | none =>
      match make e.disk c.cwd target node with
      | .ok disk => told { e with disk := disk }
      | .error trouble => cannot trouble.words

/-- Make links. -/
def ln : Tool :=
  let options : Options := ⟨"bdfFiLnPrst:Tv", [("symbolic", 's'), ("force", 'f'),
    ("no-dereference", 'n'), ("verbose", 'v'), ("target-directory", 't'),
    ("no-target-directory", 'T')], [], true⟩
  withOptions options 1 fun a c =>
    match a.operands with
    | [one] =>
      if a.has 't' then bringing options linkOne c
      else linkOne a c (Effect.nothing c) one (below "." (baseName one))
    | _ =>
      match destination a c with
      | .error (true, text) => misused 1 text c
      | .error (false, text) => refuses 1 text c
      | .ok x =>
        let isLink := a.has 'n' && (entry c.disk c.cwd x.target) matches .ok (_, .link _)
        let x := { x with isInto := x.isInto && !isLink }
        x.sources.foldl (fun e source => linkOne a c e source (x.pathOf source)) (Effect.nothing c)

/-! ## Looking -/

/-- How much of a path must be there for it to be resolved. -/
inductive Needed where
  | all
  | directories
  | nothing
  deriving Repr, DecidableEq

/-- The place that a path leads to, as far as it must be there. -/
def resolve (d : Disk) (cwd : Place) (needed : Needed) (path : String) : Except Trouble Place :=
  match needed with
  | .all => do
    let place ← d.locate ⟨true, false⟩ cwd path
    if (d.get? place).isSome then .ok place else .error .missing
  | .directories => d.locate ⟨true, true⟩ cwd (if path.isEmpty then path else withoutSlashes path)
  | .nothing =>
    .ok ((Disk.names path).foldl (fun place name =>
      if name = "" || name = "." then place
      else if name = ".." then place.dropLast
      else
        match d.walk ⟨true, false⟩ Disk.linkLimit place [name] with
        | .ok place => place
        | .error _ => place ++ [name]) (Disk.startOf cwd path))

/-- Which resolution options ask for. -/
def neededBy (a : Arguments) : Option Needed :=
  (a.last? ['f', 'e', 'm']).map fun letter =>
    if letter = 'e' then .all else if letter = 'm' then .nothing else .directories

/-- Write where links point to. -/
def readlink : Tool :=
  let options : Options := ⟨"femnqsvz", [("canonicalize", 'f'), ("canonicalize-existing", 'e'),
    ("canonicalize-missing", 'm'), ("no-newline", 'n'), ("quiet", 'q'), ("silent", 's'),
    ("verbose", 'v'), ("zero", 'z')], [], true⟩
  forOperands options "missing operand" fun a c e path =>
    let stop := if a.has 'n' && a.operands.length = 1 then "" else itemEnd a 'z'
    let failed (words : String) : Effect :=
      if a.has 'v' then e.complain c.name 1 (shown path ++ ": " ++ words) else { e with status := 1 }
    match neededBy a with
    | some needed =>
      match resolve e.disk c.cwd needed path with
      | .ok place => e.out (place.path.text ++ stop)
      | .error trouble => failed trouble.words
    | none =>
      match entry e.disk c.cwd path with
      | .ok (_, .link target) => e.out (target ++ stop)
      | .ok _ => failed "Invalid argument"
      | .error trouble => failed trouble.words

/-- Write the paths that files really have. -/
def realpath : Tool :=
  let options : Options := ⟨"emLPqsz", [("canonicalize-existing", 'e'),
    ("canonicalize-missing", 'm'), ("quiet", 'q'), ("strip", 's'), ("no-symlinks", 's'),
    ("zero", 'z')], [], true⟩
  forOperands options "missing operand" fun a c e path =>
    let plain : Place := (Disk.names path).foldl (fun place name =>
      if name = "" || name = "." then place
      else if name = ".." then place.dropLast else place ++ [name]) (Disk.startOf c.cwd path)
    let found := if a.has 's' then .ok plain
      else resolve e.disk c.cwd ((neededBy a).getD .directories) path
    match found with
    | .ok place => e.out (place.path.text ++ itemEnd a 'z')
    | .error trouble =>
      if a.has 'q' then { e with status := 1 }
      else e.complain c.name 1 (shown path ++ ": " ++ trouble.words)

/-- What stands behind a name in a list. -/
def indicator (a : Arguments) (node : Node) : String :=
  match node with
  | .directory => if a.has 'F' || a.has 'p' then "/" else ""
  | .link _ => if a.has 'F' then "@" else ""
  | node => if a.has 'F' && node.isExecutable then "*" else ""

/-- Write names, one to a line or all together. -/
def nameList (a : Arguments) (names : List String) : String :=
  let names := names.map fun name => if a.has 'Q' then "\"" ++ name ++ "\"" else name
  if a.has 'm' then (if names.isEmpty then "" else ", ".intercalate names ++ "\n")
  else unlines names

/-- Write the names in directories, each under its path, and in those below if that is asked for;
`fuel` bounds the depth. -/
def listDirectories (a : Arguments) (d : Disk) (headed : Bool) : Nat → List (String × Place) →
    List String
  | 0, _ => []
  | _ + 1, [] => []
  | fuel + 1, (path, place) :: rest =>
    let names := (d.entries place).filter fun name =>
      a.has 'a' || a.has 'A' || !Text.startsWith name "."
    let names := if a.has 'a' then "." :: ".." :: names else names
    let names := if a.has 'r' then names.reverse else names
    let nodeOf (name : String) : Node := (d.get? (place ++ [name])).getD .directory
    let body := nameList a (names.map fun name => name ++ indicator a (nodeOf name))
    let inner := if a.has 'R' then
        names.filterMap fun name =>
          if name ≠ "." && name ≠ ".." && nodeOf name = .directory then
            some (below path name, place ++ [name])
          else none
      else []
    ((if headed then path ++ ":\n" else "") ++ body) :: listDirectories a d headed fuel (inner ++ rest)

/-- Write what is in directories. -/
def ls : Tool :=
  let options : Options := ⟨"aAbBcCdfFgGhHiklLmnNopqQrRsStuUvw:xXZ1", [("all", 'a'),
    ("almost-all", 'A'), ("directory", 'd'), ("classify", 'F'), ("recursive", 'R'),
    ("reverse", 'r'), ("quote-name", 'Q'), ("color", 'G'), ("file-type", 'p')], ['G', 'F'], true⟩
  withOptions options 2 fun a c =>
    let operands := if a.operands.isEmpty then ["."] else a.operands
    let follows := !a.has 'F' && !a.has 'd' && !a.has 'l'
    let look (path : String) : Except Trouble (Place × Node) :=
      match c.disk.locate ⟨true, false⟩ c.cwd path with
      | .ok place =>
        let node := (c.disk.get? place).getD .directory
        if node = .directory && (follows || path.toList.getLast? = some '/') then .ok (place, node)
        else entry c.disk c.cwd path
      | .error trouble =>
        match entry c.disk c.cwd path with
        | .ok found => .ok found
        | .error _ => .error trouble
    let e := operands.foldl (fun e path =>
      match look path with
      | .ok _ => e
      | .error trouble =>
        e.complain c.name 2 ("cannot access " ++ quoted path ++ ": " ++ trouble.words))
      (Effect.nothing c)
    let found := operands.filterMap fun path => (look path).toOption.map fun x => (path, x)
    let ordered := found.mergeSort fun x y => if a.has 'r' then y.1 ≤ x.1 else x.1 ≤ y.1
    let (directories, files) := ordered.partition fun (_, _, node) => node = .directory && !a.has 'd'
    let e := e.out (nameList a (files.map fun (path, _, node) => path ++ indicator a node))
    let headed := 1 < operands.length || a.has 'R'
    let blocks := listDirectories a c.disk headed (c.disk.nodes.length + operands.length + 1)
      (directories.map fun (path, place, _) => (path, place))
    e.out ((if !files.isEmpty && !blocks.isEmpty then "\n" else "") ++ "\n".intercalate blocks)

/-- What kind of thing something is. -/
def kindWords : Node → String
  | .file content _ => if content.isEmpty then "regular empty file" else "regular file"
  | .program _ => "regular file"
  | .directory => "directory"
  | .link _ => "symbolic link"
  | .sink | .zeros | .stream _ => "character special file"

/-- How big something is. -/
def nodeSize : Node → Nat
  | .file content _ => content.length
  | .program _ => Disk.programContent.length
  | .directory => 4096
  | .link target => target.length
  | .sink | .zeros | .stream _ => 0

/-- Write what is known of a file by a format. -/
def describeBy (path : String) (node : Node) : List Char → String
  | '%' :: letter :: rest =>
    let mode := match node with
      | .directory | .program _ | .file _ true => ("755", "rwxr-xr-x")
      | .link _ => ("777", "rwxrwxrwx")
      | .file _ false => ("644", "rw-r--r--")
      | _ => ("666", "rw-rw-rw-")
    let kind := match node with
      | .directory => "d"
      | .link _ => "l"
      | .sink | .zeros | .stream _ => "c"
      | _ => "-"
    let value := match letter with
      | 'n' => path
      | 'N' => (match node with
        | .link target => quoted path ++ " -> " ++ quoted target
        | _ => quoted path)
      | 's' => toString (nodeSize node)
      | 'F' => kindWords node
      | 'a' => mode.1
      | 'A' => kind ++ mode.2
      | 'U' | 'G' => "root"
      | 'u' | 'g' => "0"
      | '%' => "%"
      | _ => "?"
    value ++ describeBy path node rest
  | c :: rest => String.singleton c ++ describeBy path node rest
  | [] => ""

/-- Write what is known of files. -/
def stat : Tool :=
  let options : Options := ⟨"c:Lft", [("format", 'c'), ("printf", 't'), ("dereference", 'L')], [],
    true⟩
  forOperands options "missing operand" fun a c e path =>
    let found := if a.has 'L' then (c.disk.find c.cwd path).map fun node => ([], node)
      else entry c.disk c.cwd path
    match found with
    | .ok (_, node) => e.line (describeBy path node ((a.value? 'c').getD "%n").toList)
    | .error trouble => e.complain c.name 1 ("cannot statx " ++ quoted path ++ ": " ++ trouble.words)

/-! ## Sizes and names -/

/-- Give files a size. -/
def truncate : Tool :=
  let options : Options := ⟨"cor:s:", [("no-create", 'c'), ("size", 's')], [], true⟩
  withOptions options 1 fun a c =>
    match a.value? 's', a.operands with
    | none, _ => misused 1 "you must specify either '--size' or '--reference'" c
    | some _, [] => misused 1 "missing file operand" c
    | some size, paths =>
      let sign := size.toList.headD '0'
      let signed := ['+', '-', '<', '>', '/', '%'].contains sign
      match count? (if signed then (size.drop 1).toString else size) with
      | none => refuses 1 ("Invalid number: " ++ escaped size) c
      | some n =>
        let resize (before : String) : String :=
          let length := before.length
          let size := if sign = '+' then length + n else if sign = '-' then length - n else n
          (before.take size).toString.pushn '\x00' (size - length)
        paths.foldl (fun e path =>
          if a.has 'c' && !e.disk.exists? c.cwd path then e
          else
            match e.disk.update c.cwd path resize with
            | .ok disk => { e with disk := disk }
            | .error trouble =>
              e.complain c.name 1
                ("cannot open " ++ quoted path ++ " for writing: " ++ trouble.words))
          (Effect.nothing c)

/-- Letters for a number, the last one first. -/
def lettersFor : Nat → Nat → List Char
  | 0, _ => []
  | count + 1, n => Char.ofNat ('a'.toNat + n % 26) :: lettersFor count (n / 26)

/-- Make a file or a directory of a name that is not there yet. -/
def mktemp : Tool :=
  let options : Options := ⟨"dp:qtuT:", [("directory", 'd'), ("tmpdir", 'p'), ("quiet", 'q'),
    ("dry-run", 'u'), ("suffix", 'T')], ['p'], true⟩
  withOptions options 1 fun a c =>
    match a.operands with
    | _ :: _ :: _ => misused 1 "too many templates" c
    | operands =>
      let usual := ((c.environment.lookup "TMPDIR").filter (!·.isEmpty)).getD "/tmp"
      let name := operands.headD "tmp.XXXXXXXXXX"
      let template :=
        match (a.value? 'p').filter (!·.isEmpty) with
        | some directory => below directory name
        | none => if operands.isEmpty || a.has 't' || a.has 'p' then below usual name else name
      let front := (template.toList.reverse.dropWhile (· ≠ 'X')).reverse
      let back := template.toList.drop front.length
      let count := (front.reverse.takeWhile (· = 'X')).length
      if count < 3 then refuses 1 ("too few X's in template " ++ quoted template) c
      else
        let attempt (n : Nat) : String :=
          String.ofList (front.take (front.length - count) ++ lettersFor count n ++ back)
        let free := (List.range (c.disk.nodes.length + 1)).find? fun n =>
          !(entry c.disk c.cwd (attempt n)).toBool
        let path := attempt (free.getD 0)
        let isDirectory := a.has 'd'
        let made := if a.has 'u' then .ok c.disk
          else make c.disk c.cwd path (if isDirectory then .directory else .file "" false)
        match made with
        | .ok disk => ({ Effect.nothing c with disk := disk }).line path
        | .error trouble =>
          refuses 1 ("failed to create " ++ (if isDirectory then "directory" else "file")
            ++ " via template " ++ quoted template ++ ": " ++ trouble.words) c

end CSharpBuild.Machine.Tool
