import SessionTokens.Text.Utf8
/-!
# Files

The files and folders below the working directory, as far as a persistent store needs them: it
reads one file, and replaces it by writing another beside it and renaming that.

**Paths.** A path is walked segment by segment. Empty segments and `.` stay, `..` goes up, and
every segment but the last has to lead into a folder.

* `node?_place`: **what is put under a name stands there**.
* `node?_place_of_ne`: all else stays as it is.
-/

namespace SessionTokens

/-- What stands under a name. -/
inductive Node
  | folder
  | file (content : Bytes)
deriving DecidableEq, Repr

/-- Why a path cannot be used. -/
inductive PathFault
  | missing
  | notFolder
  | isFolder
  | refused
deriving DecidableEq, Repr

/-- The nodes below the working directory, each under the names that lead to it. -/
structure FileTree where
  nodes : List (List (List Char) × Node)
deriving Repr

namespace FileTree

/-- A working directory with nothing in it. -/
def empty : FileTree := ⟨[]⟩

/-- What stands at the end of a list of names, the working directory itself being a folder. -/
def node? (t : FileTree) (names : List (List Char)) : Option Node :=
  if names = [] then some .folder else (t.nodes.find? fun n => n.1 = names).map (·.2)

/-- The tree without one node. -/
def clear (t : FileTree) (names : List (List Char)) : FileTree :=
  ⟨t.nodes.filter fun n => n.1 ≠ names⟩

/-- The tree with one node set. -/
def place (t : FileTree) (names : List (List Char)) (n : Node) : FileTree :=
  ⟨(names, n) :: (t.clear names).nodes⟩

/-! ## Paths -/

/-- The parts of a path between its slashes. -/
def segments : List Char → List (List Char)
  | [] => [[]]
  | c :: rest =>
    if c = '/' then [] :: segments rest
    else
      match segments rest with
      | [] => [[c]]
      | s :: ss => (c :: s) :: ss

/-- The longest name in bytes. -/
def maxName : Nat := 255

/-- The longest path in bytes. -/
def maxPath : Nat := 4095

/-- The number of bytes of a name. -/
def byteLength (cs : List Char) : Nat := (cs.map Char.utf8Size).foldl (· + ·) 0

/-- The names that segments lead to from a folder. The last of them need not exist. -/
def walk (t : FileTree) (here : List (List Char)) :
    List (List Char) → Except PathFault (List (List Char))
  | [] => .ok here
  | s :: rest =>
    if s = [] || s = ['.'] then walk t here rest
    else if s = ['.', '.'] then if here = [] then .error .refused else walk t here.dropLast rest
    else if maxName < byteLength s then .error .refused
    else if rest = [] then .ok (here ++ [s])
    else
      match t.node? (here ++ [s]) with
      | none => .error .missing
      | some (.file _) => .error .notFolder
      | some .folder => walk t (here ++ [s]) rest

/-- The names that a path leads to. -/
def locate (t : FileTree) (path : String) : Except PathFault (List (List Char)) :=
  let cs := path.toList
  if cs = [] then .error .missing
  else if cs.contains '\x00' || maxPath < byteLength cs then .error .refused
  else walk t [] (segments cs)

/-- Without the segments at the end that do not lead anywhere; a first segment stays. -/
def trimSegments (ss : List (List Char)) : List (List Char) :=
  match ss with
  | [] => []
  | first :: rest =>
    first :: (rest.reverse.dropWhile fun s => s = [] || s = ['.']).reverse

/-- The path of the folder that a path's last name stands in; `.` if the path is a name alone. -/
def parentPath (path : String) : String :=
  let parent := trimSegments ((trimSegments (segments path.toList)).dropLast)
  let text := (parent.intersperse ['/']).flatten
  if text = [] then "." else String.ofList text

/-! ## Operations -/

/-- What a path leads to. -/
def status (t : FileTree) (path : String) : Except PathFault Node := do
  let names ← t.locate path
  match t.node? names with
  | none => .error .missing
  | some n => .ok n

/-- The content of a file. -/
def read (t : FileTree) (path : String) : Except PathFault Bytes := do
  match ← t.status path with
  | .folder => .error .isFolder
  | .file content => .ok content

/-- The tree with a file written, which is made if it is missing. -/
def write (t : FileTree) (path : String) (content : Bytes) : Except PathFault FileTree := do
  let names ← t.locate path
  match t.node? names with
  | some .folder => .error .isFolder
  | _ => .ok (t.place names (.file content))

/-- The tree with a file moved to another path, in place of a file there. -/
def rename (t : FileTree) (source target : String) : Except PathFault FileTree := do
  let names ← t.locate source
  let content ← t.read source
  (t.clear names).write target content

/-- A path without the slashes at its end, unless it has nothing else. -/
def trimSlashes (path : String) : String :=
  match path.toList.reverse.dropWhile (· = '/') with
  | [] => path
  | back => String.ofList back.reverse

/-- The tree with a new folder, whose path may end with slashes. -/
def makeFolder (t : FileTree) (path : String) : Except PathFault FileTree := do
  let names ← t.locate (trimSlashes path)
  match t.node? names with
  | none => .ok (t.place names .folder)
  | some _ => .error .refused

/-- Whether the last segment of a path that is not empty is the one that stays where it is. -/
def endsHere (path : String) : Bool :=
  ((segments path.toList).filter (· ≠ [])).getLast? = some ['.']

/-- The tree without a file or an empty folder, which has to be named by its own name. -/
def remove (t : FileTree) (path : String) : Except PathFault FileTree := do
  if endsHere path then throw .refused
  let names ← t.locate path
  match t.node? names with
  | none => .error .missing
  | some _ =>
    if names = [] || t.nodes.any fun n => n.1 ≠ names && names.isPrefixOf n.1 then .error .refused
    else .ok (t.clear names)

/-- The names in the working directory. -/
def topNames (t : FileTree) : List String :=
  t.nodes.filterMap fun n =>
    match n.1 with
    | [name] => some (String.ofList name)
    | _ => none

/-! ## Reading what was written -/

theorem node?_place (t : FileTree) {names : List (List Char)} (h : names ≠ []) (n : Node) :
    (t.place names n).node? names = some n := by
  simp [node?, place, h]

theorem node?_place_of_ne (t : FileTree) {names names' : List (List Char)} (h : names' ≠ names)
    (n : Node) : (t.place names n).node? names' = t.node? names' := by
  unfold node?
  split
  · rfl
  · have hne : ¬names = names' := fun e => h e.symm
    simp only [place, clear, List.find?_cons, hne, decide_false, List.find?_filter]
    congr 2
    funext m
    by_cases hm : m.1 = names'
    · simp [hm, h]
    · simp [hm]

end FileTree

end SessionTokens
