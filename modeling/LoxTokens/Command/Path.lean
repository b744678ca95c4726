import LoxTokens.Text.Lines

/-!
# Paths and directories

* `Path.normalise` is the spelling of a path that is shown to the user: empty components and `.` are
  left out, `..` is kept, and of the slashes at the front one is left, or two if there were exactly
  two.
* A *way* is where a path leads from a directory, whatever its spelling: first up, by some `..`, and
  then down, by names.  `Path.step` takes one more component.
* `Directory.resolve` is what a path names, seen from a directory in which some files were placed.
  Of the world outside, it is known that the ways up lead to directories, and what was placed there.

The spelling and the way are two things.  A path is normalised without a look at the directory, so
that `a/..` is not the empty path: `a` may be no directory, and then nothing is named.
-/

set_option autoImplicit false

namespace LoxTokens

/-- The components of a path, between its slashes. -/
def Path.components (path : Text) : List Text := Text.fields '/' path

/-- A component that stays where it is. -/
def Path.isIdle (name : Text) : Bool := name = [] || name = ['.']

/-- The slashes at the front of a path that count. -/
def Path.root (path : Text) : Text :=
  match (path.takeWhile (· = '/')).length with
  | 0 => []
  | 2 => ['/', '/']
  | _ => ['/']

/-- The spelling of a path that is shown. -/
def Path.normalise (path : Text) : Text :=
  match Path.root path
      ++ ['/'].intercalate ((Path.components path).filter fun name ↦ !Path.isIdle name) with
  | [] => ['.']
  | shown => shown

/-- The component that leads up. -/
def Path.parent : Text := ['.', '.']

/-- Whether a way leads only up, or nowhere. -/
def Path.isAscent (way : List Text) : Bool := way.all (· = Path.parent)

/-- One step further on a way.  A step up takes back a step down, if there is one. -/
def Path.step (way : List Text) (name : Text) : List Text :=
  if Path.isIdle name then way
  else if name = Path.parent && !Path.isAscent way then way.dropLast
  else way ++ [name]

/-- What a path may name. -/
inductive Node
  | file (bytes : List UInt8)
  | directory
  deriving DecidableEq, Repr

/-- What is known of a directory: the ways from it that lead somewhere, the latest first. -/
structure Directory where
  entries : List (List Text × Node)
  deriving DecidableEq, Repr

namespace Directory

/-- The entries of a node that is placed at the end of a path.  All that the path passes through, on
its way up or down, is a directory. -/
def entriesAlong (node : Node) (way : List Text) : List Text → List (List Text × Node)
  | [] => [(way, node)]
  | name :: names => (way, .directory) :: entriesAlong node (Path.step way name) names

/-- A directory from the paths of what is placed in it, one after another.  A path that ends in a
slash names a directory. -/
def ofList (paths : List (Text × List UInt8)) : Directory where
  entries := (paths.flatMap fun (path, bytes) ↦
    entriesAlong (if path.getLast? = some '/' then .directory else .file bytes) []
      ((Path.components path).filter fun name ↦ !Path.isIdle name)).reverse

/-- What stands at the end of a way. -/
def node? (d : Directory) (way : List Text) : Option Node :=
  if Path.isAscent way then some .directory else d.entries.lookup way

/-- What names lead to from the end of a way.  Every name, the empty one too, needs a directory to
be looked up in. -/
def follow (d : Directory) (way : List Text) : List Text → Option Node
  | [] => d.node? way
  | name :: names =>
    if d.node? way = some .directory then d.follow (Path.step way name) names else none

/-- What a path names.  Of a path from the root it is only known that the root is a directory, and
its own parent. -/
def resolve (d : Directory) : Text → Option Node
  | [] => none
  | '/' :: path =>
    if (Path.components path).all fun name ↦ Path.isIdle name || name = Path.parent
    then some .directory else none
  | path => d.follow [] (Path.components path)

end Directory

end LoxTokens
