/-
  CodeFigure/Files/Tree.lean
  ==========================
  **A file system held in memory.**

  A tree lists its files and directories by their names from the root down; the
  root itself is always there.  `Workspace` adds where one stands in the tree.
  That directory may be removed from under one's feet: what is left is a place
  with a parent and nothing in it, and it stays removed when a new directory of
  the same name is made.

  A path is resolved name by name.  Every name but the last has to be a
  directory, `.` and an empty name stay, `..` goes up and stops at the root.
-/
import CodeFigure.Files.Basic

namespace CodeFigure

inductive FileEntry where
  | file (content : ByteArray)
  | directory

/-- The names of a file or a directory, from the root down. -/
abbrev Path := List String

/-- Where one gets from the root by following names when nothing is missing on
    the way: `.` and an empty name stay, `..` goes up and stops at the root. -/
def Path.ofNames (names : List String) : Path :=
  names.foldl (fun path name =>
    if name = "" ∨ name = "." then path
    else if name = ".." then path.dropLast
    else path ++ [name]) []

structure FileTree where
  entries : List (Path × FileEntry)

namespace FileTree

def empty : FileTree := ⟨[]⟩

def find? (tree : FileTree) (path : Path) : Option FileEntry :=
  match path with
  | [] => some .directory
  | _ => tree.entries.lookup path

def isDirectory (tree : FileTree) (path : Path) : Bool :=
  match tree.find? path with
  | some .directory => true
  | _ => false

def put (tree : FileTree) (path : Path) (entry : FileEntry) : FileTree :=
  ⟨(path, entry) :: tree.entries.filter fun other => other.1 != path⟩

def ensure (tree : FileTree) (path : Path) : FileTree :=
  if (tree.find? path).isSome then tree else tree.put path .directory

def makeDirectory (tree : FileTree) (names : List String) : FileTree :=
  (List.range names.length).foldl
    (fun tree depth => tree.ensure (Path.ofNames (names.take (depth + 1)))) tree

def write (tree : FileTree) (names : List String) (content : ByteArray) : FileTree :=
  (tree.makeDirectory names.dropLast).put (Path.ofNames names) (.file content)

def remove (tree : FileTree) (path : Path) : FileTree :=
  ⟨tree.entries.filter fun entry => !path.isPrefixOf entry.1⟩

end FileTree

/-- A place in a tree: `lost` levels of removed directories below `base`. -/
structure Place where
  base : Path
  lost : Nat
deriving DecidableEq, Repr

namespace Place

def parent (place : Place) : Place :=
  match place.lost with
  | 0 => ⟨place.base.dropLast, 0⟩
  | lost + 1 => ⟨place.base, lost⟩

def afterRemoval (place : Place) (path : Path) : Place :=
  if path.isPrefixOf place.base then
    ⟨path.dropLast, place.lost + (place.base.length - path.dropLast.length)⟩
  else place

end Place

/-- A tree and where one stands in it. -/
structure Workspace where
  tree : FileTree
  place : Place

namespace Workspace

def maxName : Nat := 255

def maxPath : Nat := 4095

def isDirectory (workspace : Workspace) (place : Place) : Bool :=
  match place.lost with
  | 0 => workspace.tree.isDirectory place.base
  | _ => true

/-- Go from `place` to what is called `name` there. -/
def step (workspace : Workspace) (place : Place) (name : String) : Except FileError Place :=
  if !workspace.isDirectory place then .error .notADirectory
  else if name = "" ∨ name = "." then .ok place
  else if name = ".." then .ok place.parent
  else if maxName < name.utf8ByteSize then .error .nameTooLong
  else if place.lost = 0 ∧ (workspace.tree.find? (place.base ++ [name])).isSome = true then
    .ok ⟨place.base ++ [name], 0⟩
  else .error .notFound

def resolve (workspace : Workspace) (path : String) : Except FileError Place :=
  if path = "" then .error .notFound
  else if path.toList.contains '\x00' then .error .zeroInName
  else if maxPath < path.utf8ByteSize then .error .nameTooLong
  else
    let start := if path.toList.head? = some '/' then ⟨[], 0⟩ else workspace.place
    (path.splitOn "/").foldlM workspace.step start

def entryAt (workspace : Workspace) (place : Place) : Except FileError FileEntry :=
  match place.lost with
  | 0 =>
    match workspace.tree.find? place.base with
    | some entry => .ok entry
    | none => .error .notFound
  | _ => .ok .directory

/-- What `path` leads to, relative paths being relative to the place where one stands. -/
def entry (workspace : Workspace) (path : String) : Except FileError FileEntry :=
  (workspace.resolve path).bind workspace.entryAt

/-- The workspace as a file system, in which every file can be read. -/
def files (workspace : Workspace) : FileSystem where
  has path := (workspace.entry path).isOk
  read path :=
    match workspace.entry path with
    | .ok (.file content) => content
    | .ok .directory => .error .isADirectory
    | .error error => .error error

/-- The directory where one stands, unless it has been removed. -/
def currentDirectory? (workspace : Workspace) : Option Path :=
  if workspace.place.lost = 0 then some workspace.place.base else none

def write (workspace : Workspace) (names : List String) (content : ByteArray) : Workspace :=
  { workspace with tree := workspace.tree.write names content }

def makeDirectory (workspace : Workspace) (names : List String) : Workspace :=
  { workspace with tree := workspace.tree.makeDirectory names }

def remove (workspace : Workspace) (names : List String) : Workspace :=
  let path := Path.ofNames names
  ⟨workspace.tree.remove path, workspace.place.afterRemoval path⟩

def enter (workspace : Workspace) (names : List String) : Workspace :=
  let path := Path.ofNames names
  if workspace.tree.isDirectory path then { workspace with place := ⟨path, 0⟩ } else workspace

end Workspace

end CodeFigure
