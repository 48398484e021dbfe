import Collective.Path

/-!
# Trees of files

A tree of files is a working directory as a value: what is stored at each place, a
place being the list of names that lead to it from the working directory.  Paths are
followed component by component, through symbolic links.  Absolute paths and parents
of the working directory lead out of the tree, where there are directories but
nothing in them.
-/

namespace Collective

/-- A name in a directory. -/
abbrev FileName := List UInt8

/-- What a place of a tree holds. -/
inductive FileNode where
  | file (content : List UInt8)
  | link (target : Path)
  | directory
  deriving DecidableEq, Inhabited

/-- Why a file cannot be read. -/
inductive FileError where
  | notFound
  | notDirectory
  | isDirectory
  | nameTooLong
  | tooManyLinks
  | zeroByte
  | notText
  deriving DecidableEq, Repr

/-- The wording of a file error. -/
def FileError.message : FileError → String
  | .notFound => "No such file or directory (os error 2)"
  | .notDirectory => "Not a directory (os error 20)"
  | .isDirectory => "Is a directory (os error 21)"
  | .nameTooLong => "File name too long (os error 36)"
  | .tooManyLinks => "Too many levels of symbolic links (os error 40)"
  | .zeroByte => "file name contained an unexpected NUL byte"
  | .notText => "stream did not contain valid UTF-8"

/-- What a directory holds under a name, as listing it tells. -/
inductive EntryKind where
  | file
  | link
  | other
  deriving DecidableEq, Repr

/-- One entry of a directory. -/
structure DirectoryEntry where
  name : FileName
  kind : EntryKind
  deriving DecidableEq

/-- A tree of files.  The working directory itself is always there. -/
structure FileTree where
  nodes : List (List FileName × FileNode) := []

namespace FileTree

/-- What a place holds. -/
def node? (tree : FileTree) (place : List FileName) : Option FileNode :=
  if place.isEmpty then some .directory else tree.nodes.lookup place

/-- Where following a path may stand: at a place, or nowhere in the tree. -/
abbrev Position := Option (List FileName)

/-- The directory above a position. -/
def above : Position → Position
  | some place => if place.isEmpty then none else some place.dropLast
  | none => none

/-- Puts a node at a place. -/
def put (tree : FileTree) (place : List FileName) (node : FileNode) : FileTree :=
  ⟨tree.nodes.filter (fun entry => entry.1 ≠ place) ++ [(place, node)]⟩

/-- How many symbolic links are followed on one way. -/
def maxLinks : Nat := 40

/-- How many bytes a name in a directory may have. -/
def maxNameLength : Nat := 255

/-- How many bytes a path may have. -/
def maxPathLength : Nat := 4095

/-- What a path leads to, where every component but the last exists. -/
structure Target where
  position : Position
  node : Option FileNode

/-- Follows components from a position that is a directory.  A last component may be
missing, and a link there is followed only where `followLast` says so. -/
def follow (tree : FileTree) (followLast : Bool) :
    (steps : Nat) → (links : Nat) → Position → List FileName → Except FileError Target
  | 0, _, _, _ => .error .tooManyLinks
  | _ + 1, _, none, [] => .ok ⟨none, some .directory⟩
  | _ + 1, _, some place, [] => .ok ⟨some place, tree.node? place⟩
  | steps + 1, links, position, name :: rest =>
      if name = [46] then tree.follow followLast steps links position rest
      else if name = [46, 46] then
        tree.follow followLast steps links (above position) rest
      else if maxNameLength < name.length then .error .nameTooLong
      else
        match position with
        | none => if rest.isEmpty then .ok ⟨none, none⟩ else .error .notFound
        | some place =>
            let next := place ++ [name]
            match tree.node? next with
            | none => if rest.isEmpty then .ok ⟨some next, none⟩ else .error .notFound
            | some .directory => tree.follow followLast steps links (some next) rest
            | some (.file content) =>
                if rest.isEmpty then .ok ⟨some next, some (.file content)⟩
                else .error .notDirectory
            | some (.link target) =>
                if rest.isEmpty && !followLast then .ok ⟨some next, some (.link target)⟩
                else if target.bytes.isEmpty then .error .notFound
                else
                  match links with
                  | 0 => .error .tooManyLinks
                  | links + 1 =>
                      let start := if target.isAbsolute then none else position
                      tree.follow followLast steps links start (target.components ++ rest)

/-- The place that a path leads to. -/
def locate (tree : FileTree) (path : Path) (followLast : Bool) : Except FileError Target :=
  if path.bytes.contains 0 then .error .zeroByte
  else if maxPathLength < path.bytes.length then .error .nameTooLong
  else if path.bytes.isEmpty then .error .notFound
  else
    let longest := (tree.nodes.map fun entry =>
      match entry.2 with
      | .link target => target.bytes.length + 2
      | _ => 0).foldl max 0
    let steps := path.components.length + (maxLinks + 1) * (longest + 1) + 1
    let start := if path.isAbsolute then none else some []
    tree.follow followLast steps maxLinks start path.components

/-- The content of the file that a path leads to. -/
def read (tree : FileTree) (path : Path) : Except FileError (List UInt8) := do
  match (← tree.locate path true).node with
  | some (.file content) => .ok content
  | some .directory => .error .isDirectory
  | _ => .error .notFound

/-- The text of the file that a path leads to. -/
def readText (tree : FileTree) (path : Path) : Except FileError String := do
  match (⟨← tree.read path⟩ : Path).toString? with
  | some text => .ok text
  | none => .error .notText

/-- The entries of the directory that a path leads to. -/
def list? (tree : FileTree) (path : Path) : Option (List DirectoryEntry) :=
  match tree.locate path true with
  | .ok ⟨none, some .directory⟩ => some []
  | .ok ⟨some place, some .directory⟩ =>
      some <| tree.nodes.filterMap fun (other, node) =>
        match other.getLast? with
        | some name =>
            if other.dropLast = place then
              some ⟨name,
                match node with
                | .file _ => .file
                | .link _ => .link
                | .directory => .other⟩
            else none
        | none => none
  | _ => none

/-- Makes the directory at a path, with the directories above it. -/
def makeDirectory (tree : FileTree) (path : Path) : FileTree :=
  path.components.foldl
    (fun (tree, parents) name =>
      let way := parents ++ [name]
      let joined : Path := ⟨((way.map fun name => name ++ [Path.separator]).flatten).dropLast⟩
      match tree.locate joined true with
      | .ok ⟨some place, none⟩ => (tree.put place .directory, way)
      | _ => (tree, way))
    (tree, []) |>.1

/-- The path of the directory that a path lies in. -/
def parent (path : Path) : Path :=
  ⟨(((path.components.dropLast).map fun name => name ++ [Path.separator]).flatten).dropLast⟩

/-- Makes a node at a path, with the directories above it.  A file is written through
a link; a link is made where nothing is yet. -/
def make (tree : FileTree) (path : Path) (node : FileNode) : FileTree :=
  let tree := tree.makeDirectory (parent path)
  match node with
  | .directory => tree.makeDirectory path
  | .file content =>
      match tree.locate path true with
      | .ok ⟨some place, _⟩ => tree.put place (.file content)
      | _ => tree
  | .link target =>
      match tree.locate path false with
      | .ok ⟨some place, none⟩ => tree.put place (.link target)
      | _ => tree

/-- Removes what a path leads to, a directory with all it holds and a link itself. -/
def remove (tree : FileTree) (path : Path) : FileTree :=
  match tree.locate path false with
  | .ok ⟨some place, some _⟩ => ⟨tree.nodes.filter fun entry => !place.isPrefixOf entry.1⟩
  | _ => tree

end FileTree

end Collective
