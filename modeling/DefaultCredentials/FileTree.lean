import DefaultCredentials.Path
import DefaultCredentials.Text.Utf8

/-!
# Files

A tree of files and directories, held as a list of places from the root.  `locate` walks a path as
a file system does: every part but the last must be a directory, and a double dot climbs only
from a directory that exists.  The tree is that of a process with all rights: it may search every
directory and read every file, so that no walk is `denied`.
-/

namespace DefaultCredentials

/-- What stands at a place. -/
inductive Node
  | file (bytes : List UInt8)
  | program (name : String)
  | device
  | directory
  deriving Repr, DecidableEq

/-- Why a file cannot be had. -/
inductive Obstacle
  | missing
  | denied
  | notDirectory
  | isDirectory
  | nameTooLong
  deriving Repr, DecidableEq

namespace Obstacle

/-- The number that systems give an obstacle. -/
def code : Obstacle → Nat
  | missing => 2
  | denied => 13
  | notDirectory => 20
  | isDirectory => 21
  | nameTooLong => 36

/-- The wording of an obstacle. -/
def wording : Obstacle → String
  | missing => "No such file or directory"
  | denied => "Permission denied"
  | notDirectory => "Not a directory"
  | isDirectory => "Is a directory"
  | nameTooLong => "File name too long"

/-- Obstacles that mean that nothing is there. -/
def isAbsence : Obstacle → Bool
  | missing => true
  | notDirectory => true
  | _ => false

end Obstacle

/-- Files and directories by their parts from the root. -/
structure FileTree where
  nodes : List (List String × Node)
  deriving Repr, Inhabited

namespace FileTree

def empty : FileTree :=
  ⟨[]⟩

/-- What stands at a place. -/
def node? (t : FileTree) (place : List String) : Option Node :=
  if place.isEmpty then some .directory else t.nodes.lookup place

/-- Puts a node at a place, over what was there. -/
def set (t : FileTree) (place : List String) (n : Node) : FileTree :=
  ⟨(place, n) :: t.nodes.filter (·.1 != place)⟩

def makeDirectories (t : FileTree) (place : List String) : FileTree :=
  (List.range place.length).foldl (fun t n =>
    let above := place.take n
    if (t.node? above).isSome then t else t.set above .directory) t

/-- Puts a node at a place and makes the directories above it. -/
def add (t : FileTree) (place : List String) (n : Node) : FileTree :=
  (t.makeDirectories place).set place n

/-- The most octets in a name. -/
def maxName : Nat :=
  255

/-- The most octets in a path. -/
def maxPath : Nat :=
  4095

/-- Walks down from a place that holds a directory. -/
def walk (t : FileTree) : List String → List String → Except Obstacle (List String)
  | place, [] => .ok place
  | place, part :: rest =>
    match t.node? place with
    | some .directory =>
      if part = ".." then walk t place.dropLast rest
      else if maxName < (Utf8.encode part).length then .error .nameTooLong
      else
        match t.node? (place ++ [part]) with
        | none => .error .missing
        | some _ => walk t (place ++ [part]) rest
    | some _ => .error .notDirectory
    | none => .error .missing

/-- The place that a path names, seen from a working directory. -/
def locate (t : FileTree) (workingDirectory : Path) (p : Path) : Except Obstacle (List String) :=
  if maxPath < (Utf8.encode p.toText).length then .error .nameTooLong
  else if p.isAbsolute then t.walk [] p.parts
  else t.walk [] (workingDirectory.parts ++ p.parts)

/-- What stands where a path leads. -/
def find (t : FileTree) (workingDirectory p : Path) : Except Obstacle Node :=
  match t.locate workingDirectory p with
  | .error o => .error o
  | .ok place =>
    match t.node? place with
    | some n => .ok n
    | none => .error .missing

/-- The octets of the file at a path. -/
def contents (t : FileTree) (workingDirectory p : Path) : Except Obstacle (List UInt8) :=
  match t.find workingDirectory p with
  | .error o => .error o
  | .ok .directory => .error .isDirectory
  | .ok (.file bytes) => .ok bytes
  | .ok _ => .ok []

/-- Whether a test that looked for a node found one that passes.  Absence is an answer; other
obstacles are not. -/
def holds (test : Node → Bool) : Except Obstacle Node → Except Obstacle Bool
  | .ok n => .ok (test n)
  | .error o => if o.isAbsence then .ok false else .error o

def isRegular : Node → Bool
  | .file _ => true
  | .program _ => true
  | _ => false

def isFile (t : FileTree) (workingDirectory p : Path) : Except Obstacle Bool :=
  holds isRegular (t.find workingDirectory p)

/-- Whether a path leads anywhere. -/
def exists? (t : FileTree) (workingDirectory p : Path) : Except Obstacle Bool :=
  holds (fun _ => true) (t.find workingDirectory p)

def remove (t : FileTree) (workingDirectory p : Path) : Except Obstacle FileTree :=
  match t.locate workingDirectory p with
  | .error o => .error o
  | .ok place =>
    match t.node? place with
    | some .directory => .error .isDirectory
    | _ => .ok ⟨t.nodes.filter (·.1 != place)⟩

end FileTree
end DefaultCredentials
