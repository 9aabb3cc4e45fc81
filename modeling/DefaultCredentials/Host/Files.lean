import DefaultCredentials.CredentialFile
import DefaultCredentials.Host

/-!
# The files of a host

Looking for a file and reading it, as the host sees it from its working directory.  No file has a
name with a NUL in it: looking for one finds nothing, and reading one is refused.
-/

namespace DefaultCredentials

namespace Path

/-- Whether a path has a NUL in it. -/
def hasNul (p : Path) : Bool :=
  p.parts.any fun part => part.toList.contains '\x00'

end Path

namespace Host

/-- Reports an obstacle on the way to a path. -/
def obstructed {α : Type} (p : Path) : Except Obstacle α → Except Raised α
  | .ok a => .ok a
  | .error o => .error (.trouble (.file o p.toText))

def isFile (h : Host) (p : Path) : Except Raised Bool :=
  if p.hasNul then .ok false else obstructed p (h.files.isFile h.workingDirectory p)

def seek (h : Host) (p : Path) : Except Raised Bool × Host :=
  (h.isFile p, h.note (.sought p))

/-- Whether a path leads anywhere. -/
def hasPath (h : Host) (p : Path) : Except Raised Bool :=
  if p.hasNul then .ok false else obstructed p (h.files.exists? h.workingDirectory p)

/-- The octets of the file at a path. -/
def contents (h : Host) (p : Path) : Except Raised (List UInt8) :=
  if p.hasNul then .error (.trouble .nulInPath)
  else obstructed p (h.files.contents h.workingDirectory p)

/-- What reading a document takes, the last first: the file is opened, and its text, if it has one,
goes to the decoder. -/
def readings (h : Host) (p : Path) (decoder : Decoder) : List Happening :=
  match (h.contents p).bind Decoder.textOf with
  | .ok _ => [.decoded decoder.label, .opened p]
  | .error _ => [.opened p]

def putFile (h : Host) (p : Path) (n : Node) : Host :=
  let place := if p.isAbsolute then p.parts else h.workingDirectory.parts ++ p.parts
  { h with files := h.files.add place n }

def removeFile (h : Host) (p : Path) : Except Raised Host :=
  (obstructed p (h.files.remove h.workingDirectory p)).map fun files => { h with files := files }

def absolutePath (h : Host) (s : String) : Path :=
  .absolute h.workingDirectory.toText s

end Host

namespace CredentialInfo

/-- Reads the credential file at a path.  An obstacle is a defect of the file. -/
def ofFile (h : Host) (p : Path) (decoder : Decoder) : Except Raised CredentialInfo :=
  let path : Value := .text p.toText
  match h.contents p with
  | .ok bytes => parse bytes decoder path
  | .error why =>
    .error (if why.isOf .system then (FileDefect.unreadable why).raise path else why)

end CredentialInfo
end DefaultCredentials
