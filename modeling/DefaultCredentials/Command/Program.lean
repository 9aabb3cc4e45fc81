import DefaultCredentials.FileTree
import DefaultCredentials.Number.Literal

/-!
# Small programs

The programs that a command can name, each a function from its arguments and its input to what it
writes and how it ends.  Files are looked up in the tree from a working directory.  Time passes
only where a program waits.
-/

namespace DefaultCredentials

/-- How a program ends. -/
inductive Ending
  | exit (code : Nat)
  | signal (number : Nat)
  deriving Repr, DecidableEq

/-- What a program writes, how it ends and how many seconds it takes. -/
structure Run where
  output : List UInt8
  ending : Ending
  seconds : Float
  deriving Repr

/-- Where a program runs: the files, the working directory and the input. -/
structure Surroundings where
  files : FileTree
  directory : Path
  input : List UInt8

namespace Program

/-- A program that writes and ends at once. -/
def done (output : List UInt8) (code : Nat) : Run :=
  ⟨output, .exit code, 0.0⟩

def catOne (s : Surroundings) (name : String) : Option (List UInt8) :=
  if name == "-" then some s.input
  else (s.files.contents s.directory (.ofText name)).toOption

/-- Writes files one after the other; one that cannot be read is left out and told at the end. -/
def cat (s : Surroundings) (args : List String) : Run :=
  let parts := (if args.isEmpty then ["-"] else args).map (catOne s)
  done (parts.flatMap (·.getD [])) (if parts.all (·.isSome) then 0 else 1)

/-- Replaces escapes by the characters that they stand for. -/
def unescape : List Char → List Char
  | [] => []
  | '\\' :: c :: rest =>
    let one := match c with
      | 'n' => ['\n']
      | 't' => ['\t']
      | 'r' => ['\r']
      | '\\' => ['\\']
      | '"' => ['"']
      | other => ['\\', other]
    one ++ unescape rest
  | c :: rest => c :: unescape rest

/-- Writes its arguments with spaces between them and, unless told not to, a line end.  The flag
says whether escapes count from the start. -/
def echo (escapes : Bool) (args : List String) : Run :=
  let options := args.takeWhile fun a => a == "-n" || (!escapes && (a == "-e" || a == "-E"))
  let escapes := escapes || options.contains "-e"
  let body := (" ".intercalate (args.drop options.length)).toList
  let body := if escapes then unescape body else body
  done (Utf8.encode (String.ofList body ++ if options.contains "-n" then "" else "\n")) 0

/-- Fills a format once; gives what is left of the arguments.  An unknown directive ends it. -/
def fill : List Char → List String → List Char × List String × Bool
  | [], args => ([], args, true)
  | '%' :: c :: rest, args =>
    if c == '%' then
      let (out, args, ok) := fill rest args
      ('%' :: out, args, ok)
    else if c == 's' || c == 'b' || c == 'd' || c == 'i' || c == 'c' then
      let arg := (args.headD (if c == 'd' || c == 'i' then "0" else "")).toList
      let text := if c == 'b' then unescape arg else if c == 'c' then arg.take 1 else arg
      let (out, args, ok) := fill rest (args.drop 1)
      (text ++ out, args, ok)
    else ([], [], false)
  | c :: rest, args =>
    let (out, args, ok) := fill rest args
    (c :: out, args, ok)

/-- Fills a format as often as there are arguments; the first argument bounds that. -/
def fillAll (format : List Char) : Nat → List String → List Char × Bool
  | 0, _ => ([], true)
  | n + 1, args =>
    let (out, rest, ok) := fill format args
    if ok && !rest.isEmpty && rest.length < args.length then
      let (more, ok) := fillAll format n rest
      (out ++ more, ok)
    else (out, ok)

/-- Writes its arguments by a format. -/
def printf (args : List String) : Run :=
  match args with
  | [] => done [] 1
  | format :: args =>
    let (out, ok) := fillAll (unescape format.toList) (args.length + 1) args
    done (Utf8.encode (String.ofList out)) (if ok then 0 else 1)

/-- The seconds of one argument of `sleep`. -/
def seconds? (arg : String) : Option Float :=
  let cs := arg.toList
  let scaled := fun (unit : Float) => (Number.literal? cs.dropLast).map (· * unit)
  match cs.getLast? with
  | some 's' => scaled 1.0
  | some 'm' => scaled 60.0
  | some 'h' => scaled 3600.0
  | some 'd' => scaled 86400.0
  | _ => Number.literal? cs

def sleep (args : List String) : Run :=
  match args.mapM seconds? with
  | some (x :: xs) => ⟨[], .exit 0, xs.foldl (· + ·) x⟩
  | _ => done [] 1

/-- The number of a signal that is given by number or name. -/
def signal? (arg : String) : Option Nat :=
  let names := [("HUP", 1), ("INT", 2), ("QUIT", 3), ("ABRT", 6), ("KILL", 9), ("USR1", 10),
    ("SEGV", 11), ("USR2", 12), ("PIPE", 13), ("ALRM", 14), ("TERM", 15)]
  let cs := arg.toList
  let bare := if "SIG".toList.isPrefixOf cs then String.ofList (cs.drop 3) else arg
  if !cs.isEmpty && cs.all Char.isDigit then some (Number.digitsValue cs) else names.lookup bare

/-- Runs a program by name, if it is one of those that need no shell. -/
def run? (s : Surroundings) (name : String) (args : List String) : Option Run :=
  if name == "cat" then some (cat s args)
  else if name == "true" then some (done [] 0)
  else if name == "false" then some (done [] 1)
  else if name == "echo" then some (echo false args)
  else if name == "printf" then some (printf args)
  else if name == "sleep" then some (sleep args)
  else none

end Program
end DefaultCredentials
