import DefaultCredentials.Command.Program

/-!
# A small shell

Scripts of simple commands with quotes, joined by `;`, line ends, `&&`, `||` and `|`, with output
sent elsewhere by `>&2` or `>/dev/null`.  A script that is written otherwise does not run.
-/

namespace DefaultCredentials.Shell

/-- A piece of a script: a word, or one of the signs that join and redirect. -/
inductive Piece
  | word (s : String)
  | sign (s : String)
  deriving Repr, DecidableEq

/-- The signs, longer ones before those that begin them. -/
def signs : List String :=
  ["2>/dev/null", "2>&1", "1>&2", ">&2", ">/dev/null", "&&", "||", ";", "|", "\n"]

/-- How characters are read: outside quotes or inside one of the two kinds. -/
inductive Mode
  | bare
  | single
  | double
  deriving Repr, DecidableEq

def close (open? : Option (List Char)) (pieces : List Piece) : List Piece :=
  match open? with
  | some cs => .word (String.ofList cs.reverse) :: pieces
  | none => pieces

/-- Reads a script after a number of characters that are passed over; the pieces so far have the
last one first. -/
def read : Nat → Mode → Option (List Char) → List Piece → List Char → Option (List Piece)
  | _, .bare, open?, pieces, [] => some (close open? pieces).reverse
  | _, _, _, _, [] => none
  | passed + 1, mode, open?, pieces, _ :: rest => read passed mode open? pieces rest
  | 0, mode, open?, pieces, c :: rest =>
    let grown := fun (x : Char) => some (x :: open?.getD [])
    match mode with
    | .single =>
      if c == '\'' then read 0 .bare open? pieces rest
      else read 0 .single (grown c) pieces rest
    | .double =>
      if c == '"' then read 0 .bare open? pieces rest
      else if c == '\\' then
        match rest with
        | next :: _ =>
          if next == '"' || next == '\\' || next == '$' then
            read 1 .double (grown next) pieces rest
          else read 0 .double (grown c) pieces rest
        | [] => none
      else read 0 .double (grown c) pieces rest
    | .bare =>
      if c == '\'' then read 0 .single (some (open?.getD [])) pieces rest
      else if c == '"' then read 0 .double (some (open?.getD [])) pieces rest
      else if c == '\\' then
        match rest with
        | next :: _ => read 1 .bare (grown next) pieces rest
        | [] => none
      else
        match signs.find? fun s => s.toList.isPrefixOf (c :: rest) with
        | some s => read (s.length - 1) .bare none (.sign s :: close open? pieces) rest
        | none =>
          if c == ' ' || c == '\t' then read 0 .bare none (close open? pieces) rest
          else if "<>&()`".toList.contains c then none
          else read 0 .bare (grown c) pieces rest

/-- The signals that end nothing. -/
def harmlessSignals : List Nat :=
  [0, 17, 18, 23, 28]

/-- Runs a simple command: its words, and where its output goes. -/
def simple (s : Surroundings) (words : List String) : Run :=
  match words with
  | [] => Program.done [] 0
  | name :: args =>
    if name == "echo" then Program.echo true args
    else if name == ":" then Program.done [] 0
    else if name == "kill" then
      match args with
      | [how, "$$"] =>
        match (if "-".toList.isPrefixOf how.toList then
            Program.signal? (String.ofList (how.toList.drop 1)) else none) with
        | some n =>
          if harmlessSignals.contains n then Program.done [] 0 else ⟨[], .signal n, 0.0⟩
        | none => Program.done [] 1
      | ["$$"] => ⟨[], .signal 15, 0.0⟩
      | _ => Program.done [] 1
    else (Program.run? s name args).getD (Program.done [] 127)

/-- Runs the commands of a pipeline, each with the output of the one before as its input. -/
def pipeline (s : Surroundings) : List (List Piece) → Run
  | [] => Program.done [] 0
  | command :: rest =>
    let words := command.filterMap fun p => match p with
      | .word w => some w
      | .sign _ => none
    let away := command.any fun p =>
      p == .sign ">&2" || p == .sign "1>&2" || p == .sign ">/dev/null"
    let r := simple s words
    let output := if away then [] else r.output
    match rest, r.ending with
    | [], _ => ⟨output, r.ending, r.seconds⟩
    | _, .signal _ => ⟨output, r.ending, r.seconds⟩
    | _, _ =>
      let later := pipeline { s with input := output } rest
      ⟨later.output, later.ending, r.seconds + later.seconds⟩

def split (sign : String) : List Piece → List (List Piece)
  | [] => [[]]
  | p :: rest =>
    if p == .sign sign then [] :: split sign rest
    else match split sign rest with
      | [] => [[p]]
      | first :: others => (p :: first) :: others

/-- A pipeline with the sign before it. -/
structure Link where
  joint : String
  body : List Piece

def links : String → List Piece → List Piece → List Link
  | joint, body, [] => [⟨joint, body.reverse⟩]
  | joint, body, p :: rest =>
    match p with
    | .sign s =>
      if s == ";" || s == "&&" || s == "||" || s == "\n" then
        ⟨joint, body.reverse⟩ :: links s [] rest
      else links joint (p :: body) rest
    | .word _ => links joint (p :: body) rest

/-- The code with which a script ends on a command that asks for it. -/
def exitCode? (body : List Piece) (last : Nat) : Option Nat :=
  match body with
  | [.word "exit"] => some last
  | [.word "exit", .word n] =>
    if !n.isEmpty && n.toList.all Char.isDigit then some (Number.digitsValue n.toList % 256)
    else some 2
  | _ => none

/-- Runs pipelines in turn, with the code of the last one and what was written so far. -/
def sequence (s : Surroundings) (last : Nat) (sofar : Run) : List Link → Run
  | [] => { sofar with ending := .exit last }
  | link :: rest =>
    let skipped := link.body.isEmpty || (link.joint == "&&" && last != 0)
      || (link.joint == "||" && last == 0)
    if skipped then sequence s last sofar rest
    else match exitCode? link.body last with
      | some code => { sofar with ending := .exit code }
      | none =>
        let r := pipeline s (split "|" link.body)
        let sofar := ⟨sofar.output ++ r.output, r.ending, sofar.seconds + r.seconds⟩
        match r.ending with
        | .exit code => sequence s code sofar rest
        | .signal _ => sofar

def script (s : Surroundings) (text : String) : Run :=
  match read 0 .bare none [] text.toList with
  | some pieces => sequence s 0 (Program.done [] 0) (links ";" [] pieces)
  | none => Program.done [] 2

/-- Runs the shell on its arguments. -/
def run (s : Surroundings) (args : List String) : Run :=
  match args with
  | "-c" :: text :: _ => script s text
  | [] => Program.done [] 0
  | _ => Program.done [] 2

/-- Runs a program by name: the shell, or one that needs none. -/
def program (s : Surroundings) (name : String) (args : List String) : Run :=
  if name == "sh" then run s args else (Program.run? s name args).getD (Program.done [] 1)

end DefaultCredentials.Shell
