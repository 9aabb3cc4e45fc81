/-!
# Paths

A path is a number of leading slashes and its parts.  Reading a path drops empty parts and single
dots but keeps double dots; exactly two leading slashes stay two.  `Path.resolved` also resolves
double dots against the parts before them, and `Path.absolute` starts from a directory.
-/

namespace DefaultCredentials

/-- A path: none, one or two leading slashes, and the parts between slashes. -/
structure Path where
  slashes : Nat
  parts : List String
  deriving Repr, DecidableEq, Inhabited

namespace Path

/-- How many leading slashes count: two stay two, more than two are one. -/
def leading (cs : List Char) : Nat :=
  let n := (cs.takeWhile (· == '/')).length
  if n ≤ 2 then n else 1

/-- The pieces of a text between separators. -/
def pieces (separator : Char) : List Char → List (List Char)
  | [] => [[]]
  | c :: rest =>
    if c == separator then [] :: pieces separator rest
    else match pieces separator rest with
      | [] => [[c]]
      | p :: ps => (c :: p) :: ps

/-- Whether a part is kept when a path is read. -/
def isPart (part : String) : Bool :=
  part != "" && part != "."

def ofText (s : String) : Path :=
  { slashes := leading s.toList
    parts := ((pieces '/' s.toList).map String.ofList).filter isPart }

/-- Writes a path; the empty one is a dot. -/
def toText (p : Path) : String :=
  let body := String.ofList (List.replicate p.slashes '/') ++ "/".intercalate p.parts
  if body == "" then "." else body

def isAbsolute (p : Path) : Bool :=
  p.slashes != 0

def join (p : Path) (parts : List String) : Path :=
  { p with parts := p.parts ++ parts }

/-- Resolves double dots, the parts so far given with the last one first.  At the root they have
no effect; at the start of a path that is not absolute they stay. -/
def climb (isAbsolute : Bool) : List String → List String → List String
  | sofar, [] => sofar.reverse
  | sofar, part :: rest =>
    if part = ".." then
      match sofar with
      | [] => climb isAbsolute (if isAbsolute then [] else [".."]) rest
      | last :: before =>
        if last = ".." then climb isAbsolute (".." :: sofar) rest
        else climb isAbsolute before rest
    else climb isAbsolute (part :: sofar) rest

/-- A path with its double dots resolved. -/
def resolved (p : Path) : Path :=
  { p with parts := climb p.isAbsolute [] p.parts }

/-- A text set below a directory, with one slash between them. -/
def below (directory s : String) : String :=
  if directory.toList.getLast?.all (· == '/') then directory ++ s else directory ++ "/" ++ s

/-- The absolute path that a text names from a working directory. -/
def absolute (workingDirectory s : String) : Path :=
  if (ofText s).isAbsolute then (ofText s).resolved
  else (ofText (below workingDirectory s)).resolved

/-- Below an absolute start no double dot survives. -/
theorem not_mem_climb (sofar rest : List String) (h : ".." ∉ sofar) :
    ".." ∉ climb true sofar rest := by
  induction rest generalizing sofar with
  | nil => simpa [climb] using h
  | cons part rest ih =>
    unfold climb
    split
    · split
      · simpa using ih [] (by simp)
      · rename_i last before
        have hl : last ≠ ".." := fun e => h (e ▸ List.mem_cons_self)
        simp only [hl, if_false]
        exact ih before fun hm => h (List.mem_cons_of_mem _ hm)
    · rename_i hp
      refine ih _ fun hm => ?_
      rcases List.mem_cons.1 hm with e | hm
      · exact hp e.symm
      · exact h hm

theorem pieces_of_not_mem {separator : Char} {cs : List Char} (hs : separator ∉ cs) :
    pieces separator cs = [cs] := by
  induction cs with
  | nil => rfl
  | cons c rest ih =>
    obtain ⟨hc, hrest⟩ := not_or.mp (mt List.mem_cons.mpr hs)
    have hne : (c == separator) = false := by simpa using Ne.symm hc
    simp [pieces, hne, ih hrest]

theorem ofText_slash {part : String} (hs : '/' ∉ part.toList) (hp : isPart part = true) :
    ofText ("/" ++ part) = ⟨1, [part]⟩ := by
  have htake : part.toList.takeWhile (· == '/') = [] := by
    cases hcs : part.toList with
    | nil => rfl
    | cons c rest =>
      have hc : '/' ≠ c := fun he => hs (by rw [hcs, he]; exact List.mem_cons_self)
      simp [hc.symm]
  have hempty : isPart "" = false := rfl
  simp [ofText, leading, pieces, pieces_of_not_mem hs, htake, hp, hempty]

theorem toText_slash (part : String) : toText ⟨1, [part]⟩ = "/" ++ part := by
  simp [toText]

end Path
end DefaultCredentials
