import DefaultCredentials.Proofs.OrderedDiscovery
import DefaultCredentials.Proofs.ScopeTexts
import DefaultCredentials.Proofs.TraceView

/-!
# Paths that stay what they are

A credential file may be named from the working directory, by dots and double dots, with slashes
doubled or at the end.  Before anything is done with such a name it is made a path from the root
with nothing left to resolve: `Path.IsStable`.  The text of such a path is read as that path again
(`Path.ofText_toText`), from wherever that happens (`Path.absolute_toText`).

`Discovery.pointer_stable` says so of the file that a variable names, which is one path from the
look for it to the failure to find it.
-/

namespace DefaultCredentials

/-- The path that is looked for, if something that happened is such a look. -/
def Happening.sought? : Happening → Option Path
  | .sought p => some p
  | _ => none

/-- The path that is read, if something that happened is such a reading. -/
def Happening.opened? : Happening → Option Path
  | .opened p => some p
  | _ => none

namespace Path

/-- What can stand between two slashes and leads down: no dot and no double dot. -/
structure IsName (part : String) : Prop where
  ne_empty : part ≠ ""
  ne_dot : part ≠ "."
  ne_up : part ≠ ".."
  no_slash : '/' ∉ part.toList

/-- Below the root, which is one slash or two, there are only names. -/
structure IsStable (p : Path) : Prop where
  root : p.slashes = 1 ∨ p.slashes = 2
  names : ∀ part ∈ p.parts, IsName part

/-- Two slashes at the start of a text, and not a third. -/
def StartsDouble (s : String) : Prop :=
  ['/', '/'] <+: s.toList ∧ ¬ ['/', '/', '/'] <+: s.toList

variable {p : Path} {part s directory : String} {cs : List Char}

theorem IsName.isPart (hn : IsName part) : isPart part = true := by
  simp [Path.isPart, hn.ne_empty, hn.ne_dot]

/-! ### Leading slashes -/

theorem leading_le (cs : List Char) : leading cs ≤ 2 := by
  unfold leading
  dsimp only
  split <;> omega

theorem leading_eq_zero_iff : leading cs = 0 ↔ cs.head? ≠ some '/' := by
  cases cs with
  | nil => simp [leading]
  | cons c rest =>
      by_cases hc : c = '/'
      · subst hc
        have hne : leading ('/' :: rest) ≠ 0 := by
          simp only [leading, List.takeWhile_cons, beq_self_eq_true, if_true, List.length_cons]
          split <;> omega
        simpa using hne
      · simp [leading, hc]

theorem replicate_prefix_iff (n : Nat) :
    List.replicate n '/' <+: cs ↔ n ≤ (cs.takeWhile (· == '/')).length := by
  induction cs generalizing n with
  | nil => cases n <;> simp
  | cons c rest ih =>
      cases n with
      | zero => simp
      | succ n =>
          by_cases hc : c = '/'
          · simp [List.replicate_succ, hc, ih]
          · simp [List.replicate_succ, hc, Ne.symm hc]

theorem leading_eq_two_iff : leading s.toList = 2 ↔ StartsDouble s := by
  have htwo : ['/', '/'] <+: s.toList ↔ 2 ≤ (s.toList.takeWhile (· == '/')).length :=
    replicate_prefix_iff 2
  have hthree : ['/', '/', '/'] <+: s.toList ↔ 3 ≤ (s.toList.takeWhile (· == '/')).length :=
    replicate_prefix_iff 3
  rw [StartsDouble, htwo, hthree]
  unfold leading
  dsimp only
  split <;> omega

theorem takeWhile_slash_append (hcs : cs.head? ≠ some '/') (front : List Char) :
    (front ++ cs).takeWhile (· == '/') = front.takeWhile (· == '/') := by
  have hnone : cs.takeWhile (· == '/') = [] := by
    cases cs with
    | nil => rfl
    | cons c rest =>
        have hc : c ≠ '/' := fun he => hcs (congrArg some he)
        simp [hc]
  rw [List.takeWhile_append, hnone, List.append_nil]
  split
  · rename_i hlength
    exact ((List.takeWhile_prefix _).eq_of_length hlength).symm
  · rfl

theorem leading_replicate_append {n : Nat} (hn : n ≤ 2) (hcs : cs.head? ≠ some '/') :
    leading (List.replicate n '/' ++ cs) = n := by
  simp [leading, takeWhile_slash_append hcs, hn]

theorem isAbsolute_ofText_iff : (ofText s).isAbsolute = true ↔ s.toList.head? = some '/' := by
  have hzero : leading s.toList = 0 ↔ s.toList.head? ≠ some '/' := leading_eq_zero_iff
  simp [isAbsolute, ofText, hzero]

theorem leading_below (directory : String) (hs : s.toList.head? ≠ some '/') :
    leading (below directory s).toList = leading directory.toList := by
  have htake : (below directory s).toList.takeWhile (· == '/') =
      directory.toList.takeWhile (· == '/') := by
    unfold below
    split
    · rw [String.toList_append, takeWhile_slash_append hs]
    · rename_i hlast
      -- The directory does not end with a slash, so that its leading slashes end inside it.
      rw [String.toList_append, String.toList_append, List.append_assoc, List.takeWhile_append,
        if_neg]
      intro hlength
      have hall := List.takeWhile_eq_self_iff.mp
        ((List.takeWhile_prefix _).eq_of_length hlength)
      refine hlast (Option.all_eq_true_iff_get _ _ |>.mpr fun hsome => hall _ ?_)
      exact List.mem_of_getLast? (Option.eq_some_of_isSome hsome)
  simp [leading, htake]

/-- Below the root there is still one slash. -/
example : below "/" "key.json" = "/key.json" := by decide

/-! ### Parts -/

theorem mem_parts_ofText (hp : part ∈ (ofText s).parts) :
    isPart part = true ∧ '/' ∉ part.toList := by
  obtain ⟨hpiece, hpart⟩ := List.mem_filter.mp hp
  obtain ⟨piece, hmem, rfl⟩ := List.mem_map.mp hpiece
  refine ⟨hpart, ?_⟩
  rw [String.toList_ofList]
  exact (intercalate_pieces '/' s.toList).2 piece hmem

/-- Resolving double dots from the root makes no parts. -/
theorem mem_climb {sofar rest : List String} (hp : part ∈ climb true sofar rest) :
    part ∈ sofar ∨ part ∈ rest := by
  fun_induction climb true sofar rest with
  | case1 sofar => exact .inl (List.mem_reverse.mp hp)
  | case2 rest ih => exact .inr (List.mem_cons_of_mem _ ((ih hp).resolve_left (by simp)))
  | case3 rest before ih =>
      rcases ih hp with hsofar | hrest
      · rcases List.mem_cons.mp hsofar with rfl | hsofar
        · exact .inl List.mem_cons_self
        · exact .inl hsofar
      · exact .inr (List.mem_cons_of_mem _ hrest)
  | case4 rest last before hlast ih =>
      exact (ih hp).imp (List.mem_cons_of_mem last) (List.mem_cons_of_mem _)
  | case5 sofar first rest hfirst ih =>
      rcases ih hp with hsofar | hrest
      · rcases List.mem_cons.mp hsofar with rfl | hsofar
        · exact .inr List.mem_cons_self
        · exact .inl hsofar
      · exact .inr (List.mem_cons_of_mem _ hrest)

theorem climb_of_not_mem {fromRoot : Bool} {rest : List String} (hr : ".." ∉ rest)
    (sofar : List String) : climb fromRoot sofar rest = sofar.reverse ++ rest := by
  induction rest generalizing sofar with
  | nil => simp [climb]
  | cons part rest ih =>
      obtain ⟨hpart, hrest⟩ := not_or.mp (mt List.mem_cons.mpr hr)
      unfold climb
      rw [if_neg (Ne.symm hpart), ih hrest, List.reverse_cons, List.append_assoc,
        List.singleton_append]

theorem isStable_resolved (hs : (ofText s).isAbsolute = true) : (ofText s).resolved.IsStable := by
  have hne : (ofText s).slashes ≠ 0 := by simpa [isAbsolute] using hs
  have hle : (ofText s).slashes ≤ 2 := leading_le s.toList
  refine ⟨?_, fun part hp => ?_⟩
  · have hslashes : (ofText s).resolved.slashes = (ofText s).slashes := rfl
    omega
  · have hclimb : part ∈ climb true [] (ofText s).parts := hs ▸ hp
    have hup : part ≠ ".." := fun he => not_mem_climb [] _ List.not_mem_nil (he ▸ hclimb)
    have hmem := (mem_climb hclimb).resolve_left List.not_mem_nil
    obtain ⟨hpart, hslash⟩ := mem_parts_ofText hmem
    simp only [isPart, Bool.and_eq_true, bne_iff_ne] at hpart
    exact ⟨hpart.1, hpart.2, hup, hslash⟩

/-! ### The text of a stable path -/

theorem toText_of_isAbsolute (hp : p.isAbsolute = true) :
    p.toText = String.ofList (List.replicate p.slashes '/') ++ "/".intercalate p.parts := by
  have hne : String.ofList (List.replicate p.slashes '/') ++ "/".intercalate p.parts ≠ "" := by
    intro he
    have hlength := congrArg String.length he
    simp only [String.length_append, String.length_ofList, List.length_replicate] at hlength
    have hslashes : p.slashes ≠ 0 := by simpa [isAbsolute] using hp
    have hzero : "".length = 0 := rfl
    omega
  simp [toText, hne]

theorem pieces_replicate_append (n : Nat) (cs : List Char) :
    pieces '/' (List.replicate n '/' ++ cs) = List.replicate n [] ++ pieces '/' cs := by
  induction n with
  | zero => rfl
  | succ n ih =>
      rw [List.replicate_succ, List.cons_append, ← List.nil_append ('/' :: _),
        pieces_append List.not_mem_nil, ih, List.replicate_succ, List.cons_append]

theorem head?_intercalate {piece : List Char} (hp : piece ≠ []) (rest : List (List Char)) :
    (['/'].intercalate (piece :: rest)).head? = piece.head? := by
  cases rest with
  | nil => rw [List.intercalate_singleton]
  | cons next rest =>
      rw [List.intercalate_cons_cons, List.append_assoc, List.head?_append_of_ne_nil _ hp]

theorem getLast?_intercalate {pieces : List (List Char)} (hne : pieces ≠ [])
    (hpieces : ∀ piece ∈ pieces, piece ≠ []) :
    ∃ piece ∈ pieces, (['/'].intercalate pieces).getLast? = piece.getLast? := by
  induction pieces with
  | nil => exact absurd rfl hne
  | cons piece rest ih =>
      by_cases hrest : rest = []
      · refine ⟨piece, List.mem_cons_self, ?_⟩
        rw [hrest, List.intercalate_singleton]
      · obtain ⟨last, hlast, heq⟩ := ih hrest fun p hp => hpieces p (List.mem_cons_of_mem _ hp)
        have hsome : last.getLast?.isSome := by
          simpa using hpieces last (List.mem_cons_of_mem _ hlast)
        refine ⟨last, List.mem_cons_of_mem _ hlast, ?_⟩
        rw [List.intercalate_cons_of_ne_nil hrest, List.getLast?_append, heq,
          Option.or_of_isSome hsome]

namespace IsStable

theorem isAbsolute (hp : p.IsStable) : p.isAbsolute = true := by
  rcases hp.root with h | h <;> simp [Path.isAbsolute, h]

theorem toList_toText (hp : p.IsStable) :
    p.toText.toList =
      List.replicate p.slashes '/' ++ ['/'].intercalate (p.parts.map String.toList) := by
  rw [toText_of_isAbsolute hp.isAbsolute, String.toList_append, String.toList_ofList,
    String.toList_intercalate]
  rfl

theorem head?_names (hp : p.IsStable) :
    (['/'].intercalate (p.parts.map String.toList)).head? ≠ some '/' := by
  cases hparts : p.parts with
  | nil => simp
  | cons first rest =>
      have hfirst := hp.names first (by simp [hparts])
      rw [List.map_cons, head?_intercalate (by simpa using hfirst.ne_empty)]
      exact fun hhead => hfirst.no_slash (List.mem_of_head? hhead)

theorem getLast?_toText (hp : p.IsStable) (hne : p.parts ≠ []) :
    p.toText.toList.getLast? ≠ some '/' := by
  have hpieces : ∀ piece ∈ p.parts.map String.toList, piece ≠ [] ∧ '/' ∉ piece := by
    intro piece hpiece
    obtain ⟨part, hpart, rfl⟩ := List.mem_map.mp hpiece
    exact ⟨by simpa using (hp.names part hpart).ne_empty, (hp.names part hpart).no_slash⟩
  obtain ⟨last, hlast, heq⟩ := getLast?_intercalate (by simpa using hne)
    fun piece hpiece => (hpieces piece hpiece).1
  have hsome : last.getLast?.isSome := by simpa using (hpieces last hlast).1
  rw [hp.toList_toText, List.getLast?_append, heq, Option.or_of_isSome hsome]
  exact fun hslash => (hpieces last hlast).2 (List.mem_of_getLast? hslash)

theorem filter_pieces (hp : p.IsStable) :
    ((pieces '/' (['/'].intercalate (p.parts.map String.toList))).map String.ofList).filter
      Path.isPart = p.parts := by
  by_cases hnil : p.parts = []
  · rw [hnil]
    rfl
  · have hslash : ∀ piece ∈ p.parts.map String.toList, '/' ∉ piece := by
      intro piece hpiece
      obtain ⟨part, hpart, rfl⟩ := List.mem_map.mp hpiece
      exact (hp.names part hpart).no_slash
    rw [pieces_intercalate (by simpa using hnil) hslash, List.map_map]
    have hid : String.ofList ∘ String.toList = id := funext fun _ => String.ofList_toList
    rw [hid, List.map_id, List.filter_eq_self]
    exact fun part hpart => (hp.names part hpart).isPart

/-- A stable path is read from its text. -/
theorem ofText_toText (hp : p.IsStable) : ofText p.toText = p := by
  have hle : p.slashes ≤ 2 := by rcases hp.root with h | h <;> omega
  have hslashes : (ofText p.toText).slashes = p.slashes := by
    simp only [ofText]
    rw [hp.toList_toText, leading_replicate_append hle hp.head?_names]
  have hparts : (ofText p.toText).parts = p.parts := by
    simp only [ofText]
    have hnone : isPart "" = false := rfl
    rw [hp.toList_toText, pieces_replicate_append, List.map_append, List.filter_append,
      hp.filter_pieces]
    simp [hnone]
  exact congrArg₂ Path.mk hslashes hparts

theorem resolved_eq (hp : p.IsStable) : p.resolved = p := by
  have hup : ".." ∉ p.parts := fun hm => (hp.names _ hm).ne_up rfl
  simp [resolved, climb_of_not_mem hup]

/-- From anywhere, the text of a stable path names that path. -/
theorem absolute_toText (hp : p.IsStable) (directory : String) :
    absolute directory p.toText = p := by
  rw [absolute, hp.ofText_toText, if_pos hp.isAbsolute, hp.resolved_eq]

end IsStable

/-! ### Absolute paths -/

theorem head?_toText (hp : p.isAbsolute = true) : p.toText.toList.head? = some '/' := by
  obtain ⟨n, hn⟩ : ∃ n, p.slashes = n + 1 :=
    Nat.exists_eq_succ_of_ne_zero (by simpa [isAbsolute] using hp)
  rw [toText_of_isAbsolute hp, hn, String.toList_append, String.toList_ofList,
    List.replicate_succ, List.cons_append, List.head?_cons]

/-- Seen from a directory with a root, every text names a stable path, whose root is that of the
text if it has one, and else that of the directory. -/
theorem isStable_absolute (hd : directory.toList.head? = some '/') (s : String) :
    (absolute directory s).IsStable ∧ (absolute directory s).slashes =
      leading (if s.toList.head? = some '/' then s else directory).toList := by
  unfold absolute
  by_cases hs : s.toList.head? = some '/'
  · have habsolute := isAbsolute_ofText_iff.mpr hs
    rw [if_pos habsolute, if_pos hs]
    exact ⟨isStable_resolved habsolute, rfl⟩
  · have hbelow := leading_below directory hs
    have habsolute : (ofText (below directory s)).isAbsolute = true := by
      have hzero : leading directory.toList ≠ 0 := fun he => leading_eq_zero_iff.mp he hd
      simpa [isAbsolute, ofText, hbelow] using hzero
    rw [if_neg (mt isAbsolute_ofText_iff.mp hs), if_neg hs]
    exact ⟨isStable_resolved habsolute, hbelow⟩

end Path

namespace Discovery

variable {s : Scope} {channel : Channel} {decoder : Decoder} {h : Host} {value : String}

/-- A file is read only where the look for it found one. -/
theorem fromPointer_looks (channel : Channel) (decoder : Decoder)
    (hv : Given s h pointerVariable value) :
    (h.isFile (h.absolutePath value) = .ok true ∧ (fromPointer s channel decoder h).2 =
      h.noting (h.readings (h.absolutePath value) decoder ++ [.sought (h.absolutePath value)])) ∨
    (h.isFile (h.absolutePath value) ≠ .ok true ∧ (fromPointer s channel decoder h).2 =
      h.noting [.sought (h.absolutePath value)]) := by
  cases hf : h.isFile (h.absolutePath value) with
  | error why =>
      refine .inr ⟨by simp, ?_⟩
      simp only [fromPointer, variableOf_eq_some_iff.mpr hv, Host.seek, hf]
      rfl
  | ok there =>
      cases there with
      | true => exact .inl ⟨rfl, congrArg Prod.snd (fromPointer_of_file hv hf)⟩
      | false => exact .inr ⟨by simp, congrArg Prod.snd (fromPointer_of_missing hv hf)⟩

theorem sought?_readings (p : Path) (decoder : Decoder) :
    (h.readings p decoder).filterMap Happening.sought? = [] := by
  unfold Host.readings
  split <;> rfl

theorem opened?_readings (p : Path) (decoder : Decoder) :
    (h.readings p decoder).filterMap Happening.opened? = [p] := by
  unfold Host.readings
  split <;> rfl

/-- **One path for one pointer.**  Whatever value a variable has for the credential file, and from
whatever directory with a root, the path that is looked for is the one that is read, if it is
there, and the one in the failure, if it is missing.  It leads from the root by names alone, with a
slash at its end only if it is the root; the root is two slashes exactly if the value, or else the
directory, starts with just two.  Its text names the same path from anywhere. -/
theorem pointer_stable (channel : Channel) (decoder : Decoder)
    (hv : Given s h pointerVariable value) (hw : h.workingDirectory.isAbsolute = true) :
    let p := h.absolutePath value
    let attempt := fromPointer s channel decoder h
    h.Shows Happening.sought? attempt.2 [p] ∧
    (h.isFile p = .ok true → h.Shows Happening.opened? attempt.2 [p]) ∧
    (h.isFile p ≠ .ok true → h.Shows Happening.opened? attempt.2 []) ∧
    (h.isFile p = .ok false → attempt.1 =
      .error (.failure (.pointerMissing (.text pointerVariable) (.text p.toText)))) ∧
    p.IsStable ∧
    p.toText = String.ofList (List.replicate p.slashes '/') ++ "/".intercalate p.parts ∧
    (p.parts ≠ [] → p.toText.toList.getLast? ≠ some '/') ∧
    (p.slashes = 2 ↔ Path.StartsDouble
      (if value.toList.head? = some '/' then value else h.workingDirectory.toText)) ∧
    ∀ directory, Path.absolute directory p.toText = p := by
  intro p attempt
  obtain ⟨hstable, hroot⟩ := Path.isStable_absolute (Path.head?_toText hw) value
  refine ⟨?_, ?_, ?_, ?_, hstable, Path.toText_of_isAbsolute hstable.isAbsolute,
    hstable.getLast?_toText, ?_, hstable.absolute_toText⟩
  · rcases fromPointer_looks channel decoder hv with ⟨-, heq⟩ | ⟨-, heq⟩
    · refine ⟨_, congrArg Host.trace heq, ?_⟩
      rw [List.filterMap_append, sought?_readings]
      rfl
    · exact ⟨_, congrArg Host.trace heq, rfl⟩
  · intro hf
    rcases fromPointer_looks channel decoder hv with ⟨-, heq⟩ | ⟨hne, -⟩
    · refine ⟨_, congrArg Host.trace heq, ?_⟩
      rw [List.filterMap_append, opened?_readings]
      rfl
    · exact absurd hf hne
  · intro hne
    rcases fromPointer_looks channel decoder hv with ⟨hf, -⟩ | ⟨-, heq⟩
    · exact absurd hf hne
    · exact ⟨_, congrArg Host.trace heq, rfl⟩
  · exact fun hf => congrArg Prod.fst (fromPointer_of_missing hv hf)
  · rw [← Path.leading_eq_two_iff, ← hroot]
    rfl

/-- A host that works in a directory of its own, with nothing in its file tree. -/
def strolling : Host :=
  { Host.empty with workingDirectory := ⟨1, ["home", "user"]⟩ }

/-- A scope in which the file is named from the working directory, up and down. -/
def wandering : Scope where
  environment := some [(pointerVariable, "./../user/..//key.json/")]
  platform := "linux"
  home := none
  adapters := []
  settings := .standard

/-- Up and down again, and the path that is looked for and missing is the same. -/
theorem pointer_stable_wandering :
    (fromPointer wandering .main .json strolling).1 =
        .error (.failure (.pointerMissing (.text pointerVariable) (.text "/home/key.json"))) ∧
      strolling.Shows Happening.sought? (fromPointer wandering .main .json strolling).2
        [⟨1, ["home", "key.json"]⟩] ∧
      ∀ directory, Path.absolute directory "/home/key.json" = ⟨1, ["home", "key.json"]⟩ := by
  have hv : Given wandering strolling pointerVariable "./../user/..//key.json/" :=
    ⟨rfl, by decide⟩
  have hpath : strolling.absolutePath "./../user/..//key.json/" =
      ⟨1, ["home", "key.json"]⟩ := by
    decide
  have hmissing : strolling.isFile ⟨1, ["home", "key.json"]⟩ = .ok false := by
    rfl
  obtain ⟨hsought, -, -, hnamed, -, -, -, -, hagain⟩ := pointer_stable .main .json hv rfl
  rw [hpath] at hsought hnamed hagain
  exact ⟨hnamed hmissing, hsought, hagain⟩

end Discovery
end DefaultCredentials
