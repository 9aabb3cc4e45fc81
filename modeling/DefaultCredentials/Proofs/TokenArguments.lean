import DefaultCredentials.Cli

/-!
# Arguments that ask for a token

A token is asked for by the name of its command, and the scopes for it are given as a text, joined
to their option by an equals sign or as the argument after it.  `Cli.AsksForToken` lists these
forms, and `Cli.parse_of_asksForToken` says that they are read as they are meant, whatever the text
is: the program leaves what it does not know to the command, and the command knows its option.
-/

namespace DefaultCredentials.Cli

/-- The arguments that ask for a token, with the text in which the scopes are given.  A text that
starts with a dash can only be given together with its option. -/
inductive AsksForToken : List String → Option String → Prop
  | bare : AsksForToken ["token"] none
  | joined (text : String) : AsksForToken ["token", "--scopes=" ++ text] (some text)
  | apart {text : String} : text.toList.head? ≠ some '-' →
      AsksForToken ["token", "--scopes", text] (some text)

section arguments

variable {options : List OptionSpec} {arg text : String}

theorem sort_cons {s : Sorted} {rest : List String} {sorted : List (Sorted × String)}
    (hne : arg ≠ "--") (hs : sortOne options arg = .ok s) (hrest : sort options rest = .ok sorted) :
    sort options (arg :: rest) = .ok ((s, arg) :: sorted) := by
  simp only [sort, beq_eq_false_iff_ne.mpr hne, hs, hrest]
  rfl

theorem sortOne_of_head? (hd : arg.toList.head? ≠ some '-') :
    sortOne options arg = .ok (.word arg) := by
  simp [sortOne, hd]

theorem ne_of_head? (hd : arg.toList.head? ≠ some '-') : arg ≠ "--" := by
  rintro rfl
  exact hd rfl

theorem splitAtEquals_joined (text : String) :
    splitAtEquals ("--scopes=" ++ text).toList = some ("--scopes".toList, text.toList) := by
  simp [splitAtEquals]

theorem joined_ne (text name : String) (hn : '=' ∉ name.toList) : "--scopes=" ++ text ≠ name := by
  rintro rfl
  simp at hn

theorem lookup_joined (options : List OptionSpec) (text : String)
    (hn : ∀ s ∈ spellings options, '=' ∉ s.1.toList) :
    (spellings options).lookup ("--scopes=" ++ text) = none := by
  rw [List.lookup_eq_none_iff]
  intro s hs
  exact bne_iff_ne.mpr (joined_ne text s.1 (hn s hs))

theorem shortFor_joined (options : List OptionSpec) (text : String)
    (hn : ∀ s ∈ spellings options, "--scopes".toList.isPrefixOf s.1.toList = false) :
    shortFor options ("--scopes=" ++ text).toList = [] := by
  have hchars : ("--scopes=" ++ text).toList = '-' :: '-' :: ("scopes=".toList ++ text.toList) := by
    simp
  have hsplit := splitAtEquals_joined text
  rw [hchars] at hsplit ⊢
  simp only [shortFor, hsplit]
  refine List.filterMap_eq_nil_iff.mpr fun s hs => ?_
  rw [hn s hs]
  rfl

theorem sortOne_mainOptions_joined (text : String) :
    ∃ s, sortOne mainOptions ("--scopes=" ++ text) = .ok s := by
  have hexact := lookup_joined mainOptions text (by decide)
  have hname : (spellings mainOptions).lookup (String.ofList "--scopes".toList) = none := by decide
  have hshort := shortFor_joined mainOptions text (by decide)
  simp only [sortOne, hexact, splitAtEquals_joined, Option.bind_some, hname, Option.map_none,
    hshort]
  repeat' split
  all_goals exact ⟨_, rfl⟩

theorem sortOne_token_joined (text : String) :
    sortOne CommandName.token.options ("--scopes=" ++ text) =
      .ok (.option ⟨⟨.scopes, ["--scopes"], true⟩, "--scopes", some text, true⟩) := by
  have hexact := lookup_joined CommandName.token.options text (by decide)
  have hname : (spellings CommandName.token.options).lookup (String.ofList "--scopes".toList) =
      some ⟨.scopes, ["--scopes"], true⟩ := by decide
  simp only [sortOne, hexact, splitAtEquals_joined, Option.bind_some, hname, Option.map_some]
  simp

end arguments

theorem readWith_token {rest : List String} {sorted : List (Sorted × String)} (c : Choices)
    (hs : sort mainOptions rest = .ok sorted) (hrest : sorted.map (·.2) = rest) :
    readWith mainOptions true c ("token" :: rest) = .ok ⟨c, [], "token" :: rest⟩ := by
  have hsorted : sort mainOptions ("token" :: rest) = .ok ((.word "token", "token") :: sorted) :=
    sort_cons (by decide) (sortOne_of_head? (by decide)) hs
  simp [readWith, hsorted, consume, hrest]

theorem parse_of_readWith {rest : List String} {main own : List (Sorted × String)}
    {scopes : Option String} (hmain : sort mainOptions rest = .ok main)
    (htexts : main.map (·.2) = rest) (hown : sort CommandName.token.options rest = .ok own)
    (hread : consume CommandName.token.options false ⟨none, false, none⟩ [] own =
      .ok ⟨⟨none, false, scopes⟩, [], []⟩) :
    parse ("token" :: rest) = .ok ⟨⟨none, false, scopes⟩, .token⟩ := by
  have hword : CommandName.ofWord? "token" = some .token := by decide
  have hread' : readWith CommandName.token.options false ⟨none, false, none⟩ rest =
      .ok ⟨⟨none, false, scopes⟩, [], []⟩ := by
    rw [readWith, hown]
    exact hread
  rw [parse, readWith_token ⟨none, false, none⟩ hmain htexts]
  simp only [hword, hread']
  rfl

/-- Arguments that ask for a token are read so. -/
theorem parse_of_asksForToken {args : List String} {scopes : Option String}
    (ha : AsksForToken args scopes) : parse args = .ok ⟨⟨none, false, scopes⟩, .token⟩ := by
  have hnil (options : List OptionSpec) : sort options [] = .ok [] := rfl
  cases ha with
  | bare => exact parse_of_readWith (hnil _) rfl (hnil _) rfl
  | joined text =>
      obtain ⟨s, hs⟩ := sortOne_mainOptions_joined text
      have hne := joined_ne text "--" (by decide)
      exact parse_of_readWith (sort_cons hne hs (hnil _)) rfl
        (sort_cons hne (sortOne_token_joined text) (hnil _)) rfl
  | @apart text hd =>
      have hmain : sortOne mainOptions "--scopes" = .ok (.unknown "--scopes") := rfl
      have hown : sortOne CommandName.token.options "--scopes" =
          .ok (.option ⟨⟨.scopes, ["--scopes"], true⟩, "--scopes", none, false⟩) := rfl
      have htext (options : List OptionSpec) :
          sort options [text] = .ok [(.word text, text)] :=
        sort_cons (ne_of_head? hd) (sortOne_of_head? hd) (hnil options)
      exact parse_of_readWith (sort_cons (by decide) hmain (htext _)) rfl
        (sort_cons (by decide) hown (htext _)) rfl

end DefaultCredentials.Cli
