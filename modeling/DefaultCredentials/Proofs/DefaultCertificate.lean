import DefaultCredentials.Proofs.NestingLimit
import DefaultCredentials.Proofs.TrustDecision
import DefaultCredentials.Trust.Provider

/-!
# Certificates that are taken if they can be had

The provider of the environment asks for no explicit keystore.  Its default one comes out of a
metadata file that names a command, of what that command writes, and of a certificate and a key in
it.  Much can go wrong on that way, and all of it is to mean that no certificate is presented.

`TrustProvider.Yields` says when a keystore comes out of it.  `TrustProvider.Passes` lists what does
not mean that there is no certificate but gets past the decision: a metadata file that nests too
deep, a time that cannot be waited for, and a path below the home of a user who is not known.
`Trust.selectFor_opportunistic` says that the decision is made wherever none of these is met, and
what it is.
-/

namespace DefaultCredentials

/-! ### What running a command comes to -/

namespace Command

variable {h : Host} {command : List String} {timeout : Float} {t : Trouble}

/-- A command can be started: its words have no NUL in them, and the first names a program. -/
def Starts (h : Host) (command : List String) : Prop :=
  (∀ word ∈ command, '\x00' ∉ word.toList) ∧
    ∃ word name, command.head? = some word ∧ program h word = .ok name

/-- A time that cannot be waited for, with the trouble that it makes: it has no end, or it has more
milliseconds than can be counted. -/
inductive IsUnwaitable (seconds : Float) : Trouble → Prop
  | infinite {negative : Bool} : Number.parts (seconds * 1000.0) = .infinite negative →
      IsUnwaitable seconds (.notWhole .infinite)
  | long {ms : Int} : Number.truncate (seconds * 1000.0) = .ok ms → maxWait < ms →
      IsUnwaitable seconds (.waitTooLong (maxClock < ms))

theorem IsUnwaitable.isLoadFailure_eq_false (hw : IsUnwaitable timeout t) :
    Trust.isLoadFailure (.trouble t) = false := by
  cases hw <;> rfl

theorem checkWait_of_isUnwaitable (hw : IsUnwaitable timeout t) :
    checkWait timeout = .error (.trouble t) := by
  cases hw with
  | @infinite negative hp => simp [checkWait, Number.truncate, hp]
  | @long ms hms hlong =>
      by_cases hclock : maxClock < ms <;> simp [checkWait, hms, hclock, hlong]

theorem checkWait_of_not_isUnwaitable (hw : ∀ t, ¬ IsUnwaitable timeout t) :
    checkWait timeout = .ok () ∨ checkWait timeout = .error (.trouble (.notWhole .notANumber)) := by
  cases hms : Number.truncate (timeout * 1000.0) with
  | ok ms =>
      have hle : ¬ maxWait < ms := fun hlong => hw _ (.long hms hlong)
      have hclock : ¬ maxClock < ms := by
        intro hlong
        have hbound : maxWait < maxClock := by decide
        omega
      exact .inl (by simp [checkWait, hms, hle, hclock])
  | error why =>
      cases why with
      | notANumber => exact .inr (by simp [checkWait, hms])
      | infinite =>
          unfold Number.truncate at hms
          split at hms
          · cases hms
          · rename_i negative hp
            exact absurd (.infinite hp) (hw _)
          · cases hms

/-- A command is run in three steps, each of which may fail: its program is found, the time is
checked once it is started, and its end is awaited. -/
theorem run_cons (h : Host) (word : String) (args : List String) (timeout : Float) :
    run h (word :: args) timeout =
      if (word :: args).any fun w => w.toList.contains '\x00' then .error (.trouble .nulInPath)
      else ((program h word).mapError fun o => .trouble (.file o word)).bind fun name =>
        (checkWait timeout).bind fun _ => outcome (word :: args) timeout (start h name args) := by
  simp only [run]
  congr 1
  cases program h word with
  | error o => rfl
  | ok name => cases checkWait timeout <;> rfl

theorem outcome_cases (command : List String) (timeout : Float) (r : Run) :
    (∃ output, outcome command timeout r = .ok output) ∨
      ∃ why, outcome command timeout r = .error why ∧ Trust.isLoadFailure why = true := by
  unfold outcome
  dsimp only
  split
  · exact .inr ⟨_, rfl, rfl⟩
  · split
    · exact .inl ⟨_, rfl⟩
    · exact .inr ⟨_, rfl, rfl⟩
    · exact .inr ⟨_, rfl, rfl⟩

/-- What keeps a command from being run tells of a keystore that cannot be had, unless it is
started and the time cannot be waited for. -/
theorem run_cases (h : Host) (command : List String) (timeout : Float) :
    (Starts h command ∧ ∃ t, IsUnwaitable timeout t) ∨
      (∃ output, run h command timeout = .ok output) ∨
      ∃ why, run h command timeout = .error why ∧ Trust.isLoadFailure why = true := by
  cases command with
  | nil => exact .inr (.inr ⟨_, rfl, rfl⟩)
  | cons word args =>
      rw [run_cons]
      split
      · exact .inr (.inr ⟨_, rfl, rfl⟩)
      · rename_i hnul
        cases hprogram : program h word with
        | error o => exact .inr (.inr ⟨_, rfl, rfl⟩)
        | ok name =>
            by_cases hw : ∃ t, IsUnwaitable timeout t
            · refine .inl ⟨⟨?_, word, name, rfl, hprogram⟩, hw⟩
              simpa using hnul
            · rcases checkWait_of_not_isUnwaitable (not_exists.mp hw) with hwait | hwait
              · rw [hwait]
                exact .inr (outcome_cases (word :: args) timeout (start h name args))
              · rw [hwait]
                exact .inr (.inr ⟨_, rfl, rfl⟩)

theorem run_of_isUnwaitable (hs : Starts h command) (hw : IsUnwaitable timeout t) :
    run h command timeout = .error (.trouble t) := by
  obtain ⟨hnul, word, name, hword, hprogram⟩ := hs
  cases command with
  | nil => cases hword
  | cons first args =>
      obtain rfl : first = word := Option.some.inj hword
      have hany : ¬ ((first :: args).any fun w => w.toList.contains '\x00') = true := by
        simpa using hnul
      rw [run_cons, if_neg hany, hprogram, checkWait_of_isUnwaitable hw]
      rfl

theorem run_noting (h : Host) (xs : List Happening) (command : List String) (timeout : Float) :
    run (h.noting xs) command timeout = run h command timeout := by
  have hat (p : Path) : programAt (h.noting xs) p = programAt h p := rfl
  have hsearch : searchPath (h.noting xs) = searchPath h := rfl
  have hfirst (places : List Path) (remembered : Obstacle) :
      firstProgram (h.noting xs) remembered places = firstProgram h remembered places := by
    induction places generalizing remembered with
    | nil => rfl
    | cons p rest ih =>
        unfold firstProgram
        rw [hat]
        cases programAt h p with
        | ok name => rfl
        | error o => exact ih _
  have hprogram (word : String) : program (h.noting xs) word = program h word := by
    unfold program
    rw [hfirst, hsearch, hat]
  cases command with
  | nil => simp only [run]
  | cons word args =>
      have hstart (name : String) : start (h.noting xs) name args = start h name args := rfl
      simp only [run_cons, hprogram, hstart]

end Command

theorem Keystore.load_eq (k : Keystore) (password : String) (h h' : Host) :
    (k.load password h).1 = (k.load password h').1 := by
  cases k with
  | pem certificates key =>
      simp only [load]
      split <;> rfl
  | custom name loading => rfl

theorem Keystore.isLoadFailure_of_load {bytes : List UInt8} {k : Keystore} {password : String}
    {h : Host} {why : Raised} (hk : ofDocument bytes = .ok k)
    (hl : (k.load password h).1 = .error why) : Trust.isLoadFailure why = true := by
  unfold ofDocument at hk
  dsimp only at hk
  split at hk
  · cases hk
  · split at hk <;> cases hk
    simp only [load] at hl
    split at hl <;> cases hl
    rfl

/-! ### What a metadata file says -/

namespace Host

variable {h : Host} {p : Path}

theorem hasPath_of_contents {bytes : List UInt8} (hc : h.contents p = .ok bytes) :
    h.hasPath p = .ok true := by
  unfold contents at hc
  unfold hasPath
  split at hc
  · cases hc
  · rename_i hnul
    rw [if_neg hnul]
    unfold FileTree.contents at hc
    unfold FileTree.exists?
    cases hf : h.files.find h.workingDirectory p with
    | ok n => rfl
    | error o => rw [hf] at hc; cases hc

theorem hasPath_cases (h : Host) (p : Path) :
    (∃ there, h.hasPath p = .ok there) ∨
      ∃ why, h.hasPath p = .error why ∧ Trust.isLoadFailure why = true := by
  unfold hasPath
  split
  · exact .inl ⟨false, rfl⟩
  · cases h.files.exists? h.workingDirectory p with
    | ok there => exact .inl ⟨there, rfl⟩
    | error o => exact .inr ⟨_, rfl, rfl⟩

theorem contents_cases (h : Host) (p : Path) :
    (∃ bytes, h.contents p = .ok bytes) ∨
      ∃ why, h.contents p = .error why ∧ Trust.isLoadFailure why = true := by
  unfold contents
  split
  · exact .inr ⟨_, rfl, rfl⟩
  · cases h.files.contents h.workingDirectory p with
    | ok bytes => exact .inl ⟨bytes, rfl⟩
    | error o => exact .inr ⟨_, rfl, rfl⟩

end Host

namespace TrustProvider

variable {s : Settings} {path : String} {h : Host} {p : Path} {command : List String} {k : Keystore}
  {t : Trouble}

section specification

variable (s : Settings) (path : String) (h : Host) (p : Path)

/-- What reading the metadata file as a document comes to, its line ends being those of any
system. -/
def Reads (outcome : Except Json.Refusal Value) : Prop :=
  ∃ bytes text, h.contents p = .ok bytes ∧ Utf8.decode bytes = .ok text ∧
    Json.read (String.ofList (unifyLineEnds text.toList)) = outcome

/-- The metadata file names a command: it is an object with a list of texts, not an empty one. -/
inductive Names : List String → Prop
  | mk {members : List (String × Value)} {word : String} {words : List String} :
      Reads h p (.ok (.object members)) →
      Value.member members "cert_provider_command" = .list ((word :: words).map .text) →
      Names (word :: words)

/-- Where the metadata file is that a process looks for, given a path or none. -/
def metadataAt : Except Raised Path :=
  expandHome h (.ofText (if path.isEmpty then defaultMetadataPath else path))

/-- What the command that is named writes has a keystore in it that loads. -/
inductive Yields : Keystore → Prop
  | mk {p : Path} {command : List String} {output : List UInt8} {k : Keystore} :
      metadataAt path h = .ok p → Names h p command →
      Command.run h command s.commandTimeout = .ok output → Keystore.ofDocument output = .ok k →
      (k.load "" h).1 = .ok () → Yields k

/-- What gets past the decision. -/
inductive Passes : Trouble → Prop
  | homeless {t : Trouble} : metadataAt path h = .error (.trouble t) → Passes t
  | nested {p : Path} {k : Json.Container} : metadataAt path h = .ok p →
      Reads h p (.error (.nesting k)) → Passes (.json (.nesting k))
  | unwaitable {p : Path} {command : List String} {t : Trouble} : metadataAt path h = .ok p →
      Names h p command → Command.Starts h command → Command.IsUnwaitable s.commandTimeout t →
      Passes t

end specification

theorem metadataAt_cases (path : String) (h : Host) :
    (∃ p, metadataAt path h = .ok p) ∨ metadataAt path h = .error (.trouble .homeUnknown) := by
  unfold metadataAt expandHome
  split
  · split
    · exact .inl ⟨_, rfl⟩
    · split
      · exact .inl ⟨_, rfl⟩
      · split
        · exact .inr rfl
        · exact .inl ⟨_, rfl⟩
  · exact .inl ⟨_, rfl⟩

theorem Passes.isLoadFailure_eq_false (hp : Passes s path h t) :
    Trust.isLoadFailure (.trouble t) = false := by
  cases hp with
  | homeless hat =>
      rcases metadataAt_cases path h with ⟨p, hok⟩ | hunknown
      · rw [hok] at hat
        cases hat
      · rw [hunknown] at hat
        cases hat
        rfl
  | nested _ _ => rfl
  | unwaitable _ _ _ hw => exact hw.isLoadFailure_eq_false

theorem commandOf_of_object {members : List (String × Value)} {word : String} {words : List String}
    (path : String)
    (hm : Value.member members "cert_provider_command" = .list ((word :: words).map .text)) :
    commandOf path (.object members) = .ok (word :: words) := by
  have htexts (words : List String) : (words.map Value.text).mapM Value.text? = some words := by
    induction words with
    | nil => rfl
    | cons w rest ih => simp [Value.text?, ih]
  rw [List.map_cons] at hm
  unfold commandOf
  dsimp only
  rw [hm]
  have hall := htexts (word :: words)
  rw [List.map_cons] at hall
  dsimp only
  rw [hall]

/-- A document that is read names a command, or what it is instead is told. -/
theorem commandOf_cases (path : String) (v : Value) :
    (∃ members word words, v = .object members ∧
      Value.member members "cert_provider_command" = .list ((word :: words).map .text)) ∨
      ∃ why, commandOf path v = .error why ∧ Trust.isLoadFailure why = true := by
  have htexts (vs : List Value) (words : List String) (hw : vs.mapM Value.text? = some words) :
      vs = words.map .text := by
    induction vs generalizing words with
    | nil => simp at hw; simp [hw]
    | cons v rest ih =>
        rw [List.mapM_cons] at hw
        cases v with
        | text s =>
            cases hrest : rest.mapM Value.text? with
            | none => simp [Value.text?, hrest] at hw
            | some more =>
                simp [Value.text?, hrest] at hw
                rw [← hw, List.map_cons, ih more hrest]
        | _ => simp [Value.text?] at hw
  unfold commandOf
  split
  · rename_i members
    split
    · rename_i first others hlist
      cases hw : (first :: others).mapM Value.text? with
      | none => exact .inr ⟨_, rfl, rfl⟩
      | some words =>
          have hall := htexts _ _ hw
          cases words with
          | nil => cases hall
          | cons word words => exact .inl ⟨members, word, words, rfl, by rw [hlist, hall]⟩
    · exact .inr ⟨_, rfl, rfl⟩
  · exact .inr ⟨_, rfl, rfl⟩

/-! ### What the command of a metadata file is -/

theorem readCommand_of_read {v : Value} (hr : Reads h p (.ok v)) :
    (h.contents p).bind (readCommand p.toText) = commandOf p.toText v := by
  obtain ⟨bytes, text, hc, hd, hj⟩ := hr
  rw [hc, Except.bind, readCommand, hd]
  dsimp only [Decoder.json]
  rw [hj]
  rfl

theorem readCommand_of_refused {r : Json.Refusal} (hr : Reads h p (.error r)) :
    (h.contents p).bind (readCommand p.toText) = .error (.trouble (.json r)) := by
  obtain ⟨bytes, text, hc, hd, hj⟩ := hr
  rw [hc, Except.bind, readCommand, hd]
  dsimp only [Decoder.json]
  rw [hj]
  rfl

theorem readCommand_of_names (hn : Names h p command) :
    (h.contents p).bind (readCommand p.toText) = .ok command := by
  cases hn with
  | mk hr hm =>
      rw [readCommand_of_read hr]
      exact commandOf_of_object _ hm

/-- A metadata file names a command or nests too deep, or there is no command to be had. -/
theorem readCommand_cases (h : Host) (p : Path) :
    (∃ command, Names h p command) ∨ (∃ k, Reads h p (.error (.nesting k))) ∨
      ∃ why, (h.contents p).bind (readCommand p.toText) = .error why ∧
        Trust.isLoadFailure why = true := by
  rcases h.contents_cases p with ⟨bytes, hc⟩ | ⟨why, hc, hw⟩
  · cases hd : Utf8.decode bytes with
    | error defect =>
        refine .inr (.inr ⟨.trouble (.octets defect), ?_, rfl⟩)
        rw [hc]
        simp only [Except.bind, readCommand, hd]
    | ok text =>
        cases hj : Json.read (String.ofList (unifyLineEnds text.toList)) with
        | ok v =>
            rcases commandOf_cases p.toText v with ⟨members, word, words, rfl, hm⟩ | ⟨why, hv, hw⟩
            · exact .inl ⟨_, .mk ⟨bytes, text, hc, hd, hj⟩ hm⟩
            · refine .inr (.inr ⟨why, ?_, hw⟩)
              rw [readCommand_of_read ⟨bytes, text, hc, hd, hj⟩]
              exact hv
        | error refusal =>
            cases refusal with
            | nesting k => exact .inr (.inl ⟨k, bytes, text, hc, hd, hj⟩)
            | misplaced c place =>
                exact .inr (.inr ⟨_, readCommand_of_refused ⟨bytes, text, hc, hd, hj⟩, rfl⟩)
            | digits count =>
                exact .inr (.inr ⟨_, readCommand_of_refused ⟨bytes, text, hc, hd, hj⟩, rfl⟩)
  · exact .inr (.inr ⟨why, by rw [hc]; rfl, hw⟩)

/-! ### What the default keystore is -/

section keystore

variable {timeout : Float}

theorem keystoreOfMetadata_of_error {why : Raised} (hp : h.hasPath p = .ok true)
    (hr : (h.contents p).bind (readCommand p.toText) = .error why) :
    (keystoreOfMetadata timeout p h).1 = .error why := by
  simp only [keystoreOfMetadata, hp, hr]

theorem hasPath_of_names (hn : Names h p command) : h.hasPath p = .ok true := by
  cases hn with
  | mk hr _ =>
      obtain ⟨_, _, hc, -, -⟩ := hr
      exact Host.hasPath_of_contents hc

theorem keystoreOfMetadata_of_names (hn : Names h p command) :
    (keystoreOfMetadata timeout p h).1 =
      ((Command.run h command timeout).bind Keystore.ofDocument).map some := by
  have hlog (e : Log.Event) : h.log e = h.noting [.logged e] := rfl
  simp only [keystoreOfMetadata, hasPath_of_names hn, readCommand_of_names hn, hlog,
    Command.run_noting]

/-- There is no keystore or one that the command that is named wrote, or none can be had, or
something else is met on the way. -/
theorem keystoreOfMetadata_cases (timeout : Float) (p : Path) (h : Host) :
    (keystoreOfMetadata timeout p h).1 = .ok none ∨
      (∃ command output k, Names h p command ∧ Command.run h command timeout = .ok output ∧
        Keystore.ofDocument output = .ok k ∧ (keystoreOfMetadata timeout p h).1 = .ok (some k)) ∨
      (∃ why, (keystoreOfMetadata timeout p h).1 = .error why ∧ Trust.isLoadFailure why = true) ∨
      (∃ k, Reads h p (.error (.nesting k))) ∨
      ∃ command t, Names h p command ∧ Command.Starts h command ∧
        Command.IsUnwaitable timeout t := by
  rcases readCommand_cases h p with ⟨command, hn⟩ | hnested | ⟨why, hr, hw⟩
  · rw [keystoreOfMetadata_of_names hn]
    rcases Command.run_cases h command timeout with ⟨hs, t, ht⟩ | ⟨output, ho⟩ | ⟨why, hr, hw⟩
    · exact .inr (.inr (.inr (.inr ⟨command, t, hn, hs, ht⟩)))
    · rw [ho]
      cases hk : Keystore.ofDocument output with
      | ok k =>
          exact .inr (.inl
            ⟨command, output, k, hn, ho, hk, by simp [Except.bind, hk, Except.map]⟩)
      | error why =>
          refine .inr (.inr (.inl ⟨why, by simp [Except.bind, hk, Except.map], ?_⟩))
          unfold Keystore.ofDocument at hk
          dsimp only at hk
          split at hk
          · cases hk
            rfl
          · split at hk <;> cases hk
            rfl
    · exact .inr (.inr (.inl ⟨why, by rw [hr]; rfl, hw⟩))
  · exact .inr (.inr (.inr (.inl hnested)))
  · rcases h.hasPath_cases p with ⟨there, hp⟩ | ⟨obstacle, hp, ho⟩
    · cases there with
      | false => exact .inl (by simp only [keystoreOfMetadata, hp])
      | true => exact .inr (.inr (.inl ⟨why, keystoreOfMetadata_of_error hp hr, hw⟩))
    · exact .inr (.inr (.inl ⟨obstacle, by simp only [keystoreOfMetadata, hp], ho⟩))

theorem keystoreOfMetadata_noting (timeout : Float) (p : Path) (h : Host) (xs : List Happening) :
    (keystoreOfMetadata timeout p (h.noting xs)).1 = (keystoreOfMetadata timeout p h).1 := by
  have hpath : (h.noting xs).hasPath p = h.hasPath p := rfl
  have hcontents : (h.noting xs).contents p = h.contents p := rfl
  have hlog (h : Host) (e : Log.Event) : h.log e = h.noting [.logged e] := rfl
  unfold keystoreOfMetadata
  rw [hpath, hcontents]
  cases h.hasPath p with
  | error why => rfl
  | ok there =>
      cases there with
      | false => rfl
      | true =>
          cases (h.contents p).bind (readCommand p.toText) with
          | error why => rfl
          | ok command => simp only [hlog, Command.run_noting]

end keystore

theorem defaultAnswer_ofSettings (s : Settings) (p : Path) (h : Host) :
    ((ofSettings s p).defaultAnswer h).1 = (keystoreOfMetadata s.commandTimeout p h).1 :=
  keystoreOfMetadata_noting s.commandTimeout p h
    [.asked .defaultKeystore, .asked .explicitKeystore, .asked .password, .asked .use]

end TrustProvider

namespace Trust

variable {s : Settings} {path : String} {h : Host} {p : Path} {k : Keystore} {t : Trouble}

/-- The decision by the provider of the environment, for settings and the path of a metadata
file. -/
def selectFor (s : Settings) (path : String) (h : Host) : Except Raised TrustConfig × Host :=
  match TrustProvider.ofEnvironment (some s) path h with
  | (.error why, h) => (.error why, h)
  | (.ok p, h) => select p h

theorem selectFor_of_homeless {why : Raised} (hat : TrustProvider.metadataAt path h = .error why) :
    selectFor s path h = (.error why, h) := by
  have hp : TrustProvider.ofEnvironment (some s) path h = (.error why, h) := by
    unfold TrustProvider.metadataAt at hat
    simp only [TrustProvider.ofEnvironment, Host.settingsOr, hat, Except.map]
  rw [selectFor, hp]

theorem selectFor_of_metadataAt (hat : TrustProvider.metadataAt path h = .ok p) :
    selectFor s path h = select (.ofSettings s p) h := by
  have hp : TrustProvider.ofEnvironment (some s) path h = (.ok (.ofSettings s p), h) := by
    unfold TrustProvider.metadataAt at hat
    simp only [TrustProvider.ofEnvironment, Host.settingsOr, hat, Except.map]
  rw [selectFor, hp]

theorem selectFor_of_passes (hs : s.useClientCertificate = true)
    (hp : TrustProvider.Passes s path h t) : (selectFor s path h).1 = .error (.trouble t) := by
  have hraised {p : Path} (hat : TrustProvider.metadataAt path h = .ok p)
      (hr : (TrustProvider.keystoreOfMetadata s.commandTimeout p h).1 = .error (.trouble t)) :
      (selectFor s path h).1 = .error (.trouble t) := by
    have hd : Raises ((TrustProvider.ofSettings s p).defaultAnswer h) "" (.trouble t) :=
      .inl (by rw [TrustProvider.defaultAnswer_ofSettings, hr])
    rw [selectFor_of_metadataAt hat, select_of_default_raises hs rfl hd, hp.isLoadFailure_eq_false]
    rfl
  cases hp with
  | homeless hat => rw [selectFor_of_homeless hat]
  | nested hat hr =>
      obtain ⟨_, _, hc, -, -⟩ := id hr
      have hpath := Host.hasPath_of_contents hc
      have hnested := TrustProvider.readCommand_of_refused hr
      exact hraised hat (TrustProvider.keystoreOfMetadata_of_error hpath hnested)
  | unwaitable hat hn hstarts hw =>
      refine hraised hat ?_
      rw [TrustProvider.keystoreOfMetadata_of_names hn, Command.run_of_isUnwaitable hstarts hw]
      rfl

theorem selectFor_of_yields (hs : s.useClientCertificate = true)
    (hy : TrustProvider.Yields s path h k) : (selectFor s path h).1 = .ok (.presenting k "") := by
  cases hy with
  | @mk p command output k hat hn ho hk hloads =>
      have hanswer : ((TrustProvider.ofSettings s p).defaultAnswer h).1 = .ok (some k) := by
        rw [TrustProvider.defaultAnswer_ofSettings, TrustProvider.keystoreOfMetadata_of_names hn,
          ho]
        simp only [Except.bind, hk, Except.map]
      have hg : Gives ((TrustProvider.ofSettings s p).defaultAnswer h) "" k := by
        refine ⟨hanswer, ?_⟩
        rw [Keystore.load_eq _ _ _ h]
        exact hloads
      rw [selectFor_of_metadataAt hat, select_of_default hs rfl hg]
      rfl

/-- If nothing gets past the decision, there is no certificate or one that the command of the
metadata file wrote. -/
theorem selectFor_cases (hs : s.useClientCertificate = true) (path : String) (h : Host) :
    (∃ t, TrustProvider.Passes s path h t) ∨ (selectFor s path h).1 = .ok .none ∨
      ∃ k, TrustProvider.Yields s path h k := by
  rcases TrustProvider.metadataAt_cases path h with ⟨p, hat⟩ | hat
  · rw [selectFor_of_metadataAt hat]
    have hanswer := TrustProvider.defaultAnswer_ofSettings s p h
    rcases TrustProvider.keystoreOfMetadata_cases s.commandTimeout p h with
      hnone | ⟨command, output, k, hn, ho, hk, hgiven⟩ | ⟨why, hr, hw⟩ | ⟨c, hr⟩ |
        ⟨c, t, hn, hstarts, ht⟩
    · rw [hnone] at hanswer
      rw [select_of_absent hs rfl, trial_of_absent hanswer]
      exact .inr (.inl rfl)
    · rw [hgiven] at hanswer
      cases hl : (k.load "" h).1 with
      | ok _ => exact .inr (.inr ⟨k, .mk hat hn ho hk hl⟩)
      | error why =>
          have hraised : Raises ((TrustProvider.ofSettings s p).defaultAnswer h) "" why :=
            .inr ⟨k, hanswer, by rw [Keystore.load_eq _ _ _ h, hl]⟩
          rw [select_of_default_raises hs rfl hraised, Keystore.isLoadFailure_of_load hk hl]
          exact .inr (.inl rfl)
    · rw [hr] at hanswer
      rw [select_of_default_raises hs rfl (.inl hanswer), hw]
      exact .inr (.inl rfl)
    · exact .inl ⟨_, .nested hat hr⟩
    · exact .inl ⟨t, .unwaitable hat hn hstarts ht⟩
  · exact .inl ⟨_, .homeless hat⟩

def wanting : Settings :=
  { Settings.standard with useClientCertificate := true }

/-- A host on which the metadata file holds some octets, and nothing else is there. -/
def holding (bytes : List UInt8) : Host :=
  Host.empty.putFile (.ofText "/meta.json") (.file bytes)

theorem contents_holding (bytes : List UInt8) :
    (holding bytes).contents (.ofText "/meta.json") = .ok bytes := rfl

theorem metadataAt_holding (bytes : List UInt8) :
    TrustProvider.metadataAt "/meta.json" (holding bytes) = .ok (.ofText "/meta.json") := rfl

/-- Arrays in one another, one more than may nest. -/
def nestedTooDeep : String :=
  String.ofList (List.replicate (Json.maxDepth + 1) '[')

theorem unifyLineEnds_replicate (n : Nat) :
    TrustProvider.unifyLineEnds (List.replicate n '[') = List.replicate n '[' := by
  induction n with
  | zero => rfl
  | succ n ih =>
      rw [List.replicate_succ]
      exact congrArg ('[' :: ·) ih

end Trust
end DefaultCredentials
