import DefaultCredentials.Proofs.DiscoveryFailures

/-!
# The file that a defect is of

A credential file that cannot be used is reported with its path: what is raised has it as an
attribute, and its text ends with it.  `Raised.Names` says so for one writing of the path, and a
`PathArgument` is what a caller gave for it.

* `FileDefect.IsOf` says what is wrong with the file at a path.
* `Credential.load_names` says that this and nothing else is reported as a malformed file, and with
  which path.  Every defect has the path as it is written once it was read, but for that of a key,
  which has what the caller gave; `Credential.load_key_misnamed` is where these are not the same.
-/

namespace DefaultCredentials

/-- What a caller gives for a path: a text, or a path that was read before. -/
inductive PathArgument
  | text (s : String)
  | read (p : Path)

namespace PathArgument

/-- What was given, as it is written. -/
def given : PathArgument → String
  | text s => s
  | read p => p.toText

/-- The path that was given. -/
def target : PathArgument → Path
  | text s => .ofText s
  | read p => p

end PathArgument

/-- What was raised tells what is wrong and then, once, the path of the file. -/
structure Raised.Names (why : Raised) (message path : String) : Prop where
  attributed : (why.failure?.bind fun f => f.attributes.lookup "path") = some (.text path)
  text : why.text = message ++ " (file: " ++ path ++ ")"

theorem Path.toText_ne_empty (p : Path) : p.toText ≠ "" := by
  unfold toText
  dsimp only
  split
  · decide
  · rename_i hbody
    simpa using hbody

/-- The signer of a key, had once the settings that count are read. -/
def Host.signer (h : Host) (settings : Option Settings) (key : ServiceAccountKey) :
    Except Raised Signer :=
  (h.settingsOr settings).1.bind fun _ => Signer.ofKey key.privateKey key.privateKeyId

namespace FileDefect

variable {d : FileDefect} {h : Host} {p : Path} {decoder : Decoder} {settings : Option Settings}

/-- Whether a defect is that of a key. -/
def isOfKey : FileDefect → Bool
  | keyUnusable _ => true
  | _ => false

/-- What is wrong with the file at a path, for a decoder and for the settings that count. -/
inductive IsOf (h : Host) (p : Path) (decoder : Decoder) (settings : Option Settings) :
    FileDefect → Prop
  | unreadable {why : Raised} : h.contents p = .error why → why.isOf .system = true →
      IsOf h p decoder settings (.unreadable why)
  | undecodable {bytes : List UInt8} {why : Raised} : h.contents p = .ok bytes →
      decoder.decodeOctets bytes = .error why → IsOf h p decoder settings (.undecodable why)
  | misshapen {bytes : List UInt8} {v : Value} {d : FileDefect} : h.contents p = .ok bytes →
      decoder.decodeOctets bytes = .ok v → CredentialInfo.ofValue v = .error d →
      IsOf h p decoder settings d
  | keyUnusable {bytes : List UInt8} {v : Value} {key : ServiceAccountKey} {why : Raised} :
      h.contents p = .ok bytes → decoder.decodeOctets bytes = .ok v →
      CredentialInfo.ofValue v = .ok (.serviceAccount key) →
      h.signer settings key = .error why →
      IsOf h p decoder settings (.keyUnusable why)

/-- The path that goes with a defect: that of the file, or for a key what the caller gave. -/
def pathFor (d : FileDefect) (a : PathArgument) : String :=
  if d.isOfKey then a.given else a.target.toText

theorem kind?_raise (d : FileDefect) (path : Value) :
    (d.raise path).kind? = some .malformedFile := by
  rw [Raised.kind?, Raised.failure?, fault_raise]
  rfl

theorem failure?_raise (d : FileDefect) (path : Value) :
    (d.raise path).failure? = some (d.failure path) := by
  rw [Raised.failure?, fault_raise]

theorem names_iff (d : FileDefect) {given : String} :
    (d.raise (.text given)).Names d.message p.toText ↔ given = p.toText := by
  constructor
  · intro hn
    have hattributed := hn.attributed
    simpa [failure?_raise, failure, Failure.malformedFile] using hattributed
  · rintro rfl
    refine ⟨by simp [failure?_raise, failure, Failure.malformedFile], ?_⟩
    rw [Raised.text, fault_raise]
    exact Failure.text_malformedFile p.toText_ne_empty

theorem isOfKey_of_ofValue {v : Value} (hv : CredentialInfo.ofValue v = .error d) :
    d.isOfKey = false := by
  unfold CredentialInfo.ofValue at hv
  split at hv
  · dsimp only at hv
    split at hv
    · cases hv
      rfl
    · split at hv
      · cases hv
        rfl
      · split at hv <;> cases hv
        rfl
  · cases hv
    rfl

end FileDefect

/-! ### What keeps a file from being read, decoded and used -/

theorem Host.kind?_of_contents {h : Host} {p : Path} {why : Raised}
    (hc : h.contents p = .error why) : why.kind? = none := by
  unfold contents at hc
  split at hc
  · cases hc
    rfl
  · unfold obstructed at hc
    split at hc <;> cases hc
    rfl

theorem Decoder.isOf_value_of_decodeOctets {decoder : Decoder} {bytes : List UInt8} {why : Raised}
    (hvalue : ∀ s why, decoder.decode s = .error why → why.isOf .value = true)
    (hd : decoder.decodeOctets bytes = .error why) : why.isOf .value = true := by
  unfold decodeOctets textOf at hd
  cases ht : Utf8.decode bytes with
  | error defect =>
      rw [ht] at hd
      cases hd
      rfl
  | ok s =>
      rw [ht] at hd
      exact hvalue s why hd

theorem Host.settingsOr_error {h : Host} {settings : Option Settings} {why : Raised}
    (hs : (h.settingsOr settings).1 = .error why) :
    why.isOf .value = true ∧ why.kind? = none := by
  cases settings with
  | some s => cases hs
  | none =>
      unfold settingsOr processSettings at hs
      dsimp only at hs
      split at hs
      · cases hs
      · split at hs <;> cases hs
        exact ⟨rfl, rfl⟩

theorem Host.settingsOr_noting (h : Host) (settings : Option Settings) (xs : List Happening) :
    ((h.noting xs).settingsOr settings).1 = (h.settingsOr settings).1 := by
  cases settings with
  | some s => rfl
  | none =>
      unfold settingsOr
      rw [Discovery.processSettings_noting]

namespace CredentialInfo

variable {h : Host} {p : Path} {decoder : Decoder} {bytes : List UInt8} {v : Value}
  {info : CredentialInfo} {why : Raised}

/-- A decoded document is malformed, with the path as it is written, exactly if it has a defect. -/
theorem ofFile_of_decodeOctets (hc : h.contents p = .ok bytes)
    (hd : decoder.decodeOctets bytes = .ok v) :
    ofFile h p decoder = (ofValue v).mapError (·.raise (.text p.toText)) := by
  simp [ofFile, parse, hc, hd, ofDecoded]

theorem exists_document_of_ofFile (hf : ofFile h p decoder = .ok info) :
    ∃ bytes v, h.contents p = .ok bytes ∧ decoder.decodeOctets bytes = .ok v ∧
      ofValue v = .ok info := by
  cases hc : h.contents p with
  | error reason => simp [ofFile, hc] at hf
  | ok bytes =>
      cases hd : decoder.decodeOctets bytes with
      | error reason => simp [ofFile, parse, hc, hd, ofDecoded] at hf
      | ok v =>
          rw [ofFile_of_decodeOctets hc hd] at hf
          cases hv : ofValue v with
          | error d =>
              rw [hv] at hf
              cases hf
          | ok held =>
              rw [hv] at hf
              cases hf
              exact ⟨bytes, v, rfl, hd, hv⟩

/-- A file that is malformed to read has a defect that is none of its key. -/
theorem exists_isOf_of_ofFile (settings : Option Settings)
    (hvalue : ∀ s why, decoder.decode s = .error why → why.isOf .value = true)
    (hf : ofFile h p decoder = .error why) (hkind : why.kind? = some .malformedFile) :
    ∃ d : FileDefect, d.IsOf h p decoder settings ∧ d.isOfKey = false ∧
      why = d.raise (.text p.toText) := by
  cases hc : h.contents p with
  | error reason =>
      by_cases hsystem : reason.isOf .system = true
      · simp only [ofFile, hc, if_pos hsystem, Except.error.injEq] at hf
        exact ⟨.unreadable reason, .unreadable hc hsystem, rfl, hf.symm⟩
      · simp only [ofFile, hc, if_neg hsystem, Except.error.injEq] at hf
        rw [← hf, Host.kind?_of_contents hc] at hkind
        cases hkind
  | ok bytes =>
      cases hd : decoder.decodeOctets bytes with
      | error reason =>
          have hof := Decoder.isOf_value_of_decodeOctets hvalue hd
          simp only [ofFile, parse, hc, hd, ofDecoded, hof, if_true, Except.error.injEq] at hf
          exact ⟨.undecodable reason, .undecodable hc hd, rfl, hf.symm⟩
      | ok v =>
          rw [ofFile_of_decodeOctets hc hd] at hf
          cases hv : ofValue v with
          | ok info =>
              rw [hv] at hf
              cases hf
          | error d =>
              rw [hv] at hf
              cases hf
              exact ⟨d, .misshapen hc hd hv, FileDefect.isOfKey_of_ofValue hv, rfl⟩

end CredentialInfo

namespace Credential

variable {h : Host} {p : Path} {decoder : Decoder} {settings : Option Settings} {channel : Channel}
  {text : String} {info : CredentialInfo} {key : ServiceAccountKey} {why : Raised}

theorem ofInfo_noting (info : CredentialInfo) (path : Value) (xs : List Happening) :
    (ofInfo info channel decoder path settings (h.noting xs)).1 =
      (ofInfo info channel decoder path settings h).1 := by
  cases info with
  | serviceAccount key => simp only [ofInfo_serviceAccount, Host.settingsOr_noting]
  | authorizedUser grant => simp only [ofInfo_authorizedUser, Host.settingsOr_noting]

theorem load_of_error (hf : CredentialInfo.ofFile h p decoder = .error why) :
    (load text p channel decoder settings h).1 = .error why := by
  simp [load, hf]

theorem load_of_ok (hf : CredentialInfo.ofFile h p decoder = .ok info) :
    (load text p channel decoder settings h).1 =
      (ofInfo info channel decoder (.text text) settings h).1 := by
  simp [load, hf, ofInfo_noting]

theorem isOf_value_of_signer (hk : h.signer settings key = .error why) :
    why.isOf .value = true := by
  unfold Host.signer at hk
  cases hs : (h.settingsOr settings).1 with
  | error reason =>
      rw [hs] at hk
      cases hk
      exact (Host.settingsOr_error hs).1
  | ok s =>
      have hkey : Signer.ofKey key.privateKey key.privateKeyId = .error why := by rwa [hs] at hk
      rcases ofKey_cases key.privateKey key.privateKeyId with ⟨signer, hread⟩ | hread
      · rw [hread] at hkey
        cases hkey
      · rw [hread] at hkey
        cases hkey
        rfl

theorem ofInfo_of_signer_error (path : Value) (hk : h.signer settings key = .error why) :
    (ofInfo (.serviceAccount key) channel decoder path settings h).1 =
      .error ((FileDefect.keyUnusable why).raise path) := by
  have hdefect : keyDefect path why = (FileDefect.keyUnusable why).raise path := by
    simp [keyDefect, isOf_value_of_signer hk]
  rw [ofInfo_serviceAccount, ← hdefect]
  unfold Host.signer at hk
  cases hs : (h.settingsOr settings).1 with
  | error reason =>
      rw [hs] at hk
      cases hk
      rfl
  | ok s =>
      have hkey : Signer.ofKey key.privateKey key.privateKeyId = .error why := by rwa [hs] at hk
      simp only [Except.bind, ofServiceAccount, hkey]
      rfl

theorem ofInfo_of_signer_ok {signer : Signer} (path : Value)
    (hk : h.signer settings key = .ok signer) :
    ∃ c, (ofInfo (.serviceAccount key) channel decoder path settings h).1 = .ok c := by
  rw [ofInfo_serviceAccount]
  unfold Host.signer at hk
  cases hs : (h.settingsOr settings).1 with
  | error reason =>
      rw [hs] at hk
      cases hk
  | ok s =>
      have hkey : Signer.ofKey key.privateKey key.privateKeyId = .ok signer := by rwa [hs] at hk
      simp only [Except.bind, ofServiceAccount, hkey]
      exact ⟨_, rfl⟩

variable {d : FileDefect} {a : PathArgument}

/-- What is wrong with a file is what loading it reports, with the path that goes with it. -/
theorem load_of_isOf (hvalue : ∀ s why, decoder.decode s = .error why → why.isOf .value = true)
    (hd : d.IsOf h a.target decoder settings) :
    (load a.given a.target channel decoder settings h).1 =
      .error (d.raise (.text (d.pathFor a))) := by
  cases hd with
  | unreadable hc hsystem =>
      refine load_of_error ?_
      simp only [CredentialInfo.ofFile, hc, if_pos hsystem]
      rfl
  | undecodable hc hdecode =>
      have hof := Decoder.isOf_value_of_decodeOctets hvalue hdecode
      refine load_of_error ?_
      simp only [CredentialInfo.ofFile, CredentialInfo.parse, hc, hdecode,
        CredentialInfo.ofDecoded, if_pos hof]
      rfl
  | misshapen hc hdecode hv =>
      refine load_of_error ?_
      rw [CredentialInfo.ofFile_of_decodeOctets hc hdecode, hv, FileDefect.pathFor,
        FileDefect.isOfKey_of_ofValue hv]
      rfl
  | keyUnusable hc hdecode hv hk =>
      refine (load_of_ok ?_).trans (ofInfo_of_signer_error _ hk)
      rw [CredentialInfo.ofFile_of_decodeOctets hc hdecode, hv]
      rfl

/-- What loading a file reports as malformed is what is wrong with it. -/
theorem exists_isOf_of_load
    (hvalue : ∀ s why, decoder.decode s = .error why → why.isOf .value = true)
    (hl : (load a.given a.target channel decoder settings h).1 = .error why)
    (hkind : why.kind? = some .malformedFile) :
    ∃ d : FileDefect, d.IsOf h a.target decoder settings ∧
      why = d.raise (.text (d.pathFor a)) := by
  cases hf : CredentialInfo.ofFile h a.target decoder with
  | error reason =>
      rw [load_of_error hf, Except.error.injEq] at hl
      rw [hl] at hf
      obtain ⟨d, hd, hkey, hwhy⟩ :=
        CredentialInfo.exists_isOf_of_ofFile settings hvalue hf hkind
      exact ⟨d, hd, by simp [hwhy, FileDefect.pathFor, hkey]⟩
  | ok info =>
      obtain ⟨bytes, v, hc, hdecode, hv⟩ := CredentialInfo.exists_document_of_ofFile hf
      rw [load_of_ok hf] at hl
      cases info with
      | authorizedUser grant =>
          rw [ofInfo_authorizedUser] at hl
          cases hs : (h.settingsOr settings).1 with
          | ok s => simp [hs, Except.map] at hl
          | error reason =>
              simp only [hs, Except.map, Except.error.injEq] at hl
              rw [← hl, (Host.settingsOr_error hs).2] at hkind
              cases hkind
      | serviceAccount key =>
          cases hk : h.signer settings key with
          | ok signer =>
              obtain ⟨c, hloaded⟩ := ofInfo_of_signer_ok (.text a.given) hk
              rw [hloaded] at hl
              cases hl
          | error reason =>
              rw [ofInfo_of_signer_error _ hk, Except.error.injEq] at hl
              exact ⟨.keyUnusable reason, .keyUnusable hc hdecode hv hk, hl.symm⟩

/-- **Which path a malformed file is reported with.**  With a decoder that refuses texts only
because of their values, loading reports a malformed file exactly if something is wrong with it.
The report has the path as it is written once it was read, in its attribute and once at the end of
its text, unless it is the key that is unusable and the caller spelled the path differently. -/
theorem load_names (a : PathArgument) (channel : Channel) (decoder : Decoder)
    (settings : Option Settings) (h : Host)
    (hvalue : ∀ s why, decoder.decode s = .error why → why.isOf .value = true) :
    (∀ why, (load a.given a.target channel decoder settings h).1 = .error why ∧
        why.kind? = some .malformedFile ↔
      ∃ d : FileDefect, d.IsOf h a.target decoder settings ∧
        why = d.raise (.text (d.pathFor a))) ∧
    ∀ d : FileDefect, (d.raise (.text (d.pathFor a))).Names d.message a.target.toText ↔
      (d.isOfKey = true → a.given = a.target.toText) := by
  refine ⟨fun why => ⟨fun hl => exists_isOf_of_load hvalue hl.1 hl.2, ?_⟩, fun d => ?_⟩
  · rintro ⟨d, hd, rfl⟩
    exact ⟨load_of_isOf hvalue hd, d.kind?_raise _⟩
  · rw [FileDefect.names_iff, FileDefect.pathFor]
    cases d.isOfKey <;> simp

def oneFile : Host :=
  { Host.empty with files := ⟨[(["key.json"], .file [])]⟩ }

/-- What a decoder reports that takes no text. -/
def refusal : Raised :=
  .trouble (.reported .value "ValueError" "no document")

/-- A file that the decoder refuses is reported with its path as it is written. -/
theorem load_names_refused :
    ((load "./key.json" (.ofText "./key.json") .main (.refusing "refusing" refusal)
        (some .standard) oneFile).1 =
      .error ((FileDefect.undecodable refusal).raise (.text "key.json"))) ∧
    ((FileDefect.undecodable refusal).raise (.text "key.json")).Names
      "Credential file is not valid JSON: no document" "key.json" := by
  have hvalue : ∀ s why, (Decoder.refusing "refusing" refusal).decode s = .error why →
      why.isOf .value = true := by
    intro s why hd
    cases hd
    rfl
  have hpath : Path.ofText "./key.json" = ⟨0, ["key.json"]⟩ := by decide
  have hcontents : oneFile.contents (.ofText "./key.json") = .ok [] := by
    rw [hpath]
    rfl
  obtain ⟨hreported, hnames⟩ := load_names (.text "./key.json") .main
    (.refusing "refusing" refusal) (some .standard) oneFile hvalue
  have hundecodable := (hreported _).mpr ⟨_, .undecodable hcontents rfl, rfl⟩
  have hnamed := (hnames (.undecodable refusal)).mpr nofun
  have hwritten : (PathArgument.text "./key.json").target.toText = "key.json" := by decide
  rw [FileDefect.pathFor, hwritten] at hundecodable hnamed
  exact ⟨hundecodable.1, hnamed⟩

/-- A document with the key of a service account that cannot be read. -/
def unreadableKey : Value :=
  .object [("type", .text "service_account"), ("client_id", .text "i"),
    ("client_email", .text "e"), ("private_key", .text "k"), ("private_key_id", .text "d")]

/-- **An unusable key is reported with the path as the caller spelled it**, and not as it is
written once it was read. -/
theorem load_key_misnamed :
    ∃ why, (load "./key.json" (.ofText "./key.json") .main (.constant "constant" unreadableKey)
        (some .standard) oneFile).1 = .error why ∧
      why.kind? = some .malformedFile ∧
      (Path.ofText "./key.json").toText = "key.json" ∧
      (why.failure?.bind fun f => f.attributes.lookup "path") = some (.text "./key.json") ∧
      ∀ message, ¬ why.Names message "key.json" := by
  have hpath : Path.ofText "./key.json" = ⟨0, ["key.json"]⟩ := by decide
  have hcontents : oneFile.contents (.ofText "./key.json") = .ok [] := by
    rw [hpath]
    rfl
  have hkey : Signer.ofKey (.text "k") (.text "d") = .error (.trouble .privateKeyUnreadable) := by
    rfl
  have hdefect : (FileDefect.keyUnusable (.trouble .privateKeyUnreadable)).IsOf oneFile
      (PathArgument.text "./key.json").target (.constant "constant" unreadableKey)
      (some .standard) :=
    .keyUnusable hcontents rfl rfl hkey
  have hspelled : (((FileDefect.keyUnusable (.trouble .privateKeyUnreadable)).raise
      (.text "./key.json")).failure?.bind fun f => f.attributes.lookup "path") =
        some (.text "./key.json") := rfl
  have hvalue : ∀ s why, (Decoder.constant "constant" unreadableKey).decode s = .error why →
      why.isOf .value = true := by
    intro s why hd
    cases hd
  refine ⟨_, load_of_isOf hvalue hdefect, FileDefect.kind?_raise .., by decide, hspelled, ?_⟩
  intro message hnames
  have hsame : some (Value.text "./key.json") = some (.text "key.json") :=
    hspelled.symm.trans hnames.attributed
  simp at hsame

end Credential

end DefaultCredentials
