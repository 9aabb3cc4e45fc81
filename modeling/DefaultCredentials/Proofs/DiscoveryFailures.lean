import DefaultCredentials.Proofs.NestingLimit
import DefaultCredentials.Proofs.OrderedDiscovery

/-!
# What discovery fails with

A caller of a resolver is to meet failures of the library only: the named file is missing, a file is
malformed, or no place gave a credential.  `Discovery.Reports` lists these with what each of them
is about.  Two things get past: a path that is too long cannot even be looked for, and a document
that nests too deep is given up by the decoder.  `Discovery.Escapes` says where.

* `Discovery.Escapes.cause` says what gets past in terms of the path and of the document;
  `Discovery.escapes_of_longName` says that every name that is too long does.
* `Discovery.discover_of_escapes` and `Discovery.discover_of_not_escapes` say what discovery comes
  to in either case.
* `Resolver.resolve_reports` says the same of a first call, with what is kept.
-/

namespace DefaultCredentials

/-! ### Paths that cannot be looked for -/

namespace FileTree

variable {t : FileTree} {o : Obstacle}

theorem walk_eq_error {place parts : List String} (h : t.walk place parts = .error o) :
    o.isAbsence = true ∨
      o = .nameTooLong ∧ ∃ part ∈ parts, maxName < (Utf8.encode part).length := by
  induction parts generalizing place with
  | nil => cases h
  | cons part rest ih =>
      have hrest {place : List String} (h : t.walk place rest = .error o) :
          o.isAbsence = true ∨
            o = .nameTooLong ∧ ∃ name ∈ part :: rest, maxName < (Utf8.encode name).length := by
        rcases ih h with ha | ⟨ho, name, hm, hl⟩
        · exact .inl ha
        · exact .inr ⟨ho, name, List.mem_cons_of_mem _ hm, hl⟩
      unfold walk at h
      split at h
      -- A double dot is followed; any other part must be short enough, and then must be there.
      · split at h
        · exact hrest h
        · split at h
          · rename_i hlong
            cases h
            exact .inr ⟨rfl, part, List.mem_cons_self, hlong⟩
          · split at h
            · cases h
              exact .inl rfl
            · exact hrest h
      · cases h
        exact .inl rfl
      · cases h
        exact .inl rfl

end FileTree

namespace Host

variable {h : Host} {p : Path}

/-- A path that is too long, or on the way of which a name is. -/
def IsOverlong (h : Host) (p : Path) : Prop :=
  FileTree.maxPath < (Utf8.encode p.toText).length ∨
    ∃ part ∈ h.workingDirectory.parts ++ p.parts, FileTree.maxName < (Utf8.encode part).length

theorem find_eq_error {o : Obstacle} (hf : h.files.find h.workingDirectory p = .error o) :
    o.isAbsence = true ∨ o = .nameTooLong ∧ h.IsOverlong p := by
  unfold FileTree.find FileTree.locate at hf
  split at hf
  · rename_i hl
    cases hf
    split at hl
    · rename_i hlong
      cases hl
      exact .inr ⟨rfl, .inl hlong⟩
    · split at hl
      · rcases FileTree.walk_eq_error hl with ha | ⟨ho, part, hm, hlong⟩
        · exact .inl ha
        · exact .inr ⟨ho, .inr ⟨part, List.mem_append_right _ hm, hlong⟩⟩
      · rcases FileTree.walk_eq_error hl with ha | ⟨ho, part, hm, hlong⟩
        · exact .inl ha
        · exact .inr ⟨ho, .inr ⟨part, hm, hlong⟩⟩
  · split at hf <;> cases hf
    exact .inl rfl

/-- Whether a path is there can be told, or it is too long to be looked for. -/
theorem isFile_cases (h : Host) (p : Path) :
    (∃ there, h.isFile p = .ok there) ∨
      h.isFile p = .error (.trouble (.file .nameTooLong p.toText)) ∧ h.IsOverlong p := by
  unfold isFile FileTree.isFile
  split
  · exact .inl ⟨false, rfl⟩
  · cases hf : h.files.find h.workingDirectory p with
    | ok n => exact .inl ⟨_, rfl⟩
    | error o =>
        rcases find_eq_error hf with ha | ⟨rfl, hlong⟩
        · exact .inl ⟨false, by simp [FileTree.holds, ha, obstructed]⟩
        · exact .inr ⟨rfl, hlong⟩

theorem isFile_of_longName {name : String} (h : Host) (hn : '\x00' ∉ name.toList)
    (hlong : FileTree.maxName < (Utf8.encode name).length) :
    h.isFile ⟨1, [name]⟩ = .error (.trouble (.file .nameTooLong ("/" ++ name))) := by
  have hup : name ≠ ".." := by
    rintro rfl
    revert hlong
    decide
  have hnul : Path.hasNul ⟨1, [name]⟩ = false := by simpa [Path.hasNul] using hn
  have hlocate : h.files.locate h.workingDirectory ⟨1, [name]⟩ = .error .nameTooLong := by
    simp [FileTree.locate, Path.isAbsolute, FileTree.walk, FileTree.node?, hup, hlong]
  simp [isFile, hnul, FileTree.isFile, FileTree.find, hlocate, FileTree.holds, Obstacle.isAbsence,
    obstructed, Path.toText_slash]

theorem log_noting (e : Log.Event) (xs : List Happening) :
    (h.noting xs).log e = h.noting (.logged e :: xs) := rfl

theorem contents_of_isFile (hf : h.isFile p = .ok true) : ∃ bytes, h.contents p = .ok bytes := by
  unfold isFile FileTree.isFile at hf
  unfold contents FileTree.contents
  split at hf
  · cases hf
  · rename_i hnul
    simp only [hnul]
    cases hfind : h.files.find h.workingDirectory p with
    | error o =>
        rw [hfind] at hf
        by_cases ha : o.isAbsence = true <;> simp [FileTree.holds, ha, obstructed] at hf
    | ok n =>
        rw [hfind] at hf
        cases n with
        | file bytes => exact ⟨bytes, rfl⟩
        | program name => exact ⟨[], rfl⟩
        | device => cases hf
        | directory => cases hf

end Host

/-! ### Files that cannot be used -/

namespace Credential

variable {h : Host} {p : Path} {bytes : List UInt8} {channel : Channel} {s : Settings}

theorem ofKey_cases (privateKey keyId : Value) :
    (∃ signer, Signer.ofKey privateKey keyId = .ok signer) ∨
      Signer.ofKey privateKey keyId = .error (.trouble .privateKeyUnreadable) := by
  unfold Signer.ofKey
  split
  · exact .inl ⟨_, rfl⟩
  · exact .inr rfl

/-- With settings, what a document holds becomes a credential, or its key is a defect. -/
theorem ofInfo_cases (info : CredentialInfo) (channel : Channel) (decoder : Decoder) (path : Value)
    (s : Settings) (h : Host) :
    (∃ c, (ofInfo info channel decoder path (some s) h).1 = .ok c) ∨
      ∃ d : FileDefect,
        (ofInfo info channel decoder path (some s) h).1 = .error (d.raise path) := by
  cases info with
  | authorizedUser grant => exact .inl ⟨_, rfl⟩
  | serviceAccount key =>
      simp only [ofInfo, Host.settingsOr, ofServiceAccount]
      rcases ofKey_cases key.privateKey key.privateKeyId with ⟨signer, hs⟩ | hs
      · rw [hs]
        exact .inl ⟨_, rfl⟩
      · rw [hs]
        exact .inr ⟨.keyUnusable (.trouble .privateKeyUnreadable), rfl⟩

theorem load_of_contents (hc : h.contents p = .ok bytes) :
    (load p.toText p channel .json (some s) h).1 =
      match CredentialInfo.ofDecoded (.text p.toText) (Decoder.json.decodeOctets bytes) with
      | .error why => .error why
      | .ok info => (ofInfo info channel .json (.text p.toText) (some s)
          (h.noting (h.readings p .json))).1 := by
  unfold load CredentialInfo.ofFile CredentialInfo.parse
  rw [hc]
  dsimp only
  cases CredentialInfo.ofDecoded (.text p.toText) (Decoder.json.decodeOctets bytes) <;> rfl

theorem load_of_nesting {document : String} {k : Json.Container} (hc : h.contents p = .ok bytes)
    (hd : Utf8.decode bytes = .ok document) (hr : Json.read document = .error (.nesting k)) :
    (load p.toText p channel .json (some s) h).1 = .error (.trouble (.json (.nesting k))) := by
  have hof : (Raised.trouble (.json (.nesting k))).isOf .value = false := rfl
  have hk : Decoder.json.decodeOctets bytes = .error (.trouble (.json (.nesting k))) := by
    rw [Decoder.json_decodeOctets hd, hr]
    rfl
  rw [load_of_contents hc, hk]
  simp [CredentialInfo.ofDecoded, hof]

/-- Whatever else a file holds, it becomes a credential or is malformed. -/
theorem load_of_not_isTooDeep (hc : h.contents p = .ok bytes) (hd : ¬ Decoder.IsTooDeep bytes) :
    (∃ c, (load p.toText p channel .json (some s) h).1 = .ok c) ∨
      ∃ d : FileDefect, (load p.toText p channel .json (some s) h).1 =
        .error (d.raise (.text p.toText)) := by
  rw [load_of_contents hc]
  by_cases hv : ∃ v, Decoder.IsDocument bytes v
  · obtain ⟨v, hv⟩ := hv
    rw [Decoder.decodeOctets_of_isDocument hv]
    simp only [CredentialInfo.ofDecoded]
    cases CredentialInfo.ofValue v with
    | error d => exact .inr ⟨d, rfl⟩
    | ok info => exact ofInfo_cases ..
  · obtain ⟨why, hwhy, hof⟩ := Decoder.decodeOctets_of_not (fun v hd => hv ⟨v, hd⟩) hd
    exact .inr ⟨.undecodable why, by simp [hwhy, CredentialInfo.ofDecoded, hof]⟩

end Credential

namespace Discovery

/-! ### What is reported, and what gets past -/

section specification

variable (s : Scope) (channel : Channel) (decoder : Decoder) (h : Host)

/-- The file that is looked for: the one that is named, or else the one at the well-known place. -/
inductive LooksFor : Path → Prop
  | pointer {value : String} : Given s h pointerVariable value →
      LooksFor (h.absolutePath value)
  | wellKnown {p : Path} : Blank s h pointerVariable → WellKnownAt s h (some p) → LooksFor p

/-- What discovery may fail with: the kind of a failure of the library, and the failure. -/
inductive Reports : FailureKind → Raised → Prop
  | pointerMissing {value : String} : Given s h pointerVariable value →
      h.isFile (h.absolutePath value) = .ok false →
      Reports .pointerMissing (.failure (.pointerMissing (.text pointerVariable)
        (.text (h.absolutePath value).toText)))
  | malformed {p : Path} (d : FileDefect) : LooksFor s h p → h.isFile p = .ok true →
      Reports .malformedFile (d.raise (.text p.toText))
  | notFound {sought : List Happening} : NoFile s h sought →
      Reports .notFound (.failure .notFound)

/-- What discovery raises that is no failure of the library, in a process that may search every
directory.  A directory that it may not search would keep the files below it from being looked for,
as a name that is too long does. -/
inductive Escapes : Trouble → Prop
  | overlong {p : Path} {t : Trouble} : LooksFor s h p → h.isFile p = .error (.trouble t) →
      Escapes t
  | nested {p : Path} {bytes : List UInt8} {document : String} {k : Json.Container} :
      LooksFor s h p → h.isFile p = .ok true → h.contents p = .ok bytes →
      Utf8.decode bytes = .ok document → Json.read document = .error (.nesting k) →
      Escapes (.json (.nesting k))

/-- Adapters that raise nothing, and a transport that answers or fails as transports do. -/
structure Behaves : Prop where
  available : ∀ a ∈ s.adapters, ∃ there, (isAvailable a h).1 = .ok there
  creates : ∀ a ∈ s.adapters, ∃ made, (create a channel decoder h).1 = .ok made
  answer : ∀ why, (h.send channel (question s)).1 = .error why →
    why.kind? = some .transport

end specification

variable {s : Scope} {channel : Channel} {decoder : Decoder} {h : Host} {p : Path} {t : Trouble}
  {a : Adapter}

theorem Given.not_blank {name value : String} (hv : Given s h name value) : ¬ Blank s h name := by
  intro hb
  have hsome := variableOf_eq_some_iff.mpr hv
  rw [variableOf_eq_none_iff.mpr hb] at hsome
  cases hsome

namespace Reports

variable {k : FailureKind} {why : Raised}

theorem kind (hr : Reports s h k why) : why.kind? = some k := by
  cases hr with
  | pointerMissing _ _ => rfl
  | malformed d _ _ =>
      rw [Raised.kind?, Raised.failure?, FileDefect.fault_raise]
      rfl
  | notFound _ => rfl

theorem ne_notFound {value : String} (hr : Reports s h k why)
    (hv : Given s h pointerVariable value) : k ≠ .notFound := by
  rintro rfl
  cases hr with
  | notFound hn =>
      have hb : Blank s h pointerVariable := by cases hn <;> assumption
      exact absurd hb hv.not_blank

end Reports

/-- What gets past is about a path that is too long, or about a document that opens more arrays and
objects than may nest. -/
theorem Escapes.cause (he : Escapes s h t) :
    ∃ p, LooksFor s h p ∧
      (t = .file .nameTooLong p.toText ∧ h.IsOverlong p ∨
        ∃ k bytes document, t = .json (.nesting k) ∧ h.contents p = .ok bytes ∧
          Utf8.decode bytes = .ok document ∧ Json.maxDepth < Json.opens document.toList) := by
  cases he with
  | @overlong p t hl hf =>
      refine ⟨p, hl, .inl ?_⟩
      rcases h.isFile_cases p with ⟨there, hthere⟩ | ⟨hwhy, hlong⟩
      · rw [hthere] at hf
        cases hf
      · rw [hwhy] at hf
        cases hf
        exact ⟨rfl, hlong⟩
  | @nested p bytes document k hl _ hc hd hr =>
      exact ⟨p, hl, .inr ⟨k, bytes, document, rfl, hc, hd, Json.maxDepth_lt_opens ⟨k, hr⟩⟩⟩

/-- Where a name of more octets than a name may have is given, that gets past. -/
theorem escapes_of_longName {name : String} (hv : Given s h pointerVariable ("/" ++ name))
    (hs : '/' ∉ name.toList) (hn : '\x00' ∉ name.toList)
    (hlong : FileTree.maxName < (Utf8.encode name).length) :
    Escapes s h (.file .nameTooLong ("/" ++ name)) := by
  have hne (short : String) (hshort : (Utf8.encode short).length ≤ FileTree.maxName) :
      name ≠ short := by
    rintro rfl
    exact absurd hlong (Nat.not_lt.mpr hshort)
  have hpart : Path.isPart name = true := by
    simp [Path.isPart, hne "" (by decide), hne "." (by decide)]
  have hp : h.absolutePath ("/" ++ name) = ⟨1, [name]⟩ := by
    simp [Host.absolutePath, Path.absolute, Path.ofText_slash hs hpart, Path.isAbsolute,
      Path.resolved, Path.climb, hne ".." (by decide)]
  have hl : LooksFor s h ⟨1, [name]⟩ := hp ▸ .pointer hv
  exact .overlong hl (h.isFile_of_longName hn hlong)

/-! ### A file that is looked for -/

theorem discover_of_file (channel : Channel) (decoder : Decoder) (hl : LooksFor s h p)
    (hf : h.isFile p = .ok true) :
    ∃ source, (discover s channel decoder Source.all h).1 =
      loaded s channel decoder h p source := by
  cases hl with
  | pointer hv => exact ⟨.envFile, (comesTo_of_pointer hv hf).1⟩
  | wellKnown hb hw => exact ⟨.wellKnownFile, (comesTo_of_wellKnown hb hw hf).1⟩

theorem discover_of_unsought {why : Raised} (channel : Channel) (decoder : Decoder)
    (hl : LooksFor s h p) (hf : h.isFile p = .error why) :
    (discover s channel decoder Source.all h).1 = .error why := by
  cases hl with
  | @pointer value hv =>
      have ha : attempt s channel decoder .envFile h =
          (.error why, h.note (.sought (h.absolutePath value))) := by
        simp only [attempt, fromPointer, variableOf_eq_some_iff.mpr hv, Host.seek, hf]
      exact congrArg Prod.fst (discover_of_error ha)
  | wellKnown hb hw =>
      have hp : attempt s channel decoder .envFile h = (.ok none, h) := fromPointer_of_blank hb
      have hsome : wellKnownFile s (h.log (.sourceNotApplicable "env_file")) = some p :=
        (wellKnownAt_iff (h := h)).mp hw
      have hfile : (h.log (.sourceNotApplicable "env_file")).isFile p = .error why := hf
      have ha : attempt s channel decoder .wellKnownFile (h.log (.sourceNotApplicable "env_file")) =
          (.error why, (h.log (.sourceNotApplicable "env_file")).note (.sought p)) := by
        simp only [attempt, fromWellKnownFile, hsome, Host.seek, hfile]
      exact congrArg Prod.fst ((discover_of_skipped hp).trans (discover_of_error ha))

theorem discover_of_escapes (channel : Channel) (he : Escapes s h t) :
    (discover s channel .json Source.all h).1 = .error (.trouble t) := by
  cases he with
  | overlong hl hf => exact discover_of_unsought channel .json hl hf
  | nested hl hf hc hd hr =>
      obtain ⟨source, hout⟩ := discover_of_file channel .json hl hf
      rw [hout, loaded, Credential.load_of_nesting hc hd hr]
      rfl

/-- Either a file decides, or looking for one raises, or the named one is missing, or there is
none. -/
theorem file_cases (s : Scope) (h : Host) :
    (∃ p, LooksFor s h p ∧ h.isFile p = .ok true) ∨ (∃ t, Escapes s h t) ∨
      (∃ value, Given s h pointerVariable value ∧ h.isFile (h.absolutePath value) = .ok false) ∨
      ∃ sought, NoFile s h sought := by
  cases hv : variableOf s h pointerVariable with
  | some value =>
      have hg := variableOf_eq_some_iff.mp hv
      rcases h.isFile_cases (h.absolutePath value) with ⟨there, hf⟩ | ⟨hf, -⟩
      · cases there with
        | true => exact .inl ⟨_, .pointer hg, hf⟩
        | false => exact .inr (.inr (.inl ⟨value, hg, hf⟩))
      · exact .inr (.inl ⟨_, .overlong (.pointer hg) hf⟩)
  | none =>
      have hb := variableOf_eq_none_iff.mp hv
      cases hk : wellKnownFile s h with
      | none => exact .inr (.inr (.inr ⟨_, .nowhere hb (wellKnownAt_iff.mpr hk)⟩))
      | some p =>
          have hw := wellKnownAt_iff.mpr hk
          rcases h.isFile_cases p with ⟨there, hf⟩ | ⟨hf, -⟩
          · cases there with
            | true => exact .inl ⟨p, .wellKnown hb hw, hf⟩
            | false => exact .inr (.inr (.inr ⟨_, .absent hb hw hf⟩))
          · exact .inr (.inl ⟨_, .overlong (.wellKnown hb hw) hf⟩)

/-! ### Without a file -/

theorem create_of_nothing (hc : (create a channel decoder h).1 = .ok none) (h' : Host) :
    create a channel decoder h' = (.ok none, h') := by
  have hnothing : ∃ name available, a = .custom name available .nothing := by
    unfold create at hc
    generalize h.processSettings = settled at hc
    obtain ⟨outcome, h₁⟩ := settled
    cases a with
    | appEngine => cases outcome <;> cases hc
    | custom name available creation =>
        cases creation with
        | nothing => exact ⟨name, available, rfl⟩
        | raised why => cases hc
        | identity => cases outcome <;> cases hc
        | exchanges kind label outcomes => cases outcome <;> cases hc
  obtain ⟨name, available, rfl⟩ := hnothing
  rfl

theorem discover_machine (decoder : Decoder)
    (ha : ∀ why, (h.send channel (question s)).1 = .error why →
      why.kind? = some .transport) (xs : List Happening) :
    (∃ found, (discover s channel decoder [.computeMetadata] (h.noting xs)).1 = .ok found) ∨
      (discover s channel decoder [.computeMetadata] (h.noting xs)).1 =
        .error (.failure .notFound) := by
  have hoff (hm : OffMachine s channel h) :
      (discover s channel decoder [.computeMetadata] (h.noting xs)).1 =
        .error (.failure .notFound) := by
    have hat : attempt s channel decoder .computeMetadata (h.noting xs) = (.ok none, _) :=
      Prod.ext (fromCompute_of_off decoder hm xs).1 rfl
    rw [discover_of_skipped hat]
    rfl
  cases hsent : (h.send channel (question s)).1 with
  | error why => exact .inr (hoff (.inr ⟨why, hsent, ha why hsent⟩))
  | ok r =>
      by_cases hm : r.status = 200 ∧ r.header "Metadata-Flavor" = some "Google"
      · have hat : (attempt s channel decoder .computeMetadata (h.noting xs)).1 =
            Except.map some (.ok _) := (fromCompute_of_on ⟨r, hsent, hm⟩ xs).1
        rw [discover_of_decided hat]
        exact .inl ⟨_, rfl⟩
      · exact .inr (hoff (.inl ⟨r, hsent, hm⟩))

/-- Without a file a runtime or the metadata server gives a credential, or there is none. -/
theorem discover_without_file (hb : Behaves s channel decoder h) {sought : List Happening}
    (hn : NoFile s h sought) :
    (∃ found, (discover s channel decoder Source.all h).1 = .ok found) ∨
      (discover s channel decoder Source.all h).1 = .error (.failure .notFound) := by
  obtain ⟨xs, -, hall⟩ := discover_of_noFile channel decoder hn
  rw [hall]
  rcases first_available hb.available with habsent | ⟨before, a, after, hs, hbefore, ha⟩
  · rw [discover_of_absent channel decoder habsent]
    exact discover_machine decoder hb.answer _
  · have hat := fromAdapters_of_available channel decoder after hbefore ha xs
    rw [← hs] at hat
    obtain ⟨made, hmade⟩ := hb.creates a (by simp [hs])
    cases made with
    | some c =>
        have hout : (attempt s channel decoder .sandboxRuntime (h.noting xs)).1 =
            Except.map some (.ok c) := by
          rw [attempt, hat, (create_noting ..).1, hmade]
          rfl
        rw [discover_of_decided hout]
        exact .inl ⟨_, rfl⟩
    | none =>
        -- The adapter whose runtime is there makes nothing, and the next place is looked at.
        rw [create_of_nothing hmade] at hat
        have hskip : attempt s channel decoder .sandboxRuntime (h.noting xs) = (.ok none, _) := hat
        rw [discover_of_skipped hskip, Host.log_noting]
        exact discover_machine decoder hb.answer _

/-- Where nothing gets past, discovery gives a credential or fails with what it may report. -/
theorem discover_of_not_escapes (hb : Behaves s channel .json h) (hn : ∀ t, ¬ Escapes s h t) :
    (∃ found, (discover s channel .json Source.all h).1 = .ok found) ∨
      ∃ k why, (discover s channel .json Source.all h).1 = .error why ∧ Reports s h k why := by
  rcases file_cases s h with ⟨p, hl, hf⟩ | ⟨t, ht⟩ | ⟨value, hv, hf⟩ | ⟨sought, hs⟩
  · obtain ⟨source, hout⟩ := discover_of_file channel .json hl hf
    obtain ⟨bytes, hc⟩ := Host.contents_of_isFile hf
    have hd : ¬ Decoder.IsTooDeep bytes := fun ⟨document, hd, k, hr⟩ =>
      hn _ (.nested hl hf hc hd hr)
    rw [hout, loaded]
    rcases Credential.load_of_not_isTooDeep hc hd with ⟨c, hload⟩ | ⟨d, hload⟩
    · rw [hload]
      exact .inl ⟨_, rfl⟩
    · rw [hload]
      exact .inr ⟨_, _, rfl, .malformed d hl hf⟩
  · exact absurd ht (hn t)
  · have ha : attempt s channel .json .envFile h = _ := fromPointer_of_missing hv hf
    exact .inr ⟨_, _, congrArg Prod.fst (discover_of_error ha), .pointerMissing hv hf⟩
  · rcases discover_without_file hb hs with hfound | hnone
    · exact .inl hfound
    · exact .inr ⟨_, _, hnone, .notFound hs⟩

end Discovery

namespace Resolver

open Discovery

variable {r : Resolver} {channel : Channel} {w : Wallet} {h : Host}

/-- What gets past discovery is raised as it is, and nothing is kept. -/
theorem resolve_of_escapes {t : Trouble} (channel : Channel) (w : Wallet) (hk : r.kept = none)
    (he : Escapes r.scope h t) :
    (r.resolve channel .json w h).1 = .error (.trouble t) ∧
      (r.resolve channel .json w h).2.1.kept = none := by
  have hcall := @resolve_of_unkept r channel .json w h hk
  have hout := discover_of_escapes channel he
  generalize r.resolve channel .json w h = called at hcall ⊢
  obtain ⟨given, r', w', h'⟩ := called
  obtain ⟨hpass, -⟩ := hcall
  dsimp only
  generalize (discover r.scope channel .json Source.all h).1 = outcome at hpass hout
  generalize r'.kept = kept at hpass ⊢
  cases hout
  cases hpass with
  | failure hfailure _ => cases hfailure
  | fault _ => exact ⟨rfl, rfl⟩

/-- A resolver whose variable names a file, with no adapters. -/
def pointing (value : String) : Resolver where
  scope :=
    { environment := some [("GOOGLE_APPLICATION_CREDENTIALS", value)]
      platform := "linux"
      home := none
      adapters := []
      settings := .standard }
  kept := none
  copies := 0

theorem behaves_pointing (value : String) : Behaves (pointing value).scope .main .json .empty where
  available := fun _ ha => absurd ha List.not_mem_nil
  creates := fun _ ha => absurd ha List.not_mem_nil
  answer := by
    rintro why ⟨⟩
    rfl

theorem given_pointing {value : String} (hv : value ≠ "") :
    Given (pointing value).scope h pointerVariable value :=
  ⟨rfl, hv⟩

/-- A name of one octet more than a name may have. -/
def lengthy : String :=
  String.ofList (List.replicate (FileTree.maxName + 1) 'a')

theorem length_encode_replicate (n : Nat) :
    (Utf8.encode (String.ofList (List.replicate n 'a'))).length = n := by
  have hoctet : (Utf8.encodeChar 'a').length = 1 := rfl
  simp [Utf8.encode, hoctet]

theorem not_mem_lengthy {c : Char} (hc : c ≠ 'a') : c ∉ lengthy.toList := by
  rw [lengthy, String.toList_ofList]
  exact fun hm => hc (List.eq_of_mem_replicate hm)

end Resolver
end DefaultCredentials
