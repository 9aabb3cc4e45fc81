import DefaultCredentials.Resolver

/-!
# Discovery in order

`Decides` is the table by which discovery goes, one row for each way it can end: what it comes to
and what it looks at for that, in order.  A file that is named or found ends it, also when it
cannot be used; the adapters are asked only after both files, and the metadata server only after
all adapters.

* `Discovery.discover_of_decides`: discovery comes to what a row says and looks at just that.
* `Discovery.exists_decides`: where looking for files raises nothing, adapters do as they should
  and the metadata server answers or is out of reach, there is a row.
* `Resolver.resolve_first` puts both together for the first call of a resolver: exactly one row
  holds, and the call gives and keeps what that row says.
-/

namespace DefaultCredentials

/-- Whether something that happened is more than a log entry. -/
def Happening.isLook : Happening → Bool
  | .logged _ => false
  | _ => true

/-- The looks among what happened, the last first; the first come first. -/
def looksIn (happenings : List Happening) : List Happening :=
  (happenings.filter Happening.isLook).reverse

theorem looksIn_append (xs ys : List Happening) :
    looksIn (xs ++ ys) = looksIn ys ++ looksIn xs := by
  simp [looksIn]

theorem looksIn_logged (e : Log.Event) (xs : List Happening) :
    looksIn (.logged e :: xs) = looksIn xs := rfl

theorem looksIn_look {x : Happening} (hx : x.isLook = true) (xs : List Happening) :
    looksIn (x :: xs) = looksIn xs ++ [x] := by
  simp [looksIn, hx]

namespace Discovery

section specification

variable (s : Scope) (channel : Channel) (decoder : Decoder) (h : Host)

/-- A variable that has a value. -/
def Given (name value : String) : Prop :=
  (s.environment.getD h.environment).lookup name = some value ∧ value ≠ ""

/-- A variable that is absent or empty. -/
def Blank (name : String) : Prop :=
  ((s.environment.getD h.environment).lookup name).getD "" = ""

/-- A platform whose name starts with `win`, in any letter case. -/
def OnWindows : Prop :=
  ['w', 'i', 'n'] <+: (Text.lower s.platform).toList

/-- Where the well-known file is looked for, if it is. -/
inductive WellKnownAt : Option Path → Prop
  | configured {directory : String} : Given s h "CLOUDSDK_CONFIG" directory →
      WellKnownAt (some ((Path.ofText directory).join [wellKnownName]))
  | windows {directory : String} : Blank s h "CLOUDSDK_CONFIG" → OnWindows s →
      Given s h "APPDATA" directory →
      WellKnownAt (some ((Path.ofText directory).join ["gcloud", wellKnownName]))
  | nowhere : Blank s h "CLOUDSDK_CONFIG" → OnWindows s → Blank s h "APPDATA" → WellKnownAt none
  | home : Blank s h "CLOUDSDK_CONFIG" → ¬ OnWindows s →
      WellKnownAt (some ((s.home.getD h.home).join [".config", "gcloud", wellKnownName]))

/-- Neither file is there to decide; the index is what was looked for in vain. -/
inductive NoFile : List Happening → Prop
  | nowhere : Blank s h pointerVariable → WellKnownAt s h none → NoFile []
  | absent {p : Path} : Blank s h pointerVariable → WellKnownAt s h (some p) →
      h.isFile p = .ok false → NoFile [.sought p]

/-- What loading the file at a path comes to. -/
def loaded (p : Path) (source : Source) : Except Raised (Credential × Source) :=
  (Credential.load p.toText p channel decoder (some s.settings) h).1.map fun c => (c, source)

/-- The question whether the metadata server is there. -/
def question : Request where
  method := "GET"
  url := .text ("http://" ++ s.settings.metadataHost)
  headers := some [("Metadata-Flavor", "Google")]
  body := none
  timeout := some s.settings.metadataTimeout

/-- The metadata server answers as one. -/
def OnMachine : Prop :=
  ∃ r, (h.send channel (question s)).1 = .ok r ∧
    r.status = 200 ∧ r.header "Metadata-Flavor" = some "Google"

/-- Something else answers in its place, or the transport fails. -/
def OffMachine : Prop :=
  (∃ r, (h.send channel (question s)).1 = .ok r ∧
      ¬ (r.status = 200 ∧ r.header "Metadata-Flavor" = some "Google")) ∨
    ∃ why, (h.send channel (question s)).1 = .error why ∧
      why.kind? = some .transport

/-- What discovery comes to, and what it looks at for that, the first first. -/
inductive Decides : Except Raised (Credential × Source) → List Happening → Prop
  | pointerMissing {value : String} : Given s h pointerVariable value →
      h.isFile (h.absolutePath value) = .ok false →
      Decides (.error (.failure (.pointerMissing (.text pointerVariable)
          (.text (h.absolutePath value).toText))))
        [.sought (h.absolutePath value)]
  | pointer {value : String} : Given s h pointerVariable value →
      h.isFile (h.absolutePath value) = .ok true →
      Decides (loaded s channel decoder h (h.absolutePath value) .envFile)
        (.sought (h.absolutePath value) :: looksIn (h.readings (h.absolutePath value) decoder))
  | wellKnown {p : Path} : Blank s h pointerVariable → WellKnownAt s h (some p) →
      h.isFile p = .ok true →
      Decides (loaded s channel decoder h p .wellKnownFile)
        (.sought p :: looksIn (h.readings p decoder))
  | runtime {sought : List Happening} {before after : List Adapter} {a : Adapter}
      {c : Credential} : NoFile s h sought → s.adapters = before ++ a :: after →
      (∀ b ∈ before, (isAvailable b h).1 = .ok false) → (isAvailable a h).1 = .ok true →
      (create a channel decoder h).1 = .ok (some c) →
      Decides (.ok (c, .sandboxRuntime))
        (sought ++ before.map .probed ++ [.probed a, .made a])
  | machine {sought : List Happening} : NoFile s h sought →
      (∀ a ∈ s.adapters, (isAvailable a h).1 = .ok false) → OnMachine s channel h →
      Decides (.ok (.ofCompute channel decoder s.settings, .computeMetadata))
        (sought ++ s.adapters.map .probed ++ [.requested channel (question s)])
  | nothing {sought : List Happening} : NoFile s h sought →
      (∀ a ∈ s.adapters, (isAvailable a h).1 = .ok false) → OffMachine s channel h →
      Decides (.error (.failure .notFound))
        (sought ++ s.adapters.map .probed ++ [.requested channel (question s)])

end specification

/-! ### Variables and the well-known place -/

variable {s : Scope} {channel : Channel} {decoder : Decoder} {h : Host}

theorem variableOf_eq_some_iff {name value : String} :
    variableOf s h name = some value ↔ Given s h name value := by
  simp [variableOf, Given, Option.filter_eq_some_iff]

theorem variableOf_eq_none_iff {name : String} :
    variableOf s h name = none ↔ Blank s h name := by
  unfold variableOf Blank
  cases (s.environment.getD h.environment).lookup name <;> simp

theorem isWindows_iff : isWindows s = true ↔ OnWindows s := by
  simp [isWindows, OnWindows]

theorem wellKnownAt_iff {p : Option Path} : WellKnownAt s h p ↔ wellKnownFile s h = p := by
  constructor
  · intro hp
    cases hp with
    | configured hc => simp [wellKnownFile, variableOf_eq_some_iff.mpr hc]
    | windows hc hw ha =>
        simp [wellKnownFile, variableOf_eq_none_iff.mpr hc, isWindows_iff.mpr hw,
          variableOf_eq_some_iff.mpr ha]
    | nowhere hc hw ha =>
        simp [wellKnownFile, variableOf_eq_none_iff.mpr hc, isWindows_iff.mpr hw,
          variableOf_eq_none_iff.mpr ha]
    | home hc hw =>
        have hf : isWindows s = false := by simpa using mt isWindows_iff.mp hw
        simp [wellKnownFile, variableOf_eq_none_iff.mpr hc, hf]
  · rintro rfl
    unfold wellKnownFile
    split
    · rename_i directory hc
      exact .configured (variableOf_eq_some_iff.mp hc)
    · rename_i hc
      replace hc := variableOf_eq_none_iff.mp hc
      split
      · rename_i hw
        replace hw := isWindows_iff.mp hw
        cases ha : variableOf s h "APPDATA" with
        | none => exact .nowhere hc hw (variableOf_eq_none_iff.mp ha)
        | some directory => exact .windows hc hw (variableOf_eq_some_iff.mp ha)
      · rename_i hw
        exact .home hc (mt isWindows_iff.mpr hw)

/-! ### Noting changes nothing that is looked at -/

variable {a : Adapter} {p : Path}

theorem isAvailable_noting (a : Adapter) (xs : List Happening) :
    isAvailable a (h.noting xs) = ((isAvailable a h).1, h.noting (.probed a :: xs)) := by
  cases a <;> rfl

theorem processSettings_noting (xs : List Happening) :
    (h.noting xs).processSettings = (h.processSettings.1, h.processSettings.2.noting xs) := by
  unfold Host.processSettings Host.noting
  split
  · simp_all
  · rename_i hn
    simp only at hn
    simp only [hn]
    split <;> simp_all

theorem trace_processSettings : h.processSettings.2.trace = h.trace := by
  unfold Host.processSettings
  split
  · rfl
  · split <;> rfl

theorem create_noting (channel : Channel) (decoder : Decoder) (a : Adapter) (xs : List Happening) :
    (create a channel decoder (h.noting xs)).1 = (create a channel decoder h).1 ∧
      (create a channel decoder (h.noting xs)).2.trace = xs ++ h.trace := by
  have hs := trace_processSettings (h := h)
  unfold create
  simp only [processSettings_noting]
  generalize h.processSettings = settled at hs ⊢
  obtain ⟨outcome, h'⟩ := settled
  cases a with
  | appEngine => cases outcome <;> exact ⟨rfl, congrArg (xs ++ ·) hs⟩
  | custom name available creation =>
      cases creation with
      | identity => cases outcome <;> exact ⟨rfl, congrArg (xs ++ ·) hs⟩
      | exchanges kind label outcomes => cases outcome <;> exact ⟨rfl, congrArg (xs ++ ·) hs⟩
      | nothing => exact ⟨rfl, rfl⟩
      | raised why => exact ⟨rfl, rfl⟩

theorem send_noting (r : Request) (xs : List Happening) :
    ((h.noting xs).send channel r).1 = (h.send channel r).1 ∧
      ((h.noting xs).send channel r).2.trace = .requested channel r :: (xs ++ h.trace) := by
  refine ⟨?_, Host.trace_send ..⟩
  cases channel <;> simp only [Host.send, Host.pending, Host.note, Host.noting] <;>
    split <;> simp_all [Host.unanswered]

theorem loadFile_noting (p : Path) (xs : List Happening) :
    loadFile s p channel decoder (h.noting xs) =
      ((Credential.load p.toText p channel decoder (some s.settings) h).1,
        h.noting (h.readings p decoder ++ xs)) := by
  refine Prod.ext ?_ ?_
  · simp only [loadFile, Credential.load]
    have hf : CredentialInfo.ofFile (h.noting xs) p decoder = CredentialInfo.ofFile h p decoder :=
      rfl
    rw [hf]
    cases CredentialInfo.ofFile h p decoder with
    | error why => rfl
    | ok info => cases info <;> rfl
  · simp only [loadFile, Credential.load_of_settings]
    have hr : (h.noting xs).readings p decoder = h.readings p decoder := rfl
    rw [hr]
    simp [Host.noting]

/-! ### The places in turn -/

theorem discover_of_skipped {source : Source} {rest : List Source} {h' : Host}
    (ha : attempt s channel decoder source h = (.ok none, h')) :
    discover s channel decoder (source :: rest) h =
      discover s channel decoder rest (h'.log (.sourceNotApplicable source.name)) := by
  simp [discover, ha]

theorem discover_of_error {source : Source} {rest : List Source} {h' : Host} {why : Raised}
    (ha : attempt s channel decoder source h = (.error why, h')) :
    discover s channel decoder (source :: rest) h = (.error why, h') := by
  simp [discover, ha]

/-- A file that is there decides, whatever loading it comes to. -/
theorem fromPointer_of_file {value : String} (hv : Given s h pointerVariable value)
    (hf : h.isFile (h.absolutePath value) = .ok true) :
    fromPointer s channel decoder h =
      ((Credential.load (h.absolutePath value).toText (h.absolutePath value) channel decoder
          (some s.settings) h).1.map some,
        h.noting (h.readings (h.absolutePath value) decoder ++
          [.sought (h.absolutePath value)])) := by
  have hseek : h.seek (h.absolutePath value) =
      (.ok true, h.noting [.sought (h.absolutePath value)]) := by
    rw [Host.seek, hf]
    rfl
  simp only [fromPointer, variableOf_eq_some_iff.mpr hv, hseek, found, loadFile_noting]

theorem fromPointer_of_missing {value : String} (hv : Given s h pointerVariable value)
    (hf : h.isFile (h.absolutePath value) = .ok false) :
    fromPointer s channel decoder h =
      (.error (.failure (.pointerMissing (.text pointerVariable)
          (.text (h.absolutePath value).toText))), h.noting [.sought (h.absolutePath value)]) := by
  simp only [fromPointer, variableOf_eq_some_iff.mpr hv, Host.seek, hf]
  rfl

theorem fromPointer_of_blank (hb : Blank s h pointerVariable) :
    fromPointer s channel decoder h = (.ok none, h) := by
  simp only [fromPointer, variableOf_eq_none_iff.mpr hb]

theorem fromWellKnownFile_of_nowhere (hw : WellKnownAt s h none) (xs : List Happening) :
    fromWellKnownFile s channel decoder (h.noting xs) = (.ok none, h.noting xs) := by
  have hnone : wellKnownFile s (h.noting xs) = none := (wellKnownAt_iff (h := h)).mp hw
  simp only [fromWellKnownFile, hnone]

theorem fromWellKnownFile_of_absent (hw : WellKnownAt s h (some p))
    (hf : h.isFile p = .ok false) (xs : List Happening) :
    fromWellKnownFile s channel decoder (h.noting xs) = (.ok none, h.noting (.sought p :: xs)) := by
  have hsome : wellKnownFile s (h.noting xs) = some p := (wellKnownAt_iff (h := h)).mp hw
  have hseek : (h.noting xs).isFile p = .ok false := hf
  simp only [fromWellKnownFile, hsome, Host.seek, hseek]
  rfl

theorem fromWellKnownFile_of_file (hw : WellKnownAt s h (some p))
    (hf : h.isFile p = .ok true) (xs : List Happening) :
    (fromWellKnownFile s channel decoder (h.noting xs)).1 =
        (Credential.load p.toText p channel decoder (some s.settings) h).1.map some ∧
      ∃ logs, looksIn logs = [] ∧
        (fromWellKnownFile s channel decoder (h.noting xs)).2.trace =
          logs ++ (h.readings p decoder ++ .sought p :: xs ++ h.trace) := by
  have hseek : (h.noting xs).seek p = (.ok true, h.noting (.sought p :: xs)) := by
    have hn : (h.noting xs).isFile p = h.isFile p := rfl
    rw [Host.seek, hn, hf]
    rfl
  have hsome : wellKnownFile s (h.noting xs) = some p := (wellKnownAt_iff (h := h)).mp hw
  simp only [fromWellKnownFile, hsome, hseek, loadFile_noting]
  cases (Credential.load p.toText p channel decoder (some s.settings) h).1 with
  | error why => exact ⟨rfl, [], rfl, rfl⟩
  | ok c =>
      refine ⟨rfl, ?_⟩
      by_cases hc : isSdkUser c = true
      · exact ⟨[.logged .sdkCredentialUsed], rfl, by simp [hc, Host.log, Host.note, Host.noting]⟩
      · exact ⟨[], rfl, by simp [hc, Host.noting]⟩

theorem discover_of_noFile (channel : Channel) (decoder : Decoder) {sought : List Happening}
    (hn : NoFile s h sought) :
    ∃ xs, looksIn xs = sought ∧ discover s channel decoder Source.all h =
      discover s channel decoder [.sandboxRuntime, .computeMetadata] (h.noting xs) := by
  cases hn with
  | nowhere hb hw =>
      have hp : attempt s channel decoder .envFile h = (.ok none, h) := fromPointer_of_blank hb
      -- The log entry about the step before is in the trace but is no look.
      have hk : attempt s channel decoder .wellKnownFile (h.log (.sourceNotApplicable "env_file")) =
          (.ok none, h.noting [.logged (.sourceNotApplicable "env_file")]) :=
        fromWellKnownFile_of_nowhere hw [.logged (.sourceNotApplicable "env_file")]
      refine ⟨[.logged (.sourceNotApplicable "well_known_file"),
        .logged (.sourceNotApplicable "env_file")], rfl, ?_⟩
      exact (discover_of_skipped hp).trans (discover_of_skipped hk)
  | @absent p hb hw hf =>
      have hp : attempt s channel decoder .envFile h = (.ok none, h) := fromPointer_of_blank hb
      have hk : attempt s channel decoder .wellKnownFile (h.log (.sourceNotApplicable "env_file")) =
          (.ok none, h.noting [.sought p, .logged (.sourceNotApplicable "env_file")]) :=
        fromWellKnownFile_of_absent hw hf [.logged (.sourceNotApplicable "env_file")]
      refine ⟨[.logged (.sourceNotApplicable "well_known_file"), .sought p,
        .logged (.sourceNotApplicable "env_file")], rfl, ?_⟩
      exact (discover_of_skipped hp).trans (discover_of_skipped hk)

theorem fromAdapters_of_absent {adapters : List Adapter}
    (ha : ∀ a ∈ adapters, (isAvailable a h).1 = .ok false) (xs : List Happening) :
    fromAdapters channel decoder adapters (h.noting xs) =
      (.ok none, h.noting ((adapters.map .probed).reverse ++ xs)) := by
  induction adapters generalizing xs with
  | nil => rfl
  | cons a rest ih =>
      rw [fromAdapters, isAvailable_noting, ha a List.mem_cons_self]
      simp only
      rw [ih (fun b hb => ha b (List.mem_cons_of_mem _ hb))]
      simp

/-- The first adapter whose runtime is there makes the credential, and none after it is asked. -/
theorem fromAdapters_of_available (channel : Channel) (decoder : Decoder)
    {before : List Adapter} (after : List Adapter)
    (hb : ∀ b ∈ before, (isAvailable b h).1 = .ok false) (ha : (isAvailable a h).1 = .ok true)
    (xs : List Happening) :
    fromAdapters channel decoder (before ++ a :: after) (h.noting xs) =
      create a channel decoder (h.noting (.made a :: .logged (.adapterAvailable a.name) ::
        .probed a :: ((before.map .probed).reverse ++ xs))) := by
  induction before generalizing xs with
  | nil =>
      rw [List.nil_append, fromAdapters, isAvailable_noting, ha]
      rfl
  | cons b rest ih =>
      rw [List.cons_append, fromAdapters, isAvailable_noting, hb b List.mem_cons_self]
      simp only
      rw [ih (fun c hc => hb c (List.mem_cons_of_mem _ hc))]
      simp

theorem probe_eq_question (s : Scope) : Compute.probe s.settings = question s :=
  rfl

theorem fromCompute_of_on (hm : OnMachine s channel h) (xs : List Happening) :
    (fromCompute s channel decoder (h.noting xs)).1 =
        .ok (some (.ofCompute channel decoder s.settings)) ∧
      (fromCompute s channel decoder (h.noting xs)).2.trace =
        .requested channel (question s) :: (xs ++ h.trace) := by
  obtain ⟨r, hr, hserver⟩ := hm
  obtain ⟨ha, ht⟩ := send_noting (question s) xs (h := h)
  have hs := Compute.isMetadataServer_iff.mpr hserver
  rw [hr] at ha
  unfold fromCompute Compute.isAvailable
  rw [probe_eq_question]
  generalize (h.noting xs).send channel (question s) = sent at ha ht ⊢
  obtain ⟨answer, h'⟩ := sent
  simp only at ha ht
  subst ha
  simp [hs, ht]

theorem fromCompute_of_off (decoder : Decoder) (hm : OffMachine s channel h) (xs : List Happening) :
    (fromCompute s channel decoder (h.noting xs)).1 = .ok none ∧
      ∃ logs, looksIn logs = [] ∧ (fromCompute s channel decoder (h.noting xs)).2.trace =
        logs ++ .requested channel (question s) :: (xs ++ h.trace) := by
  obtain ⟨ha, ht⟩ := send_noting (question s) xs (h := h)
  unfold fromCompute Compute.isAvailable
  rw [probe_eq_question]
  generalize (h.noting xs).send channel (question s) = sent at ha ht ⊢
  obtain ⟨answer, h'⟩ := sent
  simp only at ha ht
  rcases hm with ⟨r, hr, hother⟩ | ⟨why, hw, hk⟩
  · have hs : Compute.isMetadataServer r = false := by
      simpa using mt Compute.isMetadataServer_iff.mp hother
    rw [hr] at ha
    subst ha
    exact ⟨by simp [hs], [], rfl, by simp [hs, ht]⟩
  · rw [hw] at ha
    subst ha
    exact ⟨by simp [hk], [.logged (.metadataUnreachable why.text)], rfl,
      by simp [hk, Host.log, Host.note, ht]⟩

/-- A place that gives a credential or fails ends discovery with what it came to. -/
theorem discover_of_decided {source : Source} {rest : List Source}
    {outcome : Except Raised Credential}
    (ha : (attempt s channel decoder source h).1 = outcome.map some) :
    discover s channel decoder (source :: rest) h =
      (outcome.map fun c => (c, source), (attempt s channel decoder source h).2) := by
  cases outcome with
  | ok c => exact discover_of_found (Prod.ext ha rfl)
  | error why => exact discover_of_error (Prod.ext ha rfl)

theorem discover_of_pointer {value : String} {c : Credential} (hv : Given s h pointerVariable value)
    (hf : h.isFile (h.absolutePath value) = .ok true)
    (hl : (Credential.load (h.absolutePath value).toText (h.absolutePath value) channel decoder
      (some s.settings) h).1 = .ok c) :
    ∃ happenings, discover s channel decoder Source.all h =
      (.ok (c, .envFile), h.noting happenings) := by
  have ha : attempt s channel decoder .envFile h = _ := fromPointer_of_file hv hf
  rw [hl] at ha
  exact ⟨_, discover_of_found ha⟩

/-! ### The table holds -/

/-- What discovery comes to, with what it looks at. -/
def ComesTo (s : Scope) (channel : Channel) (decoder : Decoder) (h : Host)
    (outcome : Except Raised (Credential × Source)) (looks : List Happening) : Prop :=
  (discover s channel decoder Source.all h).1 = outcome ∧
    ∃ xs, (discover s channel decoder Source.all h).2.trace = xs ++ h.trace ∧ looksIn xs = looks

theorem comesTo_of_eq {outcome : Except Raised (Credential × Source)} {h' : Host}
    {xs looks : List Happening} (hd : discover s channel decoder Source.all h = (outcome, h'))
    (ht : h'.trace = xs ++ h.trace) (hl : looksIn xs = looks) :
    ComesTo s channel decoder h outcome looks := by
  rw [ComesTo, hd]
  exact ⟨rfl, xs, ht, hl⟩

theorem comesTo_of_pointer {value : String} (hv : Given s h pointerVariable value)
    (hf : h.isFile (h.absolutePath value) = .ok true) :
    ComesTo s channel decoder h (loaded s channel decoder h (h.absolutePath value) .envFile)
      (.sought (h.absolutePath value) :: looksIn (h.readings (h.absolutePath value) decoder)) := by
  have ha : attempt s channel decoder .envFile h = _ := fromPointer_of_file hv hf
  have hd : discover s channel decoder Source.all h = _ :=
    discover_of_decided (congrArg Prod.fst ha)
  rw [ha] at hd
  refine comesTo_of_eq hd rfl ?_
  rw [looksIn_append]
  rfl

theorem comesTo_of_wellKnown (hb : Blank s h pointerVariable) (hw : WellKnownAt s h (some p))
    (hf : h.isFile p = .ok true) :
    ComesTo s channel decoder h (loaded s channel decoder h p .wellKnownFile)
      (.sought p :: looksIn (h.readings p decoder)) := by
  have hp : attempt s channel decoder .envFile h = (.ok none, h) := fromPointer_of_blank hb
  obtain ⟨hout, logs, hlogs, htrace⟩ : (attempt s channel decoder .wellKnownFile
        (h.log (.sourceNotApplicable "env_file"))).1 = _ ∧
      ∃ logs, looksIn logs = [] ∧ (attempt s channel decoder .wellKnownFile
        (h.log (.sourceNotApplicable "env_file"))).2.trace = _ :=
    fromWellKnownFile_of_file hw hf [.logged (.sourceNotApplicable "env_file")]
  have hd : discover s channel decoder Source.all h = _ :=
    (discover_of_skipped hp).trans (discover_of_decided hout)
  have hxs : looksIn (logs ++ (h.readings p decoder ++
      [.sought p, .logged (.sourceNotApplicable "env_file")])) =
      .sought p :: looksIn (h.readings p decoder) := by
    rw [looksIn_append, hlogs, looksIn_append, List.append_nil]
    rfl
  refine comesTo_of_eq hd ?_ hxs
  rw [List.append_assoc]
  exact htrace

/-- Where no file decides, what the adapters and the metadata server come to is what discovery
comes to, after the looks for a file. -/
theorem comesTo_of_noFile {outcome : Except Raised (Credential × Source)}
    {sought looks : List Happening} (hn : NoFile s h sought)
    (hrest : ∀ xs, ∃ ys, looksIn ys = looks ∧
      (discover s channel decoder [.sandboxRuntime, .computeMetadata] (h.noting xs)).1 = outcome ∧
      (discover s channel decoder [.sandboxRuntime, .computeMetadata] (h.noting xs)).2.trace =
        ys ++ (xs ++ h.trace)) :
    ComesTo s channel decoder h outcome (sought ++ looks) := by
  obtain ⟨xs, hsought, hall⟩ := discover_of_noFile channel decoder hn
  obtain ⟨ys, hlooks, hout, htrace⟩ := hrest xs
  rw [ComesTo, hall]
  exact ⟨hout, ys ++ xs, by rw [htrace, List.append_assoc], by rw [looksIn_append, hsought, hlooks]⟩

theorem looksIn_probed (adapters : List Adapter) :
    looksIn (adapters.map .probed).reverse = adapters.map .probed := by
  have hall : ∀ x ∈ (adapters.map Happening.probed).reverse, x.isLook = true := by
    simp [Happening.isLook]
  rw [looksIn, List.filter_eq_self.mpr hall, List.reverse_reverse]

theorem comesTo_of_runtime {sought : List Happening} {before after : List Adapter} {c : Credential}
    (hn : NoFile s h sought) (hs : s.adapters = before ++ a :: after)
    (hb : ∀ b ∈ before, (isAvailable b h).1 = .ok false) (ha : (isAvailable a h).1 = .ok true)
    (hc : (create a channel decoder h).1 = .ok (some c)) :
    ComesTo s channel decoder h (.ok (c, .sandboxRuntime))
      (sought ++ before.map .probed ++ [.probed a, .made a]) := by
  rw [List.append_assoc]
  refine comesTo_of_noFile hn fun xs => ?_
  have hat := fromAdapters_of_available channel decoder after hb ha xs
  rw [← hs] at hat
  obtain ⟨hmade, htrace⟩ := create_noting (h := h) channel decoder a (.made a ::
    .logged (.adapterAvailable a.name) :: .probed a :: ((before.map .probed).reverse ++ xs))
  rw [← hat, hc] at hmade
  rw [← hat] at htrace
  have hout : (attempt s channel decoder .sandboxRuntime (h.noting xs)).1 =
    Except.map some (.ok c) := hmade
  have hd : discover s channel decoder [.sandboxRuntime, .computeMetadata] (h.noting xs) = _ :=
    discover_of_decided hout
  refine ⟨.made a :: .logged (.adapterAvailable a.name) :: .probed a ::
    (before.map .probed).reverse, ?_, by rw [hd]; rfl, ?_⟩
  · rw [looksIn_look rfl, looksIn_logged, looksIn_look rfl, looksIn_probed, List.append_assoc]
    rfl
  · rw [hd]
    simpa [attempt] using htrace

theorem discover_of_absent (channel : Channel) (decoder : Decoder)
    (ha : ∀ a ∈ s.adapters, (isAvailable a h).1 = .ok false) (xs : List Happening) :
    discover s channel decoder [.sandboxRuntime, .computeMetadata] (h.noting xs) =
      discover s channel decoder [.computeMetadata]
        (h.noting (.logged (.sourceNotApplicable "sandbox_runtime") ::
          ((s.adapters.map .probed).reverse ++ xs))) := by
  have hat : attempt s channel decoder .sandboxRuntime (h.noting xs) = _ :=
    fromAdapters_of_absent ha xs
  rw [discover_of_skipped hat]
  rfl

theorem comesTo_of_machine {sought : List Happening} (hn : NoFile s h sought)
    (ha : ∀ a ∈ s.adapters, (isAvailable a h).1 = .ok false) (hm : OnMachine s channel h) :
    ComesTo s channel decoder h (.ok (.ofCompute channel decoder s.settings, .computeMetadata))
      (sought ++ s.adapters.map .probed ++ [.requested channel (question s)]) := by
  rw [List.append_assoc]
  refine comesTo_of_noFile hn fun xs => ?_
  obtain ⟨hon, htrace⟩ :
      (attempt s channel decoder .computeMetadata _).1 = Except.map some (.ok _) ∧
        (attempt s channel decoder .computeMetadata _).2.trace = _ :=
    fromCompute_of_on hm (.logged (.sourceNotApplicable "sandbox_runtime") ::
      ((s.adapters.map .probed).reverse ++ xs))
  rw [discover_of_absent channel decoder ha, discover_of_decided hon]
  refine ⟨.requested channel (question s) ::
    .logged (.sourceNotApplicable "sandbox_runtime") :: (s.adapters.map .probed).reverse,
    ?_, rfl, ?_⟩
  · rw [looksIn_look rfl, looksIn_logged, looksIn_probed]
  · simpa using htrace

theorem comesTo_of_nothing {sought : List Happening} (hn : NoFile s h sought)
    (ha : ∀ a ∈ s.adapters, (isAvailable a h).1 = .ok false) (hm : OffMachine s channel h) :
    ComesTo s channel decoder h (.error (.failure .notFound))
      (sought ++ s.adapters.map .probed ++ [.requested channel (question s)]) := by
  rw [List.append_assoc]
  refine comesTo_of_noFile hn fun xs => ?_
  obtain ⟨hoff, logs, hlogs, htrace⟩ :=
    fromCompute_of_off decoder hm (.logged (.sourceNotApplicable "sandbox_runtime") ::
      ((s.adapters.map .probed).reverse ++ xs))
  have hat : attempt s channel decoder .computeMetadata _ = (.ok none, _) := Prod.ext hoff rfl
  rw [discover_of_absent channel decoder ha, discover_of_skipped hat]
  refine ⟨.logged (.sourceNotApplicable "compute_metadata") :: (logs ++
    .requested channel (question s) ::
      .logged (.sourceNotApplicable "sandbox_runtime") :: (s.adapters.map .probed).reverse),
    ?_, rfl, ?_⟩
  · rw [looksIn_logged, looksIn_append, hlogs, looksIn_look rfl, looksIn_logged, looksIn_probed,
      List.append_nil]
  · simpa [discover, Host.log, Host.note, Source.name, attempt] using htrace

/-- **The table is right.**  What a row says is what discovery comes to, and what the row looks at
is all that discovery looks at, in that order. -/
theorem discover_of_decides {outcome : Except Raised (Credential × Source)}
    {looks : List Happening} (hd : Decides s channel decoder h outcome looks) :
    ComesTo s channel decoder h outcome looks := by
  cases hd with
  | pointerMissing hv hf =>
      have ha : attempt s channel decoder .envFile h = _ := fromPointer_of_missing hv hf
      exact comesTo_of_eq (discover_of_error ha) rfl rfl
  | pointer hv hf => exact comesTo_of_pointer hv hf
  | wellKnown hb hw hf => exact comesTo_of_wellKnown hb hw hf
  | runtime hn hs hb ha hc => exact comesTo_of_runtime hn hs hb ha hc
  | machine hn ha hm => exact comesTo_of_machine hn ha hm
  | nothing hn ha hm => exact comesTo_of_nothing hn ha hm

/-- Two rows that hold are one. -/
theorem decides_unique {o o' : Except Raised (Credential × Source)} {l l' : List Happening}
    (hd : Decides s channel decoder h o l) (hd' : Decides s channel decoder h o' l') :
    o = o' ∧ l = l' := by
  obtain ⟨ho, xs, ht, rfl⟩ := discover_of_decides hd
  obtain ⟨ho', ys, ht', rfl⟩ := discover_of_decides hd'
  have hxs : xs = ys := List.append_cancel_right (ht.symm.trans ht')
  exact ⟨ho.symm.trans ho', by rw [hxs]⟩

/-! ### There is a row -/

/-- What discovery may count on: looking for a file raises nothing, adapters raise nothing and
make a credential where they say that their runtime is there, and the transport that is asked for
the metadata server either answers or fails as transports do. -/
structure Dependable (s : Scope) (channel : Channel) (decoder : Decoder) (h : Host) : Prop where
  pointer : ∀ value, Given s h pointerVariable value →
    ∃ there, h.isFile (h.absolutePath value) = .ok there
  wellKnown : ∀ p, WellKnownAt s h (some p) → ∃ there, h.isFile p = .ok there
  available : ∀ a ∈ s.adapters, ∃ there, (isAvailable a h).1 = .ok there
  makes : ∀ a ∈ s.adapters, (isAvailable a h).1 = .ok true →
    ∃ c, (create a channel decoder h).1 = .ok (some c)
  answer : ∀ why, (h.send channel (question s)).1 = .error why →
    why.kind? = some .transport

/-- Among adapters that all say whether their runtimes are there, there is a first one whose
runtime is there, or there is none. -/
theorem first_available {adapters : List Adapter}
    (ha : ∀ a ∈ adapters, ∃ there, (isAvailable a h).1 = .ok there) :
    (∀ a ∈ adapters, (isAvailable a h).1 = .ok false) ∨
      ∃ before a after, adapters = before ++ a :: after ∧
        (∀ b ∈ before, (isAvailable b h).1 = .ok false) ∧ (isAvailable a h).1 = .ok true := by
  induction adapters with
  | nil => exact Or.inl fun a hm => absurd hm List.not_mem_nil
  | cons a rest ih =>
      obtain ⟨there, hthere⟩ := ha a List.mem_cons_self
      cases there with
      | true =>
          exact Or.inr ⟨[], a, rest, rfl, fun b hm => absurd hm List.not_mem_nil, hthere⟩
      | false =>
          rcases ih fun b hm => ha b (List.mem_cons_of_mem _ hm) with
            hall | ⟨before, b, after, rfl, hb, hyes⟩
          · exact Or.inl (List.forall_mem_cons.mpr ⟨hthere, hall⟩)
          · exact Or.inr ⟨a :: before, b, after, rfl, List.forall_mem_cons.mpr ⟨hthere, hb⟩, hyes⟩

theorem exists_decides_of_noFile (hr : Dependable s channel decoder h) {sought : List Happening}
    (hn : NoFile s h sought) : ∃ o l, Decides s channel decoder h o l := by
  rcases first_available hr.available with hall | ⟨before, a, after, hs, hb, ha⟩
  · cases hsent : (h.send channel (question s)).1 with
    | error why => exact ⟨_, _, .nothing hn hall (Or.inr ⟨why, hsent, hr.answer why hsent⟩)⟩
    | ok r =>
        by_cases hm : r.status = 200 ∧ r.header "Metadata-Flavor" = some "Google"
        · exact ⟨_, _, .machine hn hall ⟨r, hsent, hm⟩⟩
        · exact ⟨_, _, .nothing hn hall (Or.inl ⟨r, hsent, hm⟩)⟩
  · have hmem : a ∈ s.adapters := by simp [hs]
    obtain ⟨c, hc⟩ := hr.makes a hmem ha
    exact ⟨_, _, .runtime hn hs hb ha hc⟩

/-- With what it may count on, discovery is decided by a row. -/
theorem exists_decides (hr : Dependable s channel decoder h) :
    ∃ o l, Decides s channel decoder h o l := by
  cases hv : variableOf s h pointerVariable with
  | some value =>
      have hg := variableOf_eq_some_iff.mp hv
      obtain ⟨there, hf⟩ := hr.pointer value hg
      cases there with
      | true => exact ⟨_, _, .pointer hg hf⟩
      | false => exact ⟨_, _, .pointerMissing hg hf⟩
  | none =>
      have hb := variableOf_eq_none_iff.mp hv
      cases hk : wellKnownFile s h with
      | none => exact exists_decides_of_noFile hr (.nowhere hb (wellKnownAt_iff.mpr hk))
      | some p =>
          have hw := wellKnownAt_iff.mpr hk
          obtain ⟨there, hf⟩ := hr.wellKnown p hw
          cases there with
          | true => exact ⟨_, _, .wellKnown hb hw hf⟩
          | false => exact exists_decides_of_noFile hr (.absent hb hw hf)

end Discovery

namespace Resolver

/-- How a first call passes on what discovery came to: what it gives, what the resolver keeps and
the wallet after it.  A failure of the library is kept, and the caller gets a copy of it. -/
inductive PassesOn (w : Wallet) : Except Raised (Credential × Source) → Except Raised Nat →
    Option Resolution → Wallet → Prop
  | credential {c : Credential} {source : Source} {n : Nat} {w' : Wallet} :
      w'.get? n = some c → (∀ m d, w.get? m = some d → w'.get? m = some d) →
      PassesOn w (.ok (c, source)) (.ok n) (some (.credential n source)) w'
  | failure {why copy : Raised} : why.failure?.isSome → copy.IsCopyOf why →
      PassesOn w (.error why) (.error copy) (some (.failure why)) w
  | fault {why : Raised} : why.failure? = none → PassesOn w (.error why) (.error why) none w

variable {r : Resolver} {channel : Channel} {decoder : Decoder} {w : Wallet} {h : Host}

/-- A resolver that keeps nothing passes on what discovery comes to, and only logs besides. -/
theorem resolve_of_unkept (hk : r.kept = none) :
    let discovered := Discovery.discover r.scope channel decoder Source.all h
    let (given, r', w', h') := r.resolve channel decoder w h
    PassesOn w discovered.1 given r'.kept w' ∧
      ∃ logs, looksIn logs = [] ∧ h'.trace = logs ++ discovered.2.trace := by
  rw [resolve, hk]
  rcases Discovery.discover r.scope channel decoder Source.all h with ⟨⟨why⟩ | ⟨c, source⟩, h'⟩
  · cases hf : why.failure? with
    | none =>
        simp only [conclude, hf]
        exact ⟨by rw [hk]; exact .fault hf, [], rfl, rfl⟩
    | some f =>
        simp only [conclude, hf]
        exact ⟨.failure (by rw [hf]; rfl) (Raised.isCopyOf_replayAfter ..),
          [.logged (.credentialNotFound why.text)], rfl, rfl⟩
  · exact ⟨.credential (w.get?_add_self c) fun m d hd => Wallet.get?_add_of_some hd,
      [.logged (.credentialResolved source.name c.kind)], rfl, rfl⟩

/-- **The first call goes by the table.**  With what discovery may count on, exactly one row holds.
The call gives and keeps what that row comes to, and it looks at what the row looks at, in that
order, and at nothing else. -/
theorem resolve_first (hk : r.kept = none)
    (hr : Discovery.Dependable r.scope channel decoder h) :
    ∃ outcome looks,
      (∀ o l, Discovery.Decides r.scope channel decoder h o l ↔ o = outcome ∧ l = looks) ∧
      let (given, r', w', h') := r.resolve channel decoder w h
      PassesOn w outcome given r'.kept w' ∧ looksIn (h'.since h) = looks := by
  obtain ⟨outcome, looks, hd⟩ := Discovery.exists_decides hr
  obtain ⟨hout, xs, htrace, hlooks⟩ := Discovery.discover_of_decides hd
  obtain ⟨hpass, logs, hlogs, hall⟩ := resolve_of_unkept hk (w := w)
  refine ⟨outcome, looks, fun o l => ⟨fun hd' => Discovery.decides_unique hd' hd, ?_⟩, ?_, ?_⟩
  · rintro ⟨rfl, rfl⟩
    exact hd
  · rw [← hout]
    exact hpass
  · rw [htrace, ← List.append_assoc] at hall
    rw [Host.since_eq hall, looksIn_append, hlogs, hlooks, List.append_nil]

def idle : Adapter :=
  .custom "idle" (.ok false) .nothing

def ready : Adapter :=
  .custom "ready" (.ok true) (.exchanges "sequence" "SequenceCredential" [])

/-- A resolver with an empty variable, a directory without a file, and a runtime that is there
between one that is not and another that is. -/
def between : Resolver where
  scope :=
    { environment := some [("GOOGLE_APPLICATION_CREDENTIALS", ""), ("CLOUDSDK_CONFIG", "/cfg")]
      platform := "linux"
      home := none
      adapters := [idle, ready, .custom "late" (.ok true) .identity]
      settings := .standard }
  kept := none
  copies := 0

/-- The file that would be in that directory. -/
def unwritten : Path :=
  (Path.ofText "/cfg").join [Discovery.wellKnownName]

def settled : Host :=
  { Host.empty with settings := some .standard }

theorem noFile_between : Discovery.NoFile between.scope settled [.sought unwritten] :=
  .absent rfl (.configured ⟨rfl, by decide⟩) rfl

theorem dependable_between : Discovery.Dependable between.scope .main .json settled where
  pointer := by
    rintro value ⟨hv, hne⟩
    exact absurd (Option.some.inj hv).symm hne
  wellKnown := by
    intro p hp
    have hu : some unwritten = some p := Discovery.wellKnownAt_iff.mp hp
    cases hu
    exact ⟨false, rfl⟩
  available := by simp [between, idle, ready, Discovery.isAvailable]
  makes := by
    intro a ha htrue
    simp only [between, List.mem_cons, List.not_mem_nil, or_false] at ha
    rcases ha with rfl | rfl | rfl
    · cases htrue
    · exact ⟨_, rfl⟩
    · exact ⟨_, rfl⟩
  answer := by
    rintro why ⟨⟩
    rfl

/-- The empty variable and the missing file are passed over, the first runtime that is there
decides, and neither the adapter after it nor the metadata server is asked. -/
theorem resolve_first_between :
    let (given, r', w', h') := between.resolve .main .json .empty settled
    (∃ n c, given = .ok n ∧ r'.kept = some (.credential n .sandboxRuntime) ∧ w'.get? n = some c) ∧
      looksIn (h'.since settled) =
        [.sought unwritten, .probed idle, .probed ready, .made ready] := by
  have hs : between.scope.adapters =
      [idle] ++ ready :: [.custom "late" (.ok true) .identity] := rfl
  have hidle : ∀ b ∈ [idle], (Discovery.isAvailable b settled).1 = .ok false := by
    simp [idle, Discovery.isAvailable]
  have hrow : Discovery.Decides between.scope .main .json settled _ _ :=
    .runtime noFile_between hs hidle rfl rfl
  obtain ⟨outcome, looks, hiff, hcall⟩ :=
    resolve_first (r := between) (w := .empty) rfl dependable_between
  obtain ⟨rfl, rfl⟩ := (hiff _ _).mp hrow
  generalize between.resolve .main .json .empty settled = called at hcall ⊢
  obtain ⟨given, r', w', h'⟩ := called
  obtain ⟨hpass, hlooks⟩ := hcall
  refine ⟨?_, hlooks⟩
  generalize r'.kept = kept at hpass ⊢
  cases hpass with
  | credential hget _ => exact ⟨_, _, rfl, rfl, hget⟩

end Resolver
end DefaultCredentials
