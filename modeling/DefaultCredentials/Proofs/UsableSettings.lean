import DefaultCredentials.HttpClient
import DefaultCredentials.Proofs.DefaultCertificate
import DefaultCredentials.Proofs.InjectedSettings
import DefaultCredentials.Proofs.OptionNames

/-!
# Whether settings can be used

Settings that are read have a level that exists and timeouts that were not refused.  A timeout is
refused if it is at most zero.  What is not a number is not at most zero either, so it passes, and
this is the one way in which a timeout can fail to be positive.

* `Settings.of_readField_checkTimeout`: one timeout, and `Settings.of_readField_checkLevel` the
  level.
* `Settings.Issues`: what is issued under settings, each with its time limit.  Its limits are the
  timeouts of the settings (`Settings.issues_of_timeouts`).
* `Settings.read_usable` puts these together, and `Settings.read_notANumber` has a case of the gap.
-/

namespace DefaultCredentials

/-! ### Comparing with zero -/

namespace Number

open Float.Model (UnpackedFloat)

theorem le_zero_iff (x : Float) : x ≤ 0.0 ↔ x.toModel.unpack.le (.zero .positive) = true := by
  show Float.le x 0.0 = true ↔ _
  rw [Float.le, decide_eq_true_iff]
  rfl

theorem zero_lt_iff (x : Float) :
    0.0 < x ↔ UnpackedFloat.lt (.zero .positive) x.toModel.unpack = true := by
  show Float.lt 0.0 x = true ↔ _
  rw [Float.lt, decide_eq_true_iff]
  rfl

theorem not_le_zero_iff (x : Float) : ¬ x ≤ 0.0 ↔ 0.0 < x ∨ x.isNaN = true := by
  have hnan : x.isNaN = x.toModel.unpack.isNaN := rfl
  rw [le_zero_iff, zero_lt_iff, hnan]
  cases x.toModel.unpack with
  | notANumber => decide
  | infinity sign => cases sign <;> decide
  | zero sign => cases sign <;> decide
  | finite sign mantissa exponent hpos =>
      cases sign with
      | positive => exact iff_of_true Bool.false_ne_true (.inl rfl)
      | negative =>
          refine iff_of_false (not_not_intro rfl) ?_
          exact not_or.mpr ⟨Bool.false_ne_true, Bool.false_ne_true⟩

theorem not_zero_lt_of_isNaN {x : Float} (hx : x.isNaN = true) : ¬ 0.0 < x := by
  replace hx : x.toModel.unpack.isNaN = true := hx
  rw [zero_lt_iff]
  revert hx
  cases x.toModel.unpack with
  | notANumber => decide
  | infinity sign => cases sign <;> decide
  | zero sign => cases sign <;> decide
  | finite sign mantissa exponent hpos => exact fun hnan => absurd hnan Bool.false_ne_true

end Number

/-! ### What is issued -/

namespace Settings

/-- The timeouts of settings, with their options. -/
def timeouts (s : Settings) : List (Field × Float) :=
  [(.metadataTimeout, s.metadataTimeout), (.requestTimeout, s.requestTimeout),
    (.commandTimeout, s.commandTimeout)]

/-- What is issued under settings has a time limit, and something holds of each limit: of requests
that a search sends, of those that a call on a credential sends, of what a client sends for a
request without a limit of its own, and of the command of a metadata file. -/
structure Issues (s : Settings) (holds : Float → Prop) : Prop where
  searched : ∀ (scope : Scope) channel decoder sources h via q, scope.settings = s →
    .requested via q ∈ (Discovery.discover scope channel decoder sources h).2.since h →
    ∃ x, q.timeout = some x ∧ holds x
  called : ∀ (call : Call) (c : Credential) h via q, c.settings = s →
    .requested via q ∈ (call.perform c h).2.2.since h → ∃ x, q.timeout = some x ∧ holds x
  sent : ∀ provider h client (q : Request), (HttpClient.build provider s h).1 = .ok client →
    q.timeout = none → holds (client.outgoing q).timeout
  run : ∀ p, ∃ x, holds x ∧ ∀ h command, TrustProvider.Names h p command →
    ((TrustProvider.ofSettings s p).defaultAnswer h).1 =
      ((Command.run h command x).bind Keystore.ofDocument).map some

variable {s : Settings}

/-- What holds of the timeouts of settings holds of all that is issued. -/
theorem issues_of_timeouts {holds : Float → Prop} (ht : ∀ t ∈ s.timeouts, holds t.2) :
    s.Issues holds := by
  simp only [timeouts, List.forall_mem_cons] at ht
  obtain ⟨hmetadata, hrequest, hcommand, -⟩ := ht
  refine ⟨?searched, ?called, ?sent, ?run⟩
  case searched =>
    rintro scope channel decoder sources h via q rfl hq
    have hprobe := ((Host.Sends.persists scope.settings).discover scope channel decoder h
      Host.Sends.processSettings rfl sources).of_mem_since hq
    exact ⟨scope.settings.metadataTimeout, by rw [hprobe]; rfl, hmetadata⟩
  case called =>
    rintro call c h via q rfl hq
    exact ⟨_, ((Credential.sends_perform call c h).of_mem_since hq).timeout, hrequest⟩
  case sent =>
    intro provider h client q hbuild hq
    have hclient : client.timeout = s.requestTimeout := by
      unfold HttpClient.build at hbuild
      split at hbuild
      · cases hbuild
      · split at hbuild <;> cases hbuild
        rfl
    rwa [HttpClient.timeout_outgoing_of_none hq, hclient]
  case run =>
    refine fun p => ⟨s.commandTimeout, hcommand, fun h command hn => ?_⟩
    rw [TrustProvider.defaultAnswer_ofSettings, TrustProvider.keystoreOfMetadata_of_names hn]

/-! ### What is read -/

variable {found : Option Found} {given : List (String × Value)}
  {environment : List (String × String)}

theorem readField_some_eq_ok_iff {α : Type} {check : Value → Except Objection α} {d a : α}
    {f : Found} : readField check d (some f) = .ok a ↔ check f.value = .ok a := by
  simp only [readField]
  cases check f.value with
  | ok b =>
      constructor <;>
        · rintro ⟨⟩
          rfl
  | error o => constructor <;> rintro ⟨⟩

/-- A timeout that passes is a number that is positive, or none. -/
theorem checkTimeout_eq_ok_iff {v : Value} {x : Float} :
    checkTimeout v = .ok x ↔ checkNumber v = .ok x ∧ (0.0 < x ∨ x.isNaN = true) := by
  rw [← Number.not_le_zero_iff, checkTimeout]
  cases checkNumber v with
  | error o => simp
  | ok y =>
      dsimp only
      by_cases hy : y ≤ 0.0
      · rw [if_pos hy]
        simp only [reduceCtorEq, Except.ok.injEq, false_iff, not_and, Classical.not_not]
        rintro rfl
        exact hy
      · rw [if_neg hy]
        simp only [Except.ok.injEq, iff_self_and]
        rintro rfl
        exact hy

theorem name_of_checkLevel {v : Value} {l : Log.Level} (hl : checkLevel v = .ok l) :
    ∃ text, v = .text text ∧ l.name = Text.upper text := by
  cases v with
  | text text =>
      simp only [checkLevel, checkText] at hl
      cases ho : Log.Level.ofName? (Text.upper text) with
      | none =>
          rw [ho] at hl
          cases hl
      | some l' =>
          rw [ho] at hl
          cases hl
          exact ⟨text, rfl, Log.Level.name_of_ofName? ho⟩
  | _ => cases hl

/-- A timeout that is read is positive or not a number, and the latter only if that was found. -/
theorem of_readField_checkTimeout {d x : Float} (hd : 0.0 < d)
    (hx : readField checkTimeout d found = .ok x) :
    (0.0 < x ∨ x.isNaN = true) ∧ (x.isNaN = true ↔
      ∃ f y, found = some f ∧ checkNumber f.value = .ok y ∧ y.isNaN = true) := by
  cases found with
  | none =>
      cases hx
      exact ⟨.inl hd, fun hnan => absurd hd (Number.not_zero_lt_of_isNaN hnan), nofun⟩
  | some f =>
      obtain ⟨hnumber, hpasses⟩ := checkTimeout_eq_ok_iff.mp (readField_some_eq_ok_iff.mp hx)
      refine ⟨hpasses, fun hnan => ⟨f, x, rfl, hnumber, hnan⟩, ?_⟩
      rintro ⟨_, y, ⟨⟩, hy, hnan⟩
      rw [hnumber] at hy
      cases hy
      exact hnan

/-- A level that is read has the name that was found, in capitals, or else it is the usual one. -/
theorem of_readField_checkLevel {l : Log.Level} (hl : readField checkLevel .info found = .ok l) :
    found = none ∧ l.name = "INFO" ∨
      ∃ f text, found = some f ∧ f.value = .text text ∧ l.name = Text.upper text := by
  cases found with
  | none =>
      cases hl
      exact .inl ⟨rfl, rfl⟩
  | some f =>
      obtain ⟨text, hvalue, hname⟩ := name_of_checkLevel (readField_some_eq_ok_iff.mp hl)
      exact .inr ⟨f, text, rfl, hvalue, hname⟩

theorem Has.timeout {t : Field × Float} (hs : s.Has t.1 found) (ht : t ∈ s.timeouts) :
    ∃ d, 0.0 < d ∧ readField checkTimeout d found = .ok t.2 := by
  simp only [timeouts, List.mem_cons, List.not_mem_nil, or_false] at ht
  rcases ht with rfl | rfl | rfl
  · exact ⟨_, by decide, hs⟩
  · exact ⟨_, by decide, hs⟩
  · exact ⟨_, by decide, hs⟩

/-- **Settings that are read.**  Each timeout is positive or not a number, and it is not a number
exactly if what decides its option is read as none.  So it is with the limits of all that is issued
under the settings.  The level is one of seven, and its name is what decides its option, in
capitals. -/
theorem read_usable (hr : read given environment = .ok s) :
    (∀ t ∈ s.timeouts, (0.0 < t.2 ∨ t.2.isNaN = true) ∧ (t.2.isNaN = true ↔
      ∃ f x, Decides t.1 given environment (some f) ∧ checkNumber f.value = .ok x ∧
        x.isNaN = true)) ∧
    (s.Issues fun x => 0.0 < x ∨ x.isNaN = true) ∧
    s.logLevel.name ∈ ["TRACE", "DEBUG", "INFO", "SUCCESS", "WARNING", "ERROR", "CRITICAL"] ∧
    (Decides .logLevel given environment none ∧ s.logLevel.name = "INFO" ∨
      ∃ f text, Decides .logLevel given environment (some f) ∧ f.value = .text text ∧
        s.logLevel.name = Text.upper text) := by
  have hhas : ∀ f, s.Has f (find f given environment) := by
    have hcomes := comesOf_read given environment
    rwa [hr] at hcomes
  have hread : ∀ t ∈ s.timeouts, (0.0 < t.2 ∨ t.2.isNaN = true) ∧ (t.2.isNaN = true ↔
      ∃ f x, Decides t.1 given environment (some f) ∧ checkNumber f.value = .ok x ∧
        x.isNaN = true) := by
    intro t ht
    obtain ⟨d, hd, hx⟩ := (hhas t.1).timeout ht
    simp only [decides_iff]
    exact of_readField_checkTimeout hd hx
  refine ⟨hread, issues_of_timeouts fun t ht => (hread t ht).1, ?_, ?_⟩
  · cases s.logLevel <;> decide
  · simp only [decides_iff]
    exact of_readField_checkLevel (hhas .logLevel)

/-! ### One variable -/

/-- In an environment of one variable, which is spelled as a name of an option, only that option
finds a value. -/
theorem find_of_spelled {f g : Field} {spelled name value : String} {higher lower : List String}
    (hg : g.variableNames = higher ++ name :: lower) (hname : Text.sameName spelled name = true)
    (hhigher : ∀ v ∈ higher, Text.sameName spelled v = false) :
    find f [] [(spelled, value)] = if f = g then some ⟨g.title name, .text value⟩ else none := by
  have hunset (v : String) (hv : Text.sameName spelled v = false) :
      IsUnset [(spelled, value)] v := by
    simpa [IsUnset] using hv
  rw [← decides_iff]
  split
  · rename_i hf
    rw [hf]
    exact .set (by simp [IsGiven]) hg (fun v hv => hunset v (hhigher v hv))
      ⟨[], spelled, [], rfl, hname, List.forall_mem_nil _⟩
  · rename_i hf
    refine .absent (by simp [IsGiven]) fun v hv => hunset v ?_
    exact Bool.eq_false_iff.mpr fun hother =>
      hf (Field.AnswersTo.unique ⟨v, hv, hother⟩ ⟨name, by simp [hg], hname⟩)

theorem find_of_one {f g : Field} {name value : String} {rest : List String}
    (hg : g.variableNames = name :: rest) :
    find f [] [(name, value)] = if f = g then some ⟨g.title name, .text value⟩ else none :=
  @find_of_spelled f g name name value [] rest hg (Text.sameName_iff.mpr rfl) nofun

theorem read_metadataTimeout {text : String} {x : Float}
    (hx : checkTimeout (.text text) = .ok x) :
    read [] [("GCE_METADATA_TIMEOUT", text)] = .ok { standard with metadataTimeout := x } := by
  have hfind (f : Field) := @find_of_one f .metadataTimeout _ text _ rfl
  have hread : readField checkTimeout standard.metadataTimeout
      (some ⟨Field.metadataTimeout.title "GCE_METADATA_TIMEOUT", .text text⟩) = .ok x :=
    readField_some hx
  simp only [read, hfind, hread, reduceCtorEq, if_true, if_false]
  rfl

/-- A timeout that is a number, written with an underscore. -/
theorem read_usable_written :
    ∃ s, read [] [("GCE_METADATA_TIMEOUT", "1_0.5")] = .ok s ∧ 0.0 < s.metadataTimeout ∧
      s.Issues fun x => 0.0 < x ∨ x.isNaN = true := by
  have hx : checkTimeout (.text "1_0.5") = .ok 10.5 := rfl
  have hr := read_metadataTimeout hx
  obtain ⟨htimeouts, hissues, -⟩ := read_usable hr
  obtain ⟨hpasses, -⟩ := htimeouts (.metadataTimeout, 10.5) List.mem_cons_self
  exact ⟨_, hr, hpasses.resolve_right (by decide), hissues⟩

/-- A timeout that is not a number is read, and the metadata server is asked with it. -/
theorem read_notANumber :
    ∃ s, read [] [("GCE_METADATA_TIMEOUT", "nan")] = .ok s ∧ ¬ 0.0 < s.metadataTimeout ∧
      ∃ scope via q, scope.settings = s ∧ q.timeout = some s.metadataTimeout ∧
        .requested via q ∈
          (Discovery.discover scope .main .json [.computeMetadata] .empty).2.since .empty := by
  have hnan : (checkTimeout (.text "nan")).toOption.map (·.isNaN) = some true := by decide +kernel
  cases hx : checkTimeout (.text "nan") with
  | error o =>
      rw [hx] at hnan
      cases hnan
  | ok x =>
      rw [hx] at hnan
      refine ⟨_, read_metadataTimeout hx, Number.not_zero_lt_of_isNaN (Option.some.inj hnan),
        ⟨none, "linux", none, [], _⟩, .main, Compute.probe _, rfl, rfl, ?_⟩
      exact List.mem_of_getElem? (i := 2) rfl

end Settings
end DefaultCredentials
