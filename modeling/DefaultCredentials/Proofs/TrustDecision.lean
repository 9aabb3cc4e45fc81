import DefaultCredentials.Proofs.TraceView
import DefaultCredentials.Trust

/-!
# Which keystore is presented

The decision about a client certificate treats two keystores in two ways.  The explicit one was
asked for, so that a connection without it would not be the one that the caller wanted; the default
one is a convenience.  `Trust.DecisionLaw` states what follows from that for any function that
decides, and `Trust.select_law` says that `Trust.select` is such a function.

What a provider answers may hang on the host and may change it.  `TrustProvider.explicitAnswer` and
`TrustProvider.defaultAnswer` are the answers in the hosts where the questions are asked;
`Trust.Gives` and `Trust.Raises` say what an answer comes to once its keystore is tried.
-/

namespace DefaultCredentials

/-- The question of trust selection that was asked, if one was. -/
def Happening.question? : Happening → Option TrustQuestion
  | .asked question => some question
  | _ => none

/-- The questions of trust selection among what happened, the last first. -/
def questionsIn (happenings : List Happening) : List TrustQuestion :=
  happenings.filterMap Happening.question?

/-- From a host to a later one just these questions are asked, the last first. -/
def AsksFrom (h h' : Host) (questions : List TrustQuestion) : Prop :=
  h.Shows Happening.question? h' questions

theorem Keystore.shows_load {α : Type} {view : Happening → Option α}
    (hv : ∀ name password, view (.loaded name password) = none) (k : Keystore) (password : String)
    (h : Host) : h.Shows view (k.load password h).2 [] := by
  cases k with
  | pem certificates key =>
      refine ⟨[], ?_, rfl⟩
      simp only [load]
      split <;> rfl
  | custom name loading => exact (Host.Shows.refl view h).note (hv name password)

namespace TrustProvider

/-- The host in which the explicit keystore is asked for. -/
def explicitHost (h : Host) : Host :=
  ((h.note (.asked .use)).note (.asked .password)).note (.asked .explicitKeystore)

/-- The answer to the question for an explicit keystore. -/
def explicitAnswer (p : TrustProvider) (h : Host) : Except Raised (Option Keystore) × Host :=
  p.explicitKeystore (explicitHost h)

/-- The answer to the question for the default keystore, asked after the other. -/
def defaultAnswer (p : TrustProvider) (h : Host) : Except Raised (Option Keystore) × Host :=
  p.defaultKeystore ((p.explicitAnswer h).2.note (.asked .defaultKeystore))

/-- A provider that asks itself none of the questions and hides none that was asked. -/
structure IsDiscreet (p : TrustProvider) : Prop where
  explicit : ∀ h, AsksFrom h (p.explicitKeystore h).2 []
  default : ∀ h, AsksFrom h (p.defaultKeystore h).2 []

theorem IsDiscreet.asksFrom_explicitAnswer {p : TrustProvider} (hd : p.IsDiscreet) (h : Host) :
    AsksFrom h (p.explicitAnswer h).2 [.explicitKeystore, .password, .use] := by
  have hq : AsksFrom h (explicitHost h) [.explicitKeystore, .password, .use] :=
    ⟨[.asked .explicitKeystore, .asked .password, .asked .use], rfl, rfl⟩
  exact hq.trans (hd.explicit _)

theorem IsDiscreet.asksFrom_defaultAnswer {p : TrustProvider} (hd : p.IsDiscreet) (h : Host) :
    AsksFrom h (p.defaultAnswer h).2 [.defaultKeystore, .explicitKeystore, .password, .use] := by
  have hq : AsksFrom (p.explicitAnswer h).2
      ((p.explicitAnswer h).2.note (.asked .defaultKeystore)) [.defaultKeystore] :=
    ⟨[.asked .defaultKeystore], rfl, rfl⟩
  exact ((hd.asksFrom_explicitAnswer h).trans hq).trans (hd.default _)

end TrustProvider

namespace Trust

variable {answer : Except Raised (Option Keystore) × Host} {password : String} {k : Keystore}
  {why : Raised}

/-- An answer that is a keystore, and one that loads with a password. -/
def Gives (answer : Except Raised (Option Keystore) × Host) (password : String) (k : Keystore) :
    Prop :=
  answer.1 = .ok (some k) ∧ (k.load password answer.2).1 = .ok ()

/-- What was raised in place of an answer, or when the keystore of an answer was tried. -/
def Raises (answer : Except Raised (Option Keystore) × Host) (password : String) (why : Raised) :
    Prop :=
  answer.1 = .error why ∨ ∃ k, answer.1 = .ok (some k) ∧ (k.load password answer.2).1 = .error why

/-! ### One keystore on trial -/

/-- An answer is no keystore, or one that loads, or something is raised. -/
theorem answer_cases (answer : Except Raised (Option Keystore) × Host) (password : String) :
    answer.1 = .ok none ∨ (∃ k, Gives answer password k) ∨ ∃ why, Raises answer password why := by
  obtain ⟨outcome, h⟩ := answer
  cases outcome with
  | error why => exact .inr (.inr ⟨why, .inl rfl⟩)
  | ok keystore =>
      cases keystore with
      | none => exact .inl rfl
      | some k =>
          cases hl : (k.load password h).1 with
          | ok _ => exact .inr (.inl ⟨k, rfl, hl⟩)
          | error why => exact .inr (.inr ⟨why, .inr ⟨k, rfl, hl⟩⟩)

theorem trial_of_absent (ha : answer.1 = .ok none) :
    trial answer password = (.absent, answer.2) := by
  obtain ⟨outcome, h⟩ := answer
  cases ha
  rfl

theorem trial_of_gives (hg : Gives answer password k) :
    trial answer password = (.loads k, (k.load password answer.2).2) := by
  obtain ⟨outcome, h⟩ := answer
  obtain ⟨rfl, hl⟩ := hg
  simp only at hl
  simp only [trial]
  generalize k.load password h = loaded at hl ⊢
  obtain ⟨result, h'⟩ := loaded
  cases hl
  rfl

theorem trial_of_raises (hr : Raises answer password why) :
    trial answer password = (.ofRaised why, (trial answer password).2) := by
  refine Prod.ext ?_ rfl
  obtain ⟨outcome, h⟩ := answer
  rcases hr with rfl | ⟨k, rfl, hl⟩
  · rfl
  · simp only at hl
    simp only [trial]
    generalize k.load password h = loaded at hl ⊢
    obtain ⟨result, h'⟩ := loaded
    cases hl
    rfl

theorem shows_trial {α : Type} {view : Happening → Option α}
    (hv : ∀ name password, view (.loaded name password) = none)
    (answer : Except Raised (Option Keystore) × Host) (password : String) :
    answer.2.Shows view (trial answer password).2 [] := by
  obtain ⟨outcome, h⟩ := answer
  rcases outcome with why | keystore
  · exact ⟨[], rfl, rfl⟩
  · cases keystore with
    | none => exact ⟨[], rfl, rfl⟩
    | some k =>
        have hl := k.shows_load hv password h
        simp only [trial]
        split <;> rename_i he <;> rwa [he] at hl

theorem asksFrom_trial (answer : Except Raised (Option Keystore) × Host) (password : String) :
    AsksFrom answer.2 (trial answer password).2 [] :=
  shows_trial (fun _ _ => rfl) answer password

/-! ### The law -/

/-- What must hold of a decision about client certificates, for every provider and every host. -/
structure DecisionLaw
    (decision : TrustProvider → Host → Except Raised TrustConfig × Host) : Prop where
  /-- Where no certificate is wanted there is none, and nothing else about the provider matters. -/
  unwanted : ∀ p h, p.use = false →
    (decision p h).1 = .ok .none ∧ ∀ q : TrustProvider, q.use = false → decision q h = decision p h
  /-- An explicit keystore that loads is presented, with the password that it was loaded with. -/
  explicit : ∀ p h k, p.use = true → Gives (p.explicitAnswer h) p.password k →
    (decision p h).1 = .ok (.presenting k p.password)
  /-- An explicit keystore that cannot be had or does not load is a failure, which is led to by what
  was raised. -/
  unavailable : ∀ p h why, p.use = true → Raises (p.explicitAnswer h) p.password why →
    isLoadFailure why = true →
    ∃ failure, (decision p h).1 = .error failure ∧ failure.kind? = some .trustUnavailable ∧
      failure.text = "Client certificate could not be loaded: " ++ why.text ∧
      failure.causes = why.occurrence :: why.causes
  /-- Where an explicit keystore was asked for, the default one does not matter, and the decision
  is not to go without a certificate. -/
  exclusive : ∀ p h, p.use = true → (p.explicitAnswer h).1 ≠ .ok none →
    (decision p h).1 ≠ .ok .none ∧
      ∀ d, decision { p with defaultKeystore := d } h = decision p h
  /-- Without an explicit keystore, the default one is presented exactly if it loads. -/
  default : ∀ p h k, p.use = true → (p.explicitAnswer h).1 = .ok none →
    ((decision p h).1 = .ok (.presenting k p.password) ↔ Gives (p.defaultAnswer h) p.password k)
  /-- A default keystore that is absent, cannot be had or does not load means no certificate. -/
  degrades : ∀ p h, p.use = true → (p.explicitAnswer h).1 = .ok none →
    (∀ k, ¬ Gives (p.defaultAnswer h) p.password k) →
    (∀ why, Raises (p.defaultAnswer h) p.password why → isLoadFailure why = true) →
    (decision p h).1 = .ok .none
  /-- What does not tell of a keystore passes as it is. -/
  passes : ∀ p h why, p.use = true → isLoadFailure why = false →
    Raises (p.explicitAnswer h) p.password why ∨
      (p.explicitAnswer h).1 = .ok none ∧ Raises (p.defaultAnswer h) p.password why →
    (decision p h).1 = .error why
  /-- A certificate is presented only from a keystore that was loaded with the password beside it,
  and nothing but the decision is noted after that. -/
  loaded : ∀ p h config, (decision p h).1 = .ok config → config.useClientCertificate = true →
    ∃ k host reason, config = .presenting k p.password ∧ (k.load p.password host).1 = .ok () ∧
      (decision p h).2 = decide true reason (k.load p.password host).2
  /-- Of a discreet provider the questions are asked in turn, as far as they are needed. -/
  asked : ∀ p h, p.IsDiscreet →
    (p.use = false → questionsIn ((decision p h).2.since h) = [.use]) ∧
    (p.use = true → (p.explicitAnswer h).1 ≠ .ok none →
      questionsIn ((decision p h).2.since h) = [.explicitKeystore, .password, .use]) ∧
    (p.use = true → (p.explicitAnswer h).1 = .ok none →
      questionsIn ((decision p h).2.since h) =
        [.defaultKeystore, .explicitKeystore, .password, .use])

variable {p : TrustProvider} {h : Host}

/-- A decision is one judgement of the explicit keystore, unless it leaves it to the default one. -/
theorem select_of_use (hp : p.use = true) :
    select p h = match trial (p.explicitAnswer h) p.password with
      | (.absent, h) => selectDefault p h
      | (.loads k, h) => (.ok (.presenting k p.password), decide true "explicit keystore" h)
      | (.fails why, h) => (.error (unavailable why), h)
      | (.passes why, h) => (.error why, h) := by
  simp only [select, hp, if_true]
  rfl

theorem select_of_absent (hp : p.use = true) (ha : (p.explicitAnswer h).1 = .ok none) :
    select p h = match trial (p.defaultAnswer h) p.password with
      | (.absent, h) => (.ok .none, decide false "no default keystore" h)
      | (.loads k, h) => (.ok (.presenting k p.password), decide true "default keystore" h)
      | (.fails why, h) =>
        (.ok .none,
          decide false "no default keystore" (h.log (.defaultCertificateUnavailable why.text)))
      | (.passes why, h) => (.error why, h) := by
  rw [select_of_use hp, trial_of_absent ha]
  rfl

/-! ### What is presented -/

theorem select_of_explicit (hp : p.use = true) (hg : Gives (p.explicitAnswer h) p.password k) :
    select p h = (.ok (.presenting k p.password),
      decide true "explicit keystore" (k.load p.password (p.explicitAnswer h).2).2) := by
  rw [select_of_use hp, trial_of_gives hg]

theorem select_of_default (hp : p.use = true) (ha : (p.explicitAnswer h).1 = .ok none)
    (hg : Gives (p.defaultAnswer h) p.password k) :
    select p h = (.ok (.presenting k p.password),
      decide true "default keystore" (k.load p.password (p.defaultAnswer h).2).2) := by
  rw [select_of_absent hp ha, trial_of_gives hg]

theorem select_of_explicit_raises (hp : p.use = true)
    (hr : Raises (p.explicitAnswer h) p.password why) :
    (select p h).1 = .error (if isLoadFailure why then unavailable why else why) := by
  rw [select_of_use hp, trial_of_raises hr]
  by_cases hw : isLoadFailure why = true <;> simp [Trial.ofRaised, hw]

theorem select_of_default_raises (hp : p.use = true) (ha : (p.explicitAnswer h).1 = .ok none)
    (hr : Raises (p.defaultAnswer h) p.password why) :
    (select p h).1 = if isLoadFailure why then .ok .none else .error why := by
  rw [select_of_absent hp ha, trial_of_raises hr]
  by_cases hw : isLoadFailure why = true <;> simp [Trial.ofRaised, hw]

/-- A certificate comes from a keystore that was asked for and loaded, the explicit one if one was
asked for. -/
theorem select_eq_ok_cases {config : TrustConfig} (hc : (select p h).1 = .ok config) :
    config = .none ∨ p.use = true ∧ ∃ k,
      (Gives (p.explicitAnswer h) p.password k ∨
        (p.explicitAnswer h).1 = .ok none ∧ Gives (p.defaultAnswer h) p.password k) ∧
      config = .presenting k p.password := by
  cases hp : p.use with
  | false =>
      rw [select_of_not_use hp] at hc
      exact .inl (Except.ok.inj hc).symm
  | true =>
      rcases answer_cases (p.explicitAnswer h) p.password with ha | ⟨k, hg⟩ | ⟨why, hr⟩
      · rcases answer_cases (p.defaultAnswer h) p.password with hd | ⟨k, hg⟩ | ⟨why, hr⟩
        · rw [select_of_absent hp ha, trial_of_absent hd] at hc
          exact .inl (Except.ok.inj hc).symm
        · rw [select_of_default hp ha hg] at hc
          exact .inr ⟨rfl, k, .inr ⟨ha, hg⟩, (Except.ok.inj hc).symm⟩
        · rw [select_of_default_raises hp ha hr] at hc
          split at hc
          · exact .inl (Except.ok.inj hc).symm
          · cases hc
      · rw [select_of_explicit hp hg] at hc
        exact .inr ⟨rfl, k, .inl hg, (Except.ok.inj hc).symm⟩
      · rw [select_of_explicit_raises hp hr] at hc
        cases hc

/-! ### What does not matter -/

theorem select_eq_of_not_use {q : TrustProvider} (hp : p.use = false) (hq : q.use = false) :
    select q h = select p h := by
  rw [select_of_not_use hp, select_of_not_use hq]

theorem select_eq_of_explicit (hp : p.use = true) (ha : (p.explicitAnswer h).1 ≠ .ok none)
    (d : Host → Except Raised (Option Keystore) × Host) :
    select { p with defaultKeystore := d } h = select p h := by
  have hq : ({ p with defaultKeystore := d } : TrustProvider).use = true := hp
  rw [select_of_use hp, select_of_use hq]
  have he : ({ p with defaultKeystore := d } : TrustProvider).explicitAnswer h =
      p.explicitAnswer h := rfl
  rw [he]
  rcases answer_cases (p.explicitAnswer h) p.password with hn | ⟨k, hg⟩ | ⟨why, hr⟩
  · exact absurd hn ha
  · rw [trial_of_gives hg]
  · rw [trial_of_raises hr]
    by_cases hw : isLoadFailure why = true <;> simp [Trial.ofRaised, hw]

/-! ### What is asked -/

theorem asksFrom_select_of_explicit (hd : p.IsDiscreet) (hp : p.use = true)
    (ha : (p.explicitAnswer h).1 ≠ .ok none) :
    AsksFrom h (select p h).2 [.explicitKeystore, .password, .use] := by
  have htried : AsksFrom h (trial (p.explicitAnswer h) p.password).2
      [.explicitKeystore, .password, .use] :=
    (hd.asksFrom_explicitAnswer h).trans (asksFrom_trial _ p.password)
  rw [select_of_use hp]
  rcases answer_cases (p.explicitAnswer h) p.password with hn | ⟨k, hg⟩ | ⟨why, hr⟩
  · exact absurd hn ha
  · rw [trial_of_gives hg] at htried ⊢
    exact htried.note rfl
  · rw [trial_of_raises hr]
    by_cases hw : isLoadFailure why = true <;> simpa [Trial.ofRaised, hw] using htried

/-- Where no explicit keystore was asked for, the decision shows what the answer about the default
one shows, unless a view picks that it was loaded or what is logged of it. -/
theorem shows_select_of_absent {α : Type} {view : Happening → Option α} {seen : List α}
    (hloaded : ∀ name password, view (.loaded name password) = none)
    (hdecided : ∀ use reason, view (.logged (.trustDecided use reason)) = none)
    (hfailed : ∀ text, view (.logged (.defaultCertificateUnavailable text)) = none)
    (hp : p.use = true) (ha : (p.explicitAnswer h).1 = .ok none)
    (hanswer : h.Shows view (p.defaultAnswer h).2 seen) : h.Shows view (select p h).2 seen := by
  have htried := hanswer.trans (shows_trial hloaded (p.defaultAnswer h) p.password)
  rw [List.nil_append] at htried
  rw [select_of_absent hp ha]
  generalize trial (p.defaultAnswer h) p.password = tried at htried ⊢
  obtain ⟨verdict, h'⟩ := tried
  cases verdict with
  | absent => exact htried.note (hdecided _ _)
  | loads k => exact htried.note (hdecided _ _)
  | fails why => exact (htried.note (hfailed _)).note (hdecided _ _)
  | passes why => exact htried

theorem asksFrom_select_of_absent (hd : p.IsDiscreet) (hp : p.use = true)
    (ha : (p.explicitAnswer h).1 = .ok none) :
    AsksFrom h (select p h).2 [.defaultKeystore, .explicitKeystore, .password, .use] :=
  shows_select_of_absent (fun _ _ => rfl) (fun _ _ => rfl) (fun _ => rfl) hp ha
    (hd.asksFrom_defaultAnswer h)

/-- **The law of the decision.**  `select` decides as it must, whatever the provider answers and
whatever loading a keystore comes to. -/
theorem select_law : DecisionLaw select where
  unwanted p h hp := ⟨by rw [select_of_not_use hp], fun q hq => select_eq_of_not_use hp hq⟩
  explicit p h k hp hg := by rw [select_of_explicit hp hg]
  unavailable p h why hp hr hw := by
    have hs := select_of_explicit_raises hp hr
    rw [if_pos hw] at hs
    exact ⟨unavailable why, hs, rfl, rfl, rfl⟩
  exclusive p h hp ha := by
    refine ⟨fun hn => ?_, select_eq_of_explicit hp ha⟩
    rcases answer_cases (p.explicitAnswer h) p.password with hnone | ⟨k, hg⟩ | ⟨why, hr⟩
    · exact ha hnone
    · rw [select_of_explicit hp hg] at hn
      cases hn
    · rw [select_of_explicit_raises hp hr] at hn
      cases hn
  default p h k hp ha := by
    refine ⟨fun hk => ?_, fun hg => by rw [select_of_default hp ha hg]⟩
    rcases select_eq_ok_cases hk with hnone | ⟨-, k', ⟨hne, -⟩ | ⟨-, hg⟩, hpresent⟩
    · cases hnone
    · rw [ha] at hne
      cases hne
    · cases hpresent
      exact hg
  degrades p h hp ha hnone hfail := by
    rcases answer_cases (p.defaultAnswer h) p.password with hd | ⟨k, hg⟩ | ⟨why, hr⟩
    · rw [select_of_absent hp ha, trial_of_absent hd]
    · exact absurd hg (hnone k)
    · rw [select_of_default_raises hp ha hr, if_pos (hfail why hr)]
  passes p h why hp hw hr := by
    rcases hr with hr | ⟨ha, hr⟩
    · rw [select_of_explicit_raises hp hr, hw]
      rfl
    · rw [select_of_default_raises hp ha hr, hw]
      rfl
  loaded p h config hc huse := by
    rcases select_eq_ok_cases hc with rfl | ⟨hp, k, hg | ⟨ha, hg⟩, rfl⟩
    · cases huse
    · exact ⟨k, _, _, rfl, hg.2, by rw [select_of_explicit hp hg]⟩
    · exact ⟨k, _, _, rfl, hg.2, by rw [select_of_default hp ha hg]⟩
  asked p h hd := by
    refine ⟨fun hp => ?_, fun hp ha => ?_, fun hp ha => ?_⟩
    · have hu : AsksFrom h (h.note (.asked .use)) [.use] := ⟨[.asked .use], rfl, rfl⟩
      rw [select_of_not_use hp]
      exact (hu.note rfl).filterMap_since
    · exact (asksFrom_select_of_explicit hd hp ha).filterMap_since
    · exact (asksFrom_select_of_absent hd hp ha).filterMap_since

/-- A provider whose explicit keystore is refused and whose default one would load. -/
def refused : TrustProvider where
  use := true
  password := "secret"
  explicitKeystore h := (.ok (some (.custom "own" (.error (.trouble .certificateRejected)))), h)
  defaultKeystore h := (.ok (some (.custom "spare" (.ok ()))), h)

theorem isDiscreet_refused : refused.IsDiscreet where
  explicit _ := ⟨[], rfl, rfl⟩
  default _ := ⟨[], rfl, rfl⟩

/-- The refusal of the explicit keystore is the end of it; the default one is not asked for. -/
theorem select_law_refused :
    (∃ failure, (select refused .empty).1 = .error failure ∧
      failure.kind? = some .trustUnavailable ∧
      failure.causes = [⟨.trouble .certificateRejected, 0⟩]) ∧
    questionsIn ((select refused .empty).2.since .empty) =
      [.explicitKeystore, .password, .use] := by
  have hr : Raises (refused.explicitAnswer .empty) refused.password
      (.trouble .certificateRejected) := .inr ⟨_, rfl, rfl⟩
  have ha : (refused.explicitAnswer .empty).1 ≠ .ok none := fun hn => by cases hn
  obtain ⟨failure, hf, hk, -, hc⟩ := select_law.unavailable refused .empty _ rfl hr rfl
  exact ⟨⟨failure, hf, hk, hc⟩, (select_law.asked refused .empty isDiscreet_refused).2.1 rfl ha⟩

end Trust
end DefaultCredentials
