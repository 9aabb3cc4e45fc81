import DefaultCredentials.Proofs.TrustDecision
import DefaultCredentials.Trust.Provider

/-!
# What the log tells of a decision

Every decision about a client certificate is to stand in the log once, for the audit, and a default
keystore that cannot be had is to be warned of.  `Trust.WayOut` lists how a decision can end, with
what it logs in each case, and `Trust.select_wayOut` says that these are all.

* `Trust.select_audited` says what of this stands for the audit and what is a warning.  A decision
  that ends in a configuration is told exactly once, and one that ends in a fault not at all.
* `Trust.select_unaudited` is a keystore that was asked for, is refused, and leaves nothing in the
  log.

A provider may log by itself when it is asked; `TrustProvider.logged` is what it does, and comes on
top.
-/

namespace DefaultCredentials

/-- The event that was logged, if one was. -/
def Happening.event? : Happening → Option Log.Event
  | .logged e => some e
  | _ => none

namespace Log.Event

/-- What an entry for the audit of a decision about a client certificate says, if it is one. -/
def decision? (e : Event) : Option Value :=
  if e.auditName? = some "mtls_decision" then e.record.extra.lookup "use_client_certificate"
  else none

/-- The message of a warning, if the event is one. -/
def warning? (e : Event) : Option String :=
  if e.record.level = .warning then some e.record.message else none

end Log.Event

/-! ### What a provider logs by itself -/

theorem Host.shows_since {α : Type} {h h' : Host} (view : Happening → Option α)
    (hadds : ∃ new, h'.trace = new ++ h.trace) : h.Shows view h' ((h'.since h).filterMap view) := by
  obtain ⟨new, ht⟩ := hadds
  exact ⟨new, ht, by rw [since_eq ht]⟩

namespace TrustProvider

/-- A provider that adds to the trace and hides nothing of it. -/
structure OnlyAdds (p : TrustProvider) : Prop where
  explicit : ∀ h, ∃ new, (p.explicitKeystore h).2.trace = new ++ h.trace
  default : ∀ h, ∃ new, (p.defaultKeystore h).2.trace = new ++ h.trace

/-- What a provider logs when it is asked for its explicit keystore. -/
def loggedExplicit (p : TrustProvider) (h : Host) : List Log.Event :=
  ((p.explicitAnswer h).2.since (explicitHost h)).filterMap Happening.event?

/-- What a provider logs when it is asked for its default keystore. -/
def loggedDefault (p : TrustProvider) (h : Host) : List Log.Event :=
  ((p.defaultAnswer h).2.since ((p.explicitAnswer h).2.note (.asked .defaultKeystore))).filterMap
    Happening.event?

/-- What a provider logs by itself during a decision, the last first. -/
def logged (p : TrustProvider) (h : Host) : List Log.Event :=
  if p.use then
    match (p.explicitAnswer h).1 with
    | .ok none => p.loggedDefault h ++ p.loggedExplicit h
    | _ => p.loggedExplicit h
  else []

variable {p : TrustProvider}

theorem OnlyAdds.shows_explicitAnswer (hp : p.OnlyAdds) (h : Host) :
    h.Shows Happening.event? (p.explicitAnswer h).2 (p.loggedExplicit h) := by
  have hasked : h.Shows Happening.event? (explicitHost h) [] :=
    ⟨[.asked .explicitKeystore, .asked .password, .asked .use], rfl, rfl⟩
  have hshown := hasked.trans (Host.shows_since _ (hp.explicit _))
  rwa [List.append_nil] at hshown

theorem OnlyAdds.shows_defaultAnswer (hp : p.OnlyAdds) (h : Host) :
    h.Shows Happening.event? (p.defaultAnswer h).2 (p.loggedDefault h ++ p.loggedExplicit h) :=
  ((hp.shows_explicitAnswer h).note rfl).trans (Host.shows_since _ (hp.default _))

theorem onlyAdds_fixed (use : Bool) (keystore : Option Keystore) (path : Option Path)
    (defaultKeystore : Option Keystore) (password : String) :
    (fixed use keystore path defaultKeystore password).OnlyAdds where
  explicit h := by
    refine ⟨[], ?_⟩
    cases keystore <;> cases path <;> rfl
  default h := ⟨[], rfl⟩

theorem onlyAdds_ofSettings (s : Settings) (metadata : Path) :
    (ofSettings s metadata).OnlyAdds where
  explicit h := ⟨[], rfl⟩
  default h := by
    simp only [ofSettings, keystoreOfMetadata]
    split
    · exact ⟨[], rfl⟩
    · exact ⟨[], rfl⟩
    · split
      · exact ⟨[], rfl⟩
      · exact ⟨[_], rfl⟩

end TrustProvider

namespace Trust

/-! ### The ways out of a decision -/

/-- How a decision can end, and what it logs, the last first. -/
inductive WayOut (p : TrustProvider) (h : Host) :
    Except Raised TrustConfig → List Log.Event → Prop
  | unwanted : p.use = false →
      WayOut p h (.ok .none) [.trustDecided false "client certificate not requested"]
  | explicit {k : Keystore} : p.use = true → Gives (p.explicitAnswer h) p.password k →
      WayOut p h (.ok (.presenting k p.password)) [.trustDecided true "explicit keystore"]
  | refused {why : Raised} : p.use = true → Raises (p.explicitAnswer h) p.password why →
      WayOut p h (.error (if isLoadFailure why then unavailable why else why)) []
  | absent : p.use = true → (p.explicitAnswer h).1 = .ok none → (p.defaultAnswer h).1 = .ok none →
      WayOut p h (.ok .none) [.trustDecided false "no default keystore"]
  | default {k : Keystore} : p.use = true → (p.explicitAnswer h).1 = .ok none →
      Gives (p.defaultAnswer h) p.password k →
      WayOut p h (.ok (.presenting k p.password)) [.trustDecided true "default keystore"]
  | degraded {why : Raised} : p.use = true → (p.explicitAnswer h).1 = .ok none →
      Raises (p.defaultAnswer h) p.password why → isLoadFailure why = true →
      WayOut p h (.ok .none)
        [.trustDecided false "no default keystore", .defaultCertificateUnavailable why.text]
  | passed {why : Raised} : p.use = true → (p.explicitAnswer h).1 = .ok none →
      Raises (p.defaultAnswer h) p.password why → isLoadFailure why = false →
      WayOut p h (.error why) []

variable {p : TrustProvider} {h : Host}

theorem logged_of_explicit (hp : p.use = true) (ha : (p.explicitAnswer h).1 ≠ .ok none) :
    p.logged h = p.loggedExplicit h := by
  unfold TrustProvider.logged
  rw [if_pos hp]
  split
  · rename_i hn
    exact absurd hn ha
  · rfl

theorem logged_of_absent (hp : p.use = true) (ha : (p.explicitAnswer h).1 = .ok none) :
    p.logged h = p.loggedDefault h ++ p.loggedExplicit h := by
  simp only [TrustProvider.logged, if_pos hp, ha]

theorem exists_wayOut_of_explicit (hadds : p.OnlyAdds) (hp : p.use = true)
    (ha : (p.explicitAnswer h).1 ≠ .ok none) :
    ∃ events, WayOut p h (select p h).1 events ∧
      h.Shows Happening.event? (select p h).2 (events ++ p.logged h) := by
  have htried := (hadds.shows_explicitAnswer h).trans
    (shows_trial (fun _ _ => rfl) (p.explicitAnswer h) p.password)
  rw [logged_of_explicit hp ha]
  rcases answer_cases (p.explicitAnswer h) p.password with hn | ⟨k, hg⟩ | ⟨why, hr⟩
  · exact absurd hn ha
  · rw [trial_of_gives hg] at htried
    rw [select_of_explicit hp hg]
    exact ⟨_, .explicit hp hg, htried.noted (.logged _)⟩
  · refine ⟨[], ?_, ?_⟩
    · rw [select_of_explicit_raises hp hr]
      exact .refused hp hr
    · rw [select_of_use hp, trial_of_raises hr]
      by_cases hw : isLoadFailure why = true <;> simpa [Trial.ofRaised, hw] using htried

theorem exists_wayOut_of_absent (hadds : p.OnlyAdds) (hp : p.use = true)
    (ha : (p.explicitAnswer h).1 = .ok none) :
    ∃ events, WayOut p h (select p h).1 events ∧
      h.Shows Happening.event? (select p h).2 (events ++ p.logged h) := by
  have htried := (hadds.shows_defaultAnswer h).trans
    (shows_trial (fun _ _ => rfl) (p.defaultAnswer h) p.password)
  rw [logged_of_absent hp ha]
  rcases answer_cases (p.defaultAnswer h) p.password with hd | ⟨k, hg⟩ | ⟨why, hr⟩
  · rw [trial_of_absent hd] at htried
    rw [select_of_absent hp ha, trial_of_absent hd]
    exact ⟨_, .absent hp ha hd, htried.noted (.logged _)⟩
  · rw [trial_of_gives hg] at htried
    rw [select_of_default hp ha hg]
    exact ⟨_, .default hp ha hg, htried.noted (.logged _)⟩
  · rw [select_of_absent hp ha, trial_of_raises hr]
    by_cases hw : isLoadFailure why = true
    · simp only [Trial.ofRaised, if_pos hw]
      exact ⟨_, .degraded hp ha hr hw, (htried.noted (.logged _)).noted (.logged _)⟩
    · simp only [Trial.ofRaised, if_neg hw]
      exact ⟨_, .passed hp ha hr (Bool.eq_false_iff.mpr hw), htried⟩

/-- Every decision takes one of the ways out, and logs what is said of it on top of what its
provider logs. -/
theorem select_wayOut (hadds : p.OnlyAdds) (h : Host) :
    ∃ events, WayOut p h (select p h).1 events ∧
      h.Shows Happening.event? (select p h).2 (events ++ p.logged h) := by
  cases hp : p.use with
  | false =>
      have hasked : h.Shows Happening.event? (h.note (.asked .use)) [] :=
        (Host.Shows.refl _ h).note rfl
      have hnone : p.logged h = [] := by simp [TrustProvider.logged, hp]
      rw [select_of_not_use hp, hnone]
      exact ⟨_, .unwanted hp, hasked.noted (.logged _)⟩
  | true =>
      by_cases ha : (p.explicitAnswer h).1 = .ok none
      · exact exists_wayOut_of_absent hadds hp ha
      · exact exists_wayOut_of_explicit hadds hp ha

/-! ### What is told for the audit, and what is warned of -/

/-- The default keystore was asked for and could not be had or did not load. -/
structure Degrades (p : TrustProvider) (h : Host) (why : Raised) : Prop where
  use : p.use = true
  absent : (p.explicitAnswer h).1 = .ok none
  raises : Raises (p.defaultAnswer h) p.password why
  isLoadFailure : isLoadFailure why = true

theorem Degrades.trial_eq {why : Raised} (hd : Degrades p h why) :
    (trial (p.defaultAnswer h) p.password).1 = .fails why := by
  rw [trial_of_raises hd.raises]
  exact if_pos hd.isLoadFailure

theorem not_raises_of_absent {answer : Except Raised (Option Keystore) × Host}
    (ha : answer.1 = .ok none) (password : String) (why : Raised) :
    ¬ Raises answer password why := by
  rintro (he | ⟨k, hk, -⟩)
  · rw [ha] at he
    cases he
  · rw [ha] at hk
    cases hk

namespace WayOut

variable {outcome : Except Raised TrustConfig} {events : List Log.Event}

theorem decisions_of_ok {config : TrustConfig} (hw : WayOut p h (.ok config) events) :
    events.filterMap Log.Event.decision? = [.bool config.useClientCertificate] := by
  cases hw <;> rfl

theorem events_of_error {why : Raised} (hw : WayOut p h (.error why) events) : events = [] := by
  cases hw <;> rfl

theorem warnings_of_degrades {why : Raised} (hw : WayOut p h outcome events)
    (hd : Degrades p h why) :
    events.filterMap Log.Event.warning? =
      ["Default client certificate unavailable, continuing without it: " ++ why.text] := by
  have htrial := hd.trial_eq
  cases hw with
  | unwanted hp =>
      rw [hd.use] at hp
      cases hp
  | explicit hp hg =>
      have hn := hd.absent.symm.trans hg.1
      cases hn
  | refused hp hr => exact absurd hr (not_raises_of_absent hd.absent _ _)
  | absent hp ha hn =>
      rw [trial_of_absent hn] at htrial
      cases htrial
  | default hp ha hg =>
      rw [trial_of_gives hg] at htrial
      cases htrial
  | degraded hp ha hr hl =>
      have hsame := (Degrades.mk hp ha hr hl).trial_eq.symm.trans htrial
      cases hsame
      rfl
  | passed hp ha hr hl =>
      rw [trial_of_raises hr, Trial.ofRaised, hl] at htrial
      cases htrial

theorem warnings_of_not_degrades (hw : WayOut p h outcome events)
    (hd : ∀ why, ¬ Degrades p h why) : events.filterMap Log.Event.warning? = [] := by
  cases hw with
  | degraded hp ha hr hl => exact absurd ⟨hp, ha, hr, hl⟩ (hd _)
  | _ => rfl

end WayOut

/-- **What the log tells of a decision.**  Whatever a provider answers and whatever loading comes
to, a decision that ends in a configuration logs exactly one entry for the audit, which says whether
a certificate is presented; one that ends in a fault logs nothing.  It warns exactly if the default
keystore could not be had or did not load.  What the provider logs by itself comes on top. -/
theorem select_audited (hadds : p.OnlyAdds) (h : Host) :
    ∃ events, h.Shows Happening.event? (select p h).2 (events ++ p.logged h) ∧
      (∀ config, (select p h).1 = .ok config →
        events.filterMap Log.Event.decision? = [.bool config.useClientCertificate]) ∧
      (∀ why, (select p h).1 = .error why → events = []) ∧
      (∀ why, Degrades p h why → events.filterMap Log.Event.warning? =
        ["Default client certificate unavailable, continuing without it: " ++ why.text]) ∧
      ((∀ why, ¬ Degrades p h why) → events.filterMap Log.Event.warning? = []) := by
  obtain ⟨events, hw, hshown⟩ := select_wayOut hadds h
  refine ⟨events, hshown, fun config hc => ?_, fun why he => ?_, fun why => hw.warnings_of_degrades,
    hw.warnings_of_not_degrades⟩
  · rw [hc] at hw
    exact hw.decisions_of_ok
  · rw [he] at hw
    exact hw.events_of_error

def lapsed : TrustProvider :=
  .fixed true none none (some (.custom "spare" (.error (.trouble .certificateRejected)))) ""

/-- A default keystore that does not load is warned of, and the decision is told. -/
theorem select_audited_lapsed :
    ∃ events, Host.empty.Shows Happening.event? (select lapsed .empty).2 events ∧
      events.filterMap Log.Event.decision? = [.bool false] ∧
      events.filterMap Log.Event.warning? =
        ["Default client certificate unavailable, continuing without it: [SSL] PEM lib"] := by
  have hd : Degrades lapsed .empty (.trouble .certificateRejected) :=
    ⟨rfl, rfl, .inr ⟨_, rfl, rfl⟩, rfl⟩
  have hlogged : lapsed.logged .empty = [] := rfl
  have hadds : lapsed.OnlyAdds := TrustProvider.onlyAdds_fixed ..
  obtain ⟨events, hshown, hdecided, -, hwarned, -⟩ := select_audited hadds .empty
  rw [hlogged, List.append_nil] at hshown
  exact ⟨events, hshown, hdecided _ rfl, hwarned _ hd⟩

def broken : TrustProvider :=
  .fixed true (some (.custom "own" (.error (.trouble .certificateRejected)))) none none "secret"

/-- **A keystore that was asked for and is refused leaves nothing in the log**, for the audit or
otherwise. -/
theorem select_unaudited :
    (∃ failure, (select broken .empty).1 = .error failure ∧
      failure.kind? = some .trustUnavailable) ∧
    Host.empty.Shows Happening.event? (select broken .empty).2 [] := by
  refine ⟨⟨_, rfl, rfl⟩, ?_⟩
  exact ⟨[.loaded "own" "secret", .asked .explicitKeystore, .asked .password, .asked .use],
    rfl, rfl⟩

end Trust
end DefaultCredentials
