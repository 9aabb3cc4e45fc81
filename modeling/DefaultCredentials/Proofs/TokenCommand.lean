import DefaultCredentials.Proofs.Lifecycle
import DefaultCredentials.Proofs.OrderedDiscovery
import DefaultCredentials.Proofs.ScopeTexts
import DefaultCredentials.Proofs.SearchSteps
import DefaultCredentials.Proofs.TokenArguments
import DefaultCredentials.Proofs.TraceView

/-!
# A token or nothing

A command that is asked for a token looks for the credential of the process, binds it to the scopes
of a text, and reads its token.

* `Cli.Finds` and `Cli.Obtains` say what there is to be found and what token can be had, and
  `Cli.Arises` and `Cli.Complains` what can be raised on the way and what is said of it.
* `Cli.isStill_resolve`: looking for the credential exchanges nothing for a token and closes no
  transport.
* `Cli.token_ends` and `Cli.token_closes`: the command prints the token that can be had or
  complains, and the last that it does is to close its transport.
* `Cli.token_or_nothing` puts them together for a run of the program.
-/

namespace DefaultCredentials

/-- What counts of what happens while a token is had: exchanges and closings. -/
def Happening.mark? : Happening → Option Happening
  | .exchanged clock outcome => some (.exchanged clock outcome)
  | .closed channel => some (.closed channel)
  | _ => none

namespace Credential

/-- A service account that is bound to no scopes. -/
def IsUnscoped (c : Credential) : Prop :=
  ∃ key uri signer, c.material = .serviceAccount key uri signer ∧ c.scopes = []

variable {c : Credential}

theorem needsScopes_iff : c.needsScopes = true ↔ c.IsUnscoped := by
  unfold needsScopes IsUnscoped
  cases c.material <;> simp

theorem needsScopes_eq_false_iff : c.needsScopes = false ↔ ¬ c.IsUnscoped := by
  rw [← needsScopes_iff, Bool.not_eq_true]

end Credential

/-! ### Finding a credential exchanges nothing -/

namespace Host

/-- From a host to a later one there is no exchange, and no transport is closed. -/
def IsStill (h h' : Host) : Prop :=
  h.Shows Happening.mark? h' []

theorem isStill_processSettings (h : Host) : IsStill h h.processSettings.2 :=
  ⟨[], Discovery.trace_processSettings, rfl⟩

theorem persists_isStill (t : Settings) : Persists t IsStill where
  refl := Shows.refl Happening.mark?
  trans := Shows.trans
  note h x hx := by
    refine (Shows.refl Happening.mark? h).note ?_
    cases x <;> first | rfl | cases hx
  probe h channel := ⟨[.requested channel (Compute.probe t)], trace_send .., rfl⟩

end Host

namespace Resolver

variable {r : Resolver} {channel : Channel} {decoder : Decoder} {w : Wallet} {h : Host}

theorem exists_get? {n : Nat} {r' : Resolver} {w' : Wallet} {h' : Host} (hk : r.kept = none)
    (hr : r.resolve channel decoder w h = (.ok n, r', w', h')) : ∃ c, w'.get? n = some c := by
  unfold resolve at hr
  rw [hk] at hr
  generalize Discovery.discover r.scope channel decoder Source.all h = found at hr
  obtain ⟨why | ⟨c, source⟩, h₁⟩ := found
  · unfold conclude at hr
    dsimp only at hr
    cases hf : why.failure? <;> rw [hf] at hr <;> cases hr
  · cases hr
    exact ⟨c, Wallet.get?_add_self w c⟩

end Resolver

namespace Cli

/-! ### What a command finds and what may go wrong -/

/-- In a host this is the credential of the process, and finding it leaves that host. -/
def Finds (h : Host) (c : Credential) (h₂ : Host) : Prop :=
  ∃ s h₁ n r w, h.processSettings = (.ok s, h₁) ∧
    (Resolver.new none none none none s h₁).resolve .main .json .empty h₁ = (.ok n, r, w, h₂) ∧
    w.get? n = some c

/-- The credential of the process, bound to the scopes of a text, is no service account without any,
and this is the access token that it gives. -/
def Obtains (text : Option String) (h : Host) (accessToken : Value) : Prop :=
  ∃ c c' h₂, Finds h c h₂ ∧ Narrowed text c c' ∧ ¬ c'.IsUnscoped ∧
    (c'.currentToken h₂).1 = .ok accessToken

/-- What can be raised on the way to a token: by reading the settings, by looking for the
credential, by reading its token, and by writing one to the output that has halves of surrogate
pairs. -/
inductive Arises (text : Option String) (h : Host) : Raised → Prop
  | settings {why : Raised} : h.processSettings.1 = .error why → Arises text h why
  | search {s : Settings} {h₁ : Host} {why : Raised} : h.processSettings = (.ok s, h₁) →
      ((Resolver.new none none none none s h₁).resolve .main .json .empty h₁).1 = .error why →
      Arises text h why
  | reading {c c' : Credential} {h₂ : Host} {why : Raised} : Finds h c h₂ → Narrowed text c c' →
      ¬ c'.IsUnscoped → (c'.currentToken h₂).1 = .error why → Arises text h why
  | writing {r : Text.Ragged} : Obtains text h (.ragged r) →
      Arises text h (.trouble (.unencodable r))

/-- What the command says on standard error where it has no token. -/
inductive Complains (text : Option String) (h : Host) : String → Prop
  | raised {why : Raised} : Arises text h why →
      Complains text h ("Failed to obtain access token: " ++ why.text ++ "\n")
  | unscoped {c c' : Credential} {h₂ : Host} : Finds h c h₂ → Narrowed text c c' →
      c'.IsUnscoped → Complains text h "Error: this credential requires --scopes\n"

variable {text : Option String} {h h₁ h₂ : Host} {c c' : Credential}

theorem Complains.ne_empty {message : String} (hc : Complains text h message) : message ≠ "" := by
  cases hc with
  | raised => simp
  | unscoped => decide

theorem resolve_of_finds (hf : Finds h c h₂) : ∃ source, resolve h = (.ok (c, source), h₂) := by
  obtain ⟨s, h₁, n, r, w, hs, hr, hw⟩ := hf
  refine ⟨r.kept.bind (·.source?), ?_⟩
  simp only [resolve, hs, hr, hw]

/-- A command finds the credential of the process, or something is raised. -/
theorem resolve_cases (text : Option String) {s : Settings} (hs : h.processSettings = (.ok s, h₁)) :
    (∃ c h₂, Finds h c h₂) ∨ ∃ why h₂, resolve h = (.error why, h₂) ∧ Arises text h why := by
  cases hr : (Resolver.new none none none none s h₁).resolve .main .json .empty h₁ with
  | mk outcome rest =>
      obtain ⟨r, w, h₂⟩ := rest
      cases outcome with
      | ok n =>
          obtain ⟨c, hc⟩ := Resolver.exists_get? rfl hr
          exact .inl ⟨c, h₂, s, h₁, n, r, w, hs, hr, hc⟩
      | error why =>
          refine .inr ⟨why, h₂, ?_, .search hs (congrArg Prod.fst hr)⟩
          simp only [resolve, hs, hr]

/-- Finding the credential exchanges nothing and leaves the transports open. -/
theorem isStill_resolve (h : Host) : h.IsStill (resolve h).2 := by
  have hs := Host.isStill_processSettings h
  unfold resolve
  generalize h.processSettings = settled at hs ⊢
  obtain ⟨why | s, h₁⟩ := settled
  · exact hs
  · have hr := hs.trans ((Host.persists_isStill s).resolve .main .json h₁
      Host.isStill_processSettings (.new none none none none s h₁) rfl .empty)
    dsimp only
    generalize (Resolver.new none none none none s h₁).resolve .main .json .empty h₁ = found at hr ⊢
    obtain ⟨why | n, r, w, h₂⟩ := found
    · exact hr
    · dsimp only
      split <;> exact hr

theorem Finds.isStill (hf : Finds h c h₂) : h.IsStill h₂ := by
  obtain ⟨source, hr⟩ := resolve_of_finds hf
  have hstill := isStill_resolve h
  rwa [hr] at hstill

theorem Finds.unique {d : Credential} {h₃ : Host} (hf : Finds h c h₂) (hd : Finds h d h₃) :
    c = d ∧ h₂ = h₃ := by
  obtain ⟨source, hr⟩ := resolve_of_finds hf
  obtain ⟨source', hr'⟩ := resolve_of_finds hd
  rw [hr] at hr'
  cases hr'
  exact ⟨rfl, rfl⟩

theorem Finds.narrowed_unique {d d' : Credential} {h₃ : Host} (hf : Finds h c h₂)
    (hn : Narrowed text c c') (hd : Finds h d h₃) (hn' : Narrowed text d d') :
    c' = d' ∧ h₂ = h₃ := by
  obtain ⟨rfl, rfl⟩ := hf.unique hd
  exact ⟨(narrowed_iff.mp hn).symm.trans (narrowed_iff.mp hn'), rfl⟩

theorem resolve_again {s : Settings} (hs : h.processSettings = (.ok s, h₁)) :
    resolve h₁ = resolve h := by
  have hkept : h₁.settings = some s := by
    unfold Host.processSettings at hs
    split at hs
    · cases hs
      assumption
    · split at hs <;> cases hs
      rfl
  unfold resolve
  rw [hs, Host.processSettings_of_some hkept]

/-! ### How the command ends -/

theorem token_of_isUnscoped (hf : Finds h c h₂) (hn : Narrowed text c c')
    (hu : c'.IsUnscoped) : token text h =
      (.ok (.failure "Error: this credential requires --scopes\n"), h₂.close .main) := by
  obtain ⟨source, hr⟩ := resolve_of_finds hf
  have hc := narrowed_iff.mp hn
  simp only [token, hr, hc, Credential.needsScopes_iff.mpr hu, if_true]

theorem token_of_reading (hf : Finds h c h₂) (hn : Narrowed text c c')
    (hu : ¬ c'.IsUnscoped) : token text h =
      (match (c'.currentToken h₂).1 with
        | .ok accessToken => written accessToken
        | .error why => report "Failed to obtain access token" why,
        (c'.currentToken h₂).2.2.close .main) := by
  obtain ⟨source, hr⟩ := resolve_of_finds hf
  have hc := narrowed_iff.mp hn
  simp only [token, hr, hc, Credential.needsScopes_eq_false_iff.mpr hu]
  generalize c'.currentToken h₂ = reading
  obtain ⟨why | accessToken, c₃, h₃⟩ := reading <;> rfl

theorem report_of_failure {why : Raised} (what : String) (hw : why.failure?.isSome) :
    report what why = .ok (.failure (what ++ ": " ++ why.text ++ "\n")) := by
  obtain ⟨f, hf⟩ := Option.isSome_iff_exists.mp hw
  simp only [report, hf]

/-- Where nothing but failures of the library can be raised, the token that can be had can be
written to the output. -/
theorem Obtains.written {t : Value} (ho : Obtains text h t)
    (hlib : ∀ why, Arises text h why → why.failure?.isSome) :
    written t = .ok (.success (t.plain ++ "\n")) := by
  cases t with
  | ragged r => cases hlib _ (.writing ho)
  | null | bool | int | float | text | list | object => rfl

theorem Obtains.unique {t t' : Value} (ho : Obtains text h t) (ho' : Obtains text h t') :
    t = t' := by
  obtain ⟨c, c', h₂, hf, hn, -, ht⟩ := ho
  obtain ⟨d, d', h₃, hf', hn', -, ht'⟩ := ho'
  obtain ⟨rfl, rfl⟩ := hf.narrowed_unique hn hf' hn'
  rw [ht] at ht'
  cases ht'
  rfl

/-- The command ends with the token that can be had, or with a complaint. -/
theorem token_ends {s : Settings} (hs : h.processSettings = (.ok s, h₁))
    (hlib : ∀ why, Arises text h why → why.failure?.isSome) :
    (∃ t, Obtains text h t ∧ (token text h).1 = .ok (.success (t.plain ++ "\n"))) ∨
      (¬ ∃ t, Obtains text h t) ∧
        ∃ message, Complains text h message ∧ (token text h).1 = .ok (.failure message) := by
  rcases resolve_cases text hs with ⟨c, h₂, hf⟩ | ⟨why, h₂, hr, hw⟩
  · obtain ⟨c', hn⟩ : ∃ c', Narrowed text c c' := ⟨_, narrowed_iff.mpr rfl⟩
    have honly {d d' : Credential} {h₃ : Host} (hf' : Finds h d h₃) (hn' : Narrowed text d d') :
        c' = d' ∧ h₂ = h₃ := hf.narrowed_unique hn hf' hn'
    by_cases hu : c'.IsUnscoped
    · refine .inr ⟨?_, _, .unscoped hf hn hu, by rw [token_of_isUnscoped hf hn hu]⟩
      rintro ⟨t, d, d', h₃, hf', hn', hu', -⟩
      obtain ⟨rfl, rfl⟩ := honly hf' hn'
      exact hu' hu
    · have ht := congrArg Prod.fst (token_of_reading hf hn hu)
      cases hread : (c'.currentToken h₂).1 with
      | ok t =>
          have ho : Obtains text h t := ⟨c, c', h₂, hf, hn, hu, hread⟩
          exact .inl ⟨t, ho, by rw [ht, hread]; exact ho.written hlib⟩
      | error why =>
          have hw : Arises text h why := .reading hf hn hu hread
          refine .inr ⟨?_, _, .raised hw, ?_⟩
          · rintro ⟨t, d, d', h₃, hf', hn', -, hread'⟩
            obtain ⟨rfl, rfl⟩ := honly hf' hn'
            rw [hread] at hread'
            cases hread'
          · rw [ht, hread]
            exact report_of_failure _ (hlib why hw)
  · refine .inr ⟨?_, _, .raised hw, ?_⟩
    · rintro ⟨t, d, d', h₃, hf, -⟩
      obtain ⟨source, hr'⟩ := resolve_of_finds hf
      rw [hr] at hr'
      cases hr'
    · simp only [token, hr]
      exact report_of_failure _ (hlib why hw)

theorem shows_reading (c : Credential) (h : Host) :
    ∃ marks, h.Shows Happening.mark? (c.currentToken h).2.2 marks ∧
      ∀ channel, .closed channel ∉ marks := by
  cases hv : c.slot.current? h.now with
  | some t =>
      rw [Credential.currentToken_of_valid hv]
      exact ⟨[], .refl Happening.mark? h, fun _ => List.not_mem_nil⟩
  | none =>
      rw [Credential.currentToken_state hv]
      exact ⟨_, Credential.shows_refresh ⟨fun _ _ => rfl, fun _ => rfl, fun _ => rfl⟩ h, by
        simp [Happening.mark?]⟩

/-- The last that the command does is to close its transport, which it does not do before. -/
theorem token_closes (text : Option String) (h : Host) :
    ∃ h' marks, (token text h).2 = h'.close .main ∧ h.Shows Happening.mark? h' marks ∧
      ∀ channel, .closed channel ∉ marks := by
  have hstill := isStill_resolve h
  unfold token
  generalize resolve h = resolved at hstill ⊢
  obtain ⟨why | ⟨c, source⟩, h₂⟩ := resolved
  · exact ⟨h₂, [], rfl, hstill, fun _ => List.not_mem_nil⟩
  · dsimp only
    split
    · exact ⟨h₂, [], rfl, hstill, fun _ => List.not_mem_nil⟩
    · obtain ⟨marks, hshows, hopen⟩ :=
        shows_reading (narrow c (scopesOf (text.getD ""))) h₂
      refine ⟨_, marks, ?_, by simpa using Host.Shows.trans hstill hshows, hopen⟩
      generalize (narrow c (scopesOf (text.getD ""))).currentToken h₂ = reading
      obtain ⟨why | t, c₃, h₃⟩ := reading <;> rfl

theorem exchangesIn_of_still {happenings : List Happening}
    (hs : happenings.filterMap Happening.mark? = []) : exchangesIn happenings = [] := by
  rw [List.filterMap_eq_nil_iff] at hs
  refine List.filterMap_eq_nil_iff.mpr fun x hx => ?_
  have hnone := hs x hx
  cases x <;> simp_all [Happening.mark?]

/-- The program does nothing but run the command where its settings can be read. -/
theorem run_token {args : List String} {s : Settings} (ha : AsksForToken args text)
    (hs : h.processSettings = (.ok s, h₁)) (provider : Option TrustProvider) :
    (run args provider h).1 = (token text h).1 ∧
      (run args provider h).2.2 = (token text h).2 := by
  have hlevel : ∀ level : Log.Level, Text.upper level.name = level.name := by
    intro level
    cases level <;> decide +kernel
  have htoken : token text h₁ = token text h := by
    simp only [token, resolve_again hs]
  have hsink : Log.Sink.make s.jsonLogs s.logLevel.name = .ok ⟨s.jsonLogs, s.logLevel⟩ := by
    simp only [Log.Sink.make, Log.Level.ofName?_name]
  simp only [run, hs, parse_of_asksForToken ha, logChoice, Option.getD_none, hlevel, Bool.false_or,
    hsink, runCommand, htoken, and_self]

/-! ### A token or nothing -/

/-- **A token or nothing.**  Where nothing but failures of the library can be raised on the way, a
command that is asked for a token ends with code 0 and the token as all of its output, or with code
1, no output and a complaint.  It is the former exactly if the credential of the process, bound to
the scopes that the text asks for, is no service account without scopes and gives a token, which is
then the one printed.  For a service account without scopes nothing is exchanged for a token.  The
transport is closed in the end, and not before. -/
theorem token_or_nothing {args : List String} {text : Option String} (ha : AsksForToken args text)
    (h : Host) (hlib : ∀ why, Arises text h why → why.failure?.isSome)
    (provider : Option TrustProvider) :
    let after := run args provider h
    ∃ r, after.1 = .ok r ∧
      ((∃ t, Obtains text h t ∧ r = ⟨0, false, t.plain ++ "\n", ""⟩) ∨
        ∃ message, Complains text h message ∧ message ≠ "" ∧ r = ⟨1, false, "", message⟩) ∧
      (r.code = 0 ↔ ∃ t, Obtains text h t) ∧
      (∀ t, Obtains text h t → r.output = t.plain ++ "\n") ∧
      (∀ c c' h₂, Finds h c h₂ → Narrowed text c c' → c'.IsUnscoped →
        exchangesIn (after.2.2.since h) = []) ∧
      ∃ before, after.2.2.since h = .closed .main :: before ∧
        ∀ channel, .closed channel ∉ before := by
  intro after
  obtain ⟨s, h₁, hs⟩ : ∃ s h₁, h.processSettings = (.ok s, h₁) := by
    cases hs : h.processSettings with
    | mk settings h₁ =>
        cases settings with
        | ok s => exact ⟨s, h₁, rfl⟩
        | error why =>
            -- Problems with the settings are no failures of the library.
            have hfail := hlib why (.settings (congrArg Prod.fst hs))
            unfold Host.processSettings at hs
            split at hs
            · cases hs
            · split at hs <;> cases hs
              cases hfail
  obtain ⟨hresult, hhost⟩ := run_token ha hs provider
  obtain ⟨h', marks, hclose, hshows, hopen⟩ := token_closes text h
  have hcloses : ∃ before, after.2.2.since h = .closed .main :: before ∧
      ∀ channel, .closed channel ∉ before := by
    obtain ⟨new, ht, rfl⟩ := hshows
    refine ⟨new, Host.since_eq ?_, fun channel hc => hopen channel ?_⟩
    · rw [hhost, hclose, Host.close, Host.note, ht, List.cons_append]
    · exact List.mem_filterMap.mpr ⟨_, hc, rfl⟩
  have hunscoped : ∀ c c' h₂, Finds h c h₂ → Narrowed text c c' → c'.IsUnscoped →
      exchangesIn (after.2.2.since h) = [] := by
    intro c c' h₂ hf hn hu
    obtain ⟨new, ht, hstill⟩ := hf.isStill
    have hnew : after.2.2.since h = .closed .main :: new := by
      refine Host.since_eq ?_
      rw [hhost, token_of_isUnscoped hf hn hu, Host.close, Host.note, ht, List.cons_append]
    have hnone : exchangesIn new = [] := exchangesIn_of_still hstill
    rw [hnew]
    exact hnone
  rcases token_ends hs hlib with ⟨t, hobtains, hr⟩ | ⟨hnone, message, hcomplains, hr⟩
  · refine ⟨_, hresult.trans hr, .inl ⟨t, hobtains, rfl⟩, ⟨fun _ => ⟨t, hobtains⟩, fun _ => rfl⟩,
      fun t' ht' => ?_, hunscoped, hcloses⟩
    rw [ht'.unique hobtains]
    rfl
  · refine ⟨_, hresult.trans hr, .inr ⟨message, hcomplains, hcomplains.ne_empty, rfl⟩,
      ⟨fun hcode => ?_, fun ht => absurd ht hnone⟩, fun t ht => absurd ⟨t, ht⟩ hnone, hunscoped,
      hcloses⟩
    cases hcode

/-- A managed runtime whose identity service gives a token for an hour. -/
def onRuntime : Host :=
  { Host.empty with
    settings := some .standard
    identity := some [.token (.text "t") (.float 3600.0)] }

/-- A text with blanks and repetitions asks for two scopes, and the token for them is printed. -/
theorem token_or_nothing_runtime :
    let text := some " b ,,a,b"
    AsksForToken ["token", "--scopes= b ,,a,b"] text ∧
      (∀ why, Arises text onRuntime why → why.failure?.isSome) ∧
      Narrowed text (.ofIdentity .main .json [] .standard)
        (.ofIdentity .main .json ["a", "b"] .standard) ∧
      Obtains text onRuntime (.text "t") ∧
      (run ["token", "--scopes= b ,,a,b"] none onRuntime).1 = .ok ⟨0, false, "t\n", ""⟩ := by
  intro text
  have ha : AsksForToken ["token", "--scopes= b ,,a,b"] text := AsksForToken.joined " b ,,a,b"
  have hn : Narrowed text (.ofIdentity .main .json [] .standard)
      (.ofIdentity .main .json ["a", "b"] .standard) := by
    have hpieces : scopesOf (text.getD "") = ["b", "a", "b"] := by decide +kernel
    have hsorted : Scopes.ofList ["b", "a", "b"] = ["a", "b"] := by decide +kernel
    rw [narrowed_iff, hpieces, ← hsorted]
    rfl
  obtain ⟨h₂, hf, hread⟩ : ∃ h₂, Finds onRuntime (.ofIdentity .main .json [] .standard) h₂ ∧
      ((Credential.ofIdentity .main .json ["a", "b"] .standard).currentToken h₂).1 =
        .ok (.text "t") :=
    ⟨_, ⟨_, _, _, _, _, rfl, rfl, rfl⟩, rfl⟩
  have hscoped : ¬ (Credential.ofIdentity .main .json ["a", "b"] .standard).IsUnscoped :=
    Credential.needsScopes_eq_false_iff.mp rfl
  have ht : Obtains text onRuntime (.text "t") := ⟨_, _, h₂, hf, hn, hscoped, hread⟩
  have hlib : ∀ why, Arises text onRuntime why → why.failure?.isSome := by
    intro why hw
    cases hw with
    | settings hs => cases hs
    | search hs hr =>
        cases hs
        cases hr
    | reading hf' hn' _ hread' =>
        obtain ⟨rfl, rfl⟩ := hf.narrowed_unique hn hf' hn'
        rw [hread] at hread'
        cases hread'
    | writing ht' => cases ht'.unique ht
  obtain ⟨r, hr, ⟨t, ht', rfl⟩ | ⟨_, -, -, rfl⟩, hcode, -⟩ :=
    token_or_nothing ha onRuntime hlib none
  · rw [ht'.unique ht] at hr
    exact ⟨ha, hlib, hn, ht, hr⟩
  · cases hcode.mpr ⟨_, ht⟩

end Cli
end DefaultCredentials
