import DefaultCredentials.Proofs.OrderedDiscovery
import DefaultCredentials.Proofs.ScopedVariants
import DefaultCredentials.Proofs.SearchSteps
import DefaultCredentials.Proofs.TraceView

/-!
# The settings of a resolver

A resolver is given settings, and the credential that it finds is to go by them: by its timeout, by
its address for tokens where a key names none, and by its metadata server.

* `Credential.sends_perform`: every request that a call sends goes by the settings of the credential
  that is called, and `Credential.IsMadeWith` says that its address does so too.
* `Discovery.discover_settings`: what discovery finds is made with the settings that it was given,
  except at a managed runtime, whose adapter takes those of the process.
* `Resolver.resolve_settings` says it of the credential that a resolver gives and of all variants of
  it, and `Resolver.resolve_runtime_ignores` has a case of the exception.
-/

namespace DefaultCredentials

/-- The request that is sent, if something that happened is one. -/
def Happening.request? : Happening → Option Request
  | .requested _ r => some r
  | _ => none

/-- Where the token for material is had under settings: at the address of its key, if that has one,
and otherwise at that of the settings; the machine's at its metadata server. -/
def Material.addressUnder (s : Settings) : Material → Option Value
  | .serviceAccount key _ _ =>
    some (if key.tokenUri.isGiven then key.tokenUri else .text s.tokenUri)
  | .user _ _ => some (.text s.tokenUri)
  | .compute => some (.text ("http://" ++ s.metadataHost ++
      "/computeMetadata/v1/instance/service-accounts/default/token"))
  | _ => none

/-! ### What is sent -/

namespace Host

/-- From a host to a later one, all requests that were sent are so. -/
def Sends (holds : Request → Prop) (h h' : Host) : Prop :=
  ∃ sent, Shows Happening.request? h h' sent ∧ ∀ r ∈ sent, holds r

namespace Sends

variable {holds : Request → Prop} {h h₁ h₂ : Host}

theorem refl (h : Host) : Sends holds h h :=
  ⟨[], ⟨[], rfl, rfl⟩, nofun⟩

theorem trans (h01 : Sends holds h h₁) (h12 : Sends holds h₁ h₂) : Sends holds h h₂ := by
  obtain ⟨sent, hshows, hall⟩ := h01
  obtain ⟨later, hshows', hall'⟩ := h12
  refine ⟨later ++ sent, hshows.trans hshows', fun r hr => ?_⟩
  exact (List.mem_append.mp hr).elim (hall' r) (hall r)

theorem note {x : Happening} (hs : Sends holds h h₁) (hx : x.request? = none) :
    Sends holds h (h₁.note x) := by
  obtain ⟨sent, hshows, hall⟩ := hs
  exact ⟨sent, hshows.note hx, hall⟩

theorem of_mem_since (hs : Sends holds h h₁) {channel : Channel} {r : Request}
    (hr : .requested channel r ∈ h₁.since h) : holds r := by
  obtain ⟨sent, hshows, hall⟩ := hs
  refine hall r ?_
  rw [← hshows.filterMap_since]
  exact List.mem_filterMap.mpr ⟨_, hr, rfl⟩

theorem processSettings (h : Host) : Sends holds h h.processSettings.2 :=
  ⟨[], ⟨[], Discovery.trace_processSettings, rfl⟩, nofun⟩

theorem persists (t : Settings) : Persists t (Sends (· = Compute.probe t)) where
  refl := refl
  trans := trans
  note h x hx := by
    refine (refl h).note ?_
    cases x <;> first | rfl | cases hx
  probe h channel :=
    ⟨[Compute.probe t], ⟨[.requested channel (Compute.probe t)], trace_send .., rfl⟩, by simp⟩

end Sends
end Host

namespace Credential

variable {c d : Credential} {s : Settings} {h : Host}

def address? (c : Credential) : Option Value :=
  match c.material with
  | .serviceAccount _ uri _ => some uri
  | .user _ uri => some uri
  | .compute => some (.text (computeTokenUrl c.settings))
  | _ => none

/-- A request as a credential makes them: at its address, with the timeout of its settings. -/
structure Makes (c : Credential) (r : Request) : Prop where
  timeout : r.timeout = some c.settings.requestTimeout
  url : c.address? = some r.url

theorem makes_of_posts {r : Request} (hr : c.Posts r) : c.Makes r := by
  cases hr with
  | assertion text hm => exact ⟨rfl, by rw [address?, hm]; rfl⟩
  | grant hm => exact ⟨rfl, by rw [address?, hm]; rfl⟩
  | machine hm => exact ⟨rfl, by rw [address?, hm]; rfl⟩

theorem sends_exchange (c : Credential) (h : Host) :
    Host.Sends c.Makes h (c.exchange h).2.2 := by
  obtain ⟨new, ht, hnew⟩ := onlyAsks_exchange c h
  refine ⟨new.filterMap Happening.request?, ⟨new, ht, rfl⟩, fun r hr => ?_⟩
  obtain ⟨x, hx, hrequest⟩ := List.mem_filterMap.mp hr
  rcases hnew x hx with rfl | ⟨posted, hposted, rfl⟩
  · cases hrequest
  · cases hrequest
    exact makes_of_posts hposted

theorem sends_refresh (c : Credential) (h : Host) : Host.Sends c.Makes h (c.refresh h).2.2 := by
  have hfetch : Host.Sends c.Makes h (c.fetch h).2.2 := (sends_exchange c h).note rfl
  rcases host_refresh c h with heq | ⟨e, heq⟩
  · rwa [heq]
  · rw [heq]
    exact hfetch.note rfl

/-- Every request that a call sends is one that the credential makes. -/
theorem sends_perform (x : Call) (c : Credential) (h : Host) :
    Host.Sends c.Makes h (x.perform c h).2.2 := by
  classical
  rw [Call.perform_state]
  split
  · exact .refl h
  · exact sends_refresh c h

/-! ### What a credential is made with -/

/-- A credential of the library's own that goes by settings. -/
structure IsMadeWith (s : Settings) (c : Credential) : Prop where
  lasting : c.material.IsLasting
  settings : c.settings = s
  address : c.address? = c.material.addressUnder s

theorem isMadeWith_ofCompute (channel : Channel) (decoder : Decoder) (s : Settings) :
    (ofCompute channel decoder s).IsMadeWith s :=
  ⟨trivial, rfl, rfl⟩

theorem isMadeWith_ofIdentity (channel : Channel) (decoder : Decoder) (scopes : Scopes)
    (s : Settings) : (ofIdentity channel decoder scopes s).IsMadeWith s :=
  ⟨trivial, rfl, rfl⟩

theorem isMadeWith_of_load {pathText : String} {p : Path} {channel : Channel} {decoder : Decoder}
    (hc : (load pathText p channel decoder (some s) h).1 = .ok c) : c.IsMadeWith s := by
  unfold load at hc
  dsimp only at hc
  split at hc
  · cases hc
  · rename_i info hinfo
    cases info with
    | authorizedUser grant =>
        cases hc
        exact ⟨trivial, rfl, rfl⟩
    | serviceAccount key =>
        simp only [ofInfo, Host.settingsOr, ofServiceAccount] at hc
        cases hs : Signer.ofKey key.privateKey key.privateKeyId with
        | error why =>
            rw [hs] at hc
            cases hc
        | ok signer =>
            rw [hs] at hc
            cases hc
            exact ⟨trivial, rfl, rfl⟩

/-- What descends from a credential is made with the same settings. -/
theorem IsMadeWith.descends (hm : c.IsMadeWith s) (hd : Lineage.Descends c d) :
    d.IsMadeWith s where
  lasting := by rw [hd.material]; exact hm.lasting
  settings := by rw [hd.settings, hm.settings]
  address := by
    have haddress : d.address? = c.address? := by rw [address?, address?, hd.material, hd.settings]
    rw [haddress, hd.material, hm.address]

end Credential

/-! ### What discovery finds -/

namespace Host

/-- Two hosts whose processes have the same settings, read or yet to be read. -/
structure SharesProcess (h h' : Host) : Prop where
  environment : h'.environment = h.environment
  settings : h'.settings = h.settings

namespace SharesProcess

variable {h h₁ h₂ : Host}

theorem refl (h : Host) : SharesProcess h h :=
  ⟨rfl, rfl⟩

theorem trans (h01 : SharesProcess h h₁) (h12 : SharesProcess h₁ h₂) : SharesProcess h h₂ :=
  ⟨h12.environment.trans h01.environment, h12.settings.trans h01.settings⟩

theorem processSettings_eq (hs : SharesProcess h h₁) :
    h₁.processSettings.1 = h.processSettings.1 := by
  unfold processSettings
  rw [hs.environment, hs.settings]
  split
  · rfl
  · split <;> rfl

end SharesProcess

theorem persists_sharesProcess (t : Settings) : Persists t SharesProcess where
  refl := .refl
  trans := .trans
  note _ _ _ := ⟨rfl, rfl⟩
  probe h channel := by
    cases channel <;> simp only [Host.send, pending, Host.note] <;> split <;> exact ⟨rfl, rfl⟩

end Host

namespace Discovery

variable {s : Scope} {channel : Channel} {decoder : Decoder} {h : Host} {c : Credential}
  {source : Source}

/-- A credential as a place gives it: a managed runtime's goes by the settings of the process, and
any other by those that discovery was given. -/
inductive Supplies (s : Scope) (h : Host) : Credential → Source → Prop
  | given {c : Credential} {source : Source} : source ≠ .sandboxRuntime →
      c.IsMadeWith s.settings → Supplies s h c source
  | process {c : Credential} {t : Settings} : c.material = .appIdentity → c.IsMadeWith t →
      h.processSettings.1 = .ok t → Supplies s h c .sandboxRuntime

theorem Supplies.of_sharesProcess {h' : Host} (hc : Supplies s h' c source)
    (hs : h.SharesProcess h') : Supplies s h c source := by
  cases hc with
  | given hsource hmade => exact .given hsource hmade
  | process hm hmade ht => exact .process hm hmade (hs.processSettings_eq ▸ ht)

/-- What a place supplies goes by some settings. -/
theorem Supplies.settings (hc : Supplies s h c source) :
    ∃ t, (source ≠ .sandboxRuntime → t = s.settings) ∧
      (source = .sandboxRuntime → c.material = .appIdentity ∧ h.processSettings.1 = .ok t) ∧
      c.IsMadeWith t := by
  cases hc with
  | given hsource hmade => exact ⟨_, fun _ => rfl, fun h => absurd h hsource, hmade⟩
  | process hm hmade ht => exact ⟨_, fun h => absurd rfl h, fun _ => ⟨hm, ht⟩, hmade⟩

theorem isMadeWith_of_found {p : Path}
    (hc : (found (loadFile s p channel decoder h)).1 = .ok (some c)) :
    c.IsMadeWith s.settings := by
  cases hl : (loadFile s p channel decoder h).1 with
  | error why =>
      rw [found, hl] at hc
      cases hc
  | ok made =>
      rw [found, hl] at hc
      cases hc
      exact Credential.isMadeWith_of_load hl

theorem isMadeWith_of_pointer (hc : (fromPointer s channel decoder h).1 = .ok (some c)) :
    c.IsMadeWith s.settings := by
  unfold fromPointer at hc
  dsimp only at hc
  split at hc
  · cases hc
  · split at hc
    · cases hc
    · cases hc
    · exact isMadeWith_of_found hc

theorem isMadeWith_of_wellKnownFile
    (hc : (fromWellKnownFile s channel decoder h).1 = .ok (some c)) :
    c.IsMadeWith s.settings := by
  unfold fromWellKnownFile at hc
  split at hc
  · cases hc
  · split at hc
    · cases hc
    · cases hc
    · split at hc
      · cases hc
      · rename_i made h' hl
        cases hc
        exact Credential.isMadeWith_of_load (congrArg Prod.fst hl)

theorem supplies_of_runtime (ha : s.adapters = [.appEngine])
    (hc : (fromAdapters channel decoder s.adapters h).1 = .ok (some c)) :
    Supplies s h c .sandboxRuntime := by
  rw [ha, fromAdapters, isAvailable] at hc
  cases hi : h.identity.isSome with
  | false =>
      rw [hi] at hc
      cases hc
  | true =>
      rw [hi] at hc
      have hshared : h.SharesProcess
          (((h.note (.probed .appEngine)).log (.adapterAvailable Adapter.appEngine.name)).note
            (.made .appEngine)) := ⟨rfl, rfl⟩
      simp only [create] at hc
      split at hc
      · cases hc
      · rename_i t h' hp
        cases hc
        exact .process rfl (Credential.isMadeWith_ofIdentity ..)
          (hshared.processSettings_eq ▸ congrArg Prod.fst hp)

/-- What a place gives, it supplies. -/
theorem supplies_of_attempt (ha : s.adapters = [.appEngine])
    (hc : (attempt s channel decoder source h).1 = .ok (some c)) : Supplies s h c source := by
  cases source with
  | envFile => exact .given (by decide) (isMadeWith_of_pointer hc)
  | wellKnownFile => exact .given (by decide) (isMadeWith_of_wellKnownFile hc)
  | sandboxRuntime => exact supplies_of_runtime ha hc
  | computeMetadata =>
      refine .given (by decide) ?_
      simp only [attempt, fromCompute] at hc
      split at hc
      · cases hc
      · cases hc
      · cases hc
        exact Credential.isMadeWith_ofCompute ..

theorem sharesProcess_of_runtime (ha : s.adapters = [.appEngine])
    (hn : (fromAdapters channel decoder s.adapters h).1 = .ok none) :
    h.SharesProcess (fromAdapters channel decoder s.adapters h).2 := by
  rw [ha, fromAdapters, isAvailable] at hn ⊢
  cases hi : h.identity.isSome with
  | false => exact ⟨rfl, rfl⟩
  | true =>
      rw [hi] at hn
      simp only [create] at hn
      split at hn <;> cases hn

/-- A place that gives nothing leaves the process as it was. -/
theorem sharesProcess_of_attempt (ha : s.adapters = [.appEngine])
    (hn : (attempt s channel decoder source h).1 = .ok none) :
    h.SharesProcess (attempt s channel decoder source h).2 := by
  cases source with
  | envFile => exact (Host.persists_sharesProcess s.settings).fromPointer ..
  | wellKnownFile => exact (Host.persists_sharesProcess s.settings).fromWellKnownFile ..
  | sandboxRuntime => exact sharesProcess_of_runtime ha hn
  | computeMetadata =>
      exact (Host.persists_sharesProcess s.settings).fromCompute s channel decoder h rfl

/-- **Discovery.**  What is found at any of the places that are looked at is supplied by that
place, in the process as it was before. -/
theorem discover_settings (ha : s.adapters = [.appEngine]) {sources : List Source}
    (hd : (discover s channel decoder sources h).1 = .ok (c, source)) :
    Supplies s h c source := by
  induction sources generalizing h with
  | nil => cases hd
  | cons first rest ih =>
      rw [discover] at hd
      split at hd
      · cases hd
      · rename_i found h' hat
        cases hd
        exact supplies_of_attempt ha (congrArg Prod.fst hat)
      · rename_i h' hat
        have hnone : (attempt s channel decoder first h).1 = .ok none := congrArg Prod.fst hat
        have hshared : h.SharesProcess h' := by
          have hattempt := sharesProcess_of_attempt ha hnone
          rwa [hat] at hattempt
        exact (ih hd).of_sharesProcess ⟨hshared.environment, hshared.settings⟩

end Discovery

namespace Resolver

variable {r : Resolver} {channel : Channel} {decoder : Decoder} {w : Wallet} {h : Host}

/-- **Which settings a resolved credential goes by.**  What a resolver gives at its first call, with
the runtime that the library knows, goes by some settings with all its variants, whatever is done
with them: they have these settings, and every request that a call on one of them sends has their
timeout and goes to the address that they tell.  A credential from a file or from the metadata
server goes by the settings of the resolver.  That of a managed runtime goes by those of the
process. -/
theorem resolve_settings (hk : r.kept = none) (ha : r.scope.adapters = [.appEngine]) {n : Nat}
    (hr : (r.resolve channel decoder w h).1 = .ok n) :
    let (_, r', w', _) := r.resolve channel decoder w h
    ∃ c source t,
      r'.kept = some (.credential n source) ∧ w'.get? n = some c ∧
      (source ≠ .sandboxRuntime → t = r.scope.settings) ∧
      (source = .sandboxRuntime → c.material = .appIdentity ∧ h.processSettings.1 = .ok t) ∧
      ∀ h₁ turns m d, ((Lineage.start c h₁).run turns).member? m = some d →
        d.settings = t ∧
        ∀ (x : Call) h₂ via q, .requested via q ∈ (x.perform d h₂).2.2.since h₂ →
          q.timeout = some t.requestTimeout ∧ d.material.addressUnder t = some q.url := by
  have hfirst := @resolve_of_unkept r channel decoder w h hk
  generalize r.resolve channel decoder w h = called at hr hfirst ⊢
  obtain ⟨given, r', w', h'⟩ := called
  obtain ⟨hpass, -⟩ := hfirst
  dsimp only at hr hpass ⊢
  subst hr
  generalize hd : (Discovery.discover r.scope channel decoder Source.all h).1 = outcome at hpass
  generalize r'.kept = kept at hpass ⊢
  cases hpass with
  | @credential c source _ _ hget _ =>
      obtain ⟨t, hgiven, hprocess, hmade⟩ := (Discovery.discover_settings ha hd).settings
      refine ⟨c, source, t, rfl, hget, hgiven, hprocess, fun h₁ turns m d hm => ?_⟩
      have hdescends := Lineage.descends_run hmade.lasting h₁ turns m d hm
      have hd := hmade.descends hdescends
      refine ⟨hd.settings, fun x h₂ via q hq => ?_⟩
      have hmakes := (Credential.sends_perform x d h₂).of_mem_since hq
      exact ⟨by rw [hmakes.timeout, hd.settings], by rw [← hd.address, hmakes.url]⟩

/-- A resolver with a timeout of its own, which looks for no file that is there. -/
def hurried : Resolver where
  scope :=
    { environment := some [("CLOUDSDK_CONFIG", "/cfg")]
      platform := "linux"
      home := none
      adapters := [.appEngine]
      settings := { Settings.standard with requestTimeout := 5.0 } }
  kept := none
  copies := 0

def hosted : Host :=
  { Host.empty with main := [.ok ⟨200, [("Metadata-Flavor", "Google")], []⟩] }

/-- The metadata server answers the resolver, and the credential of the machine asks it for a token
with the timeout of the resolver. -/
theorem resolve_settings_hurried :
    ∃ c via q, (hurried.resolve .main .json .empty hosted).2.2.1.get? 0 = some c ∧
      c.settings = hurried.scope.settings ∧
      .requested via q ∈ (Call.token.perform c .empty).2.2.since .empty ∧
      q.timeout = some 5.0 ∧
      q.url = .text
        "http://169.254.169.254/computeMetadata/v1/instance/service-accounts/default/token" := by
  obtain ⟨c, source, t, hkept, hget, hgiven, -, hall⟩ :=
    @resolve_settings hurried .main .json .empty hosted rfl rfl 0 rfl
  cases hkept
  cases hget
  have ht : t = hurried.scope.settings := hgiven (by decide)
  subst ht
  obtain ⟨hsettings, hrequests⟩ := hall .empty [] 0 _ rfl
  have hsent : .requested .main (Credential.computeRequest hurried.scope.settings) ∈
      (Call.token.perform (.ofCompute .main .json hurried.scope.settings) .empty).2.2.since
        .empty := List.mem_of_getElem? (i := 2) rfl
  obtain ⟨htimeout, hurl⟩ := hrequests .token .empty _ _ hsent
  exact ⟨_, _, _, rfl, hsettings, hsent, htimeout, (Option.some.inj hurl).symm⟩

/-- A managed runtime's credential has the timeout of the process, although the resolver was given
another. -/
theorem resolve_runtime_ignores :
    ∃ c, (hurried.resolve .main .json .empty { Host.empty with identity := some [] }).1 = .ok 0 ∧
      (hurried.resolve .main .json .empty { Host.empty with identity := some [] }).2.2.1.get? 0 =
        some c ∧
      c.settings.requestTimeout = 30.0 ∧ c.settings ≠ hurried.scope.settings := by
  refine ⟨_, rfl, rfl, rfl, fun hs => ?_⟩
  have htimeout : (30.0 : Float) = 5.0 := congrArg Settings.requestTimeout hs
  exact absurd htimeout (by decide)

end Resolver
end DefaultCredentials
