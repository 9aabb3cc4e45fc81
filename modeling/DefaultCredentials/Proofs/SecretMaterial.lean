import DefaultCredentials.Proofs.Indistinguishable
import DefaultCredentials.Resolver

/-!
# What secrets are for

Two credentials are alike if their materials differ in secrets only; they have the same slot and are
shown in the same way.  A secret goes into the body of a request and nowhere else: on alike hosts an
exchange comes to the same for both, and so does everything that is built on it, up to discovery and
what a resolver keeps of it.
-/

namespace DefaultCredentials

/-- Materials that are the same or differ in their secrets only; keys sign. -/
inductive AlikeMaterials : Material → Material → Prop
  | refl (m : Material) : AlikeMaterials m m
  | serviceAccount {key : ServiceAccountKey} {uri : Value} {signer signer' : Signer}
      (other : Value) : signer.CanSign → signer'.CanSign →
      AlikeMaterials (.serviceAccount key uri signer)
        (.serviceAccount { key with privateKey := other } uri signer')
  | user {grant : UserGrant} {uri : Value} (secret token : Value) : grant.IsSecret →
      { grant with clientSecret := secret, refreshToken := token }.IsSecret →
      AlikeMaterials (.user grant uri)
        (.user { grant with clientSecret := secret, refreshToken := token } uri)

namespace AlikeMaterials

variable {m m' : Material}

theorem kind_eq (hm : AlikeMaterials m m') : m'.kind = m.kind := by
  cases hm <;> rfl

theorem isScoped_eq (hm : AlikeMaterials m m') : m'.isScoped = m.isScoped := by
  cases hm <;> rfl

end AlikeMaterials

/-- Credentials whose materials are alike and that are the same otherwise. -/
def AlikeCredentials (c c' : Credential) : Prop :=
  ∃ m, AlikeMaterials c.material m ∧ c' = { c with material := m }

/-- What a call on alike credentials comes to: the same answer, credentials that are alike, and
hosts that are. -/
structure AlikeCalls {α : Type} (uses : Decoder → Prop)
    (x x' : Except Raised α × Credential × Host) : Prop where
  answer : x'.1 = x.1
  credential : AlikeCredentials x.2.1 x'.2.1
  host : AlikeHosts uses x.2.2 x'.2.2

theorem AlikeCalls.split {α : Type} {uses : Decoder → Prop}
    {x x' : Except Raised α × Credential × Host} (hx : AlikeCalls uses x x') :
    ∃ answer c c' h h', x = (answer, c, h) ∧ x' = (answer, c', h') ∧ AlikeCredentials c c' ∧
      AlikeHosts uses h h' := by
  obtain ⟨answer, c, h⟩ := x
  obtain ⟨answer', c', h'⟩ := x'
  obtain ⟨hanswer, hcredential, hhost⟩ := hx
  dsimp only at hanswer hcredential hhost
  exact ⟨answer, c, c', h, h', rfl, by rw [hanswer], hcredential, hhost⟩

namespace AlikeCredentials

variable {uses : Decoder → Prop} {c c' : Credential} {h h' : Host}

theorem refl (c : Credential) : AlikeCredentials c c :=
  ⟨c.material, .refl _, rfl⟩

theorem slot_eq (hc : AlikeCredentials c c') : c'.slot = c.slot := by
  obtain ⟨m, -, rfl⟩ := hc
  rfl

theorem kind_eq (hc : AlikeCredentials c c') : c'.kind = c.kind := by
  obtain ⟨m, hm, rfl⟩ := hc
  exact hm.kind_eq

theorem needsScopes_eq (hc : AlikeCredentials c c') : c'.needsScopes = c.needsScopes := by
  obtain ⟨material, channel, decoder, scopes, settings, slot⟩ := c
  obtain ⟨m, hm, rfl⟩ := hc
  cases hm <;> rfl

theorem display_eq (hc : AlikeCredentials c c') : c'.display = c.display := by
  obtain ⟨material, channel, decoder, scopes, settings, slot⟩ := c
  obtain ⟨m, hm, rfl⟩ := hc
  cases hm <;> rfl

theorem isSdkUser_eq (hc : AlikeCredentials c c') :
    Discovery.isSdkUser c' = Discovery.isSdkUser c := by
  obtain ⟨material, channel, decoder, scopes, settings, slot⟩ := c
  obtain ⟨m, hm, rfl⟩ := hc
  cases hm <;> rfl

theorem settle (hc : AlikeCredentials c c') (slot : Slot) :
    AlikeCredentials { c with slot := slot } { c' with slot := slot } := by
  obtain ⟨m, hm, rfl⟩ := hc
  exact ⟨m, hm, rfl⟩

theorem withScopes? (hc : AlikeCredentials c c') (scopes : List String) :
    Option.Rel AlikeCredentials (c.withScopes? scopes) (c'.withScopes? scopes) := by
  obtain ⟨m, hm, rfl⟩ := hc
  unfold Credential.withScopes?
  dsimp only
  rw [hm.isScoped_eq]
  split
  · exact .some ⟨m, hm, rfl⟩
  · exact .none

/-! ### Exchanges -/

/-- Assertions are made for both, or the same keeps them from being made. -/
theorem assertion_cases {key : ServiceAccountKey} {signer signer' : Signer} (other uri : Value)
    (scopes : Scopes) (now : Float) (hs : signer.CanSign) (hs' : signer'.CanSign) :
    (∃ a a', Credential.assertion key uri signer scopes now = .ok a ∧
      Credential.assertion { key with privateKey := other } uri signer' scopes now = .ok a') ∨
    ∃ why, Credential.assertion key uri signer scopes now = .error why ∧
      Credential.assertion { key with privateKey := other } uri signer' scopes now =
        .error why := by
  unfold Credential.assertion
  cases Number.truncate now with
  | error why => exact .inr ⟨_, rfl, rfl⟩
  | ok issuedAt =>
      obtain ⟨a, ha⟩ := Assertion.write_of_canSign hs _
      obtain ⟨a', ha'⟩ := Assertion.write_of_canSign hs' _
      exact .inl ⟨a, a', ha, ha'⟩

/-- Forms for one address differ in bodies only, and either both can be encoded or what keeps them
from it is the same. -/
theorem post (hh : AlikeHosts uses h h') (c : Credential) (m : Material) (url : Value)
    (fields : List (String × Value)) {fields' : List (String × Value)}
    (hf : Form.ragged? fields' = Form.ragged? fields) :
    ∃ answer h₁ h₁', c.post url fields h = (answer, h₁) ∧
      { c with material := m }.post url fields' h' = (answer, h₁') ∧ AlikeHosts uses h₁ h₁' := by
  cases hr : Form.ragged? fields with
  | some text =>
      rw [Credential.post_of_ragged hr, Credential.post_of_ragged (hf.trans hr)]
      exact ⟨_, _, _, rfl, rfl, hh⟩
  | none =>
      rw [Credential.post_of_encodable hr, Credential.post_of_encodable (hf.trans hr)]
      have hveiled : (Credential.formRequest url fields' c.settings).veiled =
        (Credential.formRequest url fields c.settings).veiled := rfl
      exact hh.send c.channel hveiled

/-- Secrets can be encoded, so that only what is no secret can keep a grant from being posted. -/
theorem ragged?_grantFields {grant : UserGrant} {secret token : Value} (hg : grant.IsSecret)
    (hg' : { grant with clientSecret := secret, refreshToken := token }.IsSecret) :
    Form.ragged? (Credential.grantFields
        { grant with clientSecret := secret, refreshToken := token }) =
      Form.ragged? (Credential.grantFields grant) := by
  obtain ⟨clientId, oldSecret, oldToken, quota⟩ := grant
  obtain ⟨⟨a, rfl, -⟩, ⟨b, rfl, -⟩⟩ := hg
  obtain ⟨⟨a', rfl, -⟩, ⟨b', rfl, -⟩⟩ := hg'
  cases clientId <;> rfl

theorem exchange (hc : AlikeCredentials c c') (hh : AlikeHosts uses h h') :
    AlikeCalls uses (c.exchange h) (c'.exchange h') := by
  obtain ⟨material, channel, decoder, scopes, settings, slot⟩ := c
  obtain ⟨m, hm, rfl⟩ := hc
  cases hm with
  | @serviceAccount key uri signer signer' other hs hs' =>
      simp only [Credential.exchange, hh.now_eq]
      rcases assertion_cases other uri scopes h.now hs hs' with ⟨a, a', ha, ha'⟩ | ⟨why, ha, ha'⟩
      · -- The assertions are signed by different keys, but they stand in the bodies only.
        have hencoded : Form.ragged? (Credential.assertionFields a') =
          Form.ragged? (Credential.assertionFields a) := rfl
        obtain ⟨answer, h₁, h₁', hx, hx', hsent⟩ := post hh
          ⟨.serviceAccount key uri signer, channel, decoder, scopes, settings, slot⟩
          (.serviceAccount { key with privateKey := other } uri signer') uri _ hencoded
        rw [ha, ha']
        simp only [hx, hx', hsent.now_eq]
        exact ⟨rfl, ⟨_, .serviceAccount other hs hs', rfl⟩, hsent⟩
      · rw [ha, ha']
        exact ⟨rfl, ⟨_, .serviceAccount other hs hs', rfl⟩, hh⟩
  | @user grant uri secret token hg hg' =>
      obtain ⟨answer, h₁, h₁', hx, hx', hsent⟩ := post hh
        ⟨.user grant uri, channel, decoder, scopes, settings, slot⟩
        (.user { grant with clientSecret := secret, refreshToken := token } uri) uri _
        (ragged?_grantFields hg hg')
      simp only [Credential.exchange, hx, hx', hsent.now_eq]
      exact ⟨rfl, ⟨_, .user secret token hg hg', rfl⟩, hsent⟩
  | refl =>
      -- The material is the same, and only the hosts differ.
      cases material with
      | serviceAccount key uri signer =>
          simp only [Credential.exchange, hh.now_eq]
          cases Credential.assertion key uri signer scopes h.now with
          | error why => exact ⟨rfl, .refl _, hh⟩
          | ok a =>
              obtain ⟨answer, h₁, h₁', hx, hx', hsent⟩ := post hh
                ⟨.serviceAccount key uri signer, channel, decoder, scopes, settings, slot⟩
                (.serviceAccount key uri signer) uri (Credential.assertionFields a) rfl
              simp only [hx, hx', hsent.now_eq]
              exact ⟨rfl, .refl _, hsent⟩
      | user grant uri =>
          obtain ⟨answer, h₁, h₁', hx, hx', hsent⟩ := post hh
            ⟨.user grant uri, channel, decoder, scopes, settings, slot⟩ (.user grant uri) uri
            (Credential.grantFields grant) rfl
          simp only [Credential.exchange, hx, hx', hsent.now_eq]
          exact ⟨rfl, .refl _, hsent⟩
      | compute =>
          obtain ⟨answer, h₁, h₁', hx, hx', hsent⟩ := hh.send channel
            (r := Credential.computeRequest settings) rfl
          simp only [Credential.exchange, hx, hx', hsent.now_eq]
          exact ⟨rfl, .refl _, hsent⟩
      | appIdentity =>
          obtain ⟨answer, h₁, h₁', hx, hx', hasked⟩ := hh.askIdentity scopes
          simp only [Credential.exchange, hx, hx']
          exact ⟨rfl, .refl _, hasked⟩
      | custom kind label exchanges =>
          have hsilence : h'.silence = h.silence := by
            obtain ⟨files, trace, -, -, rfl⟩ := hh
            rfl
          cases exchanges with
          | nil => exact ⟨by simp only [Credential.exchange, Credential.exhausted, hsilence],
              .refl _, hh⟩
          | cons outcome rest => exact ⟨rfl, .refl _, hh⟩

theorem fetch (hc : AlikeCredentials c c') (hh : AlikeHosts uses h h') :
    AlikeCalls uses (c.fetch h) (c'.fetch h') := by
  obtain ⟨outcome, c₁, c₁', h₁, h₁', hx, hx', hcredential, hhost⟩ := (hc.exchange hh).split
  unfold Credential.fetch
  rw [hx, hx']
  exact ⟨rfl, hcredential, hhost.note (by rw [hhost.now_eq])⟩

theorem refresh (hc : AlikeCredentials c c') (hh : AlikeHosts uses h h') :
    AlikeCalls uses (c.refresh h) (c'.refresh h') := by
  obtain ⟨outcome, c₁, c₁', h₁, h₁', hx, hx', hcredential, hhost⟩ := (hc.fetch hh).split
  unfold Credential.refresh
  rw [hx, hx']
  dsimp only
  rw [hcredential.slot_eq, hhost.now_eq]
  generalize Credential.Settlement.of outcome = settled
  have hsettled := hcredential.settle (settled.slot c₁.slot)
  have hkind := hsettled.kind_eq
  cases settled with
  | stored t =>
      dsimp only at hsettled hkind ⊢
      cases t.expiresIn h₁.now with
      | ok seconds =>
          dsimp only
          rw [hkind]
          exact ⟨rfl, hsettled, hhost.log _⟩
      | error why => exact ⟨rfl, hsettled, hhost⟩
  | recorded failure =>
      dsimp only at hsettled hkind ⊢
      rw [hkind]
      exact ⟨rfl, hsettled, hhost.log _⟩
  | passed why => exact ⟨rfl, hsettled, hhost⟩

/-! ### Reading a token -/

theorem currentToken (hc : AlikeCredentials c c') (hh : AlikeHosts uses h h') :
    AlikeCalls uses (c.currentToken h) (c'.currentToken h') := by
  unfold Credential.currentToken
  rw [hc.slot_eq, hh.now_eq]
  cases c.slot.current? h.now with
  | some t => exact ⟨rfl, hc, hh⟩
  | none =>
      obtain ⟨answer, c₁, c₁', h₁, h₁', hx, hx', hcredential, hhost⟩ := (hc.refresh hh).split
      rw [hx, hx']
      cases answer with
      | error why => exact ⟨rfl, hcredential, hhost⟩
      | ok stored =>
          cases stored with
          | true =>
              refine ⟨?_, hcredential, hhost⟩
              simp only [Credential.storedToken, hcredential.slot_eq]
          | false =>
              refine ⟨?_, hcredential, hhost⟩
              simp only [Credential.recordedFailure, hcredential.slot_eq]

theorem apply (hc : AlikeCredentials c c') (hh : AlikeHosts uses h h')
    (headers : List (String × String)) :
    AlikeCalls uses (c.apply headers h) (c'.apply headers h') := by
  obtain ⟨answer, c₁, c₁', h₁, h₁', hx, hx', hcredential, hhost⟩ := (hc.currentToken hh).split
  unfold Credential.apply
  rw [hx, hx']
  cases answer with
  | ok token => exact ⟨rfl, hcredential, hhost⟩
  | error why => exact ⟨rfl, hcredential, hhost⟩

end AlikeCredentials

/-! ### Loading -/

namespace AlikeHosts

variable {uses : Decoder → Prop} {h h' : Host} {decoder : Decoder}

theorem ofInfo {info info' : CredentialInfo} (hh : AlikeHosts uses h h')
    (hi : AlikeInfos info info') (channel : Channel) (decoder : Decoder) (path : Value)
    (settings : Option Settings) :
    AlikeRuns uses AlikeCredentials (Credential.ofInfo info channel decoder path settings h)
      (Credential.ofInfo info' channel decoder path settings h') := by
  cases hi with
  | serviceAccount hsigns hsigns' =>
      obtain ⟨signer, hkey, hcan⟩ := hsigns
      obtain ⟨signer', hkey', hcan'⟩ := hsigns'
      rcases (hh.settingsOr settings).split with
        ⟨s, s', h₁, h₁', hx, hx', rfl, hhost⟩ | ⟨why, h₁, h₁', hx, hx', hhost⟩
      · simp only [Credential.ofInfo, Credential.ofServiceAccount, hx, hx', hkey, hkey']
        exact ⟨.ok ⟨_, .serviceAccount _ hcan hcan', rfl⟩, hhost⟩
      · simp only [Credential.ofInfo, hx, hx']
        exact ⟨.error _, hhost⟩
  | authorizedUser secret token hg hg' =>
      rcases (hh.settingsOr settings).split with
        ⟨s, s', h₁, h₁', hx, hx', rfl, hhost⟩ | ⟨why, h₁, h₁', hx, hx', hhost⟩
      · simp only [Credential.ofInfo, Credential.ofUser, hx, hx']
        exact ⟨.ok ⟨_, .user secret token hg hg', rfl⟩, hhost⟩
      · simp only [Credential.ofInfo, hx, hx']
        exact ⟨.error _, hhost⟩
  | refl =>
      rcases (hh.settingsOr settings).split with
        ⟨s, s', h₁, h₁', hx, hx', rfl, hhost⟩ | ⟨why, h₁, h₁', hx, hx', hhost⟩
      · cases info <;> simp only [Credential.ofInfo, hx, hx'] <;>
          exact ⟨.of_eq .refl rfl, hhost⟩
      · cases info <;> simp only [Credential.ofInfo, hx, hx'] <;> exact ⟨.error _, hhost⟩

/-- Credential files become credentials that are alike. -/
theorem load (hh : AlikeHosts uses h h') (hd : uses decoder) (pathText : String) (p : Path)
    (channel : Channel) (settings : Option Settings) :
    AlikeRuns uses AlikeCredentials (Credential.load pathText p channel decoder settings h)
      (Credential.load pathText p channel decoder settings h') := by
  have hread : AlikeHosts uses (h.noting (h.readings p decoder))
      (h'.noting (h'.readings p decoder)) := hh.noting (by rw [hh.readings_eq])
  unfold Credential.load
  rcases (hh.agree_ofFile hd p).split with ⟨info, info', hx, hx', hi⟩ | ⟨why, hx, hx'⟩
  · rw [hx, hx']
    exact hread.ofInfo hi channel decoder _ settings
  · rw [hx, hx']
    exact ⟨.error _, hread⟩

/-! ### Discovery -/

theorem variableOf_eq (hh : AlikeHosts uses h h') (s : Scope) (name : String) :
    Discovery.variableOf s h' name = Discovery.variableOf s h name := by
  unfold Discovery.variableOf
  rw [hh.environment_eq]

theorem wellKnownFile_eq (hh : AlikeHosts uses h h') (s : Scope) :
    Discovery.wellKnownFile s h' = Discovery.wellKnownFile s h := by
  unfold Discovery.wellKnownFile Host.home
  simp only [hh.variableOf_eq, hh.environment_eq]

theorem absolutePath_eq (hh : AlikeHosts uses h h') (text : String) :
    h'.absolutePath text = h.absolutePath text := by
  obtain ⟨files, trace, -, -, rfl⟩ := hh
  rfl

theorem fromPointer (hh : AlikeHosts uses h h') (hd : uses decoder) (s : Scope)
    (channel : Channel) :
    AlikeRuns uses (Option.Rel AlikeCredentials) (Discovery.fromPointer s channel decoder h)
      (Discovery.fromPointer s channel decoder h') := by
  unfold Discovery.fromPointer
  rw [hh.variableOf_eq]
  cases Discovery.variableOf s h Discovery.pointerVariable with
  | none => exact ⟨.ok .none, hh⟩
  | some value =>
      dsimp only
      rw [hh.absolutePath_eq]
      rcases (hh.seek (h.absolutePath value)).split with
        ⟨isThere, _, h₁, h₁', hx, hx', rfl, hhost⟩ | ⟨why, h₁, h₁', hx, hx', hhost⟩
      · rw [hx, hx']
        cases isThere with
        | false => exact ⟨.error _, hhost⟩
        | true =>
            obtain ⟨houtcome, hloaded⟩ := hhost.load hd (h.absolutePath value).toText
              (h.absolutePath value) channel (some s.settings)
            exact ⟨houtcome.map fun _ _ hc => .some hc, hloaded⟩
      · rw [hx, hx']
        exact ⟨.error _, hhost⟩

theorem fromWellKnownFile (hh : AlikeHosts uses h h') (hd : uses decoder) (s : Scope)
    (channel : Channel) :
    AlikeRuns uses (Option.Rel AlikeCredentials)
      (Discovery.fromWellKnownFile s channel decoder h)
      (Discovery.fromWellKnownFile s channel decoder h') := by
  unfold Discovery.fromWellKnownFile
  rw [hh.wellKnownFile_eq]
  cases Discovery.wellKnownFile s h with
  | none => exact ⟨.ok .none, hh⟩
  | some p =>
      dsimp only
      rcases (hh.seek p).split with
        ⟨isThere, _, h₁, h₁', hx, hx', rfl, hhost⟩ | ⟨why, h₁, h₁', hx, hx', hhost⟩
      · rw [hx, hx']
        cases isThere with
        | false => exact ⟨.ok .none, hhost⟩
        | true =>
            dsimp only [Discovery.loadFile]
            rcases (hhost.load hd p.toText p channel (some s.settings)).split with
              ⟨c, c', h₂, h₂', hy, hy', hc, hloaded⟩ | ⟨why, h₂, h₂', hy, hy', hloaded⟩
            · rw [hy, hy']
              dsimp only
              rw [hc.isSdkUser_eq]
              refine ⟨.ok (.some hc), ?_⟩
              dsimp only
              split
              · exact hloaded.log _
              · exact hloaded
            · rw [hy, hy']
              exact ⟨.error _, hloaded⟩
      · rw [hx, hx']
        exact ⟨.error _, hhost⟩

theorem create (hh : AlikeHosts uses h h') (a : Adapter) (channel : Channel)
    (decoder : Decoder) :
    AlikeRuns uses (Option.Rel AlikeCredentials) (Discovery.create a channel decoder h)
      (Discovery.create a channel decoder h') := by
  unfold Discovery.create
  rcases hh.processSettings.split with
    ⟨s, _, h₁, h₁', hx, hx', rfl, hhost⟩ | ⟨why, h₁, h₁', hx, hx', hhost⟩
  · rw [hx, hx']
    cases a with
    | appEngine => exact ⟨.ok (.some (.refl _)), hhost⟩
    | custom name available made =>
        cases made with
        | identity => exact ⟨.ok (.some (.refl _)), hhost⟩
        | nothing => exact ⟨.ok .none, hh⟩
        | raised why => exact ⟨.error _, hh⟩
        | exchanges kind label outcomes => exact ⟨.ok (.some (.refl _)), hhost⟩
  · rw [hx, hx']
    cases a with
    | appEngine => exact ⟨.error _, hhost⟩
    | custom name available made =>
        cases made with
        | identity => exact ⟨.error _, hhost⟩
        | nothing => exact ⟨.ok .none, hh⟩
        | raised why => exact ⟨.error _, hh⟩
        | exchanges kind label outcomes => exact ⟨.error _, hhost⟩

theorem fromAdapters (hh : AlikeHosts uses h h') (channel : Channel) (decoder : Decoder)
    (adapters : List Adapter) :
    AlikeRuns uses (Option.Rel AlikeCredentials) (Discovery.fromAdapters channel decoder adapters h)
      (Discovery.fromAdapters channel decoder adapters h') := by
  induction adapters generalizing h h' with
  | nil => exact ⟨.ok .none, hh⟩
  | cons a rest ih =>
      have hprobed :
          AlikeRuns uses Eq (Discovery.isAvailable a h) (Discovery.isAvailable a h') := by
        have hidentity : h'.identity = h.identity := by
          obtain ⟨files, trace, -, -, rfl⟩ := hh
          rfl
        cases a with
        | appEngine =>
            refine ⟨.of_eq (fun _ => rfl) ?_, hh.note rfl⟩
            simp only [Discovery.isAvailable, hidentity]
        | custom name available made => exact ⟨.of_eq (fun _ => rfl) rfl, hh.note rfl⟩
      unfold Discovery.fromAdapters
      rcases hprobed.split with
        ⟨isThere, _, h₁, h₁', hx, hx', rfl, hhost⟩ | ⟨why, h₁, h₁', hx, hx', hhost⟩
      · rw [hx, hx']
        cases isThere with
        | false => exact ih hhost
        | true => exact ((hhost.log _).note rfl).create a channel decoder
      · rw [hx, hx']
        exact ⟨.error _, hhost⟩

theorem fromCompute (hh : AlikeHosts uses h h') (s : Scope) (channel : Channel)
    (decoder : Decoder) :
    AlikeRuns uses (Option.Rel AlikeCredentials) (Discovery.fromCompute s channel decoder h)
      (Discovery.fromCompute s channel decoder h') := by
  have hprobed : AlikeRuns uses Eq (Compute.isAvailable channel s.settings h)
      (Compute.isAvailable channel s.settings h') := by
    obtain ⟨answer, h₁, h₁', hx, hx', hsent⟩ := hh.send channel
      (r := Compute.probe s.settings) rfl
    unfold Compute.isAvailable
    rw [hx, hx']
    cases answer with
    | ok r => exact ⟨.ok rfl, hsent⟩
    | error why =>
        dsimp only
        split
        · exact ⟨.ok rfl, hsent.log _⟩
        · exact ⟨.error _, hsent⟩
  unfold Discovery.fromCompute
  rcases hprobed.split with
    ⟨isThere, _, h₁, h₁', hx, hx', rfl, hhost⟩ | ⟨why, h₁, h₁', hx, hx', hhost⟩
  · rw [hx, hx']
    cases isThere with
    | false => exact ⟨.ok .none, hhost⟩
    | true => exact ⟨.ok (.some (.refl _)), hhost⟩
  · rw [hx, hx']
    exact ⟨.error _, hhost⟩

/-- Each place gives credentials that are alike, or nothing, or the same fault. -/
theorem attempt (hh : AlikeHosts uses h h') (hd : uses decoder) (s : Scope) (channel : Channel)
    (source : Source) :
    AlikeRuns uses (Option.Rel AlikeCredentials) (Discovery.attempt s channel decoder source h)
      (Discovery.attempt s channel decoder source h') := by
  cases source with
  | envFile => exact hh.fromPointer hd s channel
  | wellKnownFile => exact hh.fromWellKnownFile hd s channel
  | sandboxRuntime => exact hh.fromAdapters channel decoder s.adapters
  | computeMetadata => exact hh.fromCompute s channel decoder

/-- Discovery ends at the same place, with credentials that are alike, or in the same fault. -/
theorem discover (hh : AlikeHosts uses h h') (hd : uses decoder) (s : Scope) (channel : Channel)
    (sources : List Source) :
    AlikeRuns uses (fun x x' => AlikeCredentials x.1 x'.1 ∧ x'.2 = x.2)
      (Discovery.discover s channel decoder sources h)
      (Discovery.discover s channel decoder sources h') := by
  -- Each place that does not apply leaves hosts that are alike, on which the next is looked at.
  induction sources generalizing h h' with
  | nil => exact ⟨.error _, hh⟩
  | cons source rest ih =>
      unfold Discovery.discover
      rcases (hh.attempt hd s channel source).split with
        ⟨_, _, h₁, h₁', hx, hx', hc, hhost⟩ | ⟨why, h₁, h₁', hx, hx', hhost⟩
      · rw [hx, hx']
        cases hc with
        | none => exact ih (hhost.log _)
        | some hc => exact ⟨.ok ⟨hc, rfl⟩, hhost⟩
      · rw [hx, hx']
        exact ⟨.error _, hhost⟩

end AlikeHosts

/-! ### Wallets and resolvers -/

/-- Wallets with credentials that are alike under the same numbers. -/
structure AlikeWallets (w w' : Wallet) : Prop where
  count : w'.credentials.length = w.credentials.length
  get? (n : Nat) : Option.Rel AlikeCredentials (w.get? n) (w'.get? n)

namespace AlikeWallets

variable {uses : Decoder → Prop} {w w' : Wallet} {c c' : Credential} {h h' : Host}

theorem empty : AlikeWallets .empty .empty :=
  ⟨rfl, fun _ => .none⟩

theorem get?_cases (hw : AlikeWallets w w') (n : Nat) :
    w.get? n = none ∧ w'.get? n = none ∨
      ∃ c c', w.get? n = some c ∧ w'.get? n = some c' ∧ AlikeCredentials c c' := by
  have hn := hw.get? n
  generalize w.get? n = x, w'.get? n = x' at hn ⊢
  cases hn with
  | none => exact .inl ⟨rfl, rfl⟩
  | some hc => exact .inr ⟨_, _, rfl, rfl, hc⟩

theorem add (hw : AlikeWallets w w') (hc : AlikeCredentials c c') :
    (w'.add c').1 = (w.add c).1 ∧ AlikeWallets (w.add c).2 (w'.add c').2 := by
  refine ⟨hw.count, ?_, fun n => ?_⟩
  · simp [Wallet.add, hw.count]
  · have hn := hw.get? n
    unfold Wallet.get? at hn
    simp only [Wallet.add, Wallet.get?, List.getElem?_append, hw.count]
    split
    · exact hn
    · cases n - w.credentials.length with
      | zero => exact .some hc
      | succ k => exact .none

theorem set (hw : AlikeWallets w w') (n : Nat) (hc : AlikeCredentials c c') :
    AlikeWallets (w.set n c) (w'.set n c') := by
  refine ⟨by simp [Wallet.set, hw.count], fun m => ?_⟩
  have hm := hw.get? m
  unfold Wallet.get? at hm
  simp only [Wallet.set, Wallet.get?, List.getElem?_set, hw.count]
  split
  · split
    · exact .some hc
    · exact .none
  · exact hm

theorem withScopes (hw : AlikeWallets w w') (n : Nat) (scopes : List String) :
    (w'.withScopes n scopes).1 = (w.withScopes n scopes).1 ∧
      AlikeWallets (w.withScopes n scopes).2 (w'.withScopes n scopes).2 := by
  unfold Wallet.withScopes
  rcases hw.get?_cases n with ⟨hn, hn'⟩ | ⟨c, c', hn, hn', hc⟩
  · rw [hn, hn']
    exact ⟨rfl, hw⟩
  · have hvariant := hc.withScopes? scopes
    rw [hn, hn', Option.bind_some, Option.bind_some]
    generalize c.withScopes? scopes = x, c'.withScopes? scopes = x' at hvariant ⊢
    cases hvariant with
    | none => exact ⟨rfl, hw⟩
    | some hv => exact hw.add hv

/-- A resolver keeps and gives the same, and the credential that it adds to wallets is alike. -/
theorem resolve (hw : AlikeWallets w w') (hh : AlikeHosts uses h h') {decoder : Decoder}
    (hd : uses decoder) (r : Resolver) (channel : Channel) :
    ∃ outcome r₁ w₁ w₁' h₁ h₁', r.resolve channel decoder w h = (outcome, r₁, w₁, h₁) ∧
      r.resolve channel decoder w' h' = (outcome, r₁, w₁', h₁') ∧ AlikeWallets w₁ w₁' ∧
      AlikeHosts uses h₁ h₁' := by
  unfold Resolver.resolve
  cases r.kept with
  | some kept => exact ⟨_, _, _, _, _, _, rfl, rfl, hw, hh⟩
  | none =>
      rcases (hh.discover hd r.scope channel Source.all).split with
        ⟨⟨c, source⟩, ⟨c', _⟩, h₁, h₁', hx, hx', ⟨hc, rfl⟩, hhost⟩ |
          ⟨why, h₁, h₁', hx, hx', hhost⟩
      · obtain ⟨hnumber, hadded⟩ := hw.add hc
        rw [hx, hx']
        simp only [Resolver.conclude, hnumber, hc.kind_eq]
        exact ⟨_, _, _, _, _, _, rfl, rfl, hadded, hhost.log _⟩
      · rw [hx, hx']
        cases hf : why.failure? with
        | some f =>
            simp only [Resolver.conclude, hf]
            exact ⟨_, _, _, _, _, _, rfl, rfl, hw, hhost.log _⟩
        | none =>
            simp only [Resolver.conclude, hf]
            exact ⟨_, _, _, _, _, _, rfl, rfl, hw, hhost⟩

end AlikeWallets
end DefaultCredentials
