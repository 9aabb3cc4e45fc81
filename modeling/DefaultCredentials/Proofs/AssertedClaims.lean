import DefaultCredentials.Proofs.AssertionText
import DefaultCredentials.Proofs.Indistinguishable
import DefaultCredentials.Proofs.TokenRequests

/-!
# What a service account asserts

A service account may be bound to scopes again and again.  What its assertion says depends on the
last scopes alone, and the assertion is posted to the address that it names as its audience.

* `ofServiceAccount_again`: a link of the chain is the credential that is made anew at the address
  of the one before, so choosing an address again gives the same one.
* `foldlM_withScopes?`: the chain, by induction on its links.
* `chain_asserts`: the claims and the address at the end of the chain, and that any other chain
  whose last scopes are the same ends in the same credential.
-/

namespace DefaultCredentials

/-- The address for tokens: the first given one of the explicit address and that of the key, and
else that of the settings. -/
def ServiceAccountKey.addressFor (key : ServiceAccountKey) (explicit : Value) (s : Settings) :
    Value :=
  ([explicit, key.tokenUri].find? Value.isGiven).getD (.text s.tokenUri)

/-- Whatever does not sign every message signs none: it is a key of a curve. -/
theorem Assertion.write_of_not_canSign {signer : Signer} (hs : ¬ signer.CanSign) (claims : Claims) :
    ∃ why, write signer claims = .error why := by
  cases signer with
  | key keyId key =>
      cases key with
      | rsa modulus exponent secret => exact absurd (fun _ => ⟨_, rfl⟩) hs
      | curve name point => exact ⟨_, rfl⟩
  | fixed keyId signature => exact absurd (fun _ => ⟨_, rfl⟩) hs

namespace Credential

variable {key : ServiceAccountKey} {channel : Channel} {decoder : Decoder} {explicit : Value}
  {signer? : Option Signer} {settings : Settings} {scopes : Scopes} {c : Credential}

/-! ### Making a credential -/

/-- What signs for a service account: the signer that is given, and else the key itself. -/
def SignedBy (key : ServiceAccountKey) (signer? : Option Signer) (signer : Signer) : Prop :=
  signer? = some signer ∨
    signer? = none ∧ Signer.ofKey key.privateKey key.privateKeyId = .ok signer

theorem SignedBy.eq {signer signer' : Signer} (hs : SignedBy key signer? signer)
    (hs' : SignedBy key signer? signer') : signer' = signer := by
  rcases hs with rfl | ⟨rfl, hkey⟩ <;> rcases hs' with hgiven | ⟨hnone, hkey'⟩
  · exact (Option.some.inj hgiven).symm
  · cases hnone
  · cases hgiven
  · rw [hkey] at hkey'
    exact (Except.ok.inj hkey').symm

theorem orElse_orElse (key : ServiceAccountKey) (explicit : Value) (s : Settings) :
    explicit.orElse (key.tokenUri.orElse (.text s.tokenUri)) = key.addressFor explicit s := by
  unfold Value.orElse ServiceAccountKey.addressFor
  cases he : explicit.isGiven <;> cases hk : key.tokenUri.isGiven <;> simp [he, hk]

/-- A credential that is made has the first given address and never was refreshed. -/
theorem ofServiceAccount_eq_ok :
    ofServiceAccount key channel decoder scopes explicit signer? settings = .ok c ↔
      ∃ signer, SignedBy key signer? signer ∧
        c = fresh (.serviceAccount key (key.addressFor explicit settings) signer) channel decoder
          scopes settings := by
  simp only [ofServiceAccount, orElse_orElse, SignedBy]
  cases signer? with
  | some signer => simp [eq_comm]
  | none =>
      cases Signer.ofKey key.privateKey key.privateKeyId with
      | error why => simp [Except.map]
      | ok signer => simp [Except.map, eq_comm]

theorem addressFor_addressFor (key : ServiceAccountKey) (explicit : Value) (s : Settings) :
    key.addressFor (key.addressFor explicit s) s = key.addressFor explicit s := by
  unfold ServiceAccountKey.addressFor
  cases he : explicit.isGiven <;> cases hk : key.tokenUri.isGiven <;>
    cases hs : (Value.text s.tokenUri).isGiven <;> simp [he, hk, hs]

/-- **Links.**  Binding a credential to scopes is making it anew with them, with its address as the
explicit one and with its signer. -/
theorem ofServiceAccount_again {signer : Signer} (more : List String)
    (hc : ofServiceAccount key channel decoder scopes explicit (some signer) settings = .ok c) :
    ∃ d, c.withScopes? more = some d ∧
      ofServiceAccount key channel decoder (.ofList more) (key.addressFor explicit settings)
        (some signer) settings = .ok d := by
  obtain ⟨_, hs, rfl⟩ := ofServiceAccount_eq_ok.mp hc
  refine ⟨_, rfl, ofServiceAccount_eq_ok.mpr ⟨_, hs, ?_⟩⟩
  rw [addressFor_addressFor]
  rfl

/-! ### Chains -/

/-- A chain of links leaves nothing of the scopes but the last. -/
theorem foldlM_withScopes? {m : Material} (hm : m.isScoped = true) (links : List (List String))
    (initial : List String) :
    links.foldlM withScopes? (fresh m channel decoder (.ofList initial) settings) =
      some (fresh m channel decoder (.ofList (links.getLastD initial)) settings) := by
  induction links generalizing initial with
  | nil => rfl
  | cons link links ih =>
      have hlink : (fresh m channel decoder (.ofList initial) settings).withScopes? link =
          some (fresh m channel decoder (.ofList link) settings) := by simp [withScopes?, fresh, hm]
      rw [List.foldlM_cons, hlink, List.getLastD_cons]
      exact ih link

/-! ### Claims -/

/-- What a refresh does with claims: it posts the assertion of them to an address and sends nothing
else, and whoever gets it reads the claims from it where there is a document of them.  If they
cannot be signed, nothing is sent. -/
structure Asserts (c : Credential) (h : Host) (uri : Value) (signer : Signer)
    (claims : Assertion.Claims) : Prop where
  posted : signer.CanSign → ∃ a q, Assertion.write signer claims = .ok a ∧ c.requests h = [q] ∧
    q.PostsForm uri
      [("grant_type", "urn:ietf:params:oauth:grant-type:jwt-bearer"), ("assertion", a)] ∧
    (Json.isRenderable Json.maxDepth (Assertion.header signer.keyId) = true →
      Json.isRenderable Json.maxDepth claims.payload = true →
      Assertion.read? a = some (Assertion.header signer.keyId, claims.payload))
  unsigned : ¬ signer.CanSign → c.requests h = []

/-- A service account asserts its scopes at the second of the clock. -/
theorem asserts_of_truncate {uri : Value} {signer : Signer} {h : Host} {t : Int}
    (hm : c.material = .serviceAccount key uri signer) (ht : Number.truncate h.now = .ok t) :
    c.Asserts h uri signer ⟨key.clientEmail, " ".intercalate c.scopes, uri, t⟩ := by
  have hwrite : assertion key uri signer c.scopes h.now =
      Assertion.write signer ⟨key.clientEmail, " ".intercalate c.scopes, uri, t⟩ := by
    simp only [assertion, ht]
  refine ⟨fun hsign => ?_, fun hsign => ?_⟩
  · obtain ⟨a, ha⟩ := Assertion.write_of_canSign hsign _
    obtain ⟨q, hsent, hposts⟩ := posts_assertion hm (hwrite.trans ha)
    exact ⟨a, q, ha, hsent, hposts, Assertion.read?_of_write ha⟩
  · obtain ⟨why, ha⟩ := Assertion.write_of_not_canSign hsign _
    exact requests_of_unsigned hm (hwrite.trans ha)

/-- **Chains.**  A service account that is bound to scopes any number of times asserts the last
ones, each once and in order, for an hour from the second of the clock.  It posts this to the first
given address, and that address is the audience.  Another chain of the same account whose last
scopes are these, in whatever order, however often and after whatever links, ends in the very same
credential. -/
theorem chain_asserts {initial : List String}
    (hc : ofServiceAccount key channel decoder (.ofList initial) explicit signer? settings = .ok c)
    (links : List (List String)) :
    ∃ d signer sorted, links.foldlM withScopes? c = some d ∧ SignedBy key signer? signer ∧
      sorted.Pairwise (· < ·) ∧ (∀ s, s ∈ sorted ↔ s ∈ links.getLastD initial) ∧
      (∀ h t, Number.truncate h.now = .ok t →
        ∃ claims : Assertion.Claims, claims.payload = .object [("iss", key.clientEmail),
            ("scope", .text (" ".intercalate sorted)), ("aud", key.addressFor explicit settings),
            ("iat", .int t), ("exp", .int (t + 3600))] ∧
          d.Asserts h (key.addressFor explicit settings) signer claims) ∧
      ∀ (initial' : List String) (c' : Credential) (links' : List (List String)),
        ofServiceAccount key channel decoder (.ofList initial') explicit signer? settings = .ok c' →
        (∀ s, s ∈ links'.getLastD initial' ↔ s ∈ links.getLastD initial) →
        links'.foldlM withScopes? c' = some d := by
  obtain ⟨signer, hs, rfl⟩ := ofServiceAccount_eq_ok.mp hc
  have hend (initial' : List String) (links' : List (List String)) :
      links'.foldlM withScopes?
          (fresh (.serviceAccount key (key.addressFor explicit settings) signer) channel decoder
            (.ofList initial') settings) =
      some (fresh (.serviceAccount key (key.addressFor explicit settings) signer) channel decoder
        (.ofList (links'.getLastD initial')) settings) := foldlM_withScopes? rfl links' initial'
  refine ⟨_, signer, _, hend initial links, hs, Scopes.pairwise_ofList _,
    fun s => Scopes.mem_ofList, fun h t ht => ⟨_, rfl, asserts_of_truncate rfl ht⟩,
    fun initial' c' links' hc' hsame => ?_⟩
  obtain ⟨signer', hs', rfl⟩ := ofServiceAccount_eq_ok.mp hc'
  have hscopes : Scopes.ofList (links'.getLastD initial') = .ofList (links.getLastD initial) :=
    Scopes.eq_ofList (Scopes.pairwise_ofList _) fun s => Scopes.mem_ofList.trans (hsame s)
  rw [hs.eq hs', hend, hscopes]

/-- The key of a service account with an address for tokens. -/
def keyed : ServiceAccountKey :=
  ⟨.text "1", .text "robot@example.com", .text "key", .text "k",
    .text "https://key.example.com/token", .null⟩

/-- Two links, the second with a scope twice, from an account with an address of its own. -/
theorem chain_asserts_twice :
    ∃ c d claims a q, ofServiceAccount keyed .main .json (.ofList ["z"])
        (.text "https://own.example.com/token") (some (.fixed (.text "k") [0, 255])) .standard =
        .ok c ∧
      [["b"], ["c", "a", "c"]].foldlM withScopes? c = some d ∧
      claims.payload = .object [("iss", .text "robot@example.com"), ("scope", .text "a c"),
        ("aud", .text "https://own.example.com/token"), ("iat", .int 1000), ("exp", .int 4600)] ∧
      Assertion.write (.fixed (.text "k") [0, 255]) claims = .ok a ∧
      d.requests { Host.empty with now := 1000.5 } = [q] ∧
      q.PostsForm (.text "https://own.example.com/token")
        [("grant_type", "urn:ietf:params:oauth:grant-type:jwt-bearer"), ("assertion", a)] ∧
      Assertion.read? a = some (Assertion.header (.text "k"), claims.payload) := by
  have hc : ofServiceAccount keyed .main .json (.ofList ["z"])
      (.text "https://own.example.com/token") (some (.fixed (.text "k") [0, 255])) .standard =
      .ok _ := rfl
  obtain ⟨d, signer, sorted, hd, hs, hp, hmem, hclaims, -⟩ :=
    chain_asserts hc [["b"], ["c", "a", "c"]]
  have hsorted : sorted = ["a", "c"] := (Scopes.eq_ofList hp hmem).trans (by decide)
  obtain ⟨claims, hpayload, hasserts⟩ := hclaims { Host.empty with now := 1000.5 } 1000 rfl
  subst hsorted
  rcases hs with hgiven | ⟨hnone, -⟩
  · cases hgiven
    obtain ⟨a, q, hwrite, hsent, hposts, hread⟩ := hasserts.posted fun _ => ⟨_, rfl⟩
    have hreadable : Json.isRenderable Json.maxDepth claims.payload = true := by
      rw [hpayload]
      decide +kernel
    exact ⟨_, d, claims, a, q, rfl, hd, hpayload, hwrite, hsent, hposts,
      hread (by decide +kernel) hreadable⟩
  · cases hnone

end Credential
end DefaultCredentials
