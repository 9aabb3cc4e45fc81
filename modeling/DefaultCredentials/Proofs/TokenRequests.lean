import DefaultCredentials.Proofs.FormFields
import DefaultCredentials.Proofs.InjectedSettings

/-!
# The request for a token

A refresh sends one request at most.  `Credential.tokenRequest?` is that request, told by the
material of the credential and the clock, and `Credential.requests_eq` says that it is what a
refresh sends.

A user's grant and the assertion of a service account are posted as a form.
`Credential.refresh_forms` says that whoever gets it reads exactly the texts that it was made of,
whatever characters they have.
-/

namespace DefaultCredentials

/-- A request posts a form to an address, and these are the named texts that are read from it. -/
structure Request.PostsForm (q : Request) (url : Value) (fields : List (String × String)) :
    Prop where
  method : q.method = "POST"
  url : q.url = url
  headers : q.headers = some [("Content-Type", "application/x-www-form-urlencoded")]
  body : ∃ body, q.body = some body ∧ Form.IsAscii body ∧ Form.read body = .ok fields

namespace Credential

/-! ### What is sent -/

/-- The request that an exchange sends, if it sends one: none if there is no assertion, or no form
of the grant. -/
def tokenRequest? (c : Credential) (now : Float) : Option Request :=
  match c.material with
  | .serviceAccount key uri signer =>
    (assertion key uri signer c.scopes now).toOption.map fun a =>
      formRequest uri (assertionFields a) c.settings
  | .user grant uri =>
    match Form.ragged? (grantFields grant) with
    | some _ => none
    | none => some (formRequest uri (grantFields grant) c.settings)
  | .compute => some (computeRequest c.settings)
  | _ => none

/-- The requests that a refresh sends. -/
def requests (c : Credential) (h : Host) : List Request :=
  ((c.refresh h).2.2.since h).filterMap Happening.request?

variable (c : Credential) (h : Host)

theorem shows_tokenRequest :
    h.Shows Happening.request? (c.exchange h).2.2 (c.tokenRequest? h.now).toList := by
  have hsend (r : Request) : h.Shows Happening.request? (h.send c.channel r).2 [r] :=
    ⟨[.requested c.channel r], Host.trace_send .., rfl⟩
  cases hm : c.material with
  | serviceAccount key uri signer =>
    simp only [exchange, tokenRequest?, hm]
    cases assertion key uri signer c.scopes h.now with
    | error why => exact .refl _ h
    | ok a =>
      simp only [post_assertionFields]
      exact hsend _
  | user grant uri =>
    simp only [exchange, tokenRequest?, hm]
    cases hf : Form.ragged? (grantFields grant) with
    | some text =>
      simp only [post_of_ragged hf]
      exact .refl _ h
    | none =>
      simp only [post_of_encodable hf]
      exact hsend _
  | compute =>
    simp only [exchange, tokenRequest?, hm]
    exact hsend _
  | appIdentity =>
    simp only [exchange, tokenRequest?, hm]
    by_cases hi : h.identity.isSome
    · exact ⟨[.identityAsked c.scopes], by simp [Host.trace_askIdentity, hi], rfl⟩
    · exact ⟨[], by simp [Host.trace_askIdentity, hi], rfl⟩
  | custom kind label exchanges =>
    simp only [exchange, tokenRequest?, hm]
    split <;> exact .refl _ h

/-- **Requests.**  A refresh sends the request of its exchange and no other. -/
theorem requests_eq : c.requests h = (c.tokenRequest? h.now).toList := by
  have hfetch : h.Shows Happening.request? (c.fetch h).2.2 (c.tokenRequest? h.now).toList :=
    (shows_tokenRequest c h).note rfl
  rcases host_refresh c h with heq | ⟨e, heq⟩
  · rw [requests, heq]
    exact hfetch.filterMap_since
  · rw [requests, heq]
    exact (hfetch.note rfl).filterMap_since

/-! ### What is read from it -/

theorem postsForm_formRequest (url : Value) (settings : Settings) {fields : List (String × Value)}
    (hne : fields ≠ []) :
    (formRequest url fields settings).PostsForm url (fields.map fun f => (f.1, f.2.plain)) where
  method := rfl
  url := rfl
  headers := rfl
  body := ⟨_, rfl, Form.isAscii_encode fields, Form.read_encode hne⟩

variable {c h} {key : ServiceAccountKey} {uri : Value} {signer : Signer}

theorem posts_assertion {a : String} (hm : c.material = .serviceAccount key uri signer)
    (ha : assertion key uri signer c.scopes h.now = .ok a) :
    ∃ q, c.requests h = [q] ∧ q.PostsForm uri
      [("grant_type", "urn:ietf:params:oauth:grant-type:jwt-bearer"), ("assertion", a)] := by
  have hsent : c.requests h = [formRequest uri (assertionFields a) c.settings] := by
    simp only [requests_eq, tokenRequest?, hm, ha]
    rfl
  exact ⟨_, hsent, postsForm_formRequest uri c.settings (by simp [assertionFields])⟩

theorem requests_of_unsigned {why : Raised} (hm : c.material = .serviceAccount key uri signer)
    (ha : assertion key uri signer c.scopes h.now = .error why) : c.requests h = [] := by
  simp only [requests_eq, tokenRequest?, hm, ha]
  rfl

variable (c h)

/-- **Forms.**  The refresh of a user's credential sends one request.  It posts a form in ASCII to
the address of the credential, and what is read from this form is the kind of grant and the texts of
the grant, each under its name and in this order, whatever characters are in them.  The refresh of a
service account posts its assertion in the same way, and nothing if there is no assertion. -/
theorem refresh_forms :
    (∀ (id secret token : String) (quota uri : Value),
      c.material = .user ⟨.text id, .text secret, .text token, quota⟩ uri →
      ∃ q, c.requests h = [q] ∧ q.PostsForm uri [("grant_type", "refresh_token"),
        ("client_id", id), ("client_secret", secret), ("refresh_token", token)]) ∧
    ∀ key uri signer, c.material = .serviceAccount key uri signer →
      (∀ a, assertion key uri signer c.scopes h.now = .ok a →
        ∃ q, c.requests h = [q] ∧ q.PostsForm uri
          [("grant_type", "urn:ietf:params:oauth:grant-type:jwt-bearer"), ("assertion", a)]) ∧
      ∀ why, assertion key uri signer c.scopes h.now = .error why → c.requests h = [] := by
  refine ⟨fun id secret token quota uri hm => ?_, fun key uri signer hm => ?_⟩
  · have hsent : c.requests h = [formRequest uri
        (grantFields ⟨.text id, .text secret, .text token, quota⟩) c.settings] := by
      rw [requests_eq, tokenRequest?, hm]
      rfl
    exact ⟨_, hsent, postsForm_formRequest uri c.settings (by simp [grantFields])⟩
  · exact ⟨fun a ha => posts_assertion hm ha, fun why ha => requests_of_unsigned hm ha⟩

/-- A user whose client and secret have every mark of a form in them, and whose token has none of
its characters in ASCII. -/
def marked : Credential :=
  .ofUser ⟨.text "a&b=c", .text "%26 +\n", .text "ключ𝄞", .null⟩ .main .json .null .standard

/-- A service account that signs with a known signature. -/
def stamped : Credential :=
  .fresh (.serviceAccount
    ⟨.text "1", .text "robot@example.com", .text "key", .text "k", .null, .null⟩
    (.text "https://example.com/token") (.fixed (.text "k") [0, 255])) .main .json ["a"] .standard

/-- What is read from the forms of both. -/
theorem refresh_forms_marked :
    (∃ q, marked.requests .empty = [q] ∧
      q.PostsForm (.text "https://oauth2.googleapis.com/token")
        [("grant_type", "refresh_token"), ("client_id", "a&b=c"), ("client_secret", "%26 +\n"),
          ("refresh_token", "ключ𝄞")]) ∧
    ∃ a q, stamped.requests .empty = [q] ∧
      q.PostsForm (.text "https://example.com/token")
        [("grant_type", "urn:ietf:params:oauth:grant-type:jwt-bearer"), ("assertion", a)] := by
  refine ⟨(refresh_forms marked .empty).1 _ _ _ .null _ rfl, ?_⟩
  obtain ⟨hposted, -⟩ := (refresh_forms stamped .empty).2 _ _ _ rfl
  exact ⟨_, hposted _ rfl⟩

end Credential
end DefaultCredentials
