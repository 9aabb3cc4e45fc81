import DefaultCredentials.Credential
import DefaultCredentials.Form

/-!
# Refreshing credentials

`exchange` exchanges the material of a credential for a token and touches no slot, and `fetch`
keeps every exchange in the trace.  `Settlement.slot` turns the outcome into the new slot: a token
replaces the old one, a failure to refresh or to reach the endpoint is recorded beside it, and
anything else leaves the slot as it was and passes.  `currentToken` gives the stored token while it
is valid and refreshes first otherwise.
-/

namespace DefaultCredentials.Credential

def formRequest (url : Value) (fields : List (String × Value)) (settings : Settings) : Request where
  method := "POST"
  url := url
  headers := some [("Content-Type", "application/x-www-form-urlencoded")]
  body := some (Form.encode fields)
  timeout := some settings.requestTimeout

/-- The headers that the metadata server wants and gives. -/
def metadataHeaders : List (String × String) :=
  [("Metadata-Flavor", "Google")]

/-- The request for the token of the machine. -/
def computeRequest (settings : Settings) : Request where
  method := "GET"
  url := .text (computeTokenUrl settings)
  headers := some metadataHeaders
  body := none
  timeout := some settings.requestTimeout

/-- The form of a user's grant. -/
def grantFields (grant : UserGrant) : List (String × Value) :=
  [("grant_type", .text "refresh_token"), ("client_id", grant.clientId),
    ("client_secret", grant.clientSecret), ("refresh_token", grant.refreshToken)]

def assertionFields (assertion : String) : List (String × Value) :=
  [("grant_type", .text "urn:ietf:params:oauth:grant-type:jwt-bearer"),
    ("assertion", .text assertion)]

def assertion (key : ServiceAccountKey) (tokenUri : Value) (signer : Signer) (scopes : Scopes)
    (now : Float) : Except Raised String :=
  match Number.truncate now with
  | .error why => .error (.trouble (.notWhole why))
  | .ok issuedAt =>
    Assertion.write signer
      { issuer := key.clientEmail, scope := " ".intercalate scopes, audience := tokenUri
        issuedAt := issuedAt }

/-- The token in an answer, with the clock as it stands. -/
def tokenOf (c : Credential) (scopes : Scopes) (now : Float) (answer : Answer) :
    Except Raised Token :=
  match answer with
  | .error why => .error why
  | .ok r => Token.ofResponse r c.decoder scopes now

/-- The token that an identity service gives. -/
def tokenOfIdentity (scopes : Scopes) : Option IdentityAnswer → Except Raised Token
  | none => .error (.trouble .serviceAbsent)
  | some (.token accessToken expiresAt) =>
    expiresAt.toFloat.map fun expiry => ⟨accessToken, some expiry, scopes⟩
  | some (.refused text) =>
    .error (.because
      (.refreshFailed (.text ("App Identity service failed: " ++ text)) .null)
      (.trouble (.reported .other "Error" text)))
  | some (.raised why) => .error why

/-- What a custom exchange raises when no outcome is left. -/
def exhausted (h : Host) : Raised :=
  .failure (.refreshFailed (.text h.silence.exchange) .null)

/-- Posts a form for a token.  What cannot be encoded is not sent. -/
def post (c : Credential) (url : Value) (fields : List (String × Value)) (h : Host) :
    Answer × Host :=
  match Form.ragged? fields with
  | some text => (.error (.trouble (.unencodable text)), h)
  | none => h.send c.channel (formRequest url fields c.settings)

/-- Exchanges the material of a credential for a token. -/
def exchange (c : Credential) (h : Host) : Except Raised Token × Credential × Host :=
  match c.material with
  | .serviceAccount key uri signer =>
    match assertion key uri signer c.scopes h.now with
    | .error why => (.error why, c, h)
    | .ok a =>
      let (answer, h) := c.post uri (assertionFields a) h
      (c.tokenOf c.scopes h.now answer, c, h)
  | .user grant uri =>
    let (answer, h) := c.post uri (grantFields grant) h
    (c.tokenOf [] h.now answer, c, h)
  | .compute =>
    let (answer, h) := h.send c.channel (computeRequest c.settings)
    (c.tokenOf [] h.now answer, c, h)
  | .appIdentity =>
    let (answer, h) := h.askIdentity c.scopes
    (tokenOfIdentity c.scopes answer, c, h)
  | .custom kind label exchanges =>
    match exchanges with
    | [] => (.error (exhausted h), c, h)
    | outcome :: rest => (outcome, { c with material := .custom kind label rest }, h)

/-- An exchange that the trace keeps, with the clock and what it came to. -/
def fetch (c : Credential) (h : Host) : Except Raised Token × Credential × Host :=
  let (outcome, c, h) := c.exchange h
  (outcome, c, h.note (.exchanged h.now outcome))

/-- What an exchange comes to. -/
inductive Settlement
  | stored (t : Token)
  | recorded (failure : Raised)
  | passed (why : Raised)

namespace Settlement

/-- Judges the outcome of an exchange. -/
def of : Except Raised Token → Settlement
  | .ok t => stored t
  | .error why =>
    if why.kind? = some .refreshFailed then recorded why
    else if why.kind? = some .transport then
      recorded (.because
        (.refreshFailed (.text ("Token exchange failed: " ++ why.text)) .null) why)
    else passed why

theorem of_eq_stored {outcome : Except Raised Token} {t : Token} (h : of outcome = stored t) :
    outcome = .ok t := by
  unfold of at h
  split at h
  · cases h; rfl
  · split at h
    · cases h
    · split at h <;> cases h

def slot (s : Slot) : Settlement → Slot
  | stored t => ⟨some t, none⟩
  | recorded failure => ⟨s.token, some failure⟩
  | passed _ => s

end Settlement

/-- Gets a new token.  The answer is whether one was stored; a failure is recorded in the slot. -/
def refresh (c : Credential) (h : Host) : Except Raised Bool × Credential × Host :=
  let (outcome, c, h) := c.fetch h
  let settled := Settlement.of outcome
  let c := { c with slot := settled.slot c.slot }
  match settled with
  | .stored t =>
    match t.expiresIn h.now with
    | .ok seconds => (.ok true, c, h.log (.tokenRefreshed c.kind seconds))
    | .error why => (.error why, c, h)
  | .recorded failure => (.ok false, c, h.log (.tokenRefreshFailed c.kind failure.text))
  | .passed why => (.error why, c, h)

/-- The access token in a slot after a refresh that stored one. -/
def storedToken (c : Credential) : Except Raised Value :=
  match c.slot.token with
  | some t => .ok t.accessToken
  | none => .error (.trouble .nothingResolved)

/-- The failure in a slot after a refresh that recorded one, as a copy. -/
def recordedFailure (c : Credential) : Raised :=
  match c.slot.lastFailure with
  | some failure => failure.replay
  | none => .trouble .nothingResolved

/-- A valid access token, refreshed first if need be. -/
def currentToken (c : Credential) (h : Host) : Except Raised Value × Credential × Host :=
  match c.slot.current? h.now with
  | some t => (.ok t.accessToken, c, h)
  | none =>
    match c.refresh h with
    | (.ok true, c, h) => (c.storedToken, c, h)
    | (.ok false, c, h) => (.error c.recordedFailure, c, h)
    | (.error why, c, h) => (.error why, c, h)

/-- The value of the header that carries an access token. -/
def bearer (accessToken : Value) : String :=
  "Bearer " ++ accessToken.plain

/-- Sets the header that carries a valid access token. -/
def apply (c : Credential) (headers : List (String × String)) (h : Host) :
    Except Raised (List (String × String)) × Credential × Host :=
  match c.currentToken h with
  | (.ok token, c, h) => (.ok (Entries.put headers "Authorization" (bearer token)), c, h)
  | (.error why, c, h) => (.error why, c, h)

/-! ### Laws -/

theorem post_of_ragged {c : Credential} {fields : List (String × Value)} {text : Text.Ragged}
    (hf : Form.ragged? fields = some text) (url : Value) (h : Host) :
    c.post url fields h = (.error (.trouble (.unencodable text)), h) := by
  rw [post, hf]

theorem post_of_encodable {c : Credential} {fields : List (String × Value)}
    (hf : Form.ragged? fields = none) (url : Value) (h : Host) :
    c.post url fields h = h.send c.channel (formRequest url fields c.settings) := by
  rw [post, hf]

theorem post_assertionFields (c : Credential) (url : Value) (a : String) (h : Host) :
    c.post url (assertionFields a) h =
      h.send c.channel (formRequest url (assertionFields a) c.settings) :=
  post_of_encodable rfl url h

theorem slot_fetch (c : Credential) (h : Host) : (c.fetch h).2.1.slot = c.slot := by
  simp only [fetch]
  unfold exchange
  split <;> try rfl
  · split <;> rfl
  · split <;> rfl

theorem credential_refresh (c : Credential) (h : Host) : (c.refresh h).2.1 =
    { (c.fetch h).2.1 with slot := (Settlement.of (c.fetch h).1).slot c.slot } := by
  unfold refresh
  rw [← slot_fetch c h]
  dsimp only
  split
  · split <;> rfl
  · rfl
  · rfl

/-- The slot after a refresh is settled by the outcome of the exchange. -/
theorem slot_refresh (c : Credential) (h : Host) :
    (c.refresh h).2.1.slot = (Settlement.of (c.fetch h).1).slot c.slot := by
  rw [credential_refresh]

theorem currentToken_of_valid {c : Credential} {h : Host} {t : Token}
    (ht : c.slot.current? h.now = some t) : c.currentToken h = (.ok t.accessToken, c, h) := by
  simp [currentToken, ht]

end DefaultCredentials.Credential
