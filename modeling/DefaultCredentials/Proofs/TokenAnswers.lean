import DefaultCredentials.Proofs.Lifecycle
import DefaultCredentials.Proofs.NestingLimit

/-!
# What an endpoint may answer

A credential that asks an endpoint for its token takes any answer.  `Token.IsUnusable` lists what
no token can be made of: no answer at all, a status that does not tell of success, a body that is
no JSON document, no object or without an access token, and a lifetime that gives no expiry.  A
refresh is to say so, to keep the token that there was and to record the failure.

`Credential.refresh_answered` says that it does, and where it does not.  Three answers raise what
is no failure of the library: a document that nests too deep and a whole number that is no double,
before anything is stored (`Token.Passes`), and an expiry at no finite distance from the clock, when
the token is stored already (`Token.IsUnbounded`).
-/

namespace DefaultCredentials

theorem Number.truncate_of_not_isFinite {x : Float} (hx : ¬ Number.IsFinite x) :
    ∃ why, Number.truncate x = .error why := by
  unfold Number.truncate
  cases hp : Number.parts x with
  | finite negative mantissa exponent => exact absurd ⟨negative, mantissa, exponent, hp⟩ hx
  | infinite negative => exact ⟨_, rfl⟩
  | notANumber => exact ⟨_, rfl⟩

/-- A value is a number, or a whole number that is too large for one, or nothing of the kind. -/
theorem Value.toFloat_cases (v : Value) :
    (∃ x, v.toFloat = .ok x) ∨
    (∃ i, v = .int i ∧ Number.ofInt? i = none ∧ v.toFloat = .error (.trouble .wholeTooLarge)) ∨
    v.toFloat = .error (.trouble (.notNumeric v)) := by
  cases v with
  | null => exact .inr (.inr rfl)
  | bool b => exact .inl ⟨_, rfl⟩
  | int i =>
      cases hi : Number.ofInt? i with
      | some x => exact .inl ⟨x, by simp [toFloat, hi]⟩
      | none => exact .inr (.inl ⟨i, rfl, hi, by simp [toFloat, hi]⟩)
  | float x => exact .inl ⟨x, rfl⟩
  | text s =>
      cases hs : Number.ofText? s with
      | some x => exact .inl ⟨x, by simp [toFloat, hs]⟩
      | none => exact .inr (.inr (by simp [toFloat, hs]))
  | ragged r => exact .inr (.inr rfl)
  | list items => exact .inr (.inr rfl)
  | object members => exact .inr (.inr rfl)

/-- The status that a raised failure reports. -/
def Raised.status? (r : Raised) : Option Value :=
  r.failure?.bind fun f => f.attributes.lookup "status"

theorem TokenDefect.status_raise (d : TokenDefect) : d.raise.status? = some d.status? := by
  cases d <;> rfl

namespace Token

/-- A stated lifetime of which an expiry can be made: none, or a number that leads to a finite
distance from the clock. -/
def IsLifetime (stated : Value) (now : Float) : Prop :=
  stated = .null ∨ ∃ x, stated.toFloat = .ok x ∧ Number.IsFinite (now + x - now)

/-- A successful answer with an access token among the members of its document. -/
def Offers (a : Response) (members : List (String × Value)) : Prop :=
  a.isSuccess = true ∧ Decoder.IsDocument a.body (.object members) ∧
    (Value.member members "access_token").isGiven = true

/-- An answer that no token can be made of, with the status to be reported. -/
inductive IsUnusable (now : Float) : Answer → Value → Prop
  | unreachable {why : Raised} : why.kind? = some .transport → IsUnusable now (.error why) .null
  | status {a : Response} : a.isSuccess = false → IsUnusable now (.ok a) (.int a.status)
  | undecodable {a : Response} : a.isSuccess = true → (∀ v, ¬ Decoder.IsDocument a.body v) →
      IsUnusable now (.ok a) .null
  | notObject {a : Response} {v : Value} : a.isSuccess = true → Decoder.IsDocument a.body v →
      (∀ members, v ≠ .object members) → IsUnusable now (.ok a) .null
  | tokenless {a : Response} {members : List (String × Value)} : a.isSuccess = true →
      Decoder.IsDocument a.body (.object members) →
      (Value.member members "access_token").isGiven = false → IsUnusable now (.ok a) .null
  | lifetime {a : Response} {members : List (String × Value)} : Offers a members →
      ¬ IsLifetime (Value.member members "expires_in") now → IsUnusable now (.ok a) .null

/-- An answer that raises what is no failure of the library before a token is made of it. -/
inductive Passes : Answer → Prop
  | tooDeep {a : Response} : a.isSuccess = true → Decoder.IsTooDeep a.body → Passes (.ok a)
  | tooLarge {a : Response} {members : List (String × Value)} {i : Int} : Offers a members →
      Value.member members "expires_in" = .int i → Number.ofInt? i = none → Passes (.ok a)

/-- An answer with a lifetime that is a number and leads to no finite distance from the clock. -/
inductive IsUnbounded (now : Float) : Answer → Prop
  | mk {a : Response} {members : List (String × Value)} {x : Float} : Offers a members →
      (Value.member members "expires_in").toFloat = .ok x → ¬ Number.IsFinite (now + x - now) →
      IsUnbounded now (.ok a)

variable {a : Response} {members : List (String × Value)} {scopes : Scopes} {now : Float}
  {status : Value}

/-! ### The token in an answer -/

theorem ofResponse_of_isDocument {body : Value} (ha : a.isSuccess = true)
    (hb : Decoder.IsDocument a.body body) :
    ofResponse a .json scopes now = ofBody body scopes now := by
  simp [ofResponse, ha, Decoder.decodeOctets_of_isDocument hb]

theorem ofResponse_of_offers (ho : Offers a members) :
    ofResponse a .json scopes now =
      (expiry (Value.member members "expires_in") now).map fun expiresAt =>
        ⟨Value.member members "access_token", expiresAt, scopes⟩ := by
  obtain ⟨ha, hb, hgiven⟩ := ho
  rw [ofResponse_of_isDocument ha hb]
  simp [ofBody, hgiven]

theorem expiry_of_toFloat {stated : Value} {x : Float} (hx : stated.toFloat = .ok x) :
    expiry stated now = .ok (some (now + x)) := by
  cases stated with
  | null => cases hx
  | _ => simp only [expiry, hx]

theorem expiry_of_notNumeric {stated : Value}
    (hx : stated.toFloat = .error (.trouble (.notNumeric stated))) (hn : stated ≠ .null) :
    expiry stated now =
      .error (TokenDefect.lifetime stated (.trouble (.notNumeric stated))).raise := by
  cases stated with
  | null => exact absurd rfl hn
  | _ =>
      simp only [expiry, hx]
      rfl

theorem ofResponse_of_toFloat {x : Float} (ho : Offers a members)
    (hx : (Value.member members "expires_in").toFloat = .ok x) :
    ofResponse a .json scopes now =
      .ok ⟨Value.member members "access_token", some (now + x), scopes⟩ := by
  rw [ofResponse_of_offers ho, expiry_of_toFloat hx]
  rfl

/-- Of a usable answer a token is made whose time left can be told. -/
theorem ofResponse_of_usable (scopes : Scopes) (hu : ∀ status, ¬ IsUnusable now (.ok a) status) :
    ∃ members t, Offers a members ∧ ofResponse a .json scopes now = .ok t ∧
      t.accessToken = Value.member members "access_token" ∧
      ∃ seconds, t.expiresIn now = .ok seconds := by
  have ha : a.isSuccess = true := by
    cases hs : a.isSuccess with
    | true => rfl
    | false => exact absurd (.status hs) (hu _)
  obtain ⟨v, hv⟩ : ∃ v, Decoder.IsDocument a.body v :=
    Classical.byContradiction fun hn => hu _ (.undecodable ha fun v hv => hn ⟨v, hv⟩)
  obtain ⟨members, rfl⟩ : ∃ members, v = .object members :=
    Classical.byContradiction fun hn => hu _ (.notObject ha hv fun members he => hn ⟨members, he⟩)
  have ho : Offers a members := by
    refine ⟨ha, hv, ?_⟩
    cases hg : (Value.member members "access_token").isGiven with
    | true => rfl
    | false => exact absurd (.tokenless ha hv hg) (hu _)
  have hl : IsLifetime (Value.member members "expires_in") now :=
    Classical.byContradiction fun hn => hu _ (.lifetime ho hn)
  rcases hl with hnull | ⟨x, hx, hfinite⟩
  · refine ⟨members, ⟨Value.member members "access_token", none, scopes⟩, ho, ?_, rfl, none, rfl⟩
    rw [ofResponse_of_offers ho, hnull]
    rfl
  · refine ⟨members, _, ho, ofResponse_of_toFloat ho hx, rfl, ?_⟩
    obtain ⟨n, hn⟩ := Number.truncate_of_isFinite hfinite
    exact ⟨some (max 0 n), by simp [expiresIn, hn]⟩

/-- Of an unusable answer no token is made, and the defect has the status to be reported, unless
something else is raised. -/
theorem ofResponse_of_isUnusable (scopes : Scopes) (hu : IsUnusable now (.ok a) status)
    (hp : ¬ Passes (.ok a)) (hb : ¬ IsUnbounded now (.ok a)) :
    ∃ d : TokenDefect, ofResponse a .json scopes now = .error d.raise ∧ d.status? = status := by
  cases hu with
  | status ha => exact ⟨_, by simp [ofResponse, ha]; rfl, rfl⟩
  | undecodable ha hv =>
      have hd : ¬ Decoder.IsTooDeep a.body := fun hd => hp (.tooDeep ha hd)
      obtain ⟨why, hwhy, hof⟩ := Decoder.decodeOctets_of_not hv hd
      exact ⟨.undecodable why, by simp [ofResponse, ha, hwhy, hof], rfl⟩
  | notObject ha hv hne =>
      refine ⟨.absent, ?_, rfl⟩
      rw [ofResponse_of_isDocument ha hv]
      unfold ofBody
      split
      · exact absurd rfl (hne _)
      · rfl
  | tokenless ha hv hn =>
      refine ⟨.absent, ?_, rfl⟩
      rw [ofResponse_of_isDocument ha hv]
      simp [ofBody, hn]
  | @lifetime _ members ho hl =>
      rcases (Value.member members "expires_in").toFloat_cases with
        ⟨x, hx⟩ | ⟨i, hi, hnone, -⟩ | hx
      · refine absurd (.mk ho hx fun hfinite => ?_) hb
        exact hl (.inr ⟨x, hx, hfinite⟩)
      · exact absurd (.tooLarge ho hi hnone) hp
      · have he : expiry _ now = _ := expiry_of_notNumeric hx fun hnull => hl (.inl hnull)
        refine ⟨.lifetime (Value.member members "expires_in")
          (.trouble (.notNumeric (Value.member members "expires_in"))), ?_, rfl⟩
        rw [ofResponse_of_offers ho, he]
        rfl

theorem ofResponse_of_passes (scopes : Scopes) (now : Float) (hp : Passes (.ok a)) :
    ∃ trouble, ofResponse a .json scopes now = .error (.trouble trouble) := by
  cases hp with
  | tooDeep ha hd =>
      obtain ⟨k, hk⟩ := Decoder.decodeOctets_of_isTooDeep hd
      have hof : (Raised.trouble (.json (.nesting k))).isOf .value = false := rfl
      exact ⟨.json (.nesting k), by simp [ofResponse, ha, hk, hof]⟩
  | tooLarge ho hi hn =>
      refine ⟨.wholeTooLarge, ?_⟩
      rw [ofResponse_of_offers ho, hi]
      simp [expiry, Value.toFloat, hn]
      rfl

theorem ofResponse_of_isUnbounded (scopes : Scopes) (hb : IsUnbounded now (.ok a)) :
    ∃ members t, Offers a members ∧ ofResponse a .json scopes now = .ok t ∧
      t.accessToken = Value.member members "access_token" ∧
      ∃ trouble, t.expiresIn now = .error (.trouble trouble) := by
  cases hb with
  | mk ho hx hn =>
      obtain ⟨why, hw⟩ := Number.truncate_of_not_isFinite hn
      exact ⟨_, _, ho, ofResponse_of_toFloat ho hx, rfl, .notWhole why, by simp [expiresIn, hw]⟩

end Token

namespace Credential

variable {c : Credential} {h : Host} {q : Request} {t : Token} {why : Raised}

/-- A credential that asks an endpoint for its token, with the request that it asks with.  A user
asks if there is a form of the grant, and a service account once it has signed. -/
inductive Asks (c : Credential) (h : Host) : Request → Prop
  | user {grant : UserGrant} {uri : Value} : c.material = .user grant uri →
      Form.ragged? (grantFields grant) = none →
      Asks c h (formRequest uri (grantFields grant) c.settings)
  | compute : c.material = .compute → Asks c h (computeRequest c.settings)
  | serviceAccount {key : ServiceAccountKey} {uri : Value} {signer : Signer} {signed : String} :
      c.material = .serviceAccount key uri signer →
      assertion key uri signer c.scopes h.now = .ok signed →
      Asks c h (formRequest uri (assertionFields signed) c.settings)

/-- What is exchanged is what the answer of the endpoint is made into. -/
theorem Asks.fetch (hq : c.Asks h q) :
    ∃ scopes, (c.fetch h).1 = c.tokenOf scopes h.now (h.send c.channel q).1 := by
  cases hq with
  | user hm hf => exact ⟨[], by simp [Credential.fetch, exchange, hm, post_of_encodable hf]⟩
  | compute hm => exact ⟨[], by simp [Credential.fetch, exchange, hm]⟩
  | serviceAccount hm ha =>
      exact ⟨c.scopes, by simp [Credential.fetch, exchange, hm, ha, post_assertionFields]⟩

/-! ### A refresh by what was exchanged -/

theorem refresh_of_token (ht : (c.fetch h).1 = .ok t) :
    (c.refresh h).1 = (t.expiresIn h.now).map (fun _ => true) ∧
      (c.refresh h).2.1.slot = ⟨some t, none⟩ := by
  rw [refresh_answer, slot_refresh, ht]
  exact ⟨rfl, rfl⟩

theorem refresh_of_refreshFailed (hf : (c.fetch h).1 = .error why)
    (hk : why.kind? = some .refreshFailed) :
    (c.refresh h).1 = .ok false ∧ (c.refresh h).2.1.slot = ⟨c.slot.token, some why⟩ := by
  rw [refresh_answer, slot_refresh, hf]
  simp [Settlement.of, Settlement.slot, hk]

theorem refresh_of_transport (hf : (c.fetch h).1 = .error why)
    (hk : why.kind? = some .transport) :
    (c.refresh h).1 = .ok false ∧ (c.refresh h).2.1.slot = ⟨c.slot.token, some (.because
      (.refreshFailed (.text ("Token exchange failed: " ++ why.text)) .null) why)⟩ := by
  rw [refresh_answer, slot_refresh, hf]
  simp [Settlement.of, Settlement.slot, hk]

theorem refresh_of_trouble {trouble : Trouble} (hf : (c.fetch h).1 = .error (.trouble trouble)) :
    (c.refresh h).1 = .error (.trouble trouble) ∧ (c.refresh h).2.1.slot = c.slot := by
  rw [refresh_answer, slot_refresh, hf]
  exact ⟨rfl, rfl⟩

/-- A user asks nobody where there is no form of the grant: a refresh raises what keeps the grant
from being encoded, and leaves the token and the last failure. -/
theorem refresh_of_ragged {grant : UserGrant} {uri : Value} {text : Text.Ragged}
    (hm : c.material = .user grant uri) (hf : Form.ragged? (grantFields grant) = some text) :
    (c.refresh h).1 = .error (.trouble (.unencodable text)) ∧ (c.refresh h).2.1.slot = c.slot := by
  refine refresh_of_trouble ?_
  simp only [Credential.fetch, exchange, hm, post_of_ragged hf]
  rfl

/-! ### A refresh by what was answered -/

/-- What a refresh is to leave of an answer that no token can be made of: the token that there was,
and a failure to refresh that reports the status. -/
def Records (c : Credential) (slot : Slot) (status : Value) : Prop :=
  ∃ failure, slot = ⟨c.slot.token, some failure⟩ ∧ failure.kind? = some .refreshFailed ∧
    failure.status? = some status

/-- What a refresh is to leave of an answer that offers an access token: a token with it, and no
failure. -/
def Stores (answer : Answer) (slot : Slot) : Prop :=
  ∃ a members t, answer = .ok a ∧ Token.Offers a members ∧
    t.accessToken = Value.member members "access_token" ∧ slot = ⟨some t, none⟩

theorem fetch_of_error (hq : c.Asks h q) (ha : (h.send c.channel q).1 = .error why) :
    (c.fetch h).1 = .error why := by
  obtain ⟨scopes, hf⟩ := hq.fetch
  rw [hf, ha, tokenOf]

section answered

variable (hd : c.decoder = .json) (hq : c.Asks h q)
include hd hq

theorem fetch_of_answer {a : Response} (ha : (h.send c.channel q).1 = .ok a) :
    ∃ scopes, (c.fetch h).1 = Token.ofResponse a .json scopes h.now := by
  obtain ⟨scopes, hf⟩ := hq.fetch
  exact ⟨scopes, by rw [hf, ha, tokenOf, hd]⟩

theorem refresh_of_isUnusable {status : Value}
    (hu : Token.IsUnusable h.now (h.send c.channel q).1 status)
    (hp : ¬ Token.Passes (h.send c.channel q).1)
    (hb : ¬ Token.IsUnbounded h.now (h.send c.channel q).1) :
    (c.refresh h).1 = .ok false ∧ c.Records (c.refresh h).2.1.slot status := by
  generalize ha : (h.send c.channel q).1 = answer at hu hp hb
  cases answer with
  | error why =>
      cases hu with
      | unreachable hk =>
          obtain ⟨hanswer, hslot⟩ := refresh_of_transport (fetch_of_error hq ha) hk
          exact ⟨hanswer, _, hslot, rfl, rfl⟩
  | ok a =>
      obtain ⟨scopes, hf⟩ := fetch_of_answer hd hq ha
      obtain ⟨d, hr, hs⟩ := Token.ofResponse_of_isUnusable scopes hu hp hb
      rw [hr] at hf
      obtain ⟨hanswer, hslot⟩ := refresh_of_refreshFailed hf d.kind_raise
      exact ⟨hanswer, _, hslot, d.kind_raise, hs ▸ d.status_raise⟩

theorem refresh_of_passes (hp : Token.Passes (h.send c.channel q).1) :
    ∃ trouble, (c.refresh h).1 = .error (.trouble trouble) ∧
      (c.refresh h).2.1.slot = c.slot := by
  generalize ha : (h.send c.channel q).1 = answer at hp
  cases answer with
  | error why => cases hp
  | ok a =>
      obtain ⟨scopes, hf⟩ := fetch_of_answer hd hq ha
      obtain ⟨trouble, hr⟩ := Token.ofResponse_of_passes scopes h.now hp
      exact ⟨trouble, refresh_of_trouble (hf.trans hr)⟩

theorem refresh_of_isUnbounded (hb : Token.IsUnbounded h.now (h.send c.channel q).1) :
    ∃ trouble, (c.refresh h).1 = .error (.trouble trouble) ∧
      Stores (h.send c.channel q).1 (c.refresh h).2.1.slot := by
  generalize ha : (h.send c.channel q).1 = answer at hb
  cases answer with
  | error why => cases hb
  | ok a =>
      obtain ⟨scopes, hf⟩ := fetch_of_answer hd hq ha
      obtain ⟨members, t, ho, hr, ht, trouble, hx⟩ :=
        Token.ofResponse_of_isUnbounded scopes hb
      obtain ⟨hanswer, hslot⟩ := refresh_of_token (hf.trans hr)
      exact ⟨trouble, by rw [hanswer, hx]; rfl, a, members, t, rfl, ho, ht, hslot⟩

theorem refresh_of_usable
    (ht : ∀ why, (h.send c.channel q).1 = .error why → why.kind? = some .transport)
    (hu : ∀ status, ¬ Token.IsUnusable h.now (h.send c.channel q).1 status) :
    (c.refresh h).1 = .ok true ∧ Stores (h.send c.channel q).1 (c.refresh h).2.1.slot := by
  generalize ha : (h.send c.channel q).1 = answer at ht hu
  cases answer with
  | error why => exact absurd (.unreachable (ht why rfl)) (hu _)
  | ok a =>
      obtain ⟨scopes, hf⟩ := fetch_of_answer hd hq ha
      obtain ⟨members, t, ho, hr, ht, seconds, hx⟩ :=
        Token.ofResponse_of_usable scopes hu
      obtain ⟨hanswer, hslot⟩ := refresh_of_token (hf.trans hr)
      exact ⟨by rw [hanswer, hx]; rfl, a, members, t, rfl, ho, ht, hslot⟩

end answered

/-- **A refresh takes any answer, but for three.**  Of a credential that asks an endpoint, whatever
it holds and whatever is answered: a refresh says whether it stored a token, exactly if the answer
is none of those that pass or lead to no expiry.  An answer that no token can be made of is then
recorded beside the token that there was, with the status if this does not tell of success; of any
other answer the token is stored.  What passes leaves the slot as it was; where the expiry is at no
finite distance, the token is stored all the same. -/
theorem refresh_answered (hd : c.decoder = .json) (hq : c.Asks h q)
    (ht : ∀ why, (h.send c.channel q).1 = .error why → why.kind? = some .transport) :
    let answer := (h.send c.channel q).1
    let outcome := (c.refresh h).1
    let slot := (c.refresh h).2.1.slot
    ((∃ stored, outcome = .ok stored) ↔
      ¬ Token.Passes answer ∧ ¬ Token.IsUnbounded h.now answer) ∧
    (∀ status, Token.IsUnusable h.now answer status → ¬ Token.Passes answer →
      ¬ Token.IsUnbounded h.now answer → outcome = .ok false ∧ c.Records slot status) ∧
    ((∀ status, ¬ Token.IsUnusable h.now answer status) →
      outcome = .ok true ∧ Stores answer slot) ∧
    (Token.Passes answer →
      ∃ trouble, outcome = .error (.trouble trouble) ∧ slot = c.slot) ∧
    (Token.IsUnbounded h.now answer →
      ∃ trouble, outcome = .error (.trouble trouble) ∧ Stores answer slot) := by
  intro answer outcome slot
  have hpasses := refresh_of_passes hd hq
  have hunbounded := refresh_of_isUnbounded hd hq
  have hunusable (status : Value) (hu : Token.IsUnusable h.now answer status) :=
    refresh_of_isUnusable hd hq hu
  have husable := refresh_of_usable hd hq ht
  refine ⟨⟨fun ⟨stored, ho⟩ => ⟨fun hp => ?_, fun hb => ?_⟩, fun ⟨hp, hb⟩ => ?_⟩,
    hunusable, husable, hpasses, hunbounded⟩
  · obtain ⟨trouble, he, -⟩ := hpasses hp
    cases ho.symm.trans he
  · obtain ⟨trouble, he, -⟩ := hunbounded hb
    cases ho.symm.trans he
  · by_cases hu : ∃ status, Token.IsUnusable h.now answer status
    · obtain ⟨status, hu⟩ := hu
      exact ⟨false, (hunusable status hu hp hb).1⟩
    · exact ⟨true, (husable fun status hs => hu ⟨status, hs⟩).1⟩

def renewing : Credential :=
  { ofCompute .main .json .standard with slot := ⟨some ⟨.text "old", none, []⟩, none⟩ }

/-- The old token outlives an endpoint that cannot be used for the time being. -/
theorem refresh_answered_unavailable :
    let h := { Host.empty with main := [.ok ⟨503, [], []⟩] }
    (renewing.refresh h).1 = .ok false ∧
    ∃ failure, (renewing.refresh h).2.1.slot = ⟨some ⟨.text "old", none, []⟩, some failure⟩ ∧
      failure.kind? = some .refreshFailed ∧ failure.status? = some (.int 503) := by
  intro h
  have ht : ∀ why, (h.send renewing.channel (computeRequest .standard)).1 = .error why →
      why.kind? = some .transport := fun why he => by cases he
  have hu : Token.IsUnusable h.now (.ok ⟨503, [], []⟩) (.int 503) := .status rfl
  have hp : ¬ Token.Passes (.ok ⟨503, [], []⟩) := by
    rintro (⟨hs, -⟩ | ⟨⟨hs, -⟩, -, -⟩) <;> cases hs
  have hb : ¬ Token.IsUnbounded h.now (.ok ⟨503, [], []⟩) := by
    rintro ⟨⟨hs, -⟩, -, -⟩
    cases hs
  exact (refresh_answered (c := renewing) rfl (.compute rfl) ht).2.1 _ hu hp hb

def endless : String :=
  "\x7b\"access_token\": \"t\", \"expires_in\": Infinity\x7d"

theorem read_endless : Json.read endless =
    .ok (.object
      [("access_token", .text "t"), ("expires_in", .float (Number.infinity false))]) := by
  simp [Json.read, endless, Json.readDocument, Json.readValue, Json.readMembers, Json.readText,
    Json.skip, Json.isBlank, Json.readScalar, Json.words, Json.maxDepth, Except.map, Entries.put]
  rfl

/-- A metadata server that gives a token for such a lifetime. -/
def unending : Host :=
  { Host.empty with main := [.ok ⟨200, [], Utf8.encode endless⟩] }

theorem not_isFinite_infinity : ¬ Number.IsFinite (0.0 + Number.infinity false - 0.0) := by
  rintro ⟨negative, mantissa, exponent, hp⟩
  have hparts : Number.parts (0.0 + Number.infinity false - 0.0) = .infinite false := rfl
  rw [hparts] at hp
  cases hp

/-- A lifetime without end gives no expiry, and a refresh raises where it is to say so. -/
theorem refresh_unending_raises :
    renewing.decoder = .json ∧ renewing.Asks unending (computeRequest .standard) ∧
    Token.IsUnusable unending.now (unending.send .main (computeRequest .standard)).1 .null ∧
    ∃ why, (renewing.refresh unending).1 = .error why := by
  have hdoc : Decoder.IsDocument (Utf8.encode endless) _ :=
    ⟨endless, Utf8.decode_encode endless, read_endless⟩
  have ho : Token.Offers ⟨200, [], Utf8.encode endless⟩ _ := ⟨rfl, hdoc, rfl⟩
  refine ⟨rfl, .compute rfl, .lifetime ho ?_, ?_⟩
  · rintro (hnull | ⟨x, hx, hfinite⟩)
    · cases hnull
    · cases hx
      exact not_isFinite_infinity hfinite
  · obtain ⟨trouble, hr, -⟩ := refresh_of_isUnbounded (c := renewing) (h := unending) rfl
      (.compute rfl) (.mk ho rfl not_isFinite_infinity)
    exact ⟨_, hr⟩

end Credential
end DefaultCredentials
