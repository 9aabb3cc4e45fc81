import DefaultCredentials.Proofs.TraceView
import DefaultCredentials.Resolver.Loading

/-!
# What cannot be told apart

A credential file of a user has two secrets and one of a service account has one.  Two documents are
alike if they differ in their secrets only, where every secret is a text, and a private key one that
signs.  Two hosts are alike if their files are, to all decoders in use, and if nothing else is
different but the bodies of requests in their traces.

The lemmas here follow what a host does, up to reading a credential file: on alike hosts it comes to
what is alike, and what is raised is the same.
-/

namespace DefaultCredentials

variable {α β ε : Type}

/-- Outcomes that agree: the same is raised, or what is given is related. -/
inductive Agree (R : α → α → Prop) : Except ε α → Except ε α → Prop
  | ok {a a' : α} : R a a' → Agree R (.ok a) (.ok a')
  | error (e : ε) : Agree R (.error e) (.error e)

namespace Agree

variable {R : α → α → Prop} {S : β → β → Prop} {x x' : Except ε α}

/-- Two outcomes that agree are both given or are both the same that is raised. -/
theorem split (hx : Agree R x x') :
    (∃ a a', x = .ok a ∧ x' = .ok a' ∧ R a a') ∨ ∃ e, x = .error e ∧ x' = .error e := by
  cases hx with
  | ok h => exact .inl ⟨_, _, rfl, rfl, h⟩
  | error e => exact .inr ⟨e, rfl, rfl⟩

theorem of_eq (hR : ∀ a, R a a) (hx : x = x') : Agree R x x' := by
  subst hx
  cases x with
  | ok a => exact .ok (hR a)
  | error e => exact .error e

theorem eq (hx : Agree Eq x x') : x = x' := by
  cases hx with
  | ok h => rw [h]
  | error e => rfl

theorem map {f f' : α → β} (hx : Agree R x x') (hf : ∀ a a', R a a' → S (f a) (f' a')) :
    Agree S (x.map f) (x'.map f') := by
  cases hx with
  | ok h => exact .ok (hf _ _ h)
  | error e => exact .error e

theorem bind {f f' : α → Except ε β} (hx : Agree R x x')
    (hf : ∀ a a', R a a' → Agree S (f a) (f' a')) : Agree S (x.bind f) (x'.bind f') := by
  cases hx with
  | ok h => exact hf _ _ h
  | error e => exact .error e

theorem mapError {ε' : Type} (hx : Agree R x x') (f : ε → ε') :
    Agree R (x.mapError f) (x'.mapError f) := by
  cases hx with
  | ok h => exact .ok h
  | error e => exact .error (f e)

end Agree

/-! ### Documents -/

/-- A signer that signs whatever it is given. -/
def Signer.CanSign (s : Signer) : Prop :=
  ∀ message, ∃ signature, s.sign message = .ok signature

theorem Assertion.write_of_canSign {signer : Signer} (hs : signer.CanSign) (claims : Claims) :
    ∃ a, write signer claims = .ok a := by
  obtain ⟨signature, hsigned⟩ := hs (Utf8.encode (String.ofList (signedPart signer claims)))
  simp only [write, hsigned]
  exact ⟨_, rfl⟩

/-- A private key that can be read and that signs. -/
def Signs (privateKey keyId : Value) : Prop :=
  ∃ s, Signer.ofKey privateKey keyId = .ok s ∧ s.CanSign

theorem signs_iff {privateKey keyId : Value} :
    Signs privateKey keyId ↔
      ∃ n e d, privateKey.text?.bind PrivateKey.ofText? = some (.rsa n e d) := by
  unfold Signs Signer.ofKey
  constructor
  · rintro ⟨s, hs, hcan⟩
    cases hk : privateKey.text?.bind PrivateKey.ofText? with
    | none => rw [hk] at hs; cases hs
    | some k =>
        rw [hk] at hs
        cases hs
        cases k with
        | rsa n e d => exact ⟨n, e, d, rfl⟩
        | curve =>
            obtain ⟨signature, hsigned⟩ := hcan []
            cases hsigned
  · rintro ⟨n, e, d, hk⟩
    rw [hk]
    exact ⟨_, rfl, fun message => ⟨_, rfl⟩⟩

/-- The members of a shape that are secret. -/
def FileType.secrets : FileType → List String
  | serviceAccount => ["private_key"]
  | authorizedUser => ["client_secret", "refresh_token"]

/-- What a secret may be: a text of characters that is not empty.  A text with halves of surrogate
pairs tells itself, since there is no form to post it in. -/
def Value.IsSecret (v : Value) : Prop :=
  ∃ s, v = .text s ∧ s ≠ ""

/-- A grant whose secrets are secrets. -/
structure UserGrant.IsSecret (grant : UserGrant) : Prop where
  clientSecret : grant.clientSecret.IsSecret
  refreshToken : grant.refreshToken.IsSecret

/-- Two documents that are the same, or of one shape and differing in its secrets only. -/
inductive AlikeDocuments : Value → Value → Prop
  | refl (v : Value) : AlikeDocuments v v
  | object {t : FileType} {members members' : List (String × Value)} :
      Value.member members "type" = .text t.name →
      (∀ name, name ∉ t.secrets → Value.member members' name = Value.member members name) →
      (∀ name ∈ t.secrets,
        (Value.member members name).IsSecret ∧ (Value.member members' name).IsSecret) →
      (t = .serviceAccount →
        Signs (Value.member members "private_key") (Value.member members "private_key_id") ∧
          Signs (Value.member members' "private_key") (Value.member members "private_key_id")) →
      AlikeDocuments (.object members) (.object members')

/-- What two such documents hold. -/
inductive AlikeInfos : CredentialInfo → CredentialInfo → Prop
  | serviceAccount {key : ServiceAccountKey} {other : Value} :
      Signs key.privateKey key.privateKeyId → Signs other key.privateKeyId →
      AlikeInfos (.serviceAccount key) (.serviceAccount { key with privateKey := other })
  | authorizedUser {grant : UserGrant} (secret token : Value) : grant.IsSecret →
      { grant with clientSecret := secret, refreshToken := token }.IsSecret →
      AlikeInfos (.authorizedUser grant)
        (.authorizedUser { grant with clientSecret := secret, refreshToken := token })
  | refl (info : CredentialInfo) : AlikeInfos info info

theorem Value.IsSecret.isGiven {v : Value} (hv : v.IsSecret) : v.isGiven = true := by
  obtain ⟨s, rfl, hs⟩ := hv
  rw [isGiven_text]
  simpa using hs

/-- Documents that are alike hold what is alike, or are refused for the same reason. -/
theorem agree_ofValue {v v' : Value} (hv : AlikeDocuments v v') :
    Agree AlikeInfos (CredentialInfo.ofValue v) (CredentialInfo.ofValue v') := by
  cases hv with
  | refl v => exact .of_eq .refl rfl
  | @object t members members' htype hpublic hsecret hsigns =>
      have htype' : Value.member members' "type" = .text t.name := by
        rw [hpublic "type" (by cases t <;> decide), htype]
      -- Secrets are given in both documents, so that none of them is missing in one only.
      have hmissing : CredentialInfo.missing t members' = CredentialInfo.missing t members := by
        refine List.filter_congr fun name _ => ?_
        by_cases hname : name ∈ t.secrets
        · rw [(hsecret name hname).1.isGiven, (hsecret name hname).2.isGiven]
        · rw [hpublic name hname]
      have hgiven : (Value.text t.name).isGiven = true := by cases t <;> decide
      simp only [CredentialInfo.ofValue, htype, htype', hgiven, FileType.ofValue?_name, hmissing]
      by_cases hnone : (CredentialInfo.missing t members).isEmpty = true
      · simp only [hnone, Bool.not_true, Bool.false_eq_true, if_false, if_true]
        refine .ok ?_
        cases t with
        | serviceAccount =>
            obtain ⟨hfirst, hsecond⟩ := hsigns rfl
            simp only [CredentialInfo.ofMembers]
            rw [hpublic "client_id" (by decide), hpublic "client_email" (by decide),
              hpublic "private_key_id" (by decide), hpublic "token_uri" (by decide),
              hpublic "project_id" (by decide)]
            exact .serviceAccount hfirst hsecond
        | authorizedUser =>
            simp only [CredentialInfo.ofMembers]
            rw [hpublic "client_id" (by decide), hpublic "quota_project_id" (by decide)]
            obtain ⟨hclient, hclient'⟩ := hsecret "client_secret" (by decide)
            obtain ⟨hrefresh, hrefresh'⟩ := hsecret "refresh_token" (by decide)
            exact .authorizedUser _ _ ⟨hclient, hrefresh⟩ ⟨hclient', hrefresh'⟩
      · simp only [hnone, Bool.not_true, Bool.false_eq_true, if_false]
        exact .error _

/-! ### Files -/

/-- Octets that are the same, or that all decoders in use decode to documents that are alike. -/
inductive AlikeOctets (uses : Decoder → Prop) : List UInt8 → List UInt8 → Prop
  | refl (bytes : List UInt8) : AlikeOctets uses bytes bytes
  | documents {bytes bytes' : List UInt8} :
      (∃ text text', Decoder.textOf bytes = .ok text ∧ Decoder.textOf bytes' = .ok text') →
      (∀ d, uses d → ∃ v v', d.decodeOctets bytes = .ok v ∧ d.decodeOctets bytes' = .ok v' ∧
        AlikeDocuments v v') →
      AlikeOctets uses bytes bytes'

/-- Nodes that are the same, or files whose octets are alike. -/
inductive AlikeNodes (uses : Decoder → Prop) : Node → Node → Prop
  | refl (n : Node) : AlikeNodes uses n n
  | file {bytes bytes' : List UInt8} : AlikeOctets uses bytes bytes' →
      AlikeNodes uses (.file bytes) (.file bytes')

/-- Trees with nodes that are alike at each place. -/
def AlikeTrees (uses : Decoder → Prop) (t t' : FileTree) : Prop :=
  ∀ place, Option.Rel (AlikeNodes uses) (t.node? place) (t'.node? place)

section files

variable {uses : Decoder → Prop} {t t' : FileTree} {d : Decoder} {bytes bytes' : List UInt8}

theorem AlikeOctets.agree_textOf (hb : AlikeOctets uses bytes bytes') :
    Agree (fun _ _ => True) (Decoder.textOf bytes) (Decoder.textOf bytes') := by
  cases hb with
  | refl => exact .of_eq (fun _ => trivial) rfl
  | documents htexts _ =>
      obtain ⟨text, text', ht, ht'⟩ := htexts
      rw [ht, ht']
      exact .ok trivial

theorem AlikeOctets.agree_decodeOctets (hb : AlikeOctets uses bytes bytes') (hd : uses d) :
    Agree AlikeDocuments (d.decodeOctets bytes) (d.decodeOctets bytes') := by
  cases hb with
  | refl => exact .of_eq .refl rfl
  | documents _ hall =>
      obtain ⟨v, v', hv, hv', hvv⟩ := hall d hd
      rw [hv, hv']
      exact .ok hvv

theorem AlikeOctets.agree_parse (hb : AlikeOctets uses bytes bytes') (hd : uses d) (path : Value) :
    Agree AlikeInfos (CredentialInfo.parse bytes d path) (CredentialInfo.parse bytes' d path) := by
  unfold CredentialInfo.parse
  rcases (hb.agree_decodeOctets hd).split with ⟨v, v', hv, hv', hvv⟩ | ⟨why, hv, hv'⟩
  · rw [hv, hv']
    exact (agree_ofValue hvv).mapError _
  · rw [hv, hv']
    exact .of_eq .refl rfl

theorem AlikeTrees.node?_cases (ht : AlikeTrees uses t t') (place : List String) :
    t.node? place = none ∧ t'.node? place = none ∨
      ∃ n n', t.node? place = some n ∧ t'.node? place = some n' ∧ AlikeNodes uses n n' := by
  have hplace := ht place
  generalize t.node? place = n, t'.node? place = n' at hplace ⊢
  cases hplace with
  | none => exact .inl ⟨rfl, rfl⟩
  | some hn => exact .inr ⟨_, _, rfl, rfl, hn⟩

theorem AlikeTrees.walk_eq (ht : AlikeTrees uses t t') (place parts : List String) :
    t'.walk place parts = t.walk place parts := by
  induction parts generalizing place with
  | nil => rfl
  | cons part rest ih =>
      unfold FileTree.walk
      rcases ht.node?_cases place with ⟨hn, hn'⟩ | ⟨n, n', hn, hn', hnodes⟩
      · rw [hn, hn']
      · rw [hn, hn']
        cases hnodes with
        | file _ =>
            -- A file is in the way in both, whatever it holds.
            rfl
        | refl =>
            rcases ht.node?_cases (place ++ [part]) with ⟨hm, hm'⟩ | ⟨m, m', hm, hm', -⟩
            · simp only [hm, hm', ih]
            · simp only [hm, hm', ih]

/-- What is found in trees that are alike is alike, or the same is in the way. -/
theorem AlikeTrees.agree_find (ht : AlikeTrees uses t t') (w p : Path) :
    Agree (AlikeNodes uses) (t.find w p) (t'.find w p) := by
  have hlocate : t'.locate w p = t.locate w p := by
    unfold FileTree.locate
    simp only [ht.walk_eq]
  unfold FileTree.find
  rw [hlocate]
  cases t.locate w p with
  | error o => exact .error o
  | ok place =>
      rcases ht.node?_cases place with ⟨hn, hn'⟩ | ⟨n, n', hn, hn', hnodes⟩
      · simp only [hn, hn']
        exact .error _
      · simp only [hn, hn']
        exact .ok hnodes

theorem AlikeTrees.add (t : FileTree) (place : List String) {n n' : Node}
    (hn : AlikeNodes uses n n') : AlikeTrees uses (t.add place n) (t.add place n') := by
  have hsame (x : Option Node) : Option.Rel (AlikeNodes uses) x x := by
    cases x with
    | none => exact .none
    | some m => exact .some (.refl m)
  intro q
  simp only [FileTree.node?, FileTree.add, FileTree.set, List.lookup_cons]
  split
  · exact hsame _
  · split
    · exact .some hn
    · exact hsame _

theorem AlikeTrees.isFile_eq (ht : AlikeTrees uses t t') (w p : Path) :
    t'.isFile w p = t.isFile w p := by
  unfold FileTree.isFile
  rcases (ht.agree_find w p).split with ⟨n, n', hn, hn', hnodes⟩ | ⟨o, hn, hn'⟩
  · rw [hn, hn']
    cases hnodes <;> rfl
  · rw [hn, hn']

theorem AlikeTrees.agree_contents (ht : AlikeTrees uses t t') (w p : Path) :
    Agree (AlikeOctets uses) (t.contents w p) (t'.contents w p) := by
  unfold FileTree.contents
  rcases (ht.agree_find w p).split with ⟨n, n', hn, hn', hnodes⟩ | ⟨o, hn, hn'⟩
  · rw [hn, hn']
    cases hnodes with
    | refl => exact .of_eq .refl rfl
    | file hb => exact .ok hb
  · rw [hn, hn']
    exact .error o

end files

/-! ### Hosts -/

/-- A request without what its body says. -/
def Request.veiled (r : Request) : Request :=
  { r with body := r.body.map fun _ => [] }

/-- What can be noticed of a happening besides the body of a request. -/
def Happening.veiled : Happening → Happening
  | requested channel r => requested channel r.veiled
  | x => x

/-- Two hosts whose files are alike to the decoders in use and whose traces differ in the bodies of
requests only; all else is the same. -/
def AlikeHosts (uses : Decoder → Prop) (h h' : Host) : Prop :=
  ∃ files trace, AlikeTrees uses h.files files ∧
    trace.map Happening.veiled = h.trace.map Happening.veiled ∧
    h' = { h with files := files, trace := trace }

/-- Outcomes that agree, beside hosts that are alike. -/
structure AlikeRuns (uses : Decoder → Prop) (R : α → α → Prop)
    (x x' : Except Raised α × Host) : Prop where
  outcome : Agree R x.1 x'.1
  host : AlikeHosts uses x.2 x'.2

/-- Such outcomes are both given, and related, or are both the same that is raised. -/
theorem AlikeRuns.split {uses : Decoder → Prop} {R : α → α → Prop} {x x' : Except Raised α × Host}
    (hx : AlikeRuns uses R x x') :
    (∃ a a' h h', x = (.ok a, h) ∧ x' = (.ok a', h') ∧ R a a' ∧ AlikeHosts uses h h') ∨
      ∃ why h h', x = (.error why, h) ∧ x' = (.error why, h') ∧ AlikeHosts uses h h' := by
  obtain ⟨outcome, h⟩ := x
  obtain ⟨outcome', h'⟩ := x'
  obtain ⟨houtcome, hhost⟩ := hx
  dsimp only at houtcome hhost
  rcases houtcome.split with ⟨a, a', rfl, rfl, ha⟩ | ⟨why, rfl, rfl⟩
  · exact .inl ⟨a, a', h, h', rfl, rfl, ha, hhost⟩
  · exact .inr ⟨why, h, h', rfl, rfl, hhost⟩

namespace AlikeHosts

variable {uses : Decoder → Prop} {h h' : Host} {d : Decoder}

theorem putFile (h : Host) (p : Path) {bytes bytes' : List UInt8}
    (hb : AlikeOctets uses bytes bytes') :
    AlikeHosts uses (h.putFile p (.file bytes)) (h.putFile p (.file bytes')) :=
  ⟨_, h.trace, .add h.files _ (.file hb), rfl, rfl⟩

theorem now_eq (hh : AlikeHosts uses h h') : h'.now = h.now := by
  obtain ⟨files, trace, -, -, rfl⟩ := hh
  rfl

theorem environment_eq (hh : AlikeHosts uses h h') : h'.environment = h.environment := by
  obtain ⟨files, trace, -, -, rfl⟩ := hh
  rfl

theorem trace_eq (hh : AlikeHosts uses h h') :
    h'.trace.map Happening.veiled = h.trace.map Happening.veiled := by
  obtain ⟨files, trace, -, ht, rfl⟩ := hh
  exact ht

theorem withTrace {trace trace' : List Happening} (hh : AlikeHosts uses h h')
    (ht : trace'.map Happening.veiled = trace.map Happening.veiled) :
    AlikeHosts uses { h with trace := trace } { h' with trace := trace' } := by
  obtain ⟨files, -, hf, -, rfl⟩ := hh
  exact ⟨files, trace', hf, ht, rfl⟩

theorem noting {xs xs' : List Happening} (hh : AlikeHosts uses h h')
    (hx : xs'.map Happening.veiled = xs.map Happening.veiled) :
    AlikeHosts uses (h.noting xs) (h'.noting xs') := by
  obtain ⟨files, trace, hf, ht, rfl⟩ := hh
  exact ⟨files, xs' ++ trace, hf, by simp [Host.noting, ht, hx], rfl⟩

theorem note {x x' : Happening} (hh : AlikeHosts uses h h') (hx : x'.veiled = x.veiled) :
    AlikeHosts uses (h.note x) (h'.note x') := by
  have hnoted : [x'].map Happening.veiled = [x].map Happening.veiled := by simp [hx]
  exact hh.noting hnoted

theorem log (hh : AlikeHosts uses h h') (e : Log.Event) : AlikeHosts uses (h.log e) (h'.log e) :=
  hh.note rfl

theorem close (hh : AlikeHosts uses h h') (channel : Channel) :
    AlikeHosts uses (h.close channel) (h'.close channel) :=
  hh.note rfl

/-- Requests that differ in what their bodies say are answered alike. -/
theorem send (hh : AlikeHosts uses h h') (channel : Channel) {r r' : Request}
    (hr : r'.veiled = r.veiled) :
    ∃ answer h₁ h₁', h.send channel r = (answer, h₁) ∧ h'.send channel r' = (answer, h₁') ∧
      AlikeHosts uses h₁ h₁' := by
  obtain ⟨files, trace, hf, ht, rfl⟩ := hh
  have hnoted : (Happening.requested channel r' :: trace).map Happening.veiled =
      (Happening.requested channel r :: h.trace).map Happening.veiled := by
    simp [Happening.veiled, ht, hr]
  cases channel with
  | main =>
      unfold Host.send Host.note Host.pending Host.withPending
      dsimp only
      cases h.main with
      | nil => exact ⟨_, _, _, rfl, rfl, files, _, hf, hnoted, rfl⟩
      | cons answer rest => exact ⟨_, _, _, rfl, rfl, files, _, hf, hnoted, rfl⟩
  | api =>
      unfold Host.send Host.note Host.pending Host.withPending
      dsimp only
      cases h.api with
      | nil => exact ⟨_, _, _, rfl, rfl, files, _, hf, hnoted, rfl⟩
      | cons answer rest => exact ⟨_, _, _, rfl, rfl, files, _, hf, hnoted, rfl⟩

theorem askIdentity (hh : AlikeHosts uses h h') (scopes : Scopes) :
    ∃ answer h₁ h₁', h.askIdentity scopes = (answer, h₁) ∧
      h'.askIdentity scopes = (answer, h₁') ∧ AlikeHosts uses h₁ h₁' := by
  obtain ⟨files, trace, hf, ht, rfl⟩ := hh
  have hnoted : (Happening.identityAsked scopes :: trace).map Happening.veiled =
      (Happening.identityAsked scopes :: h.trace).map Happening.veiled := by
    simp [ht]
  rcases hi : h.identity with _ | _ | ⟨answer, rest⟩
  · simp only [Host.askIdentity, hi]
    exact ⟨_, _, _, rfl, rfl, files, trace, hf, ht, by simp [hi]⟩
  · simp only [Host.askIdentity, hi]
    exact ⟨_, _, _, rfl, rfl, files, _, hf, hnoted, by simp [Host.note, hi]⟩
  · simp only [Host.askIdentity, hi]
    exact ⟨_, _, _, rfl, rfl, files, _, hf, hnoted, rfl⟩

theorem processSettings (hh : AlikeHosts uses h h') :
    AlikeRuns uses Eq h.processSettings h'.processSettings := by
  obtain ⟨files, trace, hf, ht, rfl⟩ := hh
  cases hs : h.settings with
  | some s =>
      simp only [Host.processSettings, hs]
      exact ⟨.ok rfl, files, trace, hf, ht, by simp [hs]⟩
  | none =>
      simp only [Host.processSettings, hs]
      cases Settings.read [] h.environment with
      | ok s => exact ⟨.ok rfl, files, trace, hf, ht, rfl⟩
      | error problems => exact ⟨.error _, files, trace, hf, ht, by simp [hs]⟩

theorem settingsOr (hh : AlikeHosts uses h h') (settings : Option Settings) :
    AlikeRuns uses Eq (h.settingsOr settings) (h'.settingsOr settings) := by
  cases settings with
  | some s => exact ⟨.ok rfl, hh⟩
  | none => exact hh.processSettings

theorem seek (hh : AlikeHosts uses h h') (p : Path) :
    AlikeRuns uses Eq (h.seek p) (h'.seek p) := by
  have hfile : h'.isFile p = h.isFile p := by
    obtain ⟨files, trace, hf, -, rfl⟩ := hh
    unfold Host.isFile
    simp only [hf.isFile_eq]
  exact ⟨.of_eq (fun _ => rfl) hfile.symm, hh.note rfl⟩

theorem agree_contents (hh : AlikeHosts uses h h') (p : Path) :
    Agree (AlikeOctets uses) (h.contents p) (h'.contents p) := by
  obtain ⟨files, trace, hf, -, rfl⟩ := hh
  unfold Host.contents
  dsimp only
  split
  · exact .error _
  · rcases (hf.agree_contents h.workingDirectory p).split with
      ⟨bytes, bytes', hb, hb', hbytes⟩ | ⟨o, hb, hb'⟩
    · rw [hb, hb']
      exact .ok hbytes
    · rw [hb, hb']
      exact .error _

theorem readings_eq (hh : AlikeHosts uses h h') (p : Path) (d : Decoder) :
    h'.readings p d = h.readings p d := by
  have htext := (hh.agree_contents p).bind fun _ _ hb => hb.agree_textOf
  unfold Host.readings
  rcases htext.split with ⟨text, text', ht, ht', -⟩ | ⟨why, ht, ht'⟩
  · rw [ht, ht']
  · rw [ht, ht']

theorem agree_ofFile (hh : AlikeHosts uses h h') (hd : uses d) (p : Path) :
    Agree AlikeInfos (CredentialInfo.ofFile h p d) (CredentialInfo.ofFile h' p d) := by
  unfold CredentialInfo.ofFile
  rcases (hh.agree_contents p).split with ⟨bytes, bytes', hb, hb', hbytes⟩ | ⟨why, hb, hb'⟩
  · rw [hb, hb']
    exact hbytes.agree_parse hd _
  · rw [hb, hb']
    exact .error _

end AlikeHosts
end DefaultCredentials
