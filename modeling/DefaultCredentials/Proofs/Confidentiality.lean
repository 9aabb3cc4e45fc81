import DefaultCredentials.Main
import DefaultCredentials.Proofs.DocumentRoundTrip
import DefaultCredentials.Proofs.Lifecycle
import DefaultCredentials.Proofs.OrderedDiscovery
import DefaultCredentials.Proofs.SecretMaterial
import DefaultCredentials.Proofs.TokenAnswers
import Mathlib.Data.List.Forall2

/-!
# Confidentiality

A `Session` is a process with its resolvers, its credentials and its host.  An `Operation` resolves,
calls, binds or shows a credential, runs a command, or lets the host become another one, and a
`Sight` is what its caller gets to see.

* `AlikeSessions.perform` says what one operation does to sessions that are alike: it shows the same
  of both, and leaves them alike.
* `AlikeSessions.run` says the same of a run.
* `Session.secrets_kept` draws the conclusion: of two runs that differ in the secrets of credential
  files only, all that is shown, raised, recorded and logged is the same, and so is all that is sent
  but the bodies of requests.
* Secrets are texts of characters there.  `Session.secrets_told` shows what comes of half a
  surrogate pair in a secret, which the decoder takes and the form does not.
-/

namespace DefaultCredentials

/-! ### Calls and commands -/

namespace AlikeCredentials

variable {uses : Decoder → Prop} {c c' : Credential} {h h' : Host}

theorem call (hc : AlikeCredentials c c') (hh : AlikeHosts uses h h') (x : Call) :
    AlikeCalls uses (x.perform c h) (x.perform c' h') := by
  cases x with
  | refresh =>
      obtain ⟨hanswer, hcredential, hhost⟩ := hc.refresh hh
      exact ⟨congrArg (Except.map Reply.refreshed) hanswer, hcredential, hhost⟩
  | token =>
      obtain ⟨hanswer, hcredential, hhost⟩ := hc.currentToken hh
      exact ⟨congrArg (Except.map Reply.token) hanswer, hcredential, hhost⟩
  | apply headers =>
      obtain ⟨hanswer, hcredential, hhost⟩ := hc.apply hh headers
      exact ⟨congrArg (Except.map Reply.headers) hanswer, hcredential, hhost⟩

theorem narrow (hc : AlikeCredentials c c') (scopes : List String) :
    AlikeCredentials (Cli.narrow c scopes) (Cli.narrow c' scopes) := by
  have hvariant := hc.withScopes? scopes
  unfold Cli.narrow
  split
  · exact hc
  · generalize c.withScopes? scopes = x, c'.withScopes? scopes = x' at hvariant ⊢
    cases hvariant with
    | none => exact hc
    | some hv => exact hv

end AlikeCredentials

namespace AlikeHosts

variable {uses : Decoder → Prop} {h h' : Host}

theorem eventsOf_eq (hh : AlikeHosts uses h h') : Cli.eventsOf h' = Cli.eventsOf h := by
  have hveil (h : Host) :
      Cli.eventsOf { h with trace := h.trace.map Happening.veiled } = Cli.eventsOf h := by
    simp only [Cli.eventsOf, ← List.map_reverse, List.filterMap_map]
    refine congrArg (List.filterMap · h.trace.reverse) (funext fun x => ?_)
    cases x <;> rfl
  rw [← hveil h', ← hveil h]
  unfold Cli.eventsOf
  dsimp only
  rw [hh.trace_eq]

theorem new_eq (hh : AlikeHosts uses h h') (s : Settings) :
    Resolver.new none none none none s h' = Resolver.new none none none none s h := by
  obtain ⟨files, trace, -, -, rfl⟩ := hh
  rfl

theorem commandResolve (hh : AlikeHosts uses h h') (hj : uses .json) :
    AlikeRuns uses (fun x x' => AlikeCredentials x.1 x'.1 ∧ x'.2 = x.2) (Cli.resolve h)
      (Cli.resolve h') := by
  unfold Cli.resolve
  rcases hh.processSettings.split with
    ⟨s, _, h₁, h₁', hx, hx', rfl, hhost⟩ | ⟨why, h₁, h₁', hx, hx', hhost⟩
  · rw [hx, hx']
    dsimp only
    rw [hhost.new_eq]
    obtain ⟨outcome, r, w, w', h₂, h₂', hy, hy', hwallet, hresolved⟩ :=
      AlikeWallets.empty.resolve hhost hj (Resolver.new none none none none s h₁) .main
    rw [hy, hy']
    cases outcome with
    | error why => exact ⟨.error _, hresolved⟩
    | ok n =>
        dsimp only
        rcases hwallet.get?_cases n with ⟨hn, hn'⟩ | ⟨c, c', hn, hn', hc⟩
        · rw [hn, hn']
          exact ⟨.error _, hresolved⟩
        · rw [hn, hn']
          exact ⟨.ok ⟨hc, rfl⟩, hresolved⟩
  · rw [hx, hx']
    exact ⟨.error _, hhost⟩

theorem info (hh : AlikeHosts uses h h') (hj : uses .json) :
    AlikeRuns uses Eq (Cli.info h) (Cli.info h') := by
  unfold Cli.info
  rcases (hh.commandResolve hj).split with
    ⟨⟨c, source⟩, ⟨c', _⟩, h₁, h₁', hx, hx', ⟨hc, rfl⟩, hhost⟩ | ⟨why, h₁, h₁', hx, hx', hhost⟩
  · rw [hx, hx']
    dsimp only
    rw [hc.kind_eq, hc.display_eq]
    exact ⟨.ok rfl, hhost.close _⟩
  · rw [hx, hx']
    exact ⟨.of_eq (fun _ => rfl) rfl, hhost.close _⟩

theorem token (hh : AlikeHosts uses h h') (hj : uses .json) (scopes : Option String) :
    AlikeRuns uses Eq (Cli.token scopes h) (Cli.token scopes h') := by
  unfold Cli.token
  rcases (hh.commandResolve hj).split with
    ⟨⟨c, source⟩, ⟨c', _⟩, h₁, h₁', hx, hx', ⟨hc, rfl⟩, hhost⟩ | ⟨why, h₁, h₁', hx, hx', hhost⟩
  · rw [hx, hx']
    have hnarrow := hc.narrow (Cli.scopesOf (scopes.getD ""))
    dsimp only at hnarrow ⊢
    rw [hnarrow.needsScopes_eq]
    split
    · exact ⟨.ok rfl, hhost.close _⟩
    · obtain ⟨answer, c₂, c₂', h₂, h₂', hy, hy', -, hcalled⟩ :=
        (hnarrow.currentToken hhost).split
      rw [hy, hy']
      cases answer with
      | error why => exact ⟨.of_eq (fun _ => rfl) rfl, hcalled.close _⟩
      | ok t => exact ⟨.of_eq (fun _ => rfl) rfl, hcalled.close _⟩
  · rw [hx, hx']
    exact ⟨.of_eq (fun _ => rfl) rfl, hhost.close _⟩

/-- The program ends in the same way on arguments that do not ask for the decision about client
certificates. -/
theorem runProgram (hh : AlikeHosts uses h h') (hj : uses .json) {args : List String}
    (hargs : ∀ i, Cli.parse args = .ok i → i.command ≠ .mtls) :
    ∃ outcome choice h₁ h₁', Cli.run args none h = (outcome, choice, h₁) ∧
      Cli.run args none h' = (outcome, choice, h₁') ∧ AlikeHosts uses h₁ h₁' := by
  unfold Cli.run
  rcases hh.processSettings.split with
    ⟨s, _, h₁, h₁', hx, hx', rfl, hhost⟩ | ⟨why, h₁, h₁', hx, hx', hhost⟩
  · rw [hx, hx']
    dsimp only
    cases hp : Cli.parse args with
    | error refusal => cases refusal <;> exact ⟨_, _, _, _, rfl, rfl, hhost⟩
    | ok i =>
        dsimp only
        cases Log.Sink.make (Cli.logChoice i.choices s).json (Cli.logChoice i.choices s).level with
        | error t => exact ⟨_, _, _, _, rfl, rfl, hhost⟩
        | ok sink =>
            have hcommand : AlikeRuns uses Eq (Cli.runCommand i none h₁)
                (Cli.runCommand i none h₁') := by
              unfold Cli.runCommand
              cases hi : i.command with
              | info => exact hhost.info hj
              | token => exact hhost.token hj _
              | mtls => exact absurd hi (hargs i hp)
            exact ⟨_, _, _, _, rfl, by rw [hcommand.outcome.eq], hcommand.host⟩
  · rw [hx, hx']
    exact ⟨_, _, _, _, rfl, rfl, hhost⟩

end AlikeHosts

/-! ### Sessions -/

/-- A process: its resolvers, its credentials and its host. -/
structure Session where
  resolvers : List Resolver
  wallet : Wallet
  host : Host

/-- What is done in a process, or whatever leaves another host. -/
inductive Operation
  | resolve (resolver : Nat) (channel : Channel) (decoder : Decoder)
  | call (credential : Nat) (x : Call)
  | bind (credential : Nat) (scopes : List String)
  | display (credential : Nat)
  | command (args : List String)
  | elsewhere (h : Host)

/-- What an operation shows. -/
inductive Sight
  | resolved (outcome : Except Raised Nat)
  | replied (outcome : Except Raised Reply)
  | bound (credential : Nat)
  | displayed (text : String)
  | ended (outcome : Except Raised Cli.Result) (choice : Option Cli.LogChoice)
  | nothing

namespace Session

/-- Performs an operation.  On another host, what happened so far is still in the trace. -/
def perform (s : Session) : Operation → Sight × Session
  | .resolve k channel decoder =>
    match s.resolvers[k]? with
    | none => (.nothing, s)
    | some r =>
      let (outcome, r, w, h) := r.resolve channel decoder s.wallet s.host
      (.resolved outcome, ⟨s.resolvers.set k r, w, h⟩)
  | .call n x =>
    match s.wallet.get? n with
    | none => (.nothing, s)
    | some c =>
      let (outcome, c, h) := x.perform c s.host
      (.replied outcome, { s with wallet := s.wallet.set n c, host := h })
  | .bind n scopes =>
    let (variant, w) := s.wallet.withScopes n scopes
    (.bound variant, { s with wallet := w })
  | .display n =>
    match s.wallet.get? n with
    | none => (.nothing, s)
    | some c => (.displayed c.display, s)
  | .command args =>
    let (outcome, choice, h) := Cli.run args none s.host
    (.ended outcome choice, { s with host := h })
  | .elsewhere h => (.nothing, { s with host := { h with trace := s.host.trace } })

/-- Performs operations in turn. -/
def run (s : Session) : List Operation → List Sight × Session
  | [] => ([], s)
  | o :: rest =>
    let (sight, s) := s.perform o
    let (sights, s) := s.run rest
    (sight :: sights, s)

end Session

/-- Sessions with the same resolvers, credentials that are alike, and hosts that are. -/
structure AlikeSessions (uses : Decoder → Prop) (s s' : Session) : Prop where
  resolvers : s'.resolvers = s.resolvers
  wallet : AlikeWallets s.wallet s'.wallet
  host : AlikeHosts uses s.host s'.host

/-- The same operation with a decoder in use, or hosts to go on with that are alike.  Commands are
those that have to do with credentials. -/
inductive AlikeOperations (uses : Decoder → Prop) : Operation → Operation → Prop
  | resolve {k : Nat} {channel : Channel} {decoder : Decoder} : uses decoder →
      AlikeOperations uses (.resolve k channel decoder) (.resolve k channel decoder)
  | call {n : Nat} {x : Call} : AlikeOperations uses (.call n x) (.call n x)
  | bind {n : Nat} {scopes : List String} :
      AlikeOperations uses (.bind n scopes) (.bind n scopes)
  | display {n : Nat} : AlikeOperations uses (.display n) (.display n)
  | command {args : List String} : uses .json →
      (∀ i, Cli.parse args = .ok i → i.command ≠ .mtls) →
      AlikeOperations uses (.command args) (.command args)
  | elsewhere {h h' : Host} : AlikeHosts uses h h' →
      AlikeOperations uses (.elsewhere h) (.elsewhere h')

namespace AlikeSessions

variable {uses : Decoder → Prop} {s s' : Session} {o o' : Operation}

/-- **One operation.**  It shows the same of both sessions and leaves them alike. -/
theorem perform (hs : AlikeSessions uses s s') (ho : AlikeOperations uses o o') :
    (s'.perform o').1 = (s.perform o).1 ∧ AlikeSessions uses (s.perform o).2 (s'.perform o').2 := by
  obtain ⟨hresolvers, hwallet, hhost⟩ := hs
  cases ho with
  | @resolve k channel decoder hd =>
      unfold Session.perform
      dsimp only
      rw [hresolvers]
      cases s.resolvers[k]? with
      | none => exact ⟨rfl, hresolvers, hwallet, hhost⟩
      | some r =>
          obtain ⟨outcome, r₁, w₁, w₁', h₁, h₁', hx, hx', hw, hh⟩ :=
            hwallet.resolve hhost hd r channel
          dsimp only
          rw [hx, hx']
          exact ⟨rfl, rfl, hw, hh⟩
  | @call n x =>
      unfold Session.perform
      dsimp only
      rcases hwallet.get?_cases n with ⟨hn, hn'⟩ | ⟨c, c', hn, hn', hc⟩
      · rw [hn, hn']
        exact ⟨rfl, hresolvers, hwallet, hhost⟩
      · obtain ⟨outcome, c₁, c₁', h₁, h₁', hx, hx', hcalled, hh⟩ := (hc.call hhost x).split
        rw [hn, hn']
        dsimp only
        rw [hx, hx']
        exact ⟨rfl, hresolvers, hwallet.set n hcalled, hh⟩
  | @bind n scopes =>
      obtain ⟨hnumber, hbound⟩ := hwallet.withScopes n scopes
      exact ⟨congrArg Sight.bound hnumber, hresolvers, hbound, hhost⟩
  | @display n =>
      unfold Session.perform
      dsimp only
      rcases hwallet.get?_cases n with ⟨hn, hn'⟩ | ⟨c, c', hn, hn', hc⟩
      · rw [hn, hn']
        exact ⟨rfl, hresolvers, hwallet, hhost⟩
      · rw [hn, hn']
        dsimp only
        rw [hc.display_eq]
        exact ⟨rfl, hresolvers, hwallet, hhost⟩
  | @command args hj hargs =>
      obtain ⟨outcome, choice, h₁, h₁', hx, hx', hh⟩ := hhost.runProgram hj hargs
      unfold Session.perform
      dsimp only
      rw [hx, hx']
      exact ⟨rfl, hresolvers, hwallet, hh⟩
  | elsewhere hh => exact ⟨rfl, hresolvers, hwallet, hh.withTrace hhost.trace_eq⟩

/-- **A run.**  It shows the same of both sessions and leaves them alike. -/
theorem run {operations operations' : List Operation} (hs : AlikeSessions uses s s')
    (ho : List.Forall₂ (AlikeOperations uses) operations operations') :
    (s'.run operations').1 = (s.run operations).1 ∧
      AlikeSessions uses (s.run operations).2 (s'.run operations').2 := by
  induction ho generalizing s s' with
  | nil => exact ⟨rfl, hs⟩
  | cons hfirst _ ih =>
      obtain ⟨hsight, hafter⟩ := hs.perform hfirst
      obtain ⟨hsights, hend⟩ := ih hafter
      simp only [Session.run]
      rw [hsight, hsights]
      exact ⟨rfl, hend⟩

end AlikeSessions

namespace Session

variable {uses : Decoder → Prop} {s s' : Session} {operations operations' : List Operation}

/-- **Secrets are kept.**  Two runs that differ in the secrets of credential files only show the
same: every answer, display, output and raised failure.  What resolvers and credentials hold of
tokens and failures is the same, so is every event that is logged, and the traces differ in nothing
but what the bodies of requests say. -/
theorem secrets_kept (hs : AlikeSessions uses s s')
    (ho : List.Forall₂ (AlikeOperations uses) operations operations') :
    let e := s.run operations
    let e' := s'.run operations'
    e'.1 = e.1 ∧ e'.2.resolvers = e.2.resolvers ∧
      (∀ n, (e'.2.wallet.get? n).map (·.slot) = (e.2.wallet.get? n).map (·.slot) ∧
        (e'.2.wallet.get? n).map (·.display) = (e.2.wallet.get? n).map (·.display)) ∧
      Cli.eventsOf e'.2.host = Cli.eventsOf e.2.host ∧
      e'.2.host.trace.map Happening.veiled = e.2.host.trace.map Happening.veiled := by
  intro e e'
  obtain ⟨hsights, hresolvers, hwallet, hhost⟩ := hs.run ho
  refine ⟨hsights, hresolvers, fun n => ?_, hhost.eventsOf_eq, hhost.trace_eq⟩
  rcases hwallet.get?_cases n with ⟨hn, hn'⟩ | ⟨c, c', hn, hn', hc⟩
  · rw [hn, hn']
    exact ⟨rfl, rfl⟩
  · rw [hn, hn', Option.map_some, Option.map_some, Option.map_some, Option.map_some, hc.slot_eq,
      hc.display_eq]
    exact ⟨rfl, rfl⟩

/-- A decoder that takes the whole text for the client secret of a user. -/
def plain : Decoder where
  label := "plain"
  decode := fun text => .ok (.object [("type", .text "authorized_user"), ("client_id", .text "c"),
    ("client_secret", .text text), ("refresh_token", .text "r"), ("access_token", .text "t")])

/-- A process with a user's file, one resolver and one answer pending. -/
def holding (bytes : List UInt8) : Session where
  resolvers := [.new none none none none .standard .empty]
  wallet := .empty
  host := { Host.empty with
    environment := [(Discovery.pointerVariable, "/c")]
    main := [.ok ⟨200, [], []⟩] }.putFile (.ofText "/c") (.file bytes)

/-- With one client secret as with another a user is found, has a token, and is shown. -/
theorem secrets_kept_user :
    let operations := [.resolve 0 .main plain, .call 0 .token, .display 0]
    ((holding [0x61]).run operations).1 =
        [.resolved (.ok 0), .replied (.ok (.token (.text "t"))),
          .displayed "<UserCredential client_id='c'>"] ∧
      ((holding [0x62]).run operations).1 = ((holding [0x61]).run operations).1 := by
  intro operations
  have hsecret (text : String) (ht : text ≠ "") : (Value.text text).IsSecret := ⟨text, rfl, ht⟩
  have hdocuments : AlikeOctets (· = plain) [0x61] [0x62] := by
    refine .documents ⟨"a", "b", rfl, rfl⟩ ?_
    rintro _ rfl
    refine ⟨_, _, rfl, rfl, .object (t := .authorizedUser) rfl ?_ ?_ nofun⟩
    · intro name hname
      have hother : (name == "client_secret") = false := by
        simp only [FileType.secrets, List.mem_cons, not_or] at hname
        simpa using hname.1
      simp only [Value.member, List.lookup_cons, hother]
    · intro name hname
      simp only [FileType.secrets, List.mem_cons, List.not_mem_nil, or_false] at hname
      rcases hname with rfl | rfl
      · exact ⟨hsecret "a" (by decide), hsecret "b" (by decide)⟩
      · exact ⟨hsecret "r" (by decide), hsecret "r" (by decide)⟩
  have hsessions : AlikeSessions (· = plain) (holding [0x61]) (holding [0x62]) :=
    ⟨rfl, .empty, .putFile _ _ hdocuments⟩
  have hsame : List.Forall₂ (AlikeOperations (· = plain)) operations operations :=
    .cons (.resolve rfl) (.cons .call (.cons .display .nil))
  exact ⟨rfl, (secrets_kept hsessions hsame).1⟩

/-! ### Secrets that have no octets -/

/-- What the file of a user holds, with a client secret. -/
def userMembers (secret : Value) : List (String × Value) :=
  [("type", .text "authorized_user"), ("client_id", .text "c"), ("client_secret", secret),
    ("refresh_token", .text "r")]

def userFile (secret : Value) : List UInt8 :=
  Utf8.encode (Json.write (.object (userMembers secret)))

def userOf (secret : Value) : Credential :=
  .ofUser ⟨.text "c", secret, .text "r", .null⟩ .main .json .null .standard

/-- The first half of a pair by itself. -/
def loneHalf : Text.Ragged where
  points := [.half 0]
  hasHalf := rfl
  isJoined := rfl

theorem perform_resolve {k : Nat} {r r' : Resolver} {channel : Channel} {decoder : Decoder}
    {outcome : Except Raised Nat} {w : Wallet} {h : Host} (hk : s.resolvers[k]? = some r)
    (hr : r.resolve channel decoder s.wallet s.host = (outcome, r', w, h)) :
    s.perform (.resolve k channel decoder) =
      (.resolved outcome, ⟨s.resolvers.set k r', w, h⟩) := by
  simp only [perform, hk, hr]

theorem run_refresh {s₁ : Session} {o : Operation} {sight : Sight} {n : Nat} {c : Credential}
    (ho : s.perform o = (sight, s₁)) (hn : s₁.wallet.get? n = some c) :
    (s.run [o, .call n .refresh]).1 =
      [sight, .replied ((c.refresh s₁.host).1.map .refreshed)] := by
  have hcall : (s₁.perform (.call n .refresh)).1 =
      .replied ((c.refresh s₁.host).1.map .refreshed) := by
    simp only [perform, hn]
    rfl
  simp only [run, ho, hcall]

theorem perform_resolve_userFile {secret : Value}
    (hd : Decoder.json.decodeOctets (userFile secret) = .ok (.object (userMembers secret)))
    (hi : CredentialInfo.ofValue (.object (userMembers secret)) =
      .ok (.authorizedUser ⟨.text "c", secret, .text "r", .null⟩)) :
    ∃ r happenings, (holding (userFile secret)).perform (.resolve 0 .main .json) =
      (.resolved (.ok 0), ⟨[r], ⟨[userOf secret]⟩,
        (holding (userFile secret)).host.noting happenings⟩) := by
  generalize userFile secret = bytes at hd ⊢
  have hinfo : CredentialInfo.ofFile (holding bytes).host (.ofText "/c") .json =
      .ok (.authorizedUser ⟨.text "c", secret, .text "r", .null⟩) := by
    show CredentialInfo.ofDecoded _ (Decoder.json.decodeOctets bytes) = _
    rw [hd, CredentialInfo.ofDecoded, hi]
    rfl
  have habsolute : (holding bytes).host.absolutePath "/c" = .ofText "/c" :=
    have hpath : Path.absolute "/" "/c" = .ofText "/c" := by decide +kernel
    hpath
  have hgiven : Discovery.Given (Resolver.new none none none none .standard .empty).scope
      (holding bytes).host Discovery.pointerVariable "/c" := ⟨rfl, by decide⟩
  have hfile : (holding bytes).host.isFile ((holding bytes).host.absolutePath "/c") = .ok true := by
    rw [habsolute]
    rfl
  have hload : (Credential.load ((holding bytes).host.absolutePath "/c").toText
      ((holding bytes).host.absolutePath "/c") .main .json (some .standard)
      (holding bytes).host).1 = .ok (userOf secret) := by
    rw [habsolute, Credential.load, hinfo]
    rfl
  obtain ⟨happenings, hdiscover⟩ := Discovery.discover_of_pointer hgiven hfile hload
  obtain ⟨r, hresolve⟩ : ∃ r, (Resolver.new none none none none .standard .empty).resolve .main
      .json .empty (holding bytes).host = (.ok 0, r, ⟨[userOf secret]⟩,
        (holding bytes).host.noting
          (.logged (.credentialResolved "env_file" "authorized_user") :: happenings)) := by
    have hunkept : (Resolver.new none none none none .standard .empty).kept = none := rfl
    rw [Resolver.resolve, hunkept]
    dsimp only
    rw [hdiscover]
    exact ⟨_, rfl⟩
  exact ⟨r, _, perform_resolve rfl hresolve⟩

/-- Two files differ in the client secret only, and both decode to what they hold.  A refresh with
the one fails, and with the other it raises an error whose text names half a pair in the secret. -/
theorem secrets_told :
    let operations := [.resolve 0 .main .json, .call 0 .refresh]
    let told := Raised.trouble (.unencodable loneHalf)
    Decoder.json.decodeOctets (userFile (.text "x")) =
        .ok (.object (userMembers (.text "x"))) ∧
      Decoder.json.decodeOctets (userFile (.ragged loneHalf)) =
        .ok (.object (userMembers (.ragged loneHalf))) ∧
      ((holding (userFile (.text "x"))).run operations).1 =
        [.resolved (.ok 0), .replied (.ok (.refreshed false))] ∧
      ((holding (userFile (.ragged loneHalf))).run operations).1 =
        [.resolved (.ok 0), .replied (.error told)] ∧
      told.text =
        "'utf-8' codec can't encode character '\\ud800' in position 0: surrogates not allowed" := by
  intro operations told
  have hplain : Decoder.json.decodeOctets (userFile (.text "x")) = _ :=
    Json.decodeOctets_write (by decide +kernel)
  have hragged : Decoder.json.decodeOctets (userFile (.ragged loneHalf)) = _ :=
    Json.decodeOctets_write (by decide +kernel)
  refine ⟨hplain, hragged, ?_, ?_, by decide +kernel⟩
  · obtain ⟨r, happenings, hp⟩ := perform_resolve_userFile hplain rfl
    rw [run_refresh hp rfl]
    rfl
  · obtain ⟨r, happenings, hp⟩ := perform_resolve_userFile hragged rfl
    rw [run_refresh hp rfl, (Credential.refresh_of_ragged rfl rfl).1]
    rfl

end Session
end DefaultCredentials
