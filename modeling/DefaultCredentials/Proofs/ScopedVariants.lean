import DefaultCredentials.Proofs.Lifecycle
import DefaultCredentials.Wallet

/-!
# Variants bound to scopes

Binding a credential to scopes makes a variant of it, variants can be bound again, and each of them
is called on its own.  A `Lineage` is what comes of one credential in this way: a wallet with it and
its variants, in the host where they are called.

* `Lineage.every_run` is the induction: what binding and calls keep of a credential holds of every
  member.  `Lineage.descends_run` says so of what a member has in common with the first one, and
  `Lineage.isTrue_run` of the scopes of its token.
* `Lineage.variants_independent` adds what one more turn does: a call changes the slot of the member
  that is called and nothing else, and binding adds a member with an empty slot.  Credentials whose
  tokens are not bound to scopes have no variants; their number is given again.
-/

namespace DefaultCredentials

/-- Whether material is one of the library's own, which an exchange does not use up. -/
def Material.IsLasting : Material → Prop
  | .custom _ _ _ => False
  | _ => True

theorem Material.isScoped_cases {m : Material} (hm : m.isScoped = true) :
    (∃ key uri signer, m = .serviceAccount key uri signer) ∨ m = .appIdentity := by
  cases m with
  | serviceAccount key uri signer => exact .inl ⟨key, uri, signer, rfl⟩
  | appIdentity => exact .inr rfl
  | _ => cases hm

theorem Material.isLasting_of_isScoped {m : Material} (hm : m.isScoped = true) : m.IsLasting := by
  rcases isScoped_cases hm with ⟨key, uri, signer, rfl⟩ | rfl <;> trivial

namespace Credential

variable {c : Credential} {h : Host}

/-! ### What a call leaves of a credential -/

theorem exchange_of_isLasting (hc : c.material.IsLasting) : (c.exchange h).2.1 = c := by
  unfold exchange
  split
  · split <;> rfl
  · rfl
  · rfl
  · rfl
  · rename_i hm
    rw [hm] at hc
    exact hc.elim

/-- A call changes nothing but the slot, and that as its exchange settles it, if it makes one. -/
theorem perform_of_isLasting (x : Call) (hc : c.material.IsLasting) :
    ∃ slot, (x.perform c h).2.1 = { c with slot := slot } ∧
      (slot = c.slot ∨ slot = (Settlement.of (c.exchange h).1).slot c.slot) := by
  classical
  have hfetch : (c.fetch h).2.1 = c := exchange_of_isLasting hc
  rw [Call.perform_state]
  split
  · exact ⟨c.slot, rfl, .inl rfl⟩
  · refine ⟨(Settlement.of (c.exchange h).1).slot c.slot, ?_, .inr rfl⟩
    rw [credential_refresh, hfetch]
    rfl

/-! ### Whose scopes a token carries -/

theorem scopes_of_tokenOfIdentity {scopes : Scopes} {answer : Option IdentityAnswer} {t : Token}
    (ht : tokenOfIdentity scopes answer = .ok t) : t.scopes = scopes := by
  unfold tokenOfIdentity at ht
  split at ht
  · cases ht
  · rename_i accessToken expiresAt
    cases he : expiresAt.toFloat with
    | ok expiry => rw [he] at ht; cases ht; rfl
    | error why => rw [he] at ht; cases ht
  · cases ht
  · cases ht

theorem scopes_of_exchange {t : Token} (hc : c.material.isScoped = true)
    (ht : (c.exchange h).1 = .ok t) : t.scopes = c.scopes := by
  unfold exchange at ht
  rcases Material.isScoped_cases hc with ⟨key, uri, signer, hm⟩ | hm
  · rw [hm] at ht
    dsimp only at ht
    split at ht
    · cases ht
    · simp only [tokenOf] at ht
      split at ht
      · cases ht
      · exact Token.scopes_of_ofResponse ht
  · rw [hm] at ht
    exact scopes_of_tokenOfIdentity ht

/-- A token that a credential holds carries the scopes of the credential. -/
def IsTrue (c : Credential) : Prop :=
  ∀ t, c.slot.token = some t → t.scopes = c.scopes

theorem isTrue_of_empty (hc : c.slot = .empty) : c.IsTrue := by
  intro t ht
  rw [hc] at ht
  cases ht

/-- Every call keeps this. -/
theorem IsTrue.perform (ht : c.IsTrue) (hc : c.material.isScoped = true) (x : Call) :
    (x.perform c h).2.1.IsTrue := by
  obtain ⟨slot, heq, hslot⟩ :=
    perform_of_isLasting (h := h) x (Material.isLasting_of_isScoped hc)
  rw [heq]
  rcases hslot with rfl | rfl
  · exact ht
  · intro t hstored
    cases hs : Settlement.of (c.exchange h).1 with
    | stored fetched =>
        rw [hs] at hstored
        cases hstored
        have hscopes : t.scopes = c.scopes := scopes_of_exchange hc (Settlement.of_eq_stored hs)
        exact hscopes
    | recorded failure =>
        rw [hs] at hstored
        exact ht t hstored
    | passed why =>
        rw [hs] at hstored
        exact ht t hstored

end Credential

/-! ### Lineages -/

/-- Credentials that come from one, in the host where they are called. -/
structure Lineage where
  wallet : Wallet
  host : Host

namespace Lineage

/-- What befalls a lineage: a member is bound to scopes or called, or whatever leaves another
host. -/
inductive Turn
  | bind (member : Nat) (scopes : List String)
  | call (member : Nat) (x : Call)
  | elsewhere (h : Host)

/-- The lineage of a credential that has no variants yet. -/
def start (root : Credential) (h : Host) : Lineage :=
  ⟨(Wallet.empty.add root).2, h⟩

def member? (l : Lineage) (n : Nat) : Option Credential :=
  l.wallet.get? n

/-- The number under which a member bound to scopes is found. -/
def numberOf (l : Lineage) (n : Nat) (scopes : List String) : Nat :=
  (l.wallet.withScopes n scopes).1

def step (l : Lineage) : Turn → Lineage
  | .bind n scopes => { l with wallet := (l.wallet.withScopes n scopes).2 }
  | .call n x =>
    match l.member? n with
    | none => l
    | some c => ⟨l.wallet.set n (x.perform c l.host).2.1, (x.perform c l.host).2.2⟩
  | .elsewhere h => { l with host := h }

def run (l : Lineage) (turns : List Turn) : Lineage :=
  turns.foldl step l

theorem run_cons (l : Lineage) (turn : Turn) (turns : List Turn) :
    l.run (turn :: turns) = (l.step turn).run turns := rfl

variable {l : Lineage} {root c d : Credential} {n m : Nat} {scopes : List String}

/-! ### One turn -/

theorem withScopes_of_isScoped (hn : l.member? n = some c) (hc : c.material.isScoped = true) :
    l.wallet.withScopes n scopes =
      l.wallet.add { c with scopes := .ofList scopes, slot := .empty } := by
  have hget : l.wallet.get? n = some c := hn
  have hvariant : c.withScopes? scopes = some { c with scopes := .ofList scopes, slot := .empty } :=
    by rw [Credential.withScopes?, if_pos hc]
  simp only [Wallet.withScopes, hget, Option.bind_some, hvariant]

theorem withScopes_of_not_isScoped {w : Wallet} (hn : w.get? n = some c)
    (hc : c.material.isScoped = false) : w.withScopes n scopes = (n, w) := by
  simp [Wallet.withScopes, hn, Credential.withScopes?, hc]

theorem member?_numberOf (hn : l.member? n = some c) (hc : c.material.isScoped = true) :
    l.member? (l.numberOf n scopes) = none := by
  rw [numberOf, withScopes_of_isScoped hn hc]
  simp [member?, Wallet.add, Wallet.get?]

theorem member?_bind (hn : l.member? n = some c) (hc : c.material.isScoped = true) :
    (l.step (.bind n scopes)).member? (l.numberOf n scopes) =
      some { c with scopes := .ofList scopes, slot := .empty } := by
  rw [numberOf, step, withScopes_of_isScoped hn hc]
  exact Wallet.get?_add_self ..

/-- Binding changes no member that there was. -/
theorem member?_bind_of_some (n : Nat) (scopes : List String) (hm : l.member? m = some d) :
    (l.step (.bind n scopes)).member? m = some d := by
  simp only [step, member?, Wallet.withScopes]
  split
  · exact Wallet.get?_add_of_some hm
  · exact hm

theorem member?_bind_cases (hm : (l.step (.bind n scopes)).member? m = some d) :
    l.member? m = some d ∨ ∃ c, l.member? n = some c ∧ c.withScopes? scopes = some d := by
  simp only [step, member?, Wallet.withScopes] at hm
  split at hm
  · rename_i variant hv
    obtain ⟨c, hn, hb⟩ := Option.bind_eq_some_iff.mp hv
    simp only [Wallet.add, Wallet.get?] at hm
    rcases Nat.lt_or_ge m l.wallet.credentials.length with hlt | hge
    · rw [List.getElem?_append_left hlt] at hm
      exact .inl hm
    · rw [List.getElem?_append_right hge] at hm
      have hd := List.mem_of_getElem? hm
      rw [List.mem_singleton] at hd
      exact .inr ⟨c, hn, hd ▸ hb⟩
  · exact .inl hm

theorem member?_call_ne (x : Call) (hne : n ≠ m) :
    (l.step (.call n x)).member? m = l.member? m := by
  unfold step
  dsimp only
  split
  · rfl
  · exact Wallet.get?_set_ne _ _ hne

theorem member?_call (x : Call) (hn : l.member? n = some c) :
    (l.step (.call n x)).member? n = some (x.perform c l.host).2.1 := by
  have hlt : n < l.wallet.credentials.length := (List.getElem?_eq_some_iff.mp hn).1
  simp only [step, hn]
  simp [member?, Wallet.get?, Wallet.set, hlt]

/-! ### What all members have -/

/-- Every member is so. -/
def Every (holds : Credential → Prop) (l : Lineage) : Prop :=
  ∀ n c, l.member? n = some c → holds c

section every

variable {holds : Credential → Prop}
  (hbind : ∀ c scopes v, holds c → c.withScopes? scopes = some v → holds v)
  (hcall : ∀ c x h, holds c → holds (Call.perform c h x).2.1)
include hbind hcall

/-- **One turn.**  What binding and calls keep of a credential holds of every member after it. -/
theorem Every.step (hl : l.Every holds) (turn : Turn) : (l.step turn).Every holds := by
  intro m d hm
  cases turn with
  | bind n scopes =>
      rcases member?_bind_cases hm with hbefore | ⟨c, hn, hb⟩
      · exact hl m d hbefore
      · exact hbind c scopes d (hl n c hn) hb
  | call n x =>
      by_cases hne : n = m
      · subst hne
        cases hn : l.member? n with
        | none =>
            rw [Lineage.step, hn] at hm
            exact hl n d hm
        | some c =>
            rw [member?_call x hn] at hm
            cases hm
            exact hcall c x l.host (hl n c hn)
      · rw [member?_call_ne x hne] at hm
        exact hl m d hm
  | elsewhere h => exact hl m d hm

/-- **All turns.**  What holds of the first credential, and what binding and calls keep, holds of
every member ever. -/
theorem every_run (hr : holds root) (h : Host) (turns : List Turn) :
    ((start root h).run turns).Every holds := by
  have hstart : (start root h).Every holds := by
    intro n c hn
    have hmem : c ∈ [root] := List.mem_of_getElem? hn
    rw [List.mem_singleton] at hmem
    exact hmem ▸ hr
  generalize start root h = l at hstart
  induction turns generalizing l with
  | nil => exact hstart
  | cons turn turns ih =>
      rw [run_cons]
      exact ih _ (hstart.step hbind hcall turn)

end every

/-- What a member has in common with the credential that the lineage began with: all but scopes and
slot. -/
structure Descends (root c : Credential) : Prop where
  material : c.material = root.material
  channel : c.channel = root.channel
  decoder : c.decoder = root.decoder
  settings : c.settings = root.settings

namespace Descends

theorem refl (root : Credential) : Descends root root :=
  ⟨rfl, rfl, rfl, rfl⟩

theorem bind (hd : Descends root c) (hb : c.withScopes? scopes = some d) : Descends root d := by
  obtain ⟨hmaterial, hchannel, hdecoder, hsettings, -⟩ := Credential.shared_withScopes? hb
  exact ⟨hmaterial.trans hd.material, hchannel.trans hd.channel, hdecoder.trans hd.decoder,
    hsettings.trans hd.settings⟩

/-- Whatever is asked of a member, it descends as before. -/
theorem call (hd : Descends root c) (hr : root.material.IsLasting) (x : Call) (h : Host) :
    Descends root (x.perform c h).2.1 := by
  have hc : c.material.IsLasting := by rwa [hd.material]
  obtain ⟨slot, heq, -⟩ := Credential.perform_of_isLasting (h := h) x hc
  rw [heq]
  exact ⟨hd.material, hd.channel, hd.decoder, hd.settings⟩

end Descends

/-- Every member descends from the credential that the lineage began with. -/
theorem descends_run (hr : root.material.IsLasting) (h : Host) (turns : List Turn) :
    ((start root h).run turns).Every (Descends root) :=
  every_run (fun _ _ _ hd hb => hd.bind hb) (fun _ x h hd => hd.call hr x h) (.refl root) h turns

/-- Where tokens are bound to scopes, every member holds a token for its own scopes, if any. -/
theorem isTrue_run (hr : root.material.isScoped = true) (hc : root.IsTrue) (h : Host)
    (turns : List Turn) : ((start root h).run turns).Every Credential.IsTrue := by
  have hlasting := Material.isLasting_of_isScoped hr
  have hboth : ((start root h).run turns).Every fun c => Descends root c ∧ c.IsTrue := by
    refine every_run (fun c scopes v hd hb => ⟨hd.1.bind hb, ?_⟩) (fun c x h hd => ⟨?_, ?_⟩)
      ⟨.refl root, hc⟩ h turns
    · exact Credential.isTrue_of_empty (Credential.slot_withScopes? hb)
    · exact hd.1.call hlasting x h
    · exact hd.2.perform (by rw [hd.1.material, hr]) x
  exact fun n c hn => (hboth n c hn).2

/-- **Variants are independent.**  Of a credential whose tokens are bound to scopes, after any
turns: every member has its material, transport, decoder and settings, and a token that a member
holds carries the member's own scopes.  A call changes the slot of the member that is called and no
other member.  Binding a member gives a number that was no member's, under which there is from then
on a variant with the scopes asked for, without a token and without a failure, and changes no member
that there was.  A user's credential and the machine's are no such credentials: bound to scopes they
keep their number. -/
theorem variants_independent (hr : root.material.isScoped = true)
    (hc : ∀ t, root.slot.token = some t → t.scopes = root.scopes) (h : Host) (turns : List Turn) :
    let l := (start root h).run turns
    (∀ n c, l.member? n = some c →
      c.material = root.material ∧ c.channel = root.channel ∧ c.decoder = root.decoder ∧
        c.settings = root.settings ∧ ∀ t, c.slot.token = some t → t.scopes = c.scopes) ∧
    (∀ n x m d, n ≠ m → l.member? m = some d → (l.step (.call n x)).member? m = some d) ∧
    (∀ n x c, l.member? n = some c →
      ∃ slot, (l.step (.call n x)).member? n = some { c with slot := slot }) ∧
    (∀ n scopes c, l.member? n = some c →
      l.member? (l.numberOf n scopes) = none ∧
      (l.step (.bind n scopes)).member? (l.numberOf n scopes) =
        some { c with scopes := .ofList scopes, slot := ⟨none, none⟩ } ∧
      ∀ m d, l.member? m = some d → (l.step (.bind n scopes)).member? m = some d) ∧
    ∀ (w : Wallet) n scopes c, w.get? n = some c →
      ((∃ grant uri, c.material = .user grant uri) ∨ c.material = .compute) →
      w.withScopes n scopes = (n, w) := by
  intro l
  have hlasting := Material.isLasting_of_isScoped hr
  have hdescends : l.Every (Descends root) := descends_run hlasting h turns
  have htrue : l.Every Credential.IsTrue := isTrue_run hr hc h turns
  have hscoped (n : Nat) (c : Credential) (hn : l.member? n = some c) :
      c.material.isScoped = true := by rw [(hdescends n c hn).material, hr]
  refine ⟨fun n c hn => ?_, fun n x m d hne hm => ?_, fun n x c hn => ?_,
    fun n scopes c hn => ⟨?_, ?_, fun m d hm => ?_⟩, fun w n scopes c hn hm => ?_⟩
  · have hd := hdescends n c hn
    exact ⟨hd.material, hd.channel, hd.decoder, hd.settings, htrue n c hn⟩
  · rw [member?_call_ne x hne, hm]
  · have hc : c.material.IsLasting := Material.isLasting_of_isScoped (hscoped n c hn)
    obtain ⟨slot, heq, -⟩ := Credential.perform_of_isLasting (h := l.host) x hc
    exact ⟨slot, by rw [member?_call x hn, heq]⟩
  · exact member?_numberOf hn (hscoped n c hn)
  · exact member?_bind hn (hscoped n c hn)
  · exact member?_bind_of_some n scopes hm
  · refine withScopes_of_not_isScoped hn ?_
    rcases hm with ⟨grant, uri, hm⟩ | hm <;> rw [hm] <;> rfl

/-- The credential of a managed runtime, and what its identity service gives it. -/
def runtime : Credential × Host :=
  (.ofIdentity .main .json ["all"] .standard,
    { Host.empty with identity := some [.token (.text "t") (.float 3600.0)] })

/-- A credential that holds a valid token keeps it when the variant that is made of it, which
begins without one, is asked for a token of its own. -/
theorem variants_independent_narrowed :
    let l := (start runtime.1 runtime.2).run [.call 0 .token]
    ∃ c, l.member? 0 = some c ∧ c.slot.isValid l.host.now = true ∧
      (∃ v, (l.step (.bind 0 ["part"])).member? 1 = some v ∧ v.slot = ⟨none, none⟩) ∧
      ((l.step (.bind 0 ["part"])).step (.call 1 .token)).member? 0 = some c := by
  have hempty : ∀ t, runtime.1.slot.token = some t → t.scopes = runtime.1.scopes := nofun
  obtain ⟨-, -, -, hbind, -⟩ :=
    @variants_independent runtime.1 rfl hempty runtime.2 [.call 0 .token]
  obtain ⟨-, hvariant, hkept⟩ := hbind 0 ["part"] _ rfl
  obtain ⟨-, hframe, -⟩ := @variants_independent runtime.1 rfl hempty runtime.2
    [.call 0 .token, .bind 0 ["part"]]
  exact ⟨_, rfl, by decide, ⟨_, hvariant, rfl⟩, hframe 1 .token 0 _ (by decide) (hkept 0 _ rfl)⟩

end Lineage
end DefaultCredentials
