import DefaultCredentials.Proofs.Lifecycle
import DefaultCredentials.Proofs.SingleRetry

/-!
# What a refused token costs

A request for a caller costs exchanges for a token besides the requests that are sent with one.
`Expense` lists both, in the order in which the trace has them, so that it can be told what was
spent before the first request and what after the answer to it.

`FollowUp` lists what may follow on the answer.  A refused token is exchanged once, and the request
is sent again with what this gives, if that is valid.  If it is past its time already, the reading
that comes before the second request exchanges once more, and what this gives is sent.
`Authorized.cost_of_request` says that nothing else is ever spent.
-/

namespace DefaultCredentials

/-- What a request for a caller costs. -/
inductive Expense
  | exchange (e : Exchange)
  | sent (r : Request)

def Expense.exchange? : Expense → Option Exchange
  | exchange e => some e
  | sent _ => none

/-- The authorized request that was sent to a transport, if one was. -/
def Happening.authorized? (channel : Channel) : Happening → Option Request
  | .requested via r => if via = channel ∧ r.isAuthorized then some r else none
  | _ => none

/-- The expense that a happening is: an exchange, or an authorized request to a transport. -/
def Happening.expense? (channel : Channel) : Happening → Option Expense
  | .exchanged clock outcome => some (.exchange ⟨clock, outcome⟩)
  | x => (x.authorized? channel).map .sent

/-- The expenses among what happened, the last first. -/
def spentIn (channel : Channel) (happenings : List Happening) : List Expense :=
  happenings.filterMap (Happening.expense? channel)

/-- From a host to a later one just this is spent, the last first. -/
def Spends (channel : Channel) (h h' : Host) (expenses : List Expense) : Prop :=
  h.Shows (Happening.expense? channel) h' expenses

theorem Host.spends_send (h : Host) (channel : Channel) {r : Request} (hr : r.isAuthorized) :
    Spends channel h (h.send channel r).2 [.sent r] :=
  ⟨[.requested channel r], trace_send .., by simp [Happening.expense?, Happening.authorized?, hr]⟩

namespace Credential

/-! ### Readings and refreshes -/

variable (channel : Channel) (c : Credential) (h : Host)

theorem overlooks_expense : Overlooks (Happening.expense? channel) c where
  posted r hr := by
    simp [Happening.expense?, Happening.authorized?, isAuthorized_of_posts hr]
  asked _ := rfl
  logged _ := rfl

theorem spends_refresh :
    Spends channel h (c.refresh h).2.2 [.exchange ⟨h.now, (c.fetch h).1⟩] :=
  shows_refresh (overlooks_expense channel c) h

variable {c h}

theorem spends_currentToken (hn : c.slot.current? h.now = none) :
    Spends channel h (c.currentToken h).2.2 [.exchange ⟨h.now, (c.fetch h).1⟩] := by
  rw [currentToken_state hn]
  exact spends_refresh channel c h

theorem now_currentToken (c : Credential) (h : Host) : (c.currentToken h).2.2.now = h.now := by
  cases hv : c.slot.current? h.now with
  | some t => rw [currentToken_of_valid hv]
  | none => rw [currentToken_state hv, now_refresh]

theorem fetch_of_currentToken {accessToken : Value} (hn : c.slot.current? h.now = none)
    (hr : (c.currentToken h).1 = .ok accessToken) :
    ∃ t, (c.fetch h).1 = .ok t ∧ (c.currentToken h).2.1.slot.token = some t := by
  cases hs : Settlement.of (c.fetch h).1 with
  | stored t =>
      refine ⟨t, Settlement.of_eq_stored hs, ?_⟩
      rw [currentToken_state hn, slot_refresh, hs]
      rfl
  | recorded kept =>
      rw [currentToken_of_recorded hn hs] at hr
      cases hr
  | passed why =>
      rw [currentToken_of_passed hn hs] at hr
      cases hr

theorem fetch_of_refresh (hr : (c.refresh h).1 = .ok true) :
    ∃ t, (c.fetch h).1 = .ok t ∧ (c.refresh h).2.1.slot.token = some t := by
  rw [refresh_answer] at hr
  cases hs : Settlement.of (c.fetch h).1 with
  | stored t =>
      refine ⟨t, Settlement.of_eq_stored hs, ?_⟩
      rw [slot_refresh, hs]
      rfl
  | recorded kept =>
      rw [hs] at hr
      cases hr
  | passed why =>
      rw [hs] at hr
      cases hr

end Credential

namespace Authorized

/-! ### What sending once costs -/

section expenses

variable (d : Draft) (base : List (String × String))

/-- What is spent, in order, where a token is read and the request is sent with it. -/
inductive Outlay (s : Credential × Host) : List Expense → Prop
  /-- There is a valid token. -/
  | held {t : Token} : s.1.slot.current? s.2.now = some t → Outlay s [.sent (bearing d base t)]
  /-- There is none, and the exchange gives one. -/
  | exchanged {t : Token} : s.1.slot.current? s.2.now = none →
      Outlay s [.exchange ⟨s.2.now, .ok t⟩, .sent (bearing d base t)]
  /-- There is none, and none can be had. -/
  | failed {e : Exchange} : s.1.slot.current? s.2.now = none →
      (∃ why, (s.1.currentToken s.2).1 = .error why) → Outlay s [.exchange e]

/-- What is spent, in order, after the answer to the first request, which left the credential and
its host as they are given. -/
inductive FollowUp (answer : Answer) (s₁ : Credential × Host) : List Expense → Prop
  /-- The answer does not refuse the token, or there is none. -/
  | final : (∀ a, answer = .ok a → isRefusal a.status = false) → FollowUp answer s₁ []
  /-- The token is refused, and the exchange for another one fails. -/
  | unrenewed {a : Response} {e : Exchange} : answer = .ok a → isRefusal a.status = true →
      (renewal d a s₁).1 ≠ .ok true → FollowUp answer s₁ [.exchange e]
  /-- The token is refused, the exchange gives another one, and the request is sent once more. -/
  | renewed {a : Response} {t : Token} {s₂ : Credential × Host} {again : List Expense} :
      answer = .ok a → isRefusal a.status = true → renewal d a s₁ = (.ok true, s₂) →
      s₂.1.slot.token = some t → Outlay d base s₂ again →
      FollowUp answer s₁ (.exchange ⟨s₁.2.now, .ok t⟩ :: again)

end expenses

/-- The exchanges among expenses. -/
def exchangesAmong (expenses : List Expense) : List Exchange :=
  expenses.filterMap Expense.exchange?

variable {channel : Channel} {d : Draft} {base : List (String × String)}
  {s s₁ s₂ : Credential × Host} {r : Request} {answer : Answer} {expenses rest : List Expense}

namespace Outlay

theorem exchanges_le_one (ho : Outlay d base s expenses) :
    (exchangesAmong expenses).length ≤ 1 := by
  cases ho with
  | held => exact Nat.zero_le 1
  | exchanged => exact Nat.le_refl 1
  | failed => exact Nat.le_refl 1

theorem eq_of_current {t : Token} (ho : Outlay d base s expenses)
    (ht : s.1.slot.current? s.2.now = some t) : expenses = [.sent (bearing d base t)] := by
  cases ho with
  | held ht' =>
      cases ht.symm.trans ht'
      rfl
  | exchanged hn => cases ht.symm.trans hn
  | failed hn => cases ht.symm.trans hn

theorem exchanges_eq_one (ho : Outlay d base s expenses)
    (hn : s.1.slot.current? s.2.now = none) : (exchangesAmong expenses).length = 1 := by
  cases ho with
  | held ht => cases hn.symm.trans ht
  | exchanged => rfl
  | failed => rfl

end Outlay

/-- An attempt sends the valid token that is there, or else one that it exchanges for. -/
theorem Attempt.outlay (ha : Attempt channel d base s r answer s₁) :
    ∃ expenses, Outlay d base s expenses ∧ Spends channel s.2 s₁.2 expenses.reverse := by
  obtain ⟨t, host, hread, hheld, rfl, hsend⟩ := ha
  have hs := host.spends_send channel (isAuthorized_bearing d base t)
  rw [hsend] at hs
  cases hv : s.1.slot.current? s.2.now with
  | some held =>
      rw [Credential.currentToken_of_valid hv] at hread
      simp only [Prod.mk.injEq] at hread
      obtain ⟨-, hc, rfl⟩ := hread
      have htoken := (Option.filter_eq_some_iff.mp hv).1
      rw [hc, hheld] at htoken
      cases htoken
      exact ⟨_, .held hv, hs⟩
  | none =>
      obtain ⟨got, hgot, hstored⟩ := Credential.fetch_of_currentToken hv (congrArg Prod.fst hread)
      have hcost := Credential.spends_currentToken channel hv
      rw [hread] at hstored hcost
      cases hheld.symm.trans hstored
      rw [hgot] at hcost
      exact ⟨_, .exchanged hv, hcost.trans hs⟩

theorem outlay_sendOnce {n : Nat} {m : Mappings} (channel : Channel) (d : Draft)
    (hm : IsCopy n base m) (c : Credential) (h : Host) :
    ∃ expenses, Outlay d base (c, h) expenses ∧
      Spends channel h (sendOnce c channel d n m h).2.2.2 expenses.reverse := by
  rcases sendOnce_cases channel d hm c h with ⟨why, hread, -⟩ | ⟨r, ha⟩
  · have hn : c.slot.current? h.now = none := by
      cases hv : c.slot.current? h.now with
      | none => rfl
      | some t =>
          rw [Credential.currentToken_of_valid hv] at hread
          cases hread
    have hcost := Credential.spends_currentToken channel hn
    rw [hread] at hcost
    exact ⟨_, .failed hn ⟨why, congrArg Prod.fst hread⟩, hcost⟩
  · exact ha.outlay

/-! ### What follows on an answer -/

theorem Attempt.now (ha : Attempt channel d base s r answer s₁) : s₁.2.now = s.2.now := by
  obtain ⟨t, host, hread, -, -, hsend⟩ := ha
  have hsent := Host.now_send host channel r
  have hnow := Credential.now_currentToken s.1 s.2
  rw [hsend] at hsent
  rw [hread] at hnow
  exact hsent.trans hnow

theorem spends_renewal (channel : Channel) (d : Draft) (a : Response) (s₁ : Credential × Host) :
    Spends channel s₁.2 (renewal d a s₁).2.2
      [.exchange ⟨s₁.2.now, (s₁.1.fetch (s₁.2.log (.refreshingAfter a.status d.url))).1⟩] := by
  have hlog : Spends channel s₁.2 (s₁.2.log (.refreshingAfter a.status d.url)) [] := ⟨[_], rfl, rfl⟩
  exact hlog.trans (Credential.spends_refresh channel s₁.1 _)

/-- If it succeeds, that exchange gives the token that is held from then on. -/
theorem spends_renewal_of_ok (channel : Channel) {a : Response}
    (hr : renewal d a s₁ = (.ok true, s₂)) :
    ∃ t, s₂.1.slot.token = some t ∧ Spends channel s₁.2 s₂.2 [.exchange ⟨s₁.2.now, .ok t⟩] := by
  have hcost := spends_renewal channel d a s₁
  obtain ⟨t, hf, ht⟩ := Credential.fetch_of_refresh (congrArg Prod.fst hr)
  replace ht : (renewal d a s₁).2.1.slot.token = some t := ht
  rw [hf, hr] at hcost
  rw [hr] at ht
  exact ⟨t, ht, hcost⟩

theorem now_renewal (d : Draft) (a : Response) (s₁ : Credential × Host) :
    (renewal d a s₁).2.2.now = s₁.2.now :=
  Credential.now_refresh ..

namespace FollowUp

theorem exchanges_le_two (hf : FollowUp d base answer s₁ rest) :
    (exchangesAmong rest).length ≤ 2 := by
  cases hf with
  | final => exact Nat.zero_le 2
  | unrenewed => exact Nat.le_succ 1
  | renewed _ _ _ _ hagain => exact Nat.succ_le_succ hagain.exchanges_le_one

variable {a : Response} {t : Token}

theorem eq_of_renewed (hf : FollowUp d base (.ok a) s₁ rest) (hrefused : isRefusal a.status = true)
    (hr : renewal d a s₁ = (.ok true, s₂)) (ht : s₂.1.slot.token = some t) :
    ∃ again, rest = .exchange ⟨s₁.2.now, .ok t⟩ :: again ∧ Outlay d base s₂ again := by
  cases hf with
  | final hn => simp [hn a rfl] at hrefused
  | unrenewed ha _ hn =>
      cases ha
      simp [hr] at hn
  | renewed ha _ hr' ht' hagain =>
      cases ha
      cases hr.symm.trans hr'
      cases ht.symm.trans ht'
      exact ⟨_, rfl, hagain⟩

theorem eq_of_valid (hf : FollowUp d base (.ok a) s₁ rest) (hrefused : isRefusal a.status = true)
    (hr : renewal d a s₁ = (.ok true, s₂)) (ht : s₂.1.slot.token = some t)
    (hv : t.isValid s₂.2.now = true) :
    rest = [.exchange ⟨s₁.2.now, .ok t⟩, .sent (bearing d base t)] := by
  obtain ⟨again, rfl, hagain⟩ := hf.eq_of_renewed hrefused hr ht
  rw [hagain.eq_of_current (Option.filter_eq_some_iff.mpr ⟨ht, hv⟩)]

/-- Two exchanges follow exactly if the first of them gives a token that is past its time. -/
theorem exchanges_eq_two_iff (hf : FollowUp d base answer s₁ rest) :
    (exchangesAmong rest).length = 2 ↔ ∃ a t s₂, answer = .ok a ∧ isRefusal a.status = true ∧
      renewal d a s₁ = (.ok true, s₂) ∧ s₂.1.slot.token = some t ∧
      t.isValid s₂.2.now = false := by
  constructor
  · intro hl
    cases hf with
    | final => cases hl
    | unrenewed => cases hl
    | @renewed a t s₂ again ha hrefused hr ht hagain =>
        refine ⟨a, t, s₂, ha, hrefused, hr, ht, Bool.eq_false_iff.mpr fun hv => ?_⟩
        rw [hagain.eq_of_current (Option.filter_eq_some_iff.mpr ⟨ht, hv⟩)] at hl
        cases hl
  · rintro ⟨a, t, s₂, rfl, hrefused, hr, ht, hv⟩
    obtain ⟨again, rfl, hagain⟩ := hf.eq_of_renewed hrefused hr ht
    have hn : s₂.1.slot.current? s₂.2.now = none := by
      simp [Slot.current?, ht, hv]
    exact congrArg Nat.succ (hagain.exchanges_eq_one hn)

end FollowUp

/-! ### The whole request -/

/-- A request costs an outlay, and after an answer what follows on it. -/
theorem spends_request (c : Credential) (channel : Channel) (d : Draft) (m : Mappings) (h : Host) :
    ∃ first rest, Outlay d (d.entries m) (c, h) first ∧
      Spends channel h (request c channel d m h).2.2.2 (first ++ rest).reverse ∧
      ((∃ why, (c.currentToken h).1 = .error why) ∧ rest = [] ∨
        ∃ r answer s₁, Attempt channel d (d.entries m) (c, h) r answer s₁ ∧
          FollowUp d (d.entries m) answer s₁ rest) := by
  have hm := isCopy_add m (d.entries m)
  have hn : (m.add (d.entries m)).1 = m.size := rfl
  unfold request
  simp only [hn]
  obtain ⟨first, hfirst, hspent⟩ := outlay_sendOnce channel d hm c h
  have hcases := sendOnce_cases channel d hm c h
  have hcopy := (mappings_sendOnce channel d hm c h).1
  refine ⟨first, ?_⟩
  generalize sendOnce c channel d m.size (m.add (d.entries m)).2 h = after at hspent hcases hcopy ⊢
  obtain ⟨answer, m₁, s₁⟩ := after
  rcases hcases with ⟨why, hread, rfl⟩ | ⟨r, ha⟩
  · exact ⟨[], hfirst, by simpa using hspent, .inl ⟨⟨why, congrArg Prod.fst hread⟩, rfl⟩⟩
  · cases answer with
    | error why =>
        refine ⟨[], hfirst, by simpa using hspent, .inr ⟨r, _, s₁, ha, .final fun a he => ?_⟩⟩
        cases he
    | ok a =>
        by_cases hrefused : isRefusal a.status = true
        · simp only [hrefused, if_true]
          obtain ⟨e, hcost⟩ : ∃ e, Spends channel s₁.2 (renewal d a s₁).2.2 [.exchange e] :=
            ⟨_, spends_renewal channel d a s₁⟩
          have hfailed (hr : (renewal d a s₁).1 ≠ .ok true) :
              FollowUp d (d.entries m) (.ok a) s₁ [.exchange e] := .unrenewed rfl hrefused hr
          have htotal : Spends channel h (renewal d a s₁).2.2
              (first ++ [Expense.exchange e]).reverse := by
            simpa [Spends] using hspent.trans hcost
          generalize hr : s₁.1.refresh (s₁.2.log (.refreshingAfter a.status d.url)) = renewed
          obtain ⟨renewed, s₂⟩ := renewed
          replace hr : renewal d a s₁ = (renewed, s₂) := hr
          rw [hr] at hfailed htotal
          cases renewed with
          | error why => exact ⟨_, hfirst, htotal, .inr ⟨r, _, s₁, ha, hfailed nofun⟩⟩
          | ok stored =>
              cases stored with
              | false => exact ⟨_, hfirst, htotal, .inr ⟨r, _, s₁, ha, hfailed nofun⟩⟩
              | true =>
                  obtain ⟨t, ht, hrenewed⟩ := spends_renewal_of_ok channel hr
                  obtain ⟨again, hagain, hspent'⟩ := outlay_sendOnce channel d hcopy s₂.1 s₂.2
                  refine ⟨_, hfirst, ?_, .inr ⟨r, _, s₁, ha, .renewed rfl hrefused hr ht hagain⟩⟩
                  simpa [Spends] using (hspent.trans hrenewed).trans hspent'
        · simp only [hrefused]
          refine ⟨[], hfirst, by simpa using hspent, .inr ⟨r, _, s₁, ha, .final fun a' he => ?_⟩⟩
          cases he
          simpa using hrefused

/-- **What a refused token costs.**  Whatever the credential holds, whatever the clock and whatever
is answered: before the first request there is at most one exchange.  After a refusal there is one,
and a second exactly if the refresh gives a token that is past its time at that clock.  If it gives
a token that is valid, the request is sent with this token, and nothing else is spent. -/
theorem cost_of_request (c : Credential) (channel : Channel) (d : Draft) (m : Mappings)
    (h : Host) :
    let base := d.entries m
    let after := request c channel d m h
    let spent := (spentIn channel (after.2.2.2.since h)).reverse
    ∃ first rest, spent = first ++ rest ∧ Outlay d base (c, h) first ∧
      (exchangesAmong first).length ≤ 1 ∧
      ((∃ why, (c.currentToken h).1 = .error why) ∧ rest = [] ∨
        ∃ r answer s₁, Attempt channel d base (c, h) r answer s₁ ∧
          FollowUp d base answer s₁ rest ∧ (exchangesAmong rest).length ≤ 2 ∧
          ((exchangesAmong rest).length = 2 ↔ ∃ a t s₂, answer = .ok a ∧
            (a.status = 401 ∨ a.status = 403) ∧ renewal d a s₁ = (.ok true, s₂) ∧
            s₂.1.slot.token = some t ∧ t.isValid h.now = false) ∧
          ∀ a t s₂, answer = .ok a → (a.status = 401 ∨ a.status = 403) →
            renewal d a s₁ = (.ok true, s₂) → s₂.1.slot.token = some t → t.isValid h.now = true →
            rest = [.exchange ⟨h.now, .ok t⟩, .sent (bearing d base t)]) := by
  intro base after spent
  obtain ⟨first, rest, hfirst, hspent, hrest⟩ := spends_request c channel d m h
  have htotal : spent = first ++ rest := by
    simp only [spent, after, spentIn, hspent.filterMap_since, List.reverse_reverse]
  refine ⟨first, rest, htotal, hfirst, hfirst.exchanges_le_one, hrest.imp_right ?_⟩
  rintro ⟨r, answer, s₁, ha, hf⟩
  have hnow {a : Response} {s₂ : Credential × Host} (hr : renewal d a s₁ = (.ok true, s₂)) :
      s₂.2.now = h.now := by
    rw [← ha.now, ← now_renewal d a s₁, hr]
  refine ⟨r, answer, s₁, ha, hf, hf.exchanges_le_two, ?_, ?_⟩
  · rw [hf.exchanges_eq_two_iff]
    simp only [isRefusal_iff]
    constructor
    · rintro ⟨a, t, s₂, hanswer, hrefused, hr, ht, hv⟩
      exact ⟨a, t, s₂, hanswer, hrefused, hr, ht, hnow hr ▸ hv⟩
    · rintro ⟨a, t, s₂, hanswer, hrefused, hr, ht, hv⟩
      exact ⟨a, t, s₂, hanswer, hrefused, hr, ht, (hnow hr).symm ▸ hv⟩
  · rintro a t s₂ rfl hrefused hr ht hv
    rw [← ha.now]
    exact hf.eq_of_valid (isRefusal_iff.mpr hrefused) hr ht ((hnow hr).symm ▸ hv)

/-- The credential of a machine with a token from before, whose server answers with a token by
itself, to be used within a number of seconds. -/
def holding (lifetime : Int) : Credential :=
  { Credential.ofCompute .main
      ⟨"bare", fun s => .ok (.object [("access_token", .text s), ("expires_in", .int lifetime)])⟩
      .standard with slot := ⟨some ⟨.text "old", none, []⟩, none⟩ }

/-- A server that gives two tokens, and an interface that refuses one. -/
def refusing : Host :=
  { Host.empty with
    main := [.ok ⟨200, [], Utf8.encode "new"⟩, .ok ⟨200, [], Utf8.encode "newer"⟩]
    api := [.ok ⟨401, [], []⟩, .ok ⟨200, [], []⟩] }

def plainDraft : Draft :=
  ⟨"GET", .text "https://host/", none, none, none⟩

/-- With a token that lasts an hour, a refusal costs one exchange, and that token is sent. -/
theorem cost_of_request_lasting :
    let after := request (holding 3600) .api plainDraft ⟨[]⟩ refusing
    (spentIn .api (after.2.2.2.since refusing)).reverse =
      [.sent (bearing plainDraft [] ⟨.text "old", none, []⟩),
        .exchange ⟨0.0, .ok ⟨.text "new", some 3600.0, []⟩⟩,
        .sent (bearing plainDraft [] ⟨.text "new", some 3600.0, []⟩)] := by
  intro after
  obtain ⟨first, rest, htotal, hfirst, -, hrest⟩ :=
    cost_of_request (holding 3600) .api plainDraft ⟨[]⟩ refusing
  rcases hrest with ⟨⟨why, hwhy⟩, -⟩ | ⟨r, answer, s₁, ha, -, -, -, hvalid⟩
  · cases hwhy
  · have hknown : Attempt .api plainDraft [] (holding 3600, refusing)
        (bearing plainDraft [] ⟨.text "old", none, []⟩) (.ok ⟨401, [], []⟩)
        (holding 3600, (refusing.send .api (bearing plainDraft [] ⟨.text "old", none, []⟩)).2) :=
      ⟨⟨.text "old", none, []⟩, refusing, rfl, rfl, rfl, rfl⟩
    obtain ⟨-, rfl, rfl⟩ := ha.unique hknown
    have hrest := hvalid ⟨401, [], []⟩ ⟨.text "new", some 3600.0, []⟩ _ rfl (.inl rfl) rfl rfl rfl
    have hheld : first = [.sent (bearing plainDraft [] ⟨.text "old", none, []⟩)] :=
      hfirst.eq_of_current rfl
    exact htotal.trans (by rw [hheld, hrest]; rfl)

/-- With a token that is past its time within a minute, it costs two, and the second is sent. -/
theorem two_exchanges_after_refusal :
    let after := request (holding 60) .api plainDraft ⟨[]⟩ refusing
    (spentIn .api (after.2.2.2.since refusing)).reverse =
      [.sent (bearing plainDraft [] ⟨.text "old", none, []⟩),
        .exchange ⟨0.0, .ok ⟨.text "new", some 60.0, []⟩⟩,
        .exchange ⟨0.0, .ok ⟨.text "newer", some 60.0, []⟩⟩,
        .sent (bearing plainDraft [] ⟨.text "newer", some 60.0, []⟩)] := rfl

end Authorized
end DefaultCredentials
