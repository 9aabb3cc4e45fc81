import DefaultCredentials.Authorized
import DefaultCredentials.Proofs.TraceView

/-!
# One request and at most one more

A request for a caller is sent at most twice.  Between the two stand an answer that refuses the
token, a refresh that stores another one, and a further reading of it, and each of these may be the
end.  `Authorized.Course` lists the ways in which this can go, each with the requests that are sent,
what comes of it, and the state in which the credential and the host are left, so that nothing can
happen besides.  `Authorized.course_request` says that a request goes one of these ways.

The requests for callers are told from the trace: they are all requests on either transport that are
not for a token of the credential (`Credential.Posts`), whatever headers they have.
-/

namespace DefaultCredentials

/-- A request that was sent, with the transport, if something that happened is one. -/
def Happening.sent? : Happening → Option (Channel × Request)
  | .requested via r => some (via, r)
  | _ => none

open Classical in
/-- A request that was sent, unless it is for a token of the credential and on its transport. -/
noncomputable def Happening.besides? (c : Credential) (x : Happening) :
    Option (Channel × Request) :=
  x.sent?.filter fun sent => ¬ (sent.1 = c.channel ∧ c.Posts sent.2)

/-- The requests among what happened that are not for a token of a credential, the last first. -/
noncomputable def besidesIn (c : Credential) (happenings : List Happening) :
    List (Channel × Request) :=
  happenings.filterMap (Happening.besides? c)

/-- From a host to a later one these requests are sent to a transport, the last first, and no others
to any but for tokens of a credential. -/
def SendsFrom (c : Credential) (channel : Channel) (h h' : Host) (requests : List Request) : Prop :=
  h.Shows (Happening.besides? c) h' (requests.map (Prod.mk channel))

theorem SendsFrom.trans {c : Credential} {channel : Channel} {h h₁ h₂ : Host}
    {before after : List Request} (h01 : SendsFrom c channel h h₁ before)
    (h12 : SendsFrom c channel h₁ h₂ after) : SendsFrom c channel h h₂ (after ++ before) := by
  rw [SendsFrom, List.map_append]
  exact Host.Shows.trans h01 h12

theorem besidesIn_of_custom {c : Credential} {kind label : String}
    {exchanges : List (Except Raised Token)} (hm : c.material = .custom kind label exchanges)
    (happenings : List Happening) :
    besidesIn c happenings = happenings.filterMap Happening.sent? := by
  have hnone (r : Request) : ¬ c.Posts r := fun hr => by
    cases hr with
    | assertion _ hm' => cases hm.symm.trans hm'
    | grant hm' => cases hm.symm.trans hm'
    | machine hm' => cases hm.symm.trans hm'
  have hview : Happening.besides? c = Happening.sent? := by
    funext x
    cases hx : x.sent? <;> simp [Happening.besides?, hx, hnone]
  rw [besidesIn, hview]

/-- Whether a request carries a header of authorization. -/
def Request.isAuthorized (r : Request) : Bool :=
  ((r.headers.getD []).lookup "Authorization").isSome

namespace Credential

variable {c c' : Credential} (channel : Channel)

/-! ### Exchanges for a token -/

theorem isAuthorized_of_posts {r : Request} (hr : c.Posts r) : r.isAuthorized = false := by
  cases hr <;> rfl

theorem overlooks_besides (hc : c'.AsksAs c) : Overlooks (Happening.besides? c) c' where
  posted r hr := by simp [Happening.besides?, Happening.sent?, hc.channel, hc.posts r hr]
  asked _ := rfl
  logged _ := rfl

theorem sendsFrom_refresh (hc : c'.AsksAs c) (h : Host) :
    SendsFrom c channel h (c'.refresh h).2.2 [] :=
  shows_refresh (overlooks_besides hc) h

theorem sendsFrom_currentToken (hc : c'.AsksAs c) (h : Host) :
    SendsFrom c channel h (c'.currentToken h).2.2 [] := by
  have hr := sendsFrom_refresh channel hc h
  unfold currentToken
  split
  · exact ⟨[], rfl, rfl⟩
  · split <;> rename_i he <;> rwa [he] at hr

theorem sendsFrom_send {r : Request} (hr : r.isAuthorized = true) (h : Host) :
    SendsFrom c channel h (h.send channel r).2 [r] := by
  have hposts : ¬ c.Posts r := fun hp => by
    rw [isAuthorized_of_posts hp] at hr
    cases hr
  have hview : Happening.besides? c (.requested channel r) = some (channel, r) := by
    simp [Happening.besides?, Happening.sent?, hposts]
  exact ⟨[.requested channel r], Host.trace_send .., by simp [hview]⟩

theorem token_of_currentToken {c c' : Credential} {h h' : Host} {accessToken : Value}
    (hr : c.currentToken h = (.ok accessToken, c', h')) :
    ∃ t, c'.slot.token = some t ∧ t.accessToken = accessToken := by
  unfold currentToken at hr
  split at hr
  · rename_i t ht
    cases hr
    exact ⟨t, (Option.filter_eq_some_iff.mp ht).1, rfl⟩
  · split at hr
    · rename_i c₁ h₁ _
      simp only [Prod.mk.injEq] at hr
      obtain ⟨hstored, rfl, rfl⟩ := hr
      unfold storedToken at hstored
      split at hstored
      · rename_i t ht
        cases hstored
        exact ⟨t, ht, rfl⟩
      · cases hstored
    · cases hr
    · cases hr

end Credential

namespace Authorized

/-! ### The ways of a request -/

section ways

variable (channel : Channel) (d : Draft) (base : List (String × String))

/-- The request with the token in the header, the rest of it as the caller put it. -/
def bearing (t : Token) : Request :=
  d.request (Entries.put base "Authorization" (Credential.bearer t.accessToken))

/-- A token is read, the request is sent with it while it is the one that is held, and this is the
answer. -/
def Attempt (s : Credential × Host) (r : Request) (answer : Answer) (s' : Credential × Host) :
    Prop :=
  ∃ t host, s.1.currentToken s.2 = (.ok t.accessToken, s'.1, host) ∧ s'.1.slot.token = some t ∧
    r = bearing d base t ∧ host.send channel r = (answer, s'.2)

/-- The refresh after an answer that refuses the token. -/
def renewal (refused : Response) (s : Credential × Host) : Except Raised Bool × Credential × Host :=
  s.1.refresh (s.2.log (.refreshingAfter refused.status d.url))

/-- The ways in which a request for a caller can go: the requests sent, in order, what comes of it,
and the state after it. -/
inductive Course (s : Credential × Host) : List Request → Answer → Credential × Host → Prop
  /-- There is no token to begin with. -/
  | tokenless {why : Raised} {s₁ : Credential × Host} :
      s.1.currentToken s.2 = (.error why, s₁) → Course s [] (.error why) s₁
  /-- The answer does not refuse the token, or there is none. -/
  | answered {r : Request} {answer : Answer} {s₁ : Credential × Host} :
      Attempt channel d base s r answer s₁ →
      (∀ a, answer = .ok a → isRefusal a.status = false) → Course s [r] answer s₁
  /-- The token is refused, and there is no other one. -/
  | unrenewed {r : Request} {a : Response} {s₁ s₂ : Credential × Host} :
      Attempt channel d base s r (.ok a) s₁ → isRefusal a.status = true →
      renewal d a s₁ = (.ok false, s₂) → Course s [r] (.ok a) s₂
  /-- The token is refused, and the refresh raises. -/
  | renewalRaises {r : Request} {a : Response} {s₁ s₂ : Credential × Host} {why : Raised} :
      Attempt channel d base s r (.ok a) s₁ → isRefusal a.status = true →
      renewal d a s₁ = (.error why, s₂) → Course s [r] (.error why) s₂
  /-- The token is refused and another one is stored, which cannot be read. -/
  | readingRaises {r : Request} {a : Response} {s₁ s₂ s₃ : Credential × Host} {why : Raised} :
      Attempt channel d base s r (.ok a) s₁ → isRefusal a.status = true →
      renewal d a s₁ = (.ok true, s₂) → s₂.1.currentToken s₂.2 = (.error why, s₃) →
      Course s [r] (.error why) s₃
  /-- The token is refused, another one is stored, and the answer to it is final. -/
  | retried {r r' : Request} {a : Response} {answer : Answer} {s₁ s₂ s₃ : Credential × Host} :
      Attempt channel d base s r (.ok a) s₁ → isRefusal a.status = true →
      renewal d a s₁ = (.ok true, s₂) → Attempt channel d base s₂ r' answer s₃ →
      Course s [r, r'] answer s₃

/-- The states of the credential and the host in which a request is sent: the first one, and the one
after an answer that refuses the token and a refresh that stores another. -/
inductive Sending (s : Credential × Host) : Credential × Host → Prop
  | first : Sending s s
  | again {r : Request} {a : Response} {s₁ s₂ : Credential × Host} :
      Attempt channel d base s r (.ok a) s₁ → isRefusal a.status = true →
      renewal d a s₁ = (.ok true, s₂) → Sending s s₂

end ways

variable {channel : Channel} {d : Draft} {base : List (String × String)}

theorem isAuthorized_bearing (d : Draft) (base : List (String × String)) (t : Token) :
    (bearing d base t).isAuthorized = true := by
  simp [Request.isAuthorized, bearing, Draft.request, Entries.lookup_put_self]

namespace Attempt

variable {s s₁ s₁' : Credential × Host} {r r' : Request} {answer answer' : Answer}

/-- There is one way in which an attempt can go. -/
theorem unique (ha : Attempt channel d base s r answer s₁)
    (ha' : Attempt channel d base s r' answer' s₁') : r = r' ∧ answer = answer' ∧ s₁ = s₁' := by
  obtain ⟨t, host, hread, hheld, rfl, hsend⟩ := ha
  obtain ⟨t', host', hread', hheld', rfl, hsend'⟩ := ha'
  rw [hread] at hread'
  obtain ⟨-, hc, rfl⟩ := by simpa only [Prod.mk.injEq] using hread'
  rw [← hc, hheld] at hheld'
  cases hheld'
  rw [hsend] at hsend'
  obtain ⟨ha, hh⟩ := by simpa only [Prod.mk.injEq] using hsend'
  exact ⟨rfl, ha, Prod.ext hc hh⟩

/-- There is one way in which the refresh after an attempt can go. -/
theorem renewal_unique {a a' : Response} {s₂ s₂' : Credential × Host}
    {renewed renewed' : Except Raised Bool} (ha : Attempt channel d base s r (.ok a) s₁)
    (ha' : Attempt channel d base s r' (.ok a') s₁') (hr : renewal d a s₁ = (renewed, s₂))
    (hr' : renewal d a' s₁' = (renewed', s₂')) : renewed = renewed' ∧ s₂ = s₂' := by
  obtain ⟨-, hanswer, rfl⟩ := ha.unique ha'
  cases hanswer
  rw [hr] at hr'
  exact Prod.mk.inj hr'

theorem reads (ha : Attempt channel d base s r answer s₁) :
    ∃ token, (s.1.currentToken s.2).1 = .ok token := by
  obtain ⟨t, host, hread, -⟩ := ha
  exact ⟨t.accessToken, by rw [hread]⟩

theorem eq_bearing (ha : Attempt channel d base s r answer s₁) : ∃ t, r = bearing d base t := by
  obtain ⟨t, host, -, -, hr, -⟩ := ha
  exact ⟨t, hr⟩

/-- One request is sent in an attempt, besides those for a token. -/
theorem sendsFrom {c : Credential} (hc : s.1.AsksAs c) (ha : Attempt channel d base s r answer s₁) :
    SendsFrom c channel s.2 s₁.2 [r] := by
  obtain ⟨t, host, hread, -, rfl, hsend⟩ := ha
  have hr := Credential.sendsFrom_currentToken channel hc s.2
  rw [hread] at hr
  have hs : SendsFrom c channel host (host.send channel (bearing d base t)).2 [bearing d base t] :=
    Credential.sendsFrom_send channel (isAuthorized_bearing d base t) host
  rw [hsend] at hs
  exact hr.trans hs

theorem asksAs {c : Credential} (hc : s.1.AsksAs c) (ha : Attempt channel d base s r answer s₁) :
    s₁.1.AsksAs c := by
  obtain ⟨t, host, hread, -⟩ := ha
  have hkept := Credential.asksAs_currentToken s.1 s.2
  rw [hread] at hkept
  exact hkept.trans hc

end Attempt

theorem sendsFrom_renewal {c : Credential} {a : Response} {s₁ s₂ : Credential × Host}
    {renewed : Except Raised Bool} (hc : s₁.1.AsksAs c) (hr : renewal d a s₁ = (renewed, s₂)) :
    SendsFrom c channel s₁.2 s₂.2 [] := by
  have hlog : SendsFrom c channel s₁.2 (s₁.2.log (.refreshingAfter a.status d.url)) [] :=
    ⟨[_], rfl, rfl⟩
  have hrefresh := Credential.sendsFrom_refresh channel hc
    (s₁.2.log (.refreshingAfter a.status d.url))
  rw [← renewal, hr] at hrefresh
  exact hlog.trans hrefresh

theorem asksAs_renewal {c : Credential} {a : Response} {s₁ s₂ : Credential × Host}
    {renewed : Except Raised Bool} (hc : s₁.1.AsksAs c) (hr : renewal d a s₁ = (renewed, s₂)) :
    s₂.1.AsksAs c := by
  have hkept := Credential.asksAs_refresh s₁.1 (s₁.2.log (.refreshingAfter a.status d.url))
  rw [← renewal, hr] at hkept
  exact hkept.trans hc

namespace Course

variable {s s' : Credential × Host} {sent : List Request} {outcome : Answer}

/-- The requests of a course are all that is sent, besides those for tokens. -/
theorem sendsFrom (hc : Course channel d base s sent outcome s') :
    SendsFrom s.1 channel s.2 s'.2 sent.reverse := by
  have hs := Credential.AsksAs.refl s.1
  cases hc with
  | tokenless hread =>
      have hr := Credential.sendsFrom_currentToken channel hs s.2
      rwa [hread] at hr
  | answered ha _ => exact ha.sendsFrom hs
  | unrenewed ha _ hr => exact (ha.sendsFrom hs).trans (sendsFrom_renewal (ha.asksAs hs) hr)
  | renewalRaises ha _ hr => exact (ha.sendsFrom hs).trans (sendsFrom_renewal (ha.asksAs hs) hr)
  | @readingRaises r a s₁ s₂ _ why ha _ hr hread =>
      have hrest :=
        Credential.sendsFrom_currentToken channel (asksAs_renewal (ha.asksAs hs) hr) s₂.2
      rw [hread] at hrest
      exact ((ha.sendsFrom hs).trans (sendsFrom_renewal (ha.asksAs hs) hr)).trans hrest
  | retried ha _ hr ha' =>
      exact ((ha.sendsFrom hs).trans (sendsFrom_renewal (ha.asksAs hs) hr)).trans
        (ha'.sendsFrom (asksAs_renewal (ha.asksAs hs) hr))

theorem length_le_two (hc : Course channel d base s sent outcome s') : sent.length ≤ 2 := by
  cases hc <;> simp

theorem eq_nil_iff (hc : Course channel d base s sent outcome s') :
    sent = [] ↔ ∃ why, (s.1.currentToken s.2).1 = .error why := by
  have hsome {r : Request} {answer : Answer} {s₁ : Credential × Host} {rest : List Request}
      (ha : Attempt channel d base s r answer s₁) :
      r :: rest = [] ↔ ∃ why, (s.1.currentToken s.2).1 = .error why := by
    obtain ⟨token, ht⟩ := ha.reads
    simp [ht]
  cases hc with
  | tokenless hread => exact ⟨fun _ => ⟨_, congrArg Prod.fst hread⟩, fun _ => rfl⟩
  | answered ha _ => exact hsome ha
  | unrenewed ha _ _ => exact hsome ha
  | renewalRaises ha _ _ => exact hsome ha
  | readingRaises ha _ _ _ => exact hsome ha
  | retried ha _ _ _ => exact hsome ha

/-- A second request is sent exactly if the token is refused, another one is stored, and it can be
read. -/
theorem length_eq_two_iff (hc : Course channel d base s sent outcome s') :
    sent.length = 2 ↔ ∃ r a s₁ s₂ token, Attempt channel d base s r (.ok a) s₁ ∧
      isRefusal a.status = true ∧ renewal d a s₁ = (.ok true, s₂) ∧
      (s₂.1.currentToken s₂.2).1 = .ok token := by
  constructor
  · intro hl
    cases hc with
    | retried ha hrefused hrenewed ha' =>
        obtain ⟨token, ht⟩ := ha'.reads
        exact ⟨_, _, _, _, token, ha, hrefused, hrenewed, ht⟩
    | _ => cases hl
  · rintro ⟨r, a, s₁, s₂, token, ha, hrefused, hrenewed, ht⟩
    cases hc with
    | tokenless hread' =>
        obtain ⟨token, hread⟩ := ha.reads
        rw [hread'] at hread
        cases hread
    | answered ha' hf =>
        rw [hf a (ha'.unique ha).2.1] at hrefused
        cases hrefused
    | unrenewed ha' _ hrenewed' =>
        cases (ha.renewal_unique ha' hrenewed hrenewed').1
    | renewalRaises ha' _ hrenewed' =>
        cases (ha.renewal_unique ha' hrenewed hrenewed').1
    | readingRaises ha' _ hrenewed' hread =>
        obtain ⟨-, rfl⟩ := ha.renewal_unique ha' hrenewed hrenewed'
        rw [hread] at ht
        cases ht
    | retried => rfl

/-- Each request is sent in one of the two states. -/
theorem sending (hc : Course channel d base s sent outcome s') {r : Request} (hr : r ∈ sent) :
    ∃ s₀ answer s₁, Sending channel d base s s₀ ∧ Attempt channel d base s₀ r answer s₁ := by
  have hfirst {r' : Request} {answer : Answer} {s₁ : Credential × Host}
      (ha : Attempt channel d base s r' answer s₁) (hr : r ∈ [r']) :
      ∃ s₀ answer s₁, Sending channel d base s s₀ ∧ Attempt channel d base s₀ r answer s₁ :=
    ⟨s, answer, s₁, .first, List.mem_singleton.mp hr ▸ ha⟩
  cases hc with
  | tokenless => cases hr
  | answered ha _ => exact hfirst ha hr
  | unrenewed ha _ _ => exact hfirst ha hr
  | renewalRaises ha _ _ => exact hfirst ha hr
  | readingRaises ha _ _ _ => exact hfirst ha hr
  | retried ha hrefused hrenewed ha' =>
      rcases List.mem_cons.mp hr with rfl | hr
      · exact hfirst ha List.mem_cons_self
      · exact ⟨_, _, _, .again ha hrefused hrenewed, List.mem_singleton.mp hr ▸ ha'⟩

theorem eq_bearing (hc : Course channel d base s sent outcome s') {r : Request} (hr : r ∈ sent) :
    ∃ t, r = bearing d base t := by
  obtain ⟨_, _, _, -, ha⟩ := hc.sending hr
  exact ha.eq_bearing

/-- An answer that is given is the one to the last request that was sent. -/
theorem last_of_ok {a : Response} (hc : Course channel d base s sent (.ok a) s') :
    ∃ r s₀ s₁, sent.getLast? = some r ∧ Attempt channel d base s₀ r (.ok a) s₁ := by
  cases hc with
  | answered ha _ => exact ⟨_, _, _, rfl, ha⟩
  | unrenewed ha _ _ => exact ⟨_, _, _, rfl, ha⟩
  | retried _ _ _ ha => exact ⟨_, _, _, rfl, ha⟩

end Course

/-! ### The copy of the headers -/

/-- The mapping of a number is the caller's headers, but for the header of authorization. -/
def IsCopy (n : Nat) (base : List (String × String)) (m : Mappings) : Prop :=
  n < m.size ∧ ∀ v, Entries.put (m.get n) "Authorization" v = Entries.put base "Authorization" v

theorem isCopy_add (m : Mappings) (base : List (String × String)) :
    IsCopy m.size base (m.add base).2 :=
  ⟨by simp, fun v => by rw [Mappings.get_add_self]⟩

theorem IsCopy.set {n : Nat} {m : Mappings} (hm : IsCopy n base m) (v : String) :
    IsCopy n base (m.set n (Entries.put (m.get n) "Authorization" v)) := by
  obtain ⟨hn, hput⟩ := hm
  refine ⟨by simpa using hn, fun w => ?_⟩
  rw [Mappings.get_set_self _ hn, Entries.put_put, hput]

variable {n : Nat} {m : Mappings}

/-- A request sent once from a copy: the token raises, or there is an attempt. -/
theorem sendOnce_cases (channel : Channel) (d : Draft) (hm : IsCopy n base m) (c : Credential)
    (h : Host) :
    let after := sendOnce c channel d n m h
    (∃ why, c.currentToken h = (.error why, after.2.2) ∧ after.1 = .error why) ∨
    ∃ r, Attempt channel d base (c, h) r after.1 after.2.2 := by
  unfold sendOnce authorize Credential.apply
  generalize ht : c.currentToken h = reading
  obtain ⟨token | token, c', h'⟩ := reading
  · exact .inl ⟨_, rfl, rfl⟩
  · obtain ⟨t, hheld, rfl⟩ := Credential.token_of_currentToken ht
    refine .inr ⟨bearing d base t, t, h', ht, hheld, rfl, ?_⟩
    dsimp only
    rw [Mappings.get_set_self _ hm.1, hm.2]
    rfl

/-- The mapping of a request stays a copy, and no other mapping is changed. -/
theorem mappings_sendOnce (channel : Channel) (d : Draft) (hm : IsCopy n base m) (c : Credential)
    (h : Host) :
    IsCopy n base (sendOnce c channel d n m h).2.1 ∧
      ∀ k, n ≠ k → (sendOnce c channel d n m h).2.1.get k = m.get k := by
  unfold sendOnce authorize Credential.apply
  obtain ⟨token | token, c', h'⟩ := c.currentToken h
  · exact ⟨hm, fun k _ => rfl⟩
  · exact ⟨hm.set _, fun k hk => Mappings.get_set_ne _ _ hk⟩

/-! ### The whole request -/

theorem get_request {k : Nat} {m : Mappings} (c : Credential) (channel : Channel) (d : Draft)
    (h : Host) (hk : k < m.size) : (request c channel d m h).2.1.get k = m.get k := by
  have hm := isCopy_add m (d.entries m)
  have hadd := Mappings.get_add_of_lt (d.entries m) hk
  have hne : m.size ≠ k := (Nat.ne_of_lt hk).symm
  have hn : (m.add (d.entries m)).1 = m.size := rfl
  unfold request
  simp only [hn]
  obtain ⟨hcopy, hkept⟩ := mappings_sendOnce channel d hm c h
  replace hkept := (hkept k hne).trans hadd
  generalize sendOnce c channel d m.size (m.add (d.entries m)).2 h = after at hcopy hkept ⊢
  obtain ⟨answer, m₁, c₁, h₁⟩ := after
  split <;> rename_i he <;> obtain ⟨rfl, rfl, rfl, rfl⟩ := by simpa only [Prod.mk.injEq] using he
  · exact hkept
  · split
    · split
      · exact hkept
      · exact hkept
      · exact ((mappings_sendOnce channel d hcopy _ _).2 k hne).trans hkept
    · exact hkept

/-- A request goes one of the ways. -/
theorem course_request (c : Credential) (channel : Channel) (d : Draft) (m : Mappings) (h : Host) :
    ∃ sent, Course channel d (d.entries m) (c, h) sent (request c channel d m h).1
      (request c channel d m h).2.2 := by
  have hm := isCopy_add m (d.entries m)
  have hn : (m.add (d.entries m)).1 = m.size := rfl
  unfold request
  simp only [hn]
  have hfirst := sendOnce_cases channel d hm c h
  have hcopy := (mappings_sendOnce channel d hm c h).1
  generalize sendOnce c channel d m.size (m.add (d.entries m)).2 h = after at hfirst hcopy ⊢
  obtain ⟨answer, m₁, s₁⟩ := after
  rcases hfirst with ⟨why, hread, rfl⟩ | ⟨r, ha⟩
  · exact ⟨[], .tokenless hread⟩
  · cases answer with
    | error why => exact ⟨[r], .answered ha (fun _ hw => by cases hw)⟩
    | ok a =>
        by_cases hrefused : isRefusal a.status = true
        · simp only [hrefused, if_true]
          generalize hr : s₁.1.refresh (s₁.2.log (.refreshingAfter a.status d.url)) = renewed
          obtain ⟨renewed, s₂⟩ := renewed
          cases renewed with
          | error why => exact ⟨[r], .renewalRaises ha hrefused hr⟩
          | ok stored =>
              cases stored with
              | false => exact ⟨[r], .unrenewed ha hrefused hr⟩
              | true =>
                  rcases sendOnce_cases channel d hcopy s₂.1 s₂.2 with
                    ⟨why, hread, hanswer⟩ | ⟨r', ha'⟩
                  · dsimp only
                    rw [hanswer]
                    exact ⟨[r], .readingRaises ha hrefused hr hread⟩
                  · exact ⟨[r, r'], .retried ha hrefused hr ha'⟩
        · simp only [hrefused]
          exact ⟨[r], .answered ha (fun a' he => by cases he; simpa using hrefused)⟩

/-- **A request and at most one more.**  Whatever the credential holds and whatever the transports
answer, a request for a caller goes one of the ways of `Course`, which leaves the credential and the
host as they then are.  Besides requests for tokens, nothing is sent to either transport but what is
sent on this way: nothing at all exactly if the first token cannot be had, two requests exactly if
the answer is one of the two refusals, the refresh then stores a token and this can be read, and
never more.  Each of them is as the caller put it, but for the header of authorization, which
carries the token that is held at that time.  An answer that is given is the one to the last request
sent.  The caller's mappings are left as they were. -/
theorem request_discipline (c : Credential) (channel : Channel) (d : Draft) (m : Mappings)
    (h : Host) :
    let base := d.headers.elim [] m.get
    let after := request c channel d m h
    ∃ sent : List Request,
      (besidesIn c (after.2.2.2.since h)).reverse = sent.map (Prod.mk channel) ∧
      Course channel d base (c, h) sent after.1 after.2.2 ∧
      sent.length ≤ 2 ∧
      (sent = [] ↔ ∃ why, (c.currentToken h).1 = .error why) ∧
      (sent.length = 2 ↔ ∃ r a s₁ s₂ token, Attempt channel d base (c, h) r (.ok a) s₁ ∧
        (a.status = 401 ∨ a.status = 403) ∧ renewal d a s₁ = (.ok true, s₂) ∧
        (s₂.1.currentToken s₂.2).1 = .ok token) ∧
      (∀ r ∈ sent, ∃ token : Token, r = ⟨d.method, d.url,
        some (Entries.put base "Authorization" ("Bearer " ++ token.accessToken.plain)), d.body,
        d.timeout⟩) ∧
      (∀ a, after.1 = .ok a → ∃ r s₀ s₁, sent.getLast? = some r ∧
        Attempt channel d base s₀ r (.ok a) s₁) ∧
      ∀ k < m.size, after.2.1.get k = m.get k := by
  intro base after
  have hbase : d.entries m = base := d.entries_eq m
  obtain ⟨sent, hc⟩ := course_request c channel d m h
  have hsent : besidesIn c (after.2.2.2.since h) = sent.reverse.map (Prod.mk channel) :=
    hc.sendsFrom.filterMap_since
  rw [hbase] at hc
  refine ⟨sent, by rw [hsent, List.map_reverse, List.reverse_reverse], hc, hc.length_le_two,
    hc.eq_nil_iff, ?_, fun r => hc.eq_bearing, fun a ha => ?_, fun k => get_request c channel d h⟩
  · simpa only [isRefusal_iff] using hc.length_eq_two_iff
  · exact Course.last_of_ok (ha ▸ hc)

/-- A refused token is replaced once, and the second refusal is what comes of it. -/
example :
    let c := Credential.fresh (.custom "sequence" "SequenceCredential"
      [.ok ⟨.text "old", none, []⟩, .ok ⟨.text "new", none, []⟩]) .main .json [] .standard
    let h := { Host.empty with main := [.ok ⟨401, [], []⟩, .ok ⟨403, [], []⟩] }
    let after :=
      request c .main ⟨"GET", .text "https://host/", some 0, none, none⟩ ⟨[[("a", "b")]]⟩ h
    after.1 = .ok ⟨403, [], []⟩ ∧ after.2.1.get 0 = [("a", "b")] ∧
      ((after.2.2.2.since h).filterMap Happening.sent?).reverse.map (·.2.headers) =
        [some [("a", "b"), ("Authorization", "Bearer old")],
          some [("a", "b"), ("Authorization", "Bearer new")]] :=
  ⟨rfl, rfl, rfl⟩

end Authorized
end DefaultCredentials
