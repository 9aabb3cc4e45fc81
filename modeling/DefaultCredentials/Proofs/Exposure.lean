import DefaultCredentials.Proofs.Lifecycle

/-!
# Which tokens are given out

A call that reads the token gives out the access token that is stored when it returns, by itself
or in the header that it sets.  A stored token is looked at before it is given out, but a token
that the call itself fetched is not: `Life.expired_iff_fetched` says that a token is given out
past its time exactly if this very call fetched it and it came with no more than the buffer of
time left, and `Life.expired_token_given` is a run where that happens.
-/

namespace DefaultCredentials

/-- Whether a reply gives out an access token. -/
def Reply.Shows : Reply → Value → Prop
  | refreshed _, _ => False
  | token accessToken, v => accessToken = v
  | headers entries, v => entries.lookup "Authorization" = some ("Bearer " ++ v.plain)

theorem Token.isValid_eq_false_iff {t : Token} {now : Float} :
    t.isValid now = false ↔
      ∃ expiry, t.expiresAt = some expiry ∧ ¬ now < expiry - Token.buffer := by
  unfold isValid isValidWithin
  cases t.expiresAt with
  | none => simp
  | some expiry => simp

namespace Life

variable {l : Life} {x : Call}

theorem shows_of_reply {r : Reply} (hx : x.IsReading) (hr : l.reply x = .ok r) :
    ∃ v, (l.credential.currentToken l.host).1 = .ok v ∧ r.Shows v := by
  cases x with
  | refresh => exact absurd rfl hx
  | token =>
      simp only [reply, Call.perform] at hr
      cases hv : (l.credential.currentToken l.host).1 with
      | ok v =>
          rw [hv] at hr
          cases hr
          exact ⟨v, rfl, rfl⟩
      | error why => rw [hv] at hr; cases hr
  | apply headers =>
      simp only [reply, Call.perform, Credential.apply] at hr
      split at hr
      · rename_i v c h hv
        cases hr
        exact ⟨v, by rw [hv], Entries.lookup_put_self ..⟩
      · cases hr

/-- A quiet call gives out the stored token, which is valid. -/
theorem currentToken_of_quiet (hq : x.IsQuiet l.credential l.host) :
    ∃ t, (l.after x).credential.slot.token = some t ∧
      (l.credential.currentToken l.host).1 = .ok t.accessToken ∧
      t.isValid (l.after x).host.now = true := by
  classical
  obtain ⟨t, ht⟩ := Option.isSome_iff_exists.mp hq.2
  have hstate : (x.perform l.credential l.host).2 = (l.credential, l.host) := by
    rw [Call.perform_state, if_pos hq]
  obtain ⟨hs, hv⟩ := Option.filter_eq_some_iff.mp ht
  refine ⟨t, ?_, by rw [Credential.currentToken_of_valid ht], ?_⟩
  · simp only [Life.after, hstate]
    exact hs
  · simpa only [Life.after, hstate] using hv

/-- Any other call that gives out a token gives out the one that it fetched. -/
theorem currentToken_of_not_quiet {v : Value} (hx : x.IsReading)
    (hq : ¬ x.IsQuiet l.credential l.host) (hv : (l.credential.currentToken l.host).1 = .ok v) :
    ∃ t, (l.after x).credential.slot.token = some t ∧ v = t.accessToken ∧
      l.exchangedBy x = [⟨l.host.now, .ok t⟩] ∧ (l.after x).host.now = l.host.now := by
  classical
  have hn : l.credential.slot.current? l.host.now = none := by
    simpa [Call.IsQuiet, hx, Slot.isValid] using hq
  have hstate : (x.perform l.credential l.host).2 = (l.credential.refresh l.host).2 := by
    rw [Call.perform_state, if_neg hq]
  have hslot := Credential.slot_refresh l.credential l.host
  cases hs : Credential.Settlement.of (l.credential.fetch l.host).1 with
  | stored t =>
      have hf : (l.credential.fetch l.host).1 = .ok t := Credential.Settlement.of_eq_stored hs
      refine ⟨t, ?_, ?_, ?_, ?_⟩
      · simp only [Life.after, hstate, hslot, hs]
        rfl
      · rw [Credential.currentToken_of_token hn hf] at hv
        cases he : t.expiresIn l.host.now with
        | ok seconds => rw [he] at hv; cases hv; rfl
        | error why => rw [he] at hv; cases hv
      · rw [exchangedBy_of_not_quiet hq, hf]
      · simp only [Life.after, hstate, Credential.now_refresh]
  | recorded kept => rw [Credential.currentToken_of_recorded hn hs] at hv; cases hv
  | passed why => rw [Credential.currentToken_of_passed hn hs] at hv; cases hv

/-- **Which tokens are given out.**  Whatever happened before, a call that gives out a token gives
out the one that is stored when it returns, and that one is past its time exactly if this very
call fetched it and it came with no more than the buffer of time left. -/
theorem expired_iff_fetched (c : Credential) (h : Host) (moves : List Move) (x : Call) (r : Reply)
    (hx : x.IsReading) (hr : ((start c h).run moves).reply x = .ok r) :
    let l := (start c h).run moves
    ∃ t, (l.after x).credential.slot.token = some t ∧ r.Shows t.accessToken ∧
      (t.isValid (l.after x).host.now = false ↔
        l.exchangedBy x = [⟨l.host.now, .ok t⟩] ∧
          ∃ expiry, t.expiresAt = some expiry ∧ ¬ l.host.now < expiry - Token.buffer) := by
  intro l
  obtain ⟨v, hv, hshows⟩ := shows_of_reply hx hr
  by_cases hq : x.IsQuiet l.credential l.host
  · obtain ⟨t, hs, ht, hvalid⟩ := currentToken_of_quiet hq
    rw [ht] at hv
    cases hv
    refine ⟨t, hs, hshows, ?_⟩
    rw [exchangedBy_of_quiet hq, hvalid]
    simp
  · obtain ⟨t, hs, rfl, he, hnow⟩ := currentToken_of_not_quiet hx hq hv
    exact ⟨t, hs, hshows, by rw [he, hnow, Token.isValid_eq_false_iff]; simp⟩

/-- A credential that gave a token for an hour, within that hour. -/
def withinHour : Life :=
  (start (.fresh (.custom "sequence" "SequenceCredential" [.ok ⟨.text "first", some 3600.0, []⟩])
    .main .json [] .standard) .empty).run
    [.call .token, .elsewhere { Host.empty with now := 3000.0 }]

/-- Within its hour a token that was fetched before is given out, and it is valid. -/
theorem expired_iff_fetched_withinHour :
    withinHour.reply (.apply []) = .ok (.headers [("Authorization", "Bearer first")]) ∧
    ∃ t, (withinHour.after (.apply [])).credential.slot.token = some t ∧
      (Reply.headers [("Authorization", "Bearer first")]).Shows t.accessToken ∧
      t.isValid (withinHour.after (.apply [])).host.now = true := by
  obtain ⟨t, hs, hshows, hiff⟩ := expired_iff_fetched
    (.fresh (.custom "sequence" "SequenceCredential" [.ok ⟨.text "first", some 3600.0, []⟩])
      .main .json [] .standard) .empty
    [.call .token, .elsewhere { Host.empty with now := 3000.0 }] (.apply [])
    (.headers [("Authorization", "Bearer first")]) (by simp [Call.IsReading]) rfl
  refine ⟨rfl, t, hs, hshows, ?_⟩
  rw [← Bool.not_eq_false]
  intro hfalse
  have hnone : withinHour.exchangedBy (.apply []) = [] := rfl
  exact absurd ((hiff.mp hfalse).1.symm.trans hnone) (List.cons_ne_nil _ _)

def spent : Life :=
  start (.ofCompute .main
      (.constant "fixed" (.object [("access_token", .text "t"), ("expires_in", .int 0)])) .standard)
    { Host.empty with main := [.ok ⟨200, [], []⟩] }

/-- A token that has expired is given out. -/
theorem expired_token_given :
    ∃ t, (spent.after .token).credential.slot.token = some t ∧
      spent.reply .token = .ok (.token t.accessToken) ∧
      t.isValid (spent.after .token).host.now = false :=
  ⟨⟨.text "t", some 0.0, []⟩, rfl, rfl, by decide⟩

end Life
end DefaultCredentials
