import DefaultCredentials.Proofs.TokenAnswers

/-!
# Calls that raise

A call to a credential may be left by whatever its transport, its decoder or an identity service
raises.  A failure to refresh is recorded, and calls that read the token raise a copy of it
(`Call.RaisesRecorded`).  Anything else that leaves a call is to leave the slot as it was.

`Call.raises_iff` lists what a call raises, and `Call.slot_of_raised` says what it leaves: the slot
as it was, unless the exchange gave a token whose time left cannot be told (`Token.IsTimeless`).
That token is stored, and the failure on record cleared, before its time left is asked for.
-/

namespace DefaultCredentials

namespace Token

/-- A token that expires at no finite distance from the clock. -/
def IsTimeless (t : Token) (now : Float) : Prop :=
  ∃ expiry, t.expiresAt = some expiry ∧ ¬ Number.IsFinite (expiry - now)

variable {t : Token} {now : Float}

theorem expiresIn_of_isTimeless (ht : t.IsTimeless now) :
    ∃ trouble, t.expiresIn now = .error (.trouble trouble) := by
  obtain ⟨expiry, hx, hn⟩ := ht
  obtain ⟨why, hw⟩ := Number.truncate_of_not_isFinite hn
  exact ⟨.notWhole why, by simp [expiresIn, hx, hw]⟩

theorem isTimeless_of_expiresIn {why : Raised} (hw : t.expiresIn now = .error why) :
    t.IsTimeless now := by
  unfold expiresIn at hw
  split at hw
  · cases hw
  · rename_i expiry hx
    refine ⟨expiry, hx, fun hfinite => ?_⟩
    obtain ⟨n, hn⟩ := Number.truncate_of_isFinite hfinite
    rw [hn] at hw
    cases hw

end Token

namespace Credential.Settlement

theorem kind_of_recorded {outcome : Except Raised Token} {kept : Raised}
    (ho : of outcome = recorded kept) : kept.kind? = some .refreshFailed := by
  unfold of at ho
  split at ho
  · cases ho
  · split at ho
    · cases ho
      assumption
    · split at ho
      · cases ho
        rfl
      · cases ho

theorem of_eq_passed {outcome : Except Raised Token} {why : Raised} (ho : of outcome = passed why) :
    outcome = .error why ∧ why.kind? ≠ some .refreshFailed ∧ why.kind? ≠ some .transport := by
  unfold of at ho
  split at ho
  · cases ho
  · split at ho
    · cases ho
    · split at ho
      · cases ho
      · cases ho
        exact ⟨rfl, by assumption, by assumption⟩

end Credential.Settlement

namespace Call

open Credential (Settlement)

variable {x : Call} {c : Credential} {h : Host} {why : Raised}

/-- What a call raises that cannot be answered from the slot. -/
inductive Raises (x : Call) (c : Credential) (h : Host) : Raised → Prop
  /-- A copy of the failure that was recorded, by a call that reads the token. -/
  | recorded {kept : Raised} : x.IsReading → Settlement.of (c.fetch h).1 = .recorded kept →
      Raises x c h kept.replay
  /-- What the exchange raised. -/
  | passed {why : Raised} : Settlement.of (c.fetch h).1 = .passed why → Raises x c h why
  /-- That the time left of the new token cannot be told. -/
  | timeless {t : Token} {why : Raised} : (c.fetch h).1 = .ok t → t.expiresIn h.now = .error why →
      Raises x c h why

/-- A refresh raises what it does not record. -/
theorem refresh_raises_iff : (c.refresh h).1 = .error why ↔ Call.refresh.Raises c h why := by
  rw [Credential.refresh_answer]
  constructor
  · intro hr
    cases hs : Settlement.of (c.fetch h).1 with
    | stored t =>
        rw [hs] at hr
        refine .timeless (Settlement.of_eq_stored hs) ?_
        cases ht : t.expiresIn h.now with
        | ok seconds => simp [ht, Except.map] at hr
        | error why => simpa [ht, Except.map] using hr
    | recorded kept =>
        rw [hs] at hr
        cases hr
    | passed why =>
        rw [hs] at hr
        cases hr
        exact .passed hs
  · intro hr
    cases hr with
    | recorded hx hs => exact absurd rfl hx
    | passed hs => rw [hs]
    | timeless hf ht => simp [hf, Settlement.of, ht, Except.map]

/-- A call that reads the token, without a valid one, raises that it cannot be had. -/
theorem currentToken_raises_iff (hx : x.IsReading) (hn : c.slot.current? h.now = none) :
    (c.currentToken h).1 = .error why ↔ x.Raises c h why := by
  constructor
  · intro hr
    cases hs : Settlement.of (c.fetch h).1 with
    | stored t =>
        have hf := Settlement.of_eq_stored hs
        refine .timeless hf ?_
        rw [Credential.currentToken_of_token hn hf] at hr
        cases ht : t.expiresIn h.now with
        | ok seconds => simp [ht, Except.map] at hr
        | error why => simpa [ht, Except.map] using hr
    | recorded kept =>
        rw [Credential.currentToken_of_recorded hn hs] at hr
        cases hr
        exact .recorded hx hs
    | passed why =>
        rw [Credential.currentToken_of_passed hn hs] at hr
        cases hr
        exact .passed hs
  · intro hr
    cases hr with
    | recorded _ hs => exact Credential.currentToken_of_recorded hn hs
    | passed hs => exact Credential.currentToken_of_passed hn hs
    | timeless hf ht => simp [Credential.currentToken_of_token hn hf, ht, Except.map]

/-- **What a call raises.**  Nothing while it is answered from the slot, and else what is listed. -/
theorem raises_iff :
    (x.perform c h).1 = .error why ↔ ¬ x.IsQuiet c h ∧ x.Raises c h why := by
  by_cases hx : x.IsReading
  · rw [show (x.perform c h).1 = (Life.start c h).reply x from rfl, Life.reply_eq_error_iff hx]
    show (c.currentToken h).1 = _ ↔ _
    cases hv : c.slot.current? h.now with
    | none =>
        have hq : ¬ x.IsQuiet c h := fun hq => by simp [IsQuiet, Slot.isValid, hv] at hq
        rw [currentToken_raises_iff hx hv]
        exact ⟨fun hr => ⟨hq, hr⟩, fun hr => hr.2⟩
    | some t =>
        have hq : x.IsQuiet c h := ⟨hx, by simp [Slot.isValid, hv]⟩
        simp [Credential.currentToken_of_valid hv, hq]
  · obtain rfl : x = .refresh := Classical.byContradiction hx
    have hq : ¬ Call.refresh.IsQuiet c h := fun hq => hq.1 rfl
    have hanswer : (Call.refresh.perform c h).1 = .error why ↔ (c.refresh h).1 = .error why := by
      simp only [perform]
      cases (c.refresh h).1 <;> simp [Except.map]
    rw [hanswer, refresh_raises_iff]
    exact ⟨fun hr => ⟨hq, hr⟩, fun hr => hr.2⟩

/-- A call raises a copy of the failure that it recorded beside the token that was there. -/
def RaisesRecorded (x : Call) (c : Credential) (h : Host) (why : Raised) : Prop :=
  x.IsReading ∧ ∃ kept, (x.perform c h).2.1.slot = ⟨c.slot.token, some kept⟩ ∧
    kept.kind? = some .refreshFailed ∧ why.IsCopyOf kept

/-- What a call leaves that cannot be answered from the slot. -/
theorem slot_perform (hq : ¬ x.IsQuiet c h) :
    (x.perform c h).2.1.slot = (Settlement.of (c.fetch h).1).slot c.slot := by
  classical
  rw [perform_state, if_neg hq, Credential.slot_refresh]

theorem RaisesRecorded.kind (hr : x.RaisesRecorded c h why) : why.kind? = some .refreshFailed := by
  obtain ⟨-, kept, -, hk, -, hfault, -⟩ := hr
  rw [← hk]
  simp only [Raised.kind?, Raised.failure?, hfault]

/-- **What an exception leaves.**  Whatever a credential holds, whatever its decoder raises and
whatever is answered: a call is left by a copy of the failure that it recorded, or by something that
is no failure to refresh.  The latter leaves the token and the failure on record as they were if the
exchange gave no token.  It leaves no other exchange than one that gave a timeless token, and this
is then stored without a failure on record; and whatever gets a timeless token raises. -/
theorem slot_of_raised (x : Call) (c : Credential) (h : Host) :
    let slot := (x.perform c h).2.1.slot
    (∀ why, (x.perform c h).1 = .error why → ¬ x.RaisesRecorded c h why →
      why.kind? ≠ some .refreshFailed ∧
        ((∃ cause, (c.fetch h).1 = .error cause) ∧ slot = c.slot ∨
          ∃ t, (c.fetch h).1 = .ok t ∧ t.IsTimeless h.now ∧ slot = ⟨some t, none⟩)) ∧
    ∀ t, ¬ x.IsQuiet c h → (c.fetch h).1 = .ok t → t.IsTimeless h.now →
      slot = ⟨some t, none⟩ ∧
        ∃ why, (x.perform c h).1 = .error why ∧ ¬ x.RaisesRecorded c h why := by
  intro slot
  refine ⟨fun why hr hother => ?_, fun t hq hf ht => ?_⟩
  · obtain ⟨hq, hraises⟩ := raises_iff.mp hr
    have hslot : slot = (Settlement.of (c.fetch h).1).slot c.slot := slot_perform hq
    cases hraises with
    | @recorded kept hx hs =>
        refine absurd ⟨hx, kept, ?_, Settlement.kind_of_recorded hs, ?_⟩ hother
        · rw [hs] at hslot
          exact hslot
        · exact Raised.isCopyOf_replayAfter 0 kept
    | passed hs =>
        obtain ⟨hf, hkind, -⟩ := Settlement.of_eq_passed hs
        rw [hs] at hslot
        exact ⟨hkind, .inl ⟨⟨why, hf⟩, hslot⟩⟩
    | @timeless t _ hf hw =>
        have ht := Token.isTimeless_of_expiresIn hw
        obtain ⟨trouble, htrouble⟩ := Token.expiresIn_of_isTimeless ht
        rw [hf] at hslot
        cases hw.symm.trans htrouble
        exact ⟨nofun, .inr ⟨t, hf, ht, hslot⟩⟩
  · obtain ⟨trouble, htrouble⟩ := Token.expiresIn_of_isTimeless ht
    have hslot : slot = (Settlement.of (c.fetch h).1).slot c.slot := slot_perform hq
    rw [hf] at hslot
    refine ⟨hslot, .trouble trouble, raises_iff.mpr ⟨hq, .timeless hf htrouble⟩, fun hrec => ?_⟩
    cases hrec.kind

def interrupting : Decoder :=
  .refusing "interrupting" (.trouble (.reported .other "KeyboardInterrupt" ""))

/-- A refresh that is interrupted while it decodes the answer leaves the old token. -/
theorem slot_of_raised_interrupted :
    let c := { Credential.renewing with decoder := interrupting }
    let h := { Host.empty with main := [.ok ⟨200, [], []⟩] }
    ∃ why, (Call.refresh.perform c h).1 = .error why ∧ ¬ Call.refresh.RaisesRecorded c h why ∧
      (Call.refresh.perform c h).2.1.slot = ⟨some ⟨.text "old", none, []⟩, none⟩ := by
  intro c h
  have hf : (c.fetch h).1 = .error (.trouble (.reported .other "KeyboardInterrupt" "")) := rfl
  have hr : (Call.refresh.perform c h).1 =
      .error (.trouble (.reported .other "KeyboardInterrupt" "")) := rfl
  have hother : ¬ Call.refresh.RaisesRecorded c h
      (.trouble (.reported .other "KeyboardInterrupt" "")) := fun hrec => hrec.1 rfl
  refine ⟨_, hr, hother, ?_⟩
  obtain ⟨-, ⟨-, hslot⟩ | ⟨t, ht, -⟩⟩ := (slot_of_raised .refresh c h).1 _ hr hother
  · exact hslot
  · cases hf.symm.trans ht

theorem fetch_unending : ∃ t, (Credential.renewing.fetch Credential.unending).1 = .ok t ∧
    t.accessToken = .text "t" ∧ t.IsTimeless Credential.unending.now := by
  have hdoc : Decoder.IsDocument (Utf8.encode Credential.endless) _ :=
    ⟨Credential.endless, Utf8.decode_encode Credential.endless, Credential.read_endless⟩
  have hoffers : Token.Offers ⟨200, [], Utf8.encode Credential.endless⟩ _ := ⟨rfl, hdoc, rfl⟩
  obtain ⟨scopes, hf⟩ := Credential.fetch_of_answer (c := Credential.renewing)
    (h := Credential.unending) rfl (.compute rfl) rfl
  refine ⟨_, hf.trans (Token.ofResponse_of_toFloat hoffers rfl), rfl, _, rfl, ?_⟩
  exact Credential.not_isFinite_infinity

/-- There a refresh raises something else than what it records, and the old token is gone. -/
theorem slot_lost_unending :
    let c := Credential.renewing
    let h := Credential.unending
    ∃ why, (Call.refresh.perform c h).1 = .error why ∧ ¬ Call.refresh.RaisesRecorded c h why ∧
      (Call.refresh.perform c h).2.1.slot ≠ c.slot := by
  intro c h
  have hq : ¬ Call.refresh.IsQuiet c h := fun hq => hq.1 rfl
  obtain ⟨t, hf, haccess, ht⟩ := fetch_unending
  obtain ⟨trouble, htrouble⟩ := Token.expiresIn_of_isTimeless ht
  refine ⟨_, raises_iff.mpr ⟨hq, .timeless hf htrouble⟩, fun hrec => hrec.1 rfl, fun hsame => ?_⟩
  have hslot : (⟨some t, none⟩ : Slot) = ⟨some ⟨.text "old", none, []⟩, none⟩ := by
    rw [slot_perform hq, hf] at hsame
    exact hsame
  cases hslot
  simp at haccess

end Call
end DefaultCredentials
