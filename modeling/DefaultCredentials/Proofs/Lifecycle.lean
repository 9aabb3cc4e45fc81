import DefaultCredentials.Proofs.TraceView

/-!
# The life of a credential

A caller refreshes a credential, asks it for its access token, or has it set a header.  Between
calls the process goes on elsewhere: time passes, answers arrive, the host changes at will.  A
`Life` is a credential in its host after such a history, together with every exchange that was
made for it, and `Life.run` lets it go through a list of moves.

* `Life.settled_run`: the slot of a credential is a function of its exchanges, `slotAfter`.  The
  token is that of the last exchange that gave one, and the failure is that of the last exchange,
  if it failed.
* `Life.lifecycle` adds what the next call does, whichever it is: how many exchanges it makes, what
  it answers, and which failure it raises.

Exchanges are told from the trace, where `Credential.fetch` keeps each of them.
-/

namespace DefaultCredentials

/-- Whether a double stands for a number. -/
def Number.IsFinite (x : Float) : Prop :=
  ∃ negative mantissa exponent, Number.parts x = .finite negative mantissa exponent

theorem Number.truncate_of_isFinite {x : Float} (hx : Number.IsFinite x) :
    ∃ n, Number.truncate x = .ok n := by
  obtain ⟨negative, mantissa, exponent, hp⟩ := hx
  exact ⟨_, by rw [Number.truncate, hp]⟩

/-- An exchange: the clock and what it came to. -/
structure Exchange where
  clock : Float
  outcome : Except Raised Token

namespace Exchange

/-- The token that an exchange gave. -/
def token? (e : Exchange) : Option Token :=
  e.outcome.toOption

/-- What is recorded of an exchange that failed.  A failure of the transport is recorded as a
failure to refresh that it led to. -/
def failure? (e : Exchange) : Option Raised :=
  match e.outcome with
  | .ok _ => none
  | .error why =>
    if why.kind? = some .transport then
      some (.because (.refreshFailed (.text ("Token exchange failed: " ++ why.text)) .null) why)
    else some why

/-- How a failed exchange is recorded: a failure to refresh as it is, and a failure of the transport
as a failure to refresh that it led to. -/
inductive RecordOf : Raised → Raised → Prop
  | itself {why : Raised} : why.kind? = some .refreshFailed → RecordOf why why
  | ledTo {why kept : Raised} : why.kind? = some .transport → kept.kind? = some .refreshFailed →
      kept.text = "Token exchange failed: " ++ why.text →
      kept.causes = why.occurrence :: why.causes → RecordOf why kept

/-- An exchange that gave a token whose expiry, if it has one, is at a finite distance from the
clock, or that ended in a failure to refresh or in one of the transport. -/
def IsOrdinary (e : Exchange) : Prop :=
  match e.outcome with
  | .ok t => ∀ expiry, t.expiresAt = some expiry → Number.IsFinite (expiry - e.clock)
  | .error why => why.kind? = some .refreshFailed ∨ why.kind? = some .transport

end Exchange

/-- The exchanges among what happened, the last first. -/
def exchangesIn (happenings : List Happening) : List Exchange :=
  happenings.filterMap fun x => match x with
    | .exchanged clock outcome => some ⟨clock, outcome⟩
    | _ => none

/-- The slot of a credential after exchanges, the last first. -/
def slotAfter (exchanges : List Exchange) : Slot where
  token := exchanges.findSome? Exchange.token?
  lastFailure := exchanges.head?.bind Exchange.failure?

/-- What a caller asks of a credential. -/
inductive Call
  | refresh
  | token
  | apply (headers : List (String × String))

/-- What a call gives. -/
inductive Reply
  | refreshed (isStored : Bool)
  | token (accessToken : Value)
  | headers (entries : List (String × String))

namespace Call

def perform (c : Credential) (h : Host) : Call → Except Raised Reply × Credential × Host
  | refresh => let (answer, c, h) := c.refresh h; (answer.map .refreshed, c, h)
  | token => let (answer, c, h) := c.currentToken h; (answer.map .token, c, h)
  | apply headers => let (answer, c, h) := c.apply headers h; (answer.map .headers, c, h)

/-- Whether a call reads the token. -/
def IsReading (x : Call) : Prop :=
  x ≠ refresh

end Call

/-- What happens in turn: a call, or whatever leaves another host. -/
inductive Move
  | call (x : Call)
  | elsewhere (h : Host)

/-- A credential in its host, and the exchanges made for it so far, the last first. -/
structure Life where
  credential : Credential
  host : Host
  exchanges : List Exchange

namespace Life

def reply (l : Life) (x : Call) : Except Raised Reply :=
  (x.perform l.credential l.host).1

/-- The exchanges that a call makes. -/
def exchangedBy (l : Life) (x : Call) : List Exchange :=
  exchangesIn ((x.perform l.credential l.host).2.2.since l.host)

/-- The life after a call. -/
def after (l : Life) (x : Call) : Life where
  credential := (x.perform l.credential l.host).2.1
  host := (x.perform l.credential l.host).2.2
  exchanges := l.exchangedBy x ++ l.exchanges

/-- The life after a move. -/
def step (l : Life) : Move → Life
  | .call x => l.after x
  | .elsewhere h => { l with host := h }

def run (l : Life) (moves : List Move) : Life :=
  moves.foldl step l

/-- The life of a credential for which no exchange was made yet. -/
def start (c : Credential) (h : Host) : Life :=
  ⟨c, h, []⟩

theorem run_cons (l : Life) (m : Move) (moves : List Move) :
    l.run (m :: moves) = (l.step m).run moves := rfl

/-- The slot is what the exchanges left. -/
def IsSettled (l : Life) : Prop :=
  l.credential.slot = slotAfter l.exchanges

end Life

namespace Credential

/-! ### One refresh -/

theorem exchangesIn_refresh (c : Credential) (h : Host) :
    exchangesIn ((c.refresh h).2.2.since h) = [⟨h.now, (c.fetch h).1⟩] :=
  (shows_refresh ⟨fun _ _ => rfl, fun _ => rfl, fun _ => rfl⟩ h).filterMap_since

@[simp] theorem now_fetch (c : Credential) (h : Host) : (c.fetch h).2.2.now = h.now := by
  rw [host_fetch, Host.note, now_exchange]

@[simp] theorem now_refresh (c : Credential) (h : Host) : (c.refresh h).2.2.now = h.now := by
  rcases host_refresh c h with heq | ⟨e, heq⟩ <;> rw [heq]
  · exact now_fetch c h
  · exact now_fetch c h

/-- The answer of a refresh: whether the exchange gave a token, or else what passes. -/
theorem refresh_answer (c : Credential) (h : Host) :
    (c.refresh h).1 = match Settlement.of (c.fetch h).1 with
      | .stored t => (t.expiresIn h.now).map fun _ => true
      | .recorded _ => .ok false
      | .passed why => .error why := by
  unfold refresh
  dsimp only
  rw [now_fetch]
  cases Settlement.of (c.fetch h).1 with
  | stored t => cases ht : t.expiresIn h.now <;> simp [ht, Except.map]
  | recorded failure => rfl
  | passed why => rfl

/-! ### One reading of the token -/

section invalid

variable {c : Credential} {h : Host} (hn : c.slot.current? h.now = none)
include hn

theorem currentToken_state : (c.currentToken h).2 = (c.refresh h).2 := by
  unfold currentToken
  rw [hn]
  dsimp only
  split <;> rename_i hr <;> rw [hr]

/-- Without a valid token, the answer to reading it is told by what a refresh leaves. -/
theorem currentToken_answer :
    (c.currentToken h).1 = match (c.refresh h).1 with
      | .ok true => (c.refresh h).2.1.storedToken
      | .ok false => .error (c.refresh h).2.1.recordedFailure
      | .error why => .error why := by
  unfold currentToken
  rw [hn]
  dsimp only
  split <;> rename_i hr <;> rw [hr]

theorem currentToken_of_token {t : Token} (ht : (c.fetch h).1 = .ok t) :
    (c.currentToken h).1 = (t.expiresIn h.now).map fun _ => t.accessToken := by
  have hs : (c.refresh h).2.1.slot = ⟨some t, none⟩ := by rw [slot_refresh, ht]; rfl
  have ha := refresh_answer c h
  rw [ht] at ha
  rw [currentToken_answer hn, ha]
  cases he : t.expiresIn h.now with
  | ok seconds => simp [Settlement.of, he, Except.map, storedToken, hs]
  | error why => simp [Settlement.of, he, Except.map]

theorem currentToken_of_recorded {kept : Raised}
    (hk : Settlement.of (c.fetch h).1 = .recorded kept) :
    (c.currentToken h).1 = .error kept.replay := by
  have hs : (c.refresh h).2.1.slot = ⟨c.slot.token, some kept⟩ := by rw [slot_refresh, hk]; rfl
  rw [currentToken_answer hn, refresh_answer, hk]
  simp [recordedFailure, hs]

theorem currentToken_of_passed {why : Raised} (hp : Settlement.of (c.fetch h).1 = .passed why) :
    (c.currentToken h).1 = .error why := by
  rw [currentToken_answer hn, refresh_answer, hp]

end invalid

end Credential

namespace Call

/-- Whether a call is answered from the slot. -/
def IsQuiet (x : Call) (c : Credential) (h : Host) : Prop :=
  x.IsReading ∧ c.slot.isValid h.now = true

/-- A call leaves all as it was, or it leaves what one refresh leaves. -/
theorem perform_state (x : Call) (c : Credential) (h : Host) [Decidable (x.IsQuiet c h)] :
    (x.perform c h).2 = if x.IsQuiet c h then (c, h) else (c.refresh h).2 := by
  have hread : (c.currentToken h).2 =
      if c.slot.isValid h.now = true then (c, h) else (c.refresh h).2 := by
    cases hv : c.slot.current? h.now with
    | none => simp [Slot.isValid, hv, Credential.currentToken_state hv]
    | some t => simp [Slot.isValid, hv, Credential.currentToken_of_valid hv]
  cases x with
  | refresh => simp [perform, IsQuiet, IsReading]
  | token => simp [perform, IsQuiet, IsReading, hread]
  | apply headers =>
      have happly : ((apply headers).perform c h).2 = (c.currentToken h).2 := by
        unfold perform Credential.apply
        dsimp only
        split <;> simp_all
      simp [happly, IsQuiet, IsReading, hread]

end Call

/-! ### Histories of exchanges -/

theorem Exchange.exists_recorded {e : Exchange} {why : Raised} (he : e.IsOrdinary)
    (hw : e.outcome = .error why) :
    ∃ kept, Credential.Settlement.of e.outcome = .recorded kept ∧ e.failure? = some kept ∧
      RecordOf why kept := by
  simp only [IsOrdinary, hw] at he
  rcases he with hk | hk
  · refine ⟨why, ?_, ?_, .itself hk⟩
    · simp [Credential.Settlement.of, hw, hk]
    · simp [failure?, hw, hk]
  · refine ⟨.because (.refreshFailed (.text ("Token exchange failed: " ++ why.text)) .null) why,
      ?_, ?_, .ledTo hk rfl rfl rfl⟩
    · simp [Credential.Settlement.of, hw, hk]
    · simp [failure?, hw, hk]

theorem Exchange.expiresIn_of_isOrdinary {e : Exchange} {t : Token} (he : e.IsOrdinary)
    (ht : e.outcome = .ok t) : ∃ seconds, t.expiresIn e.clock = .ok seconds := by
  simp only [IsOrdinary, ht] at he
  unfold Token.expiresIn
  split
  · exact ⟨_, rfl⟩
  · rename_i expiry hx
    obtain ⟨n, hn⟩ := Number.truncate_of_isFinite (he expiry hx)
    exact ⟨_, by rw [hn]⟩

theorem lastFailure_slotAfter_eq_none_iff {es : List Exchange} (ho : ∀ e ∈ es, e.IsOrdinary) :
    (slotAfter es).lastFailure = none ↔ ∀ e, es.head? = some e → ∃ t, e.outcome = .ok t := by
  cases es with
  | nil => simp [slotAfter]
  | cons e es =>
      have hhead : (slotAfter (e :: es)).lastFailure = e.failure? := rfl
      simp only [hhead, List.head?_cons, Option.some.injEq, forall_eq']
      cases hout : e.outcome with
      | ok t => simp [Exchange.failure?, hout]
      | error why =>
          obtain ⟨kept, -, hf, -⟩ := Exchange.exists_recorded (ho e List.mem_cons_self) hout
          simp [hf]

theorem lastFailure_slotAfter_of_error {es : List Exchange} (ho : ∀ e ∈ es, e.IsOrdinary)
    {e : Exchange} {why : Raised} (he : es.head? = some e) (hw : e.outcome = .error why) :
    ∃ kept, (slotAfter es).lastFailure = some kept ∧ Exchange.RecordOf why kept := by
  obtain ⟨kept, -, hf, hr⟩ := Exchange.exists_recorded (ho e (List.mem_of_mem_head? he)) hw
  refine ⟨kept, ?_, hr⟩
  rw [slotAfter, he]
  exact hf

theorem slotAfter_cons {e : Exchange} (he : e.IsOrdinary) (es : List Exchange) :
    slotAfter (e :: es) = (Credential.Settlement.of e.outcome).slot (slotAfter es) := by
  cases ho : e.outcome with
  | ok t => simp [slotAfter, Exchange.token?, Exchange.failure?, ho, Except.toOption,
      Credential.Settlement.of, Credential.Settlement.slot]
  | error why =>
      obtain ⟨kept, hs, hf, -⟩ := Exchange.exists_recorded he ho
      have ht : e.token? = none := by simp [Exchange.token?, ho, Except.toOption]
      rw [← ho, hs]
      simp [slotAfter, hf, ht, Credential.Settlement.slot]

namespace Life

variable {l : Life} {x : Call}

theorem exchangedBy_of_quiet (hq : x.IsQuiet l.credential l.host) : l.exchangedBy x = [] := by
  classical
  unfold exchangedBy
  rw [Call.perform_state, if_pos hq, Host.since_self]
  rfl

theorem exchangedBy_of_not_quiet (hq : ¬ x.IsQuiet l.credential l.host) :
    l.exchangedBy x = [⟨l.host.now, (l.credential.fetch l.host).1⟩] := by
  classical
  unfold exchangedBy
  rw [Call.perform_state, if_neg hq]
  exact Credential.exchangesIn_refresh ..

/-- An ordinary call keeps the slot what the exchanges left. -/
theorem IsSettled.after (hl : l.IsSettled) (ho : ∀ e ∈ l.exchangedBy x, e.IsOrdinary) :
    (l.after x).IsSettled := by
  classical
  by_cases hq : x.IsQuiet l.credential l.host
  · simp only [IsSettled, Life.after, exchangedBy_of_quiet hq]
    rw [Call.perform_state, if_pos hq]
    exact hl
  · rw [exchangedBy_of_not_quiet hq] at ho
    simp only [IsSettled, Life.after, exchangedBy_of_not_quiet hq, List.cons_append,
      List.nil_append]
    rw [Call.perform_state, if_neg hq, Credential.slot_refresh,
      slotAfter_cons (ho _ List.mem_cons_self), hl]

/-- Exchanges are never forgotten. -/
theorem suffix_run (l : Life) (moves : List Move) : l.exchanges <:+ (l.run moves).exchanges := by
  induction moves generalizing l with
  | nil => exact List.suffix_refl _
  | cons m moves ih =>
      rw [run_cons]
      refine List.IsSuffix.trans ?_ (ih _)
      cases m with
      | call x => exact List.suffix_append ..
      | elsewhere h => exact List.suffix_refl _

/-- Ordinary moves keep the slot what the exchanges left. -/
theorem settled_run (hl : l.IsSettled) (moves : List Move)
    (ho : ∀ e ∈ (l.run moves).exchanges, e.IsOrdinary) : (l.run moves).IsSettled := by
  induction moves generalizing l with
  | nil => exact hl
  | cons m moves ih =>
      rw [run_cons] at ho ⊢
      refine ih ?_ ho
      cases m with
      | call x =>
          -- What this call exchanged is among the exchanges of the whole run.
          refine hl.after fun e he => ho e ?_
          exact (suffix_run _ moves).subset (List.mem_append_left _ he)
      | elsewhere h => exact hl

/-! ### What a call does -/

theorem refresh_of_ordinary (ho : ∀ e ∈ l.exchangedBy .refresh, e.IsOrdinary) :
    ∃ e, l.exchangedBy .refresh = [e] ∧ l.reply .refresh = .ok (.refreshed e.token?.isSome) := by
  have hx : l.exchangedBy .refresh = [⟨l.host.now, (l.credential.fetch l.host).1⟩] :=
    exchangedBy_of_not_quiet fun hq => hq.1 rfl
  rw [hx] at ho
  have he := ho _ List.mem_cons_self
  refine ⟨_, hx, ?_⟩
  simp only [reply, Call.perform, Credential.refresh_answer]
  cases hf : (l.credential.fetch l.host).1 with
  | ok t =>
      obtain ⟨seconds, hs⟩ := Exchange.expiresIn_of_isOrdinary he hf
      simp only at hs
      simp [Credential.Settlement.of, hs, Except.map, Exchange.token?, Except.toOption]
  | error why =>
      obtain ⟨kept, hs, -⟩ := Exchange.exists_recorded he hf
      rw [hf] at hs
      simp [hs, Except.map, Exchange.token?, Except.toOption]

theorem reply_eq_error_iff (hx : x.IsReading) {why : Raised} :
    l.reply x = .error why ↔ (l.credential.currentToken l.host).1 = .error why := by
  cases x with
  | refresh => exact absurd rfl hx
  | token =>
      simp only [reply, Call.perform]
      cases (l.credential.currentToken l.host).1 <;> simp [Except.map]
  | apply headers =>
      simp only [reply, Call.perform, Credential.apply]
      split <;> rename_i ht <;> simp [ht, Except.map]

theorem reply_of_quiet (hq : x.IsQuiet l.credential l.host) : ∃ r, l.reply x = .ok r := by
  cases hr : l.reply x with
  | ok r => exact ⟨r, rfl⟩
  | error why =>
      rw [reply_eq_error_iff hq.1] at hr
      obtain ⟨t, ht⟩ := Option.isSome_iff_exists.mp hq.2
      rw [Credential.currentToken_of_valid ht] at hr
      cases hr

/-- An ordinary reading without a valid token raises exactly if its exchange failed, and then it
raises a copy of the failure that it recorded beside the token that was there. -/
theorem reading_of_ordinary (hx : x.IsReading) (hv : l.credential.slot.isValid l.host.now = false)
    (ho : ∀ e ∈ l.exchangedBy x, e.IsOrdinary) :
    ∃ e, l.exchangedBy x = [e] ∧
      ((∃ why, l.reply x = .error why) ↔ ∃ why, e.outcome = .error why) ∧
      ∀ why, l.reply x = .error why →
        ∃ kept, (l.after x).credential.slot = ⟨l.credential.slot.token, some kept⟩ ∧
          why.IsCopyOf kept := by
  classical
  have hq : ¬ x.IsQuiet l.credential l.host := fun hq => by simp [hq.2] at hv
  have hn : l.credential.slot.current? l.host.now = none := by
    simpa [Slot.isValid] using hv
  have he := exchangedBy_of_not_quiet hq
  rw [he] at ho
  replace ho := ho _ List.mem_cons_self
  simp only [reply_eq_error_iff hx]
  refine ⟨_, he, ?_⟩
  simp only
  cases hf : (l.credential.fetch l.host).1 with
  | ok t =>
      obtain ⟨seconds, hs⟩ := Exchange.expiresIn_of_isOrdinary ho hf
      simp only at hs
      simp [Credential.currentToken_of_token hn hf, hs, Except.map]
  | error why =>
      obtain ⟨kept, hs, -⟩ := Exchange.exists_recorded ho hf
      have hr := Credential.currentToken_of_recorded hn hs
      refine ⟨⟨fun _ => ⟨why, rfl⟩, fun _ => ⟨_, hr⟩⟩, fun raised hraised => ⟨kept, ?_, ?_⟩⟩
      · simp only [Life.after]
        rw [Call.perform_state, if_neg hq, Credential.slot_refresh, hs]
        rfl
      · rw [hr] at hraised
        cases hraised
        exact Raised.isCopyOf_replayAfter 0 kept

/-- **The life of a credential.**  After any calls, made at any times in any hosts, whose exchanges
were ordinary: the token is that of the last exchange that gave one; no failure is held exactly if
the last exchange, if there was one, gave a token, and else the held failure is that of the last
exchange.  Of the next call: a refresh makes one exchange and says whether it gave a token; a call
that reads the token makes no exchange and raises nothing if the token is valid, and otherwise
makes one, raises exactly if that failed, and raises a copy of the failure that is held from then
on, beside the token that was there. -/
theorem lifecycle (c : Credential) (h : Host) (moves : List Move) (hc : c.slot = .empty)
    (ho : ∀ e ∈ ((start c h).run moves).exchanges, e.IsOrdinary) :
    let l := (start c h).run moves
    let slot := l.credential.slot
    slot.token = l.exchanges.findSome? Exchange.token? ∧
    (slot.lastFailure = none ↔ ∀ e, l.exchanges.head? = some e → ∃ t, e.outcome = .ok t) ∧
    (∀ e why, l.exchanges.head? = some e → e.outcome = .error why →
      ∃ kept, slot.lastFailure = some kept ∧ Exchange.RecordOf why kept) ∧
    ((∀ e ∈ l.exchangedBy .refresh, e.IsOrdinary) →
      ∃ e, l.exchangedBy .refresh = [e] ∧
        l.reply .refresh = .ok (.refreshed e.token?.isSome)) ∧
    ∀ x : Call, x.IsReading → (∀ e ∈ l.exchangedBy x, e.IsOrdinary) →
      (slot.isValid l.host.now = true → l.exchangedBy x = [] ∧ ∃ r, l.reply x = .ok r) ∧
      (slot.isValid l.host.now = false → ∃ e, l.exchangedBy x = [e] ∧
        ((∃ why, l.reply x = .error why) ↔ ∃ why, e.outcome = .error why) ∧
        ∀ why, l.reply x = .error why →
          ∃ kept, (l.after x).credential.slot = ⟨slot.token, some kept⟩ ∧
            why.IsCopyOf kept) := by
  have hs : ((start c h).run moves).IsSettled := settled_run (by rw [IsSettled, start, hc]; rfl)
    moves ho
  generalize (start c h).run moves = l at ho hs
  intro l' slot
  have hslot : slot = slotAfter l.exchanges := hs
  have hnone : slot.lastFailure = none ↔
      ∀ e, l.exchanges.head? = some e → ∃ t, e.outcome = .ok t := by
    rw [hslot]
    exact lastFailure_slotAfter_eq_none_iff ho
  have hsome : ∀ e why, l.exchanges.head? = some e → e.outcome = .error why →
      ∃ kept, slot.lastFailure = some kept ∧ Exchange.RecordOf why kept := by
    rw [hslot]
    exact fun e why he hw => lastFailure_slotAfter_of_error ho he hw
  refine ⟨congrArg Slot.token hslot, hnone, hsome, refresh_of_ordinary, fun x hx hox => ⟨?_, ?_⟩⟩
  · exact fun hv => ⟨exchangedBy_of_quiet ⟨hx, hv⟩, reply_of_quiet ⟨hx, hv⟩⟩
  · exact fun hv => reading_of_ordinary hx hv hox

/-- A credential that gives a token for an hour and is then cut off, read once while the hour lasts
and once after it. -/
def outage : Life :=
  (start (.fresh (.custom "sequence" "SequenceCredential"
      [.ok ⟨.text "first", some 3600.0, []⟩, .error (.failure (.transport "down"))])
    .main .json [] .standard) .empty).run
    [.call .token, .elsewhere { Host.empty with now := 4000.0 }, .call (.apply [])]

theorem exchanges_outage :
    outage.exchanges = [⟨4000.0, .error (.failure (.transport "down"))⟩,
      ⟨0.0, .ok ⟨.text "first", some 3600.0, []⟩⟩] := rfl

theorem isOrdinary_outage : ∀ e ∈ outage.exchanges, e.IsOrdinary := by
  rw [exchanges_outage]
  intro e he
  rcases List.mem_cons.mp he with rfl | he
  · exact Or.inr rfl
  · rw [List.mem_singleton.mp he]
    intro expiry hx
    cases hx
    exact ⟨_, _, _, rfl⟩

/-- After an outage the expired token is still held, beside the failure that the outage led to. -/
theorem lifecycle_outage :
    (∀ e ∈ outage.exchanges, e.IsOrdinary) ∧
    outage.credential.slot.token = some ⟨.text "first", some 3600.0, []⟩ ∧
    (∃ kept, outage.credential.slot.lastFailure = some kept ∧
      Exchange.RecordOf (.failure (.transport "down")) kept) ∧
    ∃ e, outage.exchangedBy .token = [e] := by
  have hl := lifecycle (.fresh (.custom "sequence" "SequenceCredential"
      [.ok ⟨.text "first", some 3600.0, []⟩, .error (.failure (.transport "down"))])
    .main .json [] .standard) .empty
    [.call .token, .elsewhere { Host.empty with now := 4000.0 }, .call (.apply [])]
    rfl isOrdinary_outage
  obtain ⟨htoken, -, hkept, -, hread⟩ := hl
  refine ⟨isOrdinary_outage, htoken, hkept _ _ rfl rfl, ?_⟩
  have hnext : ∀ e ∈ outage.exchangedBy .token, e.IsOrdinary := by
    intro e he
    rw [List.mem_singleton.mp he]
    exact Or.inl rfl
  obtain ⟨e, he, -⟩ := (hread .token (by simp [Call.IsReading]) hnext).2 rfl
  exact ⟨e, he⟩

end Life
end DefaultCredentials
