import DefaultCredentials.Proofs.Crowd
import DefaultCredentials.Proofs.Lifecycle

/-!
# Readers share exchanges

Any number of callers read the token of one credential or refresh it, each at its own pace.  A
reader looks at the slot without the lock; if it finds no valid token it waits for the lock, checks
again inside, and only then makes an exchange.  Between two steps of any caller another may take
its own, the clock may be moved, and the host may change at will.

An exchange takes time.  `Credential.begin` is what a refresh does before its answer is there, and
`Credential.complete` what it does then; `Credential.refresh_eq` puts them together.

* `Sharing.solo`: a caller that nobody interferes with gets what its call gives.
* `Sharing.exchanges_shared`: whatever the interleaving, there is one exchange at a time, a reader
  begins one only if it has to, it returns a token that was there during its call, and one token is
  enough for all readers as long as it is valid and nobody refreshes.
-/

namespace DefaultCredentials

/-! ### An exchange in two parts -/

/-- What an exchange that was begun comes to: an outcome that is known, or the answer of a
transport or of an identity service, from which a token is made when it is there. -/
inductive Awaited
  | outcome (o : Except Raised Token)
  | answer (scopes : Scopes) (a : Answer)
  | identity (scopes : Scopes) (a : Option IdentityAnswer)

namespace Credential

/-- Begins an exchange: what has to be sent is sent. -/
def begin (c : Credential) (h : Host) : Awaited × Credential × Host :=
  match c.material with
  | .serviceAccount key uri signer =>
    match assertion key uri signer c.scopes h.now with
    | .error why => (.outcome (.error why), c, h)
    | .ok a =>
      let (answer, h) := c.post uri (assertionFields a) h
      (.answer c.scopes answer, c, h)
  | .user grant uri =>
    let (answer, h) := c.post uri (grantFields grant) h
    (.answer [] answer, c, h)
  | .compute =>
    let (answer, h) := h.send c.channel (computeRequest c.settings)
    (.answer [] answer, c, h)
  | .appIdentity =>
    let (answer, h) := h.askIdentity c.scopes
    (.identity c.scopes answer, c, h)
  | .custom kind label exchanges =>
    match exchanges with
    | [] => (.outcome (.error (exhausted h)), c, h)
    | outcome :: rest => (.outcome outcome, { c with material := .custom kind label rest }, h)

/-- The token that was waited for, with the clock as it then stands. -/
def awaited (c : Credential) (now : Float) : Awaited → Except Raised Token
  | .outcome o => o
  | .answer scopes a => c.tokenOf scopes now a
  | .identity scopes a => tokenOfIdentity scopes a

/-- Puts the outcome of an exchange into the slot and tells whether it gave a token. -/
def settle (c : Credential) (outcome : Except Raised Token) (h : Host) :
    Except Raised Bool × Credential × Host :=
  let settled := Settlement.of outcome
  let c := { c with slot := settled.slot c.slot }
  match settled with
  | .stored t =>
    match t.expiresIn h.now with
    | .ok seconds => (.ok true, c, h.log (.tokenRefreshed c.kind seconds))
    | .error why => (.error why, c, h)
  | .recorded failure => (.ok false, c, h.log (.tokenRefreshFailed c.kind failure.text))
  | .passed why => (.error why, c, h)

/-- Ends an exchange that was begun. -/
def complete (c : Credential) (a : Awaited) (h : Host) : Except Raised Bool × Credential × Host :=
  c.settle (c.awaited h.now a) (h.note (.exchanged h.now (c.awaited h.now a)))

variable (c : Credential) (a : Awaited) (h : Host)

theorem exchange_eq :
    c.exchange h = let (a, c, h) := c.begin h; (c.awaited h.now a, c, h) := by
  unfold exchange begin
  cases c.material with
  | serviceAccount key uri signer =>
      dsimp only
      cases assertion key uri signer c.scopes h.now <;> rfl
  | custom kind label exchanges => cases exchanges <;> rfl
  | _ => rfl

/-- A refresh is an exchange that is begun and ended. -/
theorem refresh_eq : c.refresh h = let (a, c, h) := c.begin h; c.complete a h := by
  have hrefresh : c.refresh h = (c.fetch h).2.1.settle (c.fetch h).1 (c.fetch h).2.2 := rfl
  rw [hrefresh, fetch, exchange_eq]
  rfl

theorem slot_begin : (c.begin h).2.1.slot = c.slot := by
  have hslot := slot_fetch c h
  simp only [fetch, exchange_eq] at hslot
  exact hslot

theorem now_begin : (c.begin h).2.2.now = h.now := by
  have hnow := now_exchange c h
  rw [exchange_eq] at hnow
  exact hnow

theorem slot_complete :
    (c.complete a h).2.1.slot = (Settlement.of (c.awaited h.now a)).slot c.slot := by
  unfold complete settle
  dsimp only
  split
  · split <;> rfl
  · rfl
  · rfl

theorem now_complete : (c.complete a h).2.2.now = h.now := by
  unfold complete settle
  dsimp only
  split
  · split <;> rfl
  · rfl
  · rfl

end Credential

/-! ### Callers -/

namespace Sharing

/-- What a caller is there for: to read the token or to refresh it. -/
inductive Errand
  | read
  | refresh
  deriving DecidableEq

/-- A credential that callers share, in its host. -/
structure Shared where
  credential : Credential
  host : Host

/-- How far a caller is: not there yet, before its first look, at the lock, inside before its second
look, inside without a valid token, waiting for the answer to its exchange, about to free the lock
with an answer, or back with it. -/
inductive Stage
  | away
  | looking
  | waiting (e : Errand)
  | entered
  | ready (e : Errand)
  | exchanging (e : Errand) (a : Awaited)
  | leaving (answer : Except Raised Reply)
  | done (answer : Except Raised Reply)

namespace Stage

/-- Whether a caller holds the lock. -/
def holds : Stage → Bool
  | entered | ready _ | exchanging _ _ | leaving _ => true
  | _ => false

/-- Whether a caller is making an exchange. -/
def isExchanging : Stage → Bool
  | exchanging _ _ => true
  | _ => false

/-- Whether a caller has called and did not return yet. -/
def isCalling : Stage → Bool
  | away | done _ => false
  | _ => true

/-- The answer that a caller has. -/
def answer? : Stage → Option (Except Raised Reply)
  | leaving answer | done answer => some answer
  | _ => none

end Stage

namespace Errand

/-- The call that a caller makes. -/
def call : Errand → Call
  | read => .token
  | refresh => .refresh

/-- Where a caller starts: only a reader looks before it goes to the lock. -/
def first : Errand → Stage
  | read => .looking
  | refresh => .waiting .refresh

/-- Where a caller is once it has the lock: only a reader looks again. -/
def inside : Errand → Stage
  | read => .entered
  | refresh => .ready .refresh

/-- The answer to a caller whose exchange has ended. -/
def answer (e : Errand) (result : Except Raised Bool) (c : Credential) : Except Raised Reply :=
  match e with
  | refresh => result.map .refreshed
  | read =>
    match result with
    | .ok true => c.storedToken.map .token
    | .ok false => .error c.recordedFailure
    | .error why => .error why

theorem token_of_answer {e : Errand} {result : Except Raised Bool} {c : Credential} {v : Value}
    (h : e.answer result c = .ok (.token v)) :
    ∃ t, c.slot.token = some t ∧ t.accessToken = v := by
  cases e with
  | refresh => cases result <;> cases h
  | read =>
      unfold answer at h
      dsimp only at h
      split at h
      · unfold Credential.storedToken at h
        split at h
        · rename_i t ht
          cases h
          exact ⟨t, ht, rfl⟩
        · cases h
      · cases h
      · cases h

end Errand

/-- What happens in turn: a step of a caller, or whatever leaves another host. -/
inductive Act
  | arrive (p : Nat) (e : Errand)
  | look (p : Nat)
  | acquire (p : Nat)
  | recheck (p : Nat)
  | start (p : Nat)
  | finish (p : Nat)
  | release (p : Nat)
  | elsewhere (h : Host)

def Act.caller? : Act → Option Nat
  | .arrive p _ | .look p | .acquire p | .recheck p | .start p | .finish p | .release p => some p
  | .elsewhere _ => none

/-- Whether it is a step on the way out: no caller arrives, and no exchange begins or ends. -/
def Act.isPassing : Act → Bool
  | .look _ | .acquire _ | .recheck _ | .release _ => true
  | _ => false

/-- Callers of one credential. -/
abbrev State := Crowd Shared Stage

def slotOf (s : State) : Slot :=
  s.world.credential.slot

def nowOf (s : State) : Float :=
  s.world.host.now

/-- The stored token, if it is valid by the clock. -/
def validToken? (s : State) : Option Token :=
  (slotOf s).current? (nowOf s)

/-- The steps that can be taken. -/
inductive Step : Act → State → State → Prop
  | arrive {s : State} {p : Nat} (e : Errand) : s.stage p = .away →
      Step (.arrive p e) s (s.put p e.first)
  | found {s : State} {p : Nat} {t : Token} : s.stage p = .looking → validToken? s = some t →
      Step (.look p) s (s.put p (.done (.ok (.token t.accessToken))))
  | missed {s : State} {p : Nat} : s.stage p = .looking → validToken? s = none →
      Step (.look p) s (s.put p (.waiting .read))
  | acquire {s : State} {p : Nat} {e : Errand} : s.stage p = .waiting e → s.holder = none →
      Step (.acquire p) s (s.take p e.inside)
  | refound {s : State} {p : Nat} {t : Token} : s.stage p = .entered → validToken? s = some t →
      Step (.recheck p) s (s.put p (.leaving (.ok (.token t.accessToken))))
  | remissed {s : State} {p : Nat} : s.stage p = .entered → validToken? s = none →
      Step (.recheck p) s (s.put p (.ready .read))
  | start {s : State} {p : Nat} {e : Errand} {a : Awaited} {c : Credential} {h : Host} :
      s.stage p = .ready e → s.world.credential.begin s.world.host = (a, c, h) →
      Step (.start p) s (s.putIn p (.exchanging e a) ⟨c, h⟩)
  | finish {s : State} {p : Nat} {e : Errand} {a : Awaited} {result : Except Raised Bool}
      {c : Credential} {h : Host} :
      s.stage p = .exchanging e a →
      s.world.credential.complete a s.world.host = (result, c, h) →
      Step (.finish p) s (s.putIn p (.leaving (e.answer result c)) ⟨c, h⟩)
  | release {s : State} {p : Nat} {answer : Except Raised Reply} : s.stage p = .leaving answer →
      Step (.release p) s (s.free p (.done answer))
  | elsewhere {s : State} (h : Host) :
      Step (.elsewhere h) s { s with world := { s.world with host := h } }

/-- A credential that nobody has called yet. -/
def opening (c : Credential) (h : Host) : State :=
  ⟨⟨c, h⟩, none, fun _ => .away⟩

variable {s s' m : State} {a : Act} {acts : List Act} {p q : Nat} {c : Credential} {h : Host}

/-! ### One step -/

theorem Step.stage_of_ne (hs : Step a s s') (hp : a.caller? ≠ some p) :
    s'.stage p = s.stage p := by
  have hne {q : Nat} (hq : some q ≠ some p) : p ≠ q := fun he => hq (congrArg some he.symm)
  cases hs with
  | elsewhere h => rfl
  | _ => simp [hne hp]

theorem Step.isGuarded (hs : Step a s s') (hg : s.IsGuarded Stage.holds) :
    s'.IsGuarded Stage.holds := by
  cases hs with
  | arrive e hp => exact hg.put (by rw [hp]; cases e <;> rfl)
  | found hp _ => exact hg.put (by rw [hp]; rfl)
  | missed hp _ => exact hg.put (by rw [hp]; rfl)
  | @acquire _ p e hp hfree => exact hg.take hfree (by cases e <;> rfl)
  | refound hp _ => exact hg.put (by rw [hp]; rfl)
  | remissed hp _ => exact hg.put (by rw [hp]; rfl)
  | start hp _ => exact hg.putIn (by rw [hp]; rfl) _
  | finish hp _ => exact hg.putIn (by rw [hp]; rfl) _
  | release hp => exact hg.free (by rw [hp]; rfl) rfl
  | elsewhere h => exact hg

/-- Only the end of an exchange changes the slot. -/
theorem Step.slotOf_eq (hs : Step a s s') (ha : ∀ p, a ≠ .finish p) : slotOf s' = slotOf s := by
  cases hs with
  | @start _ p e a c h hp hb =>
      have hslot := Credential.slot_begin s.world.credential s.world.host
      rw [hb] at hslot
      exact hslot
  | finish hp hf => exact absurd rfl (ha _)
  | _ => rfl

theorem Step.nowOf_eq (hs : Step a s s') (ha : ∀ h, a ≠ .elsewhere h) : nowOf s' = nowOf s := by
  cases hs with
  | @start _ p e a c h hp hb =>
      have hnow := Credential.now_begin s.world.credential s.world.host
      rw [hb] at hnow
      exact hnow
  | @finish _ p e a result c h hp hf =>
      have hnow := Credential.now_complete s.world.credential a s.world.host
      rw [hf] at hnow
      exact hnow
  | elsewhere h => exact absurd rfl (ha h)
  | _ => rfl

theorem Step.slotOf_eq_of_holds (hs : Step a s s') (hg : s.IsGuarded Stage.holds)
    (hp : (s.stage p).holds = true) (ha : a.caller? ≠ some p) : slotOf s' = slotOf s := by
  refine hs.slotOf_eq fun q hq => ?_
  subst hq
  cases hs with
  | finish hq _ =>
      have heq : q = p := hg.eq (by rw [hq]; rfl) hp
      exact ha (congrArg some heq)

theorem isGuarded_opening (c : Credential) (h : Host) :
    (opening c h).IsGuarded Stage.holds :=
  fun _ => ⟨nofun, nofun⟩

theorem isGuarded_of_run (hr : Crowd.Run Step (opening c h) acts s) :
    s.IsGuarded Stage.holds :=
  hr.invariant (isGuarded_opening c h) fun _ _ _ hs => hs.isGuarded

/-! ### What a reader returns -/

theorem token_of_validToken? {t : Token} (hv : validToken? s = some t) :
    (slotOf s).token = some t :=
  (Option.filter_eq_some_iff.mp hv).1

/-- A value with which a caller leaves is one that it had already, or one that is in the slot before
or after this step, while it is at it. -/
theorem Step.answer_cases (hs : Step a s s') {v : Value}
    (hv : (s'.stage p).answer? = some (.ok (.token v))) :
    (s.stage p).answer? = some (.ok (.token v)) ∨
      ((s.stage p).isCalling = true ∧ ∃ t, (slotOf s).token = some t ∧ t.accessToken = v) ∨
      ((s'.stage p).isCalling = true ∧ ∃ t, (slotOf s').token = some t ∧ t.accessToken = v) := by
  by_cases hp : a.caller? = some p
  · cases hs with
    | elsewhere h => cases hp
    | @arrive _ _ e hq => cases hp; cases e <;> simp [Errand.first, Stage.answer?] at hv
    | @acquire _ _ e hq _ => cases hp; cases e <;> simp [Errand.inside, Stage.answer?] at hv
    | missed hq _ => cases hp; simp [Stage.answer?] at hv
    | remissed hq _ => cases hp; simp [Stage.answer?] at hv
    | start hq _ => cases hp; simp [Stage.answer?] at hv
    | @found _ _ t hq ht =>
        cases hp
        simp only [Crowd.stage_put, if_true, Stage.answer?] at hv
        cases hv
        exact .inr (.inl ⟨by rw [hq]; rfl, t, token_of_validToken? ht, rfl⟩)
    | @refound _ _ t hq ht =>
        cases hp
        simp only [Crowd.stage_put, if_true, Stage.answer?] at hv
        cases hv
        exact .inr (.inl ⟨by rw [hq]; rfl, t, token_of_validToken? ht, rfl⟩)
    | @finish _ _ e _ result c h hq _ =>
        cases hp
        simp only [Crowd.stage_putIn, if_true, Stage.answer?, Option.some.injEq] at hv
        obtain ⟨t, ht, rfl⟩ := Errand.token_of_answer hv
        exact .inr (.inr ⟨by simp [Stage.isCalling], t, ht, rfl⟩)
    | release hq =>
        cases hp
        simp only [Crowd.stage_free, if_true] at hv
        exact .inl (by rw [hq]; exact hv)
  · exact .inl (by rw [← hs.stage_of_ne hp]; exact hv)

/-- What a caller returns was in the slot while it was at it. -/
theorem answer_was_stored (hr : Crowd.Run Step (opening c h) acts s) {v : Value}
    (hv : (s.stage p).answer? = some (.ok (.token v))) :
    Crowd.Once Step (opening c h) acts s fun m =>
      (m.stage p).isCalling = true ∧ ∃ t, (slotOf m).token = some t ∧ t.accessToken = v := by
  induction hr with
  | nil => cases hv
  | snoc hr hs ih =>
      rcases hs.answer_cases hv with hbefore | hbefore | hafter
      · exact (ih hbefore).later hs
      · exact (Crowd.Once.now hr hbefore).later hs
      · exact Crowd.Once.now (hr.snoc hs) hafter

/-! ### Why a reader begins an exchange -/

/-- A reader that is ready for an exchange saw no valid token when it looked inside the lock, and
the slot is as it was then. -/
theorem ready_missed (hr : Crowd.Run Step (opening c h) acts s)
    (hp : s.stage p = .ready .read) :
    Crowd.Once Step (opening c h) acts s fun m => m.stage p = .entered ∧ m.holder = some p ∧
      slotOf m = slotOf s ∧ validToken? m = none := by
  induction hr with
  | nil => cases hp
  | @snoc acts a m s hr hs ih =>
      have hg := isGuarded_of_run hr
      by_cases ha : a.caller? = some p
      · cases hs with
        | elsewhere h => cases ha
        | @arrive _ _ e hq => cases ha; cases e <;> simp [Errand.first] at hp
        | @acquire _ _ e hq _ => cases ha; cases e <;> simp [Errand.inside] at hp
        | remissed hq hn =>
            cases ha
            have hholder := (hg p).mp (by rw [hq]; rfl)
            exact (Crowd.Once.now hr ⟨hq, hholder, rfl, hn⟩).later (.remissed hq hn)
        | _ => cases ha; simp at hp
      · rw [hs.stage_of_ne ha] at hp
        have hslot := hs.slotOf_eq_of_holds hg (by rw [hp]; rfl) ha
        rw [hslot]
        exact (ih hp).later hs

/-! ### One token for all readers -/

/-- Whether a caller at a stage may yet make an exchange though there is a valid token. -/
def Stage.isBent : Stage → Bool
  | waiting .refresh | ready _ | exchanging _ _ => true
  | _ => false

/-- A reader that will return this value, or has. -/
inductive Stage.Serves (v : Value) : Stage → Prop
  | away : Serves v .away
  | looking : Serves v .looking
  | waiting : Serves v (.waiting .read)
  | entered : Serves v .entered
  | leaving : Serves v (.leaving (.ok (.token v)))
  | done : Serves v (.done (.ok (.token v)))

/-- A valid token is there, and nobody is about to replace it. -/
structure Serving (t : Token) (s : State) : Prop where
  token : (slotOf s).token = some t
  isValid : t.isValid (nowOf s) = true
  settled : ∀ p, (s.stage p).isBent = false

/-- Nobody calls to refresh, and the clock stays where the token is valid. -/
structure Spares (t : Token) (a : Act) : Prop where
  noRefresh : ∀ p, a ≠ .arrive p .refresh
  isValid : ∀ h, a = .elsewhere h → t.isValid h.now = true

variable {t : Token}

theorem Serving.validToken? (hv : Serving t s) : validToken? s = some t := by
  rw [Sharing.validToken?, Slot.current?, hv.token]
  simp [hv.isValid]

theorem Serving.not_start (hv : Serving t s) (hs : Step a s s') (p : Nat) : a ≠ .start p := by
  rintro rfl
  cases hs with
  | start hp _ =>
      have hbent := hv.settled p
      rw [hp] at hbent
      cases hbent

theorem Serving.not_finish (hv : Serving t s) (hs : Step a s s') (p : Nat) : a ≠ .finish p := by
  rintro rfl
  cases hs with
  | finish hp _ =>
      have hbent := hv.settled p
      rw [hp] at hbent
      cases hbent

theorem Serving.isBent_eq_false (hv : Serving t s) (hs : Step a s s') (ha : Spares t a)
    (hp : a.caller? = some p) : (s'.stage p).isBent = false := by
  have hserved := hv.validToken?
  cases hs with
  | elsewhere h => cases hp
  | @arrive _ _ e _ =>
      cases hp
      cases e with
      | read => simp [Errand.first, Stage.isBent]
      | refresh => exact absurd rfl (ha.noRefresh _)
  | @acquire _ _ e hq _ =>
      cases hp
      have hbent := hv.settled p
      rw [hq] at hbent
      cases e with
      | read => simp [Errand.inside, Stage.isBent]
      | refresh => cases hbent
  | remissed _ hn =>
      rw [hserved] at hn
      cases hn
  | start _ _ => exact absurd rfl (hv.not_start (.start ‹_› ‹_›) _)
  | _ => cases hp; simp [Stage.isBent]

theorem Serving.step (hv : Serving t s) (hs : Step a s s') (ha : Spares t a) : Serving t s' where
  token := by
    rw [hs.slotOf_eq (hv.not_finish hs)]
    exact hv.token
  isValid := by
    by_cases hclock : ∃ h, a = .elsewhere h
    · obtain ⟨h, rfl⟩ := hclock
      cases hs
      exact ha.isValid h rfl
    · rw [hs.nowOf_eq (not_exists.mp hclock)]
      exact hv.isValid
  settled p := by
    by_cases hp : a.caller? = some p
    · exact hv.isBent_eq_false hs ha hp
    · rw [hs.stage_of_ne hp]
      exact hv.settled p

theorem Serving.serves (hv : Serving t s) (hs : Step a s s') (ha : Spares t a)
    (hp : (s.stage p).Serves t.accessToken) : (s'.stage p).Serves t.accessToken := by
  have hserved := hv.validToken?
  by_cases hcaller : a.caller? = some p
  · cases hs with
    | elsewhere h => cases hcaller
    | @arrive _ _ e _ =>
        cases hcaller
        cases e with
        | read => simpa [Errand.first] using .looking
        | refresh => exact absurd rfl (ha.noRefresh _)
    | found _ ht =>
        cases hcaller
        rw [hserved] at ht
        cases ht
        simpa using .done
    | missed _ hn =>
        rw [hserved] at hn
        cases hn
    | @acquire _ _ e hq _ =>
        cases hcaller
        rw [hq] at hp
        cases hp
        simpa [Errand.inside] using .entered
    | refound _ ht =>
        cases hcaller
        rw [hserved] at ht
        cases ht
        simpa using .leaving
    | remissed _ hn =>
        rw [hserved] at hn
        cases hn
    | start hq _ => exact absurd rfl (hv.not_start (.start hq ‹_›) _)
    | finish hq _ => exact absurd rfl (hv.not_finish (.finish hq ‹_›) _)
    | release hq =>
        cases hcaller
        rw [hq] at hp
        cases hp
        simpa using .done
  · rw [hs.stage_of_ne hcaller]
    exact hp

/-- After a run that spares the token it is still there, no exchange was begun, and readers are on
their way to return it. -/
theorem Serving.run (hv : Serving t s) (hr : Crowd.Run Step s acts s')
    (ha : ∀ a ∈ acts, Spares t a) :
    Serving t s' ∧ (∀ p, .start p ∉ acts) ∧
      ∀ p, (s.stage p).Serves t.accessToken → (s'.stage p).Serves t.accessToken := by
  induction hr with
  | nil => exact ⟨hv, fun _ => List.not_mem_nil, fun _ hp => hp⟩
  | @snoc acts a m s' _ hs ih =>
      obtain ⟨hm, hnone, hserves⟩ := ih fun b hb => ha b (List.mem_append_left _ hb)
      have hspares := ha a (List.mem_append_right _ List.mem_cons_self)
      refine ⟨hm.step hs hspares, fun p hp => ?_, fun p hp => hm.serves hs hspares (hserves p hp)⟩
      rcases List.mem_append.mp hp with hbefore | hlast
      · exact hnone p hbefore
      · exact hm.not_start hs p (List.mem_singleton.mp hlast).symm

/-- The end of an exchange that gave a valid token leaves it there, unless somebody waits to refresh
it. -/
theorem serving_of_finish (hg : s.IsGuarded Stage.holds) {e : Errand} {awaited : Awaited}
    (hp : s.stage p = .exchanging e awaited) (hs : Step (.finish p) s s')
    (ht : s.world.credential.awaited (nowOf s) awaited = .ok t)
    (hvalid : t.isValid (nowOf s) = true) (hq : ∀ q, s.stage q ≠ .waiting .refresh) :
    Serving t s' := by
  have hholds : (s.stage p).holds = true := by rw [hp]; rfl
  have hnow : nowOf s' = nowOf s := hs.nowOf_eq fun h => nofun
  have hothers {q : Nat} (hne : q ≠ p) : s'.stage q = s.stage q :=
    hs.stage_of_ne fun heq => hne (Option.some.inj heq).symm
  cases hs with
  | @finish _ _ e' awaited' result c h hp' hf =>
      cases hp.symm.trans hp'
      refine ⟨?_, by rw [hnow]; exact hvalid, fun q => ?_⟩
      · have hslot := Credential.slot_complete s.world.credential awaited s.world.host
        rw [hf] at hslot
        have hnew : slotOf (s.putIn p (.leaving (e.answer result c)) ⟨c, h⟩) = c.slot := rfl
        rw [hnew, hslot]
        simp only [nowOf] at ht
        rw [ht]
        rfl
      · by_cases hqp : q = p
        · simp [hqp, Stage.isBent]
        · rw [hothers hqp]
          have hfree := hg.not_holds hholds hqp
          have hwaits := hq q
          cases hstage : s.stage q with
          | waiting e =>
              cases e with
              | read => rfl
              | refresh => exact absurd hstage hwaits
          | ready e => rw [hstage] at hfree; cases hfree
          | exchanging e a => rw [hstage] at hfree; cases hfree
          | _ => rfl

/-! ### Readers come back -/

theorem spares_of_isPassing (ha : a.isPassing = true) : Spares t a where
  noRefresh p he := by rw [he] at ha; cases ha
  isValid h he := by rw [he] at ha; cases ha

theorem Serving.return_of_holds (hv : Serving t s) (hp : (s.stage p).holds = true) :
    ∃ acts s', Crowd.Run Step s acts s' ∧ (∀ a ∈ acts, a.isPassing = true) ∧ s'.holder = none ∧
      ((s.stage p).Serves t.accessToken → s'.stage p = .done (.ok (.token t.accessToken))) ∧
      ∀ q, q ≠ p → s'.stage q = s.stage q := by
  have hbent := hv.settled p
  cases hstage : s.stage p with
  | away => rw [hstage] at hp; cases hp
  | looking => rw [hstage] at hp; cases hp
  | waiting e => rw [hstage] at hp; cases hp
  | done answer => rw [hstage] at hp; cases hp
  | ready e => rw [hstage] at hbent; cases hbent
  | exchanging e awaited => rw [hstage] at hbent; cases hbent
  | entered =>
      let inside := s.put p (.leaving (.ok (.token t.accessToken)))
      have hcheck : Step (.recheck p) s inside := .refound hstage hv.validToken?
      have hleave : Step (.release p) inside (inside.free p (.done (.ok (.token t.accessToken)))) :=
        .release (by simp [inside])
      refine ⟨_, _, (Crowd.Run.single hcheck).snoc hleave, by simp [Act.isPassing], rfl,
        fun _ => by simp, fun q hq => by simp [inside, hq]⟩
  | leaving answer =>
      refine ⟨[.release p], _, .single (.release hstage), by simp [Act.isPassing], rfl, ?_,
        fun q hq => by simp [hq]⟩
      rintro ⟨⟩
      simp

theorem Serving.exists_free (hv : Serving t s) (hg : s.IsGuarded Stage.holds) :
    ∃ acts s', Crowd.Run Step s acts s' ∧ (∀ a ∈ acts, a.isPassing = true) ∧ s'.holder = none ∧
      ∀ q, (s.stage q).holds = false → s'.stage q = s.stage q := by
  cases hholder : s.holder with
  | none => exact ⟨[], s, .nil, by simp, hholder, fun _ _ => rfl⟩
  | some p =>
      have hp := (hg p).mpr hholder
      obtain ⟨acts, s', hr, hpassing, hfree, -, hothers⟩ := hv.return_of_holds hp
      refine ⟨acts, s', hr, hpassing, hfree, fun q hq => hothers q fun he => ?_⟩
      rw [he, hp] at hq
      cases hq

/-- A reader that has called comes back with the token, if all whose turn it is go on. -/
theorem Serving.exists_return (hv : Serving t s) (hg : s.IsGuarded Stage.holds)
    (hp : (s.stage p).Serves t.accessToken) (hc : (s.stage p).isCalling = true) :
    ∃ acts s', Crowd.Run Step s acts s' ∧ (∀ a ∈ acts, a.isPassing = true) ∧
      s'.stage p = .done (.ok (.token t.accessToken)) := by
  have hinside (hh : (s.stage p).holds = true) : ∃ acts s', Crowd.Run Step s acts s' ∧
      (∀ a ∈ acts, a.isPassing = true) ∧ s'.stage p = .done (.ok (.token t.accessToken)) := by
    obtain ⟨acts, s', hr, hpassing, -, hdone, -⟩ := hv.return_of_holds hh
    exact ⟨acts, s', hr, hpassing, hdone hp⟩
  cases hstage : s.stage p with
  | away => rw [hstage] at hc; cases hc
  | done answer => rw [hstage] at hc; cases hc
  | ready e => rw [hstage] at hp; cases hp
  | exchanging e awaited => rw [hstage] at hp; cases hp
  | entered => exact hinside (by rw [hstage]; rfl)
  | leaving answer => exact hinside (by rw [hstage]; rfl)
  | looking =>
      exact ⟨[.look p], _, .single (.found hstage hv.validToken?), by simp [Act.isPassing],
        by simp⟩
  | waiting e =>
      rw [hstage] at hp
      cases hp
      -- The lock is freed first, then the reader takes it and finds the token.
      obtain ⟨acts, m, hr, hpassing, hfree, hothers⟩ := hv.exists_free hg
      have hwaits : m.stage p = .waiting .read := by rw [hothers p (by rw [hstage]; rfl), hstage]
      have hm : Serving t m := (hv.run hr fun a ha => spares_of_isPassing (hpassing a ha)).1
      have htake : Step (.acquire p) m (m.take p .entered) := .acquire hwaits hfree
      have hin : (m.take p .entered).stage p = .entered := by simp
      obtain ⟨acts', s', hr', hpassing', -, hdone, -⟩ :=
        (hm.step htake (spares_of_isPassing rfl)).return_of_holds (p := p) (by rw [hin]; rfl)
      refine ⟨acts ++ [.acquire p] ++ acts', s', (hr.snoc htake).trans hr', ?_,
        hdone (by rw [hin]; exact .entered)⟩
      intro a ha
      rcases List.mem_append.mp ha with hbefore | hafter
      · rcases List.mem_append.mp hbefore with hfirst | htaken
        · exact hpassing a hfirst
        · rw [List.mem_singleton.mp htaken]
          rfl
      · exact hpassing' a hafter

/-! ### A caller by itself -/

theorem perform_read (hn : c.slot.current? h.now = none) :
    Call.token.perform c h =
      (Errand.read.answer (c.refresh h).1 (c.refresh h).2.1, (c.refresh h).2) := by
  unfold Call.perform Credential.currentToken
  rw [hn]
  rcases c.refresh h with ⟨why | stored, c', h'⟩
  · rfl
  · cases stored <;> rfl

theorem exchange_alone {e : Errand} (hw : s.world = ⟨c, h⟩) (hp : s.stage p = .ready e) :
    ∃ s', Crowd.Run Step s [.start p, .finish p, .release p] s' ∧
      s'.stage p = .done (e.answer (c.refresh h).1 (c.refresh h).2.1) ∧
      s'.world = ⟨(c.refresh h).2.1, (c.refresh h).2.2⟩ := by
  rw [Credential.refresh_eq]
  rcases hb : c.begin h with ⟨a, c', h'⟩
  rcases hf : c'.complete a h' with ⟨result, c'', h''⟩
  let begun := s.putIn p (.exchanging e a) ⟨c', h'⟩
  let ended := begun.putIn p (.leaving (e.answer result c'')) ⟨c'', h''⟩
  have hstart : Step (.start p) s begun := .start hp (by rw [hw]; exact hb)
  have hfinish : Step (.finish p) begun ended :=
    .finish (e := e) (a := a) (by simp [begun]) hf
  have hrelease : Step (.release p) ended (ended.free p (.done (e.answer result c''))) :=
    .release (by simp [ended])
  exact ⟨_, ((Crowd.Run.single hstart).snoc hfinish).snoc hrelease, by simp [hf],
    by simp [ended, hf]⟩

/-- A caller that nobody interferes with gets what its call gives, and leaves what that leaves. -/
theorem solo (e : Errand) (p : Nat) (c : Credential) (h : Host) :
    ∃ acts s, Crowd.Run Step (opening c h) acts s ∧ (∀ a ∈ acts, a.caller? = some p) ∧
      s.stage p = .done (e.call.perform c h).1 ∧
      s.world = ⟨(e.call.perform c h).2.1, (e.call.perform c h).2.2⟩ := by
  let called := (opening c h).put p e.first
  have harrive : Step (.arrive p e) (opening c h) called := .arrive e rfl
  cases e with
  | refresh =>
      have hwaits : called.stage p = .waiting .refresh := by simp [called, Errand.first]
      have htake : Step (.acquire p) called (called.take p (.ready .refresh)) :=
        .acquire hwaits rfl
      obtain ⟨s, hr, hdone, hw⟩ := exchange_alone (c := c) (h := h) (p := p) (e := .refresh)
        (s := called.take p (.ready .refresh)) rfl (by simp)
      exact ⟨_, s, ((Crowd.Run.single harrive).snoc htake).trans hr, by simp [Act.caller?], hdone,
        hw⟩
  | read =>
      have hlooks : called.stage p = .looking := by simp [called, Errand.first]
      cases hn : c.slot.current? h.now with
      | some t =>
          have hlook : Step (.look p) called (called.put p (.done (.ok (.token t.accessToken)))) :=
            .found hlooks hn
          have hgiven : Call.token.perform c h = (.ok (.token t.accessToken), c, h) := by
            simp [Call.perform, Credential.currentToken_of_valid hn, Except.map]
          rw [Errand.call, hgiven]
          exact ⟨_, _, (Crowd.Run.single harrive).snoc hlook, by simp [Act.caller?], by simp, rfl⟩
      | none =>
          let waits := called.put p (.waiting .read)
          let inside := waits.take p .entered
          have hlook : Step (.look p) called waits := .missed hlooks hn
          have htake : Step (.acquire p) waits inside :=
            .acquire (e := .read) (by simp [waits]) rfl
          have hcheck : Step (.recheck p) inside (inside.put p (.ready .read)) :=
            .remissed (by simp [inside]) hn
          obtain ⟨s, hr, hdone, hw⟩ := exchange_alone (c := c) (h := h) (p := p) (e := .read)
            (s := inside.put p (.ready .read)) rfl (by simp)
          rw [Errand.call, perform_read hn]
          exact ⟨_, s, ((((Crowd.Run.single harrive).snoc hlook).snoc htake).snoc hcheck).trans hr,
            by simp [Act.caller?], hdone, hw⟩

/-! ### All callers -/

/-- What is true of callers of one credential at the end of a run. -/
structure Shares (c : Credential) (h : Host) (acts : List Act) (s : State) : Prop where
  /-- No two callers are making an exchange. -/
  single : ∀ p q, (s.stage p).isExchanging = true → (s.stage q).isExchanging = true → p = q
  /-- A caller that begins an exchange holds the lock.  If it is a reader, then the slot has no
  token or one that was not valid when it looked inside the lock, and that is still so unless the
  clock was put back meanwhile. -/
  needed : ∀ p s', Step (.start p) s s' → s.holder = some p ∧ (s.stage p = .ready .read →
    Crowd.Once Step (opening c h) acts s fun m => m.stage p = .entered ∧ m.holder = some p ∧
      slotOf m = slotOf s ∧ (slotOf s).isValid (nowOf m) = false ∧
      ((∀ t : Token, t.isValid (nowOf s) = true → t.isValid (nowOf m) = true) →
        (slotOf s).isValid (nowOf s) = false))
  /-- A value that a reader returned is that of a token that was in the slot during its call. -/
  stored : ∀ p v, s.stage p = .done (.ok (.token v)) →
    Crowd.Once Step (opening c h) acts s fun m =>
      (m.stage p).isCalling = true ∧ ∃ t, (slotOf m).token = some t ∧ t.accessToken = v
  /-- If an exchange ends in a valid token while nobody waits to refresh it, then as long as the
  clock stays where it is valid and nobody comes to refresh it, no exchange is begun, and a reader
  that comes or waits returns that token if it returns, and can return without an exchange. -/
  enough : ∀ p e awaited t s₁, s.stage p = .exchanging e awaited → Step (.finish p) s s₁ →
    s.world.credential.awaited (nowOf s) awaited = .ok t → t.isValid (nowOf s) = true →
    (∀ q, s.stage q ≠ .waiting .refresh) →
    (slotOf s₁).token = some t ∧
    ∀ later s₂, Crowd.Run Step s₁ later s₂ → (∀ a ∈ later, Spares t a) →
      (∀ q, .start q ∉ later) ∧
      ∀ q, s₁.stage q = .away ∨ s₁.stage q = .looking ∨ s₁.stage q = .waiting .read →
        (∀ answer, s₂.stage q = .done answer → answer = .ok (.token t.accessToken)) ∧
        ((s₂.stage q).isCalling = true → ∃ more s₃, Crowd.Run Step s₂ more s₃ ∧
          (∀ a ∈ more, a.isPassing = true) ∧ s₃.stage q = .done (.ok (.token t.accessToken)))

theorem isValid_eq_false {slot : Slot} {now before : Float} (hn : slot.isValid before = false)
    (hclock : ∀ t : Token, t.isValid now = true → t.isValid before = true) :
    slot.isValid now = false := by
  cases hv : slot.isValid now with
  | false => rfl
  | true =>
      obtain ⟨t, ht⟩ := Option.isSome_iff_exists.mp hv
      obtain ⟨htoken, hvalid⟩ := Option.filter_eq_some_iff.mp ht
      have hbefore : slot.isValid before = true :=
        Option.isSome_iff_exists.mpr ⟨t, Option.filter_eq_some_iff.mpr ⟨htoken, hclock t hvalid⟩⟩
      rw [hn] at hbefore
      cases hbefore

/-- **Readers share exchanges.**  Whatever steps any number of callers take, in whatever order, and
whatever happens elsewhere between them. -/
theorem exchanges_shared (c : Credential) (h : Host) {acts : List Act} {s : State}
    (hr : Crowd.Run Step (opening c h) acts s) : Shares c h acts s := by
  have hg := isGuarded_of_run hr
  have hholds {p : Nat} (hp : (s.stage p).isExchanging = true) : (s.stage p).holds = true := by
    cases hstage : s.stage p with
    | exchanging e a => rfl
    | _ => rw [hstage] at hp; cases hp
  refine ⟨fun p q hp hq => hg.eq (hholds hp) (hholds hq), fun p s' hs => ?needed,
    fun p v hp => answer_was_stored hr (by rw [hp]; rfl), ?enough⟩
  case needed =>
    cases hs with
    | start hp _ =>
        refine ⟨(hg p).mp (by rw [hp]; rfl), fun hready => ?_⟩
        obtain ⟨before, after, m, hacts, hbefore, hafter, hstage, hholder, hslot, hn⟩ :=
          ready_missed hr hready
        have hinvalid : (slotOf s).isValid (nowOf m) = false := by
          rw [← hslot, Slot.isValid, ← validToken?, hn]
          rfl
        exact ⟨before, after, m, hacts, hbefore, hafter, hstage, hholder, hslot, hinvalid,
          isValid_eq_false hinvalid⟩
  case enough =>
    intro p e awaited t s₁ hp hs ht hvalid hq
    have hv := serving_of_finish hg hp hs ht hvalid hq
    refine ⟨hv.token, fun later s₂ hlater hspares => ?_⟩
    obtain ⟨hv₂, hnone, hserves⟩ := hv.run hlater hspares
    refine ⟨hnone, fun q hq => ?_⟩
    have hserved : (s₂.stage q).Serves t.accessToken := by
      refine hserves q ?_
      rcases hq with hq | hq | hq <;> rw [hq]
      · exact .away
      · exact .looking
      · exact .waiting
    refine ⟨fun answer hdone => ?_, fun hc => ?_⟩
    · rw [hdone] at hserved
      cases hserved
      rfl
    · have hg₂ : s₂.IsGuarded Stage.holds :=
        hlater.invariant (hs.isGuarded hg) fun _ _ _ hs => hs.isGuarded
      exact hv₂.exists_return hg₂ hserved hc

def lasting : Token :=
  ⟨.text "first", none, []⟩

/-- A credential that gives that token once and nothing after it. -/
def once : Credential :=
  .fresh (.custom "sequence" "SequenceCredential" [.ok lasting]) .main .json [] .standard

/-- Two readers both missed a token; the first makes the exchange and the second waits. -/
def contended : State :=
  let atLock := (((opening once .empty).put 0 .looking).put 0 (.waiting .read)).put 1 .looking
  let inside := ((atLock.put 1 (.waiting .read)).take 0 .entered).put 0 (.ready .read)
  inside.putIn 0 (.exchanging .read (.outcome (.ok lasting)))
    ⟨{ once with material := .custom "sequence" "SequenceCredential" [] }, .empty⟩

theorem run_contended : Crowd.Run Step (opening once .empty)
    [.arrive 0 .read, .look 0, .arrive 1 .read, .look 1, .acquire 0, .recheck 0, .start 0]
    contended := by
  have hfirst := (Crowd.Run.single (Step.arrive (s := opening once .empty) (p := 0) .read rfl)).snoc
    (.missed (p := 0) rfl rfl)
  have hsecond := (hfirst.snoc (.arrive (p := 1) .read rfl)).snoc (.missed (p := 1) rfl rfl)
  have hinside := (hsecond.snoc (.acquire (p := 0) (e := .read) rfl rfl)).snoc
    (.remissed (p := 0) rfl rfl)
  exact hinside.snoc (.start (p := 0) (e := .read) rfl rfl)

/-- The second reader makes no exchange of its own, though there would be none left to make, and the
token of the first is all that it can return. -/
theorem exchanges_shared_contended : ∃ s₁, Step (.finish 0) contended s₁ ∧
    (slotOf s₁).token = some lasting ∧
    ∀ later s₂, Crowd.Run Step s₁ later s₂ → (∀ a ∈ later, Spares lasting a) →
      .start 1 ∉ later ∧
      ∀ answer, s₂.stage 1 = .done answer → answer = .ok (.token (.text "first")) := by
  have hfinish : Step (.finish 0) contended _ := .finish (e := .read) rfl rfl
  have hwaits (q : Nat) : contended.stage q ≠ .waiting .refresh := by
    simp only [contended, opening, Crowd.stage_putIn, Crowd.stage_put, Crowd.stage_take]
    repeat' split
    all_goals exact nofun
  obtain ⟨htoken, hlater⟩ := (exchanges_shared once .empty run_contended).enough 0 .read _ lasting _
    rfl hfinish rfl rfl hwaits
  refine ⟨_, hfinish, htoken, fun later s₂ hr hspares => ?_⟩
  obtain ⟨hnone, hreturns⟩ := hlater later s₂ hr hspares
  exact ⟨hnone 1, (hreturns 1 (.inr (.inr rfl))).1⟩

end Sharing
end DefaultCredentials
