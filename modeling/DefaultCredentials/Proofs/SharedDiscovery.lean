import DefaultCredentials.Proofs.Crowd
import DefaultCredentials.Proofs.Replay

/-!
# Callers share one discovery

Any number of callers resolve through one resolver, each with a transport and a decoder of its own.
A caller looks at what the resolver keeps without the lock; if there is nothing it waits for the
lock, looks again inside, and only then makes an attempt, place by place.  What an attempt ends in
is stored before the lock is freed, unless it is no failure of the library: that escapes.  Outside
the lock a caller unwraps what it saw.  Between two steps of any caller another may take its own,
and the host, the wallet and what is looked at may change at will.

`Rush.solo` says that a caller that nobody interferes with gets what `Resolver.resolve` gives, and
`Rush.discovery_shared` what is true of all callers together, whatever the interleaving.
-/

namespace DefaultCredentials

/-! ### Discovery place by place -/

namespace Discovery

/-- Looks at the next place.  Discovery goes on with the others, or it is decided. -/
def advance (s : Scope) (channel : Channel) (decoder : Decoder) :
    List Source → Host → (List Source ⊕ Except Raised (Credential × Source)) × Host
  | [], h => (.inr (.error (.failure .notFound)), h)
  | source :: rest, h =>
    match attempt s channel decoder source h with
    | (.error why, h) => (.inr (.error why), h)
    | (.ok (some c), h) => (.inr (.ok (c, source)), h)
    | (.ok none, h) => (.inl rest, h.log (.sourceNotApplicable source.name))

/-- Discovery looks at one place after another. -/
theorem discover_eq_advance (s : Scope) (channel : Channel) (decoder : Decoder)
    (sources : List Source) (h : Host) :
    discover s channel decoder sources h =
      match advance s channel decoder sources h with
      | (.inl rest, h) => discover s channel decoder rest h
      | (.inr found, h) => (found, h) := by
  cases sources with
  | nil => rfl
  | cons source rest =>
      rcases ha : attempt s channel decoder source h with ⟨why | _ | c, h'⟩ <;>
        simp only [discover, advance, ha]

theorem eq_cons_of_advance {s : Scope} {channel : Channel} {decoder : Decoder}
    {sources rest : List Source} {h h' : Host}
    (ha : advance s channel decoder sources h = (.inl rest, h')) :
    ∃ source, sources = source :: rest := by
  cases sources with
  | nil => cases ha
  | cons source others =>
      unfold advance at ha
      dsimp only at ha
      split at ha <;> cases ha
      exact ⟨source, rfl⟩

end Discovery

namespace Rush

/-- A resolver that callers share, with the credentials of the process, in its host. -/
structure Shared where
  resolver : Resolver
  wallet : Wallet
  host : Host

/-- How far a caller is: not there yet, before its first look, at the lock, inside before its second
look, inside with nothing kept, between two places, with a result to store, about to free the lock,
outside with a result, or back with what that gave or with what escaped. -/
inductive Stage
  | away
  | looking
  | waiting
  | entered
  | ready
  | attempting (rest : List Source)
  | storing (kept : Resolution)
  | leaving (result : Except Raised Resolution)
  | unwrapping (kept : Resolution)
  | returned (outcome : Except Raised Nat)
  | escaped (why : Raised)

namespace Stage

/-- Whether a caller holds the lock. -/
def holds : Stage → Bool
  | entered | ready | attempting _ | storing _ | leaving _ => true
  | _ => false

def isAttempting : Stage → Bool
  | attempting _ | storing _ => true
  | _ => false

/-- Whether a caller has seen inside the lock that nothing is kept, and stored nothing yet. -/
def isWorking : Stage → Bool
  | ready | attempting _ | storing _ => true
  | _ => false

/-- The result that a caller has seen or stored. -/
def result? : Stage → Option Resolution
  | leaving (.ok kept) | unwrapping kept => some kept
  | _ => none

end Stage

/-- What happens in turn: a step of a caller, or whatever leaves another scope, wallet and host. -/
inductive Act
  | arrive (p : Nat)
  | look (p : Nat)
  | acquire (p : Nat)
  | recheck (p : Nat)
  | start (p : Nat)
  | advance (p : Nat)
  | conclude (p : Nat)
  | store (p : Nat)
  | release (p : Nat)
  | unwrap (p : Nat)
  | elsewhere (scope : Scope) (w : Wallet) (h : Host)

def Act.caller? : Act → Option Nat
  | .arrive p | .look p | .acquire p | .recheck p | .start p | .advance p | .conclude p | .store p
  | .release p | .unwrap p => some p
  | .elsewhere _ _ _ => none

/-- The transport and the decoder of a caller. -/
structure Tools where
  channel : Channel
  decoder : Decoder

/-- Callers of one resolver. -/
abbrev State := Crowd Shared Stage

/-- What the resolver keeps. -/
def keptOf (s : State) : Option Resolution :=
  s.world.resolver.kept

/-- What a caller finds at the next place. -/
def next (tools : Nat → Tools) (s : State) (p : Nat) (sources : List Source) :
    (List Source ⊕ Except Raised (Credential × Source)) × Host :=
  Discovery.advance s.world.resolver.scope (tools p).channel (tools p).decoder sources s.world.host

/-- The steps that can be taken. -/
inductive Step (tools : Nat → Tools) : Act → State → State → Prop
  | arrive {s : State} {p : Nat} : s.stage p = .away → Step tools (.arrive p) s (s.put p .looking)
  | found {s : State} {p : Nat} {kept : Resolution} : s.stage p = .looking → keptOf s = some kept →
      Step tools (.look p) s (s.put p (.unwrapping kept))
  | missed {s : State} {p : Nat} : s.stage p = .looking → keptOf s = none →
      Step tools (.look p) s (s.put p .waiting)
  | acquire {s : State} {p : Nat} : s.stage p = .waiting → s.holder = none →
      Step tools (.acquire p) s (s.take p .entered)
  | refound {s : State} {p : Nat} {kept : Resolution} : s.stage p = .entered →
      keptOf s = some kept → Step tools (.recheck p) s (s.put p (.leaving (.ok kept)))
  | remissed {s : State} {p : Nat} : s.stage p = .entered → keptOf s = none →
      Step tools (.recheck p) s (s.put p .ready)
  | start {s : State} {p : Nat} : s.stage p = .ready →
      Step tools (.start p) s (s.put p (.attempting Source.all))
  | advance {s : State} {p : Nat} {sources rest : List Source} {h : Host} :
      s.stage p = .attempting sources → next tools s p sources = (.inl rest, h) →
      Step tools (.advance p) s (s.putIn p (.attempting rest) { s.world with host := h })
  | conclude {s : State} {p : Nat} {sources : List Source}
      {found : Except Raised (Credential × Source)} {kept : Resolution} {w : Wallet} {h h' : Host} :
      s.stage p = .attempting sources → next tools s p sources = (.inr found, h) →
      Resolver.conclude s.world.wallet (found, h) = (.ok kept, w, h') →
      Step tools (.conclude p) s
        (s.putIn p (.storing kept) { s.world with wallet := w, host := h' })
  | escape {s : State} {p : Nat} {sources : List Source}
      {found : Except Raised (Credential × Source)} {why : Raised} {w : Wallet} {h h' : Host} :
      s.stage p = .attempting sources → next tools s p sources = (.inr found, h) →
      Resolver.conclude s.world.wallet (found, h) = (.error why, w, h') →
      Step tools (.conclude p) s
        (s.putIn p (.leaving (.error why)) { s.world with wallet := w, host := h' })
  | store {s : State} {p : Nat} {kept : Resolution} : s.stage p = .storing kept →
      Step tools (.store p) s (s.putIn p (.leaving (.ok kept))
        { s.world with resolver := { s.world.resolver with kept := some kept } })
  | release {s : State} {p : Nat} {kept : Resolution} : s.stage p = .leaving (.ok kept) →
      Step tools (.release p) s (s.free p (.unwrapping kept))
  | fail {s : State} {p : Nat} {why : Raised} : s.stage p = .leaving (.error why) →
      Step tools (.release p) s (s.free p (.escaped why))
  | unwrap {s : State} {p : Nat} {kept : Resolution} : s.stage p = .unwrapping kept →
      Step tools (.unwrap p) s
        (s.putIn p (.returned (kept.unwrap s.world.resolver.copies))
          { s.world with
            resolver := { s.world.resolver with copies := s.world.resolver.copies + 1 } })
  | elsewhere {s : State} (scope : Scope) (w : Wallet) (h : Host) :
      Step tools (.elsewhere scope w h) s
        { s with world := ⟨{ s.world.resolver with scope := scope }, w, h⟩ }

/-- A resolver that nobody has called yet. -/
def opening (r : Resolver) (w : Wallet) (h : Host) : State :=
  ⟨⟨r, w, h⟩, none, fun _ => .away⟩

variable {tools : Nat → Tools} {s s' m : State} {a : Act} {acts : List Act} {p q : Nat}
  {kept : Resolution} {why : Raised} {r : Resolver} {w : Wallet} {h : Host}

/-! ### One step -/

theorem Step.stage_of_ne (hs : Step tools a s s') (hp : a.caller? ≠ some p) :
    s'.stage p = s.stage p := by
  have hne {q : Nat} (hq : some q ≠ some p) : p ≠ q := fun he => hq (congrArg some he.symm)
  cases hs with
  | elsewhere scope w h => rfl
  | _ => simp [hne hp]

theorem Step.isGuarded (hs : Step tools a s s') (hg : s.IsGuarded Stage.holds) :
    s'.IsGuarded Stage.holds := by
  cases hs with
  | arrive hp => exact hg.put (by rw [hp]; rfl)
  | found hp _ => exact hg.put (by rw [hp]; rfl)
  | missed hp _ => exact hg.put (by rw [hp]; rfl)
  | acquire hp hfree => exact hg.take hfree rfl
  | refound hp _ => exact hg.put (by rw [hp]; rfl)
  | remissed hp _ => exact hg.put (by rw [hp]; rfl)
  | start hp => exact hg.put (by rw [hp]; rfl)
  | advance hp _ => exact hg.putIn (by rw [hp]; rfl) _
  | conclude hp _ _ => exact hg.putIn (by rw [hp]; rfl) _
  | escape hp _ _ => exact hg.putIn (by rw [hp]; rfl) _
  | store hp => exact hg.putIn (by rw [hp]; rfl) _
  | release hp => exact hg.free (by rw [hp]; rfl) rfl
  | fail hp => exact hg.free (by rw [hp]; rfl) rfl
  | unwrap hp => exact hg.putIn (by rw [hp]; rfl) _
  | elsewhere scope w h => exact hg

/-- Only a store changes what is kept. -/
theorem Step.keptOf_cases (hs : Step tools a s s') :
    (∃ p kept, a = .store p ∧ s.stage p = .storing kept ∧ keptOf s' = some kept) ∨
      (∀ p, a ≠ .store p) ∧ keptOf s' = keptOf s := by
  cases hs with
  | store hp => exact .inl ⟨_, _, rfl, hp, rfl⟩
  | _ => exact .inr ⟨fun _ => nofun, rfl⟩

/-! ### What every step keeps -/

/-- Whether a resolution is a credential or a failure of the library. -/
def IsProper (kept : Resolution) : Prop :=
  ∀ why, kept = .failure why → why.failure?.isSome

theorem isProper_of_conclude {found : Except Raised (Credential × Source) × Host} {w' : Wallet}
    {h' : Host} (hc : Resolver.conclude w found = (.ok kept, w', h')) : IsProper kept := by
  obtain ⟨why | c, h⟩ := found
  · unfold Resolver.conclude at hc
    dsimp only at hc
    split at hc
    · rename_i f hf
      cases hc
      rintro why' ⟨⟩
      rw [hf]
      rfl
    · cases hc
  · cases hc
    exact nofun

theorem failure?_of_conclude {found : Except Raised (Credential × Source) × Host} {w' : Wallet}
    {h' : Host} (hc : Resolver.conclude w found = (.error why, w', h')) : why.failure? = none := by
  obtain ⟨why' | c, h⟩ := found
  · unfold Resolver.conclude at hc
    dsimp only at hc
    split at hc
    · cases hc
    · rename_i hf
      cases hc
      exact hf
  · cases hc

/-- The lock is right, nothing is kept while a caller works, what callers have seen is what is kept,
and that is proper. -/
structure Sound (s : State) : Prop where
  guarded : s.IsGuarded Stage.holds
  working : ∀ p, (s.stage p).isWorking = true → keptOf s = none
  known : ∀ p kept, (s.stage p).result? = some kept → keptOf s = some kept
  stored : ∀ kept, keptOf s = some kept → IsProper kept
  pending : ∀ p kept, s.stage p = .storing kept → IsProper kept

theorem Stage.holds_of_isWorking {x : Stage} (hx : x.isWorking = true) : x.holds = true := by
  cases x with
  | ready => rfl
  | attempting rest => rfl
  | storing kept => rfl
  | _ => cases hx

theorem Sound.kept_stays (hv : Sound s) (hs : Step tools a s s') (hk : keptOf s = some kept) :
    keptOf s' = some kept := by
  rcases hs.keptOf_cases with ⟨p, new, rfl, hp, -⟩ | ⟨-, hsame⟩
  · rw [hv.working p (by rw [hp]; rfl)] at hk
    cases hk
  · rw [hsame, hk]

theorem Sound.none_stays (hv : Sound s) (hs : Step tools a s s')
    (hp : (s.stage p).isWorking = true) (ha : a.caller? ≠ some p) : keptOf s' = none := by
  rcases hs.keptOf_cases with ⟨q, new, rfl, hq, -⟩ | ⟨-, hsame⟩
  · have hholds : (s.stage q).holds = true := by rw [hq]; rfl
    exact absurd (congrArg some (hv.guarded.eq hholds (Stage.holds_of_isWorking hp))) ha
  · rw [hsame]
    exact hv.working p hp

theorem Sound.working_step (hv : Sound s) (hs : Step tools a s s') (ha : a.caller? = some p)
    (hp : (s'.stage p).isWorking = true) : keptOf s' = none := by
  cases hs with
  | elsewhere scope w h => cases ha
  | remissed _ hn => exact hn
  | start hq => exact hv.working _ (by rw [hq]; rfl)
  | advance hq _ => exact hv.working _ (by rw [hq]; rfl)
  | conclude hq _ _ => exact hv.working _ (by rw [hq]; rfl)
  | _ => cases ha; simp [Stage.isWorking] at hp

/-- A result that a caller has seen or stored is what is kept. -/
theorem Sound.known_step (hv : Sound s) (hs : Step tools a s s') (ha : a.caller? = some p)
    (hp : (s'.stage p).result? = some kept) : keptOf s' = some kept := by
  cases hs with
  | elsewhere scope w h => cases ha
  | found _ hk => cases ha; simp [Stage.result?] at hp; rw [← hp]; exact hk
  | refound _ hk => cases ha; simp [Stage.result?] at hp; rw [← hp]; exact hk
  | store hq => cases ha; simp [Stage.result?] at hp; rw [← hp]; rfl
  | release hq =>
      cases ha
      simp [Stage.result?] at hp
      exact hv.known p _ (by rw [hq, ← hp]; rfl)
  | _ => cases ha; simp [Stage.result?] at hp

theorem Sound.step (hv : Sound s) (hs : Step tools a s s') : Sound s' where
  guarded := hs.isGuarded hv.guarded
  working p hp := by
    by_cases ha : a.caller? = some p
    · exact hv.working_step hs ha hp
    · rw [hs.stage_of_ne ha] at hp
      exact hv.none_stays hs hp ha
  known p kept hp := by
    by_cases ha : a.caller? = some p
    · exact hv.known_step hs ha hp
    · rw [hs.stage_of_ne ha] at hp
      exact hv.kept_stays hs (hv.known p kept hp)
  stored kept hk := by
    rcases hs.keptOf_cases with ⟨p, new, rfl, hp, hnew⟩ | ⟨-, hsame⟩
    · rw [hnew] at hk
      cases hk
      exact hv.pending p kept hp
    · exact hv.stored kept (by rw [← hsame, hk])
  pending p kept hp := by
    by_cases ha : a.caller? = some p
    · cases hs with
      | elsewhere scope w h => cases ha
      | conclude _ _ hc =>
          cases ha
          simp at hp
          cases hp
          exact isProper_of_conclude hc
      | _ => cases ha; simp at hp
    · rw [hs.stage_of_ne ha] at hp
      exact hv.pending p kept hp

theorem sound_opening (hr : r.kept = none) (w : Wallet) (h : Host) : Sound (opening r w h) where
  guarded _ := ⟨nofun, nofun⟩
  working _ := nofun
  known _ _ := nofun
  stored kept hk := by
    rw [keptOf, opening, hr] at hk
    cases hk
  pending _ _ := nofun

/-! ### The attempt that counts -/

/-- A caller's result is what is kept, or will be once the caller has stored it. -/
def IsConcluded (p : Nat) (kept : Resolution) (s : State) : Prop :=
  s.stage p = .storing kept ∧ keptOf s = none ∨ keptOf s = some kept

theorem Sound.isWorking_eq_false (hv : Sound s) (hk : keptOf s = some kept) (p : Nat) :
    (s.stage p).isWorking = false := by
  cases hp : (s.stage p).isWorking with
  | false => rfl
  | true =>
      rw [hv.working p hp] at hk
      cases hk

theorem Sound.isWorking_of_isConcluded (hv : Sound s) (hc : IsConcluded p kept s)
    (hq : (s.stage q).isWorking = true) : s.stage q = .storing kept := by
  rcases hc with ⟨hp, -⟩ | hk
  · have heq : q = p := hv.guarded.eq (Stage.holds_of_isWorking hq) (by rw [hp]; rfl)
    rw [heq, hp]
  · rw [hv.isWorking_eq_false hk q] at hq
    cases hq

theorem Sound.isConcluded_step (hv : Sound s) (hs : Step tools a s s')
    (hc : IsConcluded p kept s) : IsConcluded p kept s' := by
  rcases hc with ⟨hp, hn⟩ | hk
  · by_cases ha : a.caller? = some p
    · cases hs with
      | store hq =>
          cases ha
          cases hp.symm.trans hq
          exact .inr rfl
      | elsewhere scope w h => cases ha
      | _ => cases ha; simp_all
    · exact .inl ⟨by rw [hs.stage_of_ne ha, hp], hv.none_stays hs (by rw [hp]; rfl) ha⟩
  · exact .inr (hv.kept_stays hs hk)

theorem Sound.quiet_step (hv : Sound s) (hs : Step tools a s s') (hc : IsConcluded p kept s)
    (q : Nat) : a ≠ .start q ∧ a ≠ .conclude q := by
  refine ⟨?_, ?_⟩ <;> rintro rfl
  · cases hs with
    | start hq => cases hq.symm.trans (hv.isWorking_of_isConcluded hc (by rw [hq]; rfl))
  · cases hs with
    | conclude hq _ _ => cases hq.symm.trans (hv.isWorking_of_isConcluded hc (by rw [hq]; rfl))
    | escape hq _ _ => cases hq.symm.trans (hv.isWorking_of_isConcluded hc (by rw [hq]; rfl))

theorem sound_run (hv : Sound s) (hr : Crowd.Run (Step tools) s acts s') : Sound s' :=
  hr.invariant hv fun _ _ _ hs hm => hm.step hs

/-- After an attempt has ended in a result there is no other attempt, however long the run. -/
theorem Sound.isConcluded_run (hv : Sound s) (hc : IsConcluded p kept s)
    (hr : Crowd.Run (Step tools) s acts s') :
    IsConcluded p kept s' ∧ ∀ q, .start q ∉ acts ∧ .conclude q ∉ acts := by
  induction hr with
  | nil => exact ⟨hc, fun _ => ⟨List.not_mem_nil, List.not_mem_nil⟩⟩
  | snoc hr hs ih =>
      have hm := sound_run hv hr
      obtain ⟨hcm, hnone⟩ := ih
      refine ⟨hm.isConcluded_step hs hcm, fun q => ?_⟩
      obtain ⟨hstart, hconclude⟩ := hm.quiet_step hs hcm q
      constructor <;> intro hmem <;> rcases List.mem_append.mp hmem with hbefore | hlast
      · exact (hnone q).1 hbefore
      · exact hstart (List.mem_singleton.mp hlast).symm
      · exact (hnone q).2 hbefore
      · exact hconclude (List.mem_singleton.mp hlast).symm

/-- After something was stored nothing is stored again. -/
theorem Sound.kept_run (hv : Sound s) (hk : keptOf s = some kept)
    (hr : Crowd.Run (Step tools) s acts s') : keptOf s' = some kept ∧ ∀ q, .store q ∉ acts := by
  induction hr with
  | nil => exact ⟨hk, fun _ => List.not_mem_nil⟩
  | snoc hr hs ih =>
      have hm := sound_run hv hr
      obtain ⟨hkm, hnone⟩ := ih
      refine ⟨hm.kept_stays hs hkm, fun q hmem => ?_⟩
      rcases List.mem_append.mp hmem with hbefore | hlast
      · exact hnone q hbefore
      · cases List.mem_singleton.mp hlast
        cases hs with
        | store hq =>
            have hidle := hm.isWorking_eq_false hkm q
            rw [hq] at hidle
            cases hidle

/-! ### What callers get -/

/-- The copies that were made so far. -/
def copiesOf (s : State) : Nat :=
  s.world.resolver.copies

/-- Those who are back have what is kept, each after another number of copies. -/
structure Served (turn : Nat → Nat) (s : State) : Prop where
  outcome : ∀ p o, s.stage p = .returned o →
    turn p < copiesOf s ∧ ∃ kept, keptOf s = some kept ∧ o = kept.unwrap (turn p)
  distinct : ∀ p q o o', s.stage p = .returned o → s.stage q = .returned o' → p ≠ q →
    turn p ≠ turn q

theorem Step.returned_cases (hs : Step tools a s s') {o : Except Raised Nat}
    (ho : s'.stage p = .returned o) :
    s.stage p = .returned o ∨ a = .unwrap p ∧ ∃ kept, s.stage p = .unwrapping kept ∧
      o = kept.unwrap (copiesOf s) ∧ copiesOf s' = copiesOf s + 1 := by
  by_cases ha : a.caller? = some p
  · cases hs with
    | elsewhere scope w h => cases ha
    | unwrap hq =>
        cases ha
        simp at ho
        exact .inr ⟨rfl, _, hq, ho.symm, rfl⟩
    | _ => cases ha; simp at ho
  · exact .inl (by rw [← hs.stage_of_ne ha, ho])

theorem Step.copiesOf_le (hs : Step tools a s s') : copiesOf s ≤ copiesOf s' := by
  cases hs with
  | unwrap hp => exact Nat.le_succ _
  | _ => exact Nat.le_refl _

theorem Served.step {turn : Nat → Nat} (ht : Served turn s) (hv : Sound s)
    (hs : Step tools a s s') : ∃ turn, Served turn s' := by
  by_cases hu : ∃ p, a = .unwrap p
  · obtain ⟨p, rfl⟩ := hu
    -- The caller that unwraps takes the next turn; no other has it, as all had one before.
    refine ⟨fun q => if q = p then copiesOf s else turn q, fun q o ho => ?_, ?_⟩
    · rcases hs.returned_cases ho with hold | ⟨heq, kept, hq, rfl, hcount⟩
      · have hne : q ≠ p := by
          rintro rfl
          cases hs with
          | unwrap hq => cases hold.symm.trans hq
        obtain ⟨hlt, kept, hk, rfl⟩ := ht.outcome q o hold
        rw [if_neg hne]
        exact ⟨Nat.lt_of_lt_of_le hlt hs.copiesOf_le, kept, hv.kept_stays hs hk, rfl⟩
      · cases heq
        rw [if_pos rfl, hcount]
        exact ⟨Nat.lt_succ_self _, kept, hv.kept_stays hs (hv.known p kept (by rw [hq]; rfl)), rfl⟩
    · have hearlier {q : Nat} {o : Except Raised Nat} (hne : q ≠ p)
          (ho : s'.stage q = .returned o) : turn q < copiesOf s ∧ s.stage q = .returned o := by
        rcases hs.returned_cases ho with hold | ⟨heq, -⟩
        · exact ⟨(ht.outcome q o hold).1, hold⟩
        · cases heq
          exact absurd rfl hne
      intro q q' o o' ho ho' hne
      by_cases hq : q = p
      · have hq' : q' ≠ p := fun he => hne (hq.trans he.symm)
        rw [if_pos hq, if_neg hq']
        exact (Nat.ne_of_lt (hearlier hq' ho').1).symm
      · rw [if_neg hq]
        by_cases hq' : q' = p
        · rw [if_pos hq']
          exact Nat.ne_of_lt (hearlier hq ho).1
        · rw [if_neg hq']
          exact ht.distinct q q' o o' (hearlier hq ho).2 (hearlier hq' ho').2 hne
  · have hold {q : Nat} {o : Except Raised Nat} (ho : s'.stage q = .returned o) :
        s.stage q = .returned o := by
      rcases hs.returned_cases ho with hold | ⟨heq, -⟩
      · exact hold
      · exact absurd ⟨q, heq⟩ hu
    refine ⟨turn, fun q o ho => ?_,
      fun q q' o o' ho ho' => ht.distinct q q' o o' (hold ho) (hold ho')⟩
    obtain ⟨hlt, kept, hk, rfl⟩ := ht.outcome q o (hold ho)
    exact ⟨Nat.lt_of_lt_of_le hlt hs.copiesOf_le, kept, hv.kept_stays hs hk, rfl⟩

theorem served_run (hr : r.kept = none) (hrun : Crowd.Run (Step tools) (opening r w h) acts s) :
    ∃ turn, Served turn s := by
  induction hrun with
  | nil => exact ⟨fun _ => 0, fun _ _ => nofun, fun _ _ _ _ => nofun⟩
  | snoc hrun hs ih =>
      obtain ⟨turn, ht⟩ := ih
      exact ht.step (sound_run (sound_opening hr w h) hrun) hs

theorem Served.explains {turn : Nat → Nat} (ht : Served turn s) (hv : Sound s) {ps : List Nat}
    {outcomes : List (Except Raised Nat)} (hps : ps.Nodup) (hne : ps ≠ [])
    (ho : ps.map s.stage = outcomes.map .returned) :
    ∃ kept, keptOf s = some kept ∧ kept.Explains outcomes := by
  have hback : ∀ p ∈ ps, ∃ o, s.stage p = .returned o := by
    intro p hp
    have hmem : s.stage p ∈ outcomes.map Stage.returned := ho ▸ List.mem_map_of_mem hp
    obtain ⟨o, -, heq⟩ := List.mem_map.mp hmem
    exact ⟨o, heq.symm⟩
  obtain ⟨first, rest, rfl⟩ := List.exists_cons_of_ne_nil hne
  obtain ⟨o, hfirst⟩ := hback first List.mem_cons_self
  obtain ⟨-, kept, hk, -⟩ := ht.outcome first o hfirst
  have hall : outcomes = ((first :: rest).map turn).map kept.unwrap := by
    have hstages : (first :: rest).map s.stage =
        (((first :: rest).map turn).map kept.unwrap).map .returned := by
      rw [List.map_map, List.map_map]
      refine List.map_congr_left fun p hp => ?_
      obtain ⟨o, hp⟩ := hback p hp
      obtain ⟨-, kept', hk', rfl⟩ := ht.outcome p o hp
      cases hk.symm.trans hk'
      exact hp
    rw [ho] at hstages
    exact List.map_inj_right (fun _ _ => Stage.returned.inj) |>.mp hstages
  refine ⟨kept, hk, hall ▸ Resolver.explains_map_unwrap (hv.stored kept hk) ?_⟩
  refine List.pairwise_map.mpr (hps.imp_of_mem fun hp hq hne => ?_)
  obtain ⟨o, hp⟩ := hback _ hp
  obtain ⟨o', hq⟩ := hback _ hq
  exact ht.distinct _ _ o o' hp hq hne

/-! ### A caller by itself -/

/-- Where a caller is whose attempt has ended. -/
def Stage.ofResult : Except Raised Resolution → Stage
  | .ok kept => .storing kept
  | .error why => .leaving (.error why)

/-- What a caller is back with. -/
def Stage.outcome? : Stage → Option (Except Raised Nat)
  | returned outcome => some outcome
  | escaped why => some (.error why)
  | _ => none

/-- An attempt ends at the place that decides. -/
theorem attempt_decided {sources : List Source} (hp : s.stage p = .attempting sources)
    (hw : s.world = ⟨r, w, h⟩) {found : Except Raised (Credential × Source)} {h₁ h' : Host}
    (hnext : next tools s p sources = (.inr found, h₁)) {result : Except Raised Resolution}
    {w' : Wallet} (hc : Resolver.conclude w (found, h₁) = (result, w', h')) :
    ∃ acts s', Crowd.Run (Step tools) s acts s' ∧ (∀ a ∈ acts, a.caller? = some p) ∧
      s'.stage p = .ofResult result ∧ s'.world = ⟨r, w', h'⟩ := by
  have hfound : Resolver.conclude s.world.wallet (found, h₁) = (result, w', h') := by
    rw [hw]
    exact hc
  cases result with
  | ok kept =>
      exact ⟨_, _, .single (.conclude hp hnext hfound), by simp [Act.caller?],
        by simp [Stage.ofResult], by simp [hw]⟩
  | error why =>
      exact ⟨_, _, .single (.escape hp hnext hfound), by simp [Act.caller?],
        by simp [Stage.ofResult], by simp [hw]⟩

/-- A caller that is left alone looks at one place after another, as discovery does. -/
theorem attempt_alone {sources : List Source} (hp : s.stage p = .attempting sources)
    (hw : s.world = ⟨r, w, h⟩) {result : Except Raised Resolution} {w' : Wallet} {h' : Host}
    (hc : Resolver.conclude w
      (Discovery.discover r.scope (tools p).channel (tools p).decoder sources h) =
        (result, w', h')) :
    ∃ acts s', Crowd.Run (Step tools) s acts s' ∧ (∀ a ∈ acts, a.caller? = some p) ∧
      s'.stage p = .ofResult result ∧ s'.world = ⟨r, w', h'⟩ := by
  induction sources generalizing s h with
  | nil =>
      have hnext : next tools s p [] = (.inr (.error (.failure .notFound)), h) := by
        rw [next, hw]
        rfl
      exact attempt_decided hp hw hnext hc
  | cons source rest ih =>
      rw [Discovery.discover_eq_advance] at hc
      have hnext : next tools s p (source :: rest) =
          Discovery.advance r.scope (tools p).channel (tools p).decoder (source :: rest) h := by
        rw [next, hw]
      cases ha : Discovery.advance r.scope (tools p).channel (tools p).decoder (source :: rest)
        h with
      | mk verdict h₁ =>
          rw [ha] at hc hnext
          cases verdict with
          | inr found => exact attempt_decided hp hw hnext hc
          | inl rest' =>
              obtain ⟨_, heq⟩ := Discovery.eq_cons_of_advance ha
              cases heq
              obtain ⟨acts, s', hr, hown, hstage, hworld⟩ :=
                ih (s := s.putIn p (.attempting rest) { s.world with host := h₁ }) (h := h₁)
                  (by simp) (by simp [hw]) hc
              refine ⟨_, s', (Crowd.Run.single (.advance hp hnext)).trans hr, ?_, hstage, hworld⟩
              simpa [Act.caller?] using hown

/-- A caller that nobody interferes with gets what `resolve` gives, and leaves what that leaves. -/
theorem solo (tools : Nat → Tools) (p : Nat) (r : Resolver) (w : Wallet) (h : Host) :
    ∃ acts s, Crowd.Run (Step tools) (opening r w h) acts s ∧ (∀ a ∈ acts, a.caller? = some p) ∧
      (s.stage p).outcome? = some (r.resolve (tools p).channel (tools p).decoder w h).1 ∧
      s.world = ⟨(r.resolve (tools p).channel (tools p).decoder w h).2.1,
        (r.resolve (tools p).channel (tools p).decoder w h).2.2.1,
        (r.resolve (tools p).channel (tools p).decoder w h).2.2.2⟩ := by
  let called := (opening r w h).put p .looking
  have harrive : Step tools (.arrive p) (opening r w h) called := .arrive rfl
  cases hk : r.kept with
  | some kept =>
      rw [Resolver.resolve_of_kept hk]
      let seen := called.put p (.unwrapping kept)
      have hlook : Step tools (.look p) called seen := .found (by simp [called]) hk
      have hseen : seen.stage p = .unwrapping kept := by simp [seen]
      exact ⟨_, _, ((Crowd.Run.single harrive).snoc hlook).snoc (.unwrap hseen),
        by simp [Act.caller?], by simp [Stage.outcome?, seen, called, opening], rfl⟩
  | none =>
      let waits := called.put p .waiting
      let inside := waits.take p .entered
      let begun := (inside.put p .ready).put p (.attempting Source.all)
      have hlook : Step tools (.look p) called waits := .missed (by simp [called]) hk
      have htake : Step tools (.acquire p) waits inside := .acquire (by simp [waits]) rfl
      have hcheck : Step tools (.recheck p) inside (inside.put p .ready) :=
        .remissed (by simp [inside]) hk
      have hstart : Step tools (.start p) (inside.put p .ready) begun := .start (by simp)
      have hentered := (((Crowd.Run.single harrive).snoc hlook).snoc htake).snoc hcheck
      rcases hc : Resolver.conclude w
        (Discovery.discover r.scope (tools p).channel (tools p).decoder Source.all h) with
        ⟨result, w', h'⟩
      obtain ⟨acts, ended, hr, hown, hstage, hworld⟩ :=
        attempt_alone (s := begun) (p := p) (by simp [begun]) rfl hc
      have hrun := (hentered.snoc hstart).trans hr
      unfold Resolver.resolve
      rw [hk, hc]
      cases result with
      | error why =>
          refine ⟨_, _, hrun.snoc (.fail (p := p) hstage), ?_, by simp [Stage.outcome?],
            by simp [hworld]⟩
          simpa [Act.caller?, or_imp, forall_and] using hown
      | ok kept =>
          let left := ended.putIn p (.leaving (.ok kept))
            { ended.world with resolver := { ended.world.resolver with kept := some kept } }
          let outside := left.free p (.unwrapping kept)
          have hstore : Step tools (.store p) ended left := .store hstage
          have hrelease : Step tools (.release p) left outside := .release (by simp [left])
          have houtside : outside.stage p = .unwrapping kept := by simp [outside]
          refine ⟨_, _, ((hrun.snoc hstore).snoc hrelease).snoc (.unwrap houtside),
            ?_, by simp [Stage.outcome?, outside, left, hworld, Resolver.replay],
            by simp [outside, left, hworld, Resolver.replay]⟩
          simpa [Act.caller?, or_imp, forall_and] using hown

/-! ### All callers -/

/-- What is true of callers of one resolver at the end of a run. -/
structure Shares (tools : Nat → Tools) (s : State) : Prop where
  /-- No two attempts are in progress. -/
  single : ∀ p q, (s.stage p).isAttempting = true → (s.stage q).isAttempting = true → p = q
  /-- If an attempt ends in a credential or a failure of the library, then nothing was kept so far;
  the caller can store that result, and whatever happens it is what is kept from then on, without
  any other attempt being begun or ended. -/
  first : ∀ p s' kept, Step tools (.conclude p) s s' → s'.stage p = .storing kept →
    keptOf s = none ∧ (∃ m, Step tools (.store p) s' m ∧ keptOf m = some kept) ∧
    ∀ later s₂, Crowd.Run (Step tools) s' later s₂ →
      (s₂.stage p = .storing kept ∧ keptOf s₂ = none ∨ keptOf s₂ = some kept) ∧
      ∀ q, .start q ∉ later ∧ .conclude q ∉ later
  /-- What is stored is what the attempt ended in, where nothing was kept so far, and nothing is
  stored after it. -/
  once : ∀ p s', Step tools (.store p) s s' →
    ∃ kept, s.stage p = .storing kept ∧ keptOf s = none ∧ keptOf s' = some kept ∧
      ∀ later s₂, Crowd.Run (Step tools) s' later s₂ → keptOf s₂ = some kept ∧
        ∀ q, .store q ∉ later
  /-- What else an attempt ends in leaves the resolver as it was, and all that its caller can do is
  to free the lock and raise that. -/
  escapes : ∀ p s' why, Step tools (.conclude p) s s' → s'.stage p = .leaving (.error why) →
    why.failure? = none ∧ s'.world.resolver = s.world.resolver ∧
    (∃ m, Step tools (.release p) s' m) ∧
    ∀ a m, Step tools a s' m → a.caller? = some p →
      a = .release p ∧ m.holder = none ∧ m.world.resolver = s.world.resolver ∧
        m.stage p = .escaped why
  /-- Once something is kept, no attempt is in progress and none can be begun. -/
  closed : ∀ kept, keptOf s = some kept → ∀ p, (s.stage p).isAttempting = false ∧
    ∀ s', ¬ Step tools (.start p) s s'
  /-- What is kept explains what all callers have who came back by unwrapping. -/
  agree : ∀ ps outcomes, ps.Nodup → ps ≠ [] → ps.map s.stage = outcomes.map .returned →
    ∃ kept, keptOf s = some kept ∧ kept.Explains outcomes

theorem Stage.isWorking_of_isAttempting {x : Stage} (hx : x.isAttempting = true) :
    x.isWorking = true := by
  cases x with
  | attempting rest => rfl
  | storing kept => rfl
  | _ => cases hx

theorem Step.of_leaving_error (hs : Step tools a s s') (hp : s.stage p = .leaving (.error why))
    (ha : a.caller? = some p) :
    a = .release p ∧ s'.holder = none ∧ s'.world.resolver = s.world.resolver ∧
      s'.stage p = .escaped why := by
  cases hs with
  | elsewhere scope w h => cases ha
  | fail hq =>
      cases ha
      cases hp.symm.trans hq
      exact ⟨rfl, rfl, rfl, by simp⟩
  | _ => cases ha; simp_all

/-- **Callers share one discovery.**  Whatever steps any number of callers take, in whatever order,
and whatever happens elsewhere between them, starting from a resolver that keeps nothing. -/
theorem discovery_shared (tools : Nat → Tools) {r : Resolver} (hr : r.kept = none) (w : Wallet)
    (h : Host) {acts : List Act} {s : State}
    (hrun : Crowd.Run (Step tools) (opening r w h) acts s) : Shares tools s := by
  have hv := sound_run (sound_opening hr w h) hrun
  have hholds {p : Nat} (hp : (s.stage p).isAttempting = true) : (s.stage p).holds = true :=
    Stage.holds_of_isWorking (Stage.isWorking_of_isAttempting hp)
  refine ⟨fun p q hp hq => hv.guarded.eq (hholds hp) (hholds hq), fun p s' kept hs hp => ?first,
    fun p s' hs => ?once, fun p s' why hs hp => ?escapes, fun kept hk p => ?closed,
    fun ps outcomes hps hne ho => ?agree⟩
  case first =>
    have hnone : keptOf s = none := by
      cases hs with
      | conclude hq _ _ => exact hv.working p (by rw [hq]; rfl)
      | escape hq _ _ => exact hv.working p (by rw [hq]; rfl)
    have hnone' : keptOf s' = none := by
      rcases hs.keptOf_cases with ⟨q, new, heq, -, -⟩ | ⟨-, hsame⟩
      · cases heq
      · rw [hsame, hnone]
    refine ⟨hnone, ⟨_, .store hp, rfl⟩, fun later s₂ hlater => ?_⟩
    exact (hv.step hs).isConcluded_run (.inl ⟨hp, hnone'⟩) hlater
  case once =>
    have hv' := hv.step hs
    cases hs with
    | store hp =>
        exact ⟨_, hp, hv.working p (by rw [hp]; rfl), rfl, fun later s₂ hlater =>
          hv'.kept_run rfl hlater⟩
  case escapes =>
    have hresolver : s'.world.resolver = s.world.resolver := by
      cases hs <;> rfl
    have hfailure : why.failure? = none := by
      cases hs with
      | conclude _ _ _ => simp at hp
      | escape _ _ hc =>
          simp at hp
          rw [← hp]
          exact failure?_of_conclude hc
    refine ⟨hfailure, hresolver, ⟨_, .fail hp⟩, fun a m hm ha => ?_⟩
    obtain ⟨ha, hholder, hsame, hstage⟩ := hm.of_leaving_error hp ha
    exact ⟨ha, hholder, hsame.trans hresolver, hstage⟩
  case closed =>
    have hidle := hv.isWorking_eq_false hk p
    refine ⟨?_, fun s' hs => ?_⟩
    · cases hp : (s.stage p).isAttempting with
      | false => rfl
      | true =>
          rw [Stage.isWorking_of_isAttempting hp] at hidle
          cases hidle
    · cases hs with
      | start hp =>
          rw [hp] at hidle
          cases hidle
  case agree =>
    obtain ⟨turn, ht⟩ := served_run hr hrun
    exact ht.explains hv hps hne ho

def pair (p : Nat) : Tools :=
  ⟨if p = 0 then .main else .api, .json⟩

/-- Two callers of a resolver whose variable names a file that is not there: both found nothing
kept, and the first makes the attempt while the second waits. -/
def meeting : State :=
  let atLock := ((opening Resolver.misplaced .empty .empty).put 0 .looking).put 0 .waiting
  let inside := ((atLock.put 1 .looking).put 1 .waiting).take 0 .entered
  (inside.put 0 .ready).put 0 (.attempting Source.all)

theorem run_meeting : Crowd.Run (Step pair) (opening Resolver.misplaced .empty .empty)
    [.arrive 0, .look 0, .arrive 1, .look 1, .acquire 0, .recheck 0, .start 0] meeting := by
  have harrive : Step pair (.arrive 0) (opening Resolver.misplaced .empty .empty) _ := .arrive rfl
  have hfirst := (Crowd.Run.single harrive).snoc (.missed (p := 0) rfl rfl)
  have hsecond := (hfirst.snoc (.arrive (p := 1) rfl)).snoc (.missed (p := 1) rfl rfl)
  have hinside := (hsecond.snoc (.acquire (p := 0) rfl rfl)).snoc (.remissed (p := 0) rfl rfl)
  exact hinside.snoc (.start (p := 0) rfl)

/-- The failure that the first caller is left with. -/
def gone : Raised :=
  .failure (.pointerMissing (.text "GOOGLE_APPLICATION_CREDENTIALS") (.text "/gone.json"))

/-- Both raise a copy of that one failure, each a copy of its own, and nothing was stored twice. -/
theorem discovery_shared_meeting : ∃ acts s copy copy',
    Crowd.Run (Step pair) (opening Resolver.misplaced .empty .empty) acts s ∧
    s.stage 0 = .returned (.error copy) ∧ s.stage 1 = .returned (.error copy') ∧
    copy.occurrence ≠ copy'.occurrence ∧
    ∃ why, keptOf s = some (.failure why) ∧ copy.IsCopyOf why ∧ copy'.IsCopyOf why := by
  let sought := Host.empty.note (.sought (Host.empty.absolutePath "/gone.json"))
  have hnext : next pair meeting 0 Source.all = (.inr (.error gone), sought) := rfl
  have hended : Resolver.conclude meeting.world.wallet (.error gone, sought) =
      (.ok (.failure gone), .empty, sought.log (.credentialNotFound gone.text)) := rfl
  have hfirst := ((run_meeting.snoc (.conclude rfl hnext hended)).snoc (.store (p := 0) rfl)).snoc
    (.release (p := 0) rfl)
  have hsecond := ((hfirst.snoc (.acquire (p := 1) rfl rfl)).snoc (.refound (p := 1) rfl rfl)).snoc
    (.release (p := 1) rfl)
  have hboth := (hsecond.snoc (.unwrap (p := 1) rfl)).snoc (.unwrap (p := 0) rfl)
  obtain ⟨kept, hk, hexplains⟩ := (discovery_shared pair rfl .empty .empty hboth).agree [0, 1]
    [.error (gone.replayAfter 1), .error (gone.replayAfter 0)] (by simp) (by simp) rfl
  generalize hl : [_, _] = outcomes at hexplains
  cases hexplains with
  | credential hsame => cases hsame _ (hl ▸ List.mem_cons_self)
  | @failure why copies _ hcopies hne =>
      obtain ⟨copy, rest, rfl, hcopy, hrest⟩ := List.map_eq_cons_iff.mp hl.symm
      obtain ⟨copy', rest', rfl, hcopy', -⟩ := List.map_eq_cons_iff.mp hrest
      rw [List.pairwise_cons, List.pairwise_cons] at hne
      refine ⟨_, _, copy, copy', hboth, ?_, ?_, hne.2.1 _ List.mem_cons_self, why, hk,
        hcopies _ (by simp), hcopies _ (by simp)⟩
      · rw [hcopy]
        rfl
      · rw [hcopy']
        rfl

end Rush
end DefaultCredentials
