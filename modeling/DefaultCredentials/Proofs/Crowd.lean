/-!
# Callers around a lock

Any number of callers use one world, and a lock lets one of them in at a time.  A `Crowd` is the
world, the holder of the lock and the stage that each caller is at.  What a caller may do at a stage
is told by a step relation, and a `Run` is one interleaving of such steps.

A stage tells whether a caller at it holds the lock.  `Crowd.IsGuarded` says that the lock agrees
with all stages, so that no two callers are at such stages; the lemmas beside it say which changes
of a stage keep that.
-/

namespace DefaultCredentials

variable {ω σ α : Type}

/-- Callers of one world, by number. -/
structure Crowd (ω σ : Type) where
  world : ω
  holder : Option Nat
  stage : Nat → σ

namespace Crowd

variable {s s' : Crowd ω σ} {p q : Nat} {x : σ}

/-- Puts a caller at a stage. -/
def put (s : Crowd ω σ) (p : Nat) (x : σ) : Crowd ω σ :=
  { s with stage := fun q => if q = p then x else s.stage q }

/-- Puts a caller at a stage and leaves another world. -/
def putIn (s : Crowd ω σ) (p : Nat) (x : σ) (w : ω) : Crowd ω σ :=
  { s.put p x with world := w }

/-- Puts a caller at a stage and gives it the lock. -/
def take (s : Crowd ω σ) (p : Nat) (x : σ) : Crowd ω σ :=
  { s.put p x with holder := some p }

/-- Puts a caller at a stage and frees the lock. -/
def free (s : Crowd ω σ) (p : Nat) (x : σ) : Crowd ω σ :=
  { s.put p x with holder := none }

section projections

variable (s p x) (w : ω)

@[simp] theorem world_put : (s.put p x).world = s.world := rfl
@[simp] theorem world_putIn : (s.putIn p x w).world = w := rfl
@[simp] theorem world_take : (s.take p x).world = s.world := rfl
@[simp] theorem world_free : (s.free p x).world = s.world := rfl

@[simp] theorem holder_put : (s.put p x).holder = s.holder := rfl
@[simp] theorem holder_putIn : (s.putIn p x w).holder = s.holder := rfl
@[simp] theorem holder_take : (s.take p x).holder = some p := rfl
@[simp] theorem holder_free : (s.free p x).holder = none := rfl

@[simp] theorem stage_put (q : Nat) :
    (s.put p x).stage q = if q = p then x else s.stage q := rfl
@[simp] theorem stage_putIn (q : Nat) :
    (s.putIn p x w).stage q = if q = p then x else s.stage q := rfl
@[simp] theorem stage_take (q : Nat) :
    (s.take p x).stage q = if q = p then x else s.stage q := rfl
@[simp] theorem stage_free (q : Nat) :
    (s.free p x).stage q = if q = p then x else s.stage q := rfl

end projections

/-! ### The lock -/

section lock

variable {holds : σ → Bool}

/-- The lock is held by the caller, if there is one, whose stage says that it holds it. -/
def IsGuarded (holds : σ → Bool) (s : Crowd ω σ) : Prop :=
  ∀ p, holds (s.stage p) = true ↔ s.holder = some p

namespace IsGuarded

theorem eq (hg : s.IsGuarded holds) (hp : holds (s.stage p) = true)
    (hq : holds (s.stage q) = true) : p = q := by
  have hholder := (hg p).mp hp
  rw [(hg q).mp hq] at hholder
  exact (Option.some.inj hholder).symm

theorem not_holds (hg : s.IsGuarded holds) (hp : holds (s.stage p) = true) (hq : q ≠ p) :
    holds (s.stage q) = false := by
  cases hh : holds (s.stage q) with
  | false => rfl
  | true => exact absurd (hg.eq hh hp) hq

theorem put (hg : s.IsGuarded holds) (hx : holds x = holds (s.stage p)) :
    (s.put p x).IsGuarded holds := by
  intro q
  rw [stage_put, holder_put]
  split
  · rename_i hq
    rw [hq, hx]
    exact hg p
  · exact hg q

theorem putIn (hg : s.IsGuarded holds) (hx : holds x = holds (s.stage p)) (w : ω) :
    (s.putIn p x w).IsGuarded holds :=
  hg.put hx

theorem take (hg : s.IsGuarded holds) (hfree : s.holder = none) (hx : holds x = true) :
    (s.take p x).IsGuarded holds := by
  intro q
  rw [stage_take, holder_take]
  split
  · rename_i hq
    rw [hq]
    exact ⟨fun _ => rfl, fun _ => hx⟩
  · rename_i hq
    refine ⟨fun hh => ?_, fun hh => absurd (Option.some.inj hh).symm hq⟩
    rw [(hg q).mp hh] at hfree
    cases hfree

theorem free (hg : s.IsGuarded holds) (hp : holds (s.stage p) = true) (hx : holds x = false) :
    (s.free p x).IsGuarded holds := by
  intro q
  rw [stage_free, holder_free]
  refine ⟨fun hh => ?_, fun hh => by cases hh⟩
  split at hh
  · rw [hx] at hh
    cases hh
  · rename_i hq
    exact absurd (hg.eq hh hp) hq

end IsGuarded
end lock

/-! ### Interleavings -/

/-- One interleaving of steps, in the order in which they are taken. -/
inductive Run (step : α → Crowd ω σ → Crowd ω σ → Prop) (s : Crowd ω σ) :
    List α → Crowd ω σ → Prop
  | nil : Run step s [] s
  | snoc {acts : List α} {a : α} {m s' : Crowd ω σ} :
      Run step s acts m → step a m s' → Run step s (acts ++ [a]) s'

namespace Run

variable {step : α → Crowd ω σ → Crowd ω σ → Prop} {a : α} {acts acts' : List α}
  {m : Crowd ω σ}

theorem single (h : step a s s') : Run step s [a] s' :=
  .snoc .nil h

theorem trans (hr : Run step s acts m) (hr' : Run step m acts' s') :
    Run step s (acts ++ acts') s' := by
  induction hr' with
  | nil => simpa using hr
  | snoc _ hs ih =>
      rw [← List.append_assoc]
      exact ih.snoc hs

/-- What holds at the start and is kept by every step holds at the end. -/
theorem invariant {P : Crowd ω σ → Prop} (hr : Run step s acts s') (hs : P s)
    (hstep : ∀ a m m', step a m m' → P m → P m') : P s' := by
  induction hr with
  | nil => exact hs
  | snoc _ ha ih => exact hstep _ _ _ ha ih

end Run

/-- At some time of a run that ends here, a statement held of what there was. -/
def Once (step : α → Crowd ω σ → Crowd ω σ → Prop) (start : Crowd ω σ) (acts : List α)
    (s : Crowd ω σ) (P : Crowd ω σ → Prop) : Prop :=
  ∃ before after m, acts = before ++ after ∧ Run step start before m ∧ Run step m after s ∧ P m

namespace Once

variable {step : α → Crowd ω σ → Crowd ω σ → Prop} {a : α} {acts : List α} {start : Crowd ω σ}
  {P : Crowd ω σ → Prop}

theorem now (hr : Run step start acts s) (hP : P s) : Once step start acts s P :=
  ⟨acts, [], s, (List.append_nil _).symm, hr, .nil, hP⟩

theorem later (ho : Once step start acts s P) (ha : step a s s') :
    Once step start (acts ++ [a]) s' P := by
  obtain ⟨before, after, m, rfl, hbefore, hafter, hP⟩ := ho
  exact ⟨before, after ++ [a], m, List.append_assoc .., hbefore, hafter.snoc ha, hP⟩

end Once
end Crowd
end DefaultCredentials
