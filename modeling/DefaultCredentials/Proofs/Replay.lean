import DefaultCredentials.Resolver

/-!
# One resolution for good

What the first call of a resolver ends in is what every later call gives.  `Visit` is a later call
together with the world that it finds, which may be any world: the file that was missing may be
there, a runtime may have come or gone.

* `Resolver.visit_of_kept` says what one later call does: it gives the next copy of what is kept,
  counts it, and leaves the world as it found it.
* `Resolver.given_of_kept` and `Resolver.after_of_kept` say the same of a run of later calls.
* `Resolver.resolve_once` joins the first call and all later ones.
-/

namespace DefaultCredentials

namespace Resolution

def credential? : Resolution → Option Nat
  | credential number _ => some number
  | failure _ => none

def error? : Resolution → Option Raised
  | credential _ _ => none
  | failure why => some why

theorem exclusive (kept : Resolution) :
    kept.credential?.isSome = !kept.error?.isSome ∧
      kept.source?.isSome = kept.credential?.isSome := by
  cases kept <;> exact ⟨rfl, rfl⟩

/-- What is kept explains what a number of calls gave: the one credential each time, or each time
another copy of the one failure. -/
inductive Explains : Resolution → List (Except Raised Nat) → Prop
  | credential {n : Nat} {source : Source} {outcomes : List (Except Raised Nat)} :
      (∀ o ∈ outcomes, o = .ok n) → Explains (.credential n source) outcomes
  | failure {why : Raised} {copies : List Raised} : why.failure?.isSome →
      (∀ copy ∈ copies, copy.IsCopyOf why) →
      (why :: copies).Pairwise (fun x y => x.occurrence ≠ y.occurrence) →
      Explains (.failure why) (copies.map .error)

end Resolution

theorem Raised.replayAfter_ne {m n : Nat} (why : Raised) (h : m ≠ n) :
    (why.replayAfter m).occurrence ≠ (why.replayAfter n).occurrence := by
  intro he
  have hcopy := congrArg Occurrence.copy he
  simp only [Raised.replayAfter] at hcopy
  omega

namespace Resolver

/-- A later call, with all that may have changed before it: where the resolver looks, the transport
and the decoder that it is given, the credentials of the process, and the host. -/
structure Visit where
  scope : Scope
  channel : Channel
  decoder : Decoder
  wallet : Wallet
  host : Host

/-- What a later call gives and leaves behind. -/
def visit (r : Resolver) (v : Visit) : Except Raised Nat × Resolver × Wallet × Host :=
  { r with scope := v.scope }.resolve v.channel v.decoder v.wallet v.host

/-- The resolver after later calls. -/
def after (r : Resolver) : List Visit → Resolver
  | [] => r
  | v :: rest => after (r.visit v).2.1 rest

/-- What later calls give, each with the wallet and the host that it leaves behind. -/
def given (r : Resolver) : List Visit → List (Except Raised Nat × Wallet × Host)
  | [] => []
  | v :: rest => ((r.visit v).1, (r.visit v).2.2) :: given (r.visit v).2.1 rest

variable {r : Resolver} {kept : Resolution}

/-! ### Later calls -/

/-- A later call gives the next copy of what is kept, and all it changes is the count. -/
theorem visit_of_kept (hk : r.kept = some kept) (v : Visit) :
    r.visit v = (kept.unwrap r.copies, ⟨v.scope, some kept, r.copies + 1⟩, v.wallet, v.host) := by
  have hv : ({ r with scope := v.scope } : Resolver).kept = some kept := hk
  rw [visit, resolve_of_kept hv]
  simp only [hk]

/-- Later calls keep what is kept. -/
theorem after_of_kept (hk : r.kept = some kept) (visits : List Visit) :
    (r.after visits).kept = some kept := by
  induction visits generalizing r with
  | nil => exact hk
  | cons v rest ih =>
      rw [after, visit_of_kept hk]
      exact ih rfl

/-- Later calls give one copy after another and leave each world as it was. -/
theorem given_of_kept (hk : r.kept = some kept) (visits : List Visit) :
    (r.given visits).map (·.2) = visits.map (fun v => (v.wallet, v.host)) ∧
      (r.given visits).map (·.1) = (List.range' r.copies visits.length).map kept.unwrap := by
  induction visits generalizing r with
  | nil => exact ⟨rfl, rfl⟩
  | cons v rest ih =>
      rw [given, visit_of_kept hk]
      obtain ⟨hworlds, houtcomes⟩ := ih (r := ⟨v.scope, some kept, r.copies + 1⟩) rfl
      rw [List.map_cons, List.map_cons, List.map_cons, hworlds, houtcomes, List.length_cons,
        List.range'_succ]
      exact ⟨rfl, rfl⟩

/-! ### The first call -/

/-- A first call that ends in a credential or a failure keeps it and gives the first copy.  The
number of a credential is one that the process now has. -/
theorem resolve_of_ended {channel : Channel} {decoder : Decoder} {w : Wallet} {h : Host}
    (hk : r.kept = none)
    (hends : ∀ why, (r.resolve channel decoder w h).1 = .error why → why.failure?.isSome) :
    ∃ kept, (∀ why, kept = .failure why → why.failure?.isSome) ∧
      (r.resolve channel decoder w h).1 = kept.unwrap r.copies ∧
      (r.resolve channel decoder w h).2.1 = ⟨r.scope, some kept, r.copies + 1⟩ ∧
      ∀ n, kept.credential? = some n → ((r.resolve channel decoder w h).2.2.1.get? n).isSome := by
  unfold resolve at hends ⊢
  rw [hk] at hends ⊢
  generalize Discovery.discover r.scope channel decoder Source.all h = found at hends ⊢
  rcases found with ⟨⟨why⟩ | ⟨c, source⟩, h'⟩
  · cases hf : why.failure? with
    | none =>
        -- A fault that is no failure of the library passes, and `hends` rules that out.
        simp only [conclude, hf] at hends
        have hnone := hends why rfl
        rw [hf] at hnone
        cases hnone
    | some f =>
        simp only [conclude, hf]
        refine ⟨.failure why, ?_, rfl, rfl, ?_⟩
        · rintro why' ⟨⟩
          rw [hf]
          rfl
        · rintro n ⟨⟩
  · refine ⟨.credential (w.add c).1 source, ?_, rfl, rfl, ?_⟩
    · rintro why ⟨⟩
    · rintro n ⟨⟩
      simp only [conclude, w.get?_add_self, Option.isSome_some]

/-- Copies of what is kept that were made after different numbers of others are explained by it. -/
theorem explains_map_unwrap (hkept : ∀ why, kept = .failure why → why.failure?.isSome)
    {turns : List Nat} (ht : turns.Nodup) : kept.Explains (turns.map kept.unwrap) := by
  cases kept with
  | credential n source =>
      refine .credential fun o ho => ?_
      obtain ⟨turn, -, rfl⟩ := List.mem_map.mp ho
      rfl
  | failure why =>
      have hcopies : turns.map (Resolution.failure why).unwrap =
          (turns.map why.replayAfter).map .error := by
        rw [List.map_map]
        rfl
      have hcopy : ∀ copy ∈ turns.map why.replayAfter, copy.IsCopyOf why := by
        intro copy hc
        obtain ⟨turn, -, rfl⟩ := List.mem_map.mp hc
        exact Raised.isCopyOf_replayAfter ..
      rw [hcopies]
      refine .failure (hkept why rfl) hcopy (List.pairwise_cons.mpr ⟨?_, ?_⟩)
      · exact fun copy hc => (hcopy copy hc).1.symm
      · exact List.pairwise_map.mpr (ht.imp fun hne => why.replayAfter_ne hne)

theorem explains_unwrap (hkept : ∀ why, kept = .failure why → why.failure?.isSome)
    (first count : Nat) : kept.Explains ((List.range' first count).map kept.unwrap) :=
  explains_map_unwrap hkept List.nodup_range'

/-! ### All calls -/

/-- **What a resolver ends in, it ends in for good.**  If the first call ends in a credential or in
a failure of the library, then there is one result, which is either a credential of the process
with its source or a failure, such that after any later calls, whatever world each of them finds,
the resolver keeps that result, no later call has changed or noted anything in its world, and the
result explains what all calls gave, the first one included. -/
theorem resolve_once (channel : Channel) (decoder : Decoder) (w : Wallet) (h : Host)
    (hk : r.kept = none)
    (hends : ∀ why, (r.resolve channel decoder w h).1 = .error why → why.failure?.isSome) :
    let first := (r.resolve channel decoder w h).1
    let settled := (r.resolve channel decoder w h).2.1
    let wallet := (r.resolve channel decoder w h).2.2.1
    ∃ kept : Resolution,
      (kept.credential?.isSome = !kept.error?.isSome ∧
        kept.source?.isSome = kept.credential?.isSome) ∧
      (∀ n, kept.credential? = some n → (wallet.get? n).isSome) ∧
      ∀ visits, (settled.after visits).kept = some kept ∧
        (settled.given visits).map (·.2) = visits.map (fun v => (v.wallet, v.host)) ∧
        kept.Explains (first :: (settled.given visits).map (·.1)) := by
  obtain ⟨kept, hkept, hfirst, hsettled, hwallet⟩ := resolve_of_ended hk hends
  refine ⟨kept, kept.exclusive, hwallet, fun visits => ?_⟩
  have hs : ((r.resolve channel decoder w h).2.1).kept = some kept := by rw [hsettled]
  obtain ⟨hworlds, houtcomes⟩ := given_of_kept hs visits
  refine ⟨after_of_kept hs visits, hworlds, ?_⟩
  have hall := explains_unwrap hkept r.copies (visits.length + 1)
  rw [List.range'_succ, List.map_cons] at hall
  rw [houtcomes, hfirst, hsettled]
  exact hall

/-- A resolver whose variable names a file that is not there. -/
def misplaced : Resolver where
  scope :=
    { environment := some [("GOOGLE_APPLICATION_CREDENTIALS", "/gone.json")]
      platform := "linux"
      home := none
      adapters := []
      settings := .standard }
  kept := none
  copies := 0

/-- A later call that finds the variable gone and a runtime there. -/
def recovered : Visit where
  scope :=
    { misplaced.scope with
      environment := some []
      adapters := [.custom "ready" (.ok true) (.exchanges "sequence" "SequenceCredential" [])] }
  channel := .api
  decoder := .json
  wallet := .empty
  host := { Host.empty with settings := some .standard }

/-- The failure to find the file is given again, as another copy, where a new resolver would find
the runtime. -/
theorem resolve_once_misplaced :
    let first := (misplaced.resolve .main .json .empty .empty).1
    let settled := (misplaced.resolve .main .json .empty .empty).2.1
    ∃ why copy copy', first = .error copy ∧ (settled.visit recovered).1 = .error copy' ∧
      copy.IsCopyOf why ∧ copy'.IsCopyOf why ∧ copy.occurrence ≠ copy'.occurrence ∧
      (settled.visit recovered).2.2.2.trace = [] := by
  have hends : ∀ why, (misplaced.resolve .main .json .empty .empty).1 = .error why →
      why.failure?.isSome := by
    rintro why ⟨⟩
    rfl
  obtain ⟨kept, -, -, hall⟩ := resolve_once .main .json .empty .empty rfl hends
  obtain ⟨-, hworlds, hexplains⟩ := hall [recovered]
  simp only [given, List.map_cons, List.map_nil, List.cons.injEq, and_true] at hworlds hexplains
  generalize hl : [_, _] = outcomes at hexplains
  cases hexplains with
  | credential hsame =>
      have hfirst := hsame _ (hl ▸ List.mem_cons_self)
      cases hfirst
  | @failure why copies _ hcopies hne =>
      obtain ⟨copy, rest, rfl, hcopy, hrest⟩ := List.map_eq_cons_iff.mp hl.symm
      obtain ⟨copy', rest', rfl, hcopy', -⟩ := List.map_eq_cons_iff.mp hrest
      refine ⟨why, copy, copy', hcopy.symm, hcopy'.symm, hcopies _ (by simp), hcopies _ (by simp),
        ?_, by rw [hworlds]; rfl⟩
      rw [List.pairwise_cons, List.pairwise_cons] at hne
      exact hne.2.1 _ List.mem_cons_self

end Resolver
end DefaultCredentials
