import DefaultCredentials.Resolver.Discovery
import DefaultCredentials.Wallet

/-!
# Resolvers

A resolver runs discovery once.  What it ended in, a credential or a failure of the library, is
kept and given to every later caller without looking again: the same credential, or the next copy
of the same failure.  Other faults pass and are not kept.
-/

namespace DefaultCredentials

/-- What discovery ended in: the number of a credential and where it came from, or a failure. -/
inductive Resolution
  | credential (number : Nat) (source : Source)
  | failure (why : Raised)

namespace Resolution

def source? : Resolution → Option Source
  | credential _ source => some source
  | failure _ => none

/-- The credential, or a copy of the failure made after a number of others. -/
def unwrap (copies : Nat) : Resolution → Except Raised Nat
  | credential number _ => .ok number
  | failure why => .error (why.replayAfter copies)

end Resolution

/-- A resolver with what it kept and the number of copies that it gave away. -/
structure Resolver where
  scope : Scope
  kept : Option Resolution
  copies : Nat

namespace Resolver

/-- A resolver that has not looked yet.  No platform means that of the process, and no adapters
mean those that are registered. -/
def new (environment : Option (List (String × String))) (platform : Option String)
    (home : Option String) (adapters : Option (List Adapter)) (settings : Settings) (h : Host) :
    Resolver where
  scope :=
    { environment := environment
      platform := (platform.filter (· ≠ "")).getD h.platform
      home := home.map Path.ofText
      adapters := adapters.getD h.adapters
      settings := settings }
  kept := none
  copies := 0

/-- What a discovery comes to, and what is logged about it. -/
def conclude (w : Wallet) : Except Raised (Credential × Source) × Host →
    Except Raised Resolution × Wallet × Host
  | (.ok (c, source), h) =>
    let (number, w) := w.add c
    (.ok (.credential number source), w, h.log (.credentialResolved source.name c.kind))
  | (.error why, h) =>
    match why.failure? with
    | some _ => (.ok (.failure why), w, h.log (.credentialNotFound why.text))
    | none => (.error why, w, h)

def replay (r : Resolver) (kept : Resolution) : Except Raised Nat × Resolver :=
  (kept.unwrap r.copies, { r with kept := some kept, copies := r.copies + 1 })

/-- The credential of the process; discovery runs if nothing is kept. -/
def resolve (r : Resolver) (channel : Channel) (decoder : Decoder) (w : Wallet) (h : Host) :
    Except Raised Nat × Resolver × Wallet × Host :=
  match r.kept with
  | some kept =>
    let (outcome, r) := r.replay kept
    (outcome, r, w, h)
  | none =>
    match conclude w (Discovery.discover r.scope channel decoder Source.all h) with
    | (.error why, w, h) => (.error why, r, w, h)
    | (.ok kept, w, h) =>
      let (outcome, r) := r.replay kept
      (outcome, r, w, h)

/-- What was kept is given again, whatever has changed, and nothing is looked at. -/
theorem resolve_of_kept {r : Resolver} {kept : Resolution} (hk : r.kept = some kept)
    (channel : Channel) (decoder : Decoder) (w : Wallet) (h : Host) :
    r.resolve channel decoder w h =
      (kept.unwrap r.copies, { r with copies := r.copies + 1 }, w, h) := by
  simp [resolve, hk, replay]

end Resolver
end DefaultCredentials
