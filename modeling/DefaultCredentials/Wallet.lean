import DefaultCredentials.Credential.Refresh

/-!
# Wallets

A wallet holds the credentials of a process.  A credential keeps its number for good, so that all
who hold the number see one token and one last failure.
-/

namespace DefaultCredentials

/-- The credentials of a process by number. -/
structure Wallet where
  credentials : List Credential

namespace Wallet

def empty : Wallet :=
  ⟨[]⟩

/-- Adds a credential and gives its number. -/
def add (w : Wallet) (c : Credential) : Nat × Wallet :=
  (w.credentials.length, ⟨w.credentials ++ [c]⟩)

def get? (w : Wallet) (n : Nat) : Option Credential :=
  w.credentials[n]?

def set (w : Wallet) (n : Nat) (c : Credential) : Wallet :=
  ⟨w.credentials.set n c⟩

/-- Binds a credential to scopes: a new number where that makes another credential, and else the
number of the same one. -/
def withScopes (w : Wallet) (n : Nat) (scopes : List String) : Nat × Wallet :=
  match (w.get? n).bind (·.withScopes? scopes) with
  | some variant => w.add variant
  | none => (n, w)

theorem get?_add_self (w : Wallet) (c : Credential) : (w.add c).2.get? (w.add c).1 = some c := by
  simp [add, get?]

theorem get?_add_of_some {w : Wallet} {c d : Credential} {n : Nat} (h : w.get? n = some d) :
    (w.add c).2.get? n = some d := by
  unfold get? at h
  have hn : n < w.credentials.length := (List.getElem?_eq_some_iff.1 h).1
  simp [add, get?, List.getElem?_append_left hn, h]

theorem get?_set_ne (w : Wallet) {n m : Nat} (c : Credential) (h : n ≠ m) :
    (w.set n c).get? m = w.get? m := by
  simp [set, get?, List.getElem?_set_ne h]

end Wallet
end DefaultCredentials
