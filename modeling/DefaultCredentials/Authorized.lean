import DefaultCredentials.Credential.Refresh
import DefaultCredentials.Mappings

/-!
# Authorized requests

A request is sent with the header that carries a valid access token.  An answer that refuses the
token leads to one refresh and, if that gives a token, to one further request; the last answer is
the result.

The headers of a caller are one of the mappings of the process.  They are copied once, and the
header that carries the token is set in the copy each time.
-/

namespace DefaultCredentials

/-- A request as a caller puts it.  The headers are the mapping of a number, if there are any. -/
structure Draft where
  method : String
  url : Value
  headers : Option Nat
  body : Option (List UInt8)
  timeout : Option Float

namespace Draft

/-- The entries of the caller's headers. -/
def entries (d : Draft) (m : Mappings) : List (String × String) :=
  match d.headers with
  | none => []
  | some n => m.get n

theorem entries_eq (d : Draft) (m : Mappings) : d.entries m = d.headers.elim [] m.get := by
  unfold entries
  cases d.headers <;> rfl

/-- The request with other headers. -/
def request (d : Draft) (headers : List (String × String)) : Request :=
  ⟨d.method, d.url, some headers, d.body, d.timeout⟩

end Draft

namespace Authorized

/-- Whether a status refuses the token. -/
def isRefusal (status : Int) : Bool :=
  status == 401 || status == 403

/-- Sets the header that carries a valid access token in the mapping of a number. -/
def authorize (c : Credential) (n : Nat) (m : Mappings) (h : Host) :
    Except Raised Unit × Mappings × Credential × Host :=
  match c.apply (m.get n) h with
  | (.error why, c, h) => (.error why, m, c, h)
  | (.ok entries, c, h) => (.ok (), m.set n entries, c, h)

/-- Sends a request with a mapping as its headers, authorized first. -/
def sendOnce (c : Credential) (channel : Channel) (d : Draft) (n : Nat) (m : Mappings) (h : Host) :
    Answer × Mappings × Credential × Host :=
  match authorize c n m h with
  | (.error why, m, c, h) => (.error why, m, c, h)
  | (.ok (), m, c, h) =>
    let (answer, h) := h.send channel (d.request (m.get n))
    (answer, m, c, h)

/-- Sends a request for a caller. -/
def request (c : Credential) (channel : Channel) (d : Draft) (m : Mappings) (h : Host) :
    Answer × Mappings × Credential × Host :=
  let (n, m) := m.add (d.entries m)
  match sendOnce c channel d n m h with
  | (.error why, m, c, h) => (.error why, m, c, h)
  | (.ok answer, m, c, h) =>
    if isRefusal answer.status then
      match c.refresh (h.log (.refreshingAfter answer.status d.url)) with
      | (.error why, c, h) => (.error why, m, c, h)
      | (.ok false, c, h) => (.ok answer, m, c, h)
      | (.ok true, c, h) => sendOnce c channel d n m h
    else (.ok answer, m, c, h)

theorem isRefusal_iff {status : Int} : isRefusal status = true ↔ status = 401 ∨ status = 403 := by
  simp [isRefusal]

end Authorized
end DefaultCredentials
