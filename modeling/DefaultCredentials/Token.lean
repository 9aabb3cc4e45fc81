import DefaultCredentials.Decoder
import DefaultCredentials.Number.Literal
import DefaultCredentials.Response

/-!
# Access tokens

A token may expire; it counts as valid while more than a buffer of time is left.  An answer of a
token endpoint gives a token whose expiry is the clock plus the lifetime that the answer states,
and a `TokenDefect` says why an answer gives none.
-/

namespace DefaultCredentials

/-- Scopes in order of code points, each once. -/
abbrev Scopes := List String

namespace Scopes

/-- Puts a scope into its place, unless it is there. -/
def insert (scope : String) : Scopes → Scopes
  | [] => [scope]
  | s :: rest =>
    if scope < s then scope :: s :: rest
    else if scope = s then s :: rest
    else s :: insert scope rest

/-- The distinct scopes of a list, in order. -/
def ofList (scopes : List String) : Scopes :=
  scopes.foldl (fun sorted s => insert s sorted) []

theorem mem_insert {s scope : String} {sorted : Scopes} :
    s ∈ insert scope sorted ↔ s = scope ∨ s ∈ sorted := by
  induction sorted with
  | nil => simp [insert]
  | cons t rest ih =>
    unfold insert
    split
    · simp
    · split
      · rename_i h; subst h; simp
      · simp [ih]; constructor <;> (intro h; rcases h with h | h | h <;> simp [h])

theorem mem_ofList {s : String} {scopes : List String} : s ∈ ofList scopes ↔ s ∈ scopes := by
  have h : ∀ (sorted : Scopes), s ∈ scopes.foldl (fun sorted s => insert s sorted) sorted ↔
      s ∈ scopes ∨ s ∈ sorted := by
    induction scopes with
    | nil => simp
    | cons t rest ih =>
      intro sorted
      simp only [List.foldl_cons, ih, mem_insert, List.mem_cons]
      constructor
      · rintro (h | h | h) <;> simp [h]
      · rintro ((h | h) | h) <;> simp [h]
  simpa [ofList] using h []

end Scopes

structure Token where
  accessToken : Value
  expiresAt : Option Float
  scopes : Scopes
  deriving Repr

namespace Token

/-- Tokens count as expired this many seconds early. -/
def buffer : Float :=
  60.0

/-- Whether more than a buffer of time is left. -/
def isValidWithin (t : Token) (now buffer : Float) : Bool :=
  match t.expiresAt with
  | none => true
  | some expiry => now < expiry - buffer

def isValid (t : Token) (now : Float) : Bool :=
  t.isValidWithin now buffer

/-- The whole seconds until a token expires, none of them negative. -/
def expiresIn (t : Token) (now : Float) : Except Raised (Option Int) :=
  match t.expiresAt with
  | none => .ok none
  | some expiry =>
    match Number.truncate (expiry - now) with
    | .ok seconds => .ok (some (max 0 seconds))
    | .error why => .error (.trouble (.notWhole why))

end Token

/-- Why an answer gives no token. -/
inductive TokenDefect
  | status (code : Int) (body : String)
  | undecodable (why : Raised)
  | absent
  | lifetime (stated : Value) (why : Raised)

namespace TokenDefect

/-- How much of a refused answer's body is quoted. -/
def quotedLength : Nat :=
  500

def message : TokenDefect → String
  | status code body => "Token endpoint returned " ++ toString code ++ ": " ++ body
  | undecodable why => "Token response is not valid JSON: " ++ why.text
  | absent => "Token response has no access_token"
  | lifetime stated _ => "Invalid expires_in in token response: " ++ stated.shown

def status? : TokenDefect → Value
  | status code _ => .int code
  | _ => .null

def raise (d : TokenDefect) : Raised :=
  let f : Failure := .refreshFailed (.text d.message) d.status?
  match d with
  | undecodable why => .because f why
  | lifetime _ why => .because f why
  | _ => .failure f

theorem kind_raise (d : TokenDefect) : d.raise.kind? = some .refreshFailed := by
  cases d <;> rfl

end TokenDefect

/-- A value as a number. -/
def Value.toFloat (v : Value) : Except Raised Float :=
  match v with
  | .float x => .ok x
  | .int i => match Number.ofInt? i with
    | some x => .ok x
    | none => .error (.trouble .wholeTooLarge)
  | .bool b => .ok (if b then 1.0 else 0.0)
  | .text s => match Number.ofText? s with
    | some x => .ok x
    | none => .error (.trouble (.notNumeric v))
  | _ => .error (.trouble (.notNumeric v))

namespace Token

/-- The expiry that a stated lifetime gives: none if it is null.  A lifetime that is no number is
a defect of the answer; one that is too large for a number passes as it is. -/
def expiry (stated : Value) (now : Float) : Except Raised (Option Float) :=
  match stated with
  | .null => .ok none
  | v =>
    match v.toFloat with
    | .ok seconds => .ok (some (now + seconds))
    | .error why =>
      .error (if why.isOf .value || why.isOf .type then (TokenDefect.lifetime v why).raise
        else why)

/-- The token in the decoded body of an answer. -/
def ofBody (body : Value) (scopes : Scopes) (now : Float) : Except Raised Token :=
  match body with
  | .object members =>
    let accessToken := Value.member members "access_token"
    if accessToken.isGiven then
      (expiry (Value.member members "expires_in") now).map fun expiresAt =>
        ⟨accessToken, expiresAt, scopes⟩
    else .error TokenDefect.absent.raise
  | _ => .error TokenDefect.absent.raise

/-- The token in an answer. -/
def ofResponse (r : Response) (decoder : Decoder) (scopes : Scopes) (now : Float) :
    Except Raised Token :=
  if r.isSuccess then
    match decoder.decodeOctets r.body with
    | .ok body => ofBody body scopes now
    | .error why => .error (if why.isOf .value then (TokenDefect.undecodable why).raise else why)
  else
    let quoted := ((Utf8.decodeLossy r.body).toList.take TokenDefect.quotedLength)
    .error (TokenDefect.status r.status (String.ofList quoted)).raise

theorem scopes_of_ofResponse {r : Response} {decoder : Decoder} {scopes : Scopes} {now : Float}
    {t : Token} (h : ofResponse r decoder scopes now = .ok t) : t.scopes = scopes := by
  unfold ofResponse at h
  split at h
  · split at h
    · unfold ofBody at h
      split at h
      · dsimp only at h
        split at h
        · cases he : expiry (Value.member _ "expires_in") now with
          | error e => rw [he] at h; cases h
          | ok x => rw [he] at h; cases h; rfl
        · cases h
      · cases h
    · cases h
  · cases h

end Token
end DefaultCredentials
