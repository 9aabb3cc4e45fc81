import DefaultCredentials.Trust.Provider

/-!
# The client for real connections

A client sends a request with its own timeout where the request names none, and states the length
of the body.  A fault of the exchange becomes a failure of the transport; other faults pass.
-/

namespace DefaultCredentials

/-- A client for connections. -/
structure HttpClient where
  presentsCertificate : Bool
  timeout : Float
  isClosed : Bool
  deriving Repr

/-- A request as it goes out. -/
structure SentRequest where
  method : String
  url : String
  headers : List (String × String)
  body : List UInt8
  timeout : Float
  deriving Repr

namespace HttpClient

def ofConfig (config : Option TrustConfig) (timeout : Float) : HttpClient :=
  ⟨config.any (·.useClientCertificate), timeout, false⟩

def close (c : HttpClient) : HttpClient :=
  { c with isClosed := true }

/-- The client that presents what trust selection decides. -/
def build (provider : TrustProvider) (s : Settings) (h : Host) : Except Raised HttpClient × Host :=
  match Trust.select provider h with
  | (.error why, h) => (.error why, h)
  | (.ok config, h) =>
    match TlsContext.ofConfig (some config) h with
    | (.error why, h) => (.error why, h)
    | (.ok _, h) => (.ok (ofConfig (some config) s.requestTimeout), h)

/-- The length that is stated for a body: always if there is one, and also for an empty one where
the method expects a body. -/
def statedLength? (method : String) (body : List UInt8) : Option Nat :=
  if !body.isEmpty then some body.length
  else if ["POST", "PUT", "PATCH"].contains method then some 0
  else none

/-- A request as it goes out. -/
def outgoing (c : HttpClient) (r : Request) : SentRequest :=
  let method := Text.upper r.method
  let body := r.body.getD []
  let headers := (r.headers.getD []).map fun p => (Text.lower p.1, p.2)
  let stated := headers.any fun p => p.1 == "content-length" || p.1 == "transfer-encoding"
  let length := if stated then [] else
    ((statedLength? method body).map fun n => ("content-length", toString n)).toList
  ⟨method, r.url.plain, headers ++ length, body, r.timeout.getD c.timeout⟩

/-- Headers as they come in: names in lower case, values of one name joined by commas. -/
def incoming (headers : List (String × String)) : List (String × String) :=
  headers.foldl (fun joined p =>
    let name := Text.lower p.1
    match joined.lookup name with
    | some v => Entries.put joined name (v ++ ", " ++ p.2)
    | none => joined ++ [(name, p.2)]) []

/-- What an exchange comes to. -/
def receive (r : Request) : Answer → Answer
  | .ok answer => .ok { answer with headers := incoming answer.headers }
  | .error why =>
    if why.isOf .exchange then
      .error (.because (.transport (r.method ++ " " ++ r.url.plain ++ " failed: " ++ why.text)) why)
    else .error why

theorem timeout_outgoing_of_none {c : HttpClient} {r : Request} (h : r.timeout = none) :
    (c.outgoing r).timeout = c.timeout := by
  simp [outgoing, h]

end HttpClient
end DefaultCredentials
