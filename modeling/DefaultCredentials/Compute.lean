import DefaultCredentials.Credential.Refresh

/-!
# The metadata server

A machine that is hosted answers at a fixed address and says so in a header.  Asking once decides
whether the process runs on one: a failure of the transport means no.
-/

namespace DefaultCredentials.Compute

/-- The header by which the metadata server is known. -/
def flavorHeader : String :=
  "Metadata-Flavor"

def flavor : String :=
  "Google"

/-- The request that asks whether the metadata server is there. -/
def probe (s : Settings) : Request where
  method := "GET"
  url := .text s.metadataRoot
  headers := some Credential.metadataHeaders
  body := none
  timeout := some s.metadataTimeout

/-- Whether an answer is the metadata server's. -/
def isMetadataServer (r : Response) : Bool :=
  r.status == 200 && r.header flavorHeader == some flavor

theorem isMetadataServer_iff {r : Response} :
    isMetadataServer r = true ↔ r.status = 200 ∧ r.header "Metadata-Flavor" = some "Google" := by
  simp [isMetadataServer, flavorHeader, flavor]

/-- Whether the process runs on a hosted machine. -/
def isAvailable (channel : Channel) (s : Settings) (h : Host) : Except Raised Bool × Host :=
  match h.send channel (probe s) with
  | (.ok r, h) => (.ok (isMetadataServer r), h)
  | (.error why, h) =>
    if why.kind? = some .transport then (.ok false, h.log (.metadataUnreachable why.text))
    else (.error why, h)

end DefaultCredentials.Compute
