import DefaultCredentials.Credential
import DefaultCredentials.Host.Files

/-!
# Credentials from files

A credential file becomes the credential of its shape.  When the key of a service account cannot
be loaded, that is a defect of the file.
-/

namespace DefaultCredentials.Credential

/-- A trouble with the key or what comes with it, as a defect of the file. -/
def keyDefect (path : Value) (why : Raised) : Raised :=
  if why.isOf .value || why.isOf .type then (FileDefect.keyUnusable why).raise path else why

/-- The credential for what a document holds; the path is that of the document, if it has one. -/
def ofInfo (info : CredentialInfo) (channel : Channel) (decoder : Decoder) (path : Value)
    (settings : Option Settings) (h : Host) : Except Raised Credential × Host :=
  match info with
  | .serviceAccount key =>
    match h.settingsOr settings with
    | (.error why, h) => (.error (keyDefect path why), h)
    | (.ok s, h) =>
      ((ofServiceAccount key channel decoder [] .null none s).mapError (keyDefect path), h)
  | .authorizedUser grant =>
    match h.settingsOr settings with
    | (.error why, h) => (.error why, h)
    | (.ok s, h) => (.ok (ofUser grant channel decoder .null s), h)

/-- Loads the credential file at a path; the text of the path is what a caller gave for it. -/
def load (pathText : String) (p : Path) (channel : Channel) (decoder : Decoder)
    (settings : Option Settings) (h : Host) : Except Raised Credential × Host :=
  let read := h.noting (h.readings p decoder)
  match CredentialInfo.ofFile h p decoder with
  | .error why => (.error why, read)
  | .ok info => ofInfo info channel decoder (.text pathText) settings read

theorem ofInfo_serviceAccount (key : ServiceAccountKey) (channel : Channel) (decoder : Decoder)
    (path : Value) (settings : Option Settings) (h : Host) :
    (ofInfo (.serviceAccount key) channel decoder path settings h).1 =
      ((h.settingsOr settings).1.bind fun s =>
        ofServiceAccount key channel decoder [] .null none s).mapError (keyDefect path) := by
  unfold ofInfo
  dsimp only
  split <;> rename_i hs <;> rw [hs] <;> rfl

theorem ofInfo_authorizedUser (grant : UserGrant) (channel : Channel) (decoder : Decoder)
    (path : Value) (settings : Option Settings) (h : Host) :
    (ofInfo (.authorizedUser grant) channel decoder path settings h).1 =
      (h.settingsOr settings).1.map fun s => ofUser grant channel decoder .null s := by
  unfold ofInfo
  dsimp only
  split <;> rename_i hs <;> rw [hs] <;> rfl

/-- With settings given, loading changes nothing but the trace. -/
theorem load_of_settings (pathText : String) (p : Path) (channel : Channel) (decoder : Decoder)
    (s : Settings) (h : Host) :
    (load pathText p channel decoder (some s) h).2 = h.noting (h.readings p decoder) := by
  unfold load
  dsimp only
  split
  · rfl
  · unfold ofInfo
    split <;> simp [Host.settingsOr]

end DefaultCredentials.Credential
