import DefaultCredentials.CredentialFile
import DefaultCredentials.Proofs.DocumentRoundTrip

/-!
# Credential documents read back

What a credential document holds is read back from every document that holds it.

* `CredentialInfo.fields`: the fields of a shape with the names of their members.
* `CredentialInfo.IsTextual`: required fields are texts that are not empty, the others null or
  texts.
* `CredentialInfo.IsHeldBy`: the members of an object hold the shape's name and its fields, in any
  order and among any further members; a field that is null may be left out.
* `CredentialInfo.parse_rendered`: the document of such an object is parsed as what it holds.
-/

namespace DefaultCredentials.CredentialInfo

/-- The fields of what a document holds, with the names of their members. -/
def fields : CredentialInfo → List (String × Value)
  | serviceAccount key =>
    [("client_id", key.clientId), ("client_email", key.clientEmail),
      ("private_key", key.privateKey), ("private_key_id", key.privateKeyId),
      ("token_uri", key.tokenUri), ("project_id", key.projectId)]
  | authorizedUser grant =>
    [("client_id", grant.clientId), ("client_secret", grant.clientSecret),
      ("refresh_token", grant.refreshToken), ("quota_project_id", grant.quotaProjectId)]

/-- Required fields are texts that are not empty, the others are null or texts. -/
def IsTextual (info : CredentialInfo) : Prop :=
  ∀ f ∈ info.fields, if f.1 ∈ info.type.required then ∃ s, s ≠ "" ∧ f.2 = .text s
    else f.2 = .null ∨ ∃ s, f.2 = .text s

/-- The members of an object hold what a document is to hold, whatever else is among them. -/
structure IsHeldBy (info : CredentialInfo) (members : List (String × Value)) : Prop where
  type : ("type", .text info.type.name) ∈ members
  field : ∀ f ∈ info.fields, f ∈ members ∨ f.2 = .null ∧ f.1 ∉ members.map (·.1)

variable {info : CredentialInfo} {members : List (String × Value)}

theorem exists_field_of_required {name : String} (hname : name ∈ info.type.required) :
    ∃ v, (name, v) ∈ info.fields := by
  cases info <;>
    · simp only [type, FileType.required, List.mem_cons, List.not_mem_nil, or_false] at hname
      rcases hname with rfl | rfl | rfl | rfl <;> exact ⟨_, by simp [fields]; rfl⟩

theorem ofMembers_of_fields (hf : ∀ f ∈ info.fields, Value.member members f.1 = f.2) :
    ofMembers info.type members = info := by
  cases info with
  | serviceAccount key => simp_all [fields, ofMembers, type]
  | authorizedUser grant => simp_all [fields, ofMembers, type]

theorem isGiven_text_of_ne {s : String} (hs : s ≠ "") : (Value.text s).isGiven = true := by
  simpa [Value.isGiven] using hs

theorem IsHeldBy.member (h : info.IsHeldBy members) (hnames : (members.map (·.1)).Nodup) :
    ∀ f ∈ info.fields, Value.member members f.1 = f.2 := by
  intro f hf
  rw [Value.member]
  rcases h.field f hf with hmem | ⟨hnull, habsent⟩
  · rw [Entries.lookup_of_mem hnames hmem, Option.getD_some]
  · rw [Entries.lookup_of_not_mem habsent, Option.getD_none, hnull]

/-- The object that holds a shape is read as it. -/
theorem IsHeldBy.ofValue (h : info.IsHeldBy members) (hnames : (members.map (·.1)).Nodup)
    (htext : info.IsTextual) : ofValue (.object members) = .ok info := by
  have hfields := h.member hnames
  have htype : Value.member members "type" = .text info.type.name := by
    rw [Value.member, Entries.lookup_of_mem hnames h.type, Option.getD_some]
  have hmissing : missing info.type members = [] := by
    rw [missing_eq_nil_iff]
    intro name hname
    obtain ⟨v, hv⟩ := exists_field_of_required hname
    have hfilled := htext (name, v) hv
    rw [if_pos hname] at hfilled
    obtain ⟨s, hs, rfl⟩ := hfilled
    rw [hfields _ hv]
    exact isGiven_text_of_ne hs
  rw [ofValue_object htype hmissing, ofMembers_of_fields hfields]

/-- **Round trip.**  Take what a document can hold, with texts of any characters for its fields, and
an object that holds it, in any order and with any further members.  The document of that object is
parsed as what it holds, and so are the document's octets. -/
theorem parse_rendered {text : String} (htext : info.IsTextual) (hheld : info.IsHeldBy members)
    (hrender : Json.render? (.object members) = some text) (path : Value) :
    parseText text .json path = .ok info ∧ parse (Utf8.encode text) .json path = .ok info := by
  obtain ⟨hobject, rfl⟩ := Json.render?_eq_some.mp hrender
  have hnames : (members.map (·.1)).Nodup := by
    have hsucc : Json.maxDepth = 989 + 1 := rfl
    rw [hsucc, Json.isRenderable, Bool.and_eq_true] at hobject
    exact of_decide_eq_true hobject.1
  have hread := Json.read_of_render? hrender
  have hdecoded : Decoder.json.decode (Json.write (.object members)) = .ok (.object members) := by
    simp only [Decoder.json]
    rw [hread]
    rfl
  have hvalue := hheld.ofValue hnames htext
  constructor
  · rw [parseText, hdecoded, ofDecoded, hvalue]
    rfl
  · rw [parse, Json.decodeOctets_write hobject, ofDecoded, hvalue]
    rfl

/-- A grant with a quote, a line end and a character outside the first plane in its texts. -/
def sampleGrant : CredentialInfo :=
  .authorizedUser
    { clientId := .text "käufer", clientSecret := .text "\"a\\b\"\n", refreshToken := .text "𝄞"
      quotaProjectId := .null }

/-- An object that holds the grant among further members. -/
def sampleMembers : List (String × Value) :=
  [("refresh_token", .text "𝄞"), ("notes", .list [.int (-7), .object [("type", .null)]]),
    ("client_id", .text "käufer"), ("type", .text "authorized_user"),
    ("client_secret", .text "\"a\\b\"\n")]

theorem isRenderable_sampleMembers :
    Json.isRenderable Json.maxDepth (.object sampleMembers) = true := by
  decide +kernel

theorem isTextual_sampleGrant : sampleGrant.IsTextual := by
  simp [IsTextual, sampleGrant, fields, type, FileType.required]

theorem isHeldBy_sampleMembers : sampleGrant.IsHeldBy sampleMembers where
  type := by simp [sampleMembers, sampleGrant, CredentialInfo.type, FileType.name]
  field := by simp [sampleMembers, sampleGrant, fields]

theorem parse_rendered_sample :
    sampleGrant.IsTextual ∧ sampleGrant.IsHeldBy sampleMembers ∧
      ∃ text, Json.render? (.object sampleMembers) = some text ∧
        parseText text .json .null = .ok sampleGrant ∧
        parse (Utf8.encode text) .json .null = .ok sampleGrant :=
  have hrender := Json.render?_eq_some.mpr ⟨isRenderable_sampleMembers, rfl⟩
  ⟨isTextual_sampleGrant, isHeldBy_sampleMembers, _, hrender,
    parse_rendered isTextual_sampleGrant isHeldBy_sampleMembers hrender .null⟩

end DefaultCredentials.CredentialInfo
