import DefaultCredentials.Proofs.CredentialDocuments
import DefaultCredentials.Proofs.TextOctets

/-!
# Which documents are accepted

A document is octets or a text, and its decoder may give any value or refuse it.

* `FileType.Fits`: the members of an object have a shape, and `CredentialInfo.IsReadFrom` the fields
  that they then give.
* `CredentialInfo.ofValue_eq_ok_iff`: the values that are accepted, and what is read from them.
* `Document.parse_shapes`: the same for documents.  Every other document is refused with its path,
  and where the shape is known the text lists the required members that are not given.  Members that
  the shape does not have make no difference.
-/

namespace DefaultCredentials

namespace Value

variable {members : List (String × Value)}

theorem member_eq_text_iff {name s : String} :
    member members name = text s ↔ members.lookup name = some (text s) := by
  rw [member]
  cases members.lookup name <;> simp

theorem isGiven_member (members : List (String × Value)) (name : String) :
    (member members name).isGiven = (members.lookup name).any isGiven := by
  rw [member]
  cases members.lookup name <;> rfl

end Value

namespace FileType

/-- The members that a shape may have beside those that it requires. -/
def optional : FileType → List String
  | serviceAccount => ["token_uri", "project_id"]
  | authorizedUser => ["quota_project_id"]

/-- The members of an object have a shape: they state its name, and each one that it requires is
there and given. -/
structure Fits (t : FileType) (members : List (String × Value)) : Prop where
  type : members.lookup "type" = some (.text t.name)
  required : ∀ name ∈ t.required, ∃ v, members.lookup name = some v ∧ v.isGiven = true

variable {t : FileType} {members : List (String × Value)}

theorem fits_iff : t.Fits members ↔
    Value.member members "type" = .text t.name ∧ CredentialInfo.missing t members = [] := by
  rw [CredentialInfo.missing_eq_nil_iff, Value.member_eq_text_iff]
  simp only [Value.isGiven_member, Option.any_eq_true]
  exact ⟨fun h => ⟨h.type, h.required⟩, fun h => ⟨h.1, h.2⟩⟩

theorem eq_of_ofValue? {v : Value} (hv : ofValue? v = some t) : v = .text t.name := by
  cases v with
  | text s =>
      simp only [ofValue?] at hv
      split at hv
      · rename_i hs
        cases hv
        rw [hs]
      · split at hv
        · rename_i hs
          cases hv
          rw [hs]
        · cases hv
  | _ => cases hv

end FileType

namespace CredentialInfo

variable {info : CredentialInfo} {t : FileType} {members members' : List (String × Value)}
  {v : Value}

/-- The members of an object have the shape of what a document holds, and each of its fields is the
member of its name, null if there is none. -/
structure IsReadFrom (info : CredentialInfo) (members : List (String × Value)) : Prop where
  fits : info.type.Fits members
  field : ∀ f ∈ info.fields, (members.lookup f.1).getD .null = f.2

theorem type_ofMembers (t : FileType) (members : List (String × Value)) :
    (ofMembers t members).type = t := by
  cases t <;> rfl

theorem field_ofMembers (t : FileType) (members : List (String × Value)) :
    ∀ f ∈ (ofMembers t members).fields, Value.member members f.1 = f.2 := by
  cases t <;> simp [ofMembers, fields]

/-- What the members of an object are read as, where they have a shape. -/
theorem isReadFrom_iff : info.IsReadFrom members ↔
    ∃ t, t.Fits members ∧ info = ofMembers t members := by
  constructor
  · rintro ⟨hfits, hfield⟩
    exact ⟨info.type, hfits, (ofMembers_of_fields hfield).symm⟩
  · rintro ⟨t, hfits, rfl⟩
    exact ⟨(type_ofMembers t members).symm ▸ hfits, field_ofMembers t members⟩

/-! ### Values -/

/-- An object of a known type that lacks required members is refused with the list of them. -/
theorem ofValue_incomplete (htype : Value.member members "type" = .text t.name)
    (hmissing : missing t members ≠ []) :
    ofValue (.object members) = .error (.incomplete t (missing t members)) := by
  have hgiven : (Value.text t.name).isGiven = true := by cases t <;> decide
  simp [ofValue, htype, hgiven, FileType.ofValue?_name, hmissing]

/-- **Values.**  A value is accepted exactly if it is an object whose members have a shape, and the
fields are then these members. -/
theorem ofValue_eq_ok_iff :
    ofValue v = .ok info ↔ ∃ members, v = .object members ∧ info.IsReadFrom members := by
  simp only [isReadFrom_iff, FileType.fits_iff]
  constructor
  · intro h
    cases v with
    | object members =>
        simp only [ofValue] at h
        split at h
        · cases h
        · split at h
          · cases h
          · rename_i t htype
            split at h
            · rename_i hmissing
              cases h
              exact ⟨members, rfl, t, ⟨FileType.eq_of_ofValue? htype, List.isEmpty_iff.mp hmissing⟩,
                rfl⟩
            · cases h
    | _ => cases h
  · rintro ⟨members, rfl, t, ⟨htype, hmissing⟩, rfl⟩
    exact ofValue_object htype hmissing

/-- Members that a shape does not have make no difference to an object of that shape's type. -/
theorem ofValue_congr (htype : Value.member members "type" = .text t.name)
    (htype' : Value.member members' "type" = .text t.name)
    (hsame : ∀ name ∈ t.required ++ t.optional,
      Value.member members name = Value.member members' name) :
    ofValue (.object members) = ofValue (.object members') := by
  have hmissing : missing t members = missing t members' := by
    refine List.filter_congr fun name hname => ?_
    rw [hsame name (List.mem_append_left _ hname)]
  have hof : ofMembers t members = ofMembers t members' := by
    cases t <;> simp_all [FileType.required, FileType.optional, ofMembers]
  by_cases hnone : missing t members = []
  · rw [ofValue_object htype hnone, ofValue_object htype' (hmissing ▸ hnone), hof]
  · rw [ofValue_incomplete htype hnone, ofValue_incomplete htype' (hmissing ▸ hnone), hmissing]

end CredentialInfo

/-! ### Documents -/

/-- A document as it is given. -/
inductive Document
  | octets (bytes : List UInt8)
  | text (s : String)

namespace Document

def parse (decoder : Decoder) (path : Value) : Document → Except Raised CredentialInfo
  | octets bytes => CredentialInfo.parse bytes decoder path
  | text s => CredentialInfo.parseText s decoder path

/-- The text of a document: that of which it is the octets, or itself. -/
inductive Spells : Document → String → Prop
  | octets (s : String) : Spells (octets (Utf8.encode s)) s
  | text (s : String) : Spells (text s) s

/-- A decoder gives an object with these members for a document. -/
def Holds (document : Document) (decoder : Decoder) (members : List (String × Value)) : Prop :=
  ∃ s, document.Spells s ∧ decoder.decode s = .ok (.object members)

variable {document : Document} {decoder : Decoder} {path : Value} {s : String}

theorem Spells.parse_eq (hs : document.Spells s) :
    document.parse decoder path = CredentialInfo.ofDecoded path (decoder.decode s) := by
  cases hs with
  | octets =>
      simp only [parse, CredentialInfo.parse, Decoder.decodeOctets, Decoder.textOf,
        Utf8.decode_encode]
      rfl
  | text => rfl

theorem Holds.parse_eq {members : List (String × Value)} (hm : document.Holds decoder members) :
    document.parse decoder path =
      (CredentialInfo.ofValue (.object members)).mapError (·.raise path) := by
  obtain ⟨s, hs, hdecoded⟩ := hm
  rw [hs.parse_eq, hdecoded, CredentialInfo.ofDecoded]

theorem parse_of_not_spells (hs : ∀ s, ¬ document.Spells s) (decoder : Decoder) (path : Value) :
    ∃ why, document.parse decoder path = .error ((FileDefect.undecodable why).raise path) := by
  cases document with
  | text s => exact absurd (.text s) (hs s)
  | octets bytes =>
      cases hd : Utf8.decode bytes with
      | ok s =>
          rw [Utf8.decode_eq_ok_iff] at hd
          subst hd
          exact absurd (.octets s) (hs s)
      | error defect =>
          refine ⟨.trouble (.octets defect), ?_⟩
          simp only [parse, CredentialInfo.parse, Decoder.decodeOctets, Decoder.textOf, hd]
          rfl

/-- What a document is parsed as: what an object is read as that it holds, or a defect of the
file. -/
theorem parse_cases (hvalue : ∀ s why, document.Spells s → decoder.decode s = .error why →
    why.isOf .value = true) (path : Value) :
    (∃ info members, document.parse decoder path = .ok info ∧ document.Holds decoder members ∧
      CredentialInfo.ofValue (.object members) = .ok info) ∨
    ∃ defect : FileDefect, document.parse decoder path = .error (defect.raise path) := by
  by_cases hs : ∃ s, document.Spells s
  · obtain ⟨s, hs⟩ := hs
    rw [hs.parse_eq]
    cases hd : decoder.decode s with
    | error why =>
        rw [CredentialInfo.ofDecoded, if_pos (hvalue s why hs hd)]
        exact .inr ⟨_, rfl⟩
    | ok v =>
        rw [CredentialInfo.ofDecoded]
        cases hv : CredentialInfo.ofValue v with
        | error defect => exact .inr ⟨defect, rfl⟩
        | ok info =>
            obtain ⟨members, rfl, -⟩ := CredentialInfo.ofValue_eq_ok_iff.mp hv
            exact .inl ⟨info, members, rfl, ⟨s, hs, hd⟩, hv⟩
  · obtain ⟨why, hparse⟩ := parse_of_not_spells (not_exists.mp hs) decoder path
    exact .inr ⟨_, hparse⟩

/-- **Shapes.**  Let a decoder refuse the text of a document only because of its value.  The
document is accepted exactly if it holds an object whose members have a shape, and its fields are
then these members.  Otherwise the refusal tells the path.  If the object states the name of a
shape, the text lists what is missing in the order in which the shape requires it, and no members
but those of the shape make a difference. -/
theorem parse_shapes (document : Document) (decoder : Decoder) (path : Value)
    (hvalue : ∀ s why, document.Spells s → decoder.decode s = .error why →
      why.isOf .value = true) :
    (∀ info, document.parse decoder path = .ok info ↔
      ∃ members, document.Holds decoder members ∧ info.IsReadFrom members) ∧
    ((∀ info, document.parse decoder path ≠ .ok info) → ∃ why m,
      document.parse decoder path = .error why ∧
        why.fault = .failure (.malformedFile (.text m) path)) ∧
    ∀ (members : List (String × Value)) (t : FileType), document.Holds decoder members →
      members.lookup "type" = some (.text t.name) →
      (∀ missing, missing = t.required.filter (fun name =>
          !((members.lookup name).any Value.isGiven)) → missing ≠ [] →
        document.parse decoder path = .error (.failure (.malformedFile
          (.text ("Credential file of type '" ++ t.name ++ "' is missing required field(s): " ++
            ", ".intercalate missing)) path))) ∧
      ∀ (document' : Document) (decoder' : Decoder) (members' : List (String × Value)),
        document'.Holds decoder' members' → members'.lookup "type" = some (.text t.name) →
        (∀ name ∈ t.required ++ t.optional,
          (members'.lookup name).getD .null = (members.lookup name).getD .null) →
        document'.parse decoder' path = document.parse decoder path := by
  refine ⟨fun info => ?_, fun hnone => ?_, fun members t hm htype => ⟨?_, ?_⟩⟩
  · constructor
    · intro hinfo
      rcases parse_cases hvalue path with ⟨info', members, hinfo', hm, hv⟩ | ⟨d, herror⟩
      · rw [hinfo] at hinfo'
        cases hinfo'
        obtain ⟨_, ⟨⟩, hread⟩ := CredentialInfo.ofValue_eq_ok_iff.mp hv
        exact ⟨members, hm, hread⟩
      · rw [hinfo] at herror
        cases herror
    · rintro ⟨members, hm, hread⟩
      rw [hm.parse_eq, CredentialInfo.ofValue_eq_ok_iff.mpr ⟨members, rfl, hread⟩]
      rfl
  · rcases parse_cases hvalue path with ⟨info, _, hinfo, -⟩ | ⟨defect, herror⟩
    · exact absurd hinfo (hnone info)
    · exact ⟨_, defect.message, herror, FileDefect.fault_raise ..⟩
  · rintro missing rfl hmissing
    simp only [← Value.isGiven_member] at hmissing ⊢
    rw [← Value.member_eq_text_iff] at htype
    rw [hm.parse_eq, CredentialInfo.ofValue_incomplete htype hmissing]
    rfl
  · intro document' decoder' members' hm' htype' hsame
    rw [← Value.member_eq_text_iff] at htype htype'
    rw [hm.parse_eq, hm'.parse_eq, CredentialInfo.ofValue_congr htype' htype hsame]

/-- A grant with a number for its secret, a list for its client and a member of the other shape. -/
def grantMembers (secret : Int) : List (String × Value) :=
  [("private_key", .text "key"), ("client_secret", .int secret), ("type", .text "authorized_user"),
    ("client_id", .list [.null]), ("refresh_token", .text "token")]

/-- The grant is taken as it is if the secret is not zero, and else the secret is missing. -/
theorem parse_shapes_grant :
    (octets [63]).parse (.constant "fixed" (.object (grantMembers 5))) .null =
        .ok (.authorizedUser ⟨.list [.null], .int 5, .text "token", .null⟩) ∧
      (octets [63]).parse (.constant "fixed" (.object (grantMembers 0))) (.text "f") =
        .error (.failure (.malformedFile (.text ("Credential file of type 'authorized_user' is "
          ++ "missing required field(s): client_secret")) (.text "f"))) := by
  have hholds (secret : Int) :
      (octets [63]).Holds (.constant "fixed" (.object (grantMembers secret)))
        (grantMembers secret) :=
    ⟨"?", .octets "?", rfl⟩
  have hvalue (secret : Int) (s : String) (why : Raised) : (octets [63]).Spells s →
      (Decoder.constant "fixed" (.object (grantMembers secret))).decode s = .error why →
      why.isOf .value = true := by
    intro _ he
    cases he
  constructor
  · obtain ⟨haccepted, -⟩ :=
      parse_shapes (octets [63]) (.constant "fixed" (.object (grantMembers 5))) .null (hvalue 5)
    refine (haccepted _).mpr ⟨_, hholds 5, ⟨rfl, ?_⟩, ?_⟩
    · simp [CredentialInfo.type, FileType.required, grantMembers, List.lookup, Value.isGiven]
    · simp [CredentialInfo.fields, grantMembers, List.lookup]
  · obtain ⟨-, -, hlisted⟩ := parse_shapes (octets [63])
      (.constant "fixed" (.object (grantMembers 0))) (.text "f") (hvalue 0)
    exact (hlisted _ .authorizedUser (hholds 0) rfl).1 ["client_secret"] (by decide) (by decide)

end Document
end DefaultCredentials
