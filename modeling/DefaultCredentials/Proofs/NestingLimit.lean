import DefaultCredentials.Decoder

/-!
# How deep a document may nest

The reader gives up a document whose arrays and objects nest deeper than `Json.maxDepth`, and this
is the one refusal that is not about a place or about a number.  `Json.opens` counts the characters
of a document that can open an array or an object.  `Json.maxDepth_lt_opens` says that a document
refused for nesting has more of them than may nest, so that one with fewer is never refused for
this; `Json.isTooDeep_of_maxDepth_lt` says that there are such documents.

Every reader leaves an end of what it is given, so that what is opened behind a place is opened in
the whole document.  `Json.Fits` says both of an outcome, and each reader is shown to have outcomes
that fit.
-/

namespace DefaultCredentials
namespace Json

variable {α β : Type} {depth : Nat} {cs rest : List Char}

/-- Whether a document is refused because it nests too deep. -/
def IsTooDeep (document : String) : Prop :=
  ∃ k, read document = .error (.nesting k)

def isOpening (c : Char) : Bool :=
  c == '[' || c == '{'

/-- How many characters can open an array or an object. -/
def opens (cs : List Char) : Nat :=
  cs.countP isOpening

/-- What a reader may come to: what is left is an end of what it was given, and nesting is refused
only where more is opened than may nest. -/
def Fits (depth : Nat) (cs : List Char) : Except Stop (α × List Char) → Prop
  | .ok (_, rest) => rest <:+ cs
  | .error stop => ∀ k, stop = .nesting k → depth < opens cs

/-! ### Outcomes that fit -/

theorem opens_le_of_suffix (h : rest <:+ cs) : opens rest ≤ opens cs :=
  h.sublist.countP_le

namespace Fits

variable {outcome : Except Stop (α × List Char)}

theorem mono (h : Fits depth rest outcome) (hs : rest <:+ cs) : Fits depth cs outcome := by
  cases outcome with
  | error stop => exact fun k hk => Nat.lt_of_lt_of_le (h k hk) (opens_le_of_suffix hs)
  | ok r => exact List.IsSuffix.trans h hs

theorem map (h : Fits depth cs outcome) (f : α → β) :
    Fits depth cs (outcome.map fun (a, rest) => (f a, rest)) := by
  cases outcome with
  | error stop => exact h
  | ok r => exact h

theorem enclosed {c : Char} (h : Fits depth rest outcome) (hc : isOpening c = true)
    (hs : rest <:+ cs) : Fits (depth + 1) (c :: cs) outcome := by
  cases outcome with
  | error stop =>
      intro k hk
      have hcons : opens (c :: cs) = opens cs + 1 := by simp [opens, hc]
      have hrest := h k hk
      have hle := opens_le_of_suffix hs
      omega
  | ok r => exact List.IsSuffix.trans h (hs.trans (List.suffix_cons ..))

theorem complaint {c : Complaint} {left : Nat} :
    Fits depth cs (.error (.complaint c left) : Except Stop (α × List Char)) :=
  fun _ hk => by cases hk

end Fits

/-! ### Blanks, texts and numbers -/

theorem suffix_skip (cs : List Char) : skip cs <:+ cs :=
  List.dropWhile_suffix _

/-- What stands behind the next token is an end of what stood before it. -/
theorem suffix_of_skip_eq {c : Char} {behind : List Char} (hs : rest <:+ cs)
    (hk : skip rest = c :: behind) : behind <:+ cs := by
  have hskip := suffix_skip rest
  rw [hk] at hskip
  exact (List.suffix_cons ..).trans (hskip.trans hs)

theorem fits_readText (depth opened : Nat) (read : List Text.Point) (cs : List Char) :
    Fits depth cs (readText opened read cs) := by
  fun_induction readText opened read cs with
  | case2 => exact List.suffix_cons ..
  | case5 | case7 | case10 =>
      rename_i ih
      exact ih.mono (by simp [List.suffix_cons_iff])
  | _ => exact Fits.complaint

theorem suffix_splitWhole (cs : List Char) : (splitWhole cs).2 <:+ cs := by
  unfold splitWhole
  split
  · exact List.suffix_cons ..
  · exact List.dropWhile_suffix _

theorem suffix_splitFraction? (cs : List Char) :
    ((splitFraction? cs).getD ([], cs)).2 <:+ cs := by
  unfold splitFraction?
  split
  · split
    · exact ((List.dropWhile_suffix _).trans (List.suffix_cons ..)).trans (List.suffix_cons ..)
    · exact List.suffix_rfl
  · exact List.suffix_rfl

theorem suffix_splitSign (cs : List Char) : (Number.splitSign cs).2 <:+ cs := by
  unfold Number.splitSign
  split
  · exact List.suffix_cons ..
  · exact List.suffix_cons ..
  · exact List.suffix_rfl

theorem suffix_splitPower? (cs : List Char) : ((splitPower? cs).getD (0, cs)).2 <:+ cs := by
  unfold splitPower?
  split
  · dsimp only
    split
    · exact ((List.dropWhile_suffix _).trans (suffix_splitSign _)).trans (List.suffix_cons ..)
    · exact List.suffix_rfl
  · exact List.suffix_rfl

theorem fits_readNumber (depth left : Nat) (negative : Bool) (cs : List Char) :
    Fits depth cs (readNumber left negative cs) := by
  have hall := ((suffix_splitPower? _).trans (suffix_splitFraction? _)).trans (suffix_splitWhole cs)
  unfold readNumber
  dsimp only
  split
  · exact Fits.complaint
  · split
    · exact hall
    · split
      · exact fun _ hk => by cases hk
      · exact hall

theorem fits_readScalar (depth : Nat) (cs : List Char) : Fits depth cs (readScalar cs) := by
  unfold readScalar
  split
  · exact List.drop_suffix ..
  · split
    · exact (fits_readNumber ..).mono (List.suffix_cons ..)
    · exact fits_readNumber ..

/-! ### Items, members and values -/

section containers

variable {readOne : List Char → Except Stop (Value × List Char)}
  (hr : ∀ cs, Fits depth cs (readOne cs))
include hr

theorem fits_readItems (more : Nat) (items : List Value) (cs : List Char) :
    Fits depth cs (readItems readOne more items cs) := by
  induction more generalizing items cs with
  | zero => exact Fits.complaint
  | succ more ih =>
      have hone := hr cs
      unfold readItems
      generalize readOne cs = outcome at hone ⊢
      rcases outcome with stop | ⟨v, rest⟩
      · exact hone
      · dsimp only
        split
        · rename_i hcomma
          exact (ih ..).mono ((suffix_skip _).trans (suffix_of_skip_eq hone hcomma))
        · rename_i hend
          exact suffix_of_skip_eq hone hend
        · exact Fits.complaint

theorem fits_readMembers (more : Nat) (members : List (String × Value)) (cs : List Char) :
    Fits depth cs (readMembers readOne more members cs) := by
  induction more generalizing members cs with
  | zero => exact Fits.complaint
  | succ more ih =>
      rw [readMembers.eq_def]
      dsimp only
      split
      · rename_i behind
        have hname := (fits_readText depth ('"' :: behind).length [] behind).mono
          (List.suffix_cons '"' behind)
        generalize readText ('"' :: behind).length [] behind = outcome at hname ⊢
        rcases outcome with stop | ⟨name, rest⟩
        · exact hname
        · dsimp only
          split
          · rename_i value hcolon
            have hvalue := (suffix_skip value).trans (suffix_of_skip_eq hname hcolon)
            have hone := (hr (skip value)).mono hvalue
            generalize readOne (skip value) = outcome at hone ⊢
            rcases outcome with stop | ⟨v, rest⟩
            · exact hone
            · dsimp only
              split
              · rename_i hcomma
                exact (ih ..).mono ((suffix_skip _).trans (suffix_of_skip_eq hone hcomma))
              · rename_i hend
                exact suffix_of_skip_eq hone hend
              · exact Fits.complaint
          · exact Fits.complaint
      · exact Fits.complaint

end containers

theorem fits_readValue (depth : Nat) (cs : List Char) : Fits depth cs (readValue depth cs) := by
  induction depth generalizing cs with
  | zero =>
      unfold readValue
      split
      · exact ((fits_readText ..).mono (List.suffix_cons ..)).map _
      · exact fun _ _ => by simp [opens, isOpening]
      · exact fun _ _ => by simp [opens, isOpening]
      · exact fits_readScalar ..
  | succ depth ih =>
      unfold readValue
      split
      · exact ((fits_readText ..).mono (List.suffix_cons ..)).map _
      · dsimp only
        split
        · rename_i hend
          exact (suffix_of_skip_eq List.suffix_rfl hend).trans (List.suffix_cons ..)
        · exact ((fits_readItems ih ..).map _).enclosed rfl (suffix_skip _)
      · dsimp only
        split
        · rename_i hend
          exact (suffix_of_skip_eq List.suffix_rfl hend).trans (List.suffix_cons ..)
        · exact ((fits_readMembers ih ..).map _).enclosed rfl (suffix_skip _)
      · exact fits_readScalar ..

/-! ### Documents -/

/-- A document that is refused for nesting opens more arrays and objects than may nest. -/
theorem maxDepth_lt_opens {document : String} (h : IsTooDeep document) :
    maxDepth < opens document.toList := by
  obtain ⟨k, hk⟩ := h
  have hread : readDocument document.toList = .error (.nesting k) := by
    unfold read at hk
    dsimp only at hk
    split at hk
    · cases hk
    · generalize readDocument document.toList = outcome at hk ⊢
      rcases outcome with (_ | _ | _) | v <;> cases hk
      rfl
  have hfits := (fits_readValue maxDepth (skip document.toList)).mono (suffix_skip _)
  unfold readDocument at hread
  generalize readValue maxDepth (skip document.toList) = outcome at hread hfits
  rcases outcome with stop | ⟨v, rest⟩
  · exact hfits k (Except.error.inj hread)
  · dsimp only at hread
    split at hread <;> cases hread

theorem readValue_replicate {n : Nat} (hn : depth < n) :
    readValue depth (List.replicate n '[') = .error (.nesting .array) := by
  induction depth generalizing n with
  | zero =>
      obtain ⟨n, rfl⟩ := Nat.exists_eq_add_one.mpr hn
      rfl
  | succ depth ih =>
      obtain ⟨n, rfl⟩ : ∃ m, n = m + 2 := ⟨n - 2, by omega⟩
      have hinside : readValue depth ('[' :: List.replicate n '[') = .error (.nesting .array) :=
        ih (n := n + 1) (by omega)
      have hskip : skip ('[' :: List.replicate n '[') = '[' :: List.replicate n '[' := rfl
      rw [List.replicate_succ, List.replicate_succ, readValue, hskip]
      simp [readItems, hinside, Except.map]

/-- There are such documents: arrays in arrays, more than may nest. -/
theorem isTooDeep_of_maxDepth_lt {n : Nat} (hn : maxDepth < n) :
    IsTooDeep (String.ofList (List.replicate n '[')) := by
  have hvalue := readValue_replicate hn
  obtain ⟨n, rfl⟩ := Nat.exists_eq_add_one.mpr (Nat.lt_of_le_of_lt (Nat.zero_le _) hn)
  have hskip : skip (List.replicate (n + 1) '[') = List.replicate (n + 1) '[' := rfl
  refine ⟨.array, ?_⟩
  unfold read
  simp only [String.toList_ofList]
  rw [if_neg (by simp [List.replicate_succ]), readDocument, hskip, hvalue]
  rfl

end Json

/-! ### Octets -/

namespace Decoder

variable {bytes : List UInt8}

/-- Octets that are the text of a JSON document, with its value. -/
def IsDocument (bytes : List UInt8) (v : Value) : Prop :=
  ∃ s, Utf8.decode bytes = .ok s ∧ Json.read s = .ok v

/-- Octets that are the text of a document that nests too deep. -/
def IsTooDeep (bytes : List UInt8) : Prop :=
  ∃ s, Utf8.decode bytes = .ok s ∧ Json.IsTooDeep s

theorem decodeOctets_of_isDocument {v : Value} (h : IsDocument bytes v) :
    json.decodeOctets bytes = .ok v := by
  obtain ⟨s, hs, hv⟩ := h
  rw [json_decodeOctets hs, hv]
  rfl

theorem decodeOctets_of_isTooDeep (h : IsTooDeep bytes) :
    ∃ k, json.decodeOctets bytes = .error (.trouble (.json (.nesting k))) := by
  obtain ⟨s, hs, k, hk⟩ := h
  exact ⟨k, by rw [json_decodeOctets hs, hk]; rfl⟩

/-- Whatever else is wrong with octets is a trouble about values. -/
theorem decodeOctets_of_not (hv : ∀ v, ¬ IsDocument bytes v) (hd : ¬ IsTooDeep bytes) :
    ∃ why, json.decodeOctets bytes = .error why ∧ why.isOf .value = true := by
  cases hs : Utf8.decode bytes with
  | error defect =>
      exact ⟨.trouble (.octets defect), by rw [decodeOctets, textOf, hs]; rfl, rfl⟩
  | ok s =>
      cases hr : Json.read s with
      | ok v => exact absurd ⟨s, hs, hr⟩ (hv v)
      | error refusal =>
          refine ⟨.trouble (.json refusal), by rw [json_decodeOctets hs, hr]; rfl, ?_⟩
          cases refusal with
          | nesting k => exact absurd ⟨s, hs, k, hr⟩ hd
          | _ => rfl

end Decoder
end DefaultCredentials
