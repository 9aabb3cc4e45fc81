import DefaultCredentials.Cli
import Mathlib.Data.List.Sort
import Mathlib.Data.List.TakeWhile
import Mathlib.Data.String.Basic

/-!
# Scopes in a text

Scopes are given as one text, with commas between them.  A text asks for a scope if one of the
pieces between its commas is that scope but for blanks at the ends; a piece of blanks asks for
nothing.

* `Cli.Asks` says so, with `Path.IsPiece` and `Text.IsTrimmed`, and `Cli.mem_scopesOf_iff` that the
  scopes found in a text are those that it asks for.
* `Cli.Narrowed` says what binding a credential to them gives.  There is exactly one such credential
  (`Cli.narrowed_iff`), however often and in whatever order the scopes stand in the text.
-/

namespace DefaultCredentials

namespace Path

variable {separator : Char} {piece cs rest : List Char}

/-! ### Pieces -/

/-- A text is pieces without the separator, with one separator between any two neighbours, and this
is one of them. -/
def IsPiece (separator : Char) (piece cs : List Char) : Prop :=
  ∃ parts, piece ∈ parts ∧ (∀ p ∈ parts, separator ∉ p) ∧ [separator].intercalate parts = cs

theorem pieces_append (hp : separator ∉ piece) :
    pieces separator (piece ++ separator :: rest) = piece :: pieces separator rest := by
  induction piece with
  | nil => simp [pieces]
  | cons c piece ih =>
      obtain ⟨hc, hpiece⟩ := not_or.mp (mt List.mem_cons.mpr hp)
      have hne : (c == separator) = false := by simpa using Ne.symm hc
      simp [pieces, hne, ih hpiece]

theorem pieces_intercalate {parts : List (List Char)} (hne : parts ≠ [])
    (hp : ∀ p ∈ parts, separator ∉ p) :
    pieces separator ([separator].intercalate parts) = parts := by
  induction parts with
  | nil => exact absurd rfl hne
  | cons p parts ih =>
      have hfirst := hp p List.mem_cons_self
      cases parts with
      | nil => simpa using pieces_of_not_mem hfirst
      | cons q parts =>
          have hrest : ∀ r ∈ q :: parts, separator ∉ r :=
            fun r hr => hp r (List.mem_cons_of_mem p hr)
          rw [List.intercalate_cons_cons, List.append_assoc, List.singleton_append,
            pieces_append hfirst, ih (by simp) hrest]

theorem pieces_ne_nil (separator : Char) (cs : List Char) : pieces separator cs ≠ [] := by
  cases cs with
  | nil => simp [pieces]
  | cons c cs =>
      unfold pieces
      split
      · simp
      · split <;> simp

theorem intercalate_pieces (separator : Char) (cs : List Char) :
    [separator].intercalate (pieces separator cs) = cs ∧
      ∀ p ∈ pieces separator cs, separator ∉ p := by
  induction cs with
  | nil => simp [pieces]
  | cons c cs ih =>
      obtain ⟨hjoined, hpieces⟩ := ih
      obtain ⟨p, ps, hps⟩ := List.exists_cons_of_ne_nil (pieces_ne_nil separator cs)
      rw [hps] at hjoined hpieces
      by_cases hc : c = separator
      · have heq : pieces separator (c :: cs) = [] :: p :: ps := by simp [pieces, hc, hps]
        rw [heq, List.intercalate_cons_cons, hjoined, hc]
        exact ⟨rfl, List.forall_mem_cons.mpr ⟨List.not_mem_nil, hpieces⟩⟩
      · have heq : pieces separator (c :: cs) = (c :: p) :: ps := by simp [pieces, hc, hps]
        rw [List.forall_mem_cons] at hpieces
        rw [heq, List.forall_mem_cons]
        refine ⟨?_, ?_, hpieces.2⟩
        · rw [← hjoined]
          cases ps <;> simp
        · simp [Ne.symm hc, hpieces.1]

theorem mem_pieces_iff : piece ∈ pieces separator cs ↔ IsPiece separator piece cs := by
  constructor
  · intro hp
    obtain ⟨hjoined, hpieces⟩ := intercalate_pieces separator cs
    exact ⟨pieces separator cs, hp, hpieces, hjoined⟩
  · rintro ⟨parts, hp, hparts, rfl⟩
    rwa [pieces_intercalate (List.ne_nil_of_mem hp) hparts]

end Path

namespace Text

/-! ### Trimming -/

/-- What is left of characters when those of a class are taken from both ends. -/
def IsTrimmed (drop : Char → Bool) (core cs : List Char) : Prop :=
  ∃ left right, cs = left ++ core ++ right ∧ (∀ c ∈ left, drop c = true) ∧
    (∀ c ∈ right, drop c = true) ∧ (∀ c, core.head? = some c → drop c = false) ∧
    ∀ c, core.getLast? = some c → drop c = false

variable {drop : Char → Bool} {core cs : List Char}

theorem drop_of_head?_dropWhile {c : Char} (hc : (cs.dropWhile drop).head? = some c) :
    drop c = false := by
  have hnot := List.head?_dropWhile_not drop cs
  rw [hc] at hnot
  exact hnot

theorem dropWhile_of_head? (hcore : ∀ c, core.head? = some c → drop c = false) :
    core.dropWhile drop = core := by
  cases core with
  | nil => rfl
  | cons c core => exact List.dropWhile_cons_of_neg (by simp [hcore c rfl])

theorem isTrimmed_trimWhere (drop : Char → Bool) (cs : List Char) :
    IsTrimmed drop (trimWhere drop cs) cs := by
  have hends : cs.dropWhile drop = trimWhere drop cs ++
      ((cs.dropWhile drop).reverse.takeWhile drop).reverse := by
    rw [trimWhere, ← List.reverse_append, List.takeWhile_append_dropWhile, List.reverse_reverse]
  refine ⟨cs.takeWhile drop, ((cs.dropWhile drop).reverse.takeWhile drop).reverse, ?_, ?_, ?_,
    fun c hc => ?_, fun c hc => ?_⟩
  · rw [List.append_assoc, ← hends, List.takeWhile_append_dropWhile]
  · exact List.all_eq_true.mp List.all_takeWhile
  · intro c hc
    exact List.all_eq_true.mp List.all_takeWhile c (List.mem_reverse.mp hc)
  · have hfirst : (cs.dropWhile drop).head? = some c := by
      rw [hends, List.head?_append, hc]
      rfl
    exact drop_of_head?_dropWhile hfirst
  · rw [trimWhere, List.getLast?_reverse] at hc
    exact drop_of_head?_dropWhile hc

theorem trimWhere_of_isTrimmed (ht : IsTrimmed drop core cs) : trimWhere drop cs = core := by
  obtain ⟨left, right, rfl, hleft, hright, hhead, hlast⟩ := ht
  rw [trimWhere, List.append_assoc, List.dropWhile_append_of_pos hleft]
  cases core with
  | nil =>
      have hnil : right.dropWhile drop = [] := List.dropWhile_eq_nil_iff.mpr hright
      simp [hnil]
  | cons c core =>
      have hfront : (c :: core ++ right).dropWhile drop = c :: core ++ right :=
        dropWhile_of_head? fun d hd => hhead d hd
      have hback : ((c :: core).reverse).dropWhile drop = (c :: core).reverse :=
        dropWhile_of_head? fun d hd => hlast d (by rwa [List.head?_reverse] at hd)
      have hright' : ∀ d ∈ right.reverse, drop d = true :=
        fun d hd => hright d (List.mem_reverse.mp hd)
      rw [hfront, List.reverse_append, List.dropWhile_append_of_pos hright', hback,
        List.reverse_reverse]

theorem trim_eq_iff {s t : String} : trim t = s ↔ IsTrimmed isBlank s.toList t.toList := by
  constructor
  · rintro rfl
    rw [trim, String.toList_ofList]
    exact isTrimmed_trimWhere ..
  · intro ht
    rw [trim, trimWhere_of_isTrimmed ht, String.ofList_toList]

end Text

namespace Scopes

/-! ### Scopes in order -/

theorem pairwise_insert {scope : String} {sorted : Scopes} (hs : sorted.Pairwise (· < ·)) :
    (insert scope sorted).Pairwise (· < ·) := by
  induction sorted with
  | nil => simp [insert]
  | cons s rest ih =>
      obtain ⟨hfirst, hrest⟩ := List.pairwise_cons.mp hs
      unfold insert
      split
      · rename_i hlt
        refine List.pairwise_cons.mpr ⟨fun r hr => ?_, hs⟩
        rcases List.mem_cons.mp hr with rfl | hr
        · exact hlt
        · exact hlt.trans (hfirst r hr)
      · rename_i hnot
        split
        · exact hs
        · rename_i hne
          refine List.pairwise_cons.mpr ⟨fun r hr => ?_, ih hrest⟩
          rcases mem_insert.mp hr with rfl | hr
          · exact lt_of_le_of_ne (not_lt.mp hnot) (Ne.symm hne)
          · exact hfirst r hr

theorem pairwise_ofList (scopes : List String) : (ofList scopes).Pairwise (· < ·) := by
  have h : ∀ sorted : Scopes, sorted.Pairwise (· < ·) →
      (scopes.foldl (fun sorted s => insert s sorted) sorted).Pairwise (· < ·) := by
    induction scopes with
    | nil => exact fun _ hs => hs
    | cons s rest ih => exact fun _ hs => ih _ (pairwise_insert hs)
  exact h [] List.Pairwise.nil

/-- Scopes in order are told by what is among them. -/
theorem eq_ofList {sorted : Scopes} {scopes : List String} (hs : sorted.Pairwise (· < ·))
    (hmem : ∀ s, s ∈ sorted ↔ s ∈ scopes) : sorted = ofList scopes :=
  hs.eq_of_mem_iff (pairwise_ofList scopes) fun s => (hmem s).trans mem_ofList.symm

end Scopes

namespace Cli

/-! ### The scopes that a text asks for -/

/-- A text, if there is one, asks for a scope. -/
def Asks (text : Option String) (scope : String) : Prop :=
  scope ≠ "" ∧ ∃ t piece, text = some t ∧ Path.IsPiece ',' piece t.toList ∧
    Text.IsTrimmed Text.isBlank scope.toList piece

/-- The scopes found in a text are those that it asks for. -/
theorem mem_scopesOf_iff {text : Option String} {scope : String} :
    scope ∈ scopesOf (text.getD "") ↔ Asks text scope := by
  cases text with
  | none =>
      have hnone : scopesOf "" = [] := by decide
      simp [hnone, Asks]
  | some t =>
      simp only [Option.getD_some, scopesOf, List.mem_filter, List.mem_map, Path.mem_pieces_iff,
        decide_eq_true_eq]
      constructor
      · rintro ⟨⟨piece, hp, ht⟩, hne⟩
        rw [Text.trim_eq_iff, String.toList_ofList] at ht
        exact ⟨hne, t, piece, rfl, hp, ht⟩
      · rintro ⟨hne, t, piece, ⟨⟩, hp, ht⟩
        refine ⟨⟨piece, hp, ?_⟩, hne⟩
        rwa [Text.trim_eq_iff, String.toList_ofList]

/-- What binding a credential to the scopes of a text gives: the same credential if the text asks
for none or tokens are not bound to scopes, and else one that was never refreshed, with just these
scopes. -/
inductive Narrowed (text : Option String) (c : Credential) : Credential → Prop
  | whole : (∀ s, ¬ Asks text s) → Narrowed text c c
  | shared : (∃ s, Asks text s) → c.material.isScoped = false → Narrowed text c c
  | bound {scopes : Scopes} : (∃ s, Asks text s) → c.material.isScoped = true →
      scopes.Pairwise (· < ·) → (∀ s, s ∈ scopes ↔ Asks text s) →
      Narrowed text c { c with scopes := scopes, slot := .empty }

/-- There is one credential that binding to the scopes of a text gives. -/
theorem narrowed_iff {text : Option String} {c c' : Credential} :
    Narrowed text c c' ↔ narrow c (scopesOf (text.getD "")) = c' := by
  have hnone : (∀ s, ¬ Asks text s) ↔ scopesOf (text.getD "") = [] := by
    simp only [← mem_scopesOf_iff, List.eq_nil_iff_forall_not_mem]
  have hsome : (∃ s, Asks text s) ↔ scopesOf (text.getD "") ≠ [] := by
    rw [← not_forall_not, hnone]
  unfold narrow Credential.withScopes?
  simp only [List.isEmpty_iff]
  constructor
  · intro hn
    cases hn with
    | whole hasks => rw [if_pos (hnone.mp hasks)]
    | shared hasks hm => simp [hsome.mp hasks, hm]
    | bound hasks hm hs hmem =>
        have heq := Scopes.eq_ofList hs fun s => (hmem s).trans mem_scopesOf_iff.symm
        simp [hsome.mp hasks, hm, heq]
  · rintro rfl
    by_cases hempty : scopesOf (text.getD "") = []
    · rw [if_pos hempty]
      exact .whole (hnone.mpr hempty)
    · rw [if_neg hempty]
      cases hm : c.material.isScoped with
      | false => exact .shared (hsome.mpr hempty) hm
      | true =>
          refine .bound (hsome.mpr hempty) hm (Scopes.pairwise_ofList _) fun s => ?_
          rw [Scopes.mem_ofList, mem_scopesOf_iff]

end Cli
end DefaultCredentials
