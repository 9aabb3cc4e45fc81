import DefaultCredentials.Octets.Marked
import Mathlib.Data.List.Infix
import Mathlib.Data.List.TakeWhile
import Mathlib.Tactic.IntervalCases

/-!
# How marked blocks are found

A marked line is a word and a label between dashes, and a marked block an opening line, at least one
octet, a closing line and the end of that line.  The scan goes over octets from left to right, so
what it finds can be told piece by piece if no line starts in one piece and ends in the next.

* `Marked.line_inside`: octets that end with the dashes of a line hold all of a line that starts in
  them, whatever comes after, unless that goes on from the dashes (`Marked.Breaks`).
* `Marked.Passes`: no line starts in a piece.  The scan then passes it over
  (`Marked.blocks_append`).
* `Marked.Begins`: octets begin with a block.  The scan then takes it (`Marked.blocks_of_begins`),
  and it takes nothing else (`Marked.blocks_cases`).  A block stays one among other blocks
  (`Marked.blocks_flatten`).
* `Marked.Holds`: a block stands somewhere in octets, found or not.  `Marked.holds_iff` says that
  none is found only if there is none.
-/

namespace DefaultCredentials.Marked

/-- A line: what stands before its label, the label, and dashes. -/
def line (start label : List UInt8) : List UInt8 :=
  start ++ label ++ dashes

/-- A label of a kind. -/
def IsLabel (kind : List UInt8 → Bool) (label : List UInt8) : Prop :=
  (∀ b ∈ label, isLabelOctet b = true) ∧ kind label = true

/-- What can stand before a label: dashes and a word. -/
def IsStart (start : List UInt8) : Prop :=
  ∃ first word, start = dashes ++ first :: word ∧ 45 ∉ first :: word

/-- Octets that follow on up to five dashes do not make the start of a line with them. -/
def Breaks (start rest : List UInt8) : Prop :=
  ∀ k, 1 ≤ k → k ≤ 5 → ¬ start <+: List.replicate k 45 ++ rest

/-- In octets that others follow no line of a kind starts. -/
def Passes (start : List UInt8) (kind : List UInt8 → Bool) (xs rest : List UInt8) : Prop :=
  ∀ s, s ≠ [] → s <:+ xs → line? start kind (s ++ rest) = none

/-- A line of a kind stands somewhere in octets. -/
def HasLine (start : List UInt8) (kind : List UInt8 → Bool) (xs : List UInt8) : Prop :=
  ∃ label, IsLabel kind label ∧ line start label <:+: xs

variable {start label other : List UInt8} {kind : List UInt8 → Bool} {xs ys rest bytes : List UInt8}

theorem dashes_eq : dashes = List.replicate 5 45 := rfl

theorem opening_eq : opening = dashes ++ Utf8.encode "BEGIN " := rfl

theorem isStart_opening : IsStart opening :=
  ⟨66, Utf8.encode "EGIN ", rfl, by decide⟩

theorem isStart_closing : IsStart closing :=
  ⟨69, Utf8.encode "ND ", rfl, by decide⟩

theorem IsLabel.dash_notMem (hl : IsLabel kind label) : 45 ∉ label := by
  intro h
  cases hl.1 45 h

/-! ### Lines -/

theorem IsStart.line_eq (hs : IsStart start) (hl : IsLabel kind label) :
    ∃ w, line start label = dashes ++ w ++ dashes ∧ w ≠ [] ∧ 45 ∉ w := by
  obtain ⟨first, word, rfl, hword⟩ := hs
  refine ⟨first :: word ++ label, by simp [line], by simp, ?_⟩
  rw [List.mem_append, not_or]
  exact ⟨hword, hl.dash_notMem⟩

theorem line?_line (start : List UInt8) (kind : List UInt8 → Bool)
    (hl : ∀ b ∈ label, isLabelOctet b = true) (rest : List UInt8) :
    line? start kind (line start label ++ rest) =
      if kind label then some (line start label).length else none := by
  have hstart : start.isPrefixOf (start ++ (label ++ (dashes ++ rest))) = true :=
    List.isPrefixOf_iff_prefix.mpr (List.prefix_append _ _)
  have hdashes : dashes.isPrefixOf (dashes ++ rest) = true :=
    List.isPrefixOf_iff_prefix.mpr (List.prefix_append _ _)
  have hlabel : (label ++ (dashes ++ rest)).takeWhile isLabelOctet = label := by
    rw [List.takeWhile_append_of_pos hl]
    exact List.append_nil label
  simp only [line?, line, List.append_assoc, hstart, if_true, List.drop_left, hlabel, hdashes,
    Bool.and_true, List.length_append, Nat.add_assoc]

theorem exists_of_line? {n : Nat} (h : line? start kind bytes = some n) :
    ∃ label rest, IsLabel kind label ∧ bytes = line start label ++ rest ∧
      n = (line start label).length := by
  unfold line? at h
  split at h
  · rename_i hstart
    obtain ⟨rest, rfl⟩ := List.isPrefixOf_iff_prefix.mp hstart
    simp only [List.drop_left] at h
    obtain ⟨label, hlabel⟩ : ∃ label, rest.takeWhile isLabelOctet = label := ⟨_, rfl⟩
    have hoctets : ∀ b ∈ label, isLabelOctet b = true := by
      rw [← hlabel]
      exact fun b hb => List.mem_takeWhile_imp hb
    obtain ⟨more, rfl⟩ : label <+: rest := hlabel ▸ List.takeWhile_prefix isLabelOctet
    rw [hlabel, List.drop_left] at h
    split at h
    · rename_i hboth
      rw [Bool.and_eq_true, List.isPrefixOf_iff_prefix] at hboth
      obtain ⟨hkind, after, rfl⟩ := hboth
      refine ⟨label, after, ⟨hoctets, hkind⟩, by simp [line], ?_⟩
      cases h
      simp [line, Nat.add_assoc]
    · cases h
  · cases h

theorem line?_eq_none_iff :
    line? start kind bytes = none ↔ ∀ label, IsLabel kind label → ¬ line start label <+: bytes := by
  constructor
  · rintro h label hl ⟨rest, rfl⟩
    rw [line?_line start kind hl.1, if_pos hl.2] at h
    cases h
  · intro h
    cases hline : line? start kind bytes with
    | none => rfl
    | some n =>
        obtain ⟨label, rest, hl, rfl, -⟩ := exists_of_line? hline
        exact absurd (List.prefix_append _ _) (h label hl)

/-- A line stands in octets if it is found at one of their ends. -/
theorem hasLine_iff :
    HasLine start kind xs ↔ ∃ s ∈ xs.tails, (line? start kind s).isSome = true := by
  constructor
  · rintro ⟨label, hl, p, q, rfl⟩
    refine ⟨line start label ++ q, (List.mem_tails _ _).mpr ⟨p, by simp⟩, ?_⟩
    rw [line?_line start kind hl.1, if_pos hl.2]
    rfl
  · rintro ⟨s, hs, hsome⟩
    obtain ⟨n, hn⟩ := Option.isSome_iff_exists.mp hsome
    obtain ⟨label, rest, hl, rfl, -⟩ := exists_of_line? hn
    obtain ⟨p, rfl⟩ := (List.mem_tails _ _).mp hs
    exact ⟨label, hl, p, rest, by simp⟩

instance (start : List UInt8) (kind : List UInt8 → Bool) (xs : List UInt8) :
    Decidable (HasLine start kind xs) :=
  decidable_of_iff _ hasLine_iff.symm

/-! ### Where lines start -/

theorem not_within {w p v : List UInt8} (hw : 45 ∉ w) (hne : w ≠ []) (hp : p ≠ [])
    (hlt : p.length < w.length + 5) : p ++ dashes ++ v ≠ dashes ++ w ++ dashes := by
  intro h
  have hppos : 0 < p.length := List.length_pos_iff.mpr hp
  have hwpos : 0 < w.length := List.length_pos_iff.mpr hne
  have hdash : ∀ k < 5, dashes[k]? = some 45 := by decide
  have hlen : dashes.length = 5 := rfl
  -- The first place after the dashes of the line and after `p`: a dash, and in `w`.
  have hat := congrArg (fun l => l[max 5 p.length]?) h
  rw [List.append_assoc, List.getElem?_append_right (by omega),
    List.getElem?_append_left (by omega), hdash _ (by omega), List.append_assoc,
    List.getElem?_append_right (by omega), List.getElem?_append_left (by omega)] at hat
  exact hw (List.mem_of_getElem? hat.symm)

/-- A line that starts before some dashes ends with them at the latest. -/
theorem prefix_of_sealed {w t u : List UInt8} (hw : 45 ∉ w) (hne : w ≠ []) (ht : t ≠ [])
    (h : dashes ++ w ++ dashes <+: t ++ dashes ++ u) : dashes ++ w ++ dashes <+: t ++ dashes := by
  by_cases hle : (dashes ++ w ++ dashes).length ≤ (t ++ dashes).length
  · exact List.prefix_of_prefix_length_le h (List.prefix_append _ _) hle
  · obtain ⟨v, hv⟩ := List.prefix_of_prefix_length_le (List.prefix_append _ u) h (by omega)
    refine absurd hv (not_within hw hne ht ?_)
    have hlen : dashes.length = 5 := rfl
    simp only [List.length_append] at hle
    omega

/-- No line starts within another one, after its first octet, and ends in it. -/
theorem not_prefix_of_tail {w w' s p : List UInt8} (hw : 45 ∉ w) (hne : w' ≠ []) (hp : p ≠ [])
    (hs : p ++ s = dashes ++ w ++ dashes) : ¬ dashes ++ w' ++ dashes <+: s := by
  rintro ⟨v, rfl⟩
  have hpos : 0 < w'.length := List.length_pos_iff.mpr hne
  have hlength := congrArg List.length hs
  simp only [List.length_append] at hlength
  have hwpos : 0 < w.length := by omega
  have hwithin : p ++ dashes ++ (w' ++ dashes ++ v) = dashes ++ w ++ dashes := by
    rw [← hs]
    simp only [List.append_assoc]
  exact not_within hw (List.length_pos_iff.mp hwpos) hp (by omega) hwithin

theorem breaks_nil (hs : IsStart start) : Breaks start [] := by
  obtain ⟨first, word, rfl, -⟩ := hs
  intro k _ hk h
  have hle := h.length_le
  simp [dashes_eq] at hle
  omega

theorem breaks_dashes (hs : IsStart start) (rest : List UInt8) : Breaks start (dashes ++ rest) := by
  obtain ⟨first, word, rfl, hword⟩ := hs
  have hfirst : first ≠ 45 := fun h => hword (h ▸ List.mem_cons_self)
  intro k hk hk' h
  interval_cases k <;> simp [dashes_eq, List.replicate, hfirst] at h

theorem breaks_opening {first : UInt8} (hfirst : first ≠ 45)
    (hword : ¬ Utf8.encode "BEGIN " <+: first :: rest) : Breaks opening (first :: rest) := by
  intro k hk hk' h
  rcases hk'.lt_or_eq with hlt | rfl
  · interval_cases k <;> simp [opening_eq, dashes_eq, List.replicate, Ne.symm hfirst] at h
  · exact hword ((List.prefix_append_right_inj dashes).mp h)

/-- **Lines do not cross dashes.**  In octets that end with the dashes of a line, a line that starts
is there with all that it has, if what follows makes none with the last dashes. -/
theorem line_inside {t s : List UInt8} (hs : IsStart start) (hl : IsLabel kind label)
    (hb : Breaks start rest) (hne : s ≠ []) (hsuffix : s <:+ t ++ dashes)
    (h : line start label <+: s ++ rest) : line start label <+: s := by
  have hstart : start <+: s ++ rest := by
    refine List.IsPrefix.trans ?_ h
    rw [line, List.append_assoc]
    exact List.prefix_append _ _
  obtain ⟨before, hbefore⟩ := hsuffix
  rcases List.append_eq_append_iff.mp hbefore with ⟨u, rfl, rfl⟩ | ⟨u, rfl, hu⟩
  · by_cases hu : u = []
    · subst hu
      exact absurd hstart (hb 5 (by omega) (by omega))
    · obtain ⟨w, hw, hwne, hdash⟩ := hs.line_eq hl
      rw [hw] at h ⊢
      exact prefix_of_sealed hdash hwne hu h
  · -- Only some of the last dashes are left.
    have hlength := congrArg List.length hu
    have hpos : 0 < s.length := List.length_pos_iff.mpr hne
    have hall : s = List.replicate s.length 45 := by
      rw [List.eq_replicate_iff]
      refine ⟨rfl, fun b hb => ?_⟩
      have hmem : b ∈ dashes := hu ▸ List.mem_append_right u hb
      exact List.eq_of_mem_replicate (dashes_eq ▸ hmem)
    rw [hall] at hstart
    refine absurd hstart (hb s.length hpos ?_)
    simp only [dashes_eq, List.length_replicate, List.length_append] at hlength
    omega

/-! ### What no line starts in -/

theorem Passes.append (hx : Passes start kind xs (ys ++ rest)) (hy : Passes start kind ys rest) :
    Passes start kind (xs ++ ys) rest := by
  rintro s hne ⟨before, hbefore⟩
  rcases List.append_eq_append_iff.mp hbefore with ⟨u, rfl, rfl⟩ | ⟨u, rfl, hu⟩
  · by_cases hu : u = []
    · subst hu
      exact hy ys hne List.suffix_rfl
    · rw [List.append_assoc]
      exact hx u hu (List.suffix_append _ _)
  · exact hy s hne ⟨u, hu.symm⟩

theorem not_prefix_of_notMem {s : List UInt8} (hs : IsStart start) (hx : 45 ∉ xs) (hne : s ≠ [])
    (hsuffix : s <:+ xs) : ¬ line start label <+: s ++ rest := by
  obtain ⟨first, word, rfl, -⟩ := hs
  obtain ⟨b, more, rfl⟩ := List.exists_cons_of_ne_nil hne
  intro hbegins
  have hb : b = 45 := by
    rw [line, dashes_eq, List.replicate_succ] at hbegins
    exact (List.cons_prefix_cons.mp hbegins).1.symm
  exact hx (hb ▸ hsuffix.subset List.mem_cons_self)

theorem passes_of_notMem (hs : IsStart start) (hx : 45 ∉ xs) (rest : List UInt8) :
    Passes start kind xs rest := by
  intro s hne hsuffix
  rw [line?_eq_none_iff]
  intro label _
  exact not_prefix_of_notMem hs hx hne hsuffix

/-- No other line starts in a line. -/
theorem passes_line {start' : List UInt8} {kind' : List UInt8 → Bool} (hs : IsStart start)
    (hs' : IsStart start') (hl : IsLabel kind' label) (hb : Breaks start rest)
    (hwhole : line? start kind (line start' label ++ rest) = none) :
    Passes start kind (line start' label) rest := by
  intro s hne hsuffix
  rw [line?_eq_none_iff]
  intro other ho hbegins
  replace hbegins := line_inside hs ho hb hne hsuffix hbegins
  obtain ⟨before, hbefore⟩ := hsuffix
  by_cases hempty : before = []
  · subst hempty
    obtain rfl : s = line start' label := hbefore
    exact line?_eq_none_iff.mp hwhole other ho (hbegins.trans (List.prefix_append _ _))
  · obtain ⟨w, hw, -, hdash⟩ := hs'.line_eq hl
    obtain ⟨w', hw', hne', -⟩ := hs.line_eq ho
    rw [hw] at hbefore
    rw [hw'] at hbegins
    exact not_prefix_of_tail hdash hne' hempty hbefore hbegins

theorem line?_opening_closing (kind : List UInt8 → Bool) (rest : List UInt8) :
    line? opening kind (line closing label ++ rest) = none := rfl

/-! ### The first closing line -/

theorem closingEnd?_append (h : Passes closing kind xs rest) :
    closingEnd? kind (xs ++ rest) = (closingEnd? kind rest).map (xs.length + ·) := by
  induction xs with
  | nil => simp
  | cons b xs ih =>
      have hhead := h (b :: xs) (List.cons_ne_nil _ _) List.suffix_rfl
      have htail : Passes closing kind xs rest := fun s hne hs =>
        h s hne (hs.trans (List.suffix_cons _ _))
      rw [List.cons_append] at hhead ⊢
      rw [closingEnd?, hhead]
      dsimp only
      rw [ih htail, Option.map_map]
      congr 1
      funext n
      simp only [Function.comp_apply, List.length_cons]
      omega

theorem closingEnd?_line (hl : IsLabel kind label) (rest : List UInt8) :
    closingEnd? kind (line closing label ++ rest) = some (line closing label).length := by
  have hline := line?_line closing kind hl.1 rest
  rw [if_pos hl.2] at hline
  have hcons : ∃ b more, line closing label ++ rest = b :: more := ⟨_, _, rfl⟩
  obtain ⟨b, more, hcons⟩ := hcons
  rw [hcons] at hline ⊢
  rw [closingEnd?, hline]

/-- Where a closing line ends, none starts before it. -/
theorem exists_of_closingEnd? {n : Nat} (h : closingEnd? kind bytes = some n) :
    ∃ body label after, IsLabel kind label ∧ bytes = body ++ line closing label ++ after ∧
      Passes closing kind body (line closing label ++ after) ∧
      n = body.length + (line closing label).length := by
  induction bytes generalizing n with
  | nil => cases h
  | cons b bytes ih =>
      rw [closingEnd?] at h
      split at h
      · rename_i m hline
        cases h
        obtain ⟨label, after, hl, hbytes, rfl⟩ := exists_of_line? hline
        refine ⟨[], label, after, hl, hbytes, fun s hne hs => ?_, by simp⟩
        exact absurd (List.suffix_nil.mp hs) hne
      · rename_i hnone
        obtain ⟨m, hm, rfl⟩ := Option.map_eq_some_iff.mp h
        obtain ⟨body, label, after, hl, rfl, hpasses, rfl⟩ := ih hm
        refine ⟨b :: body, label, after, hl, rfl, fun s hne hs => ?_, by simp; omega⟩
        rcases List.suffix_cons_iff.mp hs with rfl | hs
        · simpa using hnone
        · exact hpasses s hne hs

/-! ### Line ends -/

theorem lineEnd_le (bytes : List UInt8) : lineEnd bytes ≤ bytes.length := by
  unfold lineEnd
  split <;> simp

theorem lineEnd_cases {e : List UInt8} (h : e.length = lineEnd (e ++ rest)) :
    e ∈ [[], [10], [13], [13, 10]] := by
  have htake : e = (e ++ rest).take (lineEnd (e ++ rest)) := by
    rw [← h, List.take_left]
  rw [htake]
  unfold lineEnd
  split
  · rename_i heq
    simp [heq]
  · rename_i heq
    simp [heq]
  · rename_i heq
    simp [heq]
  · simp

theorem lineEnd_dash_notMem : ∀ e ∈ [[], [10], [13], [13, 10]], (45 : UInt8) ∉ e := by
  decide

/-- What comes after a block begins with dashes, as a block does, or there is nothing. -/
def Follows (rest : List UInt8) : Prop :=
  rest = [] ∨ dashes <+: rest

theorem lineEnd_of_follows {e : List UInt8} (he : e ∈ [[], [10], [13], [13, 10]])
    (hr : Follows rest) : lineEnd (e ++ rest) = e.length := by
  rcases hr with rfl | ⟨more, rfl⟩ <;>
    (simp only [List.mem_cons, List.not_mem_nil, or_false] at he
     rcases he with rfl | rfl | rfl | rfl <;> rfl)

theorem Follows.breaks (hr : Follows rest) : Breaks opening rest := by
  rcases hr with rfl | ⟨more, rfl⟩
  · exact breaks_nil isStart_opening
  · exact breaks_dashes isStart_opening more

theorem breaks_lineEnd {e : List UInt8} (he : e ∈ [[], [10], [13], [13, 10]]) (hr : Follows rest) :
    Breaks opening (e ++ rest) := by
  have hword {first : UInt8} {more : List UInt8} (hne : first ≠ 66) :
      ¬ Utf8.encode "BEGIN " <+: first :: more := fun h =>
    hne (List.cons_prefix_cons.mp (show 66 :: Utf8.encode "EGIN " <+: _ from h)).1.symm
  simp only [List.mem_cons, List.not_mem_nil, or_false] at he
  rcases he with rfl | rfl | rfl | rfl
  · exact hr.breaks
  · exact breaks_opening (by decide) (hword (by decide))
  · exact breaks_opening (by decide) (hword (by decide))
  · exact breaks_opening (by decide) (hword (by decide))

/-! ### Blocks -/

/-- Octets begin with a block, and others come after it. -/
inductive Begins (kind : List UInt8 → Bool) : List UInt8 → List UInt8 → Prop
  | mk {label label' body e after : List UInt8} {first : UInt8} : IsLabel kind label →
      IsLabel kind label' → Passes closing kind body (line closing label' ++ (e ++ after)) →
      e.length = lineEnd (e ++ after) →
      Begins kind (line opening label ++ first :: body ++ line closing label' ++ e) after

theorem Begins.ne_nil {b after : List UInt8} (hb : Begins kind b after) : b ≠ [] := by
  cases hb
  simp [line, opening_eq, dashes_eq]

theorem Begins.follows {b after : List UInt8} (hb : Begins kind b after) (rest : List UInt8) :
    Follows (b ++ rest) := by
  cases hb
  refine .inr ?_
  simp only [line, opening_eq, List.append_assoc]
  exact List.prefix_append _ _

theorem Begins.follows_self {b after : List UInt8} (hb : Begins kind b after) : Follows b := by
  have hfollows := hb.follows []
  rwa [List.append_nil] at hfollows

theorem drop_head (xs : List UInt8) (first : UInt8) (rest : List UInt8) :
    (xs ++ first :: rest).drop (xs.length + 1) = rest := by
  rw [← List.drop_drop, List.drop_left]
  rfl

/-- The block with which octets begin is found. -/
theorem block?_of_begins {b after : List UInt8} (hb : Begins kind b after) :
    block? kind (b ++ after) = some b.length := by
  cases hb with
  | @mk label label' body e after first hl hl' hpasses he =>
      have hhead := line?_line opening kind hl.1
        (first :: (body ++ (line closing label' ++ (e ++ after))))
      rw [if_pos hl.2] at hhead
      have hend : closingEnd? kind (body ++ (line closing label' ++ (e ++ after))) =
          some (body.length + (line closing label').length) := by
        rw [closingEnd?_append hpasses, closingEnd?_line hl']
        rfl
      have hafter : (body ++ (line closing label' ++ (e ++ after))).drop
          (body.length + (line closing label').length) = e ++ after := by
        rw [← List.drop_drop, List.drop_left, List.drop_left]
      simp only [List.append_assoc, List.cons_append]
      simp only [block?, hhead, Option.bind_eq_bind, Option.bind_some, drop_head, hend, hafter,
        ← he]
      simp
      omega

/-- What is found is the block with which octets begin. -/
theorem begins_of_block? {n : Nat} (h : block? kind bytes = some n) :
    ∃ b after, bytes = b ++ after ∧ n = b.length ∧ Begins kind b after := by
  unfold block? at h
  simp only [Option.bind_eq_bind, Option.bind_eq_some_iff] at h
  obtain ⟨head, hhead, size, hsize, hn⟩ := h
  obtain ⟨label, rest, hl, rfl, rfl⟩ := exists_of_line? hhead
  rw [← List.drop_drop, List.drop_left] at hsize hn
  cases rest with
  | nil => cases hsize
  | cons first inside =>
      rw [List.drop_one, List.tail_cons] at hsize hn
      obtain ⟨body, label', more, hl', rfl, hpasses, rfl⟩ := exists_of_closingEnd? hsize
      have hmore : (body ++ line closing label' ++ more).drop
          (body.length + (line closing label').length) = more := by
        rw [← List.length_append, List.drop_left]
      rw [hmore] at hn
      obtain ⟨e, after, rfl, he⟩ : ∃ e after, more = e ++ after ∧ e.length = lineEnd more := by
        refine ⟨more.take (lineEnd more), more.drop (lineEnd more), ?_, ?_⟩
        · exact (List.take_append_drop _ _).symm
        · rw [List.length_take, Nat.min_eq_left (lineEnd_le more)]
      refine ⟨_, after, ?_, ?_, @Begins.mk kind label label' body e after first hl hl' hpasses he⟩
      · simp
      · simp only [Option.pure_def, Option.some.injEq] at hn
        rw [← hn, ← he]
        simp
        omega

/-! ### The scan -/

theorem blocksFrom_eq (kind : List UInt8 → Bool) (n : Nat) (bytes : List UInt8) :
    blocksFrom kind n bytes = blocks kind (bytes.drop n) := by
  induction bytes generalizing n with
  | nil => cases n <;> rfl
  | cons b bytes ih =>
      cases n with
      | zero => rfl
      | succ n => exact ih n

theorem blocks_cons {b : UInt8} (h : block? kind (b :: bytes) = none) :
    blocks kind (b :: bytes) = blocks kind bytes := by
  rw [blocks, blocksFrom, h]
  rfl

/-- The block with which octets begin is taken. -/
theorem blocks_of_begins {b after : List UInt8} (hb : Begins kind b after) :
    blocks kind (b ++ after) = b :: blocks kind after := by
  have hfound := block?_of_begins hb
  obtain ⟨first, more, rfl⟩ := List.exists_cons_of_ne_nil hb.ne_nil
  rw [List.cons_append] at hfound ⊢
  rw [blocks, blocksFrom, hfound]
  dsimp only
  rw [← List.cons_append, List.take_left, blocksFrom_eq, List.length_cons, Nat.add_sub_cancel,
    List.drop_left]

theorem block?_eq_none (h : line? opening kind bytes = none) : block? kind bytes = none := by
  rw [block?, h]
  rfl

/-- What no opening line starts in is passed over. -/
theorem blocks_append (h : Passes opening kind xs rest) :
    blocks kind (xs ++ rest) = blocks kind rest := by
  induction xs with
  | nil => rfl
  | cons b xs ih =>
      have hhead := h (b :: xs) (List.cons_ne_nil _ _) List.suffix_rfl
      have htail : Passes opening kind xs rest := fun s hne hs =>
        h s hne (hs.trans (List.suffix_cons _ _))
      rw [← ih htail, List.cons_append]
      exact blocks_cons (block?_eq_none hhead)

/-- There is no block, or the first one is taken. -/
theorem blocks_cases (kind : List UInt8 → Bool) (bytes : List UInt8) :
    (blocks kind bytes = [] ∧ ∀ s, s <:+ bytes → block? kind s = none) ∨
      ∃ before b after, bytes = before ++ b ++ after ∧ Begins kind b after ∧
        blocks kind bytes = b :: blocks kind after := by
  induction bytes with
  | nil =>
      refine .inl ⟨rfl, fun s hs => ?_⟩
      rw [List.suffix_nil.mp hs]
      rfl
  | cons first bytes ih =>
      cases hblock : block? kind (first :: bytes) with
      | some n =>
          obtain ⟨b, after, hbytes, -, hb⟩ := begins_of_block? hblock
          refine .inr ⟨[], b, after, hbytes, hb, ?_⟩
          rw [hbytes, blocks_of_begins hb]
      | none =>
          rw [blocks_cons hblock]
          rcases ih with ⟨hnil, hnone⟩ | ⟨before, b, after, rfl, hb, hfound⟩
          · refine .inl ⟨hnil, fun s hs => ?_⟩
            rcases List.suffix_cons_iff.mp hs with rfl | hs
            · exact hblock
            · exact hnone s hs
          · exact .inr ⟨first :: before, b, after, rfl, hb, hfound⟩

theorem begins_of_mem_blocks {b : List UInt8} (h : b ∈ blocks kind bytes) :
    ∃ after, Begins kind b after := by
  induction hn : bytes.length using Nat.strong_induction_on generalizing bytes with
  | _ n ih =>
      rcases blocks_cases kind bytes with ⟨hnil, -⟩ | ⟨before, found, after, rfl, hb, hfound⟩
      · rw [hnil] at h
        cases h
      · rw [hfound] at h
        rcases List.mem_cons.mp h with rfl | h
        · exact ⟨after, hb⟩
        · refine ih after.length ?_ h rfl
          have hpos := List.length_pos_iff.mpr hb.ne_nil
          simp only [List.length_append] at hn
          omega

/-! ### Blocks among other blocks -/

/-- Whether a line starts before a closing line hangs on nothing that comes after that. -/
theorem Passes.of_closing {after after' : List UInt8}
    (h : Passes closing kind xs (line closing label ++ after)) :
    Passes closing kind xs (line closing label ++ after') := by
  intro s hne hs
  have hnone := h s hne hs
  rw [line?_eq_none_iff] at hnone ⊢
  intro other ho hbegins
  have hsealed (more : List UInt8) :
      s ++ (line closing label ++ more) = s ++ (closing ++ label) ++ dashes ++ more := by
    simp [line]
  have ht : s ++ (closing ++ label) ≠ [] := fun h => hne (List.append_eq_nil_iff.mp h).1
  obtain ⟨w, hw, hwne, hdash⟩ := isStart_closing.line_eq ho
  refine hnone other ho ?_
  rw [hsealed, hw] at hbegins ⊢
  exact (prefix_of_sealed hdash hwne ht hbegins).trans (List.prefix_append _ _)

/-- A block is one before whatever follows on a block. -/
theorem Begins.of_follows {b after : List UInt8} (hb : Begins kind b after) (hr : Follows rest) :
    Begins kind b rest := by
  cases hb with
  | mk hl hl' hpasses he =>
      exact .mk hl hl' hpasses.of_closing (lineEnd_of_follows (lineEnd_cases he) hr).symm

theorem follows_flatten {bs : List (List UInt8)} (hbs : ∀ b ∈ bs, ∃ after, Begins kind b after)
    (hr : Follows rest) : Follows (bs.flatten ++ rest) := by
  cases bs with
  | nil => exact hr
  | cons b bs =>
      obtain ⟨after, hb⟩ := hbs b List.mem_cons_self
      rw [List.flatten_cons, List.append_assoc]
      exact hb.follows _

/-- **Blocks that were taken are taken again** when they stand one after the other. -/
theorem blocks_flatten {bs : List (List UInt8)} (hbs : ∀ b ∈ bs, ∃ after, Begins kind b after)
    (hr : Follows rest) : blocks kind (bs.flatten ++ rest) = bs ++ blocks kind rest := by
  induction bs with
  | nil => rfl
  | cons b bs ih =>
      obtain ⟨after, hb⟩ := hbs b List.mem_cons_self
      have hbs' : ∀ b ∈ bs, ∃ after, Begins kind b after := fun b hb =>
        hbs b (List.mem_cons_of_mem _ hb)
      rw [List.flatten_cons, List.append_assoc, List.cons_append,
        blocks_of_begins (hb.of_follows (follows_flatten hbs' hr)), ih hbs']

/-- An opening line that starts in a block is all in it. -/
theorem Begins.line_inside {kind' : List UInt8 → Bool} {b after s : List UInt8}
    (hb : Begins kind b after) (hr : Follows rest) (hl : IsLabel kind' label) (hne : s ≠ [])
    (hsuffix : s <:+ b) (h : line opening label <+: s ++ rest) : line opening label <+: s := by
  cases hb with
  | @mk label₁ label₂ body e after first hl₁ hl₂ _ he =>
      have hends := lineEnd_cases he
      have hdash : 45 ∉ e := lineEnd_dash_notMem e hends
      have hsealed : line opening label₁ ++ first :: body ++ line closing label₂ ++ e =
          line opening label₁ ++ first :: body ++ (closing ++ label₂) ++ dashes ++ e := by
        simp [line]
      rw [hsealed] at hsuffix
      obtain ⟨before, hbefore⟩ := hsuffix
      rcases List.append_eq_append_iff.mp hbefore with ⟨u, hu, rfl⟩ | ⟨u, rfl, hu⟩
      · by_cases hempty : u = []
        · subst hempty
          exact absurd h (not_prefix_of_notMem isStart_opening hdash hne List.suffix_rfl)
        · rw [List.append_assoc] at h
          have hinside := Marked.line_inside isStart_opening hl (breaks_lineEnd hends hr) hempty
            ⟨before, hu.symm⟩ h
          exact hinside.trans (List.prefix_append _ _)
      · exact absurd h (not_prefix_of_notMem isStart_opening hdash hne ⟨u, hu.symm⟩)

/-! ### Blocks that stand in octets -/

/-- A block of a kind stands somewhere in octets. -/
def Holds (kind : List UInt8 → Bool) (xs : List UInt8) : Prop :=
  ∃ label body label', IsLabel kind label ∧ IsLabel kind label' ∧ body ≠ [] ∧
    line opening label ++ body ++ line closing label' <:+: xs

theorem closingEnd?_ne_none (hl : IsLabel kind label) (xs rest : List UInt8) :
    closingEnd? kind (xs ++ (line closing label ++ rest)) ≠ none := by
  induction xs with
  | nil => simp [closingEnd?_line hl]
  | cons b xs ih =>
      rw [List.cons_append, closingEnd?]
      cases line? closing kind (b :: (xs ++ (line closing label ++ rest))) with
      | some n => simp
      | none => simpa using ih

/-- **None is missed**: a block is found exactly if one stands there. -/
theorem holds_iff : Holds kind bytes ↔ blocks kind bytes ≠ [] := by
  constructor
  · rintro ⟨label, body, label', hl, hl', hbody, before, after, rfl⟩ hnil
    rcases blocks_cases kind
        (before ++ (line opening label ++ body ++ line closing label') ++ after) with
      ⟨-, hnone⟩ | ⟨_, b, _, -, -, hfound⟩
    · obtain ⟨first, more, rfl⟩ := List.exists_cons_of_ne_nil hbody
      have hblock := hnone (line opening label ++ first :: (more ++ (line closing label' ++ after)))
        ⟨before, by simp⟩
      have hhead := line?_line opening kind hl.1
        (first :: (more ++ (line closing label' ++ after)))
      rw [if_pos hl.2] at hhead
      obtain ⟨size, hsize⟩ := Option.ne_none_iff_exists'.mp (closingEnd?_ne_none hl' more after)
      simp only [block?, hhead, Option.bind_eq_bind, Option.bind_some, drop_head, hsize] at hblock
      cases hblock
    · rw [hnil] at hfound
      cases hfound
  · intro hne
    rcases blocks_cases kind bytes with ⟨hnil, -⟩ | ⟨before, b, after, rfl, hb, -⟩
    · exact absurd hnil hne
    · cases hb with
      | @mk label label' body e after first hl hl' _ _ =>
          exact ⟨label, first :: body, label', hl, hl', List.cons_ne_nil _ _, before, e ++ after,
            by simp⟩

instance (kind : List UInt8 → Bool) (xs : List UInt8) : Decidable (Holds kind xs) :=
  decidable_of_iff _ holds_iff.symm

end DefaultCredentials.Marked
