/-!
# Named entries in order

Members of an object, headers of a message and variables of an environment are entries by name
that keep the order in which the names first came.
-/

namespace DefaultCredentials.Entries

variable {α : Type}

/-- Sets an entry: a present name keeps its place, a new one comes last. -/
def put : List (String × α) → String → α → List (String × α)
  | [], name, value => [(name, value)]
  | m :: rest, name, value =>
    if m.1 = name then (name, value) :: rest else m :: put rest name value

def putAll (entries more : List (String × α)) : List (String × α) :=
  more.foldl (fun es m => put es m.1 m.2) entries

def erase (entries : List (String × α)) (name : String) : List (String × α) :=
  entries.filter (·.1 ≠ name)

theorem lookup_put_self (entries : List (String × α)) (name : String) (value : α) :
    (put entries name value).lookup name = some value := by
  induction entries with
  | nil => simp [put]
  | cons m rest ih =>
    obtain ⟨first, held⟩ := m
    by_cases h : first = name
    · simp [put, h]
    · have h' : (name == first) = false := by simpa using fun e => h e.symm
      simp [put, h, List.lookup_cons, h', ih]

theorem put_put (entries : List (String × α)) (name : String) (first later : α) :
    put (put entries name first) name later = put entries name later := by
  induction entries with
  | nil => simp [put]
  | cons m rest ih =>
    by_cases h : m.1 = name
    · simp [put, h]
    · simp [put, h, ih]

theorem put_of_not_mem {entries : List (String × α)} {name : String}
    (h : name ∉ entries.map (·.1)) (value : α) :
    put entries name value = entries ++ [(name, value)] := by
  induction entries with
  | nil => rfl
  | cons m rest ih =>
    rw [List.map_cons, List.mem_cons, not_or] at h
    rw [put, if_neg (Ne.symm h.1), ih h.2]
    rfl

theorem putAll_of_nodup {entries more : List (String × α)}
    (h : ((entries ++ more).map (·.1)).Nodup) : putAll entries more = entries ++ more := by
  induction more generalizing entries with
  | nil => rw [List.append_nil]; rfl
  | cons m rest ih =>
    have hm : m.1 ∉ entries.map (·.1) := by
      rw [List.map_append, List.map_cons, List.nodup_append] at h
      exact fun hmem => h.2.2 _ hmem _ List.mem_cons_self rfl
    rw [List.append_cons] at h ⊢
    rw [← ih h, ← put_of_not_mem hm]
    rfl

theorem names_put (entries : List (String × α)) (name : String) (value : α) :
    (put entries name value).map (·.1) =
      if name ∈ entries.map (·.1) then entries.map (·.1) else entries.map (·.1) ++ [name] := by
  induction entries with
  | nil => rfl
  | cons m rest ih =>
    by_cases hm : m.1 = name
    · simp [put, hm]
    · have hne : name ≠ m.1 := Ne.symm hm
      rw [put, if_neg hm, List.map_cons, ih, List.map_cons]
      by_cases hr : name ∈ rest.map (·.1)
      · rw [if_pos hr, if_pos (List.mem_cons_of_mem _ hr)]
      · rw [if_neg hr, if_neg (by rw [List.mem_cons]; exact not_or.mpr ⟨hne, hr⟩)]
        rfl

theorem nodup_put {entries : List (String × α)} (h : (entries.map (·.1)).Nodup) (name : String)
    (value : α) : ((put entries name value).map (·.1)).Nodup := by
  rw [names_put]
  split
  · exact h
  · rename_i hname
    rw [List.nodup_append]
    refine ⟨h, by simp, fun a ha b hb => ?_⟩
    rw [List.mem_singleton] at hb
    rintro rfl
    exact hname (hb ▸ ha)

theorem mem_put {entries : List (String × α)} (h : (entries.map (·.1)).Nodup) {name : String}
    {value : α} {m : String × α} :
    m ∈ put entries name value ↔ m = (name, value) ∨ m ∈ entries ∧ m.1 ≠ name := by
  induction entries with
  | nil => simp [put]
  | cons first rest ih =>
    rw [List.map_cons, List.nodup_cons] at h
    by_cases hm : first.1 = name
    · have hrest : m ∈ rest → m.1 ≠ name := by
        rintro hmem rfl
        exact h.1 (hm ▸ List.mem_map_of_mem hmem)
      rw [put, if_pos hm, List.mem_cons, List.mem_cons]
      constructor
      · rintro (rfl | hmem)
        · exact .inl rfl
        · exact .inr ⟨.inr hmem, hrest hmem⟩
      · rintro (rfl | ⟨rfl | hmem, hne⟩)
        · exact .inl rfl
        · exact absurd hm hne
        · exact .inr hmem
    · rw [put, if_neg hm, List.mem_cons, List.mem_cons, ih h.2]
      constructor
      · rintro (rfl | rfl | ⟨hmem, hne⟩)
        · exact .inr ⟨.inl rfl, hm⟩
        · exact .inl rfl
        · exact .inr ⟨.inr hmem, hne⟩
      · rintro (rfl | ⟨rfl | hmem, hne⟩)
        · exact .inr (.inl rfl)
        · exact .inl rfl
        · exact .inr (.inr ⟨hmem, hne⟩)

/-- Where names differ, an entry that is set comes to those of other names. -/
theorem put_perm {entries : List (String × α)} (h : (entries.map (·.1)).Nodup) (name : String)
    (value : α) : (put entries name value).Perm ((name, value) :: erase entries name) := by
  induction entries with
  | nil => exact .refl _
  | cons m rest ih =>
    rw [List.map_cons, List.nodup_cons] at h
    by_cases hm : m.1 = name
    · have hrest : erase rest name = rest := by
        rw [erase, List.filter_eq_self]
        rintro e he
        rw [decide_eq_true_iff]
        rintro rfl
        exact h.1 (hm ▸ List.mem_map_of_mem he)
      have herase : erase (m :: rest) name = erase rest name := by
        rw [erase, List.filter_cons_of_neg (by simpa using hm)]
        rfl
      rw [put, if_pos hm, herase, hrest]
    · have herase : erase (m :: rest) name = m :: erase rest name := by
        rw [erase, List.filter_cons_of_pos (by simpa using hm)]
        rfl
      rw [put, if_neg hm, herase]
      exact ((ih h.2).cons m).trans (.swap _ _ _)

theorem lookup_of_not_mem {entries : List (String × α)} {name : String}
    (h : name ∉ entries.map (·.1)) : entries.lookup name = none := by
  rw [List.lookup_eq_none_iff]
  intro m hm
  rw [bne_iff_ne]
  rintro rfl
  exact h (List.mem_map_of_mem hm)

theorem lookup_of_mem {entries : List (String × α)} {name : String} {value : α}
    (hnames : (entries.map (·.1)).Nodup) (h : (name, value) ∈ entries) :
    entries.lookup name = some value := by
  obtain ⟨before, after, rfl⟩ := List.append_of_mem h
  rw [List.lookup_eq_some_iff]
  refine ⟨before, after, rfl, fun m hm => ?_⟩
  rw [List.map_append, List.map_cons, List.nodup_append] at hnames
  rw [bne_iff_ne]
  exact (hnames.2.2 m.1 (List.mem_map_of_mem hm) name List.mem_cons_self).symm

end DefaultCredentials.Entries
