import DefaultCredentials.Faults
import Mathlib.Data.List.Chain

/-!
# Failures raised again and again

A failure that is kept is raised as a copy, and a copy may be kept and copied in turn.
`Faults.replays` makes copies one from another, and `Faults.AreCopies` says what they are: other
objects that are the same failure, led to by one another down to the first, which stays what it was.

* `Faults.AreCopies.replay` says so of one more copy, and `Faults.replays_same` of any number.
* `Faults.raised?_replay` ties a copy to `Raised.replayAfter`, which tells objects apart by their
  count.
-/

namespace DefaultCredentials.Faults

/-- The last of a number of copies, each made of the one before and the first of an object. -/
def replays (s : Faults) (n : Nat) : Nat → Nat × Faults
  | 0 => (n, s)
  | count + 1 => (replays s n count).2.replay (replays s n count).1

/-- Each of these objects is led to by the next one. -/
def LeadsBack (s : Faults) (numbers : List Nat) : Prop :=
  numbers.IsChain fun later earlier => s.cause? later = some earlier

/-- These objects, the last first, are copies of the failure that an object is. -/
structure AreCopies (s : Faults) (n : Nat) (f : Failure) (copies : List Nat) (s' : Faults) :
    Prop where
  /-- What there was stays as it was, with its attributes and its cause. -/
  kept : ∀ m o, s.get? m = some o → s'.get? m = some o
  /-- Each copy is the failure: of its kind, with its arguments, its text and its attributes. -/
  same : ∀ m ∈ copies, ∃ o, s'.get? m = some o ∧ o.fault = .failure f
  /-- No copy was there before. -/
  fresh : ∀ m ∈ copies, s.get? m = none
  /-- All of them are different objects. -/
  distinct : (copies ++ [n]).Nodup
  /-- From the last copy on, causes lead through the copies to the failure and on as before. -/
  chained : ∀ earlier, s.LeadsBack (n :: earlier) → s'.LeadsBack (copies ++ n :: earlier)

variable {s s' : Faults} {n last : Nat} {o : FaultObject} {f : Failure} {copies : List Nat}

theorem cause?_of_get? (h : s.get? n = some o) : s.cause? n = o.cause := by
  simp [cause?, h]

theorem LeadsBack.mono {numbers : List Nat} (h : s.LeadsBack numbers)
    (hkept : ∀ m o, s.get? m = some o → s'.get? m = some o) : s'.LeadsBack numbers := by
  refine List.IsChain.imp (fun later earlier hcause => ?_) h
  obtain ⟨o, ho, hcause⟩ := Option.bind_eq_some_iff.mp hcause
  rw [cause?_of_get? (hkept later o ho), hcause]

theorem areCopies_nil (s : Faults) (n : Nat) (f : Failure) : AreCopies s n f [] s where
  kept _ _ h := h
  same := by simp
  fresh := by simp
  distinct := by simp
  chained _ h := h

/-- All of them are there. -/
theorem AreCopies.exists_get? (hc : AreCopies s n f copies s') (hn : s.get? n = some o)
    (hf : o.fault = .failure f) {m : Nat} (hm : m ∈ copies ++ [n]) :
    ∃ o, s'.get? m = some o ∧ o.fault = .failure f := by
  rcases List.mem_append.mp hm with hm | hm
  · exact hc.same m hm
  · rw [List.mem_singleton.mp hm]
    exact ⟨o, hc.kept n o hn, hf⟩

/-- A copy of the last copy is one more. -/
theorem AreCopies.replay (hc : AreCopies s n f copies s') (hn : s.get? n = some o)
    (hf : o.fault = .failure f) (hnames : (f.attributes.map (·.1)).Nodup)
    (hlast : (copies ++ [n]).head? = some last) :
    (s'.replay last).1 = s'.size ∧
      AreCopies s n f (s'.size :: copies) (s'.replay last).2 := by
  obtain ⟨there, hthere, hsame⟩ := hc.exists_get? hn hf (List.mem_of_head? hlast)
  have hadd := replay_of_failure hthere hsame hnames
  have hkept (m : Nat) (o : FaultObject) (h : s'.get? m = some o) :
      (s'.replay last).2.get? m = some o := by
    rw [hadd]
    exact get?_add h _
  have hnew : (s'.replay last).2.get? s'.size = some ⟨.failure f, some last⟩ := by
    rw [hadd]
    exact get?_add_self ..
  refine ⟨by rw [hadd]; rfl, ?_, ?_, ?_, ?_, ?_⟩
  · exact fun m o h => hkept m o (hc.kept m o h)
  · intro m hm
    rcases List.mem_cons.mp hm with rfl | hm
    · exact ⟨_, hnew, rfl⟩
    · obtain ⟨o, ho, hfault⟩ := hc.same m hm
      exact ⟨o, hkept m o ho, hfault⟩
  · intro m hm
    rcases List.mem_cons.mp hm with rfl | hm
    · refine Option.eq_none_iff_forall_ne_some.mpr fun o ho => ?_
      exact absurd (lt_size (hc.kept _ o ho)) (Nat.lt_irrefl _)
    · exact hc.fresh m hm
  · rw [List.cons_append, List.nodup_cons]
    refine ⟨fun hm => ?_, hc.distinct⟩
    obtain ⟨o, ho, -⟩ := hc.exists_get? hn hf hm
    exact absurd (lt_size ho) (Nat.lt_irrefl _)
  · intro earlier hearlier
    have hhead : (copies ++ n :: earlier).head? = some last := by
      rw [← hlast, List.head?_append, List.head?_append]
      rfl
    rw [List.cons_append, LeadsBack, List.isChain_cons, hhead]
    refine ⟨fun next hnext => ?_, (hc.chained earlier hearlier).mono hkept⟩
    rw [cause?_of_get? hnew, Option.mem_some.mp hnext]

/-- **Copies of copies.**  Take an object that is a failure of any kind, with any arguments, any
attributes of different names and any cause, and make any number of copies, each of the one before.
They are as many other objects, all different, and the last of them is what one is left with.  Each
is the same failure; causes lead from the last copy through the others to the object and on to what
led to that; and the object has the attributes and the cause that it had. -/
theorem replays_same (hn : s.get? n = some o) (hf : o.fault = .failure f)
    (hnames : (f.attributes.map (·.1)).Nodup) (count : Nat) :
    ∃ copies, copies.length = count ∧ (copies ++ [n]).head? = some (s.replays n count).1 ∧
      AreCopies s n f copies (s.replays n count).2 := by
  induction count with
  | zero => exact ⟨[], rfl, rfl, areCopies_nil s n f⟩
  | succ count ih =>
      obtain ⟨copies, hlength, hlast, hcopies⟩ := ih
      obtain ⟨hnumber, hmore⟩ := hcopies.replay hn hf hnames hlast
      refine ⟨(s.replays n count).2.size :: copies, by simp [hlength], ?_, hmore⟩
      rw [List.cons_append, List.head?_cons, replays, hnumber]

/-- Two objects: what made a file malformed, and the failure, which was then said to be about
another file and given a note. -/
def renamed : Faults :=
  ⟨[⟨.trouble .noCertificate, none⟩,
    ⟨.failure { Failure.malformedFile (.text "bad") (.text "/a.json") with
      attributes := [("path", .text "/b.json"), ("note", .int 1)] }, some 0⟩]⟩

/-- The file is not appended again, neither the first one nor the other. -/
theorem replays_same_renamed :
    ∃ copies, copies.length = 3 ∧ (copies ++ [1]).head? = some (renamed.replays 1 3).1 ∧
      (copies ++ [1]).Nodup ∧ (renamed.replays 1 3).2.LeadsBack (copies ++ [1, 0]) ∧
      ∀ m ∈ copies, ∃ o, (renamed.replays 1 3).2.get? m = some o ∧
        o.fault.text = "bad (file: /a.json)" := by
  have hnames : ([("path", Value.text "/b.json"), ("note", .int 1)].map (·.1)).Nodup := by
    decide
  obtain ⟨copies, hlength, hlast, hcopies⟩ :=
    replays_same (s := renamed) (n := 1) rfl rfl hnames 3
  have hchain : renamed.LeadsBack [1, 0] := by
    rw [LeadsBack, List.isChain_cons]
    exact ⟨fun next hnext => by rw [← Option.mem_some.mp hnext]; rfl, .singleton 0⟩
  refine ⟨copies, hlength, hlast, hcopies.distinct, hcopies.chained [0] hchain, fun m hm => ?_⟩
  obtain ⟨o, ho, hfault⟩ := hcopies.same m hm
  refine ⟨o, ho, ?_⟩
  rw [hfault]
  decide

/-! ### Objects and what is raised -/

/-- Only objects that are there lead to others. -/
def IsClosed (s : Faults) : Prop :=
  ∀ n m, s.cause? n = some m → m < s.size

theorem get?_add_of_lt {m : Nat} (hm : m < s.size) (o : FaultObject) :
    (s.add o).2.get? m = s.get? m := by
  obtain ⟨there, hthere⟩ : ∃ there, s.get? m = some there :=
    ⟨s.all[m], List.getElem?_eq_getElem hm⟩
  rw [get?_add hthere, hthere]

theorem origins_add (hs : s.IsClosed) (o : FaultObject) (far : Nat) {m : Nat} (hm : m < s.size) :
    (s.add o).2.origins far m = s.origins far m := by
  induction far generalizing m with
  | zero => rfl
  | succ far ih =>
      have hcause : (s.add o).2.cause? m = s.cause? m := by
        rw [cause?, get?_add_of_lt hm, cause?]
      unfold origins
      rw [hcause]
      cases hc : s.cause? m with
      | none => rfl
      | some earlier =>
          have hlt := hs m earlier hc
          simp only [occurrence?, get?_add_of_lt hlt, ih hlt]

/-- A copy of an object raises a copy of what the object raises, counted after all objects that
there are. -/
theorem raised?_replay (hs : s.IsClosed) (hn : s.get? n = some o) (hf : o.fault = .failure f)
    (hnames : (f.attributes.map (·.1)).Nodup) : (s.replay n).2.raised? (s.replay n).1 =
      (s.raised? n).map (Raised.replayAfter (s.size - n - 1)) := by
  have hlt := lt_size hn
  have hcount : n + 1 + (s.size - n - 1) = s.size := by omega
  rw [replay_of_failure hn hf hnames]
  let s' := (s.add ⟨.failure f, some n⟩).2
  have hnew : s'.get? s.size = some ⟨.failure f, some n⟩ := get?_add_self ..
  have hold : s'.get? n = some o := get?_add hn _
  have hsize : s'.size = s.size + 1 := by simp [s', add, size]
  have horigins : s'.origins (s.size + 1) s.size = ⟨.failure f, n⟩ :: s.origins s.size n := by
    rw [← origins_add hs ⟨.failure f, some n⟩ s.size hlt]
    simp [origins, cause?, occurrence?, hnew, hold, hf, s']
  calc s'.raised? s.size
      = some ⟨⟨.failure f, s.size⟩, s'.origins (s.size + 1) s.size⟩ := by
        simp [raised?, occurrence?, hnew, hsize]
    _ = (s.raised? n).map (Raised.replayAfter (s.size - n - 1)) := by
        simp [raised?, occurrence?, hn, hf, horigins, Raised.replayAfter, Raised.fault, hcount]

end DefaultCredentials.Faults
