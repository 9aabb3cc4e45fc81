import DefaultCredentials.Fault

/-!
# Faults as objects

What is raised is an object: all who hold it see one fault with its attributes, and one cause, and
what one of them sets, the others see.  An object is held by its number.

A failure that is kept is not raised itself.  `Faults.replay` makes another object for that: of the
same kind, with the same arguments, past the wording that a kind gives to its arguments when a
failure is first made; with attributes of its own that start as those of the kept object; and with
the kept object as its cause.
-/

namespace DefaultCredentials

/-- A fault as an object, and the number of the object that led to it, if one did. -/
structure FaultObject where
  fault : Fault
  cause : Option Nat

namespace FaultObject

/-- An object of the kind of a failure with its arguments, and nothing else. -/
def blank (f : Failure) : FaultObject :=
  ⟨.failure { f with attributes := [] }, none⟩

/-- Sets attributes of a failure. -/
def update (more : List (String × Value)) (o : FaultObject) : FaultObject :=
  match o.fault with
  | .failure f =>
    { o with fault := .failure { f with attributes := Entries.putAll f.attributes more } }
  | _ => o

def causedBy (n : Nat) (o : FaultObject) : FaultObject :=
  { o with cause := some n }

theorem update_blank {f : Failure} (hnames : (f.attributes.map (·.1)).Nodup) :
    (blank f).update f.attributes = ⟨.failure f, none⟩ := by
  have hall : Entries.putAll [] f.attributes = f.attributes := Entries.putAll_of_nodup hnames
  simp [blank, update, hall]

end FaultObject

/-- The faults of a process as objects, by number. -/
structure Faults where
  all : List FaultObject

namespace Faults

def empty : Faults :=
  ⟨[]⟩

def size (s : Faults) : Nat :=
  s.all.length

def get? (s : Faults) (n : Nat) : Option FaultObject :=
  s.all[n]?

def cause? (s : Faults) (n : Nat) : Option Nat :=
  (s.get? n).bind (·.cause)

def add (s : Faults) (o : FaultObject) : Nat × Faults :=
  (s.size, ⟨s.all ++ [o]⟩)

def modify (s : Faults) (n : Nat) (change : FaultObject → FaultObject) : Faults :=
  ⟨s.all.modify n change⟩

/-- Another object of a kept failure, which can be raised while others raise theirs. -/
def replay (s : Faults) (n : Nat) : Nat × Faults :=
  match s.get? n with
  | some ⟨.failure f, _⟩ =>
    let (copy, s) := s.add (.blank f)
    let s := s.modify copy (.update f.attributes)
    (copy, s.modify copy (.causedBy n))
  | _ => (n, s)

/-- An object as what it raises. -/
def occurrence? (s : Faults) (n : Nat) : Option Occurrence :=
  (s.get? n).map fun o => ⟨o.fault, n⟩

/-- What led to an object, the nearest first; the first argument bounds how far back that goes. -/
def origins (s : Faults) : Nat → Nat → List Occurrence
  | 0, _ => []
  | far + 1, n =>
    match s.cause? n with
    | none => []
    | some m => (s.occurrence? m).toList ++ origins s far m

/-- What is raised with an object, each object that led to it told once if none led to itself. -/
def raised? (s : Faults) (n : Nat) : Option Raised :=
  (s.occurrence? n).map fun o => ⟨o, s.origins s.size n⟩

variable {s : Faults} {n : Nat} {o : FaultObject}

theorem get?_add (h : s.get? n = some o) (other : FaultObject) :
    (s.add other).2.get? n = some o := by
  have hn : n < s.all.length := (List.getElem?_eq_some_iff.mp h).1
  simpa [get?, add, List.getElem?_append_left hn] using h

theorem get?_add_self (s : Faults) (o : FaultObject) : (s.add o).2.get? s.size = some o := by
  simp [get?, add, size]

theorem modify_add_self (s : Faults) (o : FaultObject) (change : FaultObject → FaultObject) :
    (s.add o).2.modify s.size change = (s.add (change o)).2 := by
  have hlast (os : List FaultObject) :
      (os ++ [o]).modify os.length change = os ++ [change o] := by
    induction os with
    | nil => rfl
    | cons first rest ih =>
        rw [List.cons_append, List.length_cons, List.modify_succ_cons, ih, List.cons_append]
  exact congrArg Faults.mk (hlast s.all)

/-- A copy of a failure is the same failure, with the kept one as its cause. -/
theorem replay_of_failure {f : Failure} (h : s.get? n = some o) (hf : o.fault = .failure f)
    (hnames : (f.attributes.map (·.1)).Nodup) : s.replay n = s.add ⟨.failure f, some n⟩ := by
  obtain ⟨fault, cause⟩ := o
  cases hf
  simp only [replay, h]
  -- The copy is made in three steps: blank, with its attributes, and with its cause.
  calc (s.size, ((s.add (.blank f)).2.modify s.size (.update f.attributes)).modify s.size
        (.causedBy n))
      = (s.size, (s.add ((FaultObject.blank f).update f.attributes)).2.modify s.size
          (.causedBy n)) := by rw [modify_add_self]
    _ = (s.size, (s.add (((FaultObject.blank f).update f.attributes).causedBy n)).2) := by
        rw [modify_add_self]
    _ = s.add ⟨.failure f, some n⟩ := by
        rw [FaultObject.update_blank hnames]
        rfl

theorem lt_size (h : s.get? n = some o) : n < s.size :=
  (List.getElem?_eq_some_iff.mp h).1

end Faults
end DefaultCredentials
