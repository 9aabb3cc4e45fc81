import DefaultCredentials.Entries

/-!
# Mappings

A mapping of names to texts, such as the headers of a request, is held by its number: what is put
into it is seen by all who hold that number.  A copy has a number of its own.
-/

namespace DefaultCredentials

/-- The mappings of a process by number. -/
structure Mappings where
  all : List (List (String × String))

namespace Mappings

def empty : Mappings :=
  ⟨[]⟩

def size (m : Mappings) : Nat :=
  m.all.length

def get (m : Mappings) (n : Nat) : List (String × String) :=
  (m.all[n]?).getD []

/-- Makes a mapping with entries of its own and gives its number. -/
def add (m : Mappings) (entries : List (String × String)) : Nat × Mappings :=
  (m.size, ⟨m.all ++ [entries]⟩)

def set (m : Mappings) (n : Nat) (entries : List (String × String)) : Mappings :=
  ⟨m.all.set n entries⟩

theorem get_add_self (m : Mappings) (entries : List (String × String)) :
    (m.add entries).2.get m.size = entries := by
  simp [get, add, size]

theorem get_add_of_lt {m : Mappings} {n : Nat} (entries : List (String × String))
    (h : n < m.size) : (m.add entries).2.get n = m.get n := by
  have hn : n < m.all.length := h
  simp [get, add, List.getElem?_append_left hn]

@[simp] theorem size_add (m : Mappings) (entries : List (String × String)) :
    (m.add entries).2.size = m.size + 1 := by
  simp [add, size]

@[simp] theorem size_set (m : Mappings) (n : Nat) (entries : List (String × String)) :
    (m.set n entries).size = m.size := by
  simp [set, size]

theorem get_set_self {m : Mappings} {n : Nat} (entries : List (String × String))
    (h : n < m.size) : (m.set n entries).get n = entries := by
  have hn : n < m.all.length := h
  simp [get, set, hn]

theorem get_set_ne (m : Mappings) {n k : Nat} (entries : List (String × String)) (h : n ≠ k) :
    (m.set n entries).get k = m.get k := by
  simp [get, set, List.getElem?_set_ne h]

end Mappings
end DefaultCredentials
