import DefaultCredentials.Entries
import DefaultCredentials.Text.Ragged

/-!
# Values of JSON documents

The values that documents, options and arguments are made of.  An object keeps its members in the
order in which their names first came.  A text with halves of surrogate pairs in it is a value of
its own; where a text of characters is wanted of it, as in the name of a member or the wording of a
message, the halves show as U+FFFD.
-/

namespace DefaultCredentials

/-- A value of a JSON document; whole numbers are unbounded and kept apart from doubles. -/
inductive Value
  | null
  | bool (b : Bool)
  | int (i : Int)
  | float (x : Float)
  | text (s : String)
  | ragged (r : Text.Ragged)
  | list (items : List Value)
  | object (members : List (String × Value))
  deriving Repr, Inhabited, BEq

namespace Value

/-- Whether a value counts as given: null, false, zero and what is empty do not. -/
def isGiven : Value → Bool
  | null => false
  | bool b => b
  | int i => i != 0
  | float x => !(x == 0.0)
  | text s => !s.isEmpty
  | ragged _ => true
  | list items => !items.isEmpty
  | object members => !members.isEmpty

def text? : Value → Option String
  | text s => some s
  | _ => none

/-- The text with halves inside a value, if it is one. -/
def ragged? : Value → Option Text.Ragged
  | ragged r => some r
  | _ => none

/-- The text of code points. -/
def ofPoints (points : List Text.Point) : Value :=
  if h : (Text.joinPairs points).any Text.Point.isHalf = true then
    ragged ⟨Text.joinPairs points, h, Text.joinPairs_joinPairs points⟩
  else text (Text.ofPoints points)

/-- The member of a name, null if there is none. -/
def member (members : List (String × Value)) (name : String) : Value :=
  (members.lookup name).getD null

/-- The given one of two values, the first if both are. -/
def orElse (v : Value) (other : Value) : Value :=
  if v.isGiven then v else other

theorem ofPoints_of_text {points : List Text.Point} {s : String}
    (h : Text.joinPairs points = s.toList.map .char) : ofPoints points = text s := by
  have hany : (Text.joinPairs points).any Text.Point.isHalf = false := by
    rw [h, List.any_map, List.any_eq_false]
    exact fun _ _ => nofun
  rw [ofPoints, dif_neg (by simp [hany]), Text.ofPoints_of_text h]

theorem ofPoints_of_ragged {points : List Text.Point} {r : Text.Ragged}
    (h : Text.joinPairs points = r.points) : ofPoints points = ragged r := by
  have hany : (Text.joinPairs points).any Text.Point.isHalf = true := h ▸ r.hasHalf
  rw [ofPoints, dif_pos hany]
  exact congrArg ragged (Text.Ragged.ext h)

theorem isGiven_text {s : String} : (text s).isGiven = !s.isEmpty := rfl

end Value
end DefaultCredentials
