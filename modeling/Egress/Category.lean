/-!
# Region categories

A category is a coarse description of what a region is used for.  Sensors compare categories to
decide which doors are attractive.  Two orders matter: the vocabulary is listed in one order in
messages, and the factor table is checked in another.
-/

namespace Egress

inductive Category where
  | floor
  | corridor
  | stair
  | lobby
  | entrance
  | escalatorUp
  | escalatorDown
  | deadArea
  | unknown
  deriving Repr, DecidableEq, Inhabited

namespace Category

/-- The word for a category in floor plans and settings. -/
def label : Category → String
  | floor => "floor"
  | corridor => "corridor"
  | stair => "stair"
  | lobby => "lobby"
  | entrance => "entrance"
  | escalatorUp => "escalator_up"
  | escalatorDown => "escalator_down"
  | deadArea => "dead_area"
  | unknown => "unknown"

/-- All categories, in the order in which the vocabulary is listed. -/
def vocabulary : List Category :=
  [floor, corridor, stair, lobby, entrance, escalatorUp, escalatorDown, deadArea, unknown]

/-- All categories, in the order in which the factor table lists them. -/
def tableOrder : List Category :=
  [corridor, stair, floor, lobby, entrance, escalatorUp, escalatorDown, deadArea, unknown]

/-- The category with a given label. -/
def ofLabel? (text : String) : Option Category :=
  vocabulary.find? fun category => category.label == text

theorem mem_vocabulary (category : Category) : category ∈ vocabulary := by
  cases category <;> decide

theorem mem_tableOrder (category : Category) : category ∈ tableOrder := by
  cases category <;> decide

theorem ofLabel?_label (category : Category) : ofLabel? category.label = some category := by
  cases category <;> decide

theorem label_of_ofLabel? {text : String} {category : Category}
    (found : ofLabel? text = some category) : category.label = text := by
  have matched := List.find?_some found
  simpa using matched

end Category

end Egress
