import Egress.Fault

/-!
# Settings and overrides

Settings are the defaults with overrides laid over them: key by key, and category by category
inside the factor table.  What sensors multiply costs by is checked here, so that a bad factor is
refused before any agent is routed: every category factor and the two penalty factors must be
positive, and the smoke scale must not be negative.  Each test is a comparison that has to
succeed, so an undefined number fails it too.

Unknown keys are kept; unknown categories are refused.
-/

namespace Egress

/-- A complete set of values: one for each setting and each category. -/
structure Settings (α : Type) where
  value : Setting → Value α
  categoryFactor : Category → Value α
  /-- Overrides under keys that name no setting, in the order given. -/
  extras : List (Value α × Value α)

namespace Settings

variable {α : Type} [Scalar α]

/-- The factor for moving into a region of another category. -/
def defaultCategoryFactor : Category → Value α
  | .corridor | .stair | .floor => .real 0.3
  | .lobby => .real 0.2
  | .entrance => .real 0.1
  | .escalatorUp | .escalatorDown | .deadArea | .unknown => .real 5.0

def defaults : Settings α := ⟨Setting.default, defaultCategoryFactor, []⟩

/-- The key of the category table. -/
def categoryKey : String := "category_factors"

/-- A setting as a number to compute with. -/
def number (settings : Settings α) (setting : Setting) : Except (Fault α) α :=
  (settings.value setting).number

/-- A setting as a number to compare with. -/
def bound (settings : Settings α) (setting : Setting) : Except (Fault α) α :=
  match (settings.value setting).number? with
  | some value => .ok value
  | none => .error .wrongType

/-- Refuse a value that is not above zero. -/
def requirePositive (value : Value α) (fault : Fault α) : Except (Fault α) Unit :=
  match value.number? with
  | some number => if Scalar.zero < number then .ok () else .error fault
  | none => .error .wrongType

/-- Refuse a value below zero. -/
def requireNonnegative (value : Value α) (fault : Fault α) : Except (Fault α) Unit :=
  match value.number? with
  | some number => if Scalar.zero ≤ number then .ok () else .error fault
  | none => .error .wrongType

/-- Whether a key of the category table names a category. -/
def namesCategory (key : Value α) : Bool :=
  Category.tableOrder.any fun category => key.sameKey (.text category.label)

/-- Whether a key names a setting or the category table. -/
def namesSetting (key : Value α) : Bool :=
  key.sameKey (.text categoryKey) ||
    Setting.all.any fun setting => key.sameKey (.text setting.key)

/-- The entries of the category table among the overrides. -/
def categoryOverrides (overrides : List (Value α × Value α)) :
    Except (Fault α) (List (Value α × Value α)) :=
  match Value.field? overrides categoryKey with
  | none => .ok []
  | some (.mapping entries) => .ok entries
  | some _ => .error .wrongType

/-- The tests that every set of values passes before it is used. -/
def check (settings : Settings α) (categories : List (Value α × Value α)) :
    Except (Fault α) Unit := do
  Category.tableOrder.forM fun category =>
    requirePositive (settings.categoryFactor category)
      (.categoryFactorNotPositive category (settings.categoryFactor category))
  match categories.find? fun entry => !namesCategory entry.1 with
  | some entry => throw (.unknownCategory entry.1)
  | none => pure ()
  for setting in [Setting.blockedFactor, Setting.returnFactor] do
    requirePositive (settings.value setting) (.notPositive setting (settings.value setting))
  requireNonnegative (settings.value .smokeScale)
    (.negative .smokeScale (settings.value .smokeScale))

/-- Lay the entries of a mapping over the defaults. -/
def ofEntries (overrides : List (Value α × Value α)) : Except (Fault α) (Settings α) := do
  let categories ← categoryOverrides overrides
  let settings : Settings α :=
    { value := fun setting => (Value.field? overrides setting.key).getD setting.default
      categoryFactor := fun category =>
        (Value.field? categories category.label).getD (defaultCategoryFactor category)
      extras := overrides.filter fun entry => !namesSetting entry.1 }
  settings.check categories
  return settings

/-- Settings from a value: nothing, or anything that counts as false, overrides nothing. -/
def ofOverrides (overrides : Value α) : Except (Fault α) (Settings α) :=
  if overrides.truthy then
    match overrides with
    | .mapping entries => ofEntries entries
    | _ => .error .wrongType
  else ofEntries []

/-- All values with their keys, as a mapping that overrides every default. -/
def toEntries (settings : Settings α) : List (Value α × Value α) :=
  (.text categoryKey, .mapping (Category.tableOrder.map fun category =>
      (.text category.label, settings.categoryFactor category))) ::
    Setting.all.map (fun setting => (.text setting.key, settings.value setting)) ++
    settings.extras

end Settings

end Egress
