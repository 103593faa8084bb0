import Egress.Value

/-!
# The settings by name

Each setting other than the category table has a key, by which overrides name it, and a default.
-/

namespace Egress

inductive Setting where
  /-- How strongly smoke raises a cost: a factor is one plus this times the density. -/
  | smokeScale
  /-- The factor of a blocked door, finite so that weights stay comparable. -/
  | blockedFactor
  /-- The factor for turning back into a region just left. -/
  | returnFactor
  /-- How many regions just left an agent remembers. -/
  | memory
  /-- The least geometric cost of a connection, in metres. -/
  | costFloor
  | weightFloor
  | weightCeiling
  /-- Whether new agents know the whole building. -/
  | fullKnowledge
  /-- How many calls of the smoke simulation make one spread cycle. -/
  | spreadDelay
  /-- The chance that smoke crosses a connection in one cycle. -/
  | spreadChance
  /-- The density at which smoke first appears in a region. -/
  | firstDensity
  /-- What a cycle adds to the density of a smoky region. -/
  | growth
  | verbose
  deriving Repr, DecidableEq, Inhabited

namespace Setting

def key : Setting → String
  | smokeScale => "smoke_factor_scale"
  | blockedFactor => "blocked_factor"
  | returnFactor => "last_destinations_factor"
  | memory => "last_destinations_memory"
  | costFloor => "min_base_cost"
  | weightFloor => "min_effective_weight"
  | weightCeiling => "max_effective_weight"
  | fullKnowledge => "full_knowledge"
  | spreadDelay => "smoke_spread_delay"
  | spreadChance => "smoke_spread_prob"
  | firstDensity => "smoke_density_base"
  | growth => "smoke_density_growth"
  | verbose => "verbose"

def all : List Setting :=
  [smokeScale, blockedFactor, returnFactor, memory, costFloor, weightFloor, weightCeiling,
    fullKnowledge, spreadDelay, spreadChance, firstDensity, growth, verbose]

/-- The setting with a given key. -/
def ofKey? (text : String) : Option Setting := all.find? fun setting => setting.key == text

variable {α : Type} [Scalar α]

def default : Setting → Value α
  | smokeScale => .real 10.0
  | blockedFactor => .real 1000.0
  | returnFactor => .real 2.0
  | memory => .int 3
  | costFloor => .real 0.1
  | weightFloor => .real 1e-6
  | weightCeiling => .real 1e12
  | fullKnowledge => .bool true
  | spreadDelay => .int 5
  | spreadChance => .real 0.5
  | firstDensity => .real 0.3
  | growth => .real 0.1
  | verbose => .bool false

theorem ofKey?_key (setting : Setting) : ofKey? setting.key = some setting := by
  cases setting <;> decide

end Setting

end Egress
