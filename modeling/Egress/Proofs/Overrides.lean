import Egress.Proofs.Doubles.Order
import Egress.Proofs.Factors
import Egress.Proofs.Numerals

/-!
# Laying overrides over the defaults

Overrides are a mapping with distinct keys.  They are accepted exactly if each category in their
table is a known one and each number that sensors multiply costs by has the sign that it should
have; the defaults always have it.  The result holds every default key, with the value of the
override where there is one, and behind them the keys that name no setting.  Its category table is
complete, and is laid over the default table entry by entry.

Every part of the planner lays what it is given over the defaults once more.  Nothing comes of that:
a complete mapping that was accepted is accepted again, as it is.
-/

namespace Egress

open Scalar

variable {α : Type} [Scalar α]

/-! ## Keys -/

namespace Value

/-- The keys of a mapping are pairwise different. -/
def DistinctKeys (entries : List (Value α × Value α)) : Prop :=
  entries.Pairwise fun earlier later => earlier.1.sameKey later.1 = false

variable {key : Value α} {name : String} {entries : List (Value α × Value α)}

theorem sameKey_text_iff : key.sameKey (.text name) = true ↔ key = .text name := by
  cases key <;> simp [sameKey, wholeKey?, integer?]

theorem text_sameKey_iff : (text name).sameKey key = true ↔ .text name = key := by
  cases key <;> simp [sameKey, wholeKey?, integer?]

theorem field?_eq_none_iff :
    field? entries name = none ↔ ∀ value, (.text name, value) ∉ entries := by
  rw [field?, Option.map_eq_none_iff, List.find?_eq_none]
  simp only [sameKey_text_iff, Prod.forall]
  constructor
  · exact fun absent value member => absent _ value member rfl
  · rintro absent _ value member rfl
    exact absent value member

/-- Where keys are distinct, the entry under a text is the one that there is. -/
theorem field?_eq_some_iff (distinct : DistinctKeys entries) {value : Value α} :
    field? entries name = some value ↔ (.text name, value) ∈ entries := by
  induction entries with
  | nil => exact iff_of_false nofun List.not_mem_nil
  | cons entry rest hypothesis =>
    rcases entry with ⟨key, found⟩
    rcases List.pairwise_cons.mp distinct with ⟨apart, others⟩
    rw [List.mem_cons, Prod.mk.injEq, field?, List.find?_cons]
    by_cases same : key = .text name
    · have absent : (.text name, value) ∉ rest := by
        intro member
        have impossible := apart _ member
        rw [same, sameKey_text_iff.mpr rfl] at impossible
        cases impossible
      rw [sameKey_text_iff.mpr same, same, Option.map_some, Option.some.injEq]
      simp [absent, eq_comm]
    · rw [Bool.eq_false_iff.mpr (mt sameKey_text_iff.mp same)]
      simp only [Ne.symm same, false_and, false_or]
      exact hypothesis others

theorem getD_field?_of_mem (distinct : DistinctKeys entries) {value : Value α}
    (member : (.text name, value) ∈ entries) (usual : Value α) :
    (field? entries name).getD usual = value := by
  rw [(field?_eq_some_iff distinct).mpr member]
  rfl

theorem getD_field?_of_absent (absent : ∀ value, (.text name, value) ∉ entries)
    (usual : Value α) : (field? entries name).getD usual = usual := by
  rw [field?_eq_none_iff.mpr absent]
  rfl

/-- What stands under a name, or else a default, has a property that the default has if every entry
under the name has it. -/
theorem getD_field?_iff (distinct : DistinctKeys entries) {usual : Value α}
    {holds : Value α → Prop} (holdsUsual : holds usual) :
    holds ((field? entries name).getD usual) ↔
      ∀ value, (.text name, value) ∈ entries → holds value := by
  constructor
  · intro found value member
    rwa [getD_field?_of_mem distinct member] at found
  · intro given
    cases found : field? entries name with
    | none => exact holdsUsual
    | some value => exact given value ((field?_eq_some_iff distinct).mp found)

end Value

open Value

namespace Settings

variable {key : Value α} {overrides categories : List (Value α × Value α)} {settings : Settings α}

theorem namesCategory_iff :
    namesCategory key = true ↔ ∃ category : Category, key = .text category.label := by
  rw [namesCategory, List.any_eq_true]
  simp only [sameKey_text_iff, Category.mem_tableOrder, true_and]

theorem namesSetting_iff : namesSetting key = true ↔
    key = .text categoryKey ∨ ∃ setting : Setting, key = .text setting.key := by
  have all : ∀ setting, setting ∈ Setting.all := by
    intro setting
    cases setting <;> decide
  rw [namesSetting, Bool.or_eq_true, List.any_eq_true]
  simp only [sameKey_text_iff, all, true_and]

/-! ## Which overrides are accepted -/

/-- What the checks ask of numbers: integers have their signs, and the defaults pass. -/
class LawfulChecks (α : Type) [Scalar α] : Prop where
  zero_lt_ofInt_iff (count : Int) : (zero : α) < ofInt count ↔ 0 < count
  zero_le_ofInt_iff (count : Int) : (zero : α) ≤ ofInt count ↔ 0 ≤ count
  defaults_pass : (defaults : Settings α).check [] = .ok ()

end Settings

namespace Value

/-- A number above zero.  An undefined number is not. -/
def Positive : Value α → Prop
  | .bool value => value = true
  | .int value => 0 < value
  | .real value => zero < value
  | _ => False

/-- A number that is not below zero.  An undefined number is none either. -/
def Nonnegative : Value α → Prop
  | .bool _ => True
  | .int value => 0 ≤ value
  | .real value => zero ≤ value
  | _ => False

variable [Settings.LawfulChecks α] {value : Value α}

theorem positive_iff : value.Positive ↔ ∃ number, value.number? = some number ∧ zero < number := by
  cases value with
  | bool value =>
    cases value <;> simp [Positive, number?, boolInt, Settings.LawfulChecks.zero_lt_ofInt_iff]
  | int value => simp [Positive, number?, Settings.LawfulChecks.zero_lt_ofInt_iff]
  | real value => simp [Positive, number?]
  | null | text _ | bytes _ | moment _ | list _ | mapping _ | endless => simp [Positive, number?]

theorem nonnegative_iff :
    value.Nonnegative ↔ ∃ number, value.number? = some number ∧ zero ≤ number := by
  cases value with
  | bool value =>
    cases value <;> simp [Nonnegative, number?, boolInt, Settings.LawfulChecks.zero_le_ofInt_iff]
  | int value => simp [Nonnegative, number?, Settings.LawfulChecks.zero_le_ofInt_iff]
  | real value => simp [Nonnegative, number?]
  | null | text _ | bytes _ | moment _ | list _ | mapping _ | endless => simp [Nonnegative, number?]

end Value

namespace Settings

variable {key : Value α} {overrides categories : List (Value α × Value α)} {settings : Settings α}

section Checks

variable [LawfulChecks α] {value : Value α} {fault : Fault α}

theorem requirePositive_iff : requirePositive value fault = .ok () ↔ value.Positive := by
  rw [Value.positive_iff]
  refine ⟨requirePositive_eq_ok, ?_⟩
  rintro ⟨number, isNumber, above⟩
  rw [requirePositive, isNumber]
  exact if_pos above

theorem requireNonnegative_iff : requireNonnegative value fault = .ok () ↔ value.Nonnegative := by
  rw [Value.nonnegative_iff]
  refine ⟨requireNonnegative_eq_ok, ?_⟩
  rintro ⟨number, isNumber, notBelow⟩
  rw [requireNonnegative, isNumber]
  exact if_pos notBelow

/-- What the checks look for. -/
structure Passes (settings : Settings α) (categories : List (Value α × Value α)) : Prop where
  known : ∀ entry ∈ categories, ∃ category : Category, entry.1 = .text category.label
  factors : ∀ category, (settings.categoryFactor category).Positive
  penalties : ∀ setting ∈ [Setting.blockedFactor, .returnFactor], (settings.value setting).Positive
  scale : (settings.value .smokeScale).Nonnegative

theorem passes_iff : settings.Passes categories ↔ settings.check categories = .ok () := by
  rw [check_eq_ok_iff]
  simp only [requirePositive_iff, requireNonnegative_iff, namesCategory_iff]
  constructor
  · exact fun passes => ⟨passes.factors, passes.known, passes.penalties, passes.scale⟩
  · exact fun ⟨factors, known, penalties, scale⟩ => ⟨known, factors, penalties, scale⟩

end Checks

/-! ## What becomes of them -/

/-- Overrides are a mapping, and so is their category table if there is one. -/
structure IsLayer (overrides categories : List (Value α × Value α)) : Prop where
  distinct : DistinctKeys overrides
  distinctCategories : DistinctKeys categories
  table : (.text categoryKey, .mapping categories) ∈ overrides ∨
    categories = [] ∧ ∀ value, (.text categoryKey, value) ∉ overrides

/-- The settings that overrides make if they pass the checks. -/
def laid (overrides categories : List (Value α × Value α)) : Settings α where
  value setting := (field? overrides setting.key).getD setting.default
  categoryFactor category :=
    (field? categories category.label).getD (defaultCategoryFactor category)
  extras := overrides.filter fun entry => !namesSetting entry.1

theorem laid_value (setting : Setting) : (laid overrides categories).value setting =
    (field? overrides setting.key).getD setting.default := rfl

theorem laid_categoryFactor (category : Category) :
    (laid overrides categories).categoryFactor category =
      (field? categories category.label).getD (defaultCategoryFactor category) := rfl

theorem ofOverrides_mapping (overrides : List (Value α × Value α)) :
    ofOverrides (.mapping overrides) = ofEntries overrides := by
  cases overrides with
  | nil => rfl
  | cons entry rest => rfl

theorem IsLayer.categoryOverrides_eq (layer : IsLayer overrides categories) :
    categoryOverrides overrides = .ok categories := by
  unfold categoryOverrides
  rcases layer.table with member | ⟨rfl, absent⟩
  · rw [(field?_eq_some_iff layer.distinct).mpr member]
  · rw [field?_eq_none_iff.mpr absent]

theorem IsLayer.made_iff (layer : IsLayer overrides categories) :
    ofOverrides (.mapping overrides) = .ok settings ↔
      settings = laid overrides categories ∧ settings.check categories = .ok () := by
  have made : ofOverrides (.mapping overrides) =
      ((laid overrides categories).check categories).bind fun _ =>
        .ok (laid overrides categories) := by
    rw [ofOverrides_mapping, ofEntries, layer.categoryOverrides_eq]
    rfl
  rw [made, bind_eq_ok]
  constructor
  · rintro ⟨_, passed, same⟩
    cases same
    exact ⟨rfl, passed⟩
  · rintro ⟨rfl, passed⟩
    exact ⟨(), passed, rfl⟩

/-- The conditions under which overrides are accepted. -/
structure Acceptable (overrides categories : List (Value α × Value α)) : Prop where
  known : ∀ entry ∈ categories, ∃ category : Category, entry.1 = .text category.label
  factors : ∀ entry ∈ categories, entry.2.Positive
  penalties : ∀ setting ∈ [Setting.blockedFactor, .returnFactor], ∀ value,
    (.text setting.key, value) ∈ overrides → value.Positive
  scale : ∀ value, (.text Setting.smokeScale.key, value) ∈ overrides → value.Nonnegative

theorem IsLayer.passes_laid_iff [LawfulChecks α] (layer : IsLayer overrides categories) :
    (laid overrides categories).Passes categories ↔ Acceptable overrides categories := by
  have usual : (defaults : Settings α).Passes [] := passes_iff.mpr LawfulChecks.defaults_pass
  have factors : ∀ category : Category,
      ((laid overrides categories).categoryFactor category).Positive ↔
        ∀ value, (.text category.label, value) ∈ categories → value.Positive :=
    fun category => getD_field?_iff layer.distinctCategories (usual.factors category)
  have penalties : ∀ setting ∈ [Setting.blockedFactor, .returnFactor],
      (((laid overrides categories).value setting).Positive ↔
        ∀ value, (.text setting.key, value) ∈ overrides → value.Positive) :=
    fun setting member => getD_field?_iff layer.distinct (usual.penalties setting member)
  have scale : ((laid overrides categories).value .smokeScale).Nonnegative ↔
      ∀ value, (.text Setting.smokeScale.key, value) ∈ overrides → value.Nonnegative :=
    getD_field?_iff layer.distinct usual.scale
  constructor
  · intro passes
    refine ⟨passes.known, ?_, fun setting member =>
      (penalties setting member).mp (passes.penalties setting member), scale.mp passes.scale⟩
    rintro ⟨key, value⟩ member
    rcases passes.known _ member with ⟨category, rfl⟩
    exact (factors category).mp (passes.factors category) value member
  · intro acceptable
    refine ⟨acceptable.known, fun category => (factors category).mpr fun value member =>
      acceptable.factors _ member, fun setting member =>
        (penalties setting member).mpr (acceptable.penalties setting member),
      scale.mpr acceptable.scale⟩

/-! ## A complete mapping -/

/-- The category table as a mapping. -/
def table (settings : Settings α) : List (Value α × Value α) :=
  Category.tableOrder.map fun category => (.text category.label, settings.categoryFactor category)

omit [Scalar α] in
theorem mem_table (settings : Settings α) (category : Category) :
    (.text category.label, settings.categoryFactor category) ∈ settings.table :=
  List.mem_map_of_mem category.mem_tableOrder

theorem distinctKeys_table (settings : Settings α) : DistinctKeys settings.table := by
  have labels : Category.tableOrder.Pairwise fun earlier later =>
      (earlier.label == later.label) = false := by
    decide
  exact List.pairwise_map.mpr labels

omit [Scalar α] in
theorem mem_toEntries_table (settings : Settings α) :
    (.text categoryKey, .mapping settings.table) ∈ settings.toEntries :=
  List.mem_cons_self

omit [Scalar α] in
theorem mem_toEntries_value (settings : Settings α) (setting : Setting) :
    (.text setting.key, settings.value setting) ∈ settings.toEntries := by
  refine List.mem_append_left _ (List.mem_cons_of_mem _ (List.mem_map_of_mem ?_))
  cases setting <;> decide

omit [Scalar α] in
theorem mem_toEntries_extras {entry : Value α × Value α} (member : entry ∈ settings.extras) :
    entry ∈ settings.toEntries :=
  List.mem_append_right _ member

/-- Under keys that name no setting, settings are a mapping with distinct keys. -/
structure Sundry (settings : Settings α) : Prop where
  distinct : DistinctKeys settings.extras
  unnamed : ∀ entry ∈ settings.extras, namesSetting entry.1 = false

namespace Sundry

variable (sundry : settings.Sundry)

include sundry

/-- The other entries of the settings stand under the keys of settings. -/
theorem filter_eq :
    (settings.toEntries.filter fun entry => !namesSetting entry.1) = settings.extras := by
  rw [toEntries, List.filter_append, List.filter_eq_nil_iff.mpr, List.nil_append,
    List.filter_eq_self]
  · intro entry member
    rw [sundry.unnamed entry member]
    rfl
  · intro entry member
    rw [Bool.not_eq_true', Bool.not_eq_false, namesSetting_iff]
    rcases List.mem_cons.mp member with rfl | isSetting
    · exact Or.inl rfl
    · rcases List.mem_map.mp isSetting with ⟨setting, -, rfl⟩
      exact Or.inr ⟨setting, rfl⟩

theorem distinctKeys_toEntries : DistinctKeys settings.toEntries := by
  have names : ∀ setting ∈ Setting.all, (categoryKey == setting.key) = false := by decide
  have keys : Setting.all.Pairwise fun earlier later => (earlier.key == later.key) = false := by
    decide
  refine List.pairwise_append.mpr ⟨List.pairwise_cons.mpr
    ⟨List.forall_mem_map.mpr names, List.pairwise_map.mpr keys⟩, sundry.distinct, ?_⟩
  -- The key of a setting and a key that names none are different.
  intro entry member extra isExtra
  have unnamed := sundry.unnamed extra isExtra
  rw [Bool.eq_false_iff, ne_eq, namesSetting_iff, not_or, not_exists] at unnamed
  rcases List.mem_cons.mp member with rfl | isSetting
  · exact Bool.eq_false_iff.mpr fun same => unnamed.1 (text_sameKey_iff.mp same).symm
  · rcases List.mem_map.mp isSetting with ⟨setting, -, rfl⟩
    exact Bool.eq_false_iff.mpr fun same => unnamed.2 setting (text_sameKey_iff.mp same).symm

theorem isLayer : IsLayer settings.toEntries settings.table where
  distinct := sundry.distinctKeys_toEntries
  distinctCategories := settings.distinctKeys_table
  table := Or.inl settings.mem_toEntries_table

/-- Laid over the defaults, a complete mapping leaves nothing of them. -/
theorem laid_toEntries : laid settings.toEntries settings.table = settings := by
  have values : (laid settings.toEntries settings.table).value = settings.value :=
    funext fun setting => getD_field?_of_mem sundry.distinctKeys_toEntries
      (settings.mem_toEntries_value setting) _
  have factors : (laid settings.toEntries settings.table).categoryFactor =
      settings.categoryFactor :=
    funext fun category => getD_field?_of_mem settings.distinctKeys_table
      (settings.mem_table category) _
  calc laid settings.toEntries settings.table
      = ⟨settings.value, settings.categoryFactor, settings.extras⟩ := by
        rw [← values, ← factors, ← sundry.filter_eq]
        rfl
    _ = settings := rfl

/-- Settings that passed the checks are made again of their own entries. -/
theorem made_again (passed : settings.check categories = .ok ()) :
    ofOverrides (.mapping settings.toEntries) = .ok settings := by
  rcases check_eq_ok_iff.mp passed with ⟨factors, -, others⟩
  refine sundry.isLayer.made_iff.mpr ⟨sundry.laid_toEntries.symm,
    check_eq_ok_iff.mpr ⟨factors, fun entry member => ?_, others⟩⟩
  rcases List.mem_map.mp member with ⟨category, -, rfl⟩
  exact namesCategory_iff.mpr ⟨category, rfl⟩

end Sundry

/-! ## The result -/

/-- What settings hold that overrides were laid into. -/
structure Merged (overrides categories : List (Value α × Value α)) (settings : Settings α) :
    Prop where
  /-- The keys are the default ones, and behind them those of the overrides that name no setting. -/
  keys : settings.toEntries.map Prod.fst = (defaults : Settings α).toEntries.map Prod.fst ++
    (overrides.map Prod.fst).filter fun key => !namesSetting key
  distinct : DistinctKeys settings.toEntries
  given : ∀ entry ∈ overrides, entry.1 ≠ .text categoryKey → entry ∈ settings.toEntries
  otherwise : ∀ setting : Setting, (∀ value, (.text setting.key, value) ∉ overrides) →
    (.text setting.key, setting.default) ∈ settings.toEntries
  table_mem : (.text categoryKey, .mapping settings.table) ∈ settings.toEntries
  /-- The category table has an entry for each category and no other. -/
  complete : settings.table.map Prod.fst =
    Category.tableOrder.map fun category => .text category.label
  wins : ∀ entry ∈ categories, entry ∈ settings.table
  fills : ∀ category : Category, (∀ value, (.text category.label, value) ∉ categories) →
    (.text category.label, defaultCategoryFactor category) ∈ settings.table

/-- The settings that come of laying settings over the defaults time and again. -/
def relaid : Nat → Settings α → Except (Fault α) (Settings α)
  | 0, settings => .ok settings
  | times + 1, settings => do relaid times (← ofOverrides (.mapping settings.toEntries))

namespace IsLayer

variable (layer : IsLayer overrides categories)

include layer

theorem sundry : (laid overrides categories).Sundry where
  distinct := layer.distinct.filter _
  unnamed entry member := by
    have unnamed := (List.mem_filter.mp member).2
    rwa [Bool.not_eq_true'] at unnamed

theorem merged (known : ∀ entry ∈ categories, namesCategory entry.1 = true) :
    Merged overrides categories (laid overrides categories) := by
  refine ⟨?_, layer.sundry.distinctKeys_toEntries, ?_, ?_, mem_toEntries_table _, ?_, ?_, ?_⟩
  · rw [List.filter_map]
    rfl
  · rintro ⟨key, value⟩ member notTable
    by_cases named : namesSetting key = true
    · rcases namesSetting_iff.mp named with rfl | ⟨setting, rfl⟩
      · exact absurd rfl notTable
      · have entry := (laid overrides categories).mem_toEntries_value setting
        rwa [laid_value, getD_field?_of_mem layer.distinct member] at entry
    · refine mem_toEntries_extras (List.mem_filter.mpr ⟨member, ?_⟩)
      rw [Bool.not_eq_true', Bool.eq_false_iff]
      exact named
  · intro setting absent
    have entry := (laid overrides categories).mem_toEntries_value setting
    rwa [laid_value, getD_field?_of_absent absent] at entry
  · exact List.map_map
  · rintro ⟨key, value⟩ member
    rcases namesCategory_iff.mp (known _ member) with ⟨category, rfl⟩
    have entry := (laid overrides categories).mem_table category
    rwa [laid_categoryFactor, getD_field?_of_mem layer.distinctCategories member] at entry
  · intro category absent
    have entry := (laid overrides categories).mem_table category
    rwa [laid_categoryFactor, getD_field?_of_absent absent] at entry

end IsLayer

/-- Overrides are accepted exactly if their numbers are.  They are then merged into the defaults,
and laying the result over the defaults again, any number of times, changes nothing. -/
theorem overrides_settle [LawfulChecks α] (layer : IsLayer overrides categories) :
    ((∃ settings, ofOverrides (.mapping overrides) = .ok settings) ↔
      Acceptable overrides categories) ∧
    ∀ settings, ofOverrides (.mapping overrides) = .ok settings →
      Merged overrides categories settings ∧ ∀ times, relaid times settings = .ok settings := by
  refine ⟨?_, fun settings made => ?_⟩
  · rw [← layer.passes_laid_iff, passes_iff]
    constructor
    · rintro ⟨settings, made⟩
      rcases layer.made_iff.mp made with ⟨rfl, passed⟩
      exact passed
    · exact fun passed => ⟨_, layer.made_iff.mpr ⟨rfl, passed⟩⟩
  · rcases layer.made_iff.mp made with ⟨rfl, passed⟩
    refine ⟨layer.merged (check_eq_ok_iff.mp passed).2.1, fun times => ?_⟩
    induction times with
    | zero => rfl
    | succ times hypothesis =>
      rw [relaid, layer.sundry.made_again passed]
      exact hypothesis

section Doubles

open Doubles

theorem zero_lt_ofNat {count : Nat} (positive : 0 < count) : zero < Float.ofNat count := by
  match count with
  | 1 => decide +kernel
  | count + 2 =>
    have above : one < Float.ofNat (count + 2) := one_lt_of_several (several_ofNat (by omega))
    exact lt_trans_of_lt (by decide +kernel) above

theorem not_zero_le_negSucc (count : Nat) : ¬ zero ≤ Float.ofInt (Int.negSucc count) := by
  cases count with
  | zero => decide +kernel
  | succ count => exact not_zero_le_neg (several_ofNat (by omega))

instance : LawfulChecks Float where
  zero_lt_ofInt_iff := by
    rintro ((_ | count) | count)
    · decide +kernel
    · exact iff_of_true (zero_lt_ofNat (Nat.succ_pos count)) (Int.natCast_pos.mpr count.succ_pos)
    · exact iff_of_false (mt le_of_less (not_zero_le_negSucc count)) (by omega)
  zero_le_ofInt_iff := by
    rintro ((_ | count) | count)
    · decide +kernel
    · exact iff_of_true (le_of_less (zero_lt_ofNat (Nat.succ_pos count))) (Int.natCast_nonneg _)
    · exact iff_of_false (not_zero_le_negSucc count) (by omega)
  defaults_pass := eq_ok_of_isOk (by decide +kernel) ()

end Doubles

/-- Numbers of every kind, an infinite one among them, an undefined number under a key that names
no setting, and some of the categories. -/
def mixedOverrides : List (Value Float × Value Float) := [
  (.text "category_factors", .mapping [(.text "stair", .real 0.5), (.text "lobby", .int 2)]),
  (.text "blocked_factor", .real (1.0 / 0.0)),
  (.text "depth", .real (0.0 / 0.0)),
  (.int 7, .null),
  (.text "smoke_factor_scale", .bool false)]

/-- An undefined factor. -/
def undefinedOverrides : List (Value Float × Value Float) := [
  (.text "blocked_factor", .real (0.0 / 0.0))]

theorem overrides_settle_mixed :
    (∃ settings, ofOverrides (.mapping mixedOverrides) = .ok settings ∧
      Merged mixedOverrides [(.text "stair", .real 0.5), (.text "lobby", .int 2)] settings ∧
      ∀ times, relaid times settings = .ok settings) ∧
    ¬ ∃ settings, ofOverrides (.mapping undefinedOverrides) = .ok settings := by
  have mixed : IsLayer mixedOverrides [(.text "stair", .real 0.5), (.text "lobby", .int 2)] := by
    refine ⟨?_, ?_, Or.inl List.mem_cons_self⟩
    · unfold DistinctKeys
      decide +kernel
    · unfold DistinctKeys
      decide +kernel
  have undefined : IsLayer undefinedOverrides [] := by
    refine ⟨List.pairwise_singleton _ _, .nil, Or.inr ⟨rfl, ?_⟩⟩
    simp [undefinedOverrides, categoryKey]
  have succeeds : (ofOverrides (.mapping mixedOverrides)).isOk = true := by decide +kernel
  have made := ofOverrides_of_isOk succeeds
  refine ⟨⟨_, made, (overrides_settle mixed).2 _ made⟩, fun succeeded => ?_⟩
  have acceptable := (overrides_settle undefined).1.mp succeeded
  have positive := acceptable.penalties .blockedFactor (by decide) _ List.mem_cons_self
  have notAbove : ¬ (zero : Float) < 0.0 / 0.0 := by decide +kernel
  exact notAbove positive

end Settings

end Egress
