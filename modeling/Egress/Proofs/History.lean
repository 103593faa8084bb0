import Mathlib.Data.List.Basic
import Egress.Agent

/-!
# Histories

A bounded history forgets its oldest regions, and forgetting them now or later comes to the same.
So after as many moves as the bound admits, a history holds nothing but regions left since.
-/

namespace Egress.Agent

theorem recent_recent_append (bound : Option Nat) (history later : List Int) :
    recent bound (recent bound history ++ later) = recent bound (history ++ later) := by
  cases bound with
  | none => rfl
  | some most =>
    have early : history.length - most ≤ history.length := Nat.sub_le _ _
    dsimp only [recent]
    rw [← List.drop_append_of_le_length early, List.drop_drop]
    congr 1
    simp only [List.length_drop, List.length_append]
    omega

variable {bound : Option Nat} {history : Nat → List Int} {place : Nat → Int}

/-- A history after some moves holds the most recent regions of the history before and the regions
left since. -/
theorem history_after
    (left : ∀ time, history (time + 1) = recent bound (history time ++ [place time]))
    (start count : Nat) :
    history (start + (count + 1)) = recent bound (history start ++
      (List.range (count + 1)).map fun step => place (start + step)) := by
  induction count with
  | zero => exact left start
  | succ count hypothesis =>
    have next := left (start + (count + 1))
    rw [hypothesis, recent_recent_append, List.append_assoc] at next
    rw [List.range_succ, List.map_append]
    exact next

theorem mem_of_mem_recent {most : Nat} {old new : List Int} (enough : most ≤ new.length)
    {region : Int} (member : region ∈ recent (some most) (old ++ new)) : region ∈ new := by
  dsimp only [recent] at member
  rw [List.drop_append, List.drop_eq_nil_of_le, List.nil_append] at member
  · exact List.mem_of_mem_drop member
  · rw [List.length_append]
    omega

/-- A bounded history comes to hold only regions of a kind if only such regions are left. -/
theorem history_forgets {most : Nat}
    (left : ∀ time, history (time + 1) = recent (some most) (history time ++ [place time]))
    {kind : Int → Prop} {start : Nat} (kept : ∀ time, start ≤ time → kind (place time)) :
    ∀ time, start + (most + 1) ≤ time → ∀ region ∈ history time, kind region := by
  intro time reached region member
  rcases Nat.exists_eq_add_of_le reached with ⟨extra, rfl⟩
  have whole := history_after left start (most + extra)
  rw [show start + (most + extra + 1) = start + (most + 1) + extra by omega] at whole
  rw [whole] at member
  have inNew := mem_of_mem_recent (by rw [List.length_map, List.length_range]; omega) member
  rcases List.mem_map.mp inNew with ⟨step, -, rfl⟩
  exact kept _ (Nat.le_add_right _ _)

end Egress.Agent
