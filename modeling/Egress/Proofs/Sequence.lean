import Mathlib.Data.List.Induction

/-!
# What lasts in a sequence

What an entry of a sequence brings about lasts if no later entry ends it.  Sequences grow at their
end, so with one entry more, either this entry begins something, or it ends what lasted before, or
that still lasts.  In the same way the first occurrences in a sequence grow by the last entry, or do
not grow because it occurred before.
-/

namespace Egress

variable {β : Type} {ends : β → Prop} {entries early : List β} {entry last : β}

/-- An entry of a sequence, with those before it, lasts: no later one is of the kind that ends
it. -/
def Lasts (ends : β → Prop) (entries early : List β) (entry : β) : Prop :=
  ∃ late, entries = early ++ entry :: late ∧ ∀ later ∈ late, ¬ ends later

theorem Lasts.length_lt (lasts : Lasts ends entries early entry) :
    early.length < entries.length := by
  rcases lasts with ⟨late, rfl, -⟩
  simp

theorem not_lasts_nil : ¬ Lasts ends [] early entry := by
  rintro ⟨late, empty, -⟩
  simp at empty

theorem lasts_append_singleton_iff :
    Lasts ends (entries ++ [last]) early entry ↔
      early = entries ∧ entry = last ∨ ¬ ends last ∧ Lasts ends entries early entry := by
  constructor
  · rintro ⟨late, whole, unended⟩
    rcases late.eq_nil_or_concat with rfl | ⟨front, final, rfl⟩
    · rcases List.append_singleton_inj.mp whole with ⟨rfl, rfl⟩
      exact Or.inl ⟨rfl, rfl⟩
    · rw [List.concat_eq_append] at whole unended
      rw [← List.cons_append, ← List.append_assoc] at whole
      rcases List.append_singleton_inj.mp whole with ⟨rfl, rfl⟩
      refine Or.inr ⟨unended last (by simp), front, rfl, ?_⟩
      exact fun later member => unended later (List.mem_append_left _ member)
  · rintro (⟨rfl, rfl⟩ | ⟨unended, late, rfl, others⟩)
    · exact ⟨[], rfl, by simp⟩
    · refine ⟨late ++ [last], by simp, ?_⟩
      intro later member
      rcases List.mem_append.mp member with before | isLast
      · exact others later before
      · exact List.mem_singleton.mp isLast ▸ unended

variable [DecidableEq β]

theorem eraseDups_concat (entries : List β) (last : β) :
    (entries ++ [last]).eraseDups =
      if last ∈ entries then entries.eraseDups else entries.eraseDups ++ [last] := by
  rw [List.eraseDups_append]
  by_cases old : last ∈ entries
  · simp [old, List.removeAll]
  · simp [old, List.removeAll, List.eraseDups_cons]

theorem nodup_eraseDups (entries : List β) : entries.eraseDups.Nodup := by
  induction entries using List.reverseRecOn with
  | nil => exact .nil
  | append_singleton entries last hypothesis =>
    rw [eraseDups_concat]
    split
    · exact hypothesis
    · rename_i new
      refine List.nodup_append.mpr ⟨hypothesis, List.pairwise_singleton .., ?_⟩
      rintro entry member _ isLast rfl
      exact new (List.mem_singleton.mp isLast ▸ List.mem_eraseDups.mp member)

end Egress
