import FilterQuery.Compilation
import Mathlib.Data.List.Induction

/-!
# Counting the fields of a compilation

The usage of fields is counted in one pass over the record of fields, which raises the count of a field
where its first reference stands, or appends the field. What comes out does not depend on that pass: it
is the list of the different fields in the order of their first references, each with the number of its
references (`usageOf_eq`). Two records that are permutations of each other have the same usage up to the
order of its entries (`usageOf_perm`).
-/

namespace FilterQuery

/-! ## Different texts -/

section Distinct

variable (texts : List String) (text : String)

/-- One more text is kept if it was not seen before. -/
theorem distinct_concat :
    distinct (texts ++ [text]) =
      if text ∈ distinct texts then distinct texts else distinct texts ++ [text] := by
  simp only [distinct, List.foldl_append, List.foldl_cons, List.foldl_nil, List.contains_eq_mem,
    decide_eq_true_eq]

theorem mem_distinct : text ∈ distinct texts ↔ text ∈ texts := by
  induction texts using List.reverseRecOn with
  | nil => exact Iff.rfl
  | append_singleton texts last ih =>
      rw [distinct_concat, List.mem_append, List.mem_singleton, ← ih]
      split
      · next hseen =>
        constructor
        · exact .inl
        · rintro (h | rfl)
          · exact h
          · exact hseen
      · rw [List.mem_append, List.mem_singleton]

theorem nodup_distinct : (distinct texts).Nodup := by
  induction texts using List.reverseRecOn with
  | nil => exact List.nodup_nil
  | append_singleton texts last ih =>
      rw [distinct_concat]
      split
      · exact ih
      · next hnew =>
        refine List.nodup_append.2 ⟨ih, List.pairwise_singleton _ last, ?_⟩
        intro text htext other hother heq
        rw [heq, List.mem_singleton.1 hother] at htext
        exact hnew htext

end Distinct

/-! ## Counting -/

section Count

variable {seen : List String} {field : String} (count : String → Nat)

/-- The counts of other fields stay as they are. -/
theorem map_count_of_not_mem (h : field ∉ seen) :
    (seen.map fun f => FieldUsage.mk f (count f + if f = field then 1 else 0)) =
      seen.map fun f => ⟨f, count f⟩ := by
  apply List.map_congr_left
  intro f hf
  have hne : f ≠ field := fun heq => h (heq ▸ hf)
  rw [if_neg hne, Nat.add_zero]

/-- A field that was not seen is appended. -/
theorem countField_of_not_mem (h : field ∉ seen) :
    countField (seen.map fun f => ⟨f, count f⟩) field =
      (seen.map fun f => ⟨f, count f⟩) ++ [⟨field, 1⟩] := by
  induction seen with
  | nil => rfl
  | cons first seen ih =>
      rw [List.mem_cons, not_or] at h
      rw [List.map_cons, countField, if_neg fun heq => h.1 heq.symm, ih h.2, List.cons_append]

/-- The count of a field that was seen is raised, and no other one. -/
theorem countField_of_mem (hseen : seen.Nodup) (h : field ∈ seen) :
    countField (seen.map fun f => ⟨f, count f⟩) field =
      seen.map fun f => ⟨f, count f + if f = field then 1 else 0⟩ := by
  induction seen with
  | nil => cases h
  | cons first seen ih =>
      obtain ⟨hfirst, hrest⟩ := List.nodup_cons.1 hseen
      rw [List.map_cons, countField, List.map_cons]
      by_cases heq : first = field
      · subst heq
        rw [map_count_of_not_mem count hfirst, if_pos rfl, if_pos rfl]
      · have hmem : field ∈ seen := (List.mem_cons.1 h).resolve_left fun h => heq h.symm
        rw [if_neg heq, if_neg heq, ih hrest hmem, Nat.add_zero]

end Count

theorem count_concat (fields : List String) (last f : String) :
    (fields ++ [last]).count f = fields.count f + if f = last then 1 else 0 := by
  by_cases heq : f = last
  · subst heq
    rw [List.count_append, List.count_singleton_self, if_pos rfl]
  · rw [if_neg heq, List.count_append, List.count_eq_zero.2 fun h => heq (List.mem_singleton.1 h)]

/-- **Usage.** The usage of fields lists the different fields with the numbers of their references. -/
theorem usageOf_eq (fields : List String) :
    usageOf fields = (distinct fields).map fun f => ⟨f, fields.count f⟩ := by
  -- From the end, since the pass takes the fields from the front and keeps what it has counted so far.
  induction fields using List.reverseRecOn with
  | nil => rfl
  | append_singleton fields last ih =>
      have hstep : usageOf (fields ++ [last]) = countField (usageOf fields) last := by
        rw [usageOf, usageOf, List.foldl_append, List.foldl_cons, List.foldl_nil]
      rw [hstep, ih, distinct_concat]
      simp only [count_concat]
      by_cases hseen : last ∈ distinct fields
      · rw [if_pos hseen, countField_of_mem _ (nodup_distinct fields) hseen]
      · have hnone : fields.count last = 0 :=
          List.count_eq_zero.2 fun h => hseen ((mem_distinct fields last).2 h)
        rw [if_neg hseen, countField_of_not_mem _ hseen, List.map_append, List.map_singleton,
          map_count_of_not_mem _ hseen, hnone, if_pos rfl]

/-- The usage of fields has the fields that the pass without counts finds. -/
theorem map_field_usageOf (fields : List String) :
    (usageOf fields).map FieldUsage.field = distinct fields := by
  rw [usageOf_eq, List.map_map]
  exact List.map_id (distinct fields)

/-- Records with the same references in another order have the same usage, up to the order. -/
theorem usageOf_perm {fields fields' : List String} (h : fields.Perm fields') :
    (usageOf fields).Perm (usageOf fields') := by
  have hdistinct : (distinct fields).Perm (distinct fields') := by
    rw [List.perm_ext_iff_of_nodup (nodup_distinct fields) (nodup_distinct fields')]
    intro f
    rw [mem_distinct, mem_distinct, h.mem_iff]
  rw [usageOf_eq, usageOf_eq]
  simp only [h.count_eq]
  exact hdistinct.map _

end FilterQuery
