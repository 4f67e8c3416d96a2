import ExactCalc.Entries
import Mathlib

/-!
# Names and values of entries

Entries that were put one after another have distinct names, and under each name
the value that was put there last. Where names are distinct, looking a name up is
finding its entry, so the order of the entries does not matter.
-/

namespace ExactCalc.Entries

variable {α : Type} {entries : Entries α} {name : String}

/-! ## Putting a value -/

theorem put_of_not_mem (h : name ∉ entries.map Prod.fst) (value : α) :
    entries.put name value = entries ++ [(name, value)] := by
  induction entries with
  | nil => rfl
  | cons entry rest ih =>
    obtain ⟨x, old⟩ := entry
    rw [List.map_cons, List.mem_cons, not_or] at h
    rw [put, if_neg (Ne.symm h.1), ih h.2, List.cons_append]

theorem names_put_of_mem (h : name ∈ entries.map Prod.fst) (value : α) :
    (entries.put name value).map Prod.fst = entries.map Prod.fst := by
  induction entries with
  | nil => simp at h
  | cons entry rest ih =>
    obtain ⟨x, old⟩ := entry
    by_cases hx : x = name
    · rw [put, if_pos hx, List.map_cons, List.map_cons]
    · have hrest : name ∈ rest.map Prod.fst := (List.mem_cons.mp h).resolve_left (Ne.symm hx)
      rw [put, if_neg hx, List.map_cons, List.map_cons, ih hrest]

theorem nodup_put (h : (entries.map Prod.fst).Nodup) (name : String) (value : α) :
    ((entries.put name value).map Prod.fst).Nodup := by
  by_cases hmem : name ∈ entries.map Prod.fst
  · rw [names_put_of_mem hmem]
    exact h
  · rw [put_of_not_mem hmem, List.map_append, List.map_singleton, ← List.concat_eq_append]
    exact .concat hmem h

/-! ## Putting pairs one after another -/

section Pairs

variable (pairs : List (String × α))

theorem ofPairs_append_singleton (pair : String × α) :
    ofPairs (pairs ++ [pair]) = (ofPairs pairs).put pair.1 pair.2 := by
  rw [ofPairs, List.foldl_append]
  rfl

theorem nodup_ofPairs : ((ofPairs pairs).map Prod.fst).Nodup := by
  induction pairs using List.reverseRecOn with
  | nil => simp [ofPairs]
  | append_singleton pairs pair ih =>
    rw [ofPairs_append_singleton]
    exact nodup_put ih pair.1 pair.2

theorem ofPairs_of_nodup (h : (pairs.map Prod.fst).Nodup) : ofPairs pairs = pairs := by
  induction pairs using List.reverseRecOn with
  | nil => rfl
  | append_singleton pairs pair ih =>
    rw [List.map_append, List.nodup_append] at h
    obtain ⟨hpairs, -, hdistinct⟩ := h
    have hnew : pair.1 ∉ pairs.map Prod.fst := fun hmem => hdistinct _ hmem pair.1 (by simp) rfl
    rw [ofPairs_append_singleton, ih hpairs, put_of_not_mem hnew]

/-- Of several values for one name the last counts. -/
theorem lookup_ofPairs (name : String) :
    (ofPairs pairs).lookup name = pairs.reverse.lookup name := by
  induction pairs using List.reverseRecOn with
  | nil => rfl
  | append_singleton pairs pair ih =>
    rw [ofPairs_append_singleton, lookup_put, ih, List.reverse_append, List.reverse_singleton,
      List.singleton_append, List.lookup_cons]
    by_cases h : name = pair.1
    · simp [h]
    · simp [h, beq_false_of_ne h]

end Pairs

/-! ## Distinct names -/

theorem lookup_eq_some_iff (hnodup : (entries.map Prod.fst).Nodup) {value : α} :
    entries.lookup name = some value ↔ (name, value) ∈ entries := by
  induction entries with
  | nil => simp
  | cons entry rest ih =>
    obtain ⟨x, old⟩ := entry
    rw [List.map_cons, List.nodup_cons] at hnodup
    by_cases hx : name = x
    · subst hx
      have hrest : (name, value) ∉ rest := fun hmem =>
        hnodup.1 (List.mem_map.mpr ⟨_, hmem, rfl⟩)
      simp [hrest, eq_comm]
    · simp [List.lookup_cons, beq_false_of_ne hx, ih hnodup.2, hx]

end ExactCalc.Entries
