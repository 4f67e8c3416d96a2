/-!
# Named entries

A list of named values in which every name stands once. Putting a value under a
name that is already there keeps the place of the first and takes the new value.
-/

namespace ExactCalc

abbrev Entries (α : Type) := List (String × α)

namespace Entries

variable {α : Type}

def put : Entries α → String → α → Entries α
  | [], name, value => [(name, value)]
  | (x, old) :: rest, name, value =>
    if x = name then (x, value) :: rest else (x, old) :: put rest name value

/-- The entries that result from putting the pairs one after another. -/
def ofPairs (pairs : List (String × α)) : Entries α :=
  pairs.foldl (fun entries pair => entries.put pair.1 pair.2) []

/-- Putting a value changes what is found under one name. -/
theorem lookup_put (entries : Entries α) (name other : String) (value : α) :
    (entries.put name value).lookup other =
      if other = name then some value else entries.lookup other := by
  induction entries with
  | nil =>
    by_cases h : other = name
    · simp [put, h]
    · simp [put, h, List.lookup_cons, beq_false_of_ne h]
  | cons entry rest ih =>
    obtain ⟨x, old⟩ := entry
    by_cases hx : x = name
    · subst hx
      by_cases h : other = x
      · simp [put, h]
      · simp [put, h, List.lookup_cons, beq_false_of_ne h]
    · by_cases h : other = x
      · subst h
        simp [put, hx]
      · simp [put, hx, List.lookup_cons, beq_false_of_ne h, ih]

end Entries

end ExactCalc
