/-!
# Strings that are not empty
-/
set_option autoImplicit false

namespace ChangeImpact

structure NonEmptyString where
  text : String
  ne_empty : text ≠ ""
  deriving DecidableEq

namespace NonEmptyString

def ofString? (text : String) : Option NonEmptyString :=
  if empty : text = "" then none else some ⟨text, empty⟩

theorem ofString?_eq_none_iff (text : String) : ofString? text = none ↔ text = "" := by
  by_cases empty : text = "" <;> simp [ofString?, empty]

theorem text_of_ofString? {text : String} {found : NonEmptyString}
    (isFound : ofString? text = some found) : found.text = text := by
  by_cases empty : text = ""
  · simp [ofString?, empty] at isFound
  · simp only [ofString?, dif_neg empty, Option.some.injEq] at isFound
    rw [← isFound]

end NonEmptyString

end ChangeImpact
