/-
# The catalogue of anti-patterns

Anti-patterns are told apart by their identifiers, and so are the errors that start with them.
-/

import SfcLint.Issue.AntiPattern

namespace SfcLint

namespace Category

theorem ofName?_eq_some_iff {name : String} {category : Category} :
    ofName? name = some category ↔ category.name = name := by
  constructor
  · intro found
    have named := List.find?_some found
    exact eq_of_beq named
  · rintro rfl
    cases category <;> rfl

end Category

namespace AntiPattern

/-- How an error of the rule for an anti-pattern starts. -/
def label (pattern : AntiPattern) : Text := (pattern.id ++ ": ").toList

end AntiPattern

end SfcLint
