import ApiDoc.Pattern.Reach
import ApiDoc.Pattern.Search

/-!
# Matching

Whether an expression matches at the start of a text. An expression that asks what its groups have matched is searched with marks; for all others the places it reaches decide.
-/

namespace ApiDoc.Pattern

/-- Whether an expression matches at the start of a text. -/
def Regex.matchesStart (r : Regex) (text : List Char) : Bool :=
  if r.asksGroups then ((r.search text.toArray false 0 succeed).run #[]).1.isSome
  else !(r.reach text.toArray [0]).isEmpty

end ApiDoc.Pattern
