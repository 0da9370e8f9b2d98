import PageOverlay.Json.MergePatch
import PageOverlay.Pattern
import PageOverlay.Rule.Book

/-!
# Response rules

Changing the bodies of responses: every rule for the address changes what the rules before it
left.
-/

set_option autoImplicit false

namespace PageOverlay

inductive ResponseAction
  | replace
  | patch
  deriving DecidableEq, Repr

structure ResponseRule where
  action : ResponseAction
  url : String
  search : Option String := none
  value : String
  deriving DecidableEq, Repr

/-- What a rule makes of a body. A rule without a search term replaces the whole body, and one
whose search term cannot be read leaves it. -/
def ResponseRule.apply (r : ResponseRule) (body : String) : String :=
  match r.action with
  | .patch => Json.patchText body r.value
  | .replace =>
    match (r.search.getD "").toList with
    | [] => r.value
    | search =>
      match Pattern.parse search with
      | .ok p => String.ofList (p.replaceAll body.toList r.value.toList)
      | .error _ => body

abbrev ResponseRules := RuleBook ResponseRule

def ResponseRule.isFor (r : ResponseRule) (url : String) : Bool :=
  locationMatches r.url.toList url.toList

def ResponseRules.run (b : ResponseRules) (url body : String) : String :=
  b.rules.foldl (fun body r => if r.isFor url then r.apply body else body) body

end PageOverlay
