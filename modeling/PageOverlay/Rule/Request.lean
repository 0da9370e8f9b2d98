import PageOverlay.Rule.Book

/-!
# Request rules

What is to happen to requests for an address: they are blocked, held back or sent elsewhere.
-/

set_option autoImplicit false

namespace PageOverlay

inductive RequestAction
  | block
  | delay
  | replace
  deriving DecidableEq, Repr

structure RequestRule where
  action : RequestAction
  url : String
  value : String
  resourceTypes : Option String := none
  includeRules : List String := []
  excludeRules : List String := []
  deriving DecidableEq, Repr

abbrev RequestRules := RuleBook RequestRule

end PageOverlay
