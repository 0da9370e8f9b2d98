/-!
# Rule books

Rules under numbers, in the order in which they were added. A number is given out once and never
again, also after the book was emptied.
-/

set_option autoImplicit false

namespace PageOverlay

structure RuleBook (α : Type) where
  entries : List (Nat × α) := []
  last : Nat := 0
  deriving DecidableEq, Repr

namespace RuleBook

variable {α : Type}

def add (b : RuleBook α) (rule : α) : Nat × RuleBook α :=
  (b.last + 1, { entries := b.entries ++ [(b.last + 1, rule)], last := b.last + 1 })

def remove (b : RuleBook α) (id : Nat) : RuleBook α :=
  { b with entries := b.entries.filter (·.1 ≠ id) }

def clear (b : RuleBook α) : RuleBook α := { b with entries := [] }

def rules (b : RuleBook α) : List α := b.entries.map (·.2)

def size (b : RuleBook α) : Nat := b.entries.length

@[simp] theorem last_add (b : RuleBook α) (rule : α) : (b.add rule).2.last = b.last + 1 := rfl

end RuleBook
end PageOverlay
