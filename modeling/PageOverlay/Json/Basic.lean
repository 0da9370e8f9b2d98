import PageOverlay.Fields

/-!
# JSON values

Objects are lists of fields.
-/

set_option autoImplicit false

namespace PageOverlay

/-- A number: a whole one of at most sixty-four bits with its sign, or the bits of a double. -/
inductive JsonNumber
  | natural (n : Nat)
  | negative (n : Nat)
  | double (bits : UInt64)
  deriving DecidableEq, Repr

inductive Json
  | null
  | bool (b : Bool)
  | number (n : JsonNumber)
  | string (s : String)
  | array (items : List Json)
  | object (fields : List (String × Json))
  deriving Repr

namespace Json

def isNull : Json → Bool
  | .null => true
  | _ => false

def fields : Json → Fields Json
  | .object fs => fs
  | _ => []

end Json
end PageOverlay
