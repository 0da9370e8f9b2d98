import PageOverlay.Json.Reader
import PageOverlay.Json.Writer

/-!
# Outlines

Values as indented text for readers: a line for each field and item, two blanks for each level,
fields in ascending order. Fields without content are left out.
-/

set_option autoImplicit false

namespace PageOverlay.Json

def hasContent : Json → Bool
  | .null => false
  | .array items => !items.isEmpty
  | .object fields => !fields.isEmpty
  | _ => true

def isNested : Json → Bool
  | .array _ => true
  | .object _ => true
  | _ => false

def plain : Json → List Char
  | .string s => s.toList
  | j => write j

mutual

def outlineAt (indent : Nat) : Json → List Char
  | .array items => outlineItems indent items
  | .object fields => outlineFields indent fields
  | .null => []
  | j => List.replicate indent ' ' ++ plain j ++ ['\n']

def outlineItems (indent : Nat) : List Json → List Char
  | [] => []
  | j :: rest =>
    List.replicate indent ' ' ++
      (if j.isNested then '-' :: '\n' :: outlineAt (indent + 2) j
        else '-' :: ' ' :: plain j ++ ['\n']) ++
      outlineItems indent rest

def outlineFields (indent : Nat) : List (String × Json) → List Char
  | [] => []
  | (name, j) :: rest =>
    (if !j.hasContent then []
      else List.replicate indent ' ' ++ name.toList ++
        if j.isNested then ':' :: '\n' :: outlineAt (indent + 2) j
        else ':' :: ' ' :: plain j ++ ['\n']) ++
      outlineFields indent rest

end

def outline (j : Json) : String := String.ofList (outlineAt 0 j.settle)

end PageOverlay.Json
