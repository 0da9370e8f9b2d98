import PageOverlay.Sheet.Variables

/-!
# Placeholders

`$name` and `${name}` are replaced in one pass from left to right; what is put in is not looked at
again. Braces hold a whole name. A bare word may begin with a name, and keeps its rest. What does
not resolve stays as it is.
-/

set_option autoImplicit false

namespace PageOverlay.Scopes

def placeholder? (s : Scopes) (scope : String) (cs : List Char) : Option (List Char × List Char) :=
  match cs with
  | [] => none
  | c :: rest =>
    if c = '\x7b' then
      match Text.cutAtFirst? '\x7d' rest with
      | none => none
      | some (name, after) =>
        match s.lookup (String.ofList (Text.trim name)) scope with
        | some value => some (value.toList, after)
        | none => some ('$' :: '\x7b' :: name ++ ['\x7d'], after)
    else if Text.isNameStart c then
      let word := c :: rest.takeWhile Text.isWord
      let after := rest.dropWhile Text.isWord
      match s.lookupPrefix word scope with
      | some (_, value, tail) => some (value.toList ++ tail, after)
      | none => some ('$' :: word, after)
    else none

def fillIn (s : Scopes) (scope : String) : Nat → List Char → List Char
  | 0, cs => cs
  | _, [] => []
  | fuel + 1, c :: cs =>
    if c = '$' then
      match s.placeholder? scope cs with
      | some (text, after) => text ++ fillIn s scope fuel after
      | none => c :: fillIn s scope fuel cs
    else c :: fillIn s scope fuel cs

def substitute (s : Scopes) (scope : String) (text : String) : String :=
  String.ofList (s.fillIn scope text.toList.length text.toList)

end PageOverlay.Scopes
