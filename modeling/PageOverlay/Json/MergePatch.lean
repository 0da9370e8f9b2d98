import PageOverlay.Json.Reader
import PageOverlay.Json.Writer

/-!
# Merge patches

A patch that is an object changes a value member by member: `null` takes a member away and every
other value is merged into the member of that name. Any other patch takes the value's place.
-/

set_option autoImplicit false

namespace PageOverlay.Json

mutual

def mergePatch (target : Json) : Json → Json
  | .object changes => .object (mergeFields target.fields changes)
  | patch => patch

def mergeFields (fields : Fields Json) : List (String × Json) → Fields Json
  | [] => fields
  | (key, change) :: rest =>
    let changed :=
      if change.isNull then Fields.erase key fields
      else Fields.put key (mergePatch ((Fields.get? key fields).getD .null) change) fields
    mergeFields changed rest

end

def patchText (body patch : String) : String :=
  match read? body.toList, read? patch.toList with
  | some target, some change => compact (mergePatch target change)
  | _, _ => body

end PageOverlay.Json
