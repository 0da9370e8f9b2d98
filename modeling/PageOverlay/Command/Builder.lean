import PageOverlay.Command.Catalogue

/-!
# Building commands

A key that begins with an exclamation mark calls a command or holds a regular expression. Any
other key is a text to replace. Conditions build the invocation that their last parameters make.
-/

set_option autoImplicit false

namespace PageOverlay

/-- What a sheet says for all its commands: the namespaces that may be left out of calls, and the
locations where it is in force. -/
structure Builder where
  namespaces : List String := []
  includeRules : List String := []
  excludeRules : List String := []
  deriving DecidableEq, Repr

namespace Builder

/-- Finds the command of a call. Without a namespace a name is first looked for on its own, then in
the sheet's namespaces in order. -/
def resolve (b : Builder) (call : Call) : Except CommandError Entry :=
  let name := String.ofList call.name
  match call.space with
  | some space =>
    let space := String.ofList space
    match Catalogue.find? space with
    | some (.space s entries) =>
      match Catalogue.CatalogueItem.find? (.space s entries) name with
      | some e => .ok e
      | none => .error (.unknownCommand (space ++ "." ++ name))
    | _ => .error (.unknownNamespace space)
  | none =>
    match Catalogue.find? name with
    | some (.command e) => .ok e
    | some (.space s _) => .error (.notCallable s)
    | none =>
      match b.namespaces.findSome? fun s =>
          (Catalogue.find? s).bind fun item => Catalogue.CatalogueItem.find? item name with
      | some e => .ok e
      | none => .error (.unknownCommand name)

def tryBuild (b : Builder) (value : String) (key : List Char) : Except CommandError Command :=
  match _hk : Text.trim key with
  | [] => .ok (.action (.replace (.literal []) value "" none none))
  | first :: body =>
    if first ≠ '!' then .ok (.action (.replace (.literal (first :: body)) value "" none none))
    else if body.head? = some '/' then
      if Pattern.isSlashed body then
        match Invocation.readPattern body with
        | .ok search => .ok (.action (.replace search value "" none none))
        | .error e => .error e
      else .error (.malformed (String.ofList (first :: body)))
    else
      match _hc : Call.read? body with
      | none => .error (.malformed (String.ofList (first :: body)))
      | some call =>
        match _hp : Sheet.splitParameters call.inside with
        | .error fault => .error (.parameters call.inside fault)
        | .ok parameters =>
          match b.resolve call with
          | .error e => .error e
          | .ok entry =>
            let i : Invocation := { name := entry.name, parameters, value }
            match entry.verb.wrapsFrom with
            | none => entry.verb.command b.includeRules b.excludeRules i
            | some k =>
              match b.tryBuild value (Text.joinWith [','] (parameters.drop k)) with
              | .ok inner => entry.verb.wrap i inner
              | .error e => .error e
termination_by key.length
decreasing_by
  have hkey := Text.length_trim_le key
  have hcall := Call.length_inside _hc
  have hsplit := Sheet.length_splitParameters _hp
  have hdrop := Text.length_joinWith_drop [','] parameters k
  rw [_hk, List.length_cons] at hkey
  omega

def build (b : Builder) (key value : String) : Command :=
  match b.tryBuild value key.toList with
  | .ok c => c
  | .error e => .faulty e

end Builder
end PageOverlay
