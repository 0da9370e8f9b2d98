import PageOverlay.Command.Basic

/-!
# Applying commands

A command that has no business with its target, or finds the page as it would leave it, answers
`none`. Otherwise it answers the changes that it made.
-/

set_option autoImplicit false

namespace PageOverlay

abbrev Applied := Option (List Undo)

def locationAllows (rule : String) (p : Page) : Bool :=
  locationMatches rule.toList p.location.toList

def isWithin (within : Option Selector) (p : Page) (e : NodeId) : Bool :=
  match within with
  | none => true
  | some s => s.accepts p e

def standsWithin (within : Option Selector) (p : Page) (n : NodeId) : Bool :=
  match within with
  | none => true
  | some s =>
    match p.elementOf n with
    | some e => s.accepts p e
    | none => false

def valueMatches (search : Pattern) (p : Page) (n : NodeId) (path : String) : Bool :=
  match p.property? n path with
  | some value => search.isMatch value.toList
  | none => false

/-- The part of a location after its first `#` holds the text; the empty text asks for nothing. -/
def hashAllows (hash : String) (p : Page) : Bool :=
  hash.isEmpty ||
    match Text.cutAtFirst? '#' p.location.toList with
    | some (_, after) => Text.occursIn hash.toList after
    | none => false

namespace Action

def single (u : Option Undo) : Applied := u.map fun u => [u]

def several (us : List Undo) : Applied := if us.isEmpty then none else some us

def stageProperty : String := "data-demo-stage"

def backgroundPath : String := "style.backgroundImage"

def filterPath : String := "style.filter"

def displayPath : String := "style.display"

def markupPath : String := "innerHTML"

def placePath : String := "position"

def fragmentTag : String := "mnky-fragment"

def scriptTag : String := "script"

def applyReplace (search : Pattern) (replacement : String) (attr : Option String)
    (n : NodeId) (path : String) : Change Applied := do
  let p ← Change.page
  let cell := match attr with
    | some name => (p.elementOf n).map fun e => (e, name)
    | none => some (n, path)
  match cell with
  | none => pure none
  | some (n, path) =>
    match p.property? n path with
    | none => pure none
    | some current =>
      if search.isMatch current.toList then
        let replaced := search.replaceAll current.toList replacement.toList
        pure (single (← Change.record n path (String.ofList replaced)))
      else pure none

/-- The element so many levels up, or the nearest one among these levels that the selector
accepts. -/
def pick (p : Page) (level : Nat) (upTo : Option Selector) (e : NodeId) : Option NodeId :=
  match upTo with
  | none => some (p.ancestor e (level - 1))
  | some s => ((e :: p.ancestors e).take level).find? (s.accepts p)

def neighbor? (p : Page) (level : Nat) (s : Selector) (e : NodeId) : Option NodeId :=
  ((p.descendants (p.ancestor e (level - 1))).drop 1).find? (s.accepts p)

def holdsFragment (p : Page) (place : InsertPlace) (html : String) (e : NodeId) : Bool :=
  (p.children e).any fun child =>
    (match p.tag? child with
      | some tag => tag.toList.map Char.toLower == fragmentTag.toList
      | none => false) &&
    p.property? child markupPath == some html &&
    p.property? child placePath == some (place.text)

def scriptPlace (p : Page) : NodeId :=
  ((p.children Page.root).find? fun child => p.tag? child == some "HEAD").getD Page.root

def holdsScript (p : Page) (src : Option String) (script : String) (e : NodeId) : Bool :=
  (p.children e).any fun child =>
    p.tag? child == some "SCRIPT" &&
    p.property? child "src" == src &&
    p.property? child Page.contentPath == some script

def applyNode (a : Action) (n : NodeId) (path : String) : Change Applied := do
  let p ← Change.page
  match a with
  | .replace search replacement location within attr =>
    if locationAllows location p && standsWithin within p n then
      applyReplace search replacement attr n path
    else pure none
  | .protect word location within =>
    if locationAllows location p && standsWithin within p n then
      applyReplace (.literal word.toList) (String.ofList (guarded word.toList)) none n path
    else pure none
  | .replaceNeighbor search replacement level neighbor location within =>
    if locationAllows location p && valueMatches search p n path then
      match p.elementOf n with
      | none => pure none
      | some e =>
        if isWithin within p e then
          match neighbor? p level neighbor e with
          | some m => pure (single (← Change.record m Page.contentPath replacement))
          | none => pure none
        else pure none
    else pure none
  | .hide search level upTo location hash =>
    if locationAllows location p && hashAllows hash p && valueMatches search p n path then
      match (p.elementOf n).bind (pick p level upTo) with
      | some e => pure (single (← Change.record e displayPath "none"))
      | none => pure none
    else pure none
  | .style search property level value =>
    if valueMatches search p n path then
      match p.elementOf n with
      | some e =>
        pure (single (← Change.record (p.ancestor e (level - 1)) ("style." ++ property) value))
      | none => pure none
    else pure none
  | .insert place search html level within =>
    if valueMatches search p n path then
      match p.elementOf n with
      | none => pure none
      | some e =>
        let e := p.ancestor e (level - 1)
        if isWithin within p e && !holdsFragment p place html e then
          pure (some [← Change.insert e fragmentTag
            [(markupPath, html), (placePath, place.text)]])
        else pure none
    else pure none
  | .replaceImage searches replacement =>
    if searches.any fun search => valueMatches search p n path then
      let value := if path = backgroundPath then "url(\"" ++ replacement ++ "\")" else replacement
      pure (single (← Change.record n path value))
    else pure none
  | .recolorImage search color =>
    if valueMatches search p n path then
      let value := "drop-shadow(0 0 0 " ++ color ++ ") saturate(300%)"
      pure (single (← Change.record n filterPath value))
    else pure none
  | .stage location title name =>
    if locationAllows location p &&
        Text.occursIn title.toList ((p.property? Page.root "title").getD "").toList then
      pure (single (← Change.record Page.root stageProperty name))
    else pure none
  | .querySelector selector property value =>
    pure (several (← Change.recordAll property value (p.query selector)))
  | .overwrite location selector html =>
    if locationAllows location p then
      let nodes := match selector with
        | some s => p.query s
        | none => [Page.root]
      pure (several (← Change.recordAll markupPath html nodes))
    else pure none
  | .addScript src script =>
    let e := scriptPlace p
    if holdsScript p src script e then pure none
    else
      pure (some [← Change.insert e scriptTag
        ([("type", "text/javascript"), (Page.contentPath, script)] ++
          (src.map fun s => ("src", s)).toList)])
  | .request _ => pure none
  | .response _ => pure none

def apply (a : Action) (t : Target) : Change Applied :=
  match t with
  | .node n path => a.applyNode n path
  | .requests =>
    match a with
    | .request rule => do pure (some [← Change.addRequest rule])
    | _ => pure none
  | .responses =>
    match a with
    | .response rule => do pure (some [← Change.addResponse rule])
    | _ => pure none

end Action

namespace Command

/-- A condition on the element around the target fails on targets that are no nodes. -/
def holdsAt (within : Option Selector) (p : Page) : Target → Bool
  | .node n _ => standsWithin within p n
  | _ => within.isNone

mutual

def apply (t : Target) : Command → Change Applied
  | .action a => a.apply t
  | .conditional location within inner => do
    let p ← Change.page
    if locationAllows location p && holdsAt within p t then apply t inner else pure none
  | .group commands => applyAll t commands
  | .faulty _ => pure none

def applyAll (t : Target) : List Command → Change Applied
  | [] => pure none
  | c :: cs => do
    let first ← apply t c
    let others ← applyAll t cs
    match first, others with
    | none, others => pure others
    | first, none => pure first
    | some us, some vs => pure (some (us ++ vs))

end
end Command
end PageOverlay
