import PageOverlay.Command.Invocation
import PageOverlay.Json.Writer

/-!
# The catalogue

All commands by name, what their parameters mean, and the actions that they make.
-/

set_option autoImplicit false

namespace PageOverlay

inductive Verb
  | addScript
  | replaceResponse
  | patchResponse
  | whenBoth
  | whenLocation
  | whenSelector
  | replace
  | replaceAttribute
  | protect
  | replaceNeighbor
  | insert (place : InsertPlace)
  | style
  | querySelector
  | hide
  | replaceImage
  | recolorImage
  | replaceLink
  | request (action : RequestAction)
  | stage
  | overwriteMarkup
  | overwritePage
  | hideListItem
  | analyticsLoad
  | analyticsIdentify
  | analyticsTrack
  deriving DecidableEq, Repr

/-- The placeholders of a command's parameters and of its value, by their numbers. -/
structure Signature where
  parameters : List Nat
  value : Option Nat := none
  deriving DecidableEq, Repr

namespace Signature

def place (n : Nat) : String := "$\x7b" ++ toString n ++ "\x7d"

def text (s : Signature) : String :=
  "(" ++ ", ".intercalate (s.parameters.map place) ++ ")" ++
    match s.value with
    | some n => " = " ++ place n
    | none => ""

end Signature

structure Entry where
  name : String
  aliases : List String := []
  signature : Signature
  deprecated : Bool := false
  verb : Verb
  deriving DecidableEq, Repr

def Entry.isNamed (e : Entry) (name : String) : Bool := e.name == name || e.aliases.contains name

inductive CatalogueItem
  | command (e : Entry)
  | space (name : String) (entries : List Entry)
  deriving DecidableEq, Repr

namespace Catalogue

def items : List CatalogueItem := [
  .command { name := "addScript", signature := ⟨[1], some 3⟩, verb := .addScript },
  .command {
    name := "replaceAjaxResponse", aliases := ["replaceAjax", "replaceResponse"]
    signature := ⟨[1, 2], some 3⟩, verb := .replaceResponse },
  .command {
    name := "patchAjaxResponse", aliases := ["patchAjax", "patchResponse"]
    signature := ⟨[1], some 3⟩, verb := .patchResponse },
  .command { name := "if", signature := ⟨[1, 2, 3], some 4⟩, verb := .whenBoth },
  .command { name := "ifLocation", signature := ⟨[1, 2], some 3⟩, verb := .whenLocation },
  .command {
    name := "ifSelector", aliases := ["ifQuery", "ifCss"]
    signature := ⟨[1, 2], some 3⟩, verb := .whenSelector },
  .command { name := "replace", signature := ⟨[1, 2, 3, 4], some 5⟩, verb := .replace },
  .command {
    name := "replaceAttribute", signature := ⟨[1, 2, 3, 4], some 5⟩, verb := .replaceAttribute },
  .command { name := "protect", signature := ⟨[1, 2, 3], none⟩, verb := .protect },
  .command {
    name := "replaceNeighbor", signature := ⟨[1, 2, 3, 4, 5], some 6⟩, verb := .replaceNeighbor },
  .command { name := "insertBefore", signature := ⟨[1, 2, 3], some 4⟩, verb := .insert .start },
  .command { name := "insertAfter", signature := ⟨[1, 2, 3], some 4⟩, verb := .insert .finish },
  .command { name := "style", signature := ⟨[1, 2, 3], some 4⟩, verb := .style },
  .command {
    name := "querySelector", aliases := ["query"]
    signature := ⟨[1, 2], some 3⟩, verb := .querySelector },
  .command { name := "hide", signature := ⟨[1, 2, 3, 4], none⟩, verb := .hide },
  .command { name := "replaceImage", signature := ⟨[1], some 2⟩, verb := .replaceImage },
  .command {
    name := "recolorImage", aliases := ["recolourImage"]
    signature := ⟨[1], some 2⟩, verb := .recolorImage },
  .command {
    name := "replaceLink", signature := ⟨[1], some 2⟩, deprecated := true, verb := .replaceLink },
  .command { name := "blockUrl", signature := ⟨[1], none⟩, verb := .request .block },
  .command { name := "delayUrl", signature := ⟨[1], some 2⟩, verb := .request .delay },
  .command {
    name := "replaceUrl", aliases := ["redirectUrl"]
    signature := ⟨[1], some 2⟩, verb := .request .replace },
  .command { name := "stage", signature := ⟨[1, 2], some 3⟩, verb := .stage },
  .command {
    name := "overwriteHTML", aliases := ["overwrite"]
    signature := ⟨[1, 2], some 3⟩, verb := .overwriteMarkup },
  .command { name := "overwritePage", signature := ⟨[1, 2], some 3⟩, verb := .overwritePage },
  .space "turbonomic" [
    { name := "hideListItem", signature := ⟨[1], none⟩, verb := .hideListItem }],
  .space "segment" [
    { name := "analyticsLoad", signature := ⟨[1], none⟩, verb := .analyticsLoad },
    { name := "analyticsIdentify", signature := ⟨[1, 2, 3], none⟩, verb := .analyticsIdentify },
    { name := "analyticsTrack", signature := ⟨[1], some 2⟩, verb := .analyticsTrack }]]

def find? (name : String) : Option CatalogueItem :=
  items.find? fun
    | .command e => e.isNamed name
    | .space s _ => s == name

def CatalogueItem.find? (i : CatalogueItem) (name : String) : Option Entry :=
  match i with
  | .command _ => none
  | .space _ entries => entries.find? (·.isNamed name)

def entries : List Entry :=
  items.flatMap fun
    | .command e => [e]
    | .space s es => es.map fun e => { e with name := s ++ "." ++ e.name }

end Catalogue

structure Invocation where
  name : String
  parameters : List (List Char)
  value : String

namespace Invocation

def parameter (i : Invocation) (k : Nat) : List Char := i.parameters[k]?.getD []

def text (i : Invocation) (k : Nat) : String := String.ofList (i.parameter k)

def required (i : Invocation) (k : Nat) (what : String) : Except CommandError (List Char) :=
  match i.parameter k with
  | [] => .error (.missing i.name (k + 1) what)
  | cs => .ok cs

def readPattern (cs : List Char) : Except CommandError Pattern :=
  (Pattern.parse cs).mapError .pattern

def readSelector (source : String) : Except CommandError Selector :=
  (Selector.parse source).mapError .selector

def pattern (i : Invocation) (k : Nat) (what : String) : Except CommandError Pattern := do
  readPattern (← i.required k what)

def selector (i : Invocation) (k : Nat) : Except CommandError (Option Selector) :=
  match Text.trim (i.parameter k) with
  | [] => .ok none
  | cs => (readSelector (String.ofList cs)).map some

/-- Decimal digits, perhaps after a plus sign, of a number that fits sixty-four bits. -/
def readNumber? (cs : List Char) : Option Nat :=
  let digits := match cs with
    | '+' :: rest => rest
    | _ => cs
  (Text.decValue? digits).filter (· < UInt64.size)

def number (i : Invocation) (k default : Nat) : Except CommandError Nat :=
  match Text.trim (i.parameter k) with
  | [] => .ok default
  | cs =>
    match readNumber? cs with
    | some n => .ok n
    | none => .error (.noNumber i.name (k + 1) (String.ofList cs))

def level (i : Invocation) (k : Nat) : Except CommandError Nat := (i.number k 1).map (max · 1)

def notEmpty (s : String) : Option String := if s.isEmpty then none else some s

end Invocation

def analyticsLoader : String :=
  "!function()\x7bvar analytics=window.analytics=window.analytics||[];" ++
  "if(!analytics.initialize&&!analytics.invoked)\x7banalytics.invoked=!0;" ++
  "analytics.load=function(key)\x7bvar t=document.createElement(\"script\");t.async=!0;" ++
  "t.src=\"https://cdn.segment.com/analytics.js/v1/\"+key+\"/analytics.min.js\";" ++
  "document.head.appendChild(t)\x7d;\x7d\x7d();"

def framePage (title url : String) : String :=
  "<head><title>" ++ title ++ "</title><style>html \x7bheight:100%;\x7d</style></head>" ++
  "<body style=\"margin:0;padding:0;width:100%;height:100%;overflow:hidden;\">" ++
  "<iframe src=\"" ++ url ++ "\" style=\"width:100%;height:100%\"></body>"

namespace Verb

/-- The place from which on the parameters of a condition are an invocation themselves. -/
def wrapsFrom : Verb → Option Nat
  | .whenBoth => some 2
  | .whenLocation => some 1
  | .whenSelector => some 1
  | _ => none

def wrap (v : Verb) (i : Invocation) (inner : Command) : Except CommandError Command :=
  match v with
  | .whenBoth => do pure (.conditional (i.text 0) (← i.selector 1) inner)
  | .whenSelector => do pure (.conditional "" (← i.selector 0) inner)
  | _ => .ok (.conditional (i.text 0) none inner)

def propertyName (cs : List Char) : String :=
  match Text.trim cs with
  | [] => Page.contentPath
  | cs => String.ofList cs

def linkSelector (href : List Char) : String :=
  String.ofList ("a[href=\"".toList ++ href.flatMap (fun c => if c = '"' then ['\\', '"'] else [c])
    ++ "\"]".toList)

def quoted (s : String) : String := Json.compact (.string s)

/-- The action of a call. The rules say where the sheet is in force. Verbs that make a condition
or a group have no action of their own. -/
def action (v : Verb) (includeRules excludeRules : List String) (i : Invocation) :
    Except CommandError Action :=
  match v with
  | .addScript =>
    .ok (.addScript (Invocation.notEmpty (String.ofList (Text.trim (i.parameter 0)))) i.value)
  | .replaceResponse => do
    let url ← i.required 0 "url"
    pure (.response { action := .replace, url := String.ofList url,
                      search := Invocation.notEmpty (i.text 1), value := i.value })
  | .patchResponse => do
    let url ← i.required 0 "url"
    pure (.response { action := .patch, url := String.ofList url, value := i.value })
  | .replace => do
    let search ← i.pattern 0 "search"
    pure (.replace search i.value (i.text 1) (← i.selector 2) (Invocation.notEmpty (i.text 3)))
  | .replaceAttribute => do
    let search ← i.pattern 0 "search"
    let name ← i.required 1 "attribute"
    pure (.replace search i.value (i.text 2) (← i.selector 3) (some (String.ofList name)))
  | .protect => do
    let word ← i.required 0 "search"
    pure (.protect (String.ofList word) (i.text 1) (← i.selector 2))
  | .replaceNeighbor => do
    let neighbor ← Invocation.readSelector (String.ofList (← i.required 2 "selector"))
    let search ← i.pattern 0 "search"
    let level ← i.level 1
    pure (.replaceNeighbor search i.value level neighbor (i.text 3) (← i.selector 4))
  | .insert place => do
    let search ← i.pattern 0 "search"
    let level ← i.level 1
    pure (.insert place search i.value level (← i.selector 2))
  | .style => do
    let search ← i.pattern 0 "search"
    let property ← i.required 1 "property"
    pure (.style search (String.ofList property) (← i.level 2) i.value)
  | .querySelector => do
    let selector ← Invocation.readSelector (String.ofList (← i.required 0 "selector"))
    pure (.querySelector selector (propertyName (i.parameter 1)) i.value)
  | .hide => do
    let search ← i.pattern 0 "search"
    let level ← i.level 1
    pure (.hide search level (← i.selector 2) (i.text 3) (i.text 4))
  | .replaceImage => do
    let _ ← i.required 0 "search"
    let searches ← (i.parameters.filter (!·.isEmpty)).mapM Invocation.readPattern
    pure (.replaceImage searches i.value)
  | .recolorImage => do pure (.recolorImage (← i.pattern 0 "search") i.value)
  | .replaceLink => do
    let selector ← Invocation.readSelector (linkSelector (← i.required 0 "href"))
    pure (.querySelector selector "href" i.value)
  | .request action => do
    let url ← i.required 0 "url"
    let types := if Text.allBlank (i.parameter 1) then none else some (i.text 1)
    pure (.request { action, url := String.ofList url, value := i.value, resourceTypes := types,
                     includeRules, excludeRules })
  | .stage => .ok (.stage (i.text 0) (i.text 1) i.value)
  | .overwriteMarkup => do pure (.overwrite (i.text 0) (← i.selector 1) i.value)
  | .overwritePage => .ok (.overwrite (i.text 0) none (framePage (i.text 1) i.value))
  | .hideListItem => do
    let selector ← Invocation.readSelector ".list-group-item"
    pure (.hide (← i.pattern 0 "search") 17 (some selector) "" "")
  | .analyticsIdentify => do
    let traits :=
      Json.compact (.object [("email", .string (i.text 2)), ("name", .string (i.text 1))])
    let user ← i.required 0 "user id"
    pure (.addScript none
      ("analytics.identify(" ++ quoted (String.ofList user) ++ ", " ++ traits ++ ");"))
  | .analyticsTrack => do
    let event ← i.required 0 "event"
    pure (.addScript none
      ("analytics.track(" ++ quoted (String.ofList event) ++ ", " ++ quoted i.value ++ ");"))
  | .analyticsLoad | .whenBoth | .whenLocation | .whenSelector => .error (.malformed i.name)

def command (v : Verb) (includeRules excludeRules : List String) (i : Invocation) :
    Except CommandError Command :=
  match v with
  | .analyticsLoad => do
    let key ← match Text.trim i.value.toList with
      | [] => i.required 0 "write key"
      | cs => .ok cs
    let load := "analytics.load(" ++ quoted (String.ofList key) ++ ");\nanalytics.page();"
    pure (.group [.action (.addScript none analyticsLoader), .action (.addScript none load)])
  | v => (v.action includeRules excludeRules i).map .action

end Verb
end PageOverlay
