import PageOverlay.Configuration.Commands

/-!
# Shortened labels

Charts and maps shorten their labels or spread them over lines, and keep the full text elsewhere.
Here the full text is transformed and the label is shortened again in the same way.
-/

set_option autoImplicit false

namespace PageOverlay

def Selector.known (source : String) : Selector :=
  match Selector.parse source with
  | .ok s => s
  | .error _ => .css []

namespace Labels

def flowMapTitle : Selector := .known "svg .adsFlowMapNode > title"
def flowMapLabel : Selector := .known ".adsFlowMapTextContainer tspan"
def textTitle : Selector := .known "svg text title"
def lineSpan : Selector := .known "tspan"
def namedSpan : Selector := .known "svg > g text > tspan[name]"
def journeyLabel : Selector :=
  .known "eum-user-journey-map-label > div.eum-ui-user-journey-node-body"

def ellipsis : List Char := ['.', '.', '.']

def fullPath : String := "data-full-string"

structure Transformer where
  configuration : Configuration
  commands : List Command

def Transformer.transform (t : Transformer) (text : List Char) : Change (List Char) := do
  let p ← Change.page
  let s ← Change.ofExcept
    (t.configuration.transformWith t.commands p.location (String.ofList text))
  pure s.toList

def contentOf (p : Page) (n : NodeId) : List Char :=
  ((p.property? n Page.contentPath).getD "").toList

def takeLast (n : Nat) (cs : List Char) : List Char := cs.drop (cs.length - n)

def cutAtEllipsis? : List Char → Option (List Char × List Char)
  | [] => none
  | c :: cs =>
    match Text.afterBeginning? ellipsis (c :: cs) with
    | some after => some ([], after)
    | none => (cutAtEllipsis? cs).map fun (before, after) => (c :: before, after)

def forAll {α : Type} (step : α → Change (List Undo)) : List α → Change (List Undo)
  | [] => pure []
  | a :: rest => do
    let first ← step a
    let others ← forAll step rest
    pure (first ++ others)

def write (n : NodeId) (path : String) (text : List Char) : Change (List Undo) := do
  pure (← Change.record n path (String.ofList text)).toList

def flowMapStep (node : NodeId) (text : List Char) (label : NodeId) : Change (List Undo) := do
  let p ← Change.page
  if (p.ancestors label).contains node && (cutAtEllipsis? (contentOf p label)).isSome then
    write label Page.contentPath text
  else pure []

def cutInMiddle (full : List Char) : List Char :=
  if 32 < full.length then full.take 15 ++ ellipsis ++ takeLast 15 full else full

def flowMap (t : Transformer) (labels : List NodeId) (title : NodeId) : Change (List Undo) := do
  let p ← Change.page
  match p.parent? title with
  | none => pure []
  | some node =>
    let full ← t.transform (contentOf p title)
    forAll (flowMapStep node (cutInMiddle full)) labels

def flowMaps (t : Transformer) : Change (List Undo) := do
  let p ← Change.page
  forAll (flowMap t (p.query flowMapLabel)) (p.query flowMapTitle)

def fitWords (total : Nat) (words : List (List Char)) : List (List Char) :=
  if total < words.length then words.take (total - 1) ++ [ellipsis] else words

/-- Gives each line as many of the words as it had before. -/
def lineTexts : List (NodeId × Nat) → List (List Char) → List (NodeId × List Char)
  | [], _ => []
  | (n, count) :: rest, words =>
    (n, Text.joinWith [' '] (words.take count)) :: lineTexts rest (words.drop count)

def newLines (p : Page) (spans : List NodeId) (full : List Char) : List (NodeId × List Char) :=
  let lines := spans.map (contentOf p)
  let counts := lines.map fun l => (Text.pieces ' ' l).length
  let total := (lines.flatMap (Text.pieces ' ')).length
  lineTexts (spans.zip counts) (fitWords total (Text.pieces ' ' full))

def writeLine (line : NodeId × List Char) : Change (List Undo) :=
  write line.1 Page.contentPath line.2

def splitLine (t : Transformer) (title : NodeId) : Change (List Undo) := do
  let p ← Change.page
  match p.parent? title with
  | none => pure []
  | some text =>
    let spans := (p.descendants text).filter (lineSpan.accepts p)
    if spans.length < 2 then pure []
    else
      let full ← t.transform (Text.joinWith [' '] (spans.map (contentOf p)))
      forAll writeLine (newLines p spans full)

/-- Labels of several lines next to a title: every line keeps its number of words. -/
def splitLines (t : Transformer) : Change (List Undo) := do
  forAll (splitLine t) ((← Change.page).query textTitle)

def truncatedTitle (t : Transformer) (title : NodeId) : Change (List Undo) := do
  let p ← Change.page
  match p.parent? title with
  | none => pure []
  | some text =>
    match cutAtEllipsis? (contentOf p text) with
    | none => pure []
    | some (short, long) =>
      if short.isPrefixOf long then
        let full ← t.transform long
        match (p.children text).find? p.isText with
        | some n => write n Page.dataPath (full.take short.length ++ ellipsis)
        | none => pure []
      else pure []

def truncatedTitles (t : Transformer) : Change (List Undo) := do
  forAll (truncatedTitle t) ((← Change.page).query textTitle)

def named (t : Transformer) (span : NodeId) : Change (List Undo) := do
  let p ← Change.page
  let full ← t.transform ((p.property? span "name").getD "").toList
  write span Page.contentPath (full.take (contentOf p span).length)

def namedSpans (t : Transformer) : Change (List Undo) := do
  forAll (named t) ((← Change.page).query namedSpan)

def cutAtStart (shown : Nat) (full : List Char) : List Char :=
  if shown < full.length then ellipsis ++ takeLast (shown + 3) full else full

def journey (t : Transformer) (n : NodeId) : Change (List Undo) := do
  let p ← Change.page
  let kept := ((p.property? n fullPath).getD "").toList
  let full ← t.transform kept
  if full = kept then pure []
  else
    let first ← write n fullPath full
    let others ← write n Page.contentPath (cutAtStart (contentOf p n).length full)
    pure (first ++ others)

def journeys (t : Transformer) : Change (List Undo) := do
  forAll (journey t) ((← Change.page).query journeyLabel)

def normalize (t : Transformer) : Change (List Undo) :=
  forAll (fun step => step t) [flowMaps, splitLines, truncatedTitles, namedSpans, journeys]

end Labels
end PageOverlay
