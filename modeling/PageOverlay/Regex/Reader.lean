import PageOverlay.Regex.Basic
import PageOverlay.Regex.ClassNames
import PageOverlay.Text.Folding

/-!
# Reading expressions

The written form of expressions is read from left to right with a stack of the groups and the
brackets that are open. Each step takes at least one character, so the length of the text bounds
the steps. `none` means that the text is no expression.
-/

set_option autoImplicit false

namespace PageOverlay.Regex

open Text (CodeSet)

structure Flags where
  ignoreCase : Bool := false
  multiLine : Bool := false
  dotNewline : Bool := false
  swapGreed : Bool := false
  ascii : Bool := false
  spaced : Bool := false
  anyLineEnd : Bool := false
  deriving DecidableEq, Repr

structure Piece where
  body : Regex
  depth : Nat := 0

def depthLimit : Nat := 250

def skipSpaced : Bool → List Char → List Char
  | _, [] => []
  | inComment, c :: cs =>
    if inComment then skipSpaced (c != '\n') cs
    else if Text.isBlank c then skipSpaced false cs
    else if c = '#' then skipSpaced true cs
    else c :: cs

def skip (f : Flags) (cs : List Char) : List Char :=
  if f.spaced then skipSpaced false cs else cs

def closeCase (f : Flags) (s : CodeSet) : CodeSet :=
  if !f.ignoreCase then s
  else if f.ascii then
    let inside := s.inter (asciiSet [('A', 'Z'), ('a', 'z')])
    .ofRanges (s.ranges.toList ++ inside.ranges.toList.map (fun r =>
      if r.1 < 97 then (r.1 + 32, r.2 + 32) else (r.1 - 32, r.2 - 32)))
  else Text.foldClosure s

def admits (f : Flags) (s : CodeSet) : Bool :=
  !f.ascii || s.ranges.all fun r => r.2 < 128

def literal (f : Flags) (c : Char) : Option Regex :=
  if f.ignoreCase && f.ascii && 128 ≤ c.toNat then none
  else some (.set (closeCase f (.single c.toNat)))

inductive Escaped
  | char (c : Char)
  | set (s : CodeSet)
  | look (l : Look)

def charOfCode? (n : Nat) : Option Char :=
  if h : n.isValidChar then some (Char.ofNatAux n h) else none

def readCode (f : Flags) (digits : Nat) (cs : List Char) : Option (Char × List Char) :=
  match skip f cs with
  | '{' :: rest =>
    let body := rest.takeWhile (· ≠ '}')
    let kept := if f.spaced then body.filter (!Text.isBlank ·) else body
    match rest.drop body.length with
    | _ :: after => do
      let n ← Text.hexValue? kept
      let c ← charOfCode? n
      pure (c, after)
    | [] => none
  | cs =>
    let body := cs.take digits
    if body.length < digits then none
    else do
      let n ← Text.hexValue? body
      let c ← charOfCode? n
      if f.ascii && digits == 2 && 128 ≤ n then none else pure (c, cs.drop digits)

def readNamed (f : Flags) (negated : Bool) (cs : List Char) : Option (Escaped × List Char) :=
  if f.ascii then none
  else
    let close := fun (negated : Bool) (s : CodeSet) =>
      let s := closeCase f s
      Escaped.set (if negated then s.compl else s)
    match skip f cs with
    | '{' :: rest =>
      let body := rest.takeWhile (· ≠ '}')
      match rest.drop body.length with
      | _ :: after =>
        match body.span (· ≠ '!') with
        | (kind, '!' :: '=' :: value) =>
          (namedClass? (kind ++ '=' :: value)).map fun s => (close (!negated) s, after)
        | _ => (namedClass? body).map fun s => (close negated s, after)
      | [] => none
    | '\\' :: _ => none
    | c :: rest => (namedClass? [c]).map fun s => (close negated s, rest)
    | [] => none

/-- Edges written `\b{start}` and the like; a brace that begins no name is left for counting. -/
def readEdge (f : Flags) (rule : WordRule) (cs : List Char) : Option (Escaped × List Char) :=
  match cs with
  | '{' :: rest =>
    match skip f rest with
    | [] => none
    | c :: more =>
      if c.isAlpha || c == '-' then
        let name := (c :: more).takeWhile fun d => d.isAlpha || d == '-'
        match (c :: more).drop name.length with
        | '}' :: after =>
          match String.ofList name with
          | "start" => some (.look (.wordStart rule), after)
          | "end" => some (.look (.wordEnd rule), after)
          | "start-half" => some (.look (.noWordBefore rule), after)
          | "end-half" => some (.look (.noWordAfter rule), after)
          | _ => none
        | _ => none
      else some (.look (.wordEdge rule), cs)
  | _ => some (.look (.wordEdge rule), cs)

def readEscape (f : Flags) (cs : List Char) : Option (Escaped × List Char) :=
  let rule : WordRule := if f.ascii then .ascii else .unicode
  match cs with
  | [] => none
  | 'x' :: rest => (readCode f 2 rest).map fun (c, after) => (.char c, after)
  | 'u' :: rest => (readCode f 4 rest).map fun (c, after) => (.char c, after)
  | 'U' :: rest => (readCode f 8 rest).map fun (c, after) => (.char c, after)
  | 'p' :: rest => readNamed f false rest
  | 'P' :: rest => readNamed f true rest
  | 'a' :: rest => some (.char '\x07', rest)
  | 'f' :: rest => some (.char '\x0c', rest)
  | 't' :: rest => some (.char '\t', rest)
  | 'n' :: rest => some (.char '\n', rest)
  | 'r' :: rest => some (.char '\r', rest)
  | 'v' :: rest => some (.char '\x0b', rest)
  | 'A' :: rest => some (.look .textStart, rest)
  | 'z' :: rest => some (.look .textEnd, rest)
  | 'b' :: rest => readEdge f rule rest
  | 'B' :: rest => some (.look (.noWordEdge rule), rest)
  | '<' :: rest => some (.look (.wordStart rule), rest)
  | '>' :: rest => some (.look (.wordEnd rule), rest)
  | c :: rest =>
    match shortClass? f.ascii c.toLower with
    | some s =>
      if c.isLower then some (.set s, rest)
      else if f.ascii then none
      else some (.set s.compl, rest)
    | none => if c.toNat < 128 && !c.isAlphanum then some (.char c, rest) else none

inductive SetOp
  | inter
  | diff
  | symmDiff
  deriving DecidableEq, Repr

def SetOp.apply : SetOp → CodeSet → CodeSet → CodeSet
  | .inter => CodeSet.inter
  | .diff => CodeSet.diff
  | .symmDiff => CodeSet.symmDiff

/-- A bracket that is open: what was read since the last operator, and what waits before it. -/
structure Bracket where
  negated : Bool
  waiting : Option (SetOp × CodeSet) := none
  items : CodeSet := .empty

def Bracket.add (b : Bracket) (s : CodeSet) : Bracket := { b with items := b.items.union s }

def Bracket.combined (f : Flags) (b : Bracket) : CodeSet :=
  match b.waiting with
  | none => b.items
  | some (op, left) => op.apply (closeCase f left) (closeCase f b.items)

def Bracket.operate (f : Flags) (b : Bracket) (op : SetOp) : Bracket :=
  { b with waiting := some (op, b.combined f), items := .empty }

def Bracket.close (f : Flags) (b : Bracket) : CodeSet :=
  let s := closeCase f (b.combined f)
  if b.negated then s.compl else s

/-- Hyphens at the very beginning stand for themselves. -/
def readHyphens (f : Flags) : List Char → Bracket → Bracket × List Char
  | '-' :: rest, b =>
    let b := b.add (.single '-'.toNat)
    match rest with
    | ' ' :: _ | '\t' :: _ | '\n' :: _ | '#' :: _ =>
      if f.spaced then (b, skip f rest) else readHyphens f rest b
    | _ => readHyphens f rest b
  | cs, b => (b, cs)

def openBracket (f : Flags) (cs : List Char) : Bracket × List Char :=
  let (negated, cs) := match skip f cs with
    | '^' :: rest => (true, skip f rest)
    | cs => (false, cs)
  let (b, cs) := readHyphens f cs { negated }
  match cs with
  | ']' :: rest => if b.items.isEmpty then (b.add (.single ']'.toNat), rest) else (b, cs)
  | _ => (b, cs)

def readBracketClass (f : Flags) (cs : List Char) : Option (CodeSet × List Char) :=
  match cs with
  | ':' :: rest =>
    let (negated, rest) := match rest with
      | '^' :: more => (true, more)
      | _ => (false, rest)
    let name := rest.takeWhile (· ≠ ':')
    match rest.drop name.length with
    | ':' :: ']' :: after =>
      (bracketClass? (String.ofList name)).map fun s =>
        let s := closeCase f s
        (if negated then s.compl else s, after)
    | _ => none
  | _ => none

def readItem (f : Flags) (cs : List Char) : Option (Escaped × List Char) :=
  match cs with
  | [] => none
  | '\\' :: rest => readEscape f rest
  | c :: rest => some (.char c, rest)

def readRange (f : Flags) (cs : List Char) : Option (CodeSet × List Char) := do
  let (low, rest) ← readItem f cs
  let rest := skip f rest
  let alone ← match low with
    | .char c => if f.ascii && 128 ≤ c.toNat then none else some (CodeSet.single c.toNat)
    | .set s => some s
    | .look _ => none
  match rest with
  | '-' :: more =>
    match skip f more with
    | [] => none
    | ']' :: _ => pure (alone, rest)
    | '-' :: _ => pure (alone, rest)
    | more =>
      let (high, after) ← readItem f more
      match low, high with
      | .char a, .char b =>
        if f.ascii && 128 ≤ b.toNat then none
        else if a ≤ b then pure (.range a.toNat b.toNat, after) else none
      | _, _ => none
  | _ => pure (alone, rest)

/-- The rest of a bracketed class whose brackets are given, the innermost first. -/
def readBrackets (f : Flags) :
    Nat → Nat → Bracket → List Bracket → List Char → Option (CodeSet × Nat × List Char)
  | 0, _, _, _, _ => none
  | fuel + 1, depth, b, outer, cs =>
    match skip f cs with
    | [] => none
    | '[' :: rest =>
      match readBracketClass f rest with
      | some (s, after) => readBrackets f fuel depth (b.add s) outer after
      | none =>
        let (inner, after) := openBracket f rest
        readBrackets f fuel (max depth (outer.length + 2)) inner (b :: outer) after
    | ']' :: rest =>
      let s := b.close f
      if !admits f s then none
      else match outer with
      | [] => some (s, depth, rest)
      | parent :: others => readBrackets f fuel depth (parent.add s) others rest
    | '&' :: '&' :: rest => readBrackets f fuel depth (b.operate f .inter) outer rest
    | '-' :: '-' :: rest => readBrackets f fuel depth (b.operate f .diff) outer rest
    | '~' :: '~' :: rest => readBrackets f fuel depth (b.operate f .symmDiff) outer rest
    | cs =>
      match readRange f cs with
      | some (s, after) => readBrackets f fuel depth (b.add s) outer after
      | none => none

/-- A group that is open: what was read of it, its branches and items last first. An item is
`none` where only flags were set. -/
structure Frame where
  capture : Option Nat := none
  outside : Flags
  branches : List Piece := []
  items : List (Option Piece) := []

def Frame.sequence (fr : Frame) : Piece :=
  let depth := fr.items.foldl (fun n i => max n ((i.map Piece.depth).getD 0)) 0
  let body := fr.items.foldl (fun r i =>
    match i, r with
    | some p, .empty => p.body
    | some p, r => .seq p.body r
    | none, r => r) Regex.empty
  { body, depth := if 2 ≤ fr.items.length then depth + 1 else depth }

def Frame.content (fr : Frame) : Piece :=
  match fr.branches with
  | [] => fr.sequence
  | _ =>
    let last := fr.sequence
    let body := fr.branches.foldl (fun r p => .alt p.body r) last.body
    { body, depth := fr.branches.foldl (fun n p => max n p.depth) last.depth + 1 }

def Frame.nextBranch (fr : Frame) : Frame :=
  { fr with branches := fr.sequence :: fr.branches, items := [] }

structure ReaderState where
  flags : Flags
  inner : Frame
  outer : List Frame := []
  groups : Nat := 0
  names : List (String × Nat) := []

namespace ReaderState

def add (st : ReaderState) (p : Piece) : ReaderState :=
  { st with inner := { st.inner with items := some p :: st.inner.items } }

def addLeaf (st : ReaderState) (r : Regex) : ReaderState := st.add { body := r }

def repeatLast (st : ReaderState) (least : Nat) (most : Option Nat) (greedy : Bool) :
    Option ReaderState :=
  match st.inner.items with
  | some p :: before =>
    let greedy := greedy != st.flags.swapGreed
    let p : Piece := { body := repeated least most greedy p.body, depth := p.depth + 1 }
    some { st with inner := { st.inner with items := some p :: before } }
  | _ => none

def openGroup (st : ReaderState) (capture : Option Nat) (flags : Flags) : ReaderState :=
  { st with flags, inner := { capture, outside := st.flags }, outer := st.inner :: st.outer }

def openCapture (st : ReaderState) : ReaderState :=
  { st.openGroup (some (st.groups + 1)) st.flags with groups := st.groups + 1 }

def closeGroup (st : ReaderState) : Option ReaderState :=
  match st.outer with
  | [] => none
  | parent :: others =>
    let p := st.inner.content
    let body := match st.inner.capture with
      | some n => .capture n p.body
      | none => p.body
    some (add { st with flags := st.inner.outside, inner := parent, outer := others }
      { body, depth := p.depth + 1 })

end ReaderState

def Flags.set? (f : Flags) (on : Bool) : Char → Option Flags
  | 'i' => some { f with ignoreCase := on }
  | 'm' => some { f with multiLine := on }
  | 's' => some { f with dotNewline := on }
  | 'U' => some { f with swapGreed := on }
  | 'u' => some { f with ascii := !on }
  | 'x' => some { f with spaced := on }
  | 'R' => some { f with anyLineEnd := on }
  | _ => none

/-- The flags between `(?` and `:` or `)`, with the character that ends them. A letter may stand
once and a hyphen may stand once, before a letter. -/
def readFlags : List Char → Bool → List Char → Flags → Option (Flags × Char × Bool × List Char)
  | [], _, _, _ => none
  | c :: cs, on, met, f =>
    if c = ':' ∨ c = ')' then
      match met with
      | '-' :: _ => none
      | _ => some (f, c, met.isEmpty, cs)
    else if met.contains c then none
    else if c = '-' then readFlags cs false (c :: met) f
    else match f.set? on c with
      | some f => readFlags cs on (c :: met) f
      | none => none

def readGroupName (cs : List Char) : Option (String × List Char) :=
  let name := cs.takeWhile (· ≠ '>')
  match name, cs.drop name.length with
  | c :: rest, _ :: after =>
    if (c == '_' || Text.isLetter c) &&
        rest.all (fun d => d == '_' || d == '.' || d == '[' || d == ']' ||
          Text.isLetterOrNumeral d) then
      some (String.ofList name, after)
    else none
  | _, _ => none

def readGroup (st : ReaderState) (cs : List Char) : Option (ReaderState × List Char) :=
  let named := fun (cs : List Char) => do
    let (name, after) ← readGroupName cs
    if st.names.any (·.1 == name) then none
    else pure ({ st.openCapture with names := (name, st.groups + 1) :: st.names }, after)
  match skip st.flags cs with
  | '?' :: 'P' :: '<' :: rest => named rest
  | '?' :: '<' :: '=' :: _ => none
  | '?' :: '<' :: '!' :: _ => none
  | '?' :: '<' :: rest => named rest
  | '?' :: rest => do
    let (flags, last, none_, after) ← readFlags rest true [] st.flags
    if last = ')' then
      if none_ then none
      else pure ({ st with flags, inner := { st.inner with items := none :: st.inner.items } },
        after)
    else pure (st.openGroup none flags, after)
  | cs => some (st.openCapture, cs)

def readCount (f : Flags) (cs : List Char) : Option (Nat × List Char) := do
  let cs := cs.dropWhile Text.isBlank
  let digits := cs.takeWhile Char.isDigit
  let n ← Text.decValue? digits
  if n < UInt32.size then
    pure (n, (skip f (cs.drop digits.length)).dropWhile Text.isBlank)
  else none

def readGreed (cs : List Char) : Bool × List Char :=
  match cs with
  | '?' :: rest => (false, rest)
  | _ => (true, cs)

def readBounds (f : Flags) (cs : List Char) : Option (Nat × Option Nat × List Char) := do
  let (least, rest) ← readCount f (skip f cs)
  match rest with
  | '}' :: after => pure (least, some least, skip f after)
  | ',' :: rest =>
    match skip f rest with
    | '}' :: after => pure (least, none, skip f after)
    | rest =>
      let (most, rest) ← readCount f rest
      match rest with
      | '}' :: after => if least ≤ most then pure (least, some most, skip f after) else none
      | _ => none
  | _ => none

def step (st : ReaderState) (c : Char) (cs : List Char) : Option (ReaderState × List Char) :=
  let f := st.flags
  match c with
  | '(' => readGroup st cs
  | ')' => st.closeGroup.map fun st => (st, cs)
  | '|' => some ({ st with inner := st.inner.nextBranch }, cs)
  | '[' => do
    let (b, rest) := openBracket f cs
    let (s, depth, after) ← readBrackets f (cs.length + 1) 1 b [] rest
    pure (st.add { body := .set s, depth }, after)
  | '?' =>
    let (greedy, rest) := readGreed cs
    (st.repeatLast 0 (some 1) greedy).map fun st => (st, rest)
  | '*' =>
    let (greedy, rest) := readGreed cs
    (st.repeatLast 0 none greedy).map fun st => (st, rest)
  | '+' =>
    let (greedy, rest) := readGreed cs
    (st.repeatLast 1 none greedy).map fun st => (st, rest)
  | '{' => do
    let (least, most, rest) ← readBounds f cs
    let (greedy, rest) := readGreed rest
    let st ← st.repeatLast least most greedy
    pure (st, rest)
  | '\\' => do
    let (e, rest) ← readEscape f cs
    match e with
    | .char c => do pure (st.addLeaf (← literal f c), rest)
    | .set s => pure (st.addLeaf (.set s), rest)
    | .look l => pure (st.addLeaf (.look l), rest)
  | '.' =>
    if f.ascii then none
    else
      let s := if f.dotNewline then CodeSet.empty
        else if f.anyLineEnd then .ofRanges [(10, 10), (13, 13)] else .single 10
      some (st.addLeaf (.set s.compl), cs)
  | '^' =>
    let l := if !f.multiLine then Look.textStart
      else if f.anyLineEnd then .anyLineStart else .lineStart
    some (st.addLeaf (.look l), cs)
  | '$' =>
    let l := if !f.multiLine then Look.textEnd
      else if f.anyLineEnd then .anyLineEnd else .lineEnd
    some (st.addLeaf (.look l), cs)
  | c => do pure (st.addLeaf (← literal f c), cs)

def steps : Nat → ReaderState → List Char → Option ReaderState
  | 0, _, _ => none
  | fuel + 1, st, cs =>
    match skip st.flags cs with
    | [] => some st
    | c :: rest =>
      match step st c rest with
      | some (st, rest) => steps fuel st rest
      | none => none

structure Expression where
  body : Regex
  groups : Nat
  names : List (String × Nat)

/-- Reads an expression; one that is nested too deeply or needs too many states is refused. -/
def read? (flags : Flags) (cs : List Char) : Option Expression := do
  let st ← steps (cs.length + 1) { flags, inner := { outside := flags } } cs
  if !st.outer.isEmpty then none
  else
    let p := st.inner.content
    if depthLimit < p.depth || weightLimit < p.body.weight then none
    else pure { body := p.body, groups := st.groups, names := st.names }

end PageOverlay.Regex
