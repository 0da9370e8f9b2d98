import PageOverlay.Text.Category
import PageOverlay.Text.Pieces
import PageOverlay.Text.Property
import PageOverlay.Text.Word
import PageOverlay.Text.WritingSystem

/-!
# Named classes

The classes that an expression may name: the short escapes, the bracketed ASCII classes and the
character properties. Property names are compared without case, spaces, hyphens and underscores.
-/

set_option autoImplicit false

namespace PageOverlay.Regex

open Text (CodeSet)

def asciiSet (rs : List (Char × Char)) : CodeSet :=
  .ofRanges (rs.map fun r => (r.1.toNat, r.2.toNat))

def asciiWordSet : CodeSet := asciiSet [('0', '9'), ('A', 'Z'), ('_', '_'), ('a', 'z')]

def asciiDigitSet : CodeSet := asciiSet [('0', '9')]

def asciiBlankSet : CodeSet := asciiSet [('\t', '\r'), (' ', ' ')]

def blankSet : CodeSet := .ofRanges [(9, 13), (0x20, 0x20), (0x85, 0x85), (0xA0, 0xA0),
  (0x1680, 0x1680), (0x2000, 0x200A), (0x2028, 0x2029), (0x202F, 0x202F), (0x205F, 0x205F),
  (0x3000, 0x3000)]

def shortClass? (ascii : Bool) : Char → Option CodeSet
  | 'd' => some (if ascii then asciiDigitSet else asciiDigitSet.union Text.digitTable)
  | 's' => some (if ascii then asciiBlankSet else blankSet)
  | 'w' => some (if ascii then asciiWordSet else asciiWordSet.union Text.wordTable)
  | _ => none

def bracketClass? : String → Option CodeSet
  | "alnum" => some (asciiSet [('0', '9'), ('A', 'Z'), ('a', 'z')])
  | "alpha" => some (asciiSet [('A', 'Z'), ('a', 'z')])
  | "ascii" => some (.range 0 127)
  | "blank" => some (asciiSet [('\t', '\t'), (' ', ' ')])
  | "cntrl" => some (.ofRanges [(0, 31), (127, 127)])
  | "digit" => some asciiDigitSet
  | "graph" => some (asciiSet [('!', '~')])
  | "lower" => some (asciiSet [('a', 'z')])
  | "print" => some (asciiSet [(' ', '~')])
  | "punct" => some (asciiSet [('!', '/'), (':', '@'), ('[', '`'), ('{', '~')])
  | "space" => some asciiBlankSet
  | "upper" => some (asciiSet [('A', 'Z')])
  | "word" => some asciiWordSet
  | "xdigit" => some (asciiSet [('0', '9'), ('A', 'F'), ('a', 'f')])
  | _ => none

def isFiller (c : Char) : Bool := c == ' ' || c == '_' || c == '-'

def plainName (cs : List Char) : String :=
  let lower := cs.map Char.toLower
  let body := match lower with
    | 'i' :: 's' :: rest => rest
    | _ => lower
  let kept := body.filter fun c => !isFiller c && c.toNat < 128
  if body.length < lower.length && kept == ['c'] then "isc" else String.ofList kept

def namedClass? (cs : List Char) : Option CodeSet :=
  let valued := fun (kind value : List Char) =>
    let value := plainName value
    match plainName kind with
    | "gc" | "generalcategory" => Text.category? value
    | "sc" | "script" | "scx" | "scriptextensions" => Text.script? value
    | _ => none
  match cs.span (· ≠ ':'), cs.span (· ≠ '=') with
  | (kind, _ :: value), _ => valued kind value
  | _, (kind, _ :: value) => valued kind value
  | _, _ =>
    let name := plainName cs
    (Text.property? name).or ((Text.category? name).or (Text.script? name))

end PageOverlay.Regex
