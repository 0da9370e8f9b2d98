import PageOverlay.Text.Blank

/-!
# Lines

A sheet is read line by line. What a line is depends on its trimmed text alone, mostly on its
first character.
-/

set_option autoImplicit false

namespace PageOverlay.Sheet

inductive LineKind
  | blank
  | comment
  | header
  | option
  | declaration
  | importing
  | command
  | assignment
  | text
  deriving DecidableEq, Repr

structure Line where
  number : Nat
  kind : LineKind
  text : List Char
  deriving DecidableEq, Repr

def closesOnce : List Char → Bool
  | [] => false
  | c :: cs => if c = ']' then cs.isEmpty else closesOnce cs

def kindOf (cs : List Char) : LineKind :=
  match cs with
  | [] => .blank
  | c :: rest =>
    if c = '#' ∨ c = ';' then .comment
    else if c = '[' ∧ closesOnce rest then .header
    else if c = '@' then .option
    else if c = '$' then .declaration
    else if c = '+' then .importing
    else if c = '!' then .command
    else if cs.contains '=' then .assignment
    else .text

/-- Texts between line breaks: a carriage return, a line feed, or the two in this order. -/
def splitLines : List Char → List (List Char)
  | [] => [[]]
  | '\r' :: '\n' :: cs => [] :: splitLines cs
  | c :: cs =>
    if c = '\r' ∨ c = '\n' then [] :: splitLines cs
    else match splitLines cs with
      | [] => [[c]]
      | l :: ls => (c :: l) :: ls

def number : Nat → List (List Char) → List Line
  | _, [] => []
  | n, l :: ls =>
    { number := n, kind := kindOf (Text.trim l), text := Text.trim l } :: number (n + 1) ls

def lines (source : List Char) : List Line := number 1 (splitLines source)

end PageOverlay.Sheet
