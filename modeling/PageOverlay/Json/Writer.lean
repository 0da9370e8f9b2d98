import PageOverlay.Json.Basic
import PageOverlay.Json.Double

/-!
# Writing JSON

The compact form, and the form with two blanks for each level.
-/

set_option autoImplicit false

namespace PageOverlay.Json

def escapeChar (c : Char) : List Char :=
  match c with
  | '"' => ['\\', '"']
  | '\\' => ['\\', '\\']
  | '\x08' => ['\\', 'b']
  | '\x0c' => ['\\', 'f']
  | '\n' => ['\\', 'n']
  | '\r' => ['\\', 'r']
  | '\t' => ['\\', 't']
  | c =>
    if c.toNat < 0x20 then
      ['\\', 'u', '0', '0', Text.hexDigitChar (c.toNat / 16), Text.hexDigitChar (c.toNat % 16)]
    else [c]

def writeText (s : String) : List Char := '"' :: s.toList.flatMap escapeChar ++ ['"']

def writeNumber : JsonNumber → List Char
  | .natural n => Double.digitsOf n
  | .negative n => '-' :: Double.digitsOf n
  | .double bits => Double.text bits

mutual

def write : Json → List Char
  | .null => ['n', 'u', 'l', 'l']
  | .bool true => ['t', 'r', 'u', 'e']
  | .bool false => ['f', 'a', 'l', 's', 'e']
  | .number n => writeNumber n
  | .string s => writeText s
  | .array [] => ['[', ']']
  | .array (v :: vs) => '[' :: write v ++ writeItems vs
  | .object [] => ['\x7b', '\x7d']
  | .object ((k, v) :: fs) => '\x7b' :: writeText k ++ ':' :: write v ++ writeFields fs

def writeItems : List Json → List Char
  | [] => [']']
  | v :: vs => ',' :: write v ++ writeItems vs

def writeFields : List (String × Json) → List Char
  | [] => ['\x7d']
  | (k, v) :: fs => ',' :: writeText k ++ ':' :: write v ++ writeFields fs

end

def compact (j : Json) : String := String.ofList (write j)

def newLine (level : Nat) : List Char := '\n' :: List.replicate (2 * level) ' '

mutual

def layOut (level : Nat) : Json → List Char
  | .array [] => ['[', ']']
  | .array (v :: vs) =>
    '[' :: newLine (level + 1) ++ layOut (level + 1) v ++ layOutItems level vs
  | .object [] => ['\x7b', '\x7d']
  | .object ((k, v) :: fs) =>
    '\x7b' :: newLine (level + 1) ++ writeText k ++ ':' :: ' ' :: layOut (level + 1) v
      ++ layOutFields level fs
  | j => write j

def layOutItems (level : Nat) : List Json → List Char
  | [] => newLine level ++ [']']
  | v :: vs => ',' :: newLine (level + 1) ++ layOut (level + 1) v ++ layOutItems level vs

def layOutFields (level : Nat) : List (String × Json) → List Char
  | [] => newLine level ++ ['\x7d']
  | (k, v) :: fs =>
    ',' :: newLine (level + 1) ++ writeText k ++ ':' :: ' ' :: layOut (level + 1) v
      ++ layOutFields level fs

end

def pretty (j : Json) : String := String.ofList (layOut 0 j)

end PageOverlay.Json
