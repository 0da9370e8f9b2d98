import PageOverlay.Json.Basic
import PageOverlay.Json.Double

/-!
# Reading JSON

Whole numbers that fit sixty-four bits stay whole, others become doubles. Texts may not hold
control characters or half of a surrogate pair, and arrays and objects nest at most 127 deep.
-/

set_option autoImplicit false

namespace PageOverlay.Json

def isSpace (c : Char) : Bool := c == ' ' || c == '\n' || c == '\t' || c == '\r'

def skipSpace (cs : List Char) : List Char := cs.dropWhile isSpace

def largestWhole : Nat := UInt64.size - 1

def largestExponent : Nat := UInt32.size / 2 - 1

def digitsWhileFit : Nat → Nat → List Char → Nat × Nat × List Char
  | n, count, [] => (n, count, [])
  | n, count, c :: cs =>
    match Text.decDigit? c with
    | some d =>
      if largestWhole < n * 10 + d then (n, count, c :: cs)
      else digitsWhileFit (n * 10 + d) (count + 1) cs
    | none => (n, count, c :: cs)

def isDigit (c : Char) : Bool := (Text.decDigit? c).isSome

def double? (negative : Bool) (digits : Nat) (exponent : Int) : Option Json :=
  (Double.ofDecimal? negative (UInt64.ofNat digits) exponent).map fun bits => .number (.double bits)

/-- The exponent after `e`. One too large for thirty-two bits gives zero, unless it would make the
number infinite. -/
def readExponent (negative : Bool) (digits : Nat) (start : Int) (cs : List Char) :
    Option (Json × List Char) :=
  let (down, cs) := match cs with
    | '+' :: rest => (false, rest)
    | '-' :: rest => (true, rest)
    | _ => (false, cs)
  let written := cs.takeWhile isDigit
  let rest := cs.drop written.length
  match Text.decValue? written with
  | none => none
  | some e =>
    if largestExponent < e then
      if digits ≠ 0 ∧ !down then none
      else (double? negative 0 0).map fun j => (j, rest)
    else
      (double? negative digits (if down then start - e else start + e)).map fun j => (j, rest)

def readScale (negative : Bool) (digits : Nat) (exponent : Int) (cs : List Char) :
    Option (Json × List Char) :=
  match cs with
  | 'e' :: rest => readExponent negative digits exponent rest
  | 'E' :: rest => readExponent negative digits exponent rest
  | _ => (double? negative digits exponent).map fun j => (j, cs)

def readFraction (negative : Bool) (digits : Nat) (exponent : Int) (cs : List Char) :
    Option (Json × List Char) :=
  match digitsWhileFit digits 0 cs with
  | (n, count, rest) =>
    match rest with
    | c :: _ =>
      if isDigit c then readScale negative n (exponent - count) (rest.dropWhile isDigit)
      else if count = 0 then none
      else readScale negative n (exponent - count) rest
    | [] => if count = 0 then none else readScale negative n (exponent - count) []

def whole (negative : Bool) (n : Nat) : JsonNumber :=
  if !negative then .natural n
  else if n = 0 ∨ UInt64.size / 2 < n then
    .double (-(UInt64.ofNat n).toFloat).toBits
  else .negative n

def readNumber (negative : Bool) (cs : List Char) : Option (Json × List Char) :=
  let after := fun (n : Nat) (cs : List Char) =>
    match cs with
    | '.' :: rest => readFraction negative n 0 rest
    | 'e' :: rest => readExponent negative n 0 rest
    | 'E' :: rest => readExponent negative n 0 rest
    | _ => some (.number (whole negative n), cs)
  match cs with
  | [] => none
  | '0' :: rest =>
    match rest with
    | [] => after 0 []
    | d :: _ => if isDigit d then none else after 0 rest
  | c :: _ =>
    if !isDigit c then none
    else
      let (n, _, rest) := digitsWhileFit 0 0 cs
      match rest with
      | [] => after n []
      | d :: _ =>
        if isDigit d then
          let more := rest.takeWhile isDigit
          let rest := rest.drop more.length
          match rest with
          | '.' :: rest => readFraction negative n more.length rest
          | _ => readScale negative n more.length rest
        else after n rest

def readUnit (cs : List Char) : Option (Nat × List Char) :=
  let body := cs.take 4
  if body.length < 4 then none
  else (Text.hexValue? body).map fun n => (n, cs.drop 4)

def charOfCode? (n : Nat) : Option Char :=
  if h : n.isValidChar then some (Char.ofNatAux n h) else none

def readUnicode (cs : List Char) : Option (Char × List Char) := do
  let (n, rest) ← readUnit cs
  if 0xD800 ≤ n ∧ n < 0xDC00 then
    match rest with
    | '\\' :: 'u' :: more =>
      let (m, rest) ← readUnit more
      if 0xDC00 ≤ m ∧ m < 0xE000 then
        let c ← charOfCode? (0x10000 + (n - 0xD800) * 0x400 + (m - 0xDC00))
        pure (c, rest)
      else none
    | _ => none
  else
    let c ← charOfCode? n
    pure (c, rest)

def simpleEscape? : Char → Option Char
  | '"' => some '"'
  | '\\' => some '\\'
  | '/' => some '/'
  | 'b' => some '\x08'
  | 'f' => some '\x0c'
  | 'n' => some '\n'
  | 'r' => some '\r'
  | 't' => some '\t'
  | _ => none

/-- The rest of a text after its opening quote, and what follows the closing one. The number
bounds the characters. -/
def readText : Nat → List Char → List Char → Option (String × List Char)
  | 0, _, _ => none
  | fuel + 1, done, cs =>
    match cs with
    | [] => none
    | '"' :: rest => some (String.ofList done.reverse, rest)
    | '\\' :: 'u' :: rest =>
      match readUnicode rest with
      | some (c, rest) => readText fuel (c :: done) rest
      | none => none
    | '\\' :: c :: rest =>
      match simpleEscape? c with
      | some d => readText fuel (d :: done) rest
      | none => none
    | ['\\'] => none
    | c :: rest => if c.toNat < 0x20 then none else readText fuel (c :: done) rest

def afterWord (word : List Char) (value : Json) (cs : List Char) : Option (Json × List Char) :=
  if word.isPrefixOf cs then some (value, cs.drop word.length) else none

mutual

def readValue : Nat → Nat → List Char → Option (Json × List Char)
  | 0, _, _ => none
  | fuel + 1, depth, cs =>
    match skipSpace cs with
    | [] => none
    | '"' :: rest =>
      (readText (rest.length + 1) [] rest).map fun (s, rest) => (.string s, rest)
    | '[' :: rest =>
      if depth = 0 then none
      else match skipSpace rest with
        | ']' :: rest => some (.array [], rest)
        | rest => readItems fuel (depth - 1) [] rest
    | '{' :: rest =>
      if depth = 0 then none
      else match skipSpace rest with
        | '}' :: rest => some (.object [], rest)
        | rest => readFields fuel (depth - 1) [] rest
    | 'n' :: rest => afterWord ['u', 'l', 'l'] .null rest
    | 't' :: rest => afterWord ['r', 'u', 'e'] (.bool true) rest
    | 'f' :: rest => afterWord ['a', 'l', 's', 'e'] (.bool false) rest
    | '-' :: rest => readNumber true rest
    | rest => readNumber false rest

def readItems : Nat → Nat → List Json → List Char → Option (Json × List Char)
  | 0, _, _, _ => none
  | fuel + 1, depth, done, cs =>
    match readValue fuel depth cs with
    | none => none
    | some (v, rest) =>
      match skipSpace rest with
      | ',' :: rest => readItems fuel depth (v :: done) rest
      | ']' :: rest => some (.array (v :: done).reverse, rest)
      | _ => none

def readFields : Nat → Nat → List (String × Json) → List Char → Option (Json × List Char)
  | 0, _, _, _ => none
  | fuel + 1, depth, done, cs =>
    match skipSpace cs with
    | '"' :: rest =>
      match readText (rest.length + 1) [] rest with
      | none => none
      | some (key, rest) =>
        match skipSpace rest with
        | ':' :: rest =>
          match readValue fuel depth rest with
          | none => none
          | some (v, rest) =>
            match skipSpace rest with
            | ',' :: rest => readFields fuel depth ((key, v) :: done) rest
            | '}' :: rest => some (.object ((key, v) :: done).reverse, rest)
            | _ => none
        | _ => none
    | _ => none

end

def deepest : Nat := 127

def readRaw? (cs : List Char) : Option Json :=
  match readValue (2 * cs.length + 2) deepest cs with
  | some (v, rest) => if (skipSpace rest).isEmpty then some v else none
  | none => none

mutual

/-- The value with the fields of every object in ascending order; of fields of one name the last
counts. -/
def settle : Json → Json
  | .array items => .array (settleItems items)
  | .object fields => .object (Fields.ofList (settleFields fields))
  | j => j

def settleItems : List Json → List Json
  | [] => []
  | j :: rest => settle j :: settleItems rest

def settleFields : List (String × Json) → List (String × Json)
  | [] => []
  | (name, j) :: rest => (name, settle j) :: settleFields rest

end

def read? (cs : List Char) : Option Json := (readRaw? cs).map settle

end PageOverlay.Json
