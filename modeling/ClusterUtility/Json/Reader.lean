/-
Reading JSON text.

The reader is strict: one value with blanks around it and nothing after it,
no leading zeros, no raw control characters in strings. A reader of a part
takes the characters that are left and gives the part with the characters
after it, or nothing where the text is ill-formed.

Where a text is well-formed but no value stands for it, the part is
unreadable: a string with half of a surrogate pair, an object with such a
name, a number that is too large, brackets inside more than `maxDepth`
others. `parse?` keeps such parts, for those who pass over what they do not
know; `parseWhole?` refuses them.
-/
import ClusterUtility.Json.Basic

namespace ClusterUtility.Json

/-- A reader of a part of a text. -/
abbrev Reader (α : Type) := List Char → Option (α × List Char)

/-- The deepest nesting of brackets that is read. -/
def maxDepth : Nat := 127

-- ==================================================== blanks and words

/-- The four blanks of the format. -/
def isBlank (c : Char) : Bool :=
  c == ' ' || c == '\n' || c == '\t' || c == '\r'

/-- The text after its leading blanks. -/
def skipBlanks (text : List Char) : List Char :=
  text.dropWhile isBlank

/-- The text after a given beginning. -/
def expect? : List Char → List Char → Option (List Char)
  | [], text => some text
  | _ :: _, [] => none
  | c :: word, d :: text => if c = d then expect? word text else none

-- ====================================================== strings

/-- The value of a hexadecimal digit. -/
def hexDigit? (c : Char) : Option Nat :=
  if '0' ≤ c ∧ c ≤ '9' then some (c.toNat - '0'.toNat)
  else if 'a' ≤ c ∧ c ≤ 'f' then some (c.toNat - 'a'.toNat + 10)
  else if 'A' ≤ c ∧ c ≤ 'F' then some (c.toNat - 'A'.toNat + 10)
  else none

/-- The number that four hexadecimal digits write. -/
def hexQuad? (a b c d : Char) : Option Nat := do
  let a ← hexDigit? a
  let b ← hexDigit? b
  let c ← hexDigit? c
  let d ← hexDigit? d
  some (((a * 16 + b) * 16 + c) * 16 + d)

/-- The character that a letter stands for after a backslash. -/
def escaped? (c : Char) : Option Char :=
  match c with
  | '"' => some '"'
  | '\\' => some '\\'
  | '/' => some '/'
  | 'b' => some '\x08'
  | 'f' => some '\x0c'
  | 'n' => some '\n'
  | 'r' => some '\r'
  | 't' => some '\t'
  | _ => none

/-- The code numbers of a string up to its closing quote, escapes resolved one
by one: a character outside the basic plane may still be two numbers. -/
def codes? : Reader (List Nat)
  | [] => none
  | '"' :: rest => some ([], rest)
  | '\\' :: 'u' :: a :: b :: c :: d :: rest => do
      let code ← hexQuad? a b c d
      let (codes, rest) ← codes? rest
      some (code :: codes, rest)
  | '\\' :: c :: rest => do
      let e ← escaped? c
      let (codes, rest) ← codes? rest
      some (e.toNat :: codes, rest)
  | c :: rest =>
      if c.toNat < 0x20 then none
      else do
        let (codes, rest) ← codes? rest
        some (c.toNat :: codes, rest)

/-- A number that is the first half of a pair. -/
def isHighSurrogate (code : Nat) : Bool :=
  decide (0xD800 ≤ code ∧ code < 0xDC00)

/-- A number that is the second half of a pair. -/
def isLowSurrogate (code : Nat) : Bool :=
  decide (0xDC00 ≤ code ∧ code < 0xE000)

/-- The characters of code numbers, pairs joined; a lone half is no text. -/
def characters? : List Nat → Option (List Char)
  | [] => some []
  | [code] =>
      if isHighSurrogate code || isLowSurrogate code then none
      else some [Char.ofNat code]
  | high :: low :: rest =>
      if isHighSurrogate high then
        if isLowSurrogate low then
          (characters? rest).map
            (Char.ofNat (0x10000 + (high - 0xD800) * 0x400 + (low - 0xDC00))
              :: ·)
        else none
      else if isLowSurrogate high then none
      else (characters? (low :: rest)).map (Char.ofNat high :: ·)

/-- A string after its opening quote, if it is one once its pairs are
joined. -/
def stringBody? : Reader (Option String) := fun text => do
  let (codes, rest) ← codes? text
  some ((characters? codes).map String.ofList, rest)

-- ====================================================== numbers

/-- The number that a run of digits writes. -/
def digitsValue (digits : List Char) : Nat :=
  digits.foldl (fun n c => n * 10 + (c.toNat - '0'.toNat)) 0

/-- Takes digits into an unsigned 64-bit number while they fit, and counts
those that do not. -/
def fit : Nat → List Char → Nat × Nat
  | n, [] => (n, 0)
  | n, c :: rest =>
      let next := n * 10 + (c.toNat - '0'.toNat)
      if next < Nat.pow 2 64 then fit next rest else (n, rest.length + 1)

/-- The digits of a number, in the parts that its grammar gives it. -/
structure NumberText where
  negative : Bool
  whole : List Char
  fraction : Option (List Char)
  exponent : Option (Bool × List Char)

/-- A run of digits, and what follows it. -/
def digits (text : List Char) : List Char × List Char :=
  (text.takeWhile Char.isDigit, text.dropWhile Char.isDigit)

/-- The whole part: a zero alone, or digits that begin with none. -/
def wholePart? (text : List Char) : Option (List Char × List Char) :=
  match text with
  | '0' :: rest =>
      match rest with
      | c :: _ => if c.isDigit then none else some (['0'], rest)
      | [] => some (['0'], rest)
  | _ =>
      let (run, rest) := digits text
      if run.isEmpty then none else some (run, rest)

/-- An optional part after a point. -/
def fraction? (text : List Char) : Option (Option (List Char) × List Char) :=
  match text with
  | '.' :: rest =>
      let (run, rest) := digits rest
      if run.isEmpty then none else some (some run, rest)
  | _ => some (none, text)

/-- An optional exponent: its sign and its digits. -/
def exponent? (text : List Char) :
    Option (Option (Bool × List Char) × List Char) :=
  match text with
  | c :: rest =>
      if c = 'e' ∨ c = 'E' then
        let (negative, rest) :=
          match rest with
          | '-' :: rest => (true, rest)
          | '+' :: rest => (false, rest)
          | _ => (false, rest)
        let (run, rest) := digits rest
        if run.isEmpty then none else some (some (negative, run), rest)
      else some (none, text)
  | [] => some (none, text)

/-- The parts of a number. -/
def numberText? : Reader NumberText := fun text => do
  let (negative, text) :=
    match text with
    | '-' :: rest => (true, rest)
    | _ => (false, text)
  let (whole, text) ← wholePart? text
  let (fraction, text) ← fraction? text
  let (exponent, text) ← exponent? text
  some (⟨negative, whole, fraction, exponent⟩, text)

/-- The binary64 number that the parts write. Digits are taken while they fit
64 bits; a whole digit beyond that shifts the number by a place, a fraction
digit beyond that is dropped. -/
def NumberText.real? (t : NumberText) : Option Binary64 :=
  let (first, left) := fit 0 t.whole
  let (significand, shift) : Nat × Int :=
    match t.fraction with
    | none => (first, left)
    | some run =>
        if left = 0 then
          let (n, dropped) := fit first run
          (n, -((run.length : Int) - dropped))
        else
          let (n, dropped) := fit first run
          (n, left - ((run.length : Int) - dropped))
  let power : Int :=
    match t.exponent with
    | none => shift
    | some (negative, run) =>
        let size : Int := digitsValue run
        if negative then shift - size else shift + size
  Binary64.ofDecimal? t.negative significand power

/-- The value of a number: an integer where it is written as one and fits 64
bits, signed or not, else a binary64 number. A negative zero is the latter. -/
def NumberText.value? (t : NumberText) : Option Json :=
  let n := digitsValue t.whole
  match t.fraction, t.exponent with
  | none, none =>
      if t.negative then
        if 0 < n ∧ n ≤ Nat.pow 2 63 then some (.int (-(n : Int)))
        else t.real?.map .real
      else if n < Nat.pow 2 64 then some (.int n)
      else t.real?.map .real
  | _, _ => t.real?.map .real

/-- A number. -/
def number? : Reader Json := fun text => do
  let (parts, rest) ← numberText? text
  some (parts.value?.getD .unreadable, rest)

-- ================================================== arrays and objects

/-- What stands between two brackets, after the first part: parts set apart by
commas up to the closing bracket. The fuel bounds the number of parts. -/
def more? {α : Type} (close : Char) (part : Reader α) : Nat → Reader (List α)
  | 0, _ => none
  | fuel + 1, text =>
      match skipBlanks text with
      | ',' :: rest => do
          let (first, rest) ← part (skipBlanks rest)
          let (others, rest) ← more? close part fuel rest
          some (first :: others, rest)
      | c :: rest => if c = close then some ([], rest) else none
      | [] => none

/-- The parts between an opening bracket, already read, and the closing one. -/
def bracketed? {α : Type} (close : Char) (part : Reader α) :
    Reader (List α) := fun text =>
  match skipBlanks text with
  | [] => none
  | c :: rest =>
      if c = close then some ([], rest)
      else do
        let (first, rest) ← part (c :: rest)
        let (others, rest) ← more? close part rest.length rest
        some (first :: others, rest)

/-- A name, a colon and a value. -/
def member? (value : Reader Json) :
    Reader (Option String × Json) := fun text =>
  match text with
  | '"' :: rest => do
      let (name, rest) ← stringBody? rest
      match skipBlanks rest with
      | ':' :: rest => do
          let (v, rest) ← value (skipBlanks rest)
          some ((name, v), rest)
      | _ => none
  | _ => none

/-- A value without brackets, from its first character on. -/
def scalar? : Reader Json := fun text =>
  match text with
  | 'n' :: _ =>
      (expect? ['n', 'u', 'l', 'l'] text).map fun rest => (.null, rest)
  | 't' :: _ =>
      (expect? ['t', 'r', 'u', 'e'] text).map fun rest => (.bool true, rest)
  | 'f' :: _ =>
      (expect? ['f', 'a', 'l', 's', 'e'] text).map fun rest =>
        (.bool false, rest)
  | '"' :: rest =>
      (stringBody? rest).map fun (s, rest) =>
        ((s.map Json.str).getD .unreadable, rest)
  | _ => number? text

/-- The object of members whose names are all strings. -/
def ofNamed (members : List (Option String × Json)) : Json :=
  match members.mapM fun (name, value) => name.map fun n => (n, value) with
  | some members => .obj members
  | none => .unreadable

/-- A value with brackets at most `depth` deep, or an unreadable one that is
deeper. The fuel bounds the brackets that are opened inside one another. -/
def value? (fuel depth : Nat) : Reader Json := fun text =>
  match fuel with
  | 0 => none
  | fuel + 1 =>
      match text with
      | '[' :: rest =>
          (bracketed? ']' (value? fuel (depth - 1)) rest).map
            fun (items, rest) =>
            (if depth = 0 then .unreadable else .arr items, rest)
      | '\x7b' :: rest =>
          (bracketed? '\x7d' (member? (value? fuel (depth - 1))) rest).map
            fun (members, rest) =>
              (if depth = 0 then .unreadable else ofNamed members, rest)
      | _ => scalar? text

/-- The value that a whole text writes, unreadable parts included. -/
def parse? (text : String) : Option Json := do
  let chars := text.toList
  let (value, rest) ← value? (chars.length + 1) maxDepth (skipBlanks chars)
  if (skipBlanks rest).isEmpty then some value else none

/-- The value that a whole text writes, if all of it can be read. -/
def parseWhole? (text : String) : Option Json :=
  (parse? text).bind fun j => if j.isWhole then some j else none

end ClusterUtility.Json
