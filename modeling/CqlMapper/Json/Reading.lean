import CqlMapper.Decimal.Reading
import CqlMapper.Json.Basic
import CqlMapper.Text.Hex

/-!
Reading JSON text. Members of objects are given as they stand in the text, repeated keys included,
until the value is settled.
-/

namespace CqlMapper.Json

/-- A skimmed value only has to follow the grammar: its numbers may be out of range and its
strings may hold half of a surrogate pair. -/
inductive Care where
  | full | skim
  deriving DecidableEq

def isJsonBlank (c : Char) : Bool :=
  c = ' ' || c = '\n' || c = '\t' || c = '\r'

def skipBlank (text : List Char) : List Char :=
  text.dropWhile isJsonBlank

structure NumberText where
  negative : Bool
  whole : List Char
  fraction : Option (List Char)
  exponent : Option Int

def takeDigits? (text : List Char) : Option (List Char × List Char) :=
  match text.takeWhile Char.isDigit with
  | [] => none
  | digits => some (digits, text.dropWhile Char.isDigit)

def naturalOf (digits : List Char) : Nat :=
  digits.foldl (fun total c => total * 10 + Decimal.digitValue c) 0

def takeExponent? (text : List Char) : Option (Int × List Char) :=
  match text with
  | '-' :: rest => (takeDigits? rest).map fun (digits, rest) => (-(naturalOf digits : Int), rest)
  | '+' :: rest => (takeDigits? rest).map fun (digits, rest) => (naturalOf digits, rest)
  | rest => (takeDigits? rest).map fun (digits, rest) => (naturalOf digits, rest)

/-- A whole part has no leading zero, and a point or an exponent mark is followed by a digit. -/
def takeNumber? (text : List Char) : Option (NumberText × List Char) := do
  let (negative, text) := match text with
    | '-' :: rest => (true, rest)
    | rest => (false, rest)
  let (whole, text) ← takeDigits? text
  if whole.head? = some '0' ∧ whole.length ≠ 1 then none
  let (fraction, text) ← match text with
    | '.' :: rest => (takeDigits? rest).map fun (digits, rest) => (some digits, rest)
    | rest => some (none, rest)
  let (exponent, text) ← match text with
    | 'e' :: rest | 'E' :: rest => (takeExponent? rest).map fun (e, rest) => (some e, rest)
    | rest => some (none, rest)
  return (⟨negative, whole, fraction, exponent⟩, text)

def NumberText.double? (number : NumberText) : Option Double := do
  let (significand, dropped) := Decimal.gather 0 number.whole
  let digits := number.fraction.getD []
  let (significand, unread) := Decimal.gather significand digits
  let places := digits.length - unread
  let exponent := (dropped : Int) - places + number.exponent.getD 0
  let magnitude ← Decimal.scaled? significand exponent
  return if number.negative then magnitude.negated else magnitude

/-- A whole number outside the exact range is a double, and so is a negative zero. -/
def NumberText.value? (number : NumberText) : Option JsonNumber :=
  let value := naturalOf number.whole
  let exact := number.fraction.isNone && number.exponent.isNone &&
    (if number.negative then 1 ≤ value && value ≤ 1 <<< 63 else value < UInt64.size)
  if exact then some (.integer (if number.negative then -(value : Int) else value))
  else number.double?.map .double

def simpleEscape? (c : Char) : Option Char :=
  match c with
  | '"' => some '"'
  | '\\' => some '\\'
  | '/' => some '/'
  | 'b' => some (Char.ofNat 8)
  | 'f' => some (Char.ofNat 12)
  | 'n' => some '\n'
  | 'r' => some '\r'
  | 't' => some '\t'
  | _ => none

def isLeadUnit (unit : Nat) : Bool :=
  0xd800 ≤ unit && unit < 0xdc00

def isTrailUnit (unit : Nat) : Bool :=
  0xdc00 ≤ unit && unit < 0xe000

/-- What stands for half of a surrogate pair in a skimmed string. -/
def loneUnit? (care : Care) : Option Char :=
  match care with
  | .full => none
  | .skim => some (Char.ofNat 0xfffd)

def takeString? (care : Care) : List Char → Option (List Char × List Char)
  | [] => none
  | '"' :: rest => some ([], rest)
  | '\\' :: 'u' :: a :: b :: c :: d :: rest => do
    let unit ← Text.hexNumber? [a, b, c, d]
    if isLeadUnit unit then
      match rest with
      | '\\' :: 'u' :: e :: f :: g :: h :: after =>
        let second ← Text.hexNumber? [e, f, g, h]
        if isTrailUnit second then
          let c := Char.ofNat (0x10000 + (unit - 0xd800) * 0x400 + (second - 0xdc00))
          (takeString? care after).map fun (chars, left) => (c :: chars, left)
        else
          let c ← loneUnit? care
          (takeString? care ('\\' :: 'u' :: e :: f :: g :: h :: after)).map
            fun (chars, left) => (c :: chars, left)
      | rest =>
        let c ← loneUnit? care
        (takeString? care rest).map fun (chars, left) => (c :: chars, left)
    else
      let c ← if isTrailUnit unit then loneUnit? care else some (Char.ofNat unit)
      (takeString? care rest).map fun (chars, left) => (c :: chars, left)
  | '\\' :: c :: rest => do
    let c ← simpleEscape? c
    (takeString? care rest).map fun (chars, left) => (c :: chars, left)
  | c :: rest =>
    if c.toNat < 32 || c = '\\' then none
    else (takeString? care rest).map fun (chars, left) => (c :: chars, left)

def takeKey? (care : Care) (text : List Char) : Option (String × List Char) := do
  match skipBlank text with
  | '"' :: rest =>
    let (chars, rest) ← takeString? care rest
    match skipBlank rest with
    | ':' :: rest => return (String.ofList chars, rest)
    | _ => none
  | _ => none

def scalar? (care : Care) (text : List Char) : Option (Json × List Char) :=
  match text with
  | 'n' :: 'u' :: 'l' :: 'l' :: rest => some (.null, rest)
  | 't' :: 'r' :: 'u' :: 'e' :: rest => some (.bool true, rest)
  | 'f' :: 'a' :: 'l' :: 's' :: 'e' :: rest => some (.bool false, rest)
  | '"' :: rest =>
    (takeString? care rest).map fun (chars, rest) => (.string (String.ofList chars), rest)
  | text => do
    let (numeral, rest) ← takeNumber? text
    match numeral.value?, care with
    | some value, _ => return (.number value, rest)
    | none, .skim => return (.null, rest)
    | none, .full => none

mutual

/-- Reads one value with at most `depth - 1` levels of nesting. -/
def takeValue? (care : Care) : Nat → Nat → List Char → Option (Json × List Char)
  | 0, _, _ => none
  | fuel + 1, depth, text =>
    match skipBlank text with
    | '[' :: rest =>
      if depth ≤ 1 then none
      else match skipBlank rest with
        | ']' :: rest => some (.array [], rest)
        | rest => (takeItems? care fuel (depth - 1) rest).map
            fun (items, rest) => (.array items, rest)
    | '{' :: rest =>
      if depth ≤ 1 then none
      else match skipBlank rest with
        | '}' :: rest => some (.object [], rest)
        | rest => (takeMembers? care fuel (depth - 1) rest).map
            fun (members, rest) => (.object members, rest)
    | text => scalar? care text

def takeItems? (care : Care) : Nat → Nat → List Char → Option (List Json × List Char)
  | 0, _, _ => none
  | fuel + 1, depth, text => do
    let (item, text) ← takeValue? care fuel depth text
    match skipBlank text with
    | ',' :: rest =>
      (takeItems? care fuel depth rest).map fun (items, rest) => (item :: items, rest)
    | ']' :: rest => some ([item], rest)
    | _ => none

def takeMembers? (care : Care) : Nat → Nat → List Char → Option (List (String × Json) × List Char)
  | 0, _, _ => none
  | fuel + 1, depth, text => do
    let (key, text) ← takeKey? care text
    let (item, text) ← takeValue? care fuel depth text
    match skipBlank text with
    | ',' :: rest =>
      (takeMembers? care fuel depth rest).map fun (members, rest) => ((key, item) :: members, rest)
    | '}' :: rest => some ([(key, item)], rest)
    | _ => none

end

/-- Every step of the reader leaves a shorter text, but one step may open two others. -/
def fuelFor (text : List Char) : Nat :=
  2 * text.length + 2

def readWithin? (depth : Nat) (text : String) : Option Json :=
  let text := text.toList
  match takeValue? .full (fuelFor text) depth text with
  | some (value, rest) => if (skipBlank rest).isEmpty then some value.settled else none
  | none => none

def greatestDepth : Nat := 128

def read? (text : String) : Option Json :=
  readWithin? greatestDepth text

end CqlMapper.Json
