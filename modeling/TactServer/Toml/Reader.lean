import TactServer.Double
import TactServer.Json.Reader
import TactServer.Toml.Basic

/-!
# Reading of configuration files

TOML in its version 1.1: inline tables may span lines and end in a comma, seconds may be left out
of times, and basic strings know the escapes `\e` and `\xHH`. A document is read as a whole or
refused. Values recurse on a budget taken from the length of the text.
-/

set_option autoImplicit false

namespace TactServer.Toml

def isGap (c : Char) : Bool := c == ' ' || c == '\t'

def skipGap (text : List Char) : List Char := text.dropWhile isGap

/-- A control character other than the tab. -/
def isControl (c : Char) : Bool := (c.toNat < 0x20 && c != '\t') || c.toNat == 0x7F

def dropBreak : List Char → Option (List Char)
  | '\n' :: rest => some rest
  | '\r' :: '\n' :: rest => some rest
  | _ => none

def dropComment : List Char → List Char
  | '#' :: rest => rest.dropWhile (!isControl ·)
  | text => text

def skipLoose : Nat → List Char → List Char
  | 0, text => text
  | budget + 1, text =>
    let rest := dropComment (skipGap text)
    match dropBreak rest with
    | some rest => skipLoose budget rest
    | none => rest

def isBareChar (c : Char) : Bool :=
  ('a' ≤ c && c ≤ 'z') || ('A' ≤ c && c ≤ 'Z') || ('0' ≤ c && c ≤ '9') || c == '_' || c == '-'

def hexDigits (digits : List Char) : Option Nat :=
  digits.foldl (fun value c => do return (← value) * 16 + (← Json.hexValue c)) (some 0)

def scalar (n : Nat) : Option Char :=
  if n < 0xD800 || (0xDFFF < n && n < 0x110000) then some (Char.ofNat n) else none

def escapeWidth (c : Char) : Option Nat :=
  match c with
  | 'x' => some 2
  | 'u' => some 4
  | 'U' => some 8
  | _ => none

def shortEscape (c : Char) : Option Char :=
  match c with
  | 'b' => some (Char.ofNat 8)
  | 't' => some '\t'
  | 'n' => some '\n'
  | 'f' => some (Char.ofNat 12)
  | 'r' => some '\r'
  | 'e' => some (Char.ofNat 27)
  | '"' => some '"'
  | '\\' => some '\\'
  | _ => none

def readEscape : List Char → Option (Char × List Char)
  | [] => none
  | c :: rest =>
    match escapeWidth c with
    | some width =>
      if rest.length < width then none
      else do
        let n ← hexDigits (rest.take width)
        let c ← scalar n
        return (c, rest.drop width)
    | none => (shortEscape c).map fun escaped => (escaped, rest)

def readBasic : Nat → List Char → List Char → Option (List Char × List Char)
  | 0, _, _ => none
  | budget + 1, read, text =>
    match text with
    | [] => none
    | '"' :: rest => some (read.reverse, rest)
    | '\\' :: rest =>
      match readEscape rest with
      | some (c, rest) => readBasic budget (c :: read) rest
      | none => none
    | c :: rest => if isControl c then none else readBasic budget (c :: read) rest

def readLiteral (text : List Char) : Option (List Char × List Char) :=
  let body := text.takeWhile fun c => c != '\x27' && !isControl c
  match text.dropWhile fun c => c != '\x27' && !isControl c with
  | '\x27' :: rest => some (body, rest)
  | _ => none

/-- What follows the blanks and line breaks after a backslash at the end of a line; nothing if
there is no line break. -/
def dropFold : Nat → Bool → List Char → Option (List Char)
  | 0, _, _ => none
  | budget + 1, broken, text =>
    let rest := skipGap text
    match dropBreak rest with
    | some rest => dropFold budget true rest
    | none => if broken then some rest else none

def quoteRun (quote : Char) (text : List Char) : Nat := (text.takeWhile (· == quote)).length

/-- A string of several lines whose three opening quotes have been read. The last three of up to
five quotes close it; `escapes` tells basic strings from literal ones. -/
def readLong (quote : Char) (escapes : Bool) :
    Nat → List Char → List Char → Option (List Char × List Char)
  | 0, _, _ => none
  | budget + 1, read, text =>
    match text with
    | [] => none
    | c :: rest =>
      if c = quote then
        let run := quoteRun quote text
        if run ≥ 6 then none
        else if run ≥ 3 then
          some (read.reverse ++ List.replicate (run - 3) quote, text.drop run)
        else readLong quote escapes budget (c :: read) rest
      else if escapes && c = '\\' then
        match dropFold (rest.length + 1) false rest with
        | some rest => readLong quote escapes budget read rest
        | none =>
          match readEscape rest with
          | some (c, rest) => readLong quote escapes budget (c :: read) rest
          | none => none
      else
        match dropBreak text with
        | some rest =>
          readLong quote escapes budget
            (if c = '\n' then '\n' :: read else '\n' :: '\r' :: read) rest
        | none => if isControl c then none else readLong quote escapes budget (c :: read) rest

/-- A line break right after the opening quotes is not part of the string. -/
def dropFirstBreak (text : List Char) : List Char := (dropBreak text).getD text

def readString (text : List Char) : Option (String × List Char) :=
  let finish := fun (result : List Char × List Char) => (String.ofList result.1, result.2)
  match text with
  | '"' :: '"' :: '"' :: rest =>
    (readLong '"' true (rest.length + 1) [] (dropFirstBreak rest)).map finish
  | '\x27' :: '\x27' :: '\x27' :: rest =>
    (readLong '\x27' false (rest.length + 1) [] (dropFirstBreak rest)).map finish
  | '"' :: rest => (readBasic (rest.length + 1) [] rest).map finish
  | '\x27' :: rest => (readLiteral rest).map finish
  | _ => none

def readKeyPart (text : List Char) : Option (String × List Char) :=
  match text with
  | '"' :: rest =>
    (readBasic (rest.length + 1) [] rest).map fun (key, rest) => (String.ofList key, rest)
  | '\x27' :: rest => (readLiteral rest).map fun (key, rest) => (String.ofList key, rest)
  | _ =>
    let bare := text.takeWhile isBareChar
    if bare.isEmpty then none else some (String.ofList bare, text.dropWhile isBareChar)

/-- A key with dots and the blanks around it, of at most `budget` parts. -/
def readKeyParts : Nat → List Char → Option (List String × List Char)
  | 0, _ => none
  | budget + 1, text =>
    match readKeyPart (skipGap text) with
    | none => none
    | some (part, rest) =>
      match skipGap rest with
      | '.' :: rest => (readKeyParts budget rest).map fun (parts, rest) => (part :: parts, rest)
      | rest => some ([part], rest)

/-- How deep arrays and inline tables may be nested, and of how many parts a key may be. -/
def maxDepth : Nat := 80

def readKey (text : List Char) : Option (List String × List Char) := readKeyParts maxDepth text

/-- Digits with single underscores between them. -/
def dropUnderscores (isDigit : Char → Bool) : Bool → List Char → Option (List Char)
  | afterDigit, [] => if afterDigit then some [] else none
  | afterDigit, c :: rest =>
    if c = '_' then if afterDigit then dropUnderscores isDigit false rest else none
    else if isDigit c then (dropUnderscores isDigit true rest).map (c :: ·)
    else none

def baseDigit (base : Nat) (c : Char) : Bool :=
  match Json.hexValue c with
  | some n => n < base
  | none => false

def baseInteger (base : Nat) (digits : List Char) : Option Int := do
  let digits ← dropUnderscores (baseDigit base) false digits
  let value := digits.foldl (fun n c => n * base + (Json.hexValue c).getD 0) 0
  return (value : Int)

def decimalDigits (digits : List Char) : Option (List Char) := do
  let digits ← dropUnderscores Decimal.isDigit false digits
  match digits with
  | '0' :: _ :: _ => none
  | _ => some digits

def dropSign : List Char → Bool × List Char
  | '+' :: rest => (false, rest)
  | '-' :: rest => (true, rest)
  | text => (false, text)

def readExponent (text : List Char) : Option Int := do
  let (negative, digits) := dropSign text
  let digits ← dropUnderscores Decimal.isDigit false digits
  let e : Int := Decimal.value digits
  return if negative then -e else e

def isDouble (digits fraction : List Char) (exponent : Int) : Bool :=
  let all := digits ++ fraction
  (Double.ofDecimal false (Decimal.value all) all.length
    (exponent - (fraction.length : Int))).isSome

/-- The float of a token without its sign: digits with a fraction, an exponent or both. -/
def readFloat (token : List Char) : Option Toml := do
  let inNumber := fun c => Decimal.isDigit c || c == '_'
  let digits ← decimalDigits (token.takeWhile inNumber)
  let (fraction, rest) ← match token.dropWhile inNumber with
    | '.' :: rest =>
      (dropUnderscores Decimal.isDigit false (rest.takeWhile inNumber)).map fun fraction =>
        (fraction, rest.dropWhile inNumber)
    | rest => if rest.isEmpty then none else some ([], rest)
  let exponent ← match rest with
    | [] => some 0
    | 'e' :: rest => readExponent rest
    | 'E' :: rest => readExponent rest
    | _ => none
  return .float (isDouble digits fraction exponent)

def twoDigits (a b : Char) : Option Nat :=
  if Decimal.isDigit a && Decimal.isDigit b then
    some (Decimal.digitValue a * 10 + Decimal.digitValue b)
  else none

def daysIn (year month : Nat) : Nat :=
  match month with
  | 2 => if year % 4 = 0 && (year % 100 ≠ 0 || year % 400 = 0) then 29 else 28
  | 4 => 30
  | 6 => 30
  | 9 => 30
  | 11 => 30
  | _ => 31

def dropDate : List Char → Option (List Char)
  | a :: b :: c :: d :: '-' :: e :: f :: '-' :: g :: h :: rest => do
    let high ← twoDigits a b
    let low ← twoDigits c d
    let month ← twoDigits e f
    let day ← twoDigits g h
    let year := high * 100 + low
    if 1 ≤ month && month ≤ 12 && 1 ≤ day && day ≤ daysIn year month then some rest else none
  | _ => none

def dropSeconds : List Char → Option (List Char)
  | ':' :: a :: b :: rest => do
    let seconds ← twoDigits a b
    if seconds > 60 then none
    else
      match rest with
      | '.' :: fraction =>
        if (fraction.takeWhile Decimal.isDigit).isEmpty then none
        else some (fraction.dropWhile Decimal.isDigit)
      | _ => some rest
  | ':' :: _ => none
  | text => some text

def dropTime : List Char → Option (List Char)
  | a :: b :: ':' :: c :: d :: rest => do
    let hour ← twoDigits a b
    let minute ← twoDigits c d
    if hour ≤ 23 && minute ≤ 59 then dropSeconds rest else none
  | _ => none

def isOffset : List Char → Bool
  | [] => true
  | ['Z'] => true
  | ['z'] => true
  | sign :: a :: b :: ':' :: c :: d :: [] =>
    (sign == '+' || sign == '-') &&
      match twoDigits a b, twoDigits c d with
      | some hour, some minute => hour ≤ 23 && minute ≤ 59
      | _, _ => false
  | _ => false

def isDate (token : List Char) : Bool :=
  match dropTime token with
  | some rest => rest.isEmpty
  | none =>
    match dropDate token with
    | none => false
    | some [] => true
    | some (c :: rest) =>
      (c == 'T' || c == 't' || c == ' ') &&
        match dropTime rest with
        | some rest => isOffset rest
        | none => false

def ofToken (token : List Char) : Option Toml :=
  match token with
  | ['t', 'r', 'u', 'e'] => some (.boolean true)
  | ['f', 'a', 'l', 's', 'e'] => some (.boolean false)
  | '0' :: 'x' :: digits => (baseInteger 16 digits).map .integer
  | '0' :: 'o' :: digits => (baseInteger 8 digits).map .integer
  | '0' :: 'b' :: digits => (baseInteger 2 digits).map .integer
  | _ =>
    let (negative, digits) := dropSign token
    match decimalDigits digits with
    | some digits =>
      let n : Int := Decimal.value digits
      some (.integer (if negative then -n else n))
    | none =>
      if digits = "inf".toList || digits = "nan".toList then some (.float true)
      else if isDate token then some .date
      else readFloat digits

def isTokenChar (c : Char) : Bool :=
  isBareChar c || c == '+' || c == '.' || c == ':'

/-- The token at the front of a text. A date may be followed by one space and a time. -/
def token (text : List Char) : List Char × List Char :=
  let front := text.takeWhile isTokenChar
  let rest := text.dropWhile isTokenChar
  match dropDate front, rest with
  | some [], ' ' :: c :: more =>
    if Decimal.isDigit c then
      (front ++ ' ' :: (c :: more).takeWhile isTokenChar, (c :: more).dropWhile isTokenChar)
    else (front, rest)
  | _, _ => (front, rest)

mutual

def readValue : Nat → Nat → List Char → Option (Toml × List Char)
  | 0, _, _ => none
  | budget + 1, depth, text =>
    match text with
    | [] => none
    | c :: rest =>
      if c = '"' || c = '\x27' then (readString text).map fun (value, rest) => (.string value, rest)
      else if c = '[' then
        if depth = 0 then none
        else (readItems budget (depth - 1) [] rest).map fun (items, rest) => (.array items, rest)
      else if c = '{' then
        if depth = 0 then none
        else
          (readPairs budget (depth - 1) [] rest).map fun (entries, rest) =>
            (.table (Node.entriesToToml entries), rest)
      else
        let (front, rest) := token text
        (ofToken front).map fun value => (value, rest)

def readItems : Nat → Nat → List Toml → List Char → Option (List Toml × List Char)
  | 0, _, _, _ => none
  | budget + 1, depth, read, text =>
    match skipLoose budget text with
    | ']' :: rest => some (read.reverse, rest)
    | text =>
      match readValue budget depth text with
      | none => none
      | some (item, rest) =>
        match skipLoose budget rest with
        | ',' :: rest => readItems budget depth (item :: read) rest
        | ']' :: rest => some ((item :: read).reverse, rest)
        | _ => none

def readPairs : Nat → Nat → Entries → List Char → Option (Entries × List Char)
  | 0, _, _, _ => none
  | budget + 1, depth, entries, text =>
    match skipLoose budget text with
    | '}' :: rest => some (entries, rest)
    | text =>
      match readKey text with
      | none => none
      | some (key, rest) =>
        match skipLoose budget rest with
        | '=' :: rest =>
          match readValue budget depth (skipLoose budget rest) with
          | none => none
          | some (value, rest) =>
            match Node.assign value key entries with
            | none => none
            | some entries =>
              match skipLoose budget rest with
              | ',' :: rest => readPairs budget depth entries rest
              | '}' :: rest => some (entries, rest)
              | _ => none
        | _ => none

end

/-- A document so far: its entries and the header that is open. -/
structure Draft where
  entries : Entries
  header : List String

def readHeader (draft : Draft) (text : List Char) : Option (Draft × List Char) :=
  let named (apply : String → Entries → Option Entries) (key : List String) : Option Draft := do
    let last ← key.getLast?
    let entries ← Node.descend (apply last) key.dropLast draft.entries
    return ⟨entries, key⟩
  match text with
  | '[' :: rest =>
    match readKey rest with
    | some (key, ']' :: ']' :: rest) => (named Node.openNext key).map fun draft => (draft, rest)
    | _ => none
  | _ =>
    match readKey text with
    | some (key, ']' :: rest) => (named Node.openTable key).map fun draft => (draft, rest)
    | _ => none

def readSetting (draft : Draft) (text : List Char) : Option (Draft × List Char) :=
  match readKey text with
  | some (key, '=' :: rest) => do
    let (value, rest) ← readValue (2 * rest.length + 2) maxDepth (skipGap rest)
    let entries ← Node.descend (Node.assign value key) draft.header draft.entries
    return (⟨entries, draft.header⟩, rest)
  | _ => none

/-- The lines of a document, each ending in a line break or at the end of the text. -/
def readDocument : Nat → Draft → List Char → Option Entries
  | 0, _, _ => none
  | budget + 1, draft, text =>
    let next (draft : Draft) (rest : List Char) : Option Entries :=
      match dropComment (skipGap rest) with
      | [] => some draft.entries
      | rest =>
        match dropBreak rest with
        | some rest => readDocument budget draft rest
        | none => none
    match skipGap text with
    | '[' :: rest =>
      match readHeader draft rest with
      | some (draft, rest) => next draft rest
      | none => none
    | rest =>
      if rest.isEmpty || rest.head? == some '#' || (dropBreak rest).isSome then next draft rest
      else
        match readSetting draft rest with
        | some (draft, rest) => next draft rest
        | none => none

/-- The table a text stands for. A byte order mark in front is not part of it. -/
def read (text : String) : Option (List (String × Toml)) :=
  let chars := match text.toList with
    | '\uFEFF' :: rest => rest
    | chars => chars
  (readDocument (chars.length + 1) ⟨[], []⟩ chars).map Node.entriesToToml

end TactServer.Toml
