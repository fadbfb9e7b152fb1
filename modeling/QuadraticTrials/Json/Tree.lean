import QuadraticTrials.Decimal.Literal

/-!
JSON text as a tree that keeps what was written: number literals as they stand, fields in their
order with repetitions, and strings that may hold halves of surrogate pairs. Which of these are
acceptable is for the reader of a particular format to say.
-/

namespace QuadraticTrials

/-- A JSON value as written. A string is `none` when its escapes do not form characters. -/
inductive Tree
  | null
  | bool (value : Bool)
  | number (literal : Literal)
  | text (value : Option String)
  | array (items : List Tree)
  | object (fields : List (Option String × Tree))
  deriving Repr

namespace Tree

/-- A part of a string: a character, or a 16-bit unit given by its number. -/
inductive Piece
  | char (value : Char)
  | unit (value : Nat)

/-- The first half of a surrogate pair. -/
def isLeading (unit : Nat) : Bool :=
  0xD800 ≤ unit && unit < 0xDC00

/-- The second half of a surrogate pair. -/
def isTrailing (unit : Nat) : Bool :=
  0xDC00 ≤ unit && unit < 0xE000

/-- Joins surrogate pairs; a half that stands alone has no character. -/
def joinPieces : List Piece → Option (List Char)
  | [] => some []
  | .char c :: rest => (joinPieces rest).map (c :: ·)
  | .unit high :: .unit low :: rest =>
      if isLeading high then
        if isTrailing low then
          (joinPieces rest).map
            (Char.ofNat (0x10000 + (high - 0xD800) * 0x400 + (low - 0xDC00)) :: ·)
        else none
      else if isTrailing high then none
      else (joinPieces (.unit low :: rest)).map (Char.ofNat high :: ·)
  | .unit single :: rest =>
      if isLeading single || isTrailing single then none
      else (joinPieces rest).map (Char.ofNat single :: ·)

/-- The value of a hexadecimal digit. -/
def hexDigit? (c : Char) : Option Nat :=
  if '0' ≤ c && c ≤ '9' then some (c.toNat - '0'.toNat)
  else if 'a' ≤ c && c ≤ 'f' then some (c.toNat - 'a'.toNat + 10)
  else if 'A' ≤ c && c ≤ 'F' then some (c.toNat - 'A'.toNat + 10)
  else none

/-- The unit that four hexadecimal digits write. -/
def hexUnit? (a b c d : Char) : Option Nat := do
  let a ← hexDigit? a
  let b ← hexDigit? b
  let c ← hexDigit? c
  let d ← hexDigit? d
  some (((a * 16 + b) * 16 + c) * 16 + d)

/-- The character of a one-letter escape. -/
def escaped? : Char → Option Char
  | '"' => some '"'
  | '\\' => some '\\'
  | '/' => some '/'
  | 'b' => some '\x08'
  | 'f' => some '\x0c'
  | 'n' => some '\n'
  | 'r' => some '\r'
  | 't' => some '\t'
  | _ => none

/-- The pieces of a string up to its closing quote, and the text after it. -/
def readPieces : List Char → Option (List Piece × List Char)
  | [] => none
  | '"' :: rest => some ([], rest)
  | '\\' :: 'u' :: a :: b :: c :: d :: rest => do
      let unit ← hexUnit? a b c d
      let (pieces, rest) ← readPieces rest
      some (.unit unit :: pieces, rest)
  | '\\' :: letter :: rest => do
      let c ← escaped? letter
      let (pieces, rest) ← readPieces rest
      some (.char c :: pieces, rest)
  | c :: rest =>
      if c.toNat < 0x20 || c == '\\' then none
      else (readPieces rest).map fun (pieces, rest) => (.char c :: pieces, rest)

/-- A string after its opening quote. -/
def readText (s : List Char) : Option (Option String × List Char) :=
  (readPieces s).map fun (pieces, rest) => ((joinPieces pieces).map String.ofList, rest)

/-- Drops blanks. -/
def skipBlank (s : List Char) : List Char :=
  s.dropWhile fun c => c == ' ' || c == '\t' || c == '\n' || c == '\r'

/-- The digits at the head of a text, and what follows them. -/
def readDigits : List Char → List (Fin 10) × List Char
  | [] => ([], [])
  | c :: rest =>
      match Literal.digit? c with
      | some d => let (digits, rest) := readDigits rest; (d :: digits, rest)
      | none => ([], c :: rest)

/-- The number that digits write. -/
def ofDigits (digits : List (Fin 10)) : Nat :=
  digits.foldl (fun n (d : Fin 10) => 10 * n + d.val) 0

/-- Whole digits: a zero stands alone. -/
def readWhole (s : List Char) : Option (Nat × List Char) :=
  match s with
  | '0' :: rest => some (0, rest)
  | _ =>
      match readDigits s with
      | ([], _) => none
      | (digits, rest) => some (ofDigits digits, rest)

/-- A fraction: a point and at least one digit, or nothing. -/
def readFraction (s : List Char) : Option (List (Fin 10) × List Char) :=
  match s with
  | '.' :: rest =>
      match readDigits rest with
      | ([], _) => none
      | (digits, rest) => some (digits, rest)
  | _ => some ([], s)

/-- An exponent: a mark, an optional sign and at least one digit, or nothing. -/
def readExponent (s : List Char) : Option (Option Int × List Char) :=
  match s with
  | [] => some (none, [])
  | mark :: rest =>
      if mark == 'e' || mark == 'E' then
        let (negative, rest) :=
          match rest with
          | '-' :: rest => (true, rest)
          | '+' :: rest => (false, rest)
          | rest => (false, rest)
        match readDigits rest with
        | ([], _) => none
        | (digits, rest) =>
            some (some (if negative then -(ofDigits digits : Int) else ofDigits digits), rest)
      else some (none, s)

/-- A number literal. -/
def readNumber (s : List Char) : Option (Literal × List Char) := do
  let (negative, s) :=
    match s with
    | '-' :: rest => (true, rest)
    | rest => (false, rest)
  let (whole, s) ← readWhole s
  let (fraction, s) ← readFraction s
  let (exponent, s) ← readExponent s
  some (⟨negative, whole, fraction, exponent⟩, s)

mutual

/-- One value after any blanks, and the text after it. `fuel` bounds the nesting and the number
of items still read.
-/
def readValue : (fuel : Nat) → List Char → Option (Tree × List Char)
  | 0, _ => none
  | fuel + 1, s =>
      match skipBlank s with
      | 'n' :: 'u' :: 'l' :: 'l' :: rest => some (.null, rest)
      | 't' :: 'r' :: 'u' :: 'e' :: rest => some (.bool true, rest)
      | 'f' :: 'a' :: 'l' :: 's' :: 'e' :: rest => some (.bool false, rest)
      | '"' :: rest => (readText rest).map fun (value, rest) => (.text value, rest)
      | '[' :: rest =>
          match skipBlank rest with
          | ']' :: rest => some (.array [], rest)
          | rest => (readItems fuel rest).map fun (items, rest) => (.array items, rest)
      | '{' :: rest =>
          match skipBlank rest with
          | '}' :: rest => some (.object [], rest)
          | rest => (readFields fuel rest).map fun (fields, rest) => (.object fields, rest)
      | rest => (readNumber rest).map fun (literal, rest) => (.number literal, rest)

/-- Items up to the closing bracket, at least one. -/
def readItems : (fuel : Nat) → List Char → Option (List Tree × List Char)
  | 0, _ => none
  | fuel + 1, s => do
      let (item, rest) ← readValue fuel s
      match skipBlank rest with
      | ']' :: rest => some ([item], rest)
      | ',' :: rest =>
          let (items, rest) ← readItems fuel rest
          some (item :: items, rest)
      | _ => none

/-- Fields up to the closing brace, at least one. -/
def readFields : (fuel : Nat) → List Char → Option (List (Option String × Tree) × List Char)
  | 0, _ => none
  | fuel + 1, s =>
      match skipBlank s with
      | '"' :: rest => do
          let (name, rest) ← readText rest
          match skipBlank rest with
          | ':' :: rest =>
              let (value, rest) ← readValue fuel rest
              match skipBlank rest with
              | '}' :: rest => some ([(name, value)], rest)
              | ',' :: rest =>
                  let (fields, rest) ← readFields fuel rest
                  some ((name, value) :: fields, rest)
              | _ => none
          | _ => none
      | _ => none

end

/-- The tree of a whole text. Every step of reading either takes a character or opens the reading
of a value, so twice the length is enough fuel.
-/
def parse? (text : String) : Option Tree :=
  let s := text.toList
  match readValue (2 * s.length + 2) s with
  | some (tree, rest) => if (skipBlank rest).isEmpty then some tree else none
  | none => none

end Tree

end QuadraticTrials
