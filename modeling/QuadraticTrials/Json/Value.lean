import QuadraticTrials.Decimal.NumberText
import QuadraticTrials.Json.Tree

/-!
JSON values: whole numbers kept apart from other numbers, and objects with their keys in order.
Reading a tree sorts the keys and keeps the last of equal ones; writing is compact and follows
the order of the fields.
-/

namespace QuadraticTrials

/-- A JSON value whose other numbers have type `K`. -/
inductive Json (K : Type)
  | null
  | bool (value : Bool)
  | integer (value : Int)
  | number (value : K)
  | text (value : String)
  | array (items : List (Json K))
  | object (fields : List (String × Json K))

namespace Json

variable {K : Type}

def numbers (values : List K) : Json K :=
  .array (values.map .number)

/-- A value, or null. -/
def optional {α : Type} (encode : α → Json K) (value : Option α) : Json K :=
  value.elim .null encode

def count (n : Nat) : Json K :=
  .integer n

/-- The value of a key in an object. -/
def field? (key : String) : Json K → Option (Json K)
  | .object fields => fields.lookup key
  | _ => none

/-- Puts a field where its key belongs, in place of a field with the same key. -/
def insertField {α : Type} (key : String) (value : α) : List (String × α) → List (String × α)
  | [] => [(key, value)]
  | (other, kept) :: rest =>
      if key = other then (key, value) :: rest
      else if key < other then (key, value) :: (other, kept) :: rest
      else (other, kept) :: insertField key value rest

/-- Fields in the order of their keys, the last of equal keys winning. -/
def sortFields {α : Type} (fields : List (String × α)) : List (String × α) :=
  fields.foldl (fun sorted (key, value) => insertField key value sorted) []

/-- An object with its keys in order. -/
def ofFields (fields : List (String × Json K)) : Json K :=
  .object (sortFields fields)

section Reading

variable [NumberText K]

/-- Whole numbers of 64 bits, signed or not, are kept as such; minus zero is not one of them. -/
def ofLiteral? (l : Literal) : Option (Json K) :=
  if l.isWhole && !l.negative && l.whole < Nat.pow 2 64 then some (.integer l.whole)
  else if l.isWhole && l.negative && l.whole != 0 && l.whole ≤ Nat.pow 2 63 then
    some (.integer (-(l.whole : Int)))
  else (NumberText.ofLiteral? l).map .number

mutual

/-- The value of a tree that nests at most `depth` arrays and objects. -/
def ofTree? : (depth : Nat) → Tree → Option (Json K)
  | _, .null => some .null
  | _, .bool value => some (.bool value)
  | _, .number literal => ofLiteral? literal
  | _, .text value => value.map .text
  | 0, .array _ => none
  | depth + 1, .array items => (ofItems? depth items).map .array
  | 0, .object _ => none
  | depth + 1, .object fields => (ofFields? depth fields).map ofFields

def ofItems? : (depth : Nat) → List Tree → Option (List (Json K))
  | _, [] => some []
  | depth, item :: rest => do
      let first ← ofTree? depth item
      let others ← ofItems? depth rest
      some (first :: others)

/-- The values of a list of fields, in their order. -/
def ofFields? : (depth : Nat) → List (Option String × Tree) → Option (List (String × Json K))
  | _, [] => some []
  | depth, (key?, item) :: rest => do
      let key ← key?
      let first ← ofTree? depth item
      let others ← ofFields? depth rest
      some ((key, first) :: others)

end

end Reading

section Writing

def hexChar (n : Nat) : Char :=
  Nat.digitChar (n % 16)

def escape (c : Char) : List Char :=
  match c with
  | '"' => ['\\', '"']
  | '\\' => ['\\', '\\']
  | '\x08' => ['\\', 'b']
  | '\x0c' => ['\\', 'f']
  | '\n' => ['\\', 'n']
  | '\r' => ['\\', 'r']
  | '\t' => ['\\', 't']
  | _ =>
      if c.toNat < 0x20 then ['\\', 'u', '0', '0', hexChar (c.toNat / 16), hexChar c.toNat]
      else [c]

def quote (s : String) : List Char :=
  '"' :: s.toList.flatMap escape ++ ['"']

variable [NumberText K]

/-- A number; values without a literal are written as null. -/
def numberChars (x : K) : List Char :=
  match NumberText.toLiteral? x with
  | some literal => literal.chars
  | none => ['n', 'u', 'l', 'l']

mutual

/-- The compact text of a value. -/
def chars : Json K → List Char
  | .null => ['n', 'u', 'l', 'l']
  | .bool true => ['t', 'r', 'u', 'e']
  | .bool false => ['f', 'a', 'l', 's', 'e']
  | .integer value => (Literal.ofInt value).chars
  | .number value => numberChars value
  | .text value => quote value
  | .array items => '[' :: itemChars items
  | .object fields => '{' :: fieldChars fields

/-- Items separated by commas, with the closing bracket. -/
def itemChars : List (Json K) → List Char
  | [] => [']']
  | [item] => chars item ++ [']']
  | item :: rest => chars item ++ ',' :: itemChars rest

/-- Fields separated by commas, with the closing brace. -/
def fieldChars : List (String × Json K) → List Char
  | [] => ['}']
  | [(key, value)] => quote key ++ ':' :: chars value ++ ['}']
  | (key, value) :: rest => quote key ++ ':' :: chars value ++ ',' :: fieldChars rest

end

def compact (value : Json K) : String :=
  String.ofList value.chars

/-- The text of an object of scalars with one field a line, indented by two spaces. -/
def spread (value : Json K) : String :=
  match value with
  | .object fields =>
      let lines := fields.map fun (key, value) =>
        "  " ++ String.ofList (quote key) ++ ": " ++ value.compact
      "\x7b\n" ++ String.intercalate ",\n" lines ++ "\n\x7d"
  | other => other.compact

end Writing

end Json

end QuadraticTrials
