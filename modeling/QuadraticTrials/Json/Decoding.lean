import QuadraticTrials.Json.Value

/-!
Reading the stored formats out of JSON trees. A record is an object with known fields or an array
of them in order; fields that are not known are skipped without being looked at. A choice is a
name, or an object with the name as its only key.
-/

namespace QuadraticTrials

namespace Tree

/-- The containers that a value may nest. -/
def maxDepth : Nat := 127

/-- Natural numbers of a 64-bit word; a fraction, an exponent or a minus sign is refused. -/
def nat? : Tree → Option Nat
  | .number l => if l.isWhole && !l.negative && l.whole < Nat.pow 2 64 then some l.whole else none
  | _ => none

/-- Natural numbers of a 32-bit word. -/
def nat32? (tree : Tree) : Option Nat :=
  tree.nat?.filter (· < Nat.pow 2 32)

/-- Numbers of any form. -/
def number? {K : Type} [NumberText K] : Tree → Option K
  | .number l => NumberText.ofLiteral? l
  | _ => none

/-- Truth values. -/
def bool? : Tree → Option Bool
  | .bool value => some value
  | _ => none

/-- Strings whose escapes form characters. -/
def text? : Tree → Option String
  | .text value => value
  | _ => none

/-- Lists, all of whose items can be read. -/
def list? {α : Type} (item? : Tree → Option α) : Tree → Option (List α)
  | .array items => items.mapM item?
  | _ => none

/-- A value, with null for none. -/
def optional? {α : Type} (value? : Tree → Option α) : Tree → Option (Option α)
  | .null => some none
  | tree => (value? tree).map some

/-- The known fields of an object in their order. A key that forms no string, or a known key that
comes twice, is refused.
-/
def knownFields? (names : List String)
    : List (Option String × Tree) → Option (List (String × Tree))
  | [] => some []
  | (key?, value) :: rest => do
      let key ← key?
      let others ← knownFields? names rest
      if names.contains key then
        if (others.lookup key).isSome then none else some ((key, value) :: others)
      else some others

/-- The fields of a record of which every one is required to be there in an array. -/
def record? (names : List String) : Tree → Option (List (String × Tree))
  | .object fields => knownFields? names fields
  | .array items => if items.length = names.length then some (names.zip items) else none
  | _ => none

/-- The fields of a record of which an array may leave out the last ones. -/
def partialRecord? (names : List String) : Tree → Option (List (String × Tree))
  | .object fields => knownFields? names fields
  | .array items => if items.length ≤ names.length then some (names.zip items) else none
  | _ => none

/-- A required field. -/
def required? {α : Type} (fields : List (String × Tree)) (name : String)
    (value? : Tree → Option α)
    : Option α :=
  (fields.lookup name).bind value?

/-- A field that may be missing, or null. -/
def nullable? {α : Type} (fields : List (String × Tree)) (name : String)
    (value? : Tree → Option α)
    : Option (Option α) :=
  match fields.lookup name with
  | none => some none
  | some tree => tree.optional? value?

/-- A field with a value of its own when it is missing. -/
def withDefault? {α : Type} (fields : List (String × Tree)) (name : String) (default : α)
    (value? : Tree → Option α)
    : Option α :=
  match fields.lookup name with
  | none => some default
  | some tree => value? tree

/-- A choice with its content; a bare name has no content. -/
def choice? : Tree → Option (String × Option Tree)
  | .text name => name.map fun name => (name, none)
  | .object [(some name, content)] => some (name, some content)
  | _ => none

/-- Whether the content of a choice is empty: none, or null. -/
def isEmptyContent : Option Tree → Bool
  | none => true
  | some .null => true
  | _ => false

/-- A choice among names without content. -/
def name? (tree : Tree) : Option String := do
  let (name, content) ← tree.choice?
  if isEmptyContent content then some name else none

/-- Whether a value is acceptable as it stands, below `maxDepth` containers less one. -/
def isReadable (K : Type) [NumberText K] (tree : Tree) : Bool :=
  (Json.ofTree? (K := K) (maxDepth - 1) tree).isSome

/-- The value of a key that occurs exactly once, and the other fields; of an array, the first item
and the others. All of it has to be readable.
-/
def tagged? (K : Type) [NumberText K] (tag : String) : Tree → Option (Tree × Tree)
  | .object fields =>
      let (tags, others) := fields.partition fun (key, _) => key == some tag
      match tags with
      | [(_, value)] =>
          if others.all fun (key, value) => key.isSome && isReadable K value then
            some (value, .object others)
          else none
      | _ => none
  | .array (first :: rest) =>
      if rest.all (isReadable K) then some (first, .array rest) else none
  | _ => none

end Tree

end QuadraticTrials
