import QuadraticTrials.Reporter.Basic

/-!
Reports as text for a reader. The text goes in pieces to a sink that may refuse any of them; a
reader who asks for quiet sees only the failing trials.
-/

namespace QuadraticTrials

/-- A taker of text with state of type `σ`. A piece that is refused may have been taken in part;
the error says why.
-/
class Sink (σ : Type) where
  /-- Takes a piece of text. -/
  write : String → σ → Except String Unit × σ
  /-- Passes on what was taken. -/
  flush : σ → Except String Unit × σ

/-- A console over a sink. -/
structure Console (σ : Type) where
  verbose : Bool
  sink : σ

namespace Console

/-- Digits of the input digest that are shown. -/
def shownDigest : Nat := 12

/-- The first bytes of a text, at most `count`; `none` when the cut falls inside a character. -/
def bytePrefix? : (count : Nat) → List Char → Option (List Char)
  | _, [] => some []
  | count, c :: rest =>
      if count = 0 then some []
      else if c.utf8Size ≤ count then (bytePrefix? (count - c.utf8Size) rest).map (c :: ·)
      else none

/-- The input keys that come first, in this order. -/
def inputKeys : List String :=
  ["P", "q", "A", "b", "A_eq", "b_eq"]

def line (text : String) : String :=
  text ++ "\n"

variable {K : Type} [NumberText K]

def isArray : Json K → Bool
  | .array _ => true
  | _ => false

/-- A value indented; an array of arrays stands one row a line. -/
def indented (value : Json K) : String :=
  match value with
  | .array (row :: rows) =>
      if (row :: rows).all isArray then
        String.intercalate "\n" ((row :: rows).map fun row => "  " ++ row.compact)
      else "  " ++ value.compact
  | _ => "  " ++ value.compact

/-- The fields with preferred keys first, in the order of the preference. -/
def ordered (preferred : List String) (fields : List (String × Json K))
    : List (String × Json K) :=
  preferred.filterMap (fun key => (fields.lookup key).map fun value => (key, value))
    ++ fields.filter fun (key, _) => !preferred.contains key

/-- A value field by field, or as a whole when it has no fields. -/
def fieldLines (preferred : List String) : Json K → List String
  | .object fields =>
      (ordered preferred fields).flatMap fun (key, value) =>
        [line (key ++ " ="), line (indented value)]
  | other => [line other.compact]

/-- The line that closes a report. -/
def ruler : String :=
  String.ofList (List.replicate 61 '=')

/-- The verdict of a report. -/
def verdictLine : Verdict → String
  | .passed => line "\n[trial passed]"
  | .failed reason => line ("\n[trial FAILED: " ++ reason ++ "]")

/-- The text of a report in pieces; there is none when the shown part of its digest would end
inside a character.
-/
def pieces? (r : Report K) : Option (List String) :=
  (bytePrefix? shownDigest r.inputHash.toList).map fun shown =>
    [line ("[trial " ++ toString r.trial ++ " | cost scale " ++ NumberText.plain r.costScale
        ++ " | input " ++ String.ofList shown ++ "]"), line "[Test input matrices]"]
      ++ fieldLines inputKeys r.inputs
      ++ [line "", line "[Solutions]"]
      ++ fieldLines [] r.outputs
      ++ [verdictLine r.verdict, line ruler]

omit [NumberText K] in
/-- The line with the totals. -/
def totalsLine (total failed : Nat) : String :=
  line ("failed trials: " ++ toString failed ++ " of " ++ toString total)

variable {σ : Type} [Sink σ]

omit [NumberText K] in
/-- Writes pieces up to the first that is refused, then passes them on. -/
def writeAll : List String → σ → Except String Unit × σ
  | [], sink => Sink.flush sink
  | piece :: rest, sink =>
      match Sink.write piece sink with
      | (.error reason, sink) => (.error reason, sink)
      | (.ok (), sink) => writeAll rest sink

omit [NumberText K] in
def put (texts : List String) (c : Console σ) : Except Stop Unit × Console σ :=
  let (result, sink) := writeAll texts c.sink
  (result.mapError fun reason => .failed (.io reason), { c with sink })

/-- Writes a report, unless it passed and the console is quiet. -/
def publish (r : Report K) (c : Console σ) : Except Stop Unit × Console σ :=
  if c.verbose || !r.verdict.isPassed then
    match pieces? r with
    | none => (.error .crashed, c)
    | some texts => c.put texts
  else (.ok (), c)

instance : Reporter K (Console σ) where
  publish := publish
  finish total failed c := c.put [totalsLine total failed]
  relay _ c := c

end Console

/-- A sink in memory that takes a limited number of bytes, or any number. -/
structure ByteSink where
  limit : Option Nat
  taken : Array UInt8

namespace ByteSink

def empty (limit : Option Nat) : ByteSink :=
  ⟨limit, #[]⟩

/-- Takes as many bytes as there is room for. -/
def write (text : String) (s : ByteSink) : Except String Unit × ByteSink :=
  let bytes := text.toUTF8.data
  match s.limit with
  | none => (.ok (), { s with taken := s.taken ++ bytes })
  | some limit =>
      let room := limit - s.taken.size
      if bytes.size ≤ room then (.ok (), { s with taken := s.taken ++ bytes })
      else (.error "sink is full", { s with taken := s.taken ++ bytes.extract 0 room })

instance : Sink ByteSink where
  write := write
  flush s := (.ok (), s)

end ByteSink

end QuadraticTrials
