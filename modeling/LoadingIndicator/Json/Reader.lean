/-
# Reading a whole JSON text

A text is read into one value; white space may surround every token and nothing else may
follow the value.  Where an object names a key twice, the later value counts.

The fuel of the readers bounds the depth of their calls.  Of two calls, one within the other, at
least one takes a character, so twice the length of the text, which `read` supplies, is enough.

* `keys_putEntry`: a key that is there already keeps its place, and a new one comes last.
-/
import LoadingIndicator.Json.Scanner

namespace LoadingIndicator.Json

/-! ## 1. Entries -/

/-- Sets a key of an object: a key that is there keeps its place, a new one comes last. -/
def putEntry (key : String) (value : Value) : List (String × Value) → List (String × Value)
  | [] => [(key, value)]
  | (k, v) :: entries =>
    if k = key then (key, value) :: entries else (k, v) :: putEntry key value entries

/-- The object that a sequence of entries sets. -/
def objectOf (entries : List (String × Value)) : Value :=
  .object (entries.foldl (fun object entry => putEntry entry.1 entry.2 object) [])

/-- **The keys of an object**: one that is there already keeps its place, and a new one comes
last. -/
theorem keys_putEntry (key : String) (value : Value) (entries : List (String × Value)) :
    (putEntry key value entries).map Prod.fst =
      if key ∈ entries.map Prod.fst then entries.map Prod.fst
      else entries.map Prod.fst ++ [key] := by
  induction entries with
  | nil => simp [putEntry]
  | cons entry entries ih =>
    obtain ⟨k, v⟩ := entry
    by_cases hk : k = key
    · simp [putEntry, hk]
    · have hk' : ¬ key = k := fun h => hk h.symm
      simp only [putEntry, if_neg hk, List.map_cons, ih, List.mem_cons, hk', false_or]
      split <;> simp

/-! ## 2. Values -/

/-- The value of a kind that holds nothing but itself. -/
def Kind.leaf? : Kind → Option Value
  | .null => some .null
  | .bool b => some (.bool b)
  | .number n => some (.number n)
  | .string s => some (.string s)
  | .sequence => none
  | .map => none

mutual

def readValue : Nat → List Char → Scan Value
  | 0, _ => .error .ended
  | fuel + 1, cs =>
    match scanKind (skipSpace cs) with
    | .error f => .error f
    | .ok (.sequence, rest) =>
      match skipSpace rest with
      | ']' :: rest => .ok (.array [], rest)
      | rest => (readItems fuel rest).map fun (items, rest) => (.array items, rest)
    | .ok (.map, rest) =>
      match skipSpace rest with
      | '}' :: rest => .ok (.object [], rest)
      | rest => (readEntries fuel rest).map fun (entries, rest) => (objectOf entries, rest)
    | .ok (kind, rest) => .ok (kind.leaf?.getD .null, rest)

/-- Takes one item or more and the closing bracket. -/
def readItems : Nat → List Char → Scan (List Value)
  | 0, _ => .error .ended
  | fuel + 1, cs =>
    match readValue fuel cs with
    | .error f => .error f
    | .ok (item, rest) =>
      match skipSpace rest with
      | [] => .error .ended
      | ']' :: rest => .ok ([item], rest)
      | ',' :: rest => (readItems fuel rest).map fun (items, rest) => (item :: items, rest)
      | _ :: _ => .error (.defect .noCommaOrBracket)

/-- Takes one entry or more and the closing brace. -/
def readEntries : Nat → List Char → Scan (List (String × Value))
  | 0, _ => .error .ended
  | fuel + 1, cs =>
    match readEntry fuel (skipSpace cs) with
    | .error f => .error f
    | .ok (entry, rest) =>
      match skipSpace rest with
      | [] => .error .ended
      | '}' :: rest => .ok ([entry], rest)
      | ',' :: rest => (readEntries fuel rest).map fun (entries, rest) => (entry :: entries, rest)
      | _ :: _ => .error (.defect .noCommaOrBrace)

/-- Takes a key, a colon and a value. -/
def readEntry : Nat → List Char → Scan (String × Value)
  | 0, _ => .error .ended
  | _ + 1, [] => .error .ended
  | fuel + 1, c :: cs =>
    if c = '"' then
      match scanString cs with
      | .error f => .error f
      | .ok (key, rest) =>
        match scanWord .noColon [':'] (skipSpace rest) with
        | .error f => .error f
        | .ok rest => (readValue fuel rest).map fun (value, rest) => ((key, value), rest)
    else .error (.defect .keyNoString)

end

/-! ## 3. Texts -/

/-- Reads a text that holds one value. -/
def read (text : String) : Except Fault Value :=
  match readValue (2 * text.length + 2) text.toList with
  | .error f => .error f
  | .ok (value, rest) =>
    if (skipSpace rest).isEmpty then .ok value else .error (.defect .trailing)

end LoadingIndicator.Json
