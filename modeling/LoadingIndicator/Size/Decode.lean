/-
# Stored sizes

A size is stored under a name and read back strictly: no other spelling counts.  It may stand as
a JSON string, as the only key of a JSON object whose value is null, as a bare string or its
bytes, or as its place in the list of all sizes.  A failure says what was found and what was
wanted.

The names by which sizes are stored are a table of their own.  That they are the short names, as
the statements below have it, is `storedName_eq_name`.

Main statements:

* `decodeName_eq_ok_iff`: exactly the short name of a size is read as it;
* `decodeBytes_bytes`, `decodeBytes_eq_ok_iff`: the bytes of a name are read as the name, and no
  others as a size;
* `decodeValue_encode`: a stored size is read back.
-/
import LoadingIndicator.Json.Printer
import LoadingIndicator.Size
import LoadingIndicator.Text.Utf8

namespace LoadingIndicator

/-! ## 1. Failures -/

/-- What a reader wanted where something else stood. -/
inductive Wanted
  | identifier
  | unit
  | stringOrMap
  | sequence
  deriving DecidableEq

def Wanted.describe : Wanted → String
  | .identifier => "variant identifier"
  | .unit => "unit"
  | .stringOrMap => "string or map"
  | .sequence => "a sequence"

/-- Why something stored is no size. -/
inductive DecodeError
  | unknownVariant (name : String)
  | wrongKind (found : Json.Kind) (wanted : Wanted)
  | wrongEntryCount
  | indexOutOfRange (index : Nat)
  deriving DecidableEq

/-- What is reported of a failure. -/
def DecodeError.message : DecodeError → String
  | .unknownVariant name =>
    "unknown variant `" ++ name ++ "`, expected one of `sm`, `md`, `lg`"
  | .wrongKind found wanted =>
    "invalid type: " ++ found.describe ++ ", expected " ++ wanted.describe
  | .wrongEntryCount => "invalid value: map, expected map with a single key"
  | .indexOutOfRange index =>
    "invalid value: integer `" ++ String.ofList (Decimal.integerText index) ++
      "`, expected variant index 0 <= i < 3"

namespace Size

/-! ## 2. Names, bytes and places -/

/-- The size that is stored under a name. -/
def ofName? (s : String) : Option Size := all.find? fun z => z.storedName == s

/-- Reads a size's name. -/
def decodeName (s : String) : Except DecodeError Size :=
  match ofName? s with
  | some z => .ok z
  | none => .error (.unknownVariant s)

/-- Reads a size's name in bytes.  Bytes that are no name are shown as the text they are read
as. -/
def decodeBytes (bs : List UInt8) : Except DecodeError Size :=
  match all.find? fun z => Text.Utf8.bytes z.storedName == bs with
  | some z => .ok z
  | none => .error (.unknownVariant (Text.Utf8.decode bs))

/-- Reads a size's place in the list of all sizes. -/
def decodeIndex : Int → Except DecodeError Size
  | .ofNat n =>
    match all[n]? with
    | some z => .ok z
    | none => .error (.indexOutOfRange n)
  | .negSucc n => .error (.wrongKind (.number (.integer (.negSucc n))) .identifier)

/-! ## 3. JSON values -/

/-- Reads a size from a JSON value.  The key of an object is read before its value is looked
at. -/
def decodeValue : Json.Value → Except DecodeError Size
  | .string s => decodeName s
  | .object [(key, value)] =>
    match decodeName key with
    | .error e => .error e
    | .ok z => if value.kind = .null then .ok z else .error (.wrongKind value.kind .unit)
  | .object _ => .error .wrongEntryCount
  | value => .error (.wrongKind value.kind .stringOrMap)

/-- Reads an item that may be missing: null is no size. -/
def decodeItem : Json.Value → Except DecodeError (Option Size)
  | .null => .ok none
  | value => (decodeValue value).map some

/-- Reads items in order; the first one that fails decides. -/
def decodeItems : List Json.Value → Except DecodeError (List (Option Size))
  | [] => .ok []
  | value :: values =>
    match decodeItem value with
    | .error e => .error e
    | .ok item => (decodeItems values).map (item :: ·)

/-- Reads a list of sizes, of which some may be missing, from a JSON value. -/
def decodeList : Json.Value → Except DecodeError (List (Option Size))
  | .array values => decodeItems values
  | value => .error (.wrongKind value.kind .sequence)

/-! ## 4. Storing -/

/-- A size as a JSON value. -/
def encode (z : Size) : Json.Value := .string z.storedName

def encodeList (zs : List Size) : Json.Value := .array (zs.map encode)

/-- **Exactly the short name of a size is read as it.** -/
theorem decodeName_eq_ok_iff {s : String} {z : Size} : decodeName s = .ok z ↔ s = z.name := by
  constructor
  · intro h
    unfold decodeName at h
    split at h
    · rename_i y hy
      cases h
      have hname := List.find?_some hy
      rw [← storedName_eq_name]
      exact (eq_of_beq hname).symm
    · cases h
  · rintro rfl
    have hz : ofName? z.name = some z := by cases z <;> decide +kernel
    rw [decodeName, hz]

theorem decodeName_eq_error {s : String} (h : ∀ z : Size, s ≠ z.name) :
    decodeName s = .error (.unknownVariant s) := by
  cases hs : ofName? s with
  | none => rw [decodeName, hs]
  | some z =>
    have hread : decodeName s = .ok z := by rw [decodeName, hs]
    exact absurd (decodeName_eq_ok_iff.mp hread) (h z)

/-- **The bytes of a name are read as the name**, also of one that is refused. -/
theorem decodeBytes_bytes (s : String) : decodeBytes (Text.Utf8.bytes s) = decodeName s := by
  have hsame : (fun z : Size => Text.Utf8.bytes z.storedName == Text.Utf8.bytes s) =
      fun z => z.storedName == s := by
    funext z
    rw [Bool.eq_iff_iff, beq_iff_eq, beq_iff_eq, Text.Utf8.bytes_inj]
  rw [decodeBytes, decodeName, ofName?, hsame, Text.Utf8.decode_bytes]

/-- **Exactly the bytes of a size's short name are read as it.** -/
theorem decodeBytes_eq_ok_iff {bs : List UInt8} {z : Size} :
    decodeBytes bs = .ok z ↔ bs = Text.Utf8.bytes z.name := by
  constructor
  · intro h
    unfold decodeBytes at h
    split at h
    · rename_i y hy
      cases h
      have hbytes := List.find?_some hy
      rw [← storedName_eq_name]
      exact (eq_of_beq hbytes).symm
    · cases h
  · rintro rfl
    rw [decodeBytes_bytes, decodeName_eq_ok_iff]

theorem decodeBytes_eq_error {bs : List UInt8} (h : ∀ z : Size, bs ≠ Text.Utf8.bytes z.name) :
    decodeBytes bs = .error (.unknownVariant (Text.Utf8.decode bs)) := by
  cases hbs : decodeBytes bs with
  | ok z => exact absurd (decodeBytes_eq_ok_iff.mp hbs) (h z)
  | error e =>
    unfold decodeBytes at hbs
    split at hbs
    · cases hbs
    · exact hbs.symm

theorem decodeValue_entry_null (s : String) :
    decodeValue (.object [(s, .null)]) = decodeName s := by
  rw [decodeValue]
  cases decodeName s with
  | error e => rfl
  | ok z => rfl

theorem encode_eq (z : Size) : z.encode = .string z.name :=
  congrArg Json.Value.string z.storedName_eq_name

/-- A stored size is read back. -/
theorem decodeValue_encode (z : Size) : decodeValue z.encode = .ok z :=
  decodeName_eq_ok_iff.mpr z.storedName_eq_name

end Size

end LoadingIndicator
