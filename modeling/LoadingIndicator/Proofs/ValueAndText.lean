/-
# A value and its text

A stored size can be read from a JSON value that is there as a whole, or from its text as it comes.
The two readers decide differently.  One counts the entries of an object before it looks at them
and names the kind of what it does not want; the other reads one entry and then wants a brace, and
is done with a text that begins with neither a quote nor a brace.  Yet they accept the same values,
and where both look at a name or at what stands behind it they give the same report.

The text that is read is the compact one, of a value of any depth.  What is nested in it hardly
matters, since a container is refused at its bracket; what matters is how a text begins
(`Json.shows_printValue`) and that an object of several entries has a comma, which no text of a size
has.

Main statement:

* `value_and_text_agree`: the two readers on every value.
-/
import LoadingIndicator.Proofs.StoredText
import LoadingIndicator.Size.Continued

namespace LoadingIndicator.Size

open Json (BeginsNumber Value printChars printEntries printMoreEntries printValue skipSpace
  spaces_nil)

/-! ## 1. Compact text -/

theorem toList_print (v : Value) : v.print.toList = printValue v := String.toList_ofList

theorem beginsNumber_print (n : Json.Number) : BeginsNumber n.print := by
  cases n with
  | integer n => exact Decimal.integerText_head n
  | float x => exact Decimal.floatText_head x

theorem printValue_entry (key : String) (value : Value) :
    printValue (.object [(key, value)]) =
      '{' :: literal (printChars key.toList) ++ (':' :: (printValue value ++ ['}'])) := by
  simp [printValue, printEntries, Json.printEntry, printMoreEntries, Json.printString, literal]

theorem endsAtName_key (key : String) :
    EndsAtName key ('{' :: literal (printChars key.toList)) :=
  ⟨[], _, rfl, spaces_nil, Or.inr (.mk spaces_nil (Json.spells_printChars key.toList))⟩

theorem endsAtValue_key (z : Size) :
    EndsAtValue z ('{' :: literal (printChars z.name.toList) ++ [':']) := by
  have hkey : KeyFront z.name ('{' :: literal (printChars z.name.toList)) :=
    .mk spaces_nil (Json.spells_printChars z.name.toList)
  have hfront := ValueFront.mk hkey spaces_nil spaces_nil
  rw [List.append_nil] at hfront
  exact ⟨[], _, rfl, spaces_nil, hfront⟩

/-! ## 2. One entry -/

theorem decodeText_print_string (s : String) :
    decodeText (Value.string s).print = (decodeName s).mapError TextError.data := by
  have htext : (Value.string s).print.toList = [] ++ literal (printChars s.toList) ++ [] := by
    rw [toList_print, printValue, List.append_nil]
    rfl
  exact decodeText_of_form htext spaces_nil spaces_nil .alone (Json.spells_printChars s.toList)

theorem decodeText_print_unknown {key : String} (hkey : ∀ z : Size, key ≠ z.name) (value : Value) :
    decodeText (Value.object [(key, value)]).print = .error (.data (.unknownVariant key)) := by
  have htext := toList_print (.object [(key, value)])
  rw [printValue_entry] at htext
  exact decodeText_of_unknownName hkey (endsAtName_key key) htext

theorem decodeText_print_wrong (z : Size) {value : Value} (hnull : value.kind ≠ .null)
    (hnumber : ∀ n, value ≠ .number n) :
    decodeText (Value.object [(z.name, value)]).print =
      .error (.data (.wrongKind value.kind .unit)) := by
  obtain ⟨front, rest, hvalue, hshows⟩ := Json.shows_printValue hnumber
  have htext : (Value.object [(z.name, value)]).print.toList =
      '{' :: literal (printChars z.name.toList) ++ [':'] ++ front ++ (rest ++ ['}']) := by
    rw [toList_print, printValue_entry, hvalue]
    simp
  exact decodeText_of_wrongKind hnull (endsAtValue_key z) hshows htext

theorem decodeText_print_null (z : Size) :
    decodeText (Value.object [(z.name, .null)]).print = .ok z := by
  have htext : (Value.object [(z.name, .null)]).print.toList =
      [] ++ (['{'] ++ [] ++ literal (printChars z.name.toList) ++ [] ++ [':'] ++ [] ++
        ['n', 'u', 'l', 'l'] ++ [] ++ ['}']) ++ [] := by
    rw [toList_print, printValue_entry, printValue]
    simp
  have hform := decodeText_of_form htext spaces_nil spaces_nil
    (.entry spaces_nil spaces_nil spaces_nil spaces_nil) (Json.spells_printChars z.name.toList)
  rw [hform, decodeName_eq_ok_iff.mpr rfl]
  rfl

theorem decodeText_print_number (key : String) (n : Json.Number) (z : Size) :
    decodeText (Value.object [(key, .number n)]).print ≠ .ok z := by
  by_cases hkey : ∃ y : Size, key = y.name
  · obtain ⟨y, rfl⟩ := hkey
    obtain ⟨c, rest, hdigits, hc⟩ := beginsNumber_print n
    have htext : (Value.object [(y.name, .number n)]).print.toList =
        '{' :: literal (printChars y.name.toList) ++ [':'] ++ c :: (rest ++ ['}']) := by
      rw [toList_print, printValue_entry, printValue, hdigits]
      simp
    exact decodeText_ne_ok_of_number
      ⟨y, _, _, htext, endsAtValue_key y, c, rest ++ ['}'], rfl, hc⟩ z
  · have hunknown : ∀ y : Size, key ≠ y.name := fun y hy => hkey ⟨y, hy⟩
    rw [decodeText_print_unknown hunknown]
    intro h
    cases h

theorem eq_null_of_kind {value : Value} (h : value.kind = .null) : value = .null := by
  cases value with
  | null => rfl
  | bool | number | string | array | object => cases h

theorem decodeValue_wrong (z : Size) {value : Value} (hnull : value.kind ≠ .null) :
    decodeValue (.object [(z.name, value)]) = .error (.wrongKind value.kind .unit) := by
  have hname : decodeName z.name = .ok z := decodeName_eq_ok_iff.mpr rfl
  rw [decodeValue, hname]
  exact if_neg hnull

theorem decodeValue_unknown {key : String} (hkey : ∀ z : Size, key ≠ z.name) (value : Value) :
    decodeValue (.object [(key, value)]) = .error (.unknownVariant key) := by
  rw [decodeValue, decodeName_eq_error hkey]

/-- **Two values are read as a size**: its name, and an object with its name for the only key and
null for the value. -/
theorem decodeValue_eq_ok_iff {v : Value} {z : Size} :
    decodeValue v = .ok z ↔ v = .string z.name ∨ v = .object [(z.name, .null)] := by
  constructor
  · intro h
    unfold decodeValue at h
    split at h
    · exact Or.inl (congrArg Value.string (decodeName_eq_ok_iff.mp h))
    · split at h
      · cases h
      · rename_i y hname
        split at h
        · rename_i hnull
          obtain rfl := Except.ok.inj h
          rw [decodeName_eq_ok_iff.mp hname, eq_null_of_kind hnull]
          exact Or.inr rfl
        · cases h
    · cases h
    · cases h
  · rintro (rfl | rfl)
    · exact decodeName_eq_ok_iff.mpr rfl
    · rw [decodeValue_entry_null]
      exact decodeName_eq_ok_iff.mpr rfl

/-- **One entry whose value is no number**: the two readers look at its key and at what its value
is, in this order. -/
theorem decodeText_print_entry (key : String) {value : Value} (hnumber : ∀ n, value ≠ .number n) :
    decodeText (Value.object [(key, value)]).print =
      (decodeValue (.object [(key, value)])).mapError TextError.data := by
  by_cases hkey : ∃ z : Size, key = z.name
  · obtain ⟨z, rfl⟩ := hkey
    by_cases hnull : value.kind = .null
    · rw [eq_null_of_kind hnull, decodeText_print_null, decodeValue_entry_null,
        decodeName_eq_ok_iff.mpr rfl]
      rfl
    · rw [decodeText_print_wrong z hnull hnumber, decodeValue_wrong z hnull]
      rfl
  · have hunknown : ∀ z : Size, key ≠ z.name := fun z hz => hkey ⟨z, hz⟩
    rw [decodeText_print_unknown hunknown, decodeValue_unknown hunknown]
    rfl

/-! ## 3. All values -/

/-- Values of which the two readers look at the same parts in the same order: a string, and an
object of one entry whose value is no number. -/
inductive Comparable : Value → Prop
  | string (s : String) : Comparable (.string s)
  | entry (key : String) {value : Value} (hnumber : ∀ n, value ≠ .number n) :
    Comparable (.object [(key, value)])

/-- Values that are refused for their first characters, and the rule that their text breaks: an
object without entries has no key, and whatever is neither a string nor an object is no value of a
size. -/
inductive Foreign : Value → Json.Defect → Prop
  | null : Foreign .null .noValue
  | bool (b : Bool) : Foreign (.bool b) .noValue
  | number (n : Json.Number) : Foreign (.number n) .noValue
  | array (items : List Value) : Foreign (.array items) .noValue
  | empty : Foreign (.object []) .keyNoString

/-- **All other values** are objects, with a number for a value or with several entries. -/
theorem value_cases (v : Value) :
    Comparable v ∨ (∃ d, Foreign v d) ∨ (∃ key n, v = .object [(key, .number n)]) ∨
      ∃ first second others, v = .object (first :: second :: others) := by
  match v with
  | .string s => exact Or.inl (.string s)
  | .null => exact Or.inr (Or.inl ⟨_, .null⟩)
  | .bool b => exact Or.inr (Or.inl ⟨_, .bool b⟩)
  | .number n => exact Or.inr (Or.inl ⟨_, .number n⟩)
  | .array items => exact Or.inr (Or.inl ⟨_, .array items⟩)
  | .object [] => exact Or.inr (Or.inl ⟨_, .empty⟩)
  | .object [(key, value)] =>
    by_cases hnumber : ∃ n, value = .number n
    · obtain ⟨n, rfl⟩ := hnumber
      exact Or.inr (Or.inr (Or.inl ⟨key, n, rfl⟩))
    · exact Or.inl (.entry key fun n hn => hnumber ⟨n, hn⟩)
  | .object (first :: second :: others) =>
    exact Or.inr (Or.inr (Or.inr ⟨first, second, others, rfl⟩))

theorem decodeText_print_comparable {v : Value} (h : Comparable v) :
    decodeText v.print = (decodeValue v).mapError TextError.data := by
  cases h with
  | string s => exact decodeText_print_string s
  | entry key hnumber => exact decodeText_print_entry key hnumber

theorem decodeText_print_foreign {v : Value} {d : Json.Defect} (h : Foreign v d) :
    decodeText v.print = .error (.text (.defect d)) := by
  have htext := toList_print v
  cases h with
  | null => exact decodeText_of_head htext (by decide) (by decide) (by decide)
  | bool b =>
    cases b with
    | true => exact decodeText_of_head htext (by decide) (by decide) (by decide)
    | false => exact decodeText_of_head htext (by decide) (by decide) (by decide)
  | number n =>
    obtain ⟨c, rest, hdigits, hspace, hquote, hbrace, -⟩ :=
      head_of_beginsNumber (beginsNumber_print n)
    rw [printValue, hdigits] at htext
    exact decodeText_of_head htext hspace hquote hbrace
  | array items =>
    rw [printValue] at htext
    exact decodeText_of_head htext (by decide) (by decide) (by decide)
  | empty =>
    have hbrace : skipSpace ['{', '}'] = ['{', '}'] := Json.skipSpace_cons (by decide) _
    exact decodeText_of_scanSize_error htext spaces_nil hbrace rfl

/-- **A text with a comma is no size**, so that no object of several entries is read as one. -/
theorem decodeText_print_several (first second : String × Value) (others : List (String × Value))
    (z : Size) : decodeText (Value.object (first :: second :: others)).print ≠ .ok z := by
  intro hread
  have hplain := plain_of_stored (decodeText_eq_ok_iff_stored.mp hread)
  have hcomma : ',' ∈ (Value.object (first :: second :: others)).print.toList := by
    rw [toList_print, printValue, printEntries, printMoreEntries]
    simp
  exact (hplain ',' hcomma).2 rfl

theorem message_wrongKind (kind : Json.Kind) :
    (DecodeError.wrongKind kind .unit).message =
      "invalid type: " ++ kind.describe ++ ", expected unit" := by
  have hwanted : ", expected " ++ Wanted.unit.describe = ", expected unit" := by decide
  have hreport : (DecodeError.wrongKind kind .unit).message =
      "invalid type: " ++ kind.describe ++ ", expected " ++ Wanted.unit.describe := rfl
  rw [hreport, String.append_assoc, hwanted]

theorem mapError_eq_ok_iff {ε δ α : Type} {f : ε → δ} {x : Except ε α} {a : α} :
    x.mapError f = .ok a ↔ x = .ok a := by
  cases x with
  | error e =>
    constructor
    · intro h
      cases h
    · intro h
      cases h
  | ok b =>
    constructor
    · intro h
      exact congrArg Except.ok (Except.ok.inj h)
    · intro h
      exact congrArg Except.ok (Except.ok.inj h)

theorem exists_error_iff {ε α : Type} {x : Except ε α} :
    (∃ e, x = .error e) ↔ ∀ a, x ≠ .ok a := by
  cases x with
  | error e => simp
  | ok b => simp

/-- **The two readers accept the same values**, as the same sizes. -/
theorem decodeValue_eq_ok_iff_print (v : Value) (z : Size) :
    decodeValue v = .ok z ↔ decodeText v.print = .ok z := by
  rcases value_cases v with h | ⟨d, h⟩ | ⟨key, n, rfl⟩ | ⟨first, second, others, rfl⟩
  · rw [decodeText_print_comparable h, mapError_eq_ok_iff]
  · rw [decodeText_print_foreign h]
    cases h <;> simp [decodeValue_eq_ok_iff]
  · refine iff_of_false ?_ (decodeText_print_number key n z)
    simp [decodeValue_eq_ok_iff]
  · refine iff_of_false ?_ (decodeText_print_several first second others z)
    simp [decodeValue_eq_ok_iff]

/-- Whether the two readers refuse a value with the same report, which is about a size and not
about the text. -/
def BothReport (v : Value) (message : String) : Prop :=
  ∃ e : DecodeError, decodeValue v = .error e ∧ decodeText v.print = .error (.data e) ∧
    e.message = message

/-- **A value and its text agree**, at any depth.  They are accepted together, in two forms alone
and as the same size, and refused together.  A string, and an object of one entry whose value is no
number, is refused with the same report: of its name, and only behind a right name of its value.
What is neither a string nor an object is wrong as a value, and its text as no value of a size; an
object without entries is wrong as a value, and its text for want of a key. -/
theorem value_and_text_agree :
    (∀ (v : Value) (z : Size), decodeValue v = .ok z ↔ decodeText v.print = .ok z) ∧
      (∀ (v : Value) (z : Size), decodeValue v = .ok z ↔
        v = .string z.name ∨ v = .object [(z.name, .null)]) ∧
      (∀ v : Value, (∃ e, decodeValue v = .error e) ↔ ∃ e, decodeText v.print = .error e) ∧
      (∀ v : Value, Comparable v →
        decodeText v.print = (decodeValue v).mapError TextError.data) ∧
      (∀ (s : String) (v : Value), (∀ z : Size, s ≠ z.name) →
        (v = .string s ∨ ∃ value, v = .object [(s, value)]) →
          BothReport v ("unknown variant `" ++ s ++ "`, expected one of `sm`, `md`, `lg`")) ∧
      (∀ (z : Size) (value : Value), value.kind ≠ .null → (∀ n, value ≠ .number n) →
        BothReport (.object [(z.name, value)])
          ("invalid type: " ++ value.kind.describe ++ ", expected unit")) ∧
      ∀ (v : Value) (d : Json.Defect), Foreign v d →
        (∃ e, decodeValue v = .error e) ∧ decodeText v.print = .error (.text (.defect d)) := by
  have hfail : ∀ v : Value,
      (∃ e, decodeValue v = .error e) ↔ ∃ e, decodeText v.print = .error e := by
    intro v
    simp only [exists_error_iff, ne_eq, decodeValue_eq_ok_iff_print]
  refine ⟨decodeValue_eq_ok_iff_print, fun v z => decodeValue_eq_ok_iff, hfail,
    fun v => decodeText_print_comparable, ?_, ?_, ?_⟩
  · rintro s v hs (rfl | ⟨value, rfl⟩)
    · have hname : decodeName s = .error (.unknownVariant s) := decodeName_eq_error hs
      refine ⟨_, hname, ?_, rfl⟩
      rw [decodeText_print_string, hname]
      rfl
    · exact ⟨_, decodeValue_unknown hs value, decodeText_print_unknown hs value, rfl⟩
  · intro z value hnull hnumber
    exact ⟨_, decodeValue_wrong z hnull, decodeText_print_wrong z hnull hnumber,
      message_wrongKind value.kind⟩
  · intro v d h
    have htext := decodeText_print_foreign h
    exact ⟨(hfail v).mpr ⟨_, htext⟩, htext⟩

/-- Nested values: an array behind a right key, an object behind a wrong one; and an entry that
stands twice. -/
theorem value_and_text_agree_nested :
    decodeText (Value.object [("lg", .null)]).print = .ok .large ∧
      BothReport (.object [("md", .array [.object [("sm", .null)], .bool true])])
        "invalid type: sequence, expected unit" ∧
      BothReport (.object [("xl", .object [])])
        "unknown variant `xl`, expected one of `sm`, `md`, `lg`" ∧
      (∃ e, decodeText (Value.object [("sm", .null), ("sm", .null)]).print = .error e) ∧
      decodeText (Value.object []).print = .error (.text (.defect .keyNoString)) := by
  obtain ⟨haccept, hforms, hfail, -, hname, hkind, hforeign⟩ := value_and_text_agree
  have hlarge : decodeValue (.object [("lg", .null)]) = .ok .large :=
    (hforms _ .large).mpr (Or.inr rfl)
  have hunknown : ∀ z : Size, "xl" ≠ z.name := by
    intro z
    cases z <;> decide
  have harray := hkind .medium (.array [.object [("sm", .null)], .bool true])
    (by simp [Value.kind]) (by simp)
  exact ⟨(haccept _ _).mp hlarge, harray, hname "xl" _ hunknown (Or.inr ⟨_, rfl⟩),
    (hfail _).mp ⟨.wrongEntryCount, rfl⟩, (hforeign _ _ .empty).2⟩

end LoadingIndicator.Size
