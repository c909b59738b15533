/-
# All readings of a name agree

A stored name comes in many guises: as a bare string, as bytes, as a JSON string or the only key
of a JSON object, and as a JSON text in any of the spellings of that string.  Each has a reader of
its own, and all of them must give one answer, also where the answer is a refusal: the refused
name has to be reported as it was meant, whatever escapes or bytes it was written in.

Beside them stands the reading of what people write.  It has the same names in a table of its own
and accepts more, and it must never give a name that is stored another size.

Main statement:

* `readers_agree`: one answer for every name, what it is, and how it compares with the lenient
  one.
-/
import LoadingIndicator.Size.Parse
import LoadingIndicator.Size.Text

namespace LoadingIndicator.Size

open Json (Spaces Spells spaces_nil)

/-! ## 1. Texts -/

theorem decodeText_quoted {s spelled : String} (h : Spells s.toList spelled.toList) :
    decodeText ("\"" ++ spelled ++ "\"") = (decodeName s).mapError TextError.data := by
  have htext : ("\"" ++ spelled ++ "\"").toList = [] ++ literal spelled.toList ++ [] := by
    simp [literal]
  exact decodeText_of_form htext spaces_nil spaces_nil .alone h

theorem decodeText_entry {s spelled : String} (h : Spells s.toList spelled.toList) :
    decodeText ("\x7b\"" ++ spelled ++ "\":null\x7d") = (decodeName s).mapError TextError.data := by
  have htext : ("\x7b\"" ++ spelled ++ "\":null\x7d").toList = [] ++
      (['{'] ++ [] ++ literal spelled.toList ++ [] ++ [':'] ++ [] ++ ['n', 'u', 'l', 'l'] ++ [] ++
        ['}']) ++ [] := by
    simp [literal]
  exact decodeText_of_form htext spaces_nil spaces_nil
    (.entry spaces_nil spaces_nil spaces_nil spaces_nil) h

/-! ## 2. The lenient reading -/

/-- A stored name is read leniently as the same size, and nothing is logged. -/
theorem lenient_of_decodeName {s : String} {z : Size} (h : decodeName s = .ok z) :
    parse s = .ok z ∧ ofAttribute (some s) = (z, []) := by
  have hname : s = z.name := decodeName_eq_ok_iff.mp h
  have hparse : parse s = .ok z := by
    rw [hname]
    exact parse_name z
  exact ⟨hparse, ofAttribute_of_ok hparse⟩

theorem decodeName_longName_ne_ok (y z : Size) : decodeName z.longName ≠ .ok y := by
  rw [ne_eq, decodeName_eq_ok_iff]
  cases y <;> cases z <;> decide

/-! ## 3. One answer -/

/-- **All readings of a name agree**, on a size or on a refusal, whether the name comes as a JSON
value, as bytes, or in any spelling in a JSON text.  They accept exactly the short names, and a
refusal names what was refused.  What they accept the lenient reading accepts as the same size
without a word, and it accepts more. -/
theorem readers_agree (s : String) :
    (decodeValue (.string s) = decodeName s ∧ decodeValue (.object [(s, .null)]) = decodeName s ∧
        decodeBytes (Text.Utf8.bytes s) = decodeName s ∧
        (∃ spelled : String, Spells s.toList spelled.toList) ∧
        ∀ spelled : String, Spells s.toList spelled.toList →
          decodeText ("\"" ++ spelled ++ "\"") = (decodeName s).mapError TextError.data ∧
            decodeText ("\x7b\"" ++ spelled ++ "\":null\x7d") =
              (decodeName s).mapError TextError.data) ∧
      (∀ z : Size, decodeName s = .ok z ↔ s = z.name) ∧
      ((∀ z : Size, s ≠ z.name) → ∃ e, decodeName s = .error e ∧
        e.message = "unknown variant `" ++ s ++ "`, expected one of `sm`, `md`, `lg`") ∧
      (∀ z, decodeName s = .ok z → parse s = .ok z ∧ ofAttribute (some s) = (z, [])) ∧
      (∀ y z, decodeName s = .ok y → parse s = .ok z → z = y) ∧
      ∀ z : Size, parse z.longName = .ok z ∧ ∀ y, decodeName z.longName ≠ .ok y := by
  refine ⟨⟨rfl, decodeValue_entry_null s, decodeBytes_bytes s, ?_, ?_⟩, ?_, ?_, ?_, ?_, ?_⟩
  · refine ⟨String.ofList (Json.printChars s.toList), ?_⟩
    rw [String.toList_ofList]
    exact Json.spells_printChars s.toList
  · intro spelled hspells
    exact ⟨decodeText_quoted hspells, decodeText_entry hspells⟩
  · intro z
    exact decodeName_eq_ok_iff
  · intro hnone
    exact ⟨.unknownVariant s, decodeName_eq_error hnone, rfl⟩
  · intro z hread
    exact lenient_of_decodeName hread
  · intro y z hread hparse
    rw [(lenient_of_decodeName hread).1] at hparse
    exact (Except.ok.inj hparse).symm
  · intro z
    exact ⟨parse_longName z, fun y => decodeName_longName_ne_ok y z⟩

/-- A name spelled by two halves and its four bytes are refused as the same character; a name that
is stored is read by all. -/
theorem readers_agree_halves :
    Spells "😀".toList "\\ud83d\\uDE00".toList ∧
      decodeText ("\"" ++ "\\ud83d\\uDE00" ++ "\"") = .error (.data (.unknownVariant "😀")) ∧
      decodeText ("\x7b\"" ++ "\\ud83d\\uDE00" ++ "\":null\x7d") =
        .error (.data (.unknownVariant "😀")) ∧
      decodeBytes (Text.Utf8.bytes "😀") = .error (.unknownVariant "😀") ∧
      (∃ e, decodeName "😀" = .error e ∧
        e.message = "unknown variant `" ++ "😀" ++ "`, expected one of `sm`, `md`, `lg`") ∧
      parse "lg" = .ok .large ∧ ofAttribute (some "lg") = (.large, []) := by
  obtain ⟨⟨-, -, hbytes, -, htexts⟩, -, hrefused, -⟩ := readers_agree "😀"
  obtain ⟨-, hnames, -, hlenient, -⟩ := readers_agree "lg"
  have hspells : Spells "😀".toList "\\ud83d\\uDE00".toList := by
    have hhalves : Json.joinHalves 0xd83d 0xde00 = '😀' := by decide
    have hchar : Json.SpellsChar '😀' "\\ud83d\\uDE00".toList := by
      rw [← hhalves]
      exact .halves (by decide) (by decide) (by decide) (by decide)
    have hcons := Spells.cons hchar .nil
    rw [List.append_nil] at hcons
    exact hcons
  have hnone : ∀ z : Size, "😀" ≠ z.name := by
    intro z
    cases z <;> decide
  have hname := decodeName_eq_error hnone
  obtain ⟨hquoted, hentry⟩ := htexts _ hspells
  rw [hname] at hquoted hentry hbytes
  have hlarge := hlenient .large ((hnames .large).mpr rfl)
  exact ⟨hspells, hquoted, hentry, hbytes, hrefused hnone, hlarge⟩

end LoadingIndicator.Size
