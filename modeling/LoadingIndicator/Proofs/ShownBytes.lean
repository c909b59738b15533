/-
# Text among bytes that are none

Bytes come in from outside in two places: as the stored name of a size, and escaped in the query
of an address.  In both they may be anything, and in both they are read as text without refusal.
What is no text must then stand for itself and for nothing more.  It must not hide the text behind
it, as a character that has begun and is never completed might; and it must not pass for a name.

Main statement:

* `text_survives_bytes`: which bytes are a size, what the others show, and that a query shows the
  same of them.
-/
import LoadingIndicator.Proofs.QueryParts
import LoadingIndicator.Size.Decode
import LoadingIndicator.Text.Utf8.Sequence

namespace LoadingIndicator.Size

open Query (SpellsBytes get?)
open Text.Utf8 (Broken WellFormed bytes decode)

/-! ## 1. Stored names -/

/-- A text of ASCII, one byte for each character. -/
def asciiBytes (s : String) : List UInt8 := s.toList.map fun c => UInt8.ofNat c.toNat

theorem bytes_name (z : Size) : bytes z.name = asciiBytes z.name := by cases z <;> decide

/-- **Bytes that are no short name are refused as the text they show.** -/
theorem refused_of_bytes {bs : List UInt8} (h : ∀ z : Size, bs ≠ asciiBytes z.name) :
    ∃ e, decodeBytes bs = .error e ∧
      e.message = "unknown variant `" ++ decode bs ++ "`, expected one of `sm`, `md`, `lg`" := by
  refine ⟨.unknownVariant (decode bs), decodeBytes_eq_error ?_, rfl⟩
  intro z
  rw [bytes_name]
  exact h z

/-! ## 2. Escaped bytes -/

/-- **A query shows of escaped bytes what they show elsewhere.** -/
theorem get?_of_spellsBytes {bs : List UInt8} {spelled : String}
    (h : SpellsBytes bs spelled.toList) : get? ("?size=" ++ spelled) "size" = some (decode bs) := by
  have hpart : ("size=" ++ spelled).toList = "size".toList ++ '=' :: spelled.toList := by
    rw [String.toList_append]
    rfl
  have hmark : "?size=" ++ spelled = "?" ++ ("size=" ++ spelled) := by
    rw [← String.append_assoc]
    rfl
  have hfree : '&' ∉ ("size=" ++ spelled).toList := by
    have hspelled : '&' ∉ spelled.toList :=
      Query.not_mem_of_spellsBytes (by decide) (by decide) h
    rw [hpart, List.mem_append, List.mem_cons, not_or, not_or]
    exact ⟨by decide, by decide, hspelled⟩
  have hfull : "size=" ++ spelled ≠ "" := by
    intro hempty
    rw [hempty] at hpart
    cases hpart
  have hname : Query.decode "size".toList = "size" := by decide +kernel
  have hvalue : Query.decode spelled.toList = decode bs := by
    have hbytes := Query.formBytes_of_spellsBytes h []
    rw [List.append_nil, Query.formBytes, List.append_nil] at hbytes
    rw [Query.decode, hbytes]
  rw [get?, hmark, Query.pairs_of_part hfree, if_neg hfull, hpart, Query.decodePart,
    Query.splitFirst_append (by decide), hname, hvalue]
  rfl

/-! ## 3. What is shown -/

/-- A part of bytes that breaks off shows one U+FFFD. -/
theorem decode_broken {part rest : List UInt8} (h : Broken part rest) :
    decode (part ++ rest) = "\ufffd" ++ decode rest := by
  have hcons : ∀ cs,
      String.ofList (Text.Utf8.replacement :: cs) = "\ufffd" ++ String.ofList cs := by
    intro cs
    exact @String.ofList_append ['\ufffd'] cs
  rw [decode, Text.Utf8.decodeFrom_broken h, hcons, decode]

/-- **Invalid bytes neither hide nor swallow text**, and are no name.  Bytes are read as a size
exactly if they are those of its short name, and all others are refused as the text they show.  The
bytes of a text show the text wherever they stand, also behind a character that is not complete; a
part that breaks off shows one U+FFFD; and exactly bytes that are UTF-8 are those of what they show.
A query shows the same of any bytes that it escapes, and from there on they are a name like any
other. -/
theorem text_survives_bytes :
    (∀ (bs : List UInt8) (z : Size), decodeBytes bs = .ok z ↔ bs = asciiBytes z.name) ∧
      (∀ bs : List UInt8, (∀ z : Size, bs ≠ asciiBytes z.name) → ∃ e, decodeBytes bs = .error e ∧
        e.message = "unknown variant `" ++ decode bs ++ "`, expected one of `sm`, `md`, `lg`") ∧
      (∀ (bs : List UInt8) (s : String) (ds : List UInt8), s ≠ "" →
        decode (bs ++ bytes s ++ ds) = decode bs ++ s ++ decode ds) ∧
      (∀ part rest : List UInt8, Broken part rest →
        decode (part ++ rest) = "\ufffd" ++ decode rest) ∧
      (∀ bs : List UInt8, bytes (decode bs) = bs ↔ WellFormed bs) ∧
      ∀ bs : List UInt8, (∃ spelled : String, SpellsBytes bs spelled.toList) ∧
        ∀ spelled : String, SpellsBytes bs spelled.toList →
          get? ("?size=" ++ spelled) "size" = some (decode bs) ∧
            Gallery.requested (some ("?size=" ++ spelled)) = ofAttribute (some (decode bs)) := by
  refine ⟨?_, ?_, ?_, ?_, ?_, ?_⟩
  · intro bs z
    rw [decodeBytes_eq_ok_iff, bytes_name]
  · intro bs hnone
    exact refused_of_bytes hnone
  · intro bs s ds hs
    exact Text.Utf8.decode_append_bytes hs bs ds
  · intro part rest hbroken
    exact decode_broken hbroken
  · intro bs
    exact Text.Utf8.bytes_decode_iff
  · intro bs
    constructor
    · obtain ⟨cs, hcs⟩ := Query.exists_spellsBytes bs
      refine ⟨String.ofList cs, ?_⟩
      rw [String.toList_ofList]
      exact hcs
    · intro spelled hspells
      have hvalue := get?_of_spellsBytes hspells
      refine ⟨hvalue, ?_⟩
      rw [Gallery.requested, Option.bind_some, hvalue]

/-- Three of the four bytes of a character, in front of a name, in both places. -/
theorem text_survives_bytes_unfinished :
    decode ([0xf0, 0x9f, 0x98] ++ bytes "sm" ++ [0x80]) = "\ufffdsm\ufffd" ∧
      Broken [0xf0, 0x9f, 0x98] (bytes "sm") ∧
      decode ([0xf0, 0x9f, 0x98] ++ bytes "sm") = "\ufffd" ++ "sm" ∧
      (∃ e, decodeBytes [0xf0, 0x9f, 0x98, 0x73, 0x6d] = .error e ∧
        e.message = "unknown variant `" ++ "\ufffdsm" ++ "`, expected one of `sm`, `md`, `lg`") ∧
      get? ("?size=" ++ "%F0%9f%98%73%6D") "size" = some "\ufffdsm" := by
  obtain ⟨-, hrefused, haround, hbroken, -, hquery⟩ := text_survives_bytes
  have hshown : decode [0xf0, 0x9f, 0x98] = "\ufffd" := by decide
  have hstray : decode [0x80] = "\ufffd" := by decide
  have hbytes : decode [0xf0, 0x9f, 0x98, 0x73, 0x6d] = "\ufffdsm" := by decide
  have hlead : Text.Utf8.start 0xf0 = ([], some ⟨3, 0x90, 0xbf, 0⟩) := by decide
  have hbegins : Text.Utf8.Begins [0xf0, 0x9f, 0x98] :=
    ⟨[0x80], (Text.Utf8.isSequence_lead_iff hlead).mpr (by decide)⟩
  have hpart : Broken [0xf0, 0x9f, 0x98] (bytes "sm") := by
    refine ⟨by decide, ?_, fun hnot => absurd hbegins hnot, ?_⟩
    · rw [Text.Utf8.isSequence_lead_iff hlead]
      decide
    · rintro b hb ⟨rest, hrest⟩
      have hs : b = 0x73 := (Option.some.inj hb).symm
      subst hs
      cases (Text.Utf8.isSequence_lead_iff hlead).mp hrest with
      | cons _ hsecond =>
        cases hsecond with
        | cons _ hthird =>
          cases hthird with
          | cons hfourth _ => exact absurd hfourth (by decide)
  have hspells : SpellsBytes [0xf0, 0x9f, 0x98, 0x73, 0x6d] "%F0%9f%98%73%6D".toList :=
    .cons (by decide) (.cons (by decide) (.cons (by decide) (.cons (by decide)
      (.cons (by decide) .nil))))
  refine ⟨?_, hpart, ?_, ?_, ?_⟩
  · rw [haround _ _ _ (by decide), hshown, hstray]
    decide
  · rw [hbroken _ _ hpart, Text.Utf8.decode_bytes]
  · have hnone : ∀ z : Size, [0xf0, 0x9f, 0x98, 0x73, 0x6d] ≠ asciiBytes z.name := by
      intro z
      cases z <;> decide
    rw [← hbytes]
    exact hrefused _ hnone
  · rw [← hbytes]
    exact ((hquery _).2 _ hspells).1

end LoadingIndicator.Size
