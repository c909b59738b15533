/-
# Refused names in reports

A name that is refused may be any text, also one that somebody chose in order to deceive, and it
is repeated in three reports: in what a person is told, in the refusal as a term, and in a log
line.  There it stands in quotes.  The quotes must keep it on its line and in sight, so that it
can neither end the line and begin another one nor hide or turn around a part of it; and they must
keep it whole, so that two reports are the same only if the names are.

Both rest on the writing of quoted texts.  What it writes holds no hidden character, and the
tables of this file say what that excludes; and what it writes is read back, whatever follows, so
that one reading recovers the name from each of the reports.

Main statement:

* `refusals_unambiguous`: what a report holds, what is recovered from it, and when two reports are
  the same.
-/
import LoadingIndicator.Size.Parse

namespace LoadingIndicator.Size

open Text (Ranges isBlank isHidden quote quoteChars readQuoted)

/-! ## 1. Characters that do not belong in a report -/

/-- The control characters, and the separators of lines and of paragraphs. -/
def breaking : Ranges := [(0x0, 0x1f), (0x7f, 0x9f), (0x2028, 0x2029)]

/-- The format characters, among them those that turn the direction of writing. -/
def formatting : Ranges :=
  [(0xad, 0xad), (0x600, 0x605), (0x61c, 0x61c), (0x6dd, 0x6dd), (0x70f, 0x70f), (0x890, 0x891),
    (0x8e2, 0x8e2), (0x180e, 0x180e), (0x200b, 0x200f), (0x202a, 0x202e), (0x2060, 0x2064),
    (0x2066, 0x206f), (0xfeff, 0xfeff), (0xfff9, 0xfffb), (0x110bd, 0x110bd), (0x110cd, 0x110cd),
    (0x13430, 0x1343f), (0x1bca0, 0x1bca3), (0x1d173, 0x1d17a), (0xe0001, 0xe0001),
    (0xe0020, 0xe007f)]

/-- The white space other than the space. -/
def otherBlanks : Ranges := Text.blankRanges.filter fun r => r != (0x20, 0x20)

/-- Whether a character may stand in a report: quoting does not replace it, it is not hidden,
breaks no line, formats nothing, and is no white space other than the space. -/
structure Shown (c : Char) : Prop where
  kept : c ∈ Text.escape c
  visible : isHidden c = false
  unbroken : breaking.holds c.toNat = false
  unformatted : formatting.holds c.toNat = false
  space : isBlank c = true → c = ' '

theorem hides_tables :
    (Text.hides breaking = true ∧ breaking.ascending = true) ∧
      (Text.hides formatting = true ∧ formatting.ascending = true) ∧
      Text.hides otherBlanks = true ∧ otherBlanks.ascending = true := by decide +kernel

theorem holds_eq_false {rs : Ranges} (hrs : Text.hides rs = true ∧ rs.ascending = true) {c : Char}
    (hc : isHidden c = false) : rs.holds c.toNat = false := by
  cases hholds : rs.holds c.toNat with
  | false => rfl
  | true =>
    rw [Text.isHidden_of_hides hrs.1 hrs.2 hholds] at hc
    cases hc

theorem space_or_other {c : Char} (h : isBlank c = true) :
    c = ' ' ∨ otherBlanks.holds c.toNat = true := by
  have hascending : Text.blankRanges.ascending = true := by decide
  obtain ⟨r, hr, hlow, hhigh⟩ := (Ranges.holds_iff hascending c.toNat).mp h
  by_cases hspace : r = (0x20, 0x20)
  · subst hspace
    have hnumber : c.toNat = ' '.toNat := Nat.le_antisymm hhigh hlow
    exact Or.inl (Char.toNat_inj.mp hnumber)
  · have hmem : r ∈ otherBlanks := List.mem_filter.mpr ⟨hr, by simpa using hspace⟩
    exact Or.inr ((Ranges.holds_iff hides_tables.2.2.2 c.toNat).mpr ⟨r, hmem, hlow, hhigh⟩)

/-- What is not hidden is written as itself, if need be behind a backslash. -/
theorem mem_escape_of_not_hidden {c : Char} (h : isHidden c = false) : c ∈ Text.escape c := by
  have hcontrol : ¬ c.toNat < 0x20 := by
    intro hlow
    rw [Text.isHidden_of_control hlow] at h
    cases h
  unfold Text.escape
  split
  · decide
  · decide
  · exact absurd (by decide) hcontrol
  · exact absurd (by decide) hcontrol
  · exact absurd (by decide) hcontrol
  · exact absurd (by decide) hcontrol
  · rw [if_neg (by rw [h]; exact Bool.false_ne_true)]
    exact List.mem_singleton_self _

/-- **What is not hidden may stand in a report.** -/
theorem shown_of_not_hidden {c : Char} (h : isHidden c = false) : Shown c where
  kept := mem_escape_of_not_hidden h
  visible := h
  unbroken := holds_eq_false hides_tables.1 h
  unformatted := holds_eq_false hides_tables.2.1 h
  space hblank := by
    rcases space_or_other hblank with hspace | hother
    · exact hspace
    · rw [holds_eq_false hides_tables.2.2 h] at hother
      cases hother

/-! ## 2. Quoted names in reports -/

/-- The name that a report holds: the quoted text that begins at its first quote. -/
def recover? (report : String) : Option String :=
  (readQuoted (report.toList.dropWhile fun c => c != '"')).map fun read => String.ofList read.1

/-- Whether a text stands in front of a name in a report: it is printable and has no quote. -/
def isFront (front : String) : Bool := front.toList.all fun c => c != '"' && !isHidden c

/-- Whether a text stands behind a name in a report: it is printable. -/
def isBack (back : String) : Bool := back.toList.all fun c => !isHidden c

theorem mem_front {front : String} (h : isFront front = true) {c : Char} (hc : c ∈ front.toList) :
    (c != '"') = true ∧ isHidden c = false := by
  have hboth := List.all_eq_true.mp h c hc
  rw [Bool.and_eq_true, Bool.not_eq_true'] at hboth
  exact hboth

/-- **The name is recovered from a report**, whatever stands before it without a quote and
whatever behind it. -/
theorem recover?_report {front : String} (hfront : isFront front = true) (s back : String) :
    recover? (front ++ quote s ++ back) = some s := by
  have hskip : ∀ c ∈ front.toList, (c != '"') = true := by
    intro c hc
    exact (mem_front hfront hc).1
  have hquote : (quoteChars s.toList ++ back.toList).dropWhile (fun c => c != '"') =
      quoteChars s.toList ++ back.toList := List.dropWhile_cons_of_neg (by decide)
  rw [recover?, String.toList_append, String.toList_append, Text.toList_quote, List.append_assoc,
    List.dropWhile_append_of_pos hskip, hquote, Text.readQuoted_quoteChars, Option.map_some,
    String.ofList_toList]

/-- **All that stands in a report is shown**, if what stands around the name is. -/
theorem shown_report {front back : String} (hfront : isFront front = true)
    (hback : isBack back = true) (s : String) :
    ∀ c ∈ (front ++ quote s ++ back).toList, Shown c := by
  intro c hc
  refine shown_of_not_hidden ?_
  rw [String.toList_append, String.toList_append, Text.toList_quote] at hc
  rcases List.mem_append.mp hc with hc | hc
  · rcases List.mem_append.mp hc with hc | hc
    · exact (mem_front hfront hc).2
    · exact Text.isHidden_of_mem_quoteChars hc
  · have hshown := List.all_eq_true.mp hback c hc
    simpa using hshown

/-- The three reports of a refusal: what a person is told, the term, and the text of the log
line. -/
def reports (e : UnknownSize) : List String := [e.message, e.term, e.warning.message]

/-- Each report has the quoted name between a front and a back. -/
theorem exists_report {e : UnknownSize} {report : String} (h : report ∈ reports e) :
    ∃ front back : String, report = front ++ quote e.value ++ back ∧ isFront front = true ∧
      isBack back = true := by
  simp only [reports, List.mem_cons, List.not_mem_nil, or_false] at h
  rcases h with rfl | rfl | rfl
  · refine ⟨"Unknown spinner size: ", "", ?_, by decide +kernel, by decide +kernel⟩
    rw [String.append_empty]
    rfl
  · exact ⟨"UnknownSize(", ")", rfl, by decide +kernel, by decide +kernel⟩
  · refine ⟨"Unknown spinner size: ", ", falling back to md", ?_, by decide +kernel,
      by decide +kernel⟩
    rw [UnknownSize.warning_eq]

/-- A report shows all it holds, and the refused name is recovered from it. -/
theorem report_sound {e : UnknownSize} {report : String} (h : report ∈ reports e) :
    (∀ c ∈ report.toList, Shown c) ∧ recover? report = some e.value := by
  obtain ⟨front, back, rfl, hfront, hback⟩ := exists_report h
  exact ⟨shown_report hfront hback e.value, recover?_report hfront e.value back⟩

/-! ## 3. Equal reports -/

theorem eq_of_report {d e : UnknownSize} {report : String} (hd : report ∈ reports d)
    (he : report ∈ reports e) : d = e := by
  have hvalue : some d.value = some e.value :=
    (report_sound hd).2.symm.trans (report_sound he).2
  calc d = ⟨d.value⟩ := rfl
    _ = ⟨e.value⟩ := by rw [Option.some.inj hvalue]
    _ = e := rfl

theorem mem_reports (e : UnknownSize) :
    e.message ∈ reports e ∧ e.term ∈ reports e ∧ e.warning.message ∈ reports e := by
  simp [reports]

/-- **One report tells refusals apart**, each of the three. -/
theorem reports_inj {d e : UnknownSize} :
    (d.message = e.message ↔ d = e) ∧ (d.term = e.term ↔ d = e) ∧
      (d.warning = e.warning ↔ d = e) := by
  obtain ⟨hmessage, hterm, hwarning⟩ := mem_reports d
  obtain ⟨hmessage', hterm', hwarning'⟩ := mem_reports e
  refine ⟨⟨?_, ?_⟩, ⟨?_, ?_⟩, ⟨?_, ?_⟩⟩
  · intro h
    rw [h] at hmessage
    exact eq_of_report hmessage hmessage'
  · rintro rfl
    rfl
  · intro h
    rw [h] at hterm
    exact eq_of_report hterm hterm'
  · rintro rfl
    rfl
  · intro h
    rw [h] at hwarning
    exact eq_of_report hwarning hwarning'
  · rintro rfl
    rfl

theorem refused_of_parse {s : String} (h : ∀ z, parse s ≠ .ok z) :
    parse s = .error ⟨s⟩ ∧
      ofAttribute (some s) = (standard, [UnknownSize.warning ⟨s⟩]) :=
  ⟨parse_eq_error h, ofAttribute_of_error (parse_eq_error h)⟩

/-- Two readings are equal exactly if both give one size, or neither gives any and the texts are
the same. -/
theorem parse_eq_parse_iff {a b : String} :
    parse a = parse b ↔ (∃ z, parse a = .ok z ∧ parse b = .ok z) ∨
      ((∀ z, parse a ≠ .ok z) ∧ (∀ z, parse b ≠ .ok z) ∧ a = b) := by
  constructor
  · intro h
    cases ha : parse a with
    | ok z => exact Or.inl ⟨z, rfl, h ▸ ha⟩
    | error e =>
      have hb : parse b = .error e := h ▸ ha
      have hvalue : a = b := (value_of_parse ha).symm.trans (value_of_parse hb)
      refine Or.inr ⟨?_, ?_, hvalue⟩
      · intro z hz
        cases hz
      · intro z hz
        rw [hb] at hz
        cases hz
  · rintro (⟨z, ha, hb⟩ | ⟨-, -, rfl⟩)
    · rw [ha, hb]
    · rfl

/-- **Refused names are reported unambiguously and cannot forge a report.**  Whatever text is
refused, each of the three reports holds nothing that is hidden, breaks a line or turns it around,
and no white space but the space; and one reading recovers the text from each of them.  So for two
texts that are refused the readings, each of the reports and the texts themselves are equal or
different together.  For any two texts the readings are equal exactly if both give one size, or
neither gives any and the texts are the same. -/
theorem refusals_unambiguous :
    (∀ s : String, (∀ z, parse s ≠ .ok z) → ∃ e, parse s = .error e ∧
        ofAttribute (some s) = (standard, [e.warning]) ∧
        ∀ report ∈ [e.message, e.term, e.warning.message],
          (∀ c ∈ report.toList, Shown c) ∧ recover? report = some s) ∧
      (∀ (a b : String) (d e : UnknownSize), parse a = .error d → parse b = .error e →
        (parse a = parse b ↔ a = b) ∧ (d.message = e.message ↔ a = b) ∧
          (d.term = e.term ↔ a = b) ∧
          ((ofAttribute (some a)).2 = (ofAttribute (some b)).2 ↔ a = b)) ∧
      ∀ a b : String, parse a = parse b ↔ (∃ z, parse a = .ok z ∧ parse b = .ok z) ∨
        ((∀ z, parse a ≠ .ok z) ∧ (∀ z, parse b ≠ .ok z) ∧ a = b) := by
  refine ⟨?_, ?_, fun a b => parse_eq_parse_iff⟩
  · intro s hs
    obtain ⟨hparse, hlenient⟩ := refused_of_parse hs
    exact ⟨⟨s⟩, hparse, hlenient, fun report => report_sound⟩
  · intro a b d e ha hb
    have hd : d = ⟨a⟩ := by rw [← value_of_parse ha]
    have he : e = ⟨b⟩ := by rw [← value_of_parse hb]
    have hvalues : d = e ↔ a = b := by rw [hd, he, UnknownSize.mk.injEq]
    obtain ⟨hmessage, hterm, hwarning⟩ := reports_inj (d := d) (e := e)
    refine ⟨?_, hmessage.trans hvalues, hterm.trans hvalues, ?_⟩
    · rw [ha, hb, Except.error.injEq, hvalues]
    · rw [ofAttribute_of_error ha, ofAttribute_of_error hb, List.cons.injEq, hwarning, hvalues]
      simp

/-- A name that would end its line, turn the writing around and pass for the end of a report is
recovered as it was, and a blank makes a difference. -/
theorem refusals_unambiguous_forged :
    (∃ e, parse "xl\", falling back to md\nERROR \u202e" = .error e ∧
        (∀ c ∈ e.warning.message.toList, Shown c) ∧
        recover? e.warning.message = some "xl\", falling back to md\nERROR \u202e") ∧
      UnknownSize.message ⟨"xl"⟩ ≠ UnknownSize.message ⟨"xl "⟩ := by
  have hunnamed : ∀ s ∈ ["xl\", falling back to md\nERROR \u202e", "xl", "xl "],
      ofEitherName? (Text.lower (Text.trim s)) = none := by decide +kernel
  have hrefused : ∀ s ∈ ["xl\", falling back to md\nERROR \u202e", "xl", "xl "],
      ∀ z, parse s ≠ .ok z := by
    intro s hs z
    rw [ne_eq, parse_eq_ok_iff, hunnamed s hs]
    intro h
    cases h
  obtain ⟨hreports, hequal, -⟩ := refusals_unambiguous
  constructor
  · obtain ⟨e, hparse, -, hall⟩ := hreports "xl\", falling back to md\nERROR \u202e"
      (hrefused _ (by simp))
    obtain ⟨hshown, hrecovered⟩ := hall e.warning.message (by simp)
    exact ⟨e, hparse, hshown, hrecovered⟩
  · have ha : parse "xl" = .error ⟨"xl"⟩ := parse_eq_error (hrefused _ (by simp))
    have hb : parse "xl " = .error ⟨"xl "⟩ := parse_eq_error (hrefused _ (by simp))
    obtain ⟨-, hmessage, -⟩ := hequal _ _ _ _ ha hb
    rw [ne_eq, hmessage]
    decide

end LoadingIndicator.Size
