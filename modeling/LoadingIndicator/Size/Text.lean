/-
# Sizes in JSON text

A size is read from a JSON text without building the value first.  The text is judged from left
to right and the first failure is final: a name is checked as soon as its quote is closed, the
key of an object before its value, and the value as soon as its kind is known.  Only then does
it matter what follows.

A size is written in one of two forms around a name in quotes, with the name spelled in any way
a string can be spelled.  `Form` has the two forms for any text between the quotes, so that one
law says what is read of a right name and of a wrong one.

Main statements:

* `decodeText_of_form`: a name in either form, however spelled, is read as the name alone;
* `decodeText_eq_ok_iff`: nothing else is read as a size;
* `decodeText_append_of_ok`: behind a size only white space may follow;
* `decodeText_of_unknownName`, `decodeText_of_wrongKind`: what is refused whatever follows.
-/
import LoadingIndicator.Json.Spelling
import LoadingIndicator.Size.Decode

namespace LoadingIndicator

/-- Why a text holds no size: what it holds is no size, or it is no JSON text. -/
inductive TextError
  | data (e : DecodeError)
  | text (f : Json.Fault)
  deriving DecidableEq

namespace Size

open Json (Defect Spaces Spells isSpace skipSpace scanKind scanString scanWord)

/-! ## 1. Names and null -/

/-- Takes a name behind its opening quote. -/
def scanName (cs : List Char) : Except TextError (Size × List Char) :=
  match scanString cs with
  | .error f => .error (.text f)
  | .ok (s, rest) =>
    match decodeName s with
    | .error e => .error (.data e)
    | .ok z => .ok (z, rest)

/-- Takes the key of an object, a string that names a size.  Any other character is refused, even
where a value begins. -/
def scanKey : List Char → Except TextError (Size × List Char)
  | [] => .error (.text .ended)
  | c :: cs =>
    if c = '"' then scanName cs else .error (.text (.defect .keyNoString))

/-- Takes the value of an object's entry, which is null. -/
def scanUnit (cs : List Char) : Except TextError (List Char) :=
  match scanKind cs with
  | .error f => .error (.text f)
  | .ok (.null, rest) => .ok rest
  | .ok (kind, _) => .error (.data (.wrongKind kind .unit))

/-- Takes a mark behind white space; another character is the given defect. -/
def scanMark (d : Defect) (c : Char) (cs : List Char) : Except TextError (List Char) :=
  match scanWord d [c] (skipSpace cs) with
  | .error f => .error (.text f)
  | .ok rest => .ok rest

/-! ## 2. The two forms -/

/-- Takes an object behind its opening brace: one entry, whose key names the size.  What stands in
the place of the closing brace, another entry too, is no value of a size. -/
def scanObject (cs : List Char) : Except TextError (Size × List Char) := do
  let (z, cs) ← scanKey (skipSpace cs)
  let cs ← scanMark .noColon ':' cs
  let cs ← scanUnit (skipSpace cs)
  let cs ← scanMark .noValue '}' cs
  .ok (z, cs)

/-- Takes a size in either form. -/
def scanSize : List Char → Except TextError (Size × List Char)
  | [] => .error (.text .ended)
  | c :: cs =>
    if c = '"' then scanName cs
    else if c = '{' then scanObject cs
    else .error (.text (.defect .noValue))

/-- Reads a size from a JSON text. -/
def decodeText (text : String) : Except TextError Size :=
  match scanSize (skipSpace text.toList) with
  | .error e => .error e
  | .ok (z, rest) =>
    if (skipSpace rest).isEmpty then .ok z else .error (.text (.defect .trailing))

/-! ## 3. A name in either form is read -/

/-- The two forms around a literal: it stands alone, or as the only key of an object whose value
is null. -/
inductive Form (literal : List Char) : List Char → Prop
  | alone : Form literal literal
  | entry {w₁ w₂ w₃ w₄ : List Char} (h₁ : Spaces w₁) (h₂ : Spaces w₂) (h₃ : Spaces w₃)
    (h₄ : Spaces w₄) :
    Form literal
      (['{'] ++ w₁ ++ literal ++ w₂ ++ [':'] ++ w₃ ++ ['n', 'u', 'l', 'l'] ++ w₄ ++ ['}'])

/-- A spelled text in quotes. -/
def literal (spelled : List Char) : List Char := '"' :: spelled ++ ['"']

/-- What a scanner makes of a name: it fails as the reader of names does, or leaves the rest. -/
def scanned (s : String) (rest : List Char) : Except TextError (Size × List Char) :=
  ((decodeName s).mapError TextError.data).map fun z => (z, rest)

theorem scanned_of_ok {s : String} {z : Size} (h : decodeName s = .ok z) (rest : List Char) :
    scanned s rest = .ok (z, rest) := by
  rw [scanned, h]
  rfl

theorem scanned_of_error {s : String} {e : DecodeError} (h : decodeName s = .error e)
    (rest : List Char) : scanned s rest = .error (.data e) := by
  rw [scanned, h]
  rfl

theorem scanName_of_spells {s : String} {spelled : List Char} (h : Spells s.toList spelled)
    (rest : List Char) : scanName (spelled ++ '"' :: rest) = scanned s rest := by
  have hstring : scanString (spelled ++ '"' :: rest) = .ok (s, rest) :=
    Json.scanString_eq_ok_iff.mpr ⟨spelled, rfl, h⟩
  rw [scanName, hstring]
  cases hname : decodeName s with
  | error e =>
    rw [scanned_of_error hname]
    simp only [hname]
  | ok z =>
    rw [scanned_of_ok hname]
    simp only [hname]

theorem scanMark_eq_ok_iff {d : Defect} {c : Char} (hc : isSpace c = false)
    {cs rest : List Char} :
    scanMark d c cs = .ok rest ↔ ∃ w, Spaces w ∧ cs = w ++ c :: rest := by
  have hword : scanWord d [c] (skipSpace cs) = .ok rest ↔ skipSpace cs = c :: rest :=
    Json.scanWord_eq_ok_iff
  rw [← Json.skipSpace_eq_cons_iff hc, ← hword, scanMark]
  cases scanWord d [c] (skipSpace cs) with
  | error f => simp
  | ok last => simp

theorem scanUnit_eq_ok_iff {cs rest : List Char} :
    scanUnit cs = .ok rest ↔ cs = ['n', 'u', 'l', 'l'] ++ rest := by
  rw [← Json.scanKind_eq_null_iff, scanUnit]
  split
  · rename_i f hkind
    simp [hkind]
  · rename_i last hkind
    simp [hkind]
  · rename_i kind last hnull hkind
    constructor
    · intro h
      cases h
    · intro h
      rw [hkind] at h
      simp only [Except.ok.injEq, Prod.mk.injEq] at h
      exact absurd h.1 hnull

theorem bind_of_ok {ε α β : Type} {x : Except ε α} {a : α} (h : x = .ok a) (f : α → Except ε β) :
    (x >>= f) = f a := by
  rw [h]
  rfl

theorem bind_of_error {ε α β : Type} {x : Except ε α} {e : ε} (h : x = .error e)
    (f : α → Except ε β) : (x >>= f) = .error e := by
  rw [h]
  rfl

theorem bind_eq_ok_iff {ε α β : Type} {x : Except ε α} {f : α → Except ε β} {b : β} :
    (x >>= f) = .ok b ↔ ∃ a, x = .ok a ∧ f a = .ok b := by
  constructor
  · intro h
    cases x with
    | error e => cases h
    | ok a => exact ⟨a, rfl, h⟩
  · rintro ⟨a, rfl, h⟩
    exact h

/-- The text of an object up to its key, a spelled name. -/
inductive KeyFront (s : String) : List Char → Prop
  | mk {w spelled : List Char} (h : Spaces w) (key : Spells s.toList spelled) :
    KeyFront s ('{' :: (w ++ literal spelled))

/-- The text of an object up to where the value of its entry stands. -/
inductive ValueFront (s : String) : List Char → Prop
  | mk {front w₁ w₂ : List Char} (key : KeyFront s front) (h₁ : Spaces w₁) (h₂ : Spaces w₂) :
    ValueFront s (front ++ w₁ ++ ':' :: w₂)

/-- Behind its key an object is read on, if the key names a size. -/
theorem scanSize_of_keyFront {s : String} {front : List Char} (h : KeyFront s front)
    (cs : List Char) :
    scanSize (front ++ cs) = (do
      let (z, cs) ← scanned s cs
      let cs ← scanMark .noColon ':' cs
      let cs ← scanUnit (skipSpace cs)
      let cs ← scanMark .noValue '}' cs
      .ok (z, cs)) := by
  cases h with
  | @mk w spelled h key =>
    have hfront : '{' :: (w ++ literal spelled) ++ cs =
        '{' :: (w ++ '"' :: (spelled ++ '"' :: cs)) := by simp [literal]
    have hkey : scanKey (skipSpace (w ++ '"' :: (spelled ++ '"' :: cs))) = scanned s cs := by
      rw [Json.skipSpace_append h, Json.skipSpace_cons (by decide), scanKey, if_pos rfl,
        scanName_of_spells key]
    rw [hfront, scanSize, if_neg (by decide), if_pos rfl, scanObject, hkey]

theorem skipSpace_of_keyFront {s : String} {front : List Char} (h : KeyFront s front)
    (cs : List Char) : skipSpace (front ++ cs) = front ++ cs := by
  cases h
  exact Json.skipSpace_cons (by decide) _

theorem skipSpace_of_valueFront {s : String} {front : List Char} (h : ValueFront s front)
    (cs : List Char) : skipSpace (front ++ cs) = front ++ cs := by
  cases h with
  | mk key h₁ h₂ =>
    rw [List.append_assoc, List.append_assoc]
    exact skipSpace_of_keyFront key _

/-- **A key that names no size is the failure**, whatever follows it. -/
theorem scanSize_of_unknownKey {s : String} {front : List Char} {e : DecodeError}
    (h : KeyFront s front) (hs : decodeName s = .error e) (cs : List Char) :
    scanSize (front ++ cs) = .error (.data e) := by
  rw [scanSize_of_keyFront h, bind_of_error (scanned_of_error hs cs)]

/-- **Behind a key that names a size the value is read.** -/
theorem scanSize_of_valueFront {z : Size} {front : List Char} (h : ValueFront z.name front)
    (cs : List Char) :
    scanSize (front ++ cs) = (do
      let cs ← scanUnit (skipSpace cs)
      let cs ← scanMark .noValue '}' cs
      .ok (z, cs)) := by
  cases h with
  | @mk front w₁ w₂ key h₁ h₂ =>
    have hcolon : scanMark .noColon ':' (w₁ ++ ':' :: (w₂ ++ cs)) = .ok (w₂ ++ cs) :=
      (scanMark_eq_ok_iff (by decide)).mpr ⟨w₁, h₁, rfl⟩
    have hfront : front ++ w₁ ++ ':' :: w₂ ++ cs = front ++ (w₁ ++ ':' :: (w₂ ++ cs)) := by simp
    have hname : decodeName z.name = .ok z := decodeName_eq_ok_iff.mpr rfl
    rw [hfront, scanSize_of_keyFront key, bind_of_ok (scanned_of_ok hname _)]
    dsimp only
    rw [bind_of_ok hcolon, Json.skipSpace_append h₂]

/-- **A spelled name in either form is read as the name alone**: what follows is not looked at,
and the rest of an object only where its key names a size. -/
theorem scanSize_of_form {s : String} {spelled form : List Char} (hspells : Spells s.toList spelled)
    (hform : Form (literal spelled) form) (rest : List Char) :
    scanSize (form ++ rest) = scanned s rest := by
  cases hform with
  | alone =>
    have hfront : literal spelled ++ rest = '"' :: (spelled ++ '"' :: rest) := by
      simp [literal]
    rw [hfront, scanSize, if_pos rfl, scanName_of_spells hspells]
  | @entry w₁ w₂ w₃ w₄ h₁ h₂ h₃ h₄ =>
    have hkey : KeyFront s ('{' :: (w₁ ++ literal spelled)) := .mk h₁ hspells
    cases hname : decodeName s with
    | error e =>
      have hfront : ['{'] ++ w₁ ++ literal spelled ++ w₂ ++ [':'] ++ w₃ ++ ['n', 'u', 'l', 'l'] ++
          w₄ ++ ['}'] ++ rest = '{' :: (w₁ ++ literal spelled) ++
            (w₂ ++ ':' :: (w₃ ++ (['n', 'u', 'l', 'l'] ++ (w₄ ++ '}' :: rest)))) := by simp
      rw [hfront, scanSize_of_unknownKey hkey hname, scanned_of_error hname]
    | ok z =>
      obtain rfl : s = z.name := decodeName_eq_ok_iff.mp hname
      have hfront : ['{'] ++ w₁ ++ literal spelled ++ w₂ ++ [':'] ++ w₃ ++ ['n', 'u', 'l', 'l'] ++
          w₄ ++ ['}'] ++ rest = '{' :: (w₁ ++ literal spelled) ++ w₂ ++ ':' :: w₃ ++
            (['n', 'u', 'l', 'l'] ++ (w₄ ++ '}' :: rest)) := by simp
      have hnull : scanUnit (['n', 'u', 'l', 'l'] ++ (w₄ ++ '}' :: rest)) =
          .ok (w₄ ++ '}' :: rest) := scanUnit_eq_ok_iff.mpr rfl
      have hbrace : scanMark .noValue '}' (w₄ ++ '}' :: rest) = .ok rest :=
        (scanMark_eq_ok_iff (by decide)).mpr ⟨w₄, h₄, rfl⟩
      rw [hfront, scanSize_of_valueFront (.mk hkey h₂ h₃), scanned_of_ok hname,
        Json.skipSpace_of_shows .null, bind_of_ok hnull, bind_of_ok hbrace]

theorem exists_cons_of_form {spelled form : List Char} (h : Form (literal spelled) form) :
    ∃ c cs, form = c :: cs ∧ isSpace c = false := by
  cases h with
  | alone => exact ⟨'"', spelled ++ ['"'], rfl, by decide⟩
  | @entry w₁ w₂ w₃ w₄ =>
    refine ⟨'{', w₁ ++ literal spelled ++ w₂ ++ [':'] ++ w₃ ++ ['n', 'u', 'l', 'l'] ++ w₄ ++ ['}'],
      by simp, by decide⟩

/-- Behind a name in either form only white space may follow. -/
theorem decodeText_eq_of_form {s text : String} {before spelled form rest : List Char}
    (htext : text.toList = before ++ form ++ rest) (hbefore : Spaces before)
    (hform : Form (literal spelled) form) (hspells : Spells s.toList spelled) :
    decodeText text =
      match decodeName s with
      | .error e => .error (.data e)
      | .ok z =>
        if (skipSpace rest).isEmpty then .ok z else .error (.text (.defect .trailing)) := by
  have hskip : skipSpace text.toList = form ++ rest := by
    obtain ⟨c, cs, hhead, hc⟩ := exists_cons_of_form hform
    rw [htext, List.append_assoc, Json.skipSpace_append hbefore, hhead, List.cons_append,
      Json.skipSpace_cons hc]
  rw [decodeText, hskip, scanSize_of_form hspells hform]
  cases hname : decodeName s with
  | error e => rw [scanned_of_error hname]
  | ok z => rw [scanned_of_ok hname]

/-- **A name in either form, however spelled, is read as the name alone**, also with white space
around it. -/
theorem decodeText_of_form {s text : String} {before spelled form after : List Char}
    (htext : text.toList = before ++ form ++ after) (hbefore : Spaces before)
    (hafter : Spaces after) (hform : Form (literal spelled) form)
    (hspells : Spells s.toList spelled) :
    decodeText text = (decodeName s).mapError TextError.data := by
  rw [decodeText_eq_of_form htext hbefore hform hspells, Json.skipSpace_eq_nil_iff.mpr hafter]
  cases decodeName s with
  | error e => rfl
  | ok z => rfl

/-! ## 4. Nothing else is read -/

theorem exists_of_scanName {cs rest : List Char} {z : Size} (h : scanName cs = .ok (z, rest)) :
    ∃ spelled, cs = spelled ++ '"' :: rest ∧ Spells z.name.toList spelled := by
  rw [scanName] at h
  split at h
  · cases h
  · rename_i s last hstring
    split at h
    · cases h
    · rename_i y hname
      simp only [Except.ok.injEq, Prod.mk.injEq] at h
      obtain ⟨rfl, rfl⟩ := h
      rw [← decodeName_eq_ok_iff.mp hname]
      exact Json.scanString_eq_ok_iff.mp hstring

theorem exists_of_scanKey {cs rest : List Char} {z : Size} (h : scanKey cs = .ok (z, rest)) :
    ∃ spelled, cs = '"' :: (spelled ++ '"' :: rest) ∧ Spells z.name.toList spelled := by
  rcases cs with _ | ⟨c, cs⟩
  · cases h
  · rw [scanKey] at h
    split at h
    · rename_i hquote
      obtain ⟨spelled, hcs, hspells⟩ := exists_of_scanName h
      exact ⟨spelled, by rw [hquote, hcs], hspells⟩
    · cases h

theorem exists_of_scanObject {cs rest : List Char} {z : Size} (h : scanObject cs = .ok (z, rest)) :
    ∃ spelled form, '{' :: cs = form ++ rest ∧ Form (literal spelled) form ∧
      Spells z.name.toList spelled := by
  rw [scanObject] at h
  obtain ⟨⟨y, behind⟩, hkey, h⟩ := bind_eq_ok_iff.mp h
  obtain ⟨value, hcolon, h⟩ := bind_eq_ok_iff.mp h
  obtain ⟨last, hnull, h⟩ := bind_eq_ok_iff.mp h
  obtain ⟨rest', hclose, h⟩ := bind_eq_ok_iff.mp h
  simp only [Except.ok.injEq, Prod.mk.injEq] at h
  obtain ⟨rfl, rfl⟩ := h
  -- what each step took, with the white space in front of it
  obtain ⟨spelled, hfront, hspells⟩ := exists_of_scanKey hkey
  obtain ⟨w₁, h₁, rfl⟩ := (Json.skipSpace_eq_cons_iff (by decide)).mp hfront
  obtain ⟨w₂, h₂, rfl⟩ := (scanMark_eq_ok_iff (by decide)).mp hcolon
  obtain ⟨w₃, h₃, rfl⟩ := (Json.skipSpace_eq_cons_iff (by decide)).mp (scanUnit_eq_ok_iff.mp hnull)
  obtain ⟨w₄, h₄, rfl⟩ := (scanMark_eq_ok_iff (by decide)).mp hclose
  refine ⟨spelled, _, ?_, .entry h₁ h₂ h₃ h₄, hspells⟩
  simp [literal]

/-- **What is taken as a size was a name in one of the two forms.** -/
theorem exists_of_scanSize {cs rest : List Char} {z : Size} (h : scanSize cs = .ok (z, rest)) :
    ∃ spelled form, cs = form ++ rest ∧ Form (literal spelled) form ∧
      Spells z.name.toList spelled := by
  rcases cs with _ | ⟨c, cs⟩
  · cases h
  · rw [scanSize] at h
    split at h
    · rename_i hquote
      obtain ⟨spelled, hcs, hspells⟩ := exists_of_scanName h
      refine ⟨spelled, literal spelled, ?_, .alone, hspells⟩
      rw [hquote, hcs]
      simp [literal]
    · split at h
      · rename_i hbrace
        rw [hbrace]
        exact exists_of_scanObject h
      · cases h

/-- **A text is read as a size exactly when it is a spelling of the size's name in one of the two
forms, with white space around it.** -/
theorem decodeText_eq_ok_iff {text : String} {z : Size} :
    decodeText text = .ok z ↔ ∃ before spelled form after,
      text.toList = before ++ form ++ after ∧ Spaces before ∧ Spaces after ∧
        Form (literal spelled) form ∧ Spells z.name.toList spelled := by
  constructor
  · intro h
    rw [decodeText] at h
    split at h
    · cases h
    · rename_i y rest hsize
      split at h
      · rename_i hrest
        obtain rfl := Except.ok.inj h
        obtain ⟨spelled, form, hform, hshape, hspells⟩ := exists_of_scanSize hsize
        obtain ⟨before, hbefore, htext⟩ := Json.exists_skipSpace text.toList
        have hafter : Spaces rest := Json.skipSpace_eq_nil_iff.mp (List.isEmpty_iff.mp hrest)
        refine ⟨before, spelled, form, rest, ?_, hbefore, hafter, hshape, hspells⟩
        rw [htext, hform, List.append_assoc]
      · cases h
  · rintro ⟨before, spelled, form, after, htext, hbefore, hafter, hform, hspells⟩
    rw [decodeText_of_form htext hbefore hafter hform hspells, decodeName_eq_ok_iff.mpr rfl]
    rfl

/-! ## 5. What may follow -/

/-- **Behind a size that was read only white space may follow.** -/
theorem decodeText_append_of_ok {text : String} {z : Size} (h : decodeText text = .ok z)
    (more : String) :
    decodeText (text ++ more) =
      if (skipSpace more.toList).isEmpty then .ok z else .error (.text (.defect .trailing)) := by
  obtain ⟨before, spelled, form, after, htext, hbefore, hafter, hform, hspells⟩ :=
    decodeText_eq_ok_iff.mp h
  have hlonger : (text ++ more).toList = before ++ form ++ (after ++ more.toList) := by
    rw [String.toList_append, htext, List.append_assoc]
  rw [decodeText_eq_of_form hlonger hbefore hform hspells, decodeName_eq_ok_iff.mpr rfl,
    Json.skipSpace_append hafter]

/-! ## 6. What is refused -/

/-- Whether a text goes as far as a name, spelled in any way: as a string, or as the key of an
object. -/
def EndsAtName (s : String) (cs : List Char) : Prop :=
  ∃ before front : List Char, cs = before ++ front ∧ Spaces before ∧
    ((∃ spelled, front = literal spelled ∧ Spells s.toList spelled) ∨ KeyFront s front)

/-- Whether a text goes as far as the value of an entry whose key names the size. -/
def EndsAtValue (z : Size) (cs : List Char) : Prop :=
  ∃ before front : List Char, cs = before ++ front ∧ Spaces before ∧ ValueFront z.name front

theorem decodeText_of_scanSize_error {text : String} {before cs : List Char} {e : TextError}
    (htext : text.toList = before ++ cs) (hbefore : Spaces before) (hcs : skipSpace cs = cs)
    (h : scanSize cs = .error e) : decodeText text = .error e := by
  rw [decodeText, htext, Json.skipSpace_append hbefore, hcs, h]

/-- **A name that no size has is reported**, whatever follows it. -/
theorem decodeText_of_unknownName {s text : String} {front more : List Char}
    (hs : ∀ z : Size, s ≠ z.name) (h : EndsAtName s front) (htext : text.toList = front ++ more) :
    decodeText text = .error (.data (.unknownVariant s)) := by
  have hname : decodeName s = .error (.unknownVariant s) := decodeName_eq_error hs
  obtain ⟨before, front, rfl, hbefore, ⟨spelled, rfl, hspells⟩ | hkey⟩ := h
  · rw [decodeText_eq_of_form htext hbefore .alone hspells, hname]
  · rw [List.append_assoc] at htext
    exact decodeText_of_scanSize_error htext hbefore (skipSpace_of_keyFront hkey _)
      (scanSize_of_unknownKey hkey hname _)

/-- **A value of the wrong kind is reported**, whatever follows what tells its kind. -/
theorem decodeText_of_wrongKind {z : Size} {kind : Json.Kind} {text : String}
    {front value more : List Char} (hkind : kind ≠ .null) (h : EndsAtValue z front)
    (hvalue : Json.Shows kind value) (htext : text.toList = front ++ value ++ more) :
    decodeText text = .error (.data (.wrongKind kind .unit)) := by
  obtain ⟨before, front, rfl, hbefore, hfront⟩ := h
  have hunit : scanUnit (value ++ more) = .error (.data (.wrongKind kind .unit)) := by
    rw [scanUnit, Json.scanKind_of_shows hvalue]
    cases kind with
    | null => exact absurd rfl hkind
    | bool | number | string | sequence | map => rfl
  rw [List.append_assoc, List.append_assoc] at htext
  refine decodeText_of_scanSize_error htext hbefore (skipSpace_of_valueFront hfront _) ?_
  rw [scanSize_of_valueFront hfront, Json.skipSpace_of_shows hvalue, bind_of_error hunit]

/-- A text that begins as neither form does holds no value of a size. -/
theorem decodeText_of_head {text : String} {c : Char} {cs : List Char}
    (htext : text.toList = c :: cs) (hspace : isSpace c = false) (quote : c ≠ '"')
    (brace : c ≠ '{') : decodeText text = .error (.text (.defect .noValue)) := by
  refine decodeText_of_scanSize_error htext Json.spaces_nil (Json.skipSpace_cons hspace cs) ?_
  rw [scanSize, if_neg quote, if_neg brace]

end Size

end LoadingIndicator
