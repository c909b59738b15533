/-
# Reading markup

A plain reader of tags: an attribute is a space, a name and either nothing, which means the
empty value, or an equals sign and a value in double quotes, which runs to the next quote.  In
values and texts the four entities are decoded.  Names are taken as they stand.

The fuel of the readers bounds the number of attributes or tokens.  Each takes at least one
character, so the length of the text, which `read?` supplies, is enough.

Main statements:

* `decodeEntities_flatMap_escapeValue`: a written value is read back;
* `read?_html`: the markup of a tree of elements whose names are made of letters, digits and
  hyphens is read as that tree.
-/
import LoadingIndicator.Markup.Token

namespace LoadingIndicator.Markup

/-! ## 1. Entities -/

/-- A text with its entities replaced by the characters they stand for.  An ampersand that
begins none of the four stands for itself. -/
def decodeEntities : List Char → List Char
  | '&' :: 'a' :: 'm' :: 'p' :: ';' :: cs => '&' :: decodeEntities cs
  | '&' :: 'l' :: 't' :: ';' :: cs => '<' :: decodeEntities cs
  | '&' :: 'g' :: 't' :: ';' :: cs => '>' :: decodeEntities cs
  | '&' :: 'q' :: 'u' :: 'o' :: 't' :: ';' :: cs => '"' :: decodeEntities cs
  | c :: cs => c :: decodeEntities cs
  | [] => []

/-- A written character is read back, whatever follows it. -/
theorem decodeEntities_escapeValue (c : Char) (cs : List Char) :
    decodeEntities (escapeValue c ++ cs) = c :: decodeEntities cs := by
  unfold escapeValue
  split
  · rfl
  · rfl
  · rfl
  · rfl
  · rename_i hamp _ _ _
    rw [List.singleton_append, decodeEntities]
    · exact fun _ hc => absurd hc hamp
    · exact fun _ hc => absurd hc hamp
    · exact fun _ hc => absurd hc hamp
    · exact fun _ hc => absurd hc hamp

/-- **A written value is read back.** -/
theorem decodeEntities_flatMap_escapeValue (cs : List Char) :
    decodeEntities (cs.flatMap escapeValue) = cs := by
  induction cs with
  | nil => rfl
  | cons c cs ih => rw [List.flatMap_cons, decodeEntities_escapeValue, ih]

/-! ## 2. Tags -/

/-- A character of which the name of a tag or an attribute is made. -/
def isNameChar (c : Char) : Bool := c.isAlphanum || c == '-'

/-- Takes attributes up to the end of the tag. -/
def readAttributes : Nat → List Char → Option (List Attribute × List Char)
  | 0, _ => none
  | _ + 1, [] => none
  | fuel + 1, c :: cs =>
    if c = '>' then some ([], cs)
    else if c = ' ' then
      let name := String.ofList (cs.takeWhile isNameChar)
      match cs.dropWhile isNameChar with
      | '=' :: '"' :: rest =>
        let value := String.ofList (decodeEntities (rest.takeWhile (· != '"')))
        (readAttributes fuel ((rest.dropWhile (· != '"')).drop 1)).map fun (attributes, rest) =>
          (⟨name, value⟩ :: attributes, rest)
      | rest => (readAttributes fuel rest).map fun (attributes, rest) =>
          (⟨name, ""⟩ :: attributes, rest)
    else none

/-- Takes a tag behind its opening bracket. -/
def readTag (fuel : Nat) : List Char → Option (Token × List Char)
  | '/' :: cs =>
    match cs.dropWhile isNameChar with
    | '>' :: rest => some (.closing (String.ofList (cs.takeWhile isNameChar)), rest)
    | _ => none
  | cs =>
    (readAttributes fuel (cs.dropWhile isNameChar)).map fun (attributes, rest) =>
      (.opening (String.ofList (cs.takeWhile isNameChar)) attributes, rest)

/-! ## 3. Texts and trees -/

/-- The tokens of a text. -/
def readTokens : Nat → List Char → Option (List Token)
  | _, [] => some []
  | 0, _ :: _ => none
  | fuel + 1, c :: cs =>
    if c = '<' then
      match readTag fuel cs with
      | none => none
      | some (token, rest) => (readTokens fuel rest).map (token :: ·)
    else
      let content := String.ofList (decodeEntities ((c :: cs).takeWhile (· != '<')))
      (readTokens fuel (cs.dropWhile (· != '<'))).map (.text content :: ·)

/-- The trees that a text is the markup of. -/
def read? (html : String) : Option (List Node) :=
  match readTokens (html.length + 1) html.toList with
  | none => none
  | some tokens => build [] [] tokens

/-! ## 4. Tags are read back -/

/-- A name that can be told from what follows it. -/
def isName (s : String) : Bool := s.toList.all isNameChar

theorem takeWhile_name {s : String} (h : isName s = true) {c : Char} (hc : isNameChar c = false)
    (cs : List Char) : (s.toList ++ c :: cs).takeWhile isNameChar = s.toList ∧
      (s.toList ++ c :: cs).dropWhile isNameChar = c :: cs := by
  have hall : ∀ d ∈ s.toList, isNameChar d = true := List.all_eq_true.mp h
  rw [List.takeWhile_append_of_pos hall, List.dropWhile_append_of_pos hall]
  simp [hc]

theorem takeWhile_printValue (value : String) (cs : List Char) :
    (printValue value ++ '"' :: cs).takeWhile (· != '"') = printValue value ∧
      (printValue value ++ '"' :: cs).dropWhile (· != '"') = '"' :: cs := by
  have hall : ∀ d ∈ printValue value, (d != '"') = true := by
    intro d hd
    have hinert := isInert_of_mem_printValue hd
    simp only [isInert, Bool.and_eq_true] at hinert
    exact hinert.1.1
  rw [List.takeWhile_append_of_pos hall, List.dropWhile_append_of_pos hall]
  simp

/-- Behind an attribute's name stands an equals sign, a space or the end of the tag. -/
theorem printAttributes_head (attributes : List Attribute) (cs : List Char) :
    ∃ c rest, attributes.flatMap printAttribute ++ '>' :: cs = c :: rest ∧
      isNameChar c = false ∧ c ≠ '=' := by
  cases attributes with
  | nil => exact ⟨'>', cs, rfl, by decide, by decide⟩
  | cons a attributes =>
    rw [List.flatMap_cons, List.append_assoc]
    unfold printAttribute
    split
    · exact ⟨' ', _, rfl, by decide, by decide⟩
    · exact ⟨' ', _, rfl, by decide, by decide⟩

/-- A written attribute is read back, and then what stands behind it, if that is no part of a name
and no equals sign. -/
theorem readAttributes_printAttribute {a : Attribute} (h : isName a.name = true) {c : Char}
    (hc : isNameChar c = false) (hne : c ≠ '=') (fuel : Nat) (cs : List Char) :
    readAttributes (fuel + 1) (printAttribute a ++ c :: cs) =
      (readAttributes fuel (c :: cs)).map fun read => (a :: read.1, read.2) := by
  obtain ⟨name, value⟩ := a
  by_cases hempty : value.isEmpty = true
  · obtain ⟨htake, hdrop⟩ := takeWhile_name h hc cs
    obtain rfl : value = "" := String.isEmpty_iff.mp hempty
    rw [printAttribute, if_pos hempty, List.cons_append, readAttributes, if_neg (by decide),
      if_pos rfl]
    simp only [htake, hdrop]
    split
    · rename_i heq
      exact absurd (List.cons.inj heq).1 hne
    · rw [String.ofList_toList]
  · obtain ⟨htake, hdrop⟩ :=
      takeWhile_name h (c := '=') (by decide) ('"' :: (printValue value ++ '"' :: c :: cs))
    obtain ⟨hvalue, hquote⟩ := takeWhile_printValue value (c :: cs)
    rw [printAttribute, if_neg hempty]
    simp only [List.cons_append, List.append_assoc, List.nil_append]
    rw [readAttributes, if_neg (by decide), if_pos rfl]
    simp only [htake, hdrop, hvalue, hquote, List.drop_one, List.tail_cons]
    rw [printValue, decodeEntities_flatMap_escapeValue, String.ofList_toList, String.ofList_toList]

/-- **Written attributes are read back**, up to the end of the tag. -/
theorem readAttributes_print {attributes : List Attribute}
    (h : ∀ a ∈ attributes, isName a.name = true) (fuel : Nat) (hfuel : attributes.length < fuel)
    (cs : List Char) :
    readAttributes fuel (attributes.flatMap printAttribute ++ '>' :: cs) =
      some (attributes, cs) := by
  obtain ⟨fuel, rfl⟩ : ∃ m, fuel = m + 1 := ⟨fuel - 1, by omega⟩
  induction attributes generalizing fuel with
  | nil => rfl
  | cons a attributes ih =>
    rw [List.length_cons] at hfuel
    obtain ⟨fuel, rfl⟩ : ∃ m, fuel = m + 1 := ⟨fuel - 1, by omega⟩
    have hrest := ih (fun b hb => h b (List.mem_cons_of_mem a hb)) fuel (by omega)
    obtain ⟨c, tail, htail, hc, hne⟩ := printAttributes_head attributes cs
    rw [htail] at hrest
    rw [List.flatMap_cons, List.append_assoc, htail,
      readAttributes_printAttribute (h a List.mem_cons_self) hc hne, hrest, Option.map_some]

/-! ## 5. Trees are read back -/

/-- A tag whose names can be told from what follows them. -/
def Token.isTag : Token → Bool
  | .opening tag attributes => isName tag && attributes.all fun a => isName a.name
  | .closing tag => isName tag
  | .text _ => false

theorem name_ne_slash {s : String} (h : isName s = true) {c : Char} (hslash : c ≠ '/')
    (cs rest : List Char) : s.toList ++ c :: cs ≠ '/' :: rest := by
  rcases hs : s.toList with _ | ⟨d, ds⟩
  · simp [hslash]
  · rw [List.cons_append]
    intro heq
    simp only [List.cons.injEq] at heq
    have hd : isNameChar d = true := List.all_eq_true.mp h d (by rw [hs]; simp)
    rw [heq.1] at hd
    exact absurd hd (by decide)

theorem length_le_printAttributes (attributes : List Attribute) :
    attributes.length ≤ (attributes.flatMap printAttribute).length := by
  induction attributes with
  | nil => simp
  | cons a attributes ih =>
    have hone : 1 ≤ (printAttribute a).length := by
      unfold printAttribute
      split <;> simp
    rw [List.flatMap_cons, List.length_append, List.length_cons]
    omega

theorem readTag_print {token : Token} (h : token.isTag = true) (fuel : Nat) (cs : List Char)
    (hfuel : (token.print ++ cs).length ≤ fuel + 1) :
    ∃ spelled, token.print = '<' :: spelled ∧ readTag fuel (spelled ++ cs) = some (token, cs) := by
  cases token with
  | opening tag attributes =>
    simp only [Token.isTag, Bool.and_eq_true] at h
    have hattributes : ∀ a ∈ attributes, isName a.name = true := List.all_eq_true.mp h.2
    obtain ⟨c, tail, htail, hc, -⟩ := printAttributes_head attributes cs
    obtain ⟨htake, hdrop⟩ := takeWhile_name h.1 hc tail
    have hlen := length_le_printAttributes attributes
    have hread := readAttributes_print hattributes fuel
      (by simp only [Token.print, List.length_append, List.length_cons] at hfuel; omega) cs
    have hslash : c ≠ '/' := by
      rintro rfl
      cases attributes with
      | nil => simp at htail
      | cons a attributes =>
        rw [List.flatMap_cons, List.append_assoc, printAttribute] at htail
        split at htail <;> simp at htail
    refine ⟨tag.toList ++ attributes.flatMap printAttribute ++ ['>'], rfl, ?_⟩
    simp only [List.append_assoc, List.cons_append, List.nil_append]
    rw [htail, readTag.eq_2 _ _ (name_ne_slash h.1 hslash tail), htake, hdrop, ← htail, hread,
      String.ofList_toList]
    rfl
  | closing tag =>
    obtain ⟨htake, hdrop⟩ := takeWhile_name (s := tag) h (c := '>') (by decide) cs
    refine ⟨'/' :: tag.toList ++ ['>'], rfl, ?_⟩
    simp only [List.cons_append, List.append_assoc, List.nil_append]
    rw [readTag, hdrop, htake, String.ofList_toList]
    rfl
  | text content => cases h

theorem one_le_length_print {token : Token} (h : token.isTag = true) : 1 ≤ token.print.length := by
  cases token with
  | opening tag attributes => simp [Token.print]
  | closing tag => simp [Token.print]
  | text content => cases h

/-- Written tags are read back. -/
theorem readTokens_print {tokens : List Token} (h : ∀ t ∈ tokens, t.isTag = true) (fuel : Nat)
    (hfuel : (tokens.flatMap Token.print).length ≤ fuel) :
    readTokens fuel (tokens.flatMap Token.print) = some tokens := by
  induction tokens generalizing fuel with
  | nil => cases fuel <;> rfl
  | cons token tokens ih =>
    rw [List.flatMap_cons] at hfuel ⊢
    -- the tag takes one unit of fuel and at least one character
    have hpos : 1 ≤ token.print.length := one_le_length_print (h token List.mem_cons_self)
    have hlength := hfuel
    rw [List.length_append] at hlength
    obtain ⟨fuel, rfl⟩ : ∃ m, fuel = m + 1 := ⟨fuel - 1, by omega⟩
    obtain ⟨spelled, hprint, hread⟩ := readTag_print (h token List.mem_cons_self) fuel _ hfuel
    have hrest := ih (fun t ht => h t (List.mem_cons_of_mem token ht)) fuel (by omega)
    rw [hprint, List.cons_append, readTokens, if_pos rfl, hread]
    simp only
    rw [hrest]
    rfl

/-- A tree of elements whose names can be told from what follows them. -/
def Node.isPlain (node : Node) : Bool := node.tokens.all Token.isTag

/-- **The markup of a plain tree is read as that tree.** -/
theorem read?_html {node : Node} (h : node.isPlain = true) : read? node.html = some [node] := by
  have htokens := readTokens_print (List.all_eq_true.mp h) _
    (Nat.le_succ (node.tokens.flatMap Token.print).length)
  rw [read?, Node.html, String.toList_ofList, String.length_ofList, htokens]
  exact build_tokens node

end LoadingIndicator.Markup
