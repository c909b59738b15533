/-
# Storing lists of sizes

A list of sizes is stored as the JSON array of their names.  Nothing is lost: the text is read back
as that array, and the array as the list, with no size missing.  The text is read by the reader of
whole JSON values, whose fuel has to be enough for the items, so what is proved about it is how it
reads an array of any strings.

A size can be seen in several ways, by its name, its dimensions or its stored item, and each of them
tells all sizes apart.  So however a list is seen, as many different things are in it.  They are
counted by walking through the list, and what is counted is the set of its members, in which neither
order nor repetition shows.

Main statement:

* `stored_list_restored`: what is read back of a stored list, how many sizes are in it, and when two
  lists are stored as the same text.
-/
import Mathlib.Data.Set.Card
import LoadingIndicator.Json.Reader
import LoadingIndicator.Proofs.NameReading
import LoadingIndicator.Proofs.ReadLists

namespace LoadingIndicator

/-! ## 1. Arrays of strings -/

namespace Json

/-- **A printed string is read**, whatever follows it. -/
theorem readValue_printString (fuel : Nat) (s : String) (rest : List Char) :
    readValue (fuel + 1) (printString s ++ rest) = .ok (.string s, rest) := by
  have hshows : Shows (.string s) (printString s) := .string (spells_printChars s.toList)
  rw [readValue, skipSpace_of_shows hshows, scanKind_of_shows hshows]
  rfl

/-- **Printed items that are strings are read**, if the fuel is enough for them.  Each item takes
one call, and the last one calls the reader of values. -/
theorem readItems_strings (s : String) (ss : List String) {fuel : Nat} (h : ss.length + 2 ≤ fuel)
    (rest : List Char) :
    readItems fuel (printString s ++ printMoreItems (ss.map Value.string) ++ rest) =
      .ok ((s :: ss).map Value.string, rest) := by
  induction ss generalizing s fuel with
  | nil =>
    obtain ⟨fuel, rfl⟩ : ∃ n, fuel = n + 2 := ⟨fuel - 2, by omega⟩
    have hclose : skipSpace (']' :: rest) = ']' :: rest := skipSpace_cons (by decide) rest
    rw [List.map_nil, printMoreItems, List.append_assoc, readItems, readValue_printString]
    simp only [List.singleton_append, hclose]
    rfl
  | cons t ts ih =>
    rw [List.length_cons] at h
    obtain ⟨fuel, rfl⟩ : ∃ n, fuel = n + 2 := ⟨fuel - 2, by omega⟩
    have hcomma : ∀ cs, skipSpace (',' :: cs) = ',' :: cs := skipSpace_cons (by decide)
    -- behind the comma the other items stand as they would behind the opening bracket
    have hfuel : ts.length + 2 ≤ fuel + 1 := by omega
    have hnext := ih t hfuel
    rw [List.map_cons, printMoreItems, List.append_assoc, readItems, readValue_printString]
    simp only [List.cons_append, printValue, hcomma, hnext]
    rfl

/-- An array of strings is read from its printed form, if the fuel is enough for its items. -/
theorem readValue_strings (ss : List String) {fuel : Nat} (h : ss.length + 2 ≤ fuel) :
    readValue fuel (printValue (.array (ss.map Value.string))) =
      .ok (.array (ss.map Value.string), []) := by
  obtain ⟨fuel, rfl⟩ : ∃ n, fuel = n + 1 := ⟨fuel - 1, by omega⟩
  cases ss with
  | nil => rfl
  | cons s ss =>
    rw [List.length_cons] at h
    have hfuel : ss.length + 2 ≤ fuel := by omega
    have hitems := readItems_strings s ss hfuel []
    have hopen : ∀ cs, scanKind (skipSpace ('[' :: cs)) = .ok (.sequence, cs) := by
      intro cs
      rw [skipSpace_cons (by decide)]
      rfl
    -- the reader looks for a closing bracket first, and what it finds is the quote of an item
    obtain ⟨tail, htail⟩ : ∃ tail,
        printString s ++ printMoreItems (ss.map Value.string) = '"' :: tail := ⟨_, rfl⟩
    have hquote : skipSpace ('"' :: tail) = '"' :: tail := skipSpace_cons (by decide) tail
    rw [List.append_nil, htail] at hitems
    rw [printValue, List.map_cons, printItems, printValue, htail, readValue, hopen]
    simp only [hquote]
    exact congrArg (Except.map fun taken => (Value.array taken.1, taken.2)) hitems

theorem length_lt_printMoreItems (items : List Value) :
    items.length < (printMoreItems items).length := by
  induction items with
  | nil => decide
  | cons item items ih =>
    rw [printMoreItems, List.length_append, List.length_cons, List.length_cons]
    omega

theorem length_le_printItems (items : List Value) : items.length ≤ (printItems items).length := by
  cases items with
  | nil => exact Nat.zero_le _
  | cons item items =>
    have hmore := length_lt_printMoreItems items
    rw [printItems, List.length_append, List.length_cons]
    omega

/-- **An array of strings is read back from its compact text.** -/
theorem read_print_strings (ss : List String) :
    read (Value.array (ss.map Value.string)).print = .ok (.array (ss.map Value.string)) := by
  have hchars : (Value.array (ss.map Value.string)).print.toList =
      printValue (.array (ss.map Value.string)) := String.toList_ofList
  have hlength := congrArg List.length hchars
  have hitems := length_le_printItems (ss.map Value.string)
  rw [String.length_toList, printValue, List.length_cons] at hlength
  rw [List.length_map] at hitems
  rw [read, hchars, readValue_strings ss (by omega)]
  rfl

end Json

namespace Size

open Json (Value)

/-! ## 2. Stored lists -/

theorem encodeList_eq (zs : List Size) :
    encodeList zs = .array ((zs.map name).map Value.string) := by
  rw [encodeList, List.map_map]
  exact congrArg Value.array (List.map_congr_left fun z _ => encode_eq z)

/-- **The text of a stored list is read back as the array that was stored.** -/
theorem read_print_encodeList (zs : List Size) :
    Json.read (encodeList zs).print = .ok (encodeList zs) := by
  rw [encodeList_eq]
  exact Json.read_print_strings (zs.map name)

/-- **A stored list is read back**, with no size missing. -/
theorem decodeList_encodeList (zs : List Size) : decodeList (encodeList zs) = .ok (zs.map some) := by
  refine decodeItems_eq_ok_iff.mpr ⟨?_, ?_⟩
  · intro value hvalue
    obtain ⟨z, -, rfl⟩ := List.mem_map.mp hvalue
    exact goodItem_of_ok (decodeValue_encode z)
  · rw [List.map_map]
    refine List.map_congr_left ?_
    intro z _
    exact (toOption_decodeValue_eq_some_iff.mpr (decodeValue_encode z)).symm

/-- **Lists that are stored as the same text are equal.** -/
theorem print_encodeList_inj {ys zs : List Size} :
    (encodeList ys).print = (encodeList zs).print ↔ ys = zs := by
  constructor
  · intro h
    -- the one text is read back as both arrays, and these as both lists
    have hread := read_print_encodeList ys
    rw [h, read_print_encodeList] at hread
    have hdecoded := decodeList_encodeList ys
    rw [← Except.ok.inj hread, decodeList_encodeList] at hdecoded
    exact (List.map_injective_iff.mpr (Option.some_injective Size) (Except.ok.inj hdecoded)).symm
  · rintro rfl
    rfl

theorem readers_name (z : Size) :
    parse z.name = .ok z ∧ decodeText ("\"" ++ z.name ++ "\"") = .ok z ∧
      ofAttribute (some z.name) = (z, []) := by
  have hname : decodeName z.name = .ok z := decodeName_eq_ok_iff.mpr rfl
  have hplain : Json.printChars z.name.toList = z.name.toList := by cases z <;> decide
  have hspells := Json.spells_printChars z.name.toList
  rw [hplain] at hspells
  refine ⟨parse_name z, ?_, (lenient_of_decodeName hname).2⟩
  rw [decodeText_quoted hspells, hname]
  rfl

/-! ## 3. Counting -/

theorem nodup_eraseDups : ∀ zs : List Size, zs.eraseDups.Nodup
  | [] => by
    rw [List.eraseDups_nil]
    exact List.nodup_nil
  | z :: zs => by
    rw [List.eraseDups_cons, List.nodup_cons, List.mem_eraseDups]
    exact ⟨by simp, nodup_eraseDups (zs.filter fun y => !y == z)⟩
termination_by zs => zs.length
decreasing_by
  exact Nat.lt_succ_of_le (List.length_filter_le _ _)

/-- **What is counted is the set of the members.** -/
theorem distinct_eq_ncard (zs : List Size) : distinct zs = {z | z ∈ zs}.ncard := by
  have hmembers : {z | z ∈ zs} = (zs.eraseDups.toFinset : Set Size) := by
    rw [List.coe_toFinset]
    exact Set.ext fun z => List.mem_eraseDups.symm
  calc distinct zs = zs.eraseDups.toFinset.card :=
        (List.toFinset_card_of_nodup (nodup_eraseDups zs)).symm
    _ = (zs.eraseDups.toFinset : Set Size).ncard := (Set.ncard_coe_finset _).symm
    _ = {z | z ∈ zs}.ncard := by rw [hmembers]

/-- **Lists with the same members hold as many sizes**, in whatever order and however often. -/
theorem distinct_congr {ys zs : List Size} (h : ∀ z, z ∈ ys ↔ z ∈ zs) :
    distinct ys = distinct zs := by
  rw [distinct_eq_ncard, distinct_eq_ncard]
  exact congrArg Set.ncard (Set.ext h)

/-- **A view that tells the sizes apart holds as many things** as there are sizes. -/
theorem ncard_map {α : Type} {view : Size → α} (h : ∀ {y z : Size}, view y = view z → y = z)
    (zs : List Size) : {a | a ∈ zs.map view}.ncard = distinct zs := by
  have himage : {a | a ∈ zs.map view} = view '' {z | z ∈ zs} := Set.ext fun a => List.mem_map
  have hinjective : Function.Injective view := fun y z hview => h hview
  rw [himage, Set.ncard_image_of_injective _ hinjective, distinct_eq_ncard]

theorem encode_injective {y z : Size} (h : y.encode = z.encode) : y = z := by
  rw [encode_eq, encode_eq] at h
  exact name_injective (Value.string.inj h)

/-! ## 4. What is kept -/

/-- **Storing a list of sizes loses nothing, and every view of it tells the same sizes apart.**  The
text of a stored list is read back as an array, and the array as the list, with no size missing.  At
each place of the array stands the name of the size that is there in the list, and every reader of
names gives that size again.  There are as many different sizes in the list as members, as different
names, as different dimensions and as different items; and there are as many in each list with the
same members, so that neither order nor repetition counts.  Two lists are stored as the same text
exactly if they are equal. -/
theorem stored_list_restored (zs : List Size) :
    (∃ items : List Value, Json.read (encodeList zs).print = .ok (.array items) ∧
        decodeList (.array items) = .ok (zs.map some) ∧ items.length = zs.length ∧
        (∀ (i : Nat) (z : Size), zs[i]? = some z → items[i]? = some (.string z.name) ∧
          parse z.name = .ok z ∧ decodeText ("\"" ++ z.name ++ "\"") = .ok z ∧
          ofAttribute (some z.name) = (z, [])) ∧
        {item | item ∈ items}.ncard = distinct zs) ∧
      {z | z ∈ zs}.ncard = distinct zs ∧
      {s | s ∈ zs.map name}.ncard = distinct zs ∧
      {s | s ∈ zs.map dimensions}.ncard = distinct zs ∧
      (∀ ys : List Size, ys.Perm zs → distinct ys = distinct zs) ∧
      (∀ ys : List Size, (∀ z, z ∈ ys ↔ z ∈ zs) → distinct ys = distinct zs) ∧
      ∀ ys : List Size, (encodeList ys).print = (encodeList zs).print ↔ ys = zs := by
  refine ⟨⟨zs.map encode, read_print_encodeList zs, decodeList_encodeList zs, List.length_map _, ?_,
    ncard_map encode_injective zs⟩, (distinct_eq_ncard zs).symm, ncard_map name_injective zs,
    ncard_map dimensions_injective zs, ?_, fun ys => distinct_congr,
    fun ys => print_encodeList_inj⟩
  · intro i z hz
    refine ⟨?_, readers_name z⟩
    rw [List.getElem?_map, hz, Option.map_some, encode_eq]
  · intro ys hperm
    exact distinct_congr fun z => hperm.mem_iff

/-- A list with a repeated size is stored and read back; it holds two sizes, in any order. -/
theorem stored_list_restored_repeated :
    (∃ items : List Value, Json.read "[\"lg\",\"sm\",\"lg\"]" = .ok (.array items) ∧
        decodeList (.array items) = .ok [some .large, some .small, some .large] ∧
        items[1]? = some (.string "sm") ∧ {item | item ∈ items}.ncard = 2) ∧
      distinct [.small, .large, .large] = 2 ∧
      distinct [.small, .large] = 2 ∧
      (encodeList [.large, .small]).print ≠ (encodeList [.large, .small, .large]).print := by
  have htext : (encodeList [.large, .small, .large]).print = "[\"lg\",\"sm\",\"lg\"]" := by
    decide +kernel
  have hcount : distinct [.large, .small, .large] = 2 := by decide
  obtain ⟨⟨items, hread, hdecoded, -, hplaces, hitems⟩, -, -, -, hperm, hmembers, hsame⟩ :=
    stored_list_restored [.large, .small, .large]
  rw [htext] at hread
  rw [hcount] at hitems
  refine ⟨⟨items, hread, hdecoded, (hplaces 1 .small rfl).1, hitems⟩, ?_, ?_, ?_⟩
  · rw [hperm [.small, .large, .large] (List.Perm.swap _ _ _), hcount]
  · rw [hmembers [.small, .large] (by intro z; cases z <;> decide), hcount]
  · rw [ne_eq, hsame]
    decide

end Size

end LoadingIndicator
