/-
# Reading lists of sizes

A list of sizes is read item by item.  An item may be missing, which is written as null, and else it
is read as a stored size is alone.  Null within an item is something else: an object with the name
of a size and null behind it is that size.

The first item that is neither decides, whatever stands behind it, so that a list is read in one of
two ways.  If all items are good, it has as many items as there are values, each at its place.  If
one is not, the report is the one that the first such item has when it is read alone.

Main statement:

* `first_bad_item_decides`: both ways, for every array.
-/
import LoadingIndicator.Size.Decode

namespace LoadingIndicator.Size

open Json (Value)

/-! ## 1. One item -/

/-- Whether a value is good as an item of a list: it is null, or it is read as a size. -/
def GoodItem (value : Value) : Prop := value = .null ∨ ∃ z, decodeValue value = .ok z

theorem decodeValue_null_ne_ok (z : Size) : decodeValue .null ≠ .ok z := by
  intro h
  cases h

theorem goodItem_of_ok {value : Value} {z : Size} (h : decodeValue value = .ok z) :
    GoodItem value := Or.inr ⟨z, h⟩

/-- The size of an item is the one that it is read as alone. -/
theorem toOption_decodeValue_eq_some_iff {value : Value} {z : Size} :
    (decodeValue value).toOption = some z ↔ decodeValue value = .ok z := by
  cases decodeValue value with
  | error e => exact iff_of_false (fun h => nomatch h) (fun h => nomatch h)
  | ok y =>
    constructor
    · intro h
      exact congrArg Except.ok (Option.some.inj h)
    · intro h
      exact congrArg some (Except.ok.inj h)

theorem toOption_decodeValue_eq_none_iff {value : Value} (h : GoodItem value) :
    (decodeValue value).toOption = none ↔ value = .null := by
  constructor
  · intro hnone
    rcases h with hnull | ⟨z, hz⟩
    · exact hnull
    · rw [toOption_decodeValue_eq_some_iff.mpr hz] at hnone
      cases hnone
  · rintro rfl
    rfl

/-- **A good item is the size that it is read as alone**, and missing where it is none. -/
theorem decodeItem_of_good {value : Value} (h : GoodItem value) :
    decodeItem value = .ok (decodeValue value).toOption := by
  rcases h with rfl | ⟨z, hz⟩
  · rfl
  · have hnull : value ≠ .null := by
      rintro rfl
      exact decodeValue_null_ne_ok z hz
    rw [decodeItem, hz]
    · rfl
    · exact hnull

/-- **A bad item has the report that it has alone.** -/
theorem decodeItem_of_bad {value : Value} (h : ¬ GoodItem value) :
    ∃ e, decodeValue value = .error e ∧ decodeItem value = .error e := by
  have hnull : value ≠ .null := fun hnull => h (Or.inl hnull)
  cases hread : decodeValue value with
  | ok z => exact absurd (goodItem_of_ok hread) h
  | error e =>
    refine ⟨e, rfl, ?_⟩
    rw [decodeItem, hread]
    · rfl
    · exact hnull

/-! ## 2. All items -/

/-- **Good items are read and the others behind them are looked at.** -/
theorem decodeItems_append {before : List Value} (h : ∀ value ∈ before, GoodItem value)
    (after : List Value) :
    decodeItems (before ++ after) =
      (decodeItems after).map (before.map (fun value => (decodeValue value).toOption) ++ ·) := by
  induction before with
  | nil =>
    cases hafter : decodeItems after with
    | error e => rw [List.nil_append, hafter]; rfl
    | ok items => rw [List.nil_append, hafter]; rfl
  | cons value before ih =>
    have hrest := ih fun later hlater => h later (List.mem_cons_of_mem value hlater)
    rw [List.cons_append, decodeItems, decodeItem_of_good (h value List.mem_cons_self), hrest]
    cases decodeItems after with
    | error e => rfl
    | ok items => rfl

theorem decodeItems_of_good {values : List Value} (h : ∀ value ∈ values, GoodItem value) :
    decodeItems values = .ok (values.map fun value => (decodeValue value).toOption) := by
  have hall := decodeItems_append h []
  rw [List.append_nil] at hall
  rw [hall, decodeItems]
  exact congrArg Except.ok (List.append_nil _)

/-- **The first bad item decides**, whatever stands behind it. -/
theorem decodeItems_of_bad {before : List Value} (h : ∀ value ∈ before, GoodItem value)
    {bad : Value} (hbad : ¬ GoodItem bad) :
    ∃ e, decodeValue bad = .error e ∧
      ∀ after, decodeItems (before ++ bad :: after) = .error e := by
  obtain ⟨e, halone, hitem⟩ := decodeItem_of_bad hbad
  refine ⟨e, halone, ?_⟩
  intro after
  rw [decodeItems_append h, decodeItems, hitem]
  rfl

/-- **The items of a list are good, or there is a first one that is not.** -/
theorem good_or_first_bad (values : List Value) :
    (∀ value ∈ values, GoodItem value) ∨
      ∃ before bad after, values = before ++ bad :: after ∧
        (∀ value ∈ before, GoodItem value) ∧ ¬ GoodItem bad := by
  induction values with
  | nil => exact Or.inl fun value hvalue => absurd hvalue List.not_mem_nil
  | cons first values ih =>
    -- a first bad item further on is the first one only behind a good item
    by_cases hfirst : GoodItem first
    · rcases ih with hall | ⟨before, bad, after, rfl, hbefore, hbad⟩
      · exact Or.inl (List.forall_mem_cons.mpr ⟨hfirst, hall⟩)
      · exact Or.inr ⟨first :: before, bad, after, rfl,
          List.forall_mem_cons.mpr ⟨hfirst, hbefore⟩, hbad⟩
    · exact Or.inr ⟨[], first, values, rfl, fun value hvalue => absurd hvalue List.not_mem_nil,
        hfirst⟩

/-- **A list is read exactly if all its items are good**, and what is read is told by each item
alone. -/
theorem decodeItems_eq_ok_iff {values : List Value} {items : List (Option Size)} :
    decodeItems values = .ok items ↔ (∀ value ∈ values, GoodItem value) ∧
      items = values.map fun value => (decodeValue value).toOption := by
  constructor
  · intro h
    rcases good_or_first_bad values with hall | ⟨before, bad, after, rfl, hbefore, hbad⟩
    · rw [decodeItems_of_good hall] at h
      exact ⟨hall, (Except.ok.inj h).symm⟩
    · obtain ⟨e, -, herror⟩ := decodeItems_of_bad hbefore hbad
      rw [herror after] at h
      cases h
  · rintro ⟨hall, rfl⟩
    exact decodeItems_of_good hall

/-- **A list is refused exactly if it has a first bad item**, with the report of that item. -/
theorem decodeItems_eq_error_iff {values : List Value} {e : DecodeError} :
    decodeItems values = .error e ↔ ∃ before bad after, values = before ++ bad :: after ∧
      (∀ value ∈ before, GoodItem value) ∧ ¬ GoodItem bad ∧ decodeValue bad = .error e := by
  constructor
  · intro h
    rcases good_or_first_bad values with hall | ⟨before, bad, after, rfl, hbefore, hbad⟩
    · rw [decodeItems_of_good hall] at h
      cases h
    · obtain ⟨d, halone, herror⟩ := decodeItems_of_bad hbefore hbad
      rw [herror after] at h
      obtain rfl := Except.error.inj h
      exact ⟨before, bad, after, rfl, hbefore, hbad, halone⟩
  · rintro ⟨before, bad, after, rfl, hbefore, hbad, halone⟩
    obtain ⟨d, hd, herror⟩ := decodeItems_of_bad hbefore hbad
    obtain rfl := Except.error.inj (hd.symm.trans halone)
    exact herror after

/-! ## 3. Lists -/

/-- **A list is read item by item, and the first bad item decides.**  An array is read exactly if
each of its items is null or is read as a size alone.  Then the list has as many items as the array,
missing ones exactly where null stands, and the others as the sizes that they are alone; so an
object with the name of a size and null behind it is that size and not missing.  Otherwise the
report is the one that the first bad item has alone, and no change behind that item makes any
difference. -/
theorem first_bad_item_decides (values : List Value) :
    ((∃ items, decodeList (.array values) = .ok items) ↔ ∀ value ∈ values, GoodItem value) ∧
      (∀ items, decodeList (.array values) = .ok items → items.length = values.length ∧
        ∀ (i : Nat) (value : Value), values[i]? = some value →
          (items[i]? = some none ↔ value = .null) ∧
          (∀ z, items[i]? = some (some z) ↔ decodeValue value = .ok z) ∧
          ∀ z : Size, value = .object [(z.name, .null)] → items[i]? = some (some z)) ∧
      (∀ e, decodeList (.array values) = .error e ↔
        ∃ before bad after, values = before ++ bad :: after ∧
          (∀ value ∈ before, GoodItem value) ∧ ¬ GoodItem bad ∧ decodeValue bad = .error e) ∧
      ∀ before bad after other, values = before ++ bad :: after →
        (∀ value ∈ before, GoodItem value) → ¬ GoodItem bad →
          decodeList (.array (before ++ bad :: other)) = decodeList (.array values) := by
  refine ⟨?_, ?_, fun e => decodeItems_eq_error_iff, ?_⟩
  · constructor
    · rintro ⟨items, hread⟩
      exact (decodeItems_eq_ok_iff.mp hread).1
    · intro hall
      exact ⟨_, decodeItems_of_good hall⟩
  · intro items hread
    obtain ⟨hall, rfl⟩ := decodeItems_eq_ok_iff.mp hread
    refine ⟨List.length_map _, ?_⟩
    intro i value hvalue
    have hgood : GoodItem value := hall value (List.mem_of_getElem? hvalue)
    rw [List.getElem?_map, hvalue, Option.map_some, Option.some.injEq]
    refine ⟨toOption_decodeValue_eq_none_iff hgood, ?_, ?_⟩
    · intro z
      rw [Option.some.injEq, toOption_decodeValue_eq_some_iff]
    · rintro z rfl
      rw [Option.some.injEq, toOption_decodeValue_eq_some_iff, decodeValue_entry_null,
        decodeName_eq_ok_iff]
  · rintro before bad after other rfl hbefore hbad
    obtain ⟨e, -, herror⟩ := decodeItems_of_bad hbefore hbad
    exact (herror other).trans (herror after).symm

/-- Null alone and null behind a name, and a list whose second and third item are bad. -/
theorem first_bad_item_decides_order :
    (∃ items, decodeList (.array [.null, .object [("sm", .null)], .string "lg"]) = .ok items ∧
        items.length = 3 ∧ items[0]? = some none ∧ items[1]? = some (some .small)) ∧
      decodeList (.array [.null, .string "LG", .bool true]) = .error (.unknownVariant "LG") ∧
      decodeList (.array ([.null] ++ .string "LG" :: [])) =
        decodeList (.array [.null, .string "LG", .bool true]) := by
  obtain ⟨hread, hitems, -⟩ :=
    first_bad_item_decides [.null, .object [("sm", .null)], .string "lg"]
  obtain ⟨-, -, herror, hsame⟩ := first_bad_item_decides [.null, .string "LG", .bool true]
  have hnull : ∀ value ∈ [Value.null], GoodItem value := by
    intro value hvalue
    exact Or.inl (List.mem_singleton.mp hvalue)
  have hbad : ¬ GoodItem (.string "LG") := by
    rintro (hkind | ⟨z, hz⟩)
    · cases hkind
    · have hname : "LG" ≠ z.name := by cases z <;> decide
      exact hname (decodeName_eq_ok_iff.mp hz)
  have hgood : ∀ value ∈ [Value.null, .object [("sm", .null)], .string "lg"], GoodItem value := by
    have hsmall : decodeName "sm" = .ok .small := decodeName_eq_ok_iff.mpr rfl
    have hlarge : decodeValue (.string "lg") = .ok .large := decodeValue_encode .large
    intro value hvalue
    simp only [List.mem_cons, List.not_mem_nil, or_false] at hvalue
    rcases hvalue with rfl | rfl | rfl
    · exact Or.inl rfl
    · exact Or.inr ⟨.small, (decodeValue_entry_null "sm").trans hsmall⟩
    · exact Or.inr ⟨.large, hlarge⟩
  refine ⟨?_, ?_, ?_⟩
  · obtain ⟨items, hok⟩ := hread.mpr hgood
    obtain ⟨hlength, hplaces⟩ := hitems items hok
    exact ⟨items, hok, hlength, (hplaces 0 .null rfl).1.mpr rfl,
      (hplaces 1 _ rfl).2.2 .small rfl⟩
  · exact (herror _).mpr ⟨[.null], .string "LG", [.bool true], rfl, hnull, hbad, rfl⟩
  · exact hsame [.null] (.string "LG") [.bool true] [] rfl hnull hbad

end LoadingIndicator.Size
