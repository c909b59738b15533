/-
# The style of an indicator

A style is a size and, perhaps, classes that its user adds.  Two class texts come of it: one
for the turning indicator, which depends on the size alone, and one for the container around
it, which depends on the added classes alone.

The added classes are kept as given.  The container has them trimmed behind its own classes,
and not at all when nothing is left; blanks within them stay.

Main statements:

* `containerClass_eq_base_iff`: nothing or blanks are added exactly to a container that has its own
  classes alone;
* `containerClass_eq_iff`, `indicatorClass_eq_iff`: what two styles with the same class texts
  have in common;
* `bare_containerClass`, `words_containerClass`: neither end of a container's classes is blank, and
  its words are its own and then those added.
-/
import LoadingIndicator.Size
import LoadingIndicator.Text.Blank
import LoadingIndicator.Text.Quoted

namespace LoadingIndicator

/-! ## 1. The type -/

/-- How an indicator looks: its size and the classes its user adds. -/
structure Style where
  size : Size := Size.standard
  className : Option String := none
  deriving DecidableEq

namespace Style

/-- The style of an indicator for which none is given. -/
def standard : Style := {}

instance : Inhabited Style := ⟨standard⟩

def withSize (z : Size) (s : Style) : Style := { s with size := z }

def withClass (c : String) (s : Style) : Style := { s with className := some c }

/-! ## 2. Class texts -/

/-- The class that makes an indicator turn. -/
def spinClass : String := "animate-spin"

/-- The classes that draw an indicator. -/
def indicatorBase : String := "rounded-full border-b-2 border-current"

/-- The classes of every container. -/
def containerBase : String := "flex justify-center items-center"

/-- The classes of the indicator. -/
def indicatorClass (s : Style) : String :=
  spinClass ++ " " ++ indicatorBase ++ " " ++ s.size.dimensions

/-- A container's own classes and those added to them. -/
def joinClass (added : String) : String :=
  if added.isEmpty then containerBase else containerBase ++ " " ++ added

/-- The classes of the container. -/
def containerClass (s : Style) : String := joinClass (Text.trim (s.className.getD ""))

/-! ## 3. The style as a term -/

/-- The added classes as a term. -/
def classTerm : Option String → String
  | none => "None"
  | some c => "Some(" ++ Text.quote c ++ ")"

/-- The style as a term. -/
def term (s : Style) : String :=
  "SpinnerConfig \x7b size: " ++ s.size.title ++ ", class_name: " ++ classTerm s.className ++
    " \x7d"

/-- A size's name as a constant tells the size, whatever follows it. -/
theorem title_append_inj {y z : Size} {a b : String} (h : y.title ++ a = z.title ++ b) :
    y = z ∧ a = b := by
  have hhead : ∀ (x : Size) (c : String),
      (x.title ++ c).toList.head? = x.title.toList.head? := by
    intro x c
    cases x <;> exact (congrArg List.head? String.toList_append).trans rfl
  have hsize : y = z := by
    have hfirst := congrArg (fun s => s.toList.head?) h
    simp only [hhead] at hfirst
    revert hfirst
    cases y <;> cases z <;> decide
  rw [hsize] at h
  exact ⟨hsize, (String.append_right_inj _).mp h⟩

/-- The term of the added classes tells them, also that there are none. -/
theorem classTerm_inj {c d : Option String} : classTerm c = classTerm d ↔ c = d := by
  constructor
  · intro h
    have hsome : ∀ t : String, classTerm none ≠ classTerm (some t) := by
      intro t heq
      have hfirst := congrArg (fun s => s.toList.head?) heq
      simp only [classTerm, String.toList_append, List.append_assoc, List.head?_append] at hfirst
      exact absurd (Option.some.inj hfirst) (by decide)
    cases c with
    | none =>
      cases d with
      | none => rfl
      | some t => exact absurd h (hsome t)
    | some s =>
      cases d with
      | none => exact absurd h.symm (hsome s)
      | some t =>
        have hquoted := (String.append_right_inj _).mp ((String.append_left_inj _).mp h)
        rw [Text.quote_inj.mp hquoted]
  · rintro rfl
    rfl

/-- **The term of a style tells the style.** -/
theorem term_inj {s t : Style} : s.term = t.term ↔ s = t := by
  constructor
  · intro h
    unfold term at h
    simp only [String.append_assoc] at h
    obtain ⟨hsize, hrest⟩ := title_append_inj ((String.append_right_inj _).mp h)
    have hclass := (String.append_left_inj _).mp ((String.append_right_inj _).mp hrest)
    calc s = ⟨s.size, s.className⟩ := rfl
      _ = ⟨t.size, t.className⟩ := by rw [hsize, classTerm_inj.mp hclass]
      _ = t := rfl
  · rintro rfl
    rfl

/-! ## 4. Equal class texts -/

/-- **Joining keeps apart what is joined**, also from a container's own classes alone. -/
theorem joinClass_inj {a b : String} : joinClass a = joinClass b ↔ a = b := by
  constructor
  · intro h
    have hblank : " ".length = 1 := by decide
    unfold joinClass at h
    split at h
    · rename_i ha
      split at h
      · rename_i hb
        rw [String.isEmpty_iff.mp ha, String.isEmpty_iff.mp hb]
      · have hlength := congrArg String.length h
        rw [String.length_append, String.length_append] at hlength
        omega
    · split at h
      · have hlength := congrArg String.length h
        rw [String.length_append, String.length_append] at hlength
        omega
      · exact (String.append_right_inj _).mp h
  · rintro rfl
    rfl

/-- Two containers have the same classes exactly when the added classes, trimmed, are the same;
none count as the empty text. -/
theorem containerClass_eq_iff {s t : Style} :
    s.containerClass = t.containerClass ↔
      Text.trim (s.className.getD "") = Text.trim (t.className.getD "") := joinClass_inj

/-- **A container has its own classes alone exactly if nothing but blanks is added.** -/
theorem containerClass_eq_base_iff {s : Style} :
    s.containerClass = containerBase ↔ Text.Blank (s.className.getD "") := by
  have hbase : containerBase = joinClass "" := rfl
  rw [containerClass, hbase, joinClass_inj, Text.trim_eq_empty_iff]

/-- Two indicators have the same classes exactly when they have the same size. -/
theorem indicatorClass_eq_iff {s t : Style} :
    s.indicatorClass = t.indicatorClass ↔ s.size = t.size := by
  constructor
  · intro h
    unfold indicatorClass at h
    exact Size.dimensions_injective ((String.append_right_inj _).mp h)
  · intro h
    rw [indicatorClass, h, indicatorClass]

/-! ## 5. The words of the container -/

theorem containerBase_spec :
    Text.words containerBase = ["flex", "justify-center", "items-center"] ∧
      Text.Bare containerBase.toList := by decide +kernel

theorem joinClass_of_ne_empty {added : String} (h : added ≠ "") :
    joinClass added = containerBase ++ " " ++ added := by
  unfold joinClass
  rw [if_neg (fun hempty => h (String.isEmpty_iff.mp hempty))]

/-- **The classes of a container neither begin nor end with a blank.** -/
theorem bare_containerClass (s : Style) : Text.Bare s.containerClass.toList := by
  have hbase : Text.Bare containerBase.toList := containerBase_spec.2
  rw [containerClass]
  by_cases hadded : Text.trim (s.className.getD "") = ""
  · rw [hadded]
    exact hbase
  · have hchars : (containerBase ++ " " ++ Text.trim (s.className.getD "")).toList =
        containerBase.toList ++ [' '] ++ (Text.trim (s.className.getD "")).toList := by
      rw [String.toList_append, String.toList_append]
      rfl
    have hbare : Text.Bare (Text.trim (s.className.getD "")).toList := by
      rw [Text.toList_trim]
      exact Text.bare_trimChars _
    rw [joinClass_of_ne_empty hadded, hchars]
    exact hbase.join hbare (by decide) (fun h => hadded (String.toList_eq_nil_iff.mp h)) [' ']

theorem containerClass_ne_empty (s : Style) : s.containerClass ≠ "" := by
  intro hempty
  have hlength := congrArg String.length hempty
  rw [containerClass] at hlength
  by_cases hadded : Text.trim (s.className.getD "") = ""
  · rw [hadded] at hlength
    exact absurd hlength (by decide)
  · have hspace : " ".length = 1 := by decide
    rw [joinClass_of_ne_empty hadded, String.length_append, String.length_append,
      String.length_empty] at hlength
    omega

theorem containerClass_withClass_of_bare {c : String} (hbare : Text.Bare c.toList) (hc : c ≠ "")
    (s : Style) : (s.withClass c).containerClass = containerBase ++ " " ++ c := by
  have hadded : (s.withClass c).className.getD "" = c := rfl
  rw [containerClass, hadded, Text.trim_of_bare hbare, joinClass_of_ne_empty hc]

theorem bare_indicatorClass (s : Style) :
    Text.Bare s.indicatorClass.toList ∧ s.indicatorClass ≠ "" := by
  have hsizes : ∀ z : Size, Text.Bare (Style.mk z none).indicatorClass.toList ∧
      (Style.mk z none).indicatorClass ≠ "" := by
    intro z
    cases z <;> decide +kernel
  exact hsizes s.size

/-- **The words of a container are its own and then those of the added classes.** -/
theorem words_containerClass (s : Style) :
    Text.words s.containerClass =
      Text.words containerBase ++ Text.words (s.className.getD "") := by
  rw [containerClass, ← Text.words_trim (s.className.getD "")]
  by_cases hadded : Text.trim (s.className.getD "") = ""
  · rw [hadded]
    exact (List.append_nil _).symm
  · rw [joinClass_of_ne_empty hadded, Text.words_append_space]

end Style

end LoadingIndicator
