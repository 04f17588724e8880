import AdmissionControl.Text.Blank
import Mathlib.Data.List.TakeWhile

/-!
# Cutting and trimming texts

A text is cut in two where the first symbol stands that does not go on, for instance at the first
separator. Trimming cuts at both ends: a word is tight if no padding stands at either end of it, and
every text is a tight word between two stretches of padding. It is so in one way only, and the word
is what trimming leaves of the text (`Text.trimmed_eq_iff`). What counts as padding is left open
here. It is white space in an address of the store, and spaces and tabs in a header, whose value is
a list of bytes before it is a text.
-/

namespace AdmissionControl.Text

variable {Symbol Character : Type}

/-! ## Cutting a text in two -/

/-- A text is cut where the first symbol stands that does not go on. -/
theorem takeWhile_dropWhile_of_stop {goesOn : Symbol → Bool} {before after : List Symbol}
    (inside : ∀ symbol ∈ before, goesOn symbol = true)
    (stop : ∀ symbol ∈ after.head?, goesOn symbol = false) :
    (before ++ after).takeWhile goesOn = before ∧ (before ++ after).dropWhile goesOn = after := by
  rw [List.takeWhile_append_of_pos inside, List.dropWhile_append_of_pos inside]
  cases after with
  | nil => exact ⟨List.append_nil _, rfl⟩
  | cons symbol rest =>
      have last := stop symbol rfl
      rw [List.takeWhile_cons_of_neg (by simp [last]), List.dropWhile_cons_of_neg (by simp [last])]
      exact ⟨List.append_nil _, rfl⟩

theorem stop_of_dropWhile {goesOn : Symbol → Bool} {symbols : List Symbol} :
    ∀ symbol ∈ (symbols.dropWhile goesOn).head?, goesOn symbol = false := by
  intro symbol first
  have stop := List.head?_dropWhile_not goesOn symbols
  rwa [Option.mem_def.mp first] at stop

section

variable [DecidableEq Symbol] {separator : Symbol} {before : List Symbol}

theorem ne_of_absent (absent : separator ∉ before) :
    ∀ symbol ∈ before, decide (symbol ≠ separator) = true := by
  intro symbol member
  apply decide_eq_true
  rintro rfl
  exact absent member

/-- A text is cut at its first separator. -/
theorem takeWhile_ne (absent : separator ∉ before) (rest : List Symbol) :
    (before ++ separator :: rest).takeWhile (· ≠ separator) = before :=
  (takeWhile_dropWhile_of_stop (ne_of_absent absent) (by simp)).1

end

/-! ## Words and padding -/

/-- No padding stands at either end. -/
structure Tight (padding : Symbol → Bool) (word : List Symbol) : Prop where
  first : ∀ symbol ∈ word.head?, padding symbol = false
  last : ∀ symbol ∈ word.getLast?, padding symbol = false

/-- All symbols are padding. -/
def Pads (padding : Symbol → Bool) (symbols : List Symbol) : Prop :=
  ∀ symbol ∈ symbols, padding symbol = true

/-- A text is a tight word between two stretches of padding. -/
structure Trims (padding : Symbol → Bool) (text word : List Symbol) : Prop where
  spelled : ∃ before after,
    text = before ++ word ++ after ∧ Pads padding before ∧ Pads padding after
  tight : Tight padding word

section

variable {padding : Symbol → Bool} {text word before after : List Symbol}

theorem Pads.append (first : Pads padding before) (second : Pads padding after) :
    Pads padding (before ++ after) := by
  intro symbol member
  rcases List.mem_append.mp member with member | member
  · exact first symbol member
  · exact second symbol member

theorem Pads.reverse (pads : Pads padding after) : Pads padding after.reverse := by
  intro symbol member
  exact pads symbol (List.mem_reverse.mp member)

theorem Tight.reverse (tight : Tight padding word) : Tight padding word.reverse where
  first := by simpa using tight.last
  last := by simpa using tight.first

/-- The word is what is left when the padding is dropped from one end and then from the other. -/
theorem Trims.stripped (trims : Trims padding text word) :
    ((text.dropWhile padding).reverse.dropWhile padding).reverse = word := by
  rcases trims.spelled with ⟨before, after, rfl, padBefore, padAfter⟩
  rw [List.append_assoc]
  cases word with
  | nil =>
      have gone : (before ++ ([] ++ after)).dropWhile padding = [] :=
        List.dropWhile_eq_nil_iff.mpr (padBefore.append padAfter)
      rw [gone]
      rfl
  | cons symbol rest =>
      have first : ∀ other ∈ (symbol :: rest ++ after).head?, padding other = false := by
        simpa using trims.tight.first
      have front := takeWhile_dropWhile_of_stop padBefore first
      have back := takeWhile_dropWhile_of_stop padAfter.reverse trims.tight.reverse.first
      rw [front.2, List.reverse_append, back.2, List.reverse_reverse]

theorem exists_trims (padding : Symbol → Bool) (text : List Symbol) :
    ∃ word, Trims padding text word := by
  have pads (symbols : List Symbol) : Pads padding (symbols.takeWhile padding) := by
    intro symbol member
    exact List.mem_takeWhile_imp member
  -- Padding is taken from the front of the text, and then from the back of what is left of it.
  let left := text.dropWhile padding
  let word := (left.reverse.dropWhile padding).reverse
  let tail := (left.reverse.takeWhile padding).reverse
  have cut : left = word ++ tail := by
    simp only [word, tail]
    rw [← List.reverse_append, List.takeWhile_append_dropWhile, List.reverse_reverse]
  refine ⟨word, ⟨text.takeWhile padding, tail, ?_, pads text, (pads _).reverse⟩, ?_, ?_⟩
  · rw [List.append_assoc, ← cut, List.takeWhile_append_dropWhile]
  · intro symbol first
    apply stop_of_dropWhile symbol
    change symbol ∈ left.head?
    rw [cut, List.head?_append, Option.mem_def.mp first]
    rfl
  · intro symbol last
    apply stop_of_dropWhile symbol
    simpa [word] using last

/-- A text has one word between its padding. -/
theorem trims_iff_stripped :
    Trims padding text word ↔
      ((text.dropWhile padding).reverse.dropWhile padding).reverse = word := by
  constructor
  · exact Trims.stripped
  · intro stripped
    rcases exists_trims padding text with ⟨other, trims⟩
    rwa [← stripped, trims.stripped]

/-- Padding around a text does not change what is left of it. -/
theorem Trims.pad (trims : Trims padding text word) (padBefore : Pads padding before)
    (padAfter : Pads padding after) : Trims padding (before ++ text ++ after) word := by
  rcases trims.spelled with ⟨first, last, rfl, padFirst, padLast⟩
  refine ⟨⟨before ++ first, last ++ after, ?_, padBefore.append padFirst,
    padLast.append padAfter⟩, trims.tight⟩
  simp

theorem trims_self (tight : Tight padding word) : Trims padding word word :=
  ⟨⟨[], [], by simp, nofun, nofun⟩, tight⟩

/-- Symbols may be replaced one by one, as long as the padding stays what it is. -/
theorem Trims.map {shown : Symbol → Character} {blank : Character → Bool}
    (same : ∀ symbol ∈ text, blank (shown symbol) = padding symbol)
    (trims : Trims padding text word) : Trims blank (text.map shown) (word.map shown) := by
  rcases trims.spelled with ⟨before, after, rfl, padBefore, padAfter⟩
  refine ⟨⟨before.map shown, after.map shown, by simp, ?_, ?_⟩, ?_, ?_⟩
  · intro character member
    rcases List.mem_map.mp member with ⟨symbol, inside, rfl⟩
    rw [same symbol (by simp [inside])]
    exact padBefore symbol inside
  · intro character member
    rcases List.mem_map.mp member with ⟨symbol, inside, rfl⟩
    rw [same symbol (by simp [inside])]
    exact padAfter symbol inside
  · intro character first
    simp only [List.head?_map, Option.mem_def, Option.map_eq_some_iff] at first
    rcases first with ⟨symbol, first, rfl⟩
    rw [same symbol (by simp [List.mem_of_mem_head? first])]
    exact trims.tight.first symbol first
  · intro character last
    simp only [List.getLast?_map, Option.mem_def, Option.map_eq_some_iff] at last
    rcases last with ⟨symbol, last, rfl⟩
    rw [same symbol (by simp [List.mem_of_mem_getLast? last])]
    exact trims.tight.last symbol last

end

/-- Trimming leaves the word that stands between the white space. -/
theorem trimmed_eq_iff {characters word : List Char} :
    trimmed characters = word ↔ Trims isBlank characters word :=
  trims_iff_stripped.symm

theorem tight_trimmed (characters : List Char) : Tight isBlank (trimmed characters) :=
  (trimmed_eq_iff.mp rfl).tight

theorem trimmed_of_tight {word : List Char} (tight : Tight isBlank word) : trimmed word = word :=
  trimmed_eq_iff.mpr (trims_self tight)

end AdmissionControl.Text
