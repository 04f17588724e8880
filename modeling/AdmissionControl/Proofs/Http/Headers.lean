import AdmissionControl.Http.Client
import AdmissionControl.Proofs.Text.Trimming
import Mathlib.Data.List.Forall2

/-!
# What is read from headers

The sender of a request is read from two headers (`Source`), and from both in the same way: the
first header of the name counts, it has to be text, and what it says is a part of it without the
padding. `Source.Says` states this for the bytes of the headers, and `Source.word?` computes it.

A client writes its headers as it likes. The second half of the module is about headers that say the
same: further headers of a name that is there already, padding, and what follows the first entry of
a list (`Restyled`).
-/

namespace AdmissionControl.Http

namespace Header

/-- Whether a header has a name. Case does not matter. -/
def Named (name : String) (header : Header) : Prop :=
  foldCase header.name = foldCase name

instance (name : String) (header : Header) : Decidable (header.Named name) :=
  inferInstanceAs (Decidable (_ = _))

/-- The value of the first header of a name. -/
def First (name : String) (headers : List Header) (value : List UInt8) : Prop :=
  ∃ before header after, headers = before ++ header :: after ∧ header.Named name ∧
    header.value = value ∧ ∀ other ∈ before, ¬other.Named name

theorem first?_eq_some_iff {name : String} {headers : List Header} {value : List UInt8} :
    first? name headers = some value ↔ First name headers value := by
  simp only [first?, Option.map_eq_some_iff, List.find?_eq_some_iff_append, decide_eq_true_eq,
    Bool.not_eq_eq_eq_not, Bool.not_true, decide_eq_false_iff_not]
  constructor
  · rintro ⟨header, ⟨named, before, after, split, others⟩, same⟩
    exact ⟨before, header, after, split, named, same, others⟩
  · rintro ⟨before, header, after, split, named, same, others⟩
    exact ⟨header, ⟨named, before, after, split, others⟩, same⟩

/-- A value is text if its bytes are visible ASCII characters, spaces and tabs. -/
def IsText (value : List UInt8) : Prop :=
  ∀ byte ∈ value, (0x20 ≤ byte ∧ byte ≤ 0x7e) ∨ byte = 0x09

instance (value : List UInt8) : Decidable (IsText value) :=
  List.decidableBAll (fun byte : UInt8 => (0x20 ≤ byte ∧ byte ≤ 0x7e) ∨ byte = 0x09) value

/-- Spaces and tabs. -/
def isPadding (byte : UInt8) : Bool :=
  byte = 0x20 || byte = 0x09

def isGap (character : Char) : Bool :=
  character = ' ' || character = '\t'

/-- The byte of a comma. -/
def comma : UInt8 := 0x2c

def character (byte : UInt8) : Char :=
  Char.ofNat byte.toNat

/-- A value in characters. -/
def shown (value : List UInt8) : String :=
  String.ofList (value.map character)

section

variable {value : List UInt8}

theorem isTextByte_iff {byte : UInt8} :
    isTextByte byte = true ↔ (0x20 ≤ byte ∧ byte ≤ 0x7e) ∨ byte = 0x09 := by
  simp only [isTextByte, Bool.or_eq_true, Bool.and_eq_true, decide_eq_true_eq, beq_iff_eq,
    UInt8.le_iff_toNat_le, UInt8.lt_iff_toNat_lt, ← UInt8.toNat_inj, UInt8.reduceToNat]
  omega

theorem all_isTextByte_iff : value.all isTextByte = true ↔ IsText value := by
  simp only [List.all_eq_true, isTextByte_iff]
  rfl

theorem isBlank_character {byte : UInt8} (text : (0x20 ≤ byte ∧ byte ≤ 0x7e) ∨ byte = 0x09) :
    Text.isBlank (character byte) = isPadding byte := by
  have each : ∀ number < 127, 32 ≤ number ∨ number = 9 →
      Text.isBlank (Char.ofNat number) = (number = 32 || number = 9 : Bool) := by
    decide
  simp only [UInt8.le_iff_toNat_le, ← UInt8.toNat_inj, UInt8.reduceToNat] at text
  simp only [character, isPadding, ← UInt8.toNat_inj, UInt8.reduceToNat]
  exact each byte.toNat (by omega) (by omega)

theorem toNat_character (byte : UInt8) : (character byte).toNat = byte.toNat := by
  have bound := byte.toNat_lt
  have valid : byte.toNat.isValidChar := .inl (by omega)
  rw [character, Char.ofNat, dif_pos valid]
  rfl

theorem character_ne_comma (byte : UInt8) : character byte ≠ ',' ↔ byte ≠ comma := by
  rw [ne_eq, ← Char.toNat_inj, toNat_character, ne_eq, ← UInt8.toNat_inj]
  rfl

theorem characters?_of_isText (text : IsText value) :
    characters? value = some (value.map character) :=
  if_pos (all_isTextByte_iff.mpr text)

theorem characters?_of_not_isText (bytes : ¬IsText value) : characters? value = none :=
  if_neg (mt all_isTextByte_iff.mp bytes)

theorem isGap_character (byte : UInt8) : isGap (character byte) = isPadding byte := by
  have number := toNat_character byte
  simp only [isGap, isPadding, ← Char.toNat_inj, number, ← UInt8.toNat_inj]
  rfl

theorem isText_append {before after : List UInt8} :
    IsText (before ++ after) ↔ IsText before ∧ IsText after :=
  List.forall_mem_append

theorem isText_of_pads (pads : Text.Pads isPadding value) : IsText value := by
  intro byte member
  have padding := pads byte member
  simp only [isPadding, Bool.or_eq_true, decide_eq_true_eq] at padding
  rcases padding with rfl | rfl
  · decide
  · decide

theorem isText_comma_cons : IsText (comma :: value) ↔ IsText value := by
  simp [IsText, comma]

theorem comma_notMem_of_pads (pads : Text.Pads isPadding value) : comma ∉ value := by
  intro member
  have padding := pads comma member
  cases padding

end

/-- A value without the padding at either end. -/
def stripped (value : List UInt8) : List UInt8 :=
  ((value.dropWhile isPadding).reverse.dropWhile isPadding).reverse

/-- Padding is the only white space in text. -/
theorem trimmed_characters {value : List UInt8} (text : IsText value) :
    Text.trimmed (value.map character) = (stripped value).map character := by
  apply Text.trimmed_eq_iff.mpr
  apply Text.Trims.map
  · intro byte member
    exact isBlank_character (text byte member)
  · exact Text.trims_iff_stripped.mpr rfl

end Header

open Header

/-- A header from which the sender of a request is read. -/
inductive Source where
  | token
  | forwarded

namespace Source

def name : Source → String
  | .token => "API_KEY"
  | .forwarded => "X-Forwarded-For"

/-- The part of a value that counts: all of it, or the first entry of the list that it is. -/
def part : Source → List UInt8 → List UInt8
  | .token, value => value
  | .forwarded, value => value.takeWhile (· ≠ comma)

/-- What headers say to come from: the part of the first value of the name, if that value is text
and the part is not blank. -/
def Says (source : Source) (headers : List Header) (word : List UInt8) : Prop :=
  ∃ value, First source.name headers value ∧ IsText value ∧
    Text.Trims isPadding (source.part value) word ∧ word ≠ []

/-- What a value says. -/
def read? (source : Source) (value : List UInt8) : Option (List UInt8) :=
  if IsText value ∧ stripped (source.part value) ≠ [] then some (stripped (source.part value))
  else none

/-- What headers say. -/
def word? (source : Source) (headers : List Header) : Option (List UInt8) :=
  (first? source.name headers).bind source.read?

variable {source : Source} {headers : List Header} {value word : List UInt8}

theorem read?_of_present (text : IsText value) (present : stripped (source.part value) ≠ []) :
    source.read? value = some (stripped (source.part value)) :=
  if_pos ⟨text, present⟩

theorem read?_of_blank (blank : stripped (source.part value) = []) : source.read? value = none :=
  if_neg fun fine => fine.2 blank

theorem read?_of_not_isText (bytes : ¬IsText value) : source.read? value = none :=
  if_neg fun fine => bytes fine.1

theorem read?_eq_some_iff :
    source.read? value = some word ↔
      IsText value ∧ Text.Trims isPadding (source.part value) word ∧ word ≠ [] := by
  rw [Text.trims_iff_stripped]
  constructor
  · intro read
    rw [read?] at read
    split at read
    · next fine =>
        cases read
        exact ⟨fine.1, rfl, fine.2⟩
    · cases read
  · rintro ⟨text, rfl, present⟩
    exact read?_of_present text present

theorem word?_eq_some_iff : source.word? headers = some word ↔ source.Says headers word := by
  simp only [word?, Option.bind_eq_some_iff, first?_eq_some_iff, read?_eq_some_iff]
  rfl

theorem word?_eq_none_iff : source.word? headers = none ↔ ∀ word, ¬source.Says headers word := by
  simp only [Option.eq_none_iff_forall_ne_some, ne_eq, word?_eq_some_iff]

theorem Says.unlisted (said : Source.forwarded.Says headers word) : comma ∉ word := by
  rcases said with ⟨value, first, text, trims, present⟩
  rcases trims.spelled with ⟨before, after, spelled, padBefore, padAfter⟩
  intro member
  have inside : comma ∈ Source.forwarded.part value := by
    rw [spelled]
    simp [member]
  have passed := List.mem_takeWhile_imp inside
  simp at passed

theorem Says.tight (said : source.Says headers word) : Text.Tight isGap (word.map character) := by
  rcases said with ⟨value, first, text, trims, present⟩
  have whole := Text.trims_self trims.tight
  exact (whole.map fun byte _ => isGap_character byte).tight

theorem Says.present (said : source.Says headers word) : word ≠ [] := by
  rcases said with ⟨value, first, text, trims, present⟩
  exact present

end Source

/-! ## The two sources as they are read -/

namespace Client

open Source (word? read?_of_blank read?_of_present read?_of_not_isText)

variable {value : List UInt8}

theorem takeWhile_characters (value : List UInt8) :
    (value.map character).takeWhile (· ≠ ',') = (Source.forwarded.part value).map character := by
  rw [List.takeWhile_map, Source.part]
  congr 2
  funext byte
  simp only [Function.comp_apply, character_ne_comma]

theorem isText_entry (text : IsText value) : IsText (Source.forwarded.part value) := by
  intro byte member
  exact text byte ((List.takeWhile_prefix _).mem member)

theorem token_eq (headers : List Header) :
    token headers = ((Source.token.word? headers).map shown).getD "" := by
  rw [token, firstText?, word?, Source.name]
  cases first? "API_KEY" headers with
  | none => rfl
  | some value =>
      simp only [Option.bind_some]
      by_cases text : IsText value
      · have rest : Text.trimmed (value.map character) =
            (stripped (Source.token.part value)).map character := trimmed_characters text
        simp only [characters?_of_isText text, rest]
        by_cases blank : stripped (Source.token.part value) = []
        · rw [read?_of_blank blank, blank]
          rfl
        · rw [read?_of_present text blank]
          rfl
      · rw [characters?_of_not_isText text, read?_of_not_isText text]
        rfl

theorem first?_forwarded (headers : List Header) :
    first? "x-forwarded-for" headers = first? Source.forwarded.name headers := by
  have folded : foldCase "x-forwarded-for" = foldCase Source.forwarded.name := by decide
  rw [first?, first?, folded]

theorem forwarded?_eq (headers : List Header) :
    forwarded? headers = (Source.forwarded.word? headers).map shown := by
  rw [forwarded?, firstText?, first?_forwarded, word?]
  cases first? Source.forwarded.name headers with
  | none => rfl
  | some value =>
      simp only [Option.bind_some]
      by_cases text : IsText value
      · simp only [characters?_of_isText text, Option.bind_some, takeWhile_characters,
          trimmed_characters (isText_entry text)]
        by_cases blank : stripped (Source.forwarded.part value) = []
        · rw [read?_of_blank blank, blank]
          rfl
        · rw [read?_of_present text blank]
          cases word : stripped (Source.forwarded.part value) with
          | nil => exact absurd word blank
          | cons byte rest => rfl
      · rw [characters?_of_not_isText text, read?_of_not_isText text]
        rfl

end Client

/-! ## Headers that say the same -/

namespace Header

variable {name : String} {before between after headers : List Header} {header again : Header}
  {value : List UInt8}

/-- A header does not count where one of its name stands before it. -/
theorem first?_repeated (same : again.Named header.name) :
    first? name (before ++ header :: (between ++ again :: after)) =
      first? name (before ++ header :: (between ++ after)) := by
  simp only [first?, List.find?_append, List.find?_cons]
  by_cases named : foldCase header.name = foldCase name
  · simp [named]
  · have other : ¬foldCase again.name = foldCase name := by
      rwa [same]
    simp [other]

theorem first?_without {other : String} (apart : foldCase name ≠ foldCase other) :
    first? name (headers.filter fun header => ¬header.Named other) = first? name headers := by
  rw [first?, List.find?_filter, first?]
  congr 2
  funext header
  by_cases named : foldCase header.name = foldCase name
  · simp [Named, named, apart]
  · simp [named]

end Header

namespace Source

variable {source : Source} {before after entry text value other : List UInt8}

/-- Two values say the same if both are text or neither is, and their parts are the same word but
for the padding. -/
theorem read?_congr (text : IsText value ↔ IsText other)
    (words : ∀ word, Text.Trims isPadding (source.part value) word →
      Text.Trims isPadding (source.part other) word) :
    source.read? other = source.read? value := by
  rcases Text.exists_trims isPadding (source.part value) with ⟨word, trims⟩
  have same : stripped (source.part other) = stripped (source.part value) :=
    ((words word trims).stripped).trans trims.stripped.symm
  simp only [read?, same, text]

theorem part_entry (more : List UInt8) :
    Source.forwarded.part (entry ++ comma :: more) = Source.forwarded.part entry := by
  rw [part, part, List.takeWhile_append]
  split
  · next whole =>
      rw [List.takeWhile_cons_of_neg (by simp), List.append_nil]
      exact ((List.takeWhile_prefix _).eq_of_length whole).symm
  · rfl

theorem part_of_notMem (absent : comma ∉ value) : Source.forwarded.part value = value := by
  apply List.takeWhile_eq_self_iff.mpr
  exact Text.ne_of_absent absent

/-- Padding around a value is padding around the part of it that counts, or does not reach it. -/
theorem trims_part_pad (source : Source) (padBefore : Text.Pads isPadding before)
    (padAfter : Text.Pads isPadding after) {word : List UInt8}
    (trims : Text.Trims isPadding (source.part value) word) :
    Text.Trims isPadding (source.part (before ++ value ++ after)) word := by
  cases source with
  | token => exact trims.pad padBefore padAfter
  | forwarded =>
      by_cases listed : comma ∈ value
      · rcases List.eq_append_cons_of_mem listed with ⟨entry, more, rfl, first⟩
        have short : before ++ (entry ++ comma :: more) ++ after =
            (before ++ entry) ++ comma :: (more ++ after) := by
          simp
        have plain : comma ∉ before ++ entry := by
          simp [comma_notMem_of_pads padBefore, first]
        rw [part_entry, part_of_notMem first] at trims
        rw [short, part_entry, part_of_notMem plain]
        have padded : Text.Trims isPadding (before ++ entry ++ []) word :=
          trims.pad padBefore nofun
        rwa [List.append_nil] at padded
      · have plain : comma ∉ before ++ value ++ after := by
          simp [comma_notMem_of_pads padBefore, listed, comma_notMem_of_pads padAfter]
        rw [part_of_notMem listed] at trims
        rw [part_of_notMem plain]
        exact trims.pad padBefore padAfter

theorem read?_pad (source : Source) (padBefore : Text.Pads isPadding before)
    (padAfter : Text.Pads isPadding after) :
    source.read? (before ++ value ++ after) = source.read? value := by
  apply read?_congr
  · simp [isText_append, isText_of_pads padBefore, isText_of_pads padAfter]
  · intro word trims
    exact trims_part_pad source padBefore padAfter trims

theorem read?_further (fine : IsText text) :
    Source.forwarded.read? (value ++ comma :: text) = Source.forwarded.read? value := by
  apply read?_congr
  · simp [isText_append, isText_comma_cons, fine]
  · intro word trims
    rwa [part_entry]

end Source

/-! ### Lists of entries -/

/-- A list as it is written, with a comma between two entries. -/
def listed (entries : List (List UInt8)) : List UInt8 :=
  [comma].intercalate entries

/-- An entry with padding around it. -/
def Padded (entry wider : List UInt8) : Prop :=
  ∃ before after, Text.Pads isPadding before ∧ Text.Pads isPadding after ∧
    wider = before ++ entry ++ after

section

variable {entry wide : List UInt8} {entries wider : List (List UInt8)}

theorem isText_listed : IsText (listed entries) ↔ ∀ entry ∈ entries, IsText entry := by
  induction entries with
  | nil => simp [listed, IsText]
  | cons entry entries ih =>
      cases entries with
      | nil => simp [listed]
      | cons next rest =>
          rw [List.forall_mem_cons, ← ih, listed, List.intercalate_cons_cons, List.append_assoc,
            List.singleton_append, isText_append, isText_comma_cons]
          rfl

theorem isText_padded (padded : Padded entry wide) : IsText entry ↔ IsText wide := by
  rcases padded with ⟨before, after, padBefore, padAfter, rfl⟩
  simp [isText_append, isText_of_pads padBefore, isText_of_pads padAfter]

theorem part_listed : Source.forwarded.part (listed (entry :: entries)) =
    Source.forwarded.part entry := by
  cases entries with
  | nil => simp [listed]
  | cons next rest =>
      rw [listed, List.intercalate_cons_cons, List.append_assoc, List.singleton_append,
        Source.part_entry]

theorem isText_entries (padded : List.Forall₂ Padded entries wider) :
    (∀ entry ∈ entries, IsText entry) ↔ ∀ entry ∈ wider, IsText entry := by
  induction padded with
  | nil => simp
  | cons first rest ih =>
      rw [List.forall_mem_cons, List.forall_mem_cons, isText_padded first, ih]

/-- Padding around the entries of a list does not change what the list says. -/
theorem read?_listed (padded : List.Forall₂ Padded entries wider) :
    Source.forwarded.read? (listed wider) = Source.forwarded.read? (listed entries) := by
  apply Source.read?_congr
  · rw [isText_listed, isText_listed, isText_entries padded]
  · intro word trims
    cases padded with
    | nil => exact trims
    | cons first rest =>
        rcases first with ⟨before, after, padBefore, padAfter, rfl⟩
        rw [part_listed] at trims ⊢
        exact Source.trims_part_pad .forwarded padBefore padAfter trims

end

/-- The ways to write the value of a header so that it says the same. -/
inductive Restyled (header : Header) : List UInt8 → Prop where
  /-- Padding around a token. -/
  | padded {before after : List UInt8} : header.Named Source.token.name →
      Text.Pads isPadding before → Text.Pads isPadding after →
      Restyled header (before ++ header.value ++ after)
  /-- Padding around the entries of a forwarding list. -/
  | spaced {entries wider : List (List UInt8)} : header.Named Source.forwarded.name →
      header.value = listed entries → List.Forall₂ Padded entries wider →
      Restyled header (listed wider)
  /-- Anything behind a forwarding list. -/
  | further {text : List UInt8} : header.Named Source.forwarded.name → IsText text →
      Restyled header (header.value ++ comma :: text)

theorem Source.eq_of_named {source other : Source} {header : Header}
    (named : header.Named source.name) (also : header.Named other.name) : source = other := by
  have folded : foldCase source.name = foldCase other.name := named.symm.trans also
  cases source with
  | token =>
      cases other with
      | token => rfl
      | forwarded => exact absurd folded (by decide)
  | forwarded =>
      cases other with
      | token => exact absurd folded (by decide)
      | forwarded => rfl

theorem Restyled.read? {source : Source} {header : Header} {value : List UInt8}
    (restyled : Restyled header value) (named : header.Named source.name) :
    source.read? value = source.read? header.value := by
  cases restyled with
  | padded also padBefore padAfter => exact source.read?_pad padBefore padAfter
  | spaced also same padded =>
      rw [Source.eq_of_named named also, same]
      exact read?_listed padded
  | further also fine =>
      rw [Source.eq_of_named named also]
      exact Source.read?_further fine

namespace Source

variable {source : Source} {before between after : List Header} {header again : Header}

theorem word?_repeated (same : again.Named header.name) :
    source.word? (before ++ header :: (between ++ again :: after)) =
      source.word? (before ++ header :: (between ++ after)) := by
  rw [word?, first?_repeated same, word?]

theorem word?_restyled {value : List UInt8} (restyled : Restyled header value) :
    source.word? (before ++ { header with value } :: after) =
      source.word? (before ++ header :: after) := by
  simp only [word?, first?, List.find?_append, List.find?_cons]
  by_cases named : header.Named source.name
  · cases found : before.find? fun header => foldCase header.name = foldCase source.name with
    | some first => rfl
    | none =>
        have folded : foldCase header.name = foldCase source.name := named
        simp [folded, restyled.read? named]
  · have other : ¬foldCase header.name = foldCase source.name := named
    simp [other]

/-- The token does not depend on the forwarding lists. -/
theorem word?_unforwarded (headers : List Header) :
    Source.token.word? (headers.filter fun header => ¬header.Named Source.forwarded.name) =
      Source.token.word? headers := by
  rw [word?, first?_without (by decide), word?]

end Source

end AdmissionControl.Http
