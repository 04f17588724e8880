import AdmissionControl.Network.Address.Parser

/-!
# What the readers of addresses take

A reader of a number, of four bytes or of eight groups takes a beginning of the text that consists
of digits and of the characters that stand between them, and leaves the rest as it was
(`Reader.Took`). So an address that was read to its end contains no other character.
-/

namespace AdmissionControl.Network

/-- A character of an address: a digit of base sixteen, or one that stands between numbers. -/
def AddressCharacter (character : Char) : Prop :=
  (Reader.digit? 16 character).isSome ∨ character = ':' ∨ character = '.'

instance (character : Char) : Decidable (AddressCharacter character) :=
  inferInstanceAs (Decidable (_ ∨ _))

namespace Reader

/-- What was taken from a text to leave the rest are characters of an address. -/
def Took (text rest : List Char) : Prop :=
  ∃ taken, text = taken ++ rest ∧ ∀ character ∈ taken, AddressCharacter character

namespace Took

variable {text between rest : List Char}

theorem refl (text : List Char) : Took text text :=
  ⟨[], rfl, nofun⟩

theorem trans (first : Took text between) (second : Took between rest) : Took text rest := by
  rcases first with ⟨earlier, rfl, fine⟩
  rcases second with ⟨later, rfl, good⟩
  refine ⟨earlier ++ later, (List.append_assoc _ _ _).symm, fun character member => ?_⟩
  rcases List.mem_append.mp member with member | member
  · exact fine character member
  · exact good character member

theorem cons {character : Char} (fine : AddressCharacter character) (more : Took text rest) :
    Took (character :: text) rest := by
  rcases more with ⟨taken, rfl, good⟩
  refine ⟨character :: taken, rfl, fun other member => ?_⟩
  rcases List.mem_cons.mp member with rfl | member
  · exact fine
  · exact good other member

end Took

theorem digit?_of_digit? {base value : Nat} {character : Char} (small : base ≤ 16)
    (digit : digit? base character = some value) : (digit? 16 character).isSome := by
  unfold digit? at digit ⊢
  rcases Option.filter_eq_some_iff.mp digit with ⟨read, below⟩
  rw [Option.isSome_iff_exists]
  refine ⟨value, Option.filter_eq_some_iff.mpr ⟨read, ?_⟩⟩
  exact decide_eq_true (Nat.lt_of_lt_of_le (of_decide_eq_true below) small)

variable {text rest : List Char}

theorem took_of_digits {base : Nat} (small : base ≤ 16) (text : List Char) :
    Took text (digits base text).2 := by
  induction text with
  | nil => exact .refl []
  | cons character text ih =>
      rw [digits]
      split
      · exact .refl _
      · next value digit => exact .cons (.inl (digit?_of_digit? small digit)) ih

theorem took_of_number {base limit value : Nat} {most : Option Nat} {leadingZeros : Bool}
    (small : base ≤ 16)
    (read : number base most leadingZeros limit text = some (value, rest)) : Took text rest := by
  have took := took_of_digits small text
  simp only [number] at read
  split at read
  · cases read
    exact took
  · cases read

theorem took_of_given {expected : Char} (fine : AddressCharacter expected)
    (read : given expected text = some ((), rest)) : Took text rest := by
  cases text with
  | nil => cases read
  | cons character text =>
      rw [given] at read
      split at read
      · next same =>
          cases read
          exact .cons (same ▸ fine) (.refl _)
      · cases read

theorem took_of_byte {value : UInt8} (read : byte text = some (value, rest)) : Took text rest := by
  rcases Option.map_eq_some_iff.mp read with ⟨⟨number, left⟩, counted, same⟩
  cases same
  exact took_of_number (by decide) counted

theorem took_of_ipv4 {address : Ipv4} (read : ipv4 text = some (address, rest)) :
    Took text rest := by
  simp only [ipv4, Option.bind_eq_bind, Option.bind_eq_some_iff] at read
  rcases read with ⟨⟨first, text₁⟩, read₁, ⟨⟨⟩, text₂⟩, dot₁, ⟨second, text₃⟩, read₂, ⟨⟨⟩, text₄⟩,
    dot₂, ⟨third, text₅⟩, read₃, ⟨⟨⟩, text₆⟩, dot₃, ⟨fourth, text₇⟩, read₄, same⟩
  cases same
  have dot {before after : List Char} (read : given '.' before = some ((), after)) :
      Took before after := took_of_given (by decide) read
  exact (took_of_byte read₁).trans ((dot dot₁).trans ((took_of_byte read₂).trans ((dot dot₂).trans
    ((took_of_byte read₃).trans ((dot dot₃).trans (took_of_byte read₄))))))

theorem took_of_group {value : UInt16} (read : group text = some (value, rest)) :
    Took text rest := by
  rcases Option.map_eq_some_iff.mp read with ⟨⟨number, left⟩, counted, same⟩
  cases same
  exact took_of_number (by decide) counted

theorem took_of_separated {α : Type} {reader : Reader α} {comesFirst : Bool} {value : α}
    (takes : ∀ {text rest value}, reader text = some (value, rest) → Took text rest)
    (read : separated comesFirst reader text = some (value, rest)) : Took text rest := by
  unfold separated at read
  split at read
  · exact takes read
  · rcases Option.bind_eq_some_iff.mp read with ⟨⟨⟨⟩, between⟩, colon, onward⟩
    exact (took_of_given (by decide) colon).trans (takes onward)

theorem took_of_groups (slots : Nat) (comesFirst : Bool) (text : List Char) :
    Took text (groups slots comesFirst text).2 := by
  induction slots generalizing comesFirst text with
  | zero => exact .refl text
  | succ slots ih =>
      rw [groups]
      split
      · next address after four =>
          split at four
          · cases four
          · exact took_of_separated took_of_ipv4 four
      · split
        · next value after one =>
            exact (took_of_separated took_of_group one).trans (ih false after)
        · exact .refl text

theorem took_of_ipv6 {address : Ipv6} (read : ipv6 text = some (address, rest)) :
    Took text rest := by
  have front := took_of_groups 8 true text
  simp only [ipv6] at read
  split at read
  · cases read
    exact front
  · split at read
    · cases read
    · simp only [Option.bind_eq_bind, Option.bind_eq_some_iff] at read
      rcases read with ⟨⟨⟨⟩, text₁⟩, colon₁, ⟨⟨⟩, text₂⟩, colon₂, filled⟩
      split at filled
      · cases filled
        have colons := (took_of_given (by decide) colon₁).trans (took_of_given (by decide) colon₂)
        exact front.trans (colons.trans (took_of_groups _ true text₂))
      · cases filled

/-- An address of eight groups that was read to its end has no other characters. -/
theorem addressCharacter_of_ipv6 {address : Ipv6} (read : ipv6 text = some (address, [])) :
    ∀ character ∈ text, AddressCharacter character := by
  rcases took_of_ipv6 read with ⟨taken, rfl, fine⟩
  rw [List.append_nil]
  exact fine

end Reader

end AdmissionControl.Network
