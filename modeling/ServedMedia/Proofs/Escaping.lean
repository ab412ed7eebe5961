import ServedMedia.FileUrl.Basic

/-!
# Escapes in a path

A percent sign stands for an octet if two digits follow it, and for itself otherwise:

    octets ('%' :: text) = octet :: octets (text.drop 2)     if escape? text = some octet
    octets ('%' :: text) = '%' :: octets text                if escape? text = none

Encoding a path leaves percent signs and digits alone and puts no digit in front of what it
encodes.  So it makes no escape and breaks none, and what a path stands for stays the same:

    decode (encode encodedInPath text) = decode text                  (decode_encodedInPath)
-/

namespace ServedMedia

/-- What holds of the 128 ASCII characters is decided over them. -/
theorem forall_ascii {P : Char → Prop} (h : ∀ n < 0x80, P (Char.ofNat n)) (c : Char)
    (hc : c.toNat < 0x80) : P c := by
  have hn := h c.toNat hc
  rwa [Char.ofNat_toNat] at hn

namespace Percent

/-! ## Algorithm -/

/-- The octet of the two digits that a text begins with. -/
def escape? : List Char → Option Nat
  | a :: b :: _ =>
    match hexValue? a, hexValue? b with
    | some high, some low => some (high * 16 + low)
    | _, _ => none
  | _ => none

/-! ## Escapes -/

theorem lt_of_hexValue? {c : Char} {n : Nat} (h : hexValue? c = some n) : c.toNat < 0x80 := by
  unfold hexValue? at h
  split at h
  · next hdigit =>
    have hle : c.toNat ≤ 57 := by
      simp [Char.isDigit] at hdigit
      exact hdigit.2
    omega
  · split at h
    · next hlower =>
      have hle : c.toNat ≤ 'f'.toNat := hlower.2
      exact Nat.lt_of_le_of_lt hle (by decide)
    · split at h
      · next hupper =>
        have hle : c.toNat ≤ 'F'.toNat := hupper.2
        exact Nat.lt_of_le_of_lt hle (by decide)
      · cases h

theorem escape?_eq_some_iff {text : List Char} {octet : Nat} :
    escape? text = some octet ↔ ∃ a b rest high low, text = a :: b :: rest ∧
      hexValue? a = some high ∧ hexValue? b = some low ∧ octet = high * 16 + low := by
  constructor
  · intro h
    unfold escape? at h
    split at h
    · next a b rest =>
      split at h
      · next high low ha hb =>
        exact ⟨a, b, rest, high, low, rfl, ha, hb, (Option.some.inj h).symm⟩
      · cases h
    · cases h
  · rintro ⟨a, b, rest, high, low, rfl, ha, hb, rfl⟩
    simp [escape?, ha, hb]

theorem octets_percent_of_some {text : List Char} {octet : Nat} (h : escape? text = some octet) :
    octets ('%' :: text) = octet :: octets (text.drop 2) := by
  obtain ⟨a, b, rest, high, low, rfl, ha, hb, rfl⟩ := escape?_eq_some_iff.1 h
  rw [octets, ha, hb]
  rfl

theorem octets_percent_of_none {text : List Char} (h : escape? text = none) :
    octets ('%' :: text) = '%'.toNat :: octets text := by
  refine octets_percent fun a b rest htext => ?_
  cases ha : hexValue? a with
  | none => exact .inl rfl
  | some high =>
    cases hb : hexValue? b with
    | none => exact .inr rfl
    | some low =>
      rw [escape?_eq_some_iff.2 ⟨a, b, rest, high, low, htext, ha, hb, rfl⟩] at h
      cases h

/-- A text is read character by character, but an escape at once. -/
theorem inductionOnEscapes {motive : List Char → Prop} (text : List Char) (nil : motive [])
    (plain : ∀ c rest, c ≠ '%' → motive rest → motive (c :: rest))
    (percent : ∀ rest, escape? rest = none → motive rest → motive ('%' :: rest))
    (escape : ∀ rest octet, escape? rest = some octet → motive (rest.drop 2) →
      motive ('%' :: rest)) : motive text := by
  induction hlength : text.length using Nat.strongRecOn generalizing text with
  | ind n ih =>
    subst hlength
    cases text with
    | nil => exact nil
    | cons c rest =>
      have hless : rest.length < (c :: rest).length := Nat.lt_succ_self _
      have hdrop : (rest.drop 2).length < (c :: rest).length := by
        rw [List.length_drop, List.length_cons]
        omega
      by_cases hc : c = '%'
      · subst hc
        cases hescape : escape? rest with
        | none => exact percent rest hescape (ih _ hless rest rfl)
        | some octet => exact escape rest octet hescape (ih _ hdrop _ rfl)
      · exact plain c rest hc (ih _ hless rest rfl)

/-! ## Encoding -/

section
variable {special : Char → Bool}

theorem encode_cons_of_not {c : Char} (h : special c = false) (text : List Char) :
    encode special (c :: text) = c :: encode special text := by
  rw [encode, List.flatMap_cons, ← encode, h]
  rfl

theorem encode_cons_of_special {c : Char} (h : special c = true) (text : List Char) :
    encode special (c :: text) =
      (Utf8.encodeChar c).flatMap encodeOctet ++ encode special text := by
  rw [encode, List.flatMap_cons, ← encode, if_pos h]

theorem encode_eq_nil_iff {text : List Char} :
    encode special text = [] ↔ text = [] := by
  constructor
  · intro h
    cases text with
    | nil => rfl
    | cons c rest =>
      obtain ⟨b, bs, hbs⟩ := List.exists_cons_of_ne_nil (Utf8.encodeChar_ne_nil c)
      cases hc : special c with
      | false =>
        rw [encode_cons_of_not hc] at h
        cases h
      | true =>
        rw [encode_cons_of_special hc, hbs] at h
        cases h
  · rintro rfl
    rfl

/-- Encoding puts no digit at the start of a text. -/
theorem exists_of_encode_eq_cons {text more : List Char} {digit : Char} {value : Nat}
    (hdigit : hexValue? digit = some value) (heq : encode special text = digit :: more) :
    ∃ rest, text = digit :: rest ∧ encode special rest = more := by
  cases text with
  | nil => cases heq
  | cons c rest =>
    cases hc : special c with
    | false =>
      rw [encode_cons_of_not hc] at heq
      obtain ⟨rfl, hmore⟩ := List.cons.inj heq
      exact ⟨rest, rfl, hmore⟩
    | true =>
      obtain ⟨b, bs, hbs⟩ := List.exists_cons_of_ne_nil (Utf8.encodeChar_ne_nil c)
      rw [encode_cons_of_special hc, hbs] at heq
      obtain ⟨rfl, -⟩ := List.cons.inj heq
      cases hdigit

theorem escape?_encode_eq_none {text : List Char} (hescape : escape? text = none) :
    escape? (encode special text) = none := by
  refine Option.eq_none_iff_forall_ne_some.2 fun octet hsome => ?_
  obtain ⟨a, b, more, high, low, heq, ha, hb, rfl⟩ := escape?_eq_some_iff.1 hsome
  obtain ⟨front, rfl, hfront⟩ := exists_of_encode_eq_cons ha heq
  obtain ⟨back, rfl, -⟩ := exists_of_encode_eq_cons hb hfront
  rw [escape?_eq_some_iff.2 ⟨a, b, back, high, low, rfl, ha, hb, rfl⟩] at hescape
  cases hescape

variable (h : ∀ c, special c = true → c ≠ '%' ∧ hexValue? c = none)
include h

theorem encode_digit {digit : Char} {value : Nat} (hdigit : hexValue? digit = some value)
    (text : List Char) : encode special (digit :: text) = digit :: encode special text := by
  refine encode_cons_of_not (Bool.eq_false_iff.2 fun hspecial => ?_) text
  rw [(h digit hspecial).2] at hdigit
  cases hdigit

theorem encode_percent (text : List Char) :
    encode special ('%' :: text) = '%' :: encode special text :=
  encode_cons_of_not (Bool.eq_false_iff.2 fun hspecial => (h '%' hspecial).1 rfl) text

theorem encode_of_escape {text : List Char} {octet : Nat} (hescape : escape? text = some octet) :
    escape? (encode special text) = some octet ∧
      (encode special text).drop 2 = encode special (text.drop 2) := by
  obtain ⟨a, b, rest, high, low, rfl, ha, hb, rfl⟩ := escape?_eq_some_iff.1 hescape
  rw [encode_digit h ha, encode_digit h hb]
  exact ⟨escape?_eq_some_iff.2 ⟨a, b, _, high, low, rfl, ha, hb, rfl⟩, rfl⟩

/-- If neither "%" nor a digit is special, then the octets are those of the text itself. -/
theorem octets_encode_of_kept (text : List Char) :
    octets (encode special text) = octets text := by
  induction text using inductionOnEscapes with
  | nil => rfl
  | plain c rest hc ih =>
    rw [octets_cons_of_ne hc]
    cases hspecial : special c with
    | false => rw [encode_cons_of_not hspecial, octets_cons_of_ne hc, ih]
    | true =>
      rw [encode_cons_of_special hspecial,
        octets_encodeOctets (fun b hb => lt_of_mem_encodeChar hb), ih]
  | percent rest hescape ih =>
    rw [encode_percent h, octets_percent_of_none (escape?_encode_eq_none hescape),
      octets_percent_of_none hescape, ih]
  | escape rest octet hescape ih =>
    obtain ⟨hencoded, hdrop⟩ := encode_of_escape h hescape
    rw [encode_percent h, octets_percent_of_some hencoded, octets_percent_of_some hescape, hdrop,
      ih]

end

end Percent

namespace FileUrl

theorem kept_of_encodedInPath (c : Char) (h : encodedInPath c = true) :
    c ≠ '%' ∧ hexValue? c = none := by
  by_cases hc : c.toNat < 0x80
  · exact forall_ascii (P := fun c => encodedInPath c = true → c ≠ '%' ∧ hexValue? c = none)
      (by decide +kernel) c hc h
  · refine ⟨fun heq => hc (by rw [heq]; decide), ?_⟩
    exact Option.eq_none_iff_forall_ne_some.2 fun n hsome => hc (Percent.lt_of_hexValue? hsome)

/-! ## Top theorems -/

theorem decode_encodedInPath (text : List Char) :
    Percent.decode (Percent.encode encodedInPath text) = Percent.decode text := by
  rw [Percent.decode, Percent.octets_encode_of_kept kept_of_encodedInPath, Percent.decode]

end FileUrl

end ServedMedia
