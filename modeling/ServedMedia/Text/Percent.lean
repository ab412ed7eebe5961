import ServedMedia.Text.Hex
import ServedMedia.Text.Utf8

/-!
# Percent-encoding

A character that may not stand for itself is written as its UTF-8 octets, each
a "%" with two upper-case hexadecimal digits.  Decoding takes "%" with two
digits of either case for an octet, leaves everything else, and reads the
octets as UTF-8 with U+FFFD for the faults.

    decode (encode special text) = text    if "%" is special      (decode_encode)
    decode (a ++ c :: b) = decode a ++ c :: decode b              (decode_append_cons)

The second holds for an ASCII character that is neither "%" nor a digit.
-/

namespace ServedMedia.Percent

/-! ## Algorithm -/

def encodeOctet (b : Nat) : List Char := ['%', upperHex (b / 16), upperHex (b % 16)]

/-- The text with the special characters percent-encoded. -/
def encode (special : Char → Bool) (text : List Char) : List Char :=
  text.flatMap fun c => if special c then (Utf8.encodeChar c).flatMap encodeOctet else [c]

/-- The octets that a text stands for. -/
def octets : List Char → List Nat
  | [] => []
  | '%' :: a :: b :: rest =>
    match hexValue? a, hexValue? b with
    | some high, some low => (high * 16 + low) :: octets rest
    | _, _ => '%'.toNat :: octets (a :: b :: rest)
  | c :: rest => Utf8.encodeChar c ++ octets rest

/-- The text with its percent escapes read. -/
def decode (text : List Char) : List Char := Utf8.decodeLossy (octets text)

/-! ## Lemmas -/

theorem octets_encodeOctet {b : Nat} (h : b < 256) (rest : List Char) :
    octets (encodeOctet b ++ rest) = b :: octets rest := by
  have h1 := hexValue?_upperHex (b / 16) (by omega)
  have h2 := hexValue?_upperHex (b % 16) (by omega)
  have h3 : b / 16 * 16 + b % 16 = b := by omega
  simp [encodeOctet, octets, h1, h2, h3]

theorem octets_encodeOctets {bs : List Nat} (h : ∀ b ∈ bs, b < 256) (rest : List Char) :
    octets (bs.flatMap encodeOctet ++ rest) = bs ++ octets rest := by
  induction bs with
  | nil => rfl
  | cons b bs ih =>
    rw [List.flatMap_cons, List.append_assoc, octets_encodeOctet (h b (by simp)),
      ih fun c hc => h c (by simp [hc])]
    rfl

theorem octets_cons_of_ne {c : Char} (h : c ≠ '%') (rest : List Char) :
    octets (c :: rest) = Utf8.encodeChar c ++ octets rest := by
  rw [octets]
  intro a b rest he
  exact absurd he h

theorem octets_ne_nil {text : List Char} (h : text ≠ []) : octets text ≠ [] := by
  unfold octets
  split
  · exact absurd rfl h
  · split <;> simp
  · exact List.append_ne_nil_of_left_ne_nil (Utf8.encodeChar_ne_nil _) _

theorem decode_ne_nil {text : List Char} (h : text ≠ []) : decode text ≠ [] :=
  Utf8.decodeLossy_ne_nil (octets_ne_nil h)

theorem lt_of_mem_encodeChar {c : Char} {b : Nat} (h : b ∈ Utf8.encodeChar c) : b < 256 := by
  have hv : c.toNat < 0xD800 ∨ (0xDFFF < c.toNat ∧ c.toNat < 0x110000) := c.valid
  unfold Utf8.encodeChar at h
  simp only [] at h
  generalize c.toNat = n at *
  split at h
  · simp at h; omega
  · split at h
    · simp at h; omega
    · split at h <;> simp at h <;> omega

theorem octets_encode {special : Char → Bool} (h : special '%' = true) (text : List Char) :
    octets (encode special text) = Utf8.encode text := by
  induction text with
  | nil => rfl
  | cons c text ih =>
    rw [encode, List.flatMap_cons, ← encode, Utf8.encode_cons]
    by_cases hc : special c = true
    · rw [if_pos hc, octets_encodeOctets (fun b hb => lt_of_mem_encodeChar hb), ih]
    · have hne : c ≠ '%' := fun he => hc (he ▸ h)
      rw [if_neg hc, List.singleton_append, octets_cons_of_ne hne, ih]

theorem decode_encode {special : Char → Bool} (h : special '%' = true) (text : List Char) :
    decode (encode special text) = text := by
  rw [decode, octets_encode h, Utf8.decodeLossy_encode]

theorem encode_append (special : Char → Bool) (before after : List Char) :
    encode special (before ++ after) = encode special before ++ encode special after :=
  List.flatMap_append

theorem encode_eq_self {special : Char → Bool} {text : List Char}
    (h : ∀ c ∈ text, special c = false) : encode special text = text := by
  induction text with
  | nil => rfl
  | cons c text ih =>
    rw [encode, List.flatMap_cons, ← encode, ih fun d hd => h d (List.mem_cons_of_mem _ hd),
      h c List.mem_cons_self]
    rfl

/-- A percent sign with no two digits behind it stands for itself. -/
theorem octets_percent {text : List Char}
    (h : ∀ a b rest, text = a :: b :: rest → hexValue? a = none ∨ hexValue? b = none) :
    octets ('%' :: text) = '%'.toNat :: octets text := by
  match text with
  | [] => rfl
  | [a] => rfl
  | a :: b :: rest =>
    rw [octets]
    rcases h a b rest rfl with ha | hb
    · rw [ha]
    · rw [hb]
      split
      · next hnone => cases hnone
      · rfl

/-- A character that is no digit ends an escape, complete or not. -/
theorem octets_append_cons {c : Char} (hdigit : hexValue? c = none) (before after : List Char) :
    octets (before ++ c :: after) = octets before ++ octets (c :: after) := by
  fun_induction octets before with
  | case1 => rfl
  | case2 a b rest high low ha hb ih =>
    rw [List.cons_append, List.cons_append, List.cons_append, octets, ha, hb]
    simp only [ih, List.cons_append]
  | case3 a b rest hno ih =>
    have hpair : ∀ x y more, a :: b :: rest ++ c :: after = x :: y :: more →
        hexValue? x = none ∨ hexValue? y = none := by
      rintro x y more ⟨⟩
      cases ha : hexValue? a with
      | none => exact .inl rfl
      | some high =>
        cases hb : hexValue? b with
        | none => exact .inr rfl
        | some low => exact (hno high low ha hb).elim
    rw [List.cons_append, octets_percent hpair, ih, List.cons_append]
  | case4 d rest hno ih =>
    rw [List.cons_append]
    by_cases hd : d = '%'
    · subst hd
      have hshort : ∀ x y more, rest ≠ x :: y :: more := fun x y more h => hno x y more rfl h
      have hpair : ∀ x y more, rest ++ c :: after = x :: y :: more →
          hexValue? x = none ∨ hexValue? y = none := by
        intro x y more h
        match rest, hshort with
        | [], _ =>
          obtain ⟨rfl, -⟩ := List.cons.inj h
          exact .inl hdigit
        | [a], _ =>
          obtain ⟨rfl, hmore⟩ := List.cons.inj h
          obtain ⟨rfl, -⟩ := List.cons.inj hmore
          exact .inr hdigit
        | a :: b :: more', hshort => exact absurd rfl (hshort a b more')
      rw [octets_percent hpair, ih]
      rfl
    · rw [octets_cons_of_ne hd, ih, List.append_assoc]

theorem octets_of_not_mem {text : List Char} (h : '%' ∉ text) : octets text = Utf8.encode text := by
  induction text with
  | nil => rfl
  | cons c rest ih =>
    obtain ⟨hc, hrest⟩ : '%' ≠ c ∧ '%' ∉ rest := by simpa using h
    rw [octets_cons_of_ne (Ne.symm hc), ih hrest, Utf8.encode_cons]

theorem decode_eq_self {text : List Char} (h : '%' ∉ text) : decode text = text := by
  rw [decode, octets_of_not_mem h, Utf8.decodeLossy_encode]

/-- An ASCII character that is no digit and begins no escape stands between two texts. -/
theorem decode_append_cons {c : Char} (hascii : c.toNat < 0x80) (hc : c ≠ '%')
    (hdigit : hexValue? c = none) (before after : List Char) :
    decode (before ++ c :: after) = decode before ++ c :: decode after := by
  have hencode : Utf8.encodeChar c = [c.toNat] := if_pos hascii
  rw [decode, octets_append_cons hdigit, octets_cons_of_ne hc, hencode, List.singleton_append,
    Utf8.decodeLossy_append_cons hascii, Char.ofNat_toNat]
  rfl

end ServedMedia.Percent
