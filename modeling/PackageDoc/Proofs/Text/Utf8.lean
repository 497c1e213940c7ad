import PackageDoc.Text.Utf8

/-! # UTF-8 there and back

A text is read back from its bytes, and bytes that are read as a text are the bytes of that text. -/
set_option autoImplicit false

namespace PackageDoc.Text

/-! ## Bytes and code points -/

theorem toNat_ofNat_of_valid {code : Nat} (valid : code.isValidChar) :
    (Char.ofNat code).toNat = code := by
  unfold Char.ofNat
  rw [dif_pos valid]
  rfl

theorem byte_of_eq {code : Nat} {byte : UInt8} (same : code = byte.toNat) :
    UInt8.ofNat code = byte := by
  rw [same, UInt8.ofNat_toNat]

theorem toNat_byte {code : Nat} (small : code < 0x100) : (UInt8.ofNat code).toNat = code :=
  UInt8.toNat_ofNat_of_lt' small

theorem charLength_cases (first : Nat) :
    charLength first = 0 ∧ (0x80 ≤ first ∧ first < 0xC2 ∨ 0xF5 ≤ first) ∨
      charLength first = 1 ∧ first < 0x80 ∨
      charLength first = 2 ∧ 0xC2 ≤ first ∧ first < 0xE0 ∨
      charLength first = 3 ∧ 0xE0 ≤ first ∧ first < 0xF0 ∨
      charLength first = 4 ∧ 0xF0 ≤ first ∧ first < 0xF5 := by
  unfold charLength
  repeat' split
  all_goals omega

theorem isTail_iff {byte : Nat} : isTail byte = true ↔ 0x80 ≤ byte ∧ byte < 0xC0 := by
  simp [isTail]

theorem isSecond_iff {first second : Nat} : isSecond first second = true ↔
    0x80 ≤ second ∧ second < 0xC0 ∧ (first = 0xE0 → 0xA0 ≤ second) ∧
      (first = 0xED → second < 0xA0) ∧ (first = 0xF0 → 0x90 ≤ second) ∧
      (first = 0xF4 → second < 0x90) := by
  unfold isSecond
  repeat' split
  all_goals simp only [Bool.and_eq_true, decide_eq_true_eq, isTail_iff]
  all_goals omega

/-! ## The bytes of one character -/

theorem encodeChar_one {a : UInt8} (low : a.toNat < 0x80) :
    encodeChar (Char.ofNat (codeOf [a])) = [a] := by
  have code : codeOf [a] = a.toNat := rfl
  have valid : a.toNat.isValidChar := by unfold Nat.isValidChar; omega
  unfold encodeChar
  simp only [code, toNat_ofNat_of_valid valid]
  rw [if_pos low, byte_of_eq rfl]

theorem encodeChar_two {a b : UInt8} (first : 0xC2 ≤ a.toNat ∧ a.toNat < 0xE0)
    (second : isSecond a.toNat b.toNat = true) :
    encodeChar (Char.ofNat (codeOf [a, b])) = [a, b] := by
  have bounds := isSecond_iff.1 second
  have code : codeOf [a, b] = (a.toNat - 0xC0) * 0x40 + (b.toNat - 0x80) := rfl
  have valid : ((a.toNat - 0xC0) * 0x40 + (b.toNat - 0x80)).isValidChar := by
    unfold Nat.isValidChar
    omega
  unfold encodeChar
  simp only [code, toNat_ofNat_of_valid valid]
  rw [if_neg (by omega), if_pos (by omega)]
  simp only [List.cons.injEq, and_true]
  exact ⟨byte_of_eq (by omega), byte_of_eq (by omega)⟩

theorem encodeChar_three {a b c : UInt8} (first : 0xE0 ≤ a.toNat ∧ a.toNat < 0xF0)
    (second : isSecond a.toNat b.toNat = true) (third : isTail c.toNat = true) :
    encodeChar (Char.ofNat (codeOf [a, b, c])) = [a, b, c] := by
  have bounds := isSecond_iff.1 second
  have last := isTail_iff.1 third
  have code : codeOf [a, b, c] =
      (a.toNat - 0xE0) * 0x1000 + (b.toNat - 0x80) * 0x40 + (c.toNat - 0x80) := rfl
  have valid : ((a.toNat - 0xE0) * 0x1000 + (b.toNat - 0x80) * 0x40 +
      (c.toNat - 0x80)).isValidChar := by
    unfold Nat.isValidChar
    omega
  unfold encodeChar
  simp only [code, toNat_ofNat_of_valid valid]
  rw [if_neg (by omega), if_neg (by omega), if_pos (by omega)]
  simp only [List.cons.injEq, and_true]
  exact ⟨byte_of_eq (by omega), byte_of_eq (by omega), byte_of_eq (by omega)⟩

theorem encodeChar_four {a b c d : UInt8} (first : 0xF0 ≤ a.toNat ∧ a.toNat < 0xF5)
    (second : isSecond a.toNat b.toNat = true) (third : isTail c.toNat = true)
    (fourth : isTail d.toNat = true) :
    encodeChar (Char.ofNat (codeOf [a, b, c, d])) = [a, b, c, d] := by
  have bounds := isSecond_iff.1 second
  have middle := isTail_iff.1 third
  have last := isTail_iff.1 fourth
  have code : codeOf [a, b, c, d] = (a.toNat - 0xF0) * 0x40000 + (b.toNat - 0x80) * 0x1000 +
      (c.toNat - 0x80) * 0x40 + (d.toNat - 0x80) := rfl
  have valid : ((a.toNat - 0xF0) * 0x40000 + (b.toNat - 0x80) * 0x1000 +
      (c.toNat - 0x80) * 0x40 + (d.toNat - 0x80)).isValidChar := by
    unfold Nat.isValidChar
    omega
  unfold encodeChar
  simp only [code, toNat_ofNat_of_valid valid]
  rw [if_neg (by omega), if_neg (by omega), if_neg (by omega)]
  simp only [List.cons.injEq, and_true]
  exact ⟨byte_of_eq (by omega), byte_of_eq (by omega), byte_of_eq (by omega), byte_of_eq (by omega)⟩

/-! ## Sound beginnings -/

theorem soundLength_one {a : UInt8} {tail : Bytes} (one : charLength a.toNat = 1) :
    soundLength (a :: tail) = 1 := by
  unfold soundLength
  dsimp only
  rw [one, if_pos (Nat.le_refl 1)]

/-- The bytes behind the first one of a character that is not cut short. -/
theorem soundLength_eq_iff {a : UInt8} {tail : Bytes} (long : 2 ≤ charLength a.toNat) :
    soundLength (a :: tail) = charLength a.toNat ↔ ∃ b rest, tail = b :: rest ∧
      isSecond a.toNat b.toNat = true ∧
      ((rest.take (charLength a.toNat - 2)).takeWhile fun byte => isTail byte.toNat).length =
        charLength a.toNat - 2 := by
  unfold soundLength
  dsimp only
  rw [if_neg (by omega)]
  cases tail with
  | nil =>
    refine iff_of_false (by dsimp only; omega) ?_
    rintro ⟨b, rest, none, _⟩
    cases none
  | cons b rest =>
    dsimp only
    constructor
    · intro same
      split at same
      next second => exact ⟨b, rest, rfl, second, by omega⟩
      next => omega
    · rintro ⟨_, _, same, second, tails⟩
      cases same
      rw [if_pos second]
      omega

theorem takeWhile_one_iff {rest : Bytes} :
    ((rest.take 1).takeWhile fun byte => isTail byte.toNat).length = 1 ↔
      ∃ c more, rest = c :: more ∧ isTail c.toNat = true := by
  cases rest with
  | nil => simp
  | cons c more => cases tail : isTail c.toNat <;> simp [tail]

theorem takeWhile_two_iff {rest : Bytes} :
    ((rest.take 2).takeWhile fun byte => isTail byte.toNat).length = 2 ↔
      ∃ c d more, rest = c :: d :: more ∧ isTail c.toNat = true ∧ isTail d.toNat = true := by
  cases rest with
  | nil => simp
  | cons c more =>
    cases more with
    | nil => cases tail : isTail c.toNat <;> simp [tail]
    | cons d more =>
      simp only [List.take_succ_cons, List.take_zero, List.cons.injEq]
      cases tail : isTail c.toNat with
      | false => simp [tail]
      | true =>
        cases last : isTail d.toNat with
        | false => simp [tail, last]
        | true =>
          have both : ((c :: d :: []).takeWhile fun byte => isTail byte.toNat).length = 2 := by
            simp [tail, last]
          exact iff_of_true both ⟨c, d, more, ⟨rfl, rfl, rfl⟩, tail, last⟩

/-! ## Reading what was written -/

/-- The first character that is read is written as the bytes that are gone. -/
theorem encodeChar_of_decodeChar? {source rest : Bytes} {c : Char}
    (decoded : decodeChar? source = some (c, rest)) : source = encodeChar c ++ rest := by
  unfold decodeChar? at decoded
  split at decoded
  · cases decoded
  next a tail =>
    dsimp only at decoded
    split at decoded
    next fits =>
      obtain ⟨rfl, rfl⟩ := Prod.mk.inj (Option.some.inj decoded)
      suffices whole : encodeChar (Char.ofNat (codeOf ((a :: tail).take (charLength a.toNat)))) =
          (a :: tail).take (charLength a.toNat) by
        rw [whole, List.take_append_drop]
      obtain ⟨some, sound⟩ := fits
      rcases charLength_cases a.toNat with none | ⟨one, low⟩ | ⟨two, first⟩ | ⟨three, first⟩ |
        ⟨four, first⟩
      · omega
      · rw [one]
        exact encodeChar_one low
      · obtain ⟨b, rest, rfl, second, _⟩ := (soundLength_eq_iff (by omega)).1 sound
        rw [two]
        exact encodeChar_two first second
      · obtain ⟨b, rest, rfl, second, tails⟩ := (soundLength_eq_iff (by omega)).1 sound
        rw [three] at tails ⊢
        obtain ⟨c, more, rfl, third⟩ := takeWhile_one_iff.1 tails
        exact encodeChar_three first second third
      · obtain ⟨b, rest, rfl, second, tails⟩ := (soundLength_eq_iff (by omega)).1 sound
        rw [four] at tails ⊢
        obtain ⟨c, d, more, rfl, third, fourth⟩ := takeWhile_two_iff.1 tails
        exact encodeChar_four first second third fourth
    next => cases decoded

theorem decodeChar?_of_sound {a : UInt8} {tail : Bytes} {length : Nat} {c : Char}
    (some_ : 0 < length) (whole : charLength a.toNat = length)
    (sound : soundLength (a :: tail) = length)
    (code : codeOf ((a :: tail).take length) = c.toNat) :
    decodeChar? (a :: tail) = some (c, (a :: tail).drop length) := by
  unfold decodeChar?
  dsimp only
  rw [whole, if_pos ⟨some_, sound⟩, code, Char.ofNat_toNat]

section Decode
variable {a b d e : UInt8} {c : Char} (rest : Bytes)

theorem decodeChar?_one (low : a.toNat < 0x80) (code : a.toNat = c.toNat) :
    decodeChar? (a :: rest) = some (c, rest) := by
  have cases := charLength_cases a.toNat
  have one : charLength a.toNat = 1 := by omega
  exact decodeChar?_of_sound (by omega) one (soundLength_one one) code

theorem decodeChar?_two (first : 0xC2 ≤ a.toNat ∧ a.toNat < 0xE0)
    (second : isSecond a.toNat b.toNat = true)
    (code : (a.toNat - 0xC0) * 0x40 + (b.toNat - 0x80) = c.toNat) :
    decodeChar? (a :: b :: rest) = some (c, rest) := by
  have cases := charLength_cases a.toNat
  have two : charLength a.toNat = 2 := by omega
  refine decodeChar?_of_sound (by omega) two ?_ code
  rw [← two, soundLength_eq_iff (by omega)]
  exact ⟨b, rest, rfl, second, by rw [two]; rfl⟩

theorem decodeChar?_three (first : 0xE0 ≤ a.toNat ∧ a.toNat < 0xF0)
    (second : isSecond a.toNat b.toNat = true) (third : isTail d.toNat = true)
    (code : (a.toNat - 0xE0) * 0x1000 + (b.toNat - 0x80) * 0x40 + (d.toNat - 0x80) = c.toNat) :
    decodeChar? (a :: b :: d :: rest) = some (c, rest) := by
  have cases := charLength_cases a.toNat
  have three : charLength a.toNat = 3 := by omega
  refine decodeChar?_of_sound (by omega) three ?_ code
  rw [← three, soundLength_eq_iff (by omega)]
  exact ⟨b, d :: rest, rfl, second, by rw [three]; exact takeWhile_one_iff.2 ⟨d, rest, rfl, third⟩⟩

theorem decodeChar?_four (first : 0xF0 ≤ a.toNat ∧ a.toNat < 0xF5)
    (second : isSecond a.toNat b.toNat = true) (third : isTail d.toNat = true)
    (fourth : isTail e.toNat = true)
    (code : (a.toNat - 0xF0) * 0x40000 + (b.toNat - 0x80) * 0x1000 + (d.toNat - 0x80) * 0x40 +
      (e.toNat - 0x80) = c.toNat) :
    decodeChar? (a :: b :: d :: e :: rest) = some (c, rest) := by
  have cases := charLength_cases a.toNat
  have four : charLength a.toNat = 4 := by omega
  refine decodeChar?_of_sound (by omega) four ?_ code
  rw [← four, soundLength_eq_iff (by omega)]
  refine ⟨b, d :: e :: rest, rfl, second, ?_⟩
  rw [four]
  exact takeWhile_two_iff.2 ⟨d, e, rest, rfl, third, fourth⟩

end Decode

theorem decodeChar?_encodeChar (c : Char) (rest : Bytes) :
    decodeChar? (encodeChar c ++ rest) = some (c, rest) := by
  have valid : c.toNat < 0xD800 ∨ 0xDFFF < c.toNat ∧ c.toNat < 0x110000 := c.valid
  have tail : ∀ number, (UInt8.ofNat (0x80 + number % 0x40)).toNat = 0x80 + number % 0x40 :=
    fun number => toNat_byte (by omega)
  unfold encodeChar
  dsimp only
  split
  next low =>
    have a := toNat_byte (show c.toNat < 0x100 by omega)
    exact decodeChar?_one rest (by omega) a
  · split
    next =>
      have a := toNat_byte (show 0xC0 + c.toNat / 0x40 < 0x100 by omega)
      have b := tail c.toNat
      exact decodeChar?_two rest (by omega) (isSecond_iff.2 (by omega)) (by omega)
    next =>
      split
      next =>
        have a := toNat_byte (show 0xE0 + c.toNat / 0x1000 < 0x100 by omega)
        have b := tail (c.toNat / 0x40)
        have d := tail c.toNat
        exact decodeChar?_three rest (by omega) (isSecond_iff.2 (by omega))
          (isTail_iff.2 (by omega)) (by omega)
      next =>
        have a := toNat_byte (show 0xF0 + c.toNat / 0x40000 < 0x100 by omega)
        have b := tail (c.toNat / 0x1000)
        have d := tail (c.toNat / 0x40)
        have e := tail c.toNat
        exact decodeChar?_four rest (by omega) (isSecond_iff.2 (by omega))
          (isTail_iff.2 (by omega)) (isTail_iff.2 (by omega)) (by omega)

/-! ## Texts -/

theorem encode_of_decodeWithin : ∀ {fuel : Nat} {source : Bytes} {text : List Char},
    decodeWithin fuel source = some text → encode text = source := by
  intro fuel
  induction fuel with
  | zero =>
    intro source text decoded
    cases source with
    | nil => cases decoded; rfl
    | cons byte rest => cases decoded
  | succ fuel ih =>
    intro source text decoded
    cases source with
    | nil => cases decoded; rfl
    | cons byte rest =>
      simp only [decodeWithin] at decoded
      obtain ⟨⟨c, behind⟩, first, decoded⟩ := Option.bind_eq_some_iff.1 decoded
      obtain ⟨text', later, same⟩ := Option.bind_eq_some_iff.1 decoded
      cases same
      have rest := ih later
      dsimp only at rest
      rw [encodeChar_of_decodeChar? first, ← rest]
      rfl

/-- Bytes that are read as a text are the bytes of that text. -/
theorem bytes_of_string? {source : Bytes} {text : String} (decoded : string? source = some text) :
    bytes text = source := by
  obtain ⟨characters, read, rfl⟩ := Option.map_eq_some_iff.1 decoded
  unfold bytes
  rw [String.toList_ofList]
  exact encode_of_decodeWithin read

theorem encodeChar_ne_nil (c : Char) : encodeChar c ≠ [] := by
  unfold encodeChar
  dsimp only
  repeat' split
  all_goals exact List.cons_ne_nil _ _

theorem decodeWithin_encode : ∀ (text : List Char) (fuel : Nat), (encode text).length ≤ fuel →
    decodeWithin fuel (encode text) = some text := by
  intro text
  induction text with
  | nil => intro fuel _; unfold encode decodeWithin; rfl
  | cons c text ih =>
    intro fuel enough
    have whole : encode (c :: text) = encodeChar c ++ encode text := rfl
    have some_ : 0 < (encodeChar c).length := List.length_pos_iff.2 (encodeChar_ne_nil c)
    rw [whole, List.length_append] at enough
    obtain ⟨less, rfl⟩ : ∃ less, fuel = less + 1 := ⟨fuel - 1, by omega⟩
    obtain ⟨byte, more, front⟩ := List.exists_cons_of_ne_nil (encodeChar_ne_nil c)
    have first := decodeChar?_encodeChar c (encode text)
    rw [whole]
    rw [front] at first ⊢
    simp only [List.cons_append, decodeWithin]
    rw [List.cons_append] at first
    rw [first]
    simp only [bind, Option.bind]
    rw [ih less (by omega)]
    rfl

/-- A text is read back from its bytes. -/
theorem string?_bytes (text : String) : string? (bytes text) = some text := by
  unfold string? decode? bytes
  rw [decodeWithin_encode text.toList _ (Nat.le_refl _)]
  exact congrArg some (String.ofList_toList)

theorem string?_eq_some_iff {source : Bytes} {text : String} :
    string? source = some text ↔ source = bytes text :=
  ⟨fun decoded => (bytes_of_string? decoded).symm, fun same => same ▸ string?_bytes text⟩

theorem bytes_injective {first second : String} (same : bytes first = bytes second) :
    first = second := by
  have decoded := string?_bytes first
  rw [same, string?_bytes second] at decoded
  exact (Option.some.inj decoded).symm

/-! ## Lossy reading -/

theorem lossyWithin_of_decodeWithin : ∀ {fuel : Nat} {source : Bytes} {text : List Char},
    decodeWithin fuel source = some text → lossyWithin fuel source = text := by
  intro fuel
  induction fuel with
  | zero =>
    intro source text decoded
    cases source with
    | nil => cases decoded; rfl
    | cons byte rest => cases decoded
  | succ fuel ih =>
    intro source text decoded
    cases source with
    | nil => cases decoded; rfl
    | cons byte rest =>
      simp only [decodeWithin] at decoded
      obtain ⟨⟨c, behind⟩, first, decoded⟩ := Option.bind_eq_some_iff.1 decoded
      obtain ⟨text', later, same⟩ := Option.bind_eq_some_iff.1 decoded
      cases same
      simp only [lossyWithin, first]
      rw [ih later]

/-- Nothing is lost of the bytes of a text. -/
theorem lossyString_bytes (text : String) : lossyString (bytes text) = text := by
  obtain ⟨characters, read, rfl⟩ := Option.map_eq_some_iff.1 (string?_bytes text)
  exact congrArg String.ofList (lossyWithin_of_decodeWithin read)

end PackageDoc.Text
