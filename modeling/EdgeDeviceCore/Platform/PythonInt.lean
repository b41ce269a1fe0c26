import Mathlib

/-!
# `int` of a Python string

`int(text)` drops spaces around the text and reads a sign and decimal digits, with single
underscores between digits. A digit is any character of the Unicode category `Nd`, which grows with
the release of Python, and later releases refuse texts with very many digits.
-/

namespace EdgeDeviceCore.Platform

/-- What depends on the release of Python. -/
class PythonRelease where
  /-- `unicodedata.decimal`. -/
  decimal : Char → Option ℕ
  decimal_ascii : ∀ character, character.toNat < 128 → decimal character =
    if character.isDigit then some (character.toNat - '0'.toNat) else none
  /-- `sys.get_int_max_str_digits`. -/
  maxStrDigits : Option ℕ
  /-- The threshold below which the limit cannot be set. -/
  le_maxStrDigits : ∀ limit, maxStrDigits = some limit → 640 ≤ limit

/-- What `int` drops around a text: of the ASCII characters those that C takes for spaces, of the
others those for which `str.isspace` holds. -/
def isPythonSpace (character : Char) : Bool :=
  let code := character.toNat
  (9 ≤ code && code ≤ 13) || code = 32 || code = 133 || code = 160 || code = 5760 ||
    (8192 ≤ code && code ≤ 8202) || code = 8232 || code = 8233 || code = 8239 || code = 8287 ||
    code = 12288

section

variable [PythonRelease]

/-- Digits, with single underscores between them. -/
def parseDigits : List Char → Option (List ℕ)
  | [] => none
  | [last] => (PythonRelease.decimal last).map ([·])
  | character :: '_' :: rest => do
      let digit ← PythonRelease.decimal character
      let digits ← parseDigits rest
      some (digit :: digits)
  | character :: next :: rest => do
      let digit ← PythonRelease.decimal character
      let digits ← parseDigits (next :: rest)
      some (digit :: digits)

def exceedsLimit (digits : List ℕ) : Bool :=
  PythonRelease.maxStrDigits.any (· < digits.length)

def parseNat (text : List Char) : Option ℕ := do
  let digits ← parseDigits text
  if exceedsLimit digits then none
  else some (digits.foldl (fun value digit ↦ 10 * value + digit) 0)

/-- `int(text)`, or `none` where it raises an exception. -/
def pythonInt (text : List Char) : Option ℤ :=
  match (text.dropWhile isPythonSpace).rdropWhile isPythonSpace with
  | '-' :: digits => (parseNat digits).map fun value : ℕ ↦ -(value : ℤ)
  | '+' :: digits => (parseNat digits).map fun value : ℕ ↦ (value : ℤ)
  | digits => (parseNat digits).map fun value : ℕ ↦ (value : ℤ)

end

/-- `str(value)`. A number that `int` has read is within the limit on digits when it is written. -/
def pythonStr (value : ℤ) : List Char :=
  if value < 0 then '-' :: Nat.toDigits 10 value.natAbs else Nat.toDigits 10 value.natAbs

/-! ## Decimal numerals -/

section Decimal

variable [PythonRelease]

omit [PythonRelease] in
theorem toNat_of_isDigit {character : Char} (h : character.isDigit = true) :
    48 ≤ character.toNat ∧ character.toNat ≤ 57 := by
  simp only [Char.isDigit, Bool.and_eq_true, decide_eq_true_eq] at h
  exact ⟨UInt32.le_iff_toNat_le.mp h.1, UInt32.le_iff_toNat_le.mp h.2⟩

omit [PythonRelease] in
theorem not_isPythonSpace_of_isDigit {character : Char} (h : character.isDigit = true) :
    isPythonSpace character = false := by
  obtain ⟨hlow, hhigh⟩ := toNat_of_isDigit h
  simp only [isPythonSpace, Bool.or_eq_false_iff, Bool.and_eq_false_iff, decide_eq_false_iff_not]
  omega

omit [PythonRelease] in
theorem toNat_of_isAlpha {character : Char} (h : character.isAlpha = true) :
    65 ≤ character.toNat ∧ character.toNat ≤ 90 ∨
      97 ≤ character.toNat ∧ character.toNat ≤ 122 := by
  simp only [Char.isAlpha, Char.isUpper, Char.isLower, Bool.or_eq_true, Bool.and_eq_true,
    decide_eq_true_eq] at h
  rcases h with hupper | hlower
  · exact .inl ⟨UInt32.le_iff_toNat_le.mp hupper.1, UInt32.le_iff_toNat_le.mp hupper.2⟩
  · exact .inr ⟨UInt32.le_iff_toNat_le.mp hlower.1, UInt32.le_iff_toNat_le.mp hlower.2⟩

omit [PythonRelease] in
theorem not_isDigit_of_isAlpha {character : Char} (h : character.isAlpha = true) :
    character.isDigit = false := by
  apply Bool.eq_false_of_not_eq_true
  intro hdigit
  have hletter := toNat_of_isAlpha h
  have hrange := toNat_of_isDigit hdigit
  omega

omit [PythonRelease] in
theorem not_isPythonSpace_of_isAlpha {character : Char} (h : character.isAlpha = true) :
    isPythonSpace character = false := by
  have hletter := toNat_of_isAlpha h
  simp only [isPythonSpace, Bool.or_eq_false_iff, Bool.and_eq_false_iff, decide_eq_false_iff_not]
  omega

theorem decimal_of_isDigit {character : Char} (h : character.isDigit = true) :
    PythonRelease.decimal character = some (character.toNat - '0'.toNat) := by
  have hascii : character.toNat < 128 := by
    have hrange := toNat_of_isDigit h
    omega
  rw [PythonRelease.decimal_ascii character hascii, if_pos h]

theorem parseDigits_of_isDigit {text : List Char} (hne : text ≠ [])
    (h : ∀ character ∈ text, character.isDigit = true) :
    parseDigits text = some (text.map fun character ↦ character.toNat - '0'.toNat) := by
  induction text with
  | nil => exact absurd rfl hne
  | cons character rest ih =>
      have hcharacter := decimal_of_isDigit (h character (List.mem_cons_self ..))
      cases rest with
      | nil => rw [parseDigits, hcharacter, Option.map_some, List.map_singleton]
      | cons next rest =>
          have hrest := ih (List.cons_ne_nil _ _) fun other hmem ↦
            h other (List.mem_cons_of_mem _ hmem)
          have hnext : next ≠ '_' := by
            rintro rfl
            exact absurd (h '_' (by simp)) (by decide)
          rw [parseDigits.eq_4 _ _ _ (by simpa using hnext), hcharacter, hrest]
          rfl

/-- The value of a numeral without a sign. -/
theorem parseNat_toDigits {n : ℕ} (h : (Nat.toDigits 10 n).length ≤ 640) :
    parseNat (Nat.toDigits 10 n) = some n := by
  have hdigits : ∀ character ∈ Nat.toDigits 10 n, character.isDigit = true :=
    fun _ hmem ↦ Nat.isDigit_of_mem_toDigits (by decide) le_rfl hmem
  have hne : Nat.toDigits 10 n ≠ [] := Nat.toDigits_ne_nil
  have hlimit : exceedsLimit
      ((Nat.toDigits 10 n).map fun character ↦ character.toNat - '0'.toNat) = false := by
    rw [exceedsLimit, List.length_map]
    cases hlimit : PythonRelease.maxStrDigits with
    | none => rfl
    | some limit =>
        have hle := PythonRelease.le_maxStrDigits limit hlimit
        exact decide_eq_false (by omega)
  rw [parseNat, parseDigits_of_isDigit hne hdigits]
  simp only [Option.bind_eq_bind, Option.bind_some, hlimit, Bool.false_eq_true, if_false]
  rw [List.foldl_map, ← Nat.ofDigitChars_eq_foldl, Nat.ofDigitChars_ten_toDigits]

/-- A numeral without a sign is read as its number. -/
theorem pythonInt_toDigits {n : ℕ} (h : (Nat.toDigits 10 n).length ≤ 640) :
    pythonInt (Nat.toDigits 10 n) = some (n : ℤ) := by
  have hdigits : ∀ character ∈ Nat.toDigits 10 n, character.isDigit = true :=
    fun _ hmem ↦ Nat.isDigit_of_mem_toDigits (by decide) le_rfl hmem
  have htrim : ((Nat.toDigits 10 n).dropWhile isPythonSpace).rdropWhile isPythonSpace =
      Nat.toDigits 10 n := by
    rw [List.dropWhile_eq_self_iff.mpr, List.rdropWhile_eq_self_iff.mpr]
    · intro hne
      simp [not_isPythonSpace_of_isDigit (hdigits _ (List.getLast_mem hne))]
    · intro hpos
      simp [not_isPythonSpace_of_isDigit (hdigits _ (List.getElem_mem hpos))]
  rw [pythonInt, htrim]
  split
  · next rest hminus =>
      have hdigit := hdigits '-' (hminus ▸ List.mem_cons_self ..)
      exact absurd hdigit (by decide)
  · next rest hplus =>
      have hdigit := hdigits '+' (hplus ▸ List.mem_cons_self ..)
      exact absurd hdigit (by decide)
  · rw [parseNat_toDigits h, Option.map_some]

/-! ## Words -/

theorem parseDigits_of_decimal {character : Char}
    (h : PythonRelease.decimal character = none) (rest : List Char) :
    parseDigits (character :: rest) = none := by
  unfold parseDigits
  split
  · rfl
  · next heq =>
      obtain ⟨rfl, -⟩ := List.cons.inj heq
      rw [h, Option.map_none]
  · next heq =>
      obtain ⟨rfl, -⟩ := List.cons.inj heq
      rw [h]
      rfl
  · next heq =>
      obtain ⟨rfl, -⟩ := List.cons.inj heq
      rw [h]
      rfl

omit [PythonRelease] in
/-- A letter at the start of a text stays there. -/
theorem exists_trim_of_isAlpha {letter : Char} (h : letter.isAlpha = true) (rest : List Char) :
    ∃ kept, ((letter :: rest).dropWhile isPythonSpace).rdropWhile isPythonSpace =
      letter :: kept := by
  have hspace := not_isPythonSpace_of_isAlpha h
  rw [List.dropWhile_cons_of_neg (by rw [hspace]; exact Bool.false_ne_true)]
  obtain ⟨dropped, hprefix⟩ := List.rdropWhile_prefix isPythonSpace (letter :: rest)
  cases htrimmed : (letter :: rest).rdropWhile isPythonSpace with
  | nil =>
      have hall := List.rdropWhile_eq_nil_iff.mp htrimmed letter (List.mem_cons_self ..)
      exact absurd (hspace.symm.trans hall) Bool.false_ne_true
  | cons first kept =>
      rw [htrimmed, List.cons_append] at hprefix
      exact ⟨kept, by rw [(List.cons.inj hprefix).1]⟩

/-- A text that starts with a letter is no number. -/
theorem pythonInt_of_isAlpha {letter : Char} (h : letter.isAlpha = true) (rest : List Char) :
    pythonInt (letter :: rest) = none := by
  have hdecimal : PythonRelease.decimal letter = none := by
    have hascii : letter.toNat < 128 := by
      have hletter := toNat_of_isAlpha h
      omega
    rw [PythonRelease.decimal_ascii letter hascii, not_isDigit_of_isAlpha h]
    rfl
  obtain ⟨kept, htrim⟩ := exists_trim_of_isAlpha h rest
  rw [pythonInt, htrim]
  split
  · next heq =>
      obtain ⟨rfl, -⟩ := List.cons.inj heq
      exact absurd h (by decide)
  · next heq =>
      obtain ⟨rfl, -⟩ := List.cons.inj heq
      exact absurd h (by decide)
  · rw [parseNat, parseDigits_of_decimal hdecimal]
    rfl

end Decimal

end EdgeDeviceCore.Platform
