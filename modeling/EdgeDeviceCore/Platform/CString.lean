import Mathlib

/-!
# C strings

A C string is the list of its characters up to the terminating NUL, which reads as character `0`
past the end of the list.
-/

namespace EdgeDeviceCore.Platform

abbrev CString := List Char

/-- `strncmp`: the difference of the first pair of characters that differ, among at most `n` pairs
and not past a terminator. -/
def strncmp : CString → CString → ℕ → ℤ
  | _, _, 0 => 0
  | [], [], _ + 1 => 0
  | [], right :: _, _ + 1 => -(right.toNat : ℤ)
  | left :: _, [], _ + 1 => (left.toNat : ℤ)
  | left :: lefts, right :: rights, n + 1 =>
      if left = right then strncmp lefts rights n else (left.toNat : ℤ) - right.toNat

/-- `strcmp`. -/
def strcmp (left right : CString) : ℤ := strncmp left right (max left.length right.length)

/-- No character is the terminator. -/
def CString.Proper (string : CString) : Prop := Char.ofNat 0 ∉ string

instance (string : CString) : Decidable (CString.Proper string) :=
  inferInstanceAs (Decidable (Char.ofNat 0 ∉ string))

theorem char_eq_of_toNat_sub {left right : Char} (h : (left.toNat : ℤ) - right.toNat = 0) :
    left = right := by
  have hnat : left.toNat = right.toNat := by omega
  exact Char.toNat_inj.mp hnat

/-- Comparing as many characters as `check` has tests whether the string starts with it. -/
theorem strncmp_eq_zero_iff {string check : CString} (hcheck : CString.Proper check) :
    strncmp string check check.length = 0 ↔ check <+: string := by
  induction check generalizing string with
  | nil => simp [strncmp]
  | cons right rights ih =>
      have hrights : CString.Proper rights := fun h ↦ hcheck (List.mem_cons_of_mem _ h)
      cases string with
      | nil =>
          have hright : right.toNat ≠ 0 := by
            intro h
            have hzero : Char.ofNat 0 = right := (Char.toNat_inj.mp h).symm
            exact hcheck (hzero ▸ List.mem_cons_self ..)
          simpa [strncmp] using hright
      | cons left lefts =>
          rw [List.length_cons, strncmp, List.cons_prefix_cons]
          by_cases h : left = right
          · rw [if_pos h, ih hrights]
            simp [h]
          · rw [if_neg h]
            constructor
            · exact fun hzero ↦ absurd (char_eq_of_toNat_sub hzero) h
            · exact fun hprefix ↦ absurd hprefix.1.symm h

/-- The string starts with the text `check`. -/
def CString.startsWith (string : CString) (check : String) : Bool :=
  check.toList.isPrefixOf string

/-- The idiom `!strncmp(string, check, strlen(check))`. -/
theorem strncmp_eq_zero_iff_startsWith (string : CString) {check : String}
    (hcheck : CString.Proper check.toList) :
    strncmp string check.toList check.toList.length = 0 ↔ string.startsWith check = true := by
  rw [strncmp_eq_zero_iff hcheck, CString.startsWith, List.isPrefixOf_iff_prefix]

theorem decide_strncmp_eq_startsWith (string : CString) {check : String}
    (hcheck : CString.Proper check.toList) :
    decide (strncmp string check.toList check.toList.length = 0) = string.startsWith check := by
  rw [Bool.eq_iff_iff, decide_eq_true_iff]
  exact strncmp_eq_zero_iff_startsWith string hcheck

/-! ## Strings in memory -/

/-- The string that starts at a place of memory: what stands there before the first terminator. -/
def readString (memory : List Char) : CString := memory.takeWhile (· ≠ Char.ofNat 0)

/-- `strlen`. -/
def strlen (memory : List Char) : ℕ := (readString memory).length

theorem readString_of_proper {string : CString} (h : string.Proper) :
    readString string = string := by
  apply List.takeWhile_eq_self_iff.mpr
  intro character hcharacter
  simpa using ne_of_mem_of_not_mem hcharacter h

/-- What stands behind a terminator is not part of the string. -/
theorem readString_append_nul (memory rest : List Char) :
    readString (memory ++ Char.ofNat 0 :: rest) = readString memory := by
  unfold readString
  induction memory with
  | nil => simp
  | cons head tail ih =>
      by_cases h : head = Char.ofNat 0
      · simp [h]
      · rw [List.cons_append, List.takeWhile_cons_of_pos (by simpa using h), ih,
          List.takeWhile_cons_of_pos (by simpa using h)]

theorem proper_readString (memory : List Char) : CString.Proper (readString memory) := by
  intro hmem
  simpa using List.mem_takeWhile_imp hmem

theorem readString_append {string : CString} (h : string.Proper) (rest : List Char) :
    readString (string ++ Char.ofNat 0 :: rest) = string := by
  rw [readString_append_nul, readString_of_proper h]

/-- The string is the whole memory exactly when the memory has no terminator. -/
theorem strlen_eq_length_iff {memory : List Char} :
    strlen memory = memory.length ↔ CString.Proper memory := by
  constructor
  · intro h
    have hwhole : readString memory = memory := (List.takeWhile_prefix _).eq_of_length h
    exact hwhole ▸ proper_readString memory
  · intro h
    rw [strlen, readString_of_proper h]

/-- `strlen` is the index of the first terminator. -/
theorem strlen_eq_idxOf (memory : List Char) : strlen memory = memory.idxOf (Char.ofNat 0) := by
  unfold strlen readString
  induction memory with
  | nil => rfl
  | cons head tail ih =>
      by_cases h : head = Char.ofNat 0
      · simp [h]
      · rw [List.takeWhile_cons_of_pos (by simpa using h), List.length_cons, ih,
          List.idxOf_cons_ne tail h]

theorem CString.Proper.take {string : CString} (h : string.Proper) (n : ℕ) :
    CString.Proper (string.take n) := fun hmem ↦ h (List.mem_of_mem_take hmem)

theorem CString.Proper.drop {string : CString} (h : string.Proper) (n : ℕ) :
    CString.Proper (string.drop n) := fun hmem ↦ h (List.mem_of_mem_drop hmem)

/-- `strrchr`: the rest of the string from the last occurrence of a character on. -/
def strrchr (string : CString) (character : Char) : Option CString :=
  match string with
  | [] => none
  | head :: tail => strrchr tail character <|> if head = character then some string else none

/-- `strstr`: the rest of the string from the first occurrence of another on. -/
def strstr (string needle : CString) : Option CString :=
  if needle.isPrefixOf string then some string
  else
    match string with
    | [] => none
    | _ :: tail => strstr tail needle

theorem strstr_isSome_iff {string needle : CString} :
    (strstr string needle).isSome = true ↔ needle <:+: string := by
  induction string with
  | nil =>
      rw [strstr, List.infix_nil, ← List.prefix_nil, ← List.isPrefixOf_iff_prefix]
      by_cases h : needle.isPrefixOf [] = true <;> simp [h]
  | cons head tail ih =>
      rw [strstr, List.infix_cons_iff, ← ih, ← List.isPrefixOf_iff_prefix]
      by_cases h : needle.isPrefixOf (head :: tail) = true <;> simp [h]

end EdgeDeviceCore.Platform
