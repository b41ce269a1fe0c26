import EdgeDeviceCore.Platform.Sqlite
import EdgeDeviceCore.Psm.KeyList

/-!
# The SQL text for a parameter

`MyApp.main` of `update_psm_db.py` puts the key and the hexadecimal digits of the value into the
text of one `insert or replace`. The text is that statement for every key and value, and the blob
is the value. A key that does not fit in 64 bits is written as well, and `sqlite3` reads it as a
floating-point number.
-/

open EdgeDeviceCore.Data
open EdgeDeviceCore.Platform

namespace EdgeDeviceCore.Psm

/-- `--value` or `--value-file`. `check_arguments` refuses both and neither. -/
inductive ValueArgument where
  | value (text : String)
  | valueFile (content : List UInt8)

/-- The bytes that the value is made of. -/
def ValueArgument.bytes : ValueArgument → List UInt8
  | .value text => text.toUTF8.toList
  | .valueFile content => content

def makeBlobData (text : String) : List Char :=
  hexEncode text.toUTF8.toList

def makeBlobDataFromFile (content : List UInt8) : List Char :=
  hexEncode content

def blobData : ValueArgument → List Char
  | .value text => makeBlobData text
  | .valueFile content => makeBlobDataFromFile content

/-- `input_text` of `main`. -/
def inputText (key : ℤ) (value : ValueArgument) : List Char :=
  "insert or replace into psm_data values(".toList ++ pythonStr key ++ ", X'".toList ++
    blobData value ++ "');".toList

def psmData : List Char := "psm_data".toList

theorem blobData_eq (value : ValueArgument) : blobData value = hexEncode value.bytes := by
  cases value with
  | value text => rfl
  | valueFile content => rfl

/-! ## The tokens of the text -/

/-- The tokens of the text in front of the key. -/
def frontTokens : List Sqlite.Token :=
  [.word "insert".toList, .word "or".toList, .word "replace".toList, .word "into".toList,
    .word psmData, .word "values".toList, .leftParen]

def keyTokens (key : ℤ) : List Sqlite.Token :=
  if key < 0 then [.minus, .integer (Nat.toDigits 10 key.natAbs)]
  else [.integer (Nat.toDigits 10 key.natAbs)]

/-- The tokens between the parentheses, and the closing one. -/
def valueTokens (key : ℤ) (bytes : List UInt8) : List Sqlite.Token :=
  keyTokens key ++ Sqlite.Token.comma :: [Sqlite.Token.blob bytes] ++ [Sqlite.Token.rightParen]

theorem scans_front :
    Sqlite.lexer.Scans .between "insert or replace into psm_data values(".toList frontTokens
      .between := by
  unfold Lexer.Scans
  decide +kernel

theorem isDigit_of_mem_toDigits {n : ℕ} :
    ∀ digit ∈ Nat.toDigits 10 n, digit.isDigit = true :=
  fun _ hmem ↦ Nat.isDigit_of_mem_toDigits (by decide) le_rfl hmem

/-- The key is read up to its last digit. -/
theorem scans_key (key : ℤ) :
    ∃ sign, keyTokens key = sign ++ [Sqlite.Token.integer (Nat.toDigits 10 key.natAbs)] ∧
      Sqlite.lexer.Scans .between (pythonStr key) sign
        (.number (Nat.toDigits 10 key.natAbs)) := by
  obtain ⟨first, rest, hdigits⟩ :=
    List.exists_cons_of_ne_nil (Nat.toDigits_ne_nil : Nat.toDigits 10 key.natAbs ≠ [])
  have hisDigit : ∀ digit ∈ first :: rest, digit.isDigit = true :=
    hdigits ▸ isDigit_of_mem_toDigits
  rw [keyTokens, pythonStr, hdigits]
  by_cases hnegative : key < 0
  · rw [if_pos hnegative, if_pos hnegative]
    exact ⟨[.minus], rfl, Sqlite.scans_minus_digits hisDigit⟩
  · rw [if_neg hnegative, if_neg hnegative]
    exact ⟨[], rfl, Sqlite.scans_digits hisDigit⟩

/-- The comma ends the key, and the blob literal is opened. -/
theorem scans_separator (digits : List Char) :
    Sqlite.lexer.Scans (.number digits) ", X'".toList [.integer digits, .comma] (.blob []) := by
  rw [show ", X'".toList = [',', ' ', 'X', '\''] from String.toList_ofList]
  rfl

/-- The tokens of the whole text. -/
theorem lex_inputText (key : ℤ) (value : ValueArgument) :
    Sqlite.lexer.lex (inputText key value) =
      some (frontTokens ++ valueTokens key value.bytes ++ [Sqlite.Token.semicolon]) := by
  obtain ⟨sign, hsign, hkey⟩ := scans_key key
  have hblob := Sqlite.scans_blob value.bytes
  have hend : Sqlite.lexer.Scans .between [')', ';'] [.rightParen, .semicolon] .between := by
    unfold Lexer.Scans
    decide +kernel
  have htext := ((scans_front.append hkey).append (scans_separator _)).append (hblob.append hend)
  have hclosing : blobData value ++ "');".toList =
      hexEncode value.bytes ++ ['\''] ++ [')', ';'] := by
    rw [blobData_eq, show "');".toList = ['\'', ')', ';'] from String.toList_ofList,
      List.append_assoc]
    rfl
  have hfinish : Sqlite.lexer.finish .between = some [] := rfl
  calc Sqlite.lexer.lex (inputText key value)
      = Sqlite.lexer.lex ("insert or replace into psm_data values(".toList ++ pythonStr key ++
          ", X'".toList ++ (hexEncode value.bytes ++ ['\''] ++ [')', ';'])) :=
        congrArg _ ((List.append_assoc _ _ _).trans (congrArg _ hclosing))
    _ = some _ := htext.lex_eq hfinish
    _ = some (frontTokens ++ valueTokens key value.bytes ++ [Sqlite.Token.semicolon]) := by
        rw [valueTokens, hsign]
        simp only [List.append_assoc, List.cons_append, List.nil_append, List.append_nil]

/-! ## The statement of the text -/

theorem parseLiteral_keyTokens (key : ℤ) :
    Sqlite.parseLiteral (keyTokens key) = some (Sqlite.numeral key) := by
  rw [keyTokens]
  split_ifs with hnegative
  · rw [Sqlite.parseLiteral, Nat.ofDigitChars_ten_toDigits, Int.ofNat_natAbs_of_nonpos hnegative.le,
      neg_neg]
  · rw [Sqlite.parseLiteral, Nat.ofDigitChars_ten_toDigits,
      Int.natAbs_of_nonneg (not_lt.mp hnegative)]

theorem comma_not_mem_keyTokens (key : ℤ) : Sqlite.Token.comma ∉ keyTokens key := by
  rw [keyTokens]
  split_ifs
  · simp
  · simp

theorem semicolon_not_mem (key : ℤ) (bytes : List UInt8) :
    Sqlite.Token.semicolon ∉ frontTokens ++ valueTokens key bytes := by
  rw [valueTokens, keyTokens, frontTokens]
  split_ifs
  · simp
  · simp

theorem parseStatement_front (rest : List Sqlite.Token) :
    Sqlite.parseStatement (frontTokens ++ rest) =
      (Sqlite.parseValues rest).map (.insertOrReplace psmData) := by
  have hwords : (Sqlite.isKeyword "insert" "insert".toList && Sqlite.isKeyword "or" "or".toList &&
      Sqlite.isKeyword "replace" "replace".toList && Sqlite.isKeyword "into" "into".toList &&
      Sqlite.isKeyword "values" "values".toList) = true := by
    decide +kernel
  rw [frontTokens]
  simp only [List.cons_append, List.nil_append, Sqlite.parseStatement]
  exact if_pos hwords

theorem newline_not_mem_pythonStr (key : ℤ) : '\n' ∉ pythonStr key := by
  have hdigits : '\n' ∉ Nat.toDigits 10 key.natAbs := fun hmem ↦
    absurd (isDigit_of_mem_toDigits _ hmem) (by decide)
  rw [pythonStr]
  split_ifs
  · simp [hdigits]
  · exact hdigits

theorem newline_not_mem_blobData (value : ValueArgument) : '\n' ∉ blobData value := by
  intro hmem
  rw [blobData_eq] at hmem
  exact absurd (isSome_hexValue_of_mem hmem) (by decide)

theorem head?_inputText (key : ℤ) (value : ValueArgument) :
    (inputText key value).head? = some 'i' := by
  have hfirst : ∀ front second third fourth last : List Char, front.head? = some 'i' →
      (front ++ second ++ third ++ fourth ++ last).head? = some 'i' := by
    intro front second third fourth last hfront
    rw [List.head?_append, List.head?_append, List.head?_append, List.head?_append, hfront]
    rfl
  apply hfirst
  decide +kernel

theorem newline_not_mem_inputText (key : ℤ) (value : ValueArgument) :
    '\n' ∉ inputText key value := by
  have hfive : ∀ first second third fourth last : List Char, '\n' ∉ first → '\n' ∉ second →
      '\n' ∉ third → '\n' ∉ fourth → '\n' ∉ last →
      '\n' ∉ first ++ second ++ third ++ fourth ++ last := by
    intro first second third fourth last hfirst hsecond hthird hfourth hlast
    simp only [List.mem_append, not_or]
    exact ⟨⟨⟨⟨hfirst, hsecond⟩, hthird⟩, hfourth⟩, hlast⟩
  apply hfive
  · decide +kernel
  · exact newline_not_mem_pythonStr key
  · decide +kernel
  · exact newline_not_mem_blobData value
  · decide +kernel

/-- The shell takes the text for SQL: it is one line and does not start like a command. -/
theorem readLine_eq_lex (key : ℤ) (value : ValueArgument) :
    Sqlite.readLine (inputText key value) =
      (Sqlite.lexer.lex (inputText key value)).bind Sqlite.parseStatements := by
  rw [Sqlite.readLine, if_neg]
  rw [head?_inputText]
  simp [newline_not_mem_inputText]

/-- Every text is one `insert or replace` with the bytes of the value, whatever is in them. -/
theorem readLine_inputText (key : ℤ) (value : ValueArgument) :
    Sqlite.readLine (inputText key value) =
      some [.insertOrReplace psmData [Sqlite.numeral key, .blob value.bytes]] := by
  have hvalues : Sqlite.parseValues (valueTokens key value.bytes) =
      some [Sqlite.numeral key, .blob value.bytes] :=
    Sqlite.parseValues_pair (parseLiteral_keyTokens key) rfl (comma_not_mem_keyTokens key) (by simp)
  have hstatement := (parseStatement_front (valueTokens key value.bytes)).trans
    (congrArg _ hvalues)
  rw [readLine_eq_lex, lex_inputText, Option.bind_some]
  exact Sqlite.parseStatements_single hstatement (semicolon_not_mem key value.bytes)

/-! ## Accepted keys -/

theorem readLine_eq_iff (index : ℤ) (value : ValueArgument) :
    Sqlite.readLine (inputText index value) =
        some [.insertOrReplace psmData [.integer index, .blob value.bytes]] ↔
      Sqlite.IsInt64 index := by
  rw [readLine_inputText, Sqlite.numeral]
  split_ifs with h
  · exact iff_of_true rfl h
  · apply iff_of_false _ h
    simp

/-- An index of a listed key fits in 64 bits. -/
theorem isInt64_of_listed {i : ℕ} (h : i < keyList.length) : Sqlite.IsInt64 (i : ℤ) := by
  rw [length_keyList] at h
  constructor
  · omega
  · omega

section CheckKey

variable [PythonRelease]

/-- For a key that is accepted, the text is one statement that stores the value under the key. -/
def Survives (key : List Char) (value : ValueArgument) : Prop :=
  ∀ index, checkKey key = some index →
    Sqlite.readLine (inputText index value) =
      some [.insertOrReplace psmData [.integer index, .blob value.bytes]]

/-- Where keys are resolved as documented, every value survives. -/
theorem survives_of_resolved {spelling : IndexSpelling} {key : List Char}
    (h : Resolved spelling key) (value : ValueArgument) : Survives key value := by
  intro index hindex
  obtain ⟨i, rfl, hlisted, -⟩ := h.listed index hindex
  exact (readLine_eq_iff _ _).mpr (isInt64_of_listed hlisted)

/-- The key and the value survive exactly when the key is a name, or `int` reads it as an integer
of 64 bits if at all. -/
theorem survives_iff (key : List Char) (value : ValueArgument) :
    Survives key value ↔
      (∃ i, NamesKey key i) ∨ ∀ index, pythonInt key = some index → Sqlite.IsInt64 index := by
  rcases checkKey_cases key with ⟨i, hcheck, hname⟩ | ⟨hcheck, hno⟩
  · apply iff_of_true
    · intro index hindex
      rw [hcheck] at hindex
      obtain rfl := Option.some.inj hindex
      exact (readLine_eq_iff _ _).mpr (isInt64_of_listed hname.lt)
    · exact .inl ⟨i, hname⟩
  · rw [Survives, hcheck]
    constructor
    · intro h
      right
      intro index hindex
      exact (readLine_eq_iff _ _).mp (h index hindex)
    · rintro (⟨i, hname⟩ | hrange) index hindex
      · exact absurd hname (hno i)
      · exact (readLine_eq_iff _ _).mpr (hrange index hindex)

end CheckKey

/-- The first integer that does not fit in 64 bits is a key, and is read as a floating-point
number. -/
theorem not_survives_9223372036854775808 :
    ¬ @Survives asciiRelease "9223372036854775808".toList (.value "1") := by
  have hcheck : @checkKey asciiRelease "9223372036854775808".toList =
      some 9223372036854775808 := by
    rw [String.toList_ofList, @checkKey_of_digit asciiRelease _ _ rfl]
    decide +kernel
  intro h
  exact absurd ((readLine_eq_iff _ _).mp (h _ hcheck)) (by decide)

end EdgeDeviceCore.Psm
