import EdgeDeviceCore.Data.Hex
import EdgeDeviceCore.Data.Lexing

/-!
# What `sqlite3` reads

The part of the SQL of SQLite that a text of `insert` statements can use: words, integer and blob
literals, the minus sign, and comments, which a second minus sign opens. A text with anything else
in it is not read at all.
-/

namespace EdgeDeviceCore.Platform.Sqlite

open EdgeDeviceCore.Data

inductive Token where
  | word (text : List Char)
  | integer (digits : List Char)
  | blob (bytes : List UInt8)
  | minus
  | leftParen
  | rightParen
  | comma
  | semicolon
  deriving DecidableEq, Repr

/-- What is being read. -/
inductive Reading where
  | between
  | word (text : List Char)
  /-- The letter that may open a blob literal. -/
  | introducer (letter : Char)
  | number (digits : List Char)
  | blob (digits : List Char)
  /-- The sign that may open a comment. -/
  | minus
  | comment
  deriving DecidableEq, Repr

def isSpace (character : Char) : Bool :=
  character = ' ' || character = '\t' || character = '\n' || character = '\r' ||
    character.toNat = 12

def isWordCharacter (character : Char) : Bool :=
  character.isAlphanum || character = '_'

/-- The first character of a token, or a space. -/
def start (character : Char) : Option (List Token × Reading) :=
  if isSpace character then some ([], .between)
  else if character = '(' then some ([.leftParen], .between)
  else if character = ')' then some ([.rightParen], .between)
  else if character = ',' then some ([.comma], .between)
  else if character = ';' then some ([.semicolon], .between)
  else if character = '-' then some ([], .minus)
  else if character = 'x' ∨ character = 'X' then some ([], .introducer character)
  else if character.isDigit then some ([], .number [character])
  else if isWordCharacter character then some ([], .word [character])
  else none

/-- A character that closes a token and is the first one of what follows. -/
def startAfter (closed : List Token) (character : Char) : Option (List Token × Reading) :=
  (start character).map fun (tokens, reading) ↦ (closed ++ tokens, reading)

def readWord (text : List Char) (character : Char) : Option (List Token × Reading) :=
  if isWordCharacter character then some ([], .word (text ++ [character]))
  else startAfter [.word text] character

def readCharacter : Reading → Char → Option (List Token × Reading)
  | .between, character => start character
  | .word text, character => readWord text character
  | .introducer letter, character =>
      if character = '\'' then some ([], .blob []) else readWord [letter] character
  | .number digits, character =>
      if character.isDigit then some ([], .number (digits ++ [character]))
      -- Fractions, exponents and numbers of another base are not read.
      else if isWordCharacter character ∨ character = '.' then none
      else startAfter [.integer digits] character
  | .blob digits, character =>
      if character = '\'' then (hexDecode digits).map fun bytes ↦ ([.blob bytes], .between)
      else if (hexValue character).isSome then some ([], .blob (digits ++ [character]))
      else none
  | .minus, character =>
      if character = '-' then some ([], .comment)
      else if character = '>' then none
      else startAfter [.minus] character
  | .comment, character => some ([], if character = '\n' then .between else .comment)

def finishReading : Reading → Option (List Token)
  | .between | .comment => some []
  | .word text => some [.word text]
  | .introducer letter => some [.word [letter]]
  | .number digits => some [.integer digits]
  | .minus => some [.minus]
  | .blob _ => none

@[simps]
def lexer : Lexer Reading Char Token where
  initial := .between
  step := readCharacter
  finish := finishReading

theorem start_of_isDigit {digit : Char} (h : digit.isDigit = true) :
    start digit = some ([], .number [digit]) := by
  have hne : ∀ other : Char, other.isDigit = false → digit ≠ other := by
    rintro other hother rfl
    exact Bool.false_ne_true (hother.symm.trans h)
  have hspace : isSpace digit = false := by
    have htwelve : digit.toNat ≠ 12 := fun heq ↦
      hne (Char.ofNat 12) rfl (by rw [← heq, Char.ofNat_toNat])
    simp [isSpace, hne _ _, htwelve]
  simp [start, hspace, hne _ _, h]

/-- More digits belong to the number that is being read. -/
theorem scans_number (read : List Char) {digits : List Char}
    (h : ∀ digit ∈ digits, digit.isDigit = true) :
    lexer.Scans (.number read) digits [] (.number (read ++ digits)) := by
  apply Lexer.Scans.collect
  intro read digit hmem
  rw [lexer_step, readCharacter, if_pos (h digit hmem)]

theorem scans_digits {first : Char} {rest : List Char}
    (h : ∀ digit ∈ first :: rest, digit.isDigit = true) :
    lexer.Scans .between (first :: rest) [] (.number (first :: rest)) := by
  have hfirst : lexer.step .between first = some ([], .number [first]) :=
    start_of_isDigit (h first (List.mem_cons_self ..))
  have hrest := scans_number [first] fun digit hmem ↦ h digit (List.mem_cons_of_mem _ hmem)
  exact Lexer.Scans.cons hfirst hrest

/-- A minus sign in front of a number opens no comment. -/
theorem scans_minus_digits {first : Char} {rest : List Char}
    (h : ∀ digit ∈ first :: rest, digit.isDigit = true) :
    lexer.Scans .between ('-' :: first :: rest) [.minus] (.number (first :: rest)) := by
  have hdigit := h first (List.mem_cons_self ..)
  have hminus : first ≠ '-' := by
    rintro rfl
    exact absurd hdigit (by decide)
  have harrow : first ≠ '>' := by
    rintro rfl
    exact absurd hdigit (by decide)
  have hsign : lexer.step .between '-' = some ([], .minus) := rfl
  have hfirst : lexer.step .minus first = some ([.minus], .number [first]) := by
    rw [lexer_step, readCharacter, if_neg hminus, if_neg harrow, startAfter,
      start_of_isDigit hdigit]
    rfl
  have hrest := scans_number [first] fun digit hmem ↦ h digit (List.mem_cons_of_mem _ hmem)
  exact Lexer.Scans.cons hsign (Lexer.Scans.cons hfirst hrest)

/-- The quote closes the blob literal and nothing before it does. -/
theorem scans_blob (bytes : List UInt8) :
    lexer.Scans (.blob []) (hexEncode bytes ++ ['\'']) [.blob bytes] .between := by
  have hdigits : lexer.Scans (.blob []) (hexEncode bytes) [] (.blob (hexEncode bytes)) := by
    apply Lexer.Scans.collect
    intro read digit hmem
    have hvalue := isSome_hexValue_of_mem hmem
    have hquote : digit ≠ '\'' := by
      rintro rfl
      exact absurd hvalue (by decide)
    rw [lexer_step, readCharacter, if_neg hquote, if_pos hvalue]
  have hclose : lexer.step (.blob (hexEncode bytes)) '\'' = some ([.blob bytes], .between) := by
    rw [lexer_step, readCharacter, if_pos rfl, hexDecode_hexEncode, Option.map_some]
  exact hdigits.append (.single hclose)

/-! ## Statements -/

def IsInt64 (value : ℤ) : Prop :=
  -2 ^ 63 ≤ value ∧ value < 2 ^ 63

instance (value : ℤ) : Decidable (IsInt64 value) :=
  inferInstanceAs (Decidable (_ ∧ _))

inductive Value where
  | integer (value : ℤ)
  /-- The floating-point number nearest to an integer. -/
  | real (value : ℤ)
  | blob (bytes : List UInt8)
  deriving DecidableEq, Repr

/-- A literal that does not fit in 64 bits is a floating-point number. -/
def numeral (value : ℤ) : Value :=
  if IsInt64 value then .integer value else .real value

inductive Statement where
  | insertOrReplace (table : List Char) (values : List Value)
  deriving DecidableEq, Repr

/-- Keywords are read in either case. -/
def isKeyword (keyword : String) (text : List Char) : Bool :=
  text.map Char.toLower = keyword.toList

def parseLiteral : List Token → Option Value
  | [.integer digits] => some (numeral (Nat.ofDigitChars 10 digits 0 : ℕ))
  | [.minus, .integer digits] => some (numeral (-(Nat.ofDigitChars 10 digits 0 : ℕ)))
  | [.blob bytes] => some (.blob bytes)
  | _ => none

/-- The literals of a list up to the parenthesis that closes it. -/
def parseValues (tokens : List Token) : Option (List Value) :=
  if tokens.getLast? = some .rightParen then
    (tokens.dropLast.splitOn .comma).mapM parseLiteral
  else none

def parseStatement : List Token → Option Statement
  | .word insertWord :: .word orWord :: .word replaceWord :: .word intoWord :: .word table ::
      .word valuesWord :: .leftParen :: rest =>
      if isKeyword "insert" insertWord && isKeyword "or" orWord &&
          isKeyword "replace" replaceWord && isKeyword "into" intoWord &&
          isKeyword "values" valuesWord then
        (parseValues rest).map (.insertOrReplace table)
      else none
  | _ => none

/-- The statements between the semicolons; nothing between two of them is no statement. -/
def parseStatements (tokens : List Token) : Option (List Statement) :=
  ((tokens.splitOn .semicolon).filter (· ≠ [])).mapM parseStatement

theorem parseValues_pair {first second : List Token} {firstValue secondValue : Value}
    (hfirst : parseLiteral first = some firstValue)
    (hsecond : parseLiteral second = some secondValue)
    (hfirstComma : .comma ∉ first) (hsecondComma : .comma ∉ second) :
    parseValues (first ++ .comma :: second ++ [.rightParen]) = some [firstValue, secondValue] := by
  rw [parseValues, if_pos List.getLast?_concat, List.dropLast_concat,
    List.splitOn_append_cons_self_of_not_mem hfirstComma, List.splitOn_eq_singleton hsecondComma]
  simp [hfirst, hsecond]

/-- Tokens without a semicolon are one statement when a semicolon ends them. -/
theorem parseStatements_single {body : List Token} {statement : Statement}
    (hstatement : parseStatement body = some statement) (hsemicolon : .semicolon ∉ body) :
    parseStatements (body ++ [.semicolon]) = some [statement] := by
  have hne : body ≠ [] := by
    rintro rfl
    cases hstatement
  rw [parseStatements, List.splitOn_append_cons_self_of_not_mem hsemicolon, List.splitOn_nil]
  simp [hne, hstatement]

/-- One line on the standard input of `sqlite3`. Lines that start with a dot or `#` are not SQL. -/
def readLine (line : List Char) : Option (List Statement) :=
  if line.head? = some '.' ∨ line.head? = some '#' ∨ '\n' ∈ line then none
  else (lexer.lex line).bind parseStatements

/-- A value that closed its literal would add a statement. -/
example :
    readLine "insert or replace into t values(X'00');insert or replace into t values(-2);".toList =
      some [.insertOrReplace ['t'] [.blob [0]], .insertOrReplace ['t'] [.integer (-2)]] := by
  decide +kernel

end EdgeDeviceCore.Platform.Sqlite
