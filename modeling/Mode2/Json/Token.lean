import Mode2.Decimal

/-!
# JSON tokens

The text of a JSON document is scanned one character at a time by an automaton
whose state says what has been read of the current token. Strings are kept as the
code units that they spell, because a string that is only passed over may name
half of a surrogate pair. Of numbers only the natural ones keep their value.
-/

namespace Mode2.Json

/-- The units of a JSON text. -/
inductive Token
  | openObject
  | closeObject
  | openArray
  | closeArray
  | colon
  | comma
  | null
  | bool (value : Bool)
  /-- A number written with digits alone. -/
  | natural (value : Nat)
  /-- Any other number. -/
  | number
  /-- A string, by the code units that it spells. -/
  | text (units : List Nat)
deriving DecidableEq, Repr

/-- How far a number has been read. -/
inductive NumberState
  | minus
  | zero (negative : Bool)
  | digits (negative : Bool) (value : Nat)
  | point
  | fraction
  | exponent
  | exponentSign
  | exponentDigits
deriving DecidableEq, Repr

/-- How far the current token has been read. -/
inductive ScanState
  /-- Between tokens. -/
  | between
  /-- In a word; its letters, last first. -/
  | word (letters : List Char)
  | number (state : NumberState)
  /-- In a string; its code units, last first. -/
  | text (units : List Nat)
  /-- In a string, after a backslash. -/
  | escape (units : List Nat)
  /-- In a string, in the four hexadecimal digits of a code unit. -/
  | unit (units : List Nat) (digitsLeft : Nat) (value : Nat)
deriving DecidableEq, Repr

/-- Blank space between tokens. -/
def isBlank (c : Char) : Bool :=
  c == ' ' || c == '\n' || c == '\t' || c == '\r'

/-- The value of a hexadecimal digit. -/
def hexValue? (c : Char) : Option Nat :=
  if '0' ≤ c ∧ c ≤ '9' then some (c.toNat - 48)
  else if 'a' ≤ c ∧ c ≤ 'f' then some (c.toNat - 87)
  else if 'A' ≤ c ∧ c ≤ 'F' then some (c.toNat - 55)
  else none

/-- The code unit that a single-letter escape stands for. -/
def escapeUnit? : Char → Option Nat
  | '"' => some 34
  | '\\' => some 92
  | '/' => some 47
  | 'b' => some 8
  | 'f' => some 12
  | 'n' => some 10
  | 'r' => some 13
  | 't' => some 9
  | _ => none

/-- The token that a word stands for. -/
def wordToken? (letters : List Char) : Option Token :=
  if letters = ['t', 'r', 'u', 'e'] then some (.bool true)
  else if letters = ['f', 'a', 'l', 's', 'e'] then some (.bool false)
  else if letters = ['n', 'u', 'l', 'l'] then some .null
  else none

/-- The token of a number that ends here. -/
def NumberState.token? : NumberState → Option Token
  | .zero false => some (.natural 0)
  | .digits false value => some (.natural value)
  | .zero true | .digits true _ | .fraction | .exponentDigits => some .number
  | .minus | .point | .exponent | .exponentSign => none

/-- What a character does to a number: `some none` when the number ended before
it, `none` when no number continues so. -/
def NumberState.next (state : NumberState) (c : Char) : Option (Option NumberState) :=
  match state, Decimal.value? c with
  | .minus, some 0 => some (some (.zero true))
  | .minus, some d => some (some (.digits true d))
  | .zero _, some _ => none
  | .digits negative value, some d => some (some (.digits negative (10 * value + d)))
  | .point, some _ | .fraction, some _ => some (some .fraction)
  | .exponent, some _ | .exponentSign, some _ | .exponentDigits, some _ =>
      some (some .exponentDigits)
  | .zero _, none | .digits _ _, none =>
      if c = '.' then some (some .point)
      else if c = 'e' ∨ c = 'E' then some (some .exponent)
      else some none
  | .fraction, none =>
      if c = 'e' ∨ c = 'E' then some (some .exponent) else some none
  | .exponent, none =>
      if c = '+' ∨ c = '-' then some (some .exponentSign) else none
  | .exponentDigits, none => some none
  | .minus, none | .point, none | .exponentSign, none => none

/-- Between tokens: a character stands for itself or begins a longer token. -/
def begin? (c : Char) : Option (ScanState × List Token) :=
  if isBlank c then some (.between, [])
  else if c = '\x7b' then some (.between, [.openObject])
  else if c = '\x7d' then some (.between, [.closeObject])
  else if c = '[' then some (.between, [.openArray])
  else if c = ']' then some (.between, [.closeArray])
  else if c = ':' then some (.between, [.colon])
  else if c = ',' then some (.between, [.comma])
  else if c = '"' then some (.text [], [])
  else if c = '-' then some (.number .minus, [])
  else
    match Decimal.value? c with
    | some 0 => some (.number (.zero false), [])
    | some d => some (.number (.digits false d), [])
    | none => if c.isLower then some (.word [c], []) else none

/-- One character of the text: the next state and the tokens that are complete. -/
def ScanState.step (state : ScanState) (c : Char) : Option (ScanState × List Token) :=
  match state with
  | .between => begin? c
  | .word letters =>
      if c.isLower then some (.word (c :: letters), [])
      else do
        let token ← wordToken? letters.reverse
        let (state, tokens) ← begin? c
        return (state, token :: tokens)
  | .number part =>
      match part.next c with
      | some (some part) => some (.number part, [])
      | some none => do
          let token ← part.token?
          let (state, tokens) ← begin? c
          return (state, token :: tokens)
      | none => none
  | .text units =>
      if c = '"' then some (.between, [.text units.reverse])
      else if c = '\\' then some (.escape units, [])
      else if c.toNat < 0x20 then none
      else some (.text (c.toNat :: units), [])
  | .escape units =>
      if c = 'u' then some (.unit units 4 0, [])
      else (escapeUnit? c).map fun unit => (.text (unit :: units), [])
  | .unit units digitsLeft value => do
      let d ← hexValue? c
      match digitsLeft with
      | 0 | 1 => return (.text ((16 * value + d) :: units), [])
      | left + 1 => return (.unit units left (16 * value + d), [])

/-- The tokens still to be delivered when the text ends. -/
def ScanState.finish : ScanState → Option (List Token)
  | .between => some []
  | .word letters => (wordToken? letters.reverse).map fun token => [token]
  | .number part => part.token?.map fun token => [token]
  | .text _ | .escape _ | .unit _ _ _ => none

/-- The tokens of the rest of a text, read from a state of the scanner. -/
def scanFrom (state : ScanState) : List Char → Option (List Token)
  | [] => state.finish
  | c :: rest => do
      let (next, tokens) ← state.step c
      let later ← scanFrom next rest
      return tokens ++ later

/-- The tokens of a text; `none` when it is not made of tokens. -/
def scan (text : List Char) : Option (List Token) :=
  scanFrom .between text

/-- The characters that code units spell; `none` when a surrogate stands alone. -/
def decodeUnits : List Nat → Option (List Char)
  | [] => some []
  | [unit] =>
      if 0xD800 ≤ unit ∧ unit < 0xE000 then none else some [Char.ofNat unit]
  | unit :: next :: rest =>
      if 0xD800 ≤ unit ∧ unit < 0xDC00 then
        if 0xDC00 ≤ next ∧ next < 0xE000 then
          (decodeUnits rest).map
            (Char.ofNat (0x10000 + (unit - 0xD800) * 0x400 + (next - 0xDC00)) :: ·)
        else none
      else if 0xDC00 ≤ unit ∧ unit < 0xE000 then none
      else (decodeUnits (next :: rest)).map (Char.ofNat unit :: ·)

/-- How a token is written. Strings are written for plain text only, which needs no
escapes, and a number that is not natural has no fixed text. -/
def Token.render : Token → List Char
  | .openObject => ['\x7b']
  | .closeObject => ['\x7d']
  | .openArray => ['[']
  | .closeArray => [']']
  | .colon => [':']
  | .comma => [',']
  | .null => ['n', 'u', 'l', 'l']
  | .bool true => ['t', 'r', 'u', 'e']
  | .bool false => ['f', 'a', 'l', 's', 'e']
  | .natural value => Decimal.digits value
  | .number => ['-', '0']
  | .text units => '"' :: units.map Char.ofNat ++ ['"']

end Mode2.Json
