import Mathlib.Tactic.Cases
import Mode2.Json.Token

/-!
# Rendered tokens are scanned back

Punctuation and strings end with their own last character. Words and numbers end
only where the text does or where a token of the first kind begins, so tokens are
scanned back from their text when no two of the second kind stand side by side.
-/

namespace Mode2.Json

/-! ## Digits -/

namespace Decimal

open Mode2.Decimal

theorem value?_digit {n : Nat} (h : n < 10) : value? (digit n) = some n := by
  have hall : ∀ n < 10, value? (digit n) = some n := by decide
  exact hall n h

end Decimal

/-! ## One character at a time -/

theorem scanFrom_cons {state next : ScanState} {c : Char} {tokens : List Token}
    (rest : List Char) (h : state.step c = some (next, tokens)) :
    scanFrom state (c :: rest) = (scanFrom next rest).map (tokens ++ ·) := by
  rw [scanFrom, h]
  cases hlater : scanFrom next rest <;> simp [hlater]

/-- A character inside a token delivers nothing. -/
theorem scanFrom_inside {state next : ScanState} {c : Char} (rest : List Char)
    (h : state.step c = some (next, [])) :
    scanFrom state (c :: rest) = scanFrom next rest := by
  rw [scanFrom_cons rest h]
  simp

/-! ## Where a word or a number ends -/

/-- The first characters of tokens that end themselves. -/
def delimiters : List Char :=
  ['\x7b', '\x7d', '[', ']', ':', ',', '"']

/-- A word or a number in front of `rest` ends there. -/
def StartsApart (rest : List Char) : Prop :=
  ∀ c ∈ rest.head?, c ∈ delimiters

/-- In this state `token` is complete as soon as something else begins. -/
structure Completes (state : ScanState) (token : Token) : Prop where
  finish : state.finish = some [token]
  step : ∀ c ∈ delimiters,
    state.step c = (begin? c).map fun (next, tokens) => (next, token :: tokens)

theorem Completes.scanFrom {state : ScanState} {token : Token} {rest : List Char}
    (h : Completes state token) (hrest : StartsApart rest) :
    scanFrom state rest = (scan rest).map (token :: ·) := by
  cases rest with
  | nil => exact h.finish
  | cons c rest =>
    have hstep := h.step c (hrest c rfl)
    rw [scan]
    cases hbegin : begin? c with
    | none =>
      rw [hbegin] at hstep
      have hbetween : ScanState.between.step c = none := hbegin
      simp [Json.scanFrom, hstep, hbetween]
    | some begun =>
      rw [hbegin] at hstep
      have hbetween : ScanState.between.step c = some begun := hbegin
      rw [scanFrom_cons rest hstep, scanFrom_cons rest hbetween]
      cases hlater : Json.scanFrom begun.1 rest <;> simp

theorem completes_word {letters : List Char} {token : Token}
    (h : wordToken? letters.reverse = some token) : Completes (.word letters) token := by
  refine ⟨by simp [ScanState.finish, h], fun c hc => ?_⟩
  have hlower : ∀ c ∈ delimiters, c.isLower = false := by
    simpa only [List.all_eq_true, Bool.not_eq_true'] using
      (by decide : (delimiters.all fun c => !c.isLower) = true)
  simp only [ScanState.step, hlower c hc, h, Bool.false_eq_true, if_false]
  cases begin? c <;> rfl

theorem scanFrom_word {letters : List Char} (read rest : List Char)
    (h : ∀ c ∈ letters, c.isLower) :
    scanFrom (.word read) (letters ++ rest) = scanFrom (.word (letters.reverse ++ read)) rest := by
  induction letters generalizing read with
  | nil => rfl
  | cons c letters ih =>
    have hstep : (ScanState.word read).step c = some (.word (c :: read), []) := by
      simp [ScanState.step, h c List.mem_cons_self]
    rw [List.cons_append, scanFrom_inside _ hstep,
      ih _ fun c hc => h c (List.mem_cons_of_mem _ hc)]
    simp

/-- The state after the digits of a number. -/
def digitsRead (n : Nat) : ScanState :=
  .number (if n = 0 then .zero false else .digits false n)

theorem completes_digitsRead (n : Nat) : Completes (digitsRead n) (.natural n) := by
  unfold digitsRead
  split
  case' isTrue h => subst h
  all_goals
    refine ⟨rfl, fun c hc => ?_⟩
    simp only [delimiters, List.mem_cons, List.not_mem_nil, or_false] at hc
    obtain rfl | rfl | rfl | rfl | rfl | rfl | rfl := hc <;> rfl

theorem begin?_digit {n : Nat} (h : n < 10) :
    begin? (Decimal.digit n) = some (digitsRead n, []) := by
  have hall : ∀ n < 10, begin? (Decimal.digit n) = some (digitsRead n, []) := by decide
  exact hall n h

/-- A further digit, after a number that is not zero. -/
theorem step_digit {m d : Nat} (hm : 0 < m) (hd : d < 10) :
    (digitsRead m).step (Decimal.digit d) = some (digitsRead (10 * m + d), []) := by
  have hvalue := Decimal.value?_digit hd
  unfold digitsRead
  rw [if_neg (by omega), if_neg (by omega)]
  simp [ScanState.step, NumberState.next, hvalue]

/-- The digits of a number leave the scanner at its end. -/
theorem scan_digits (n : Nat) (rest : List Char) :
    scan (Decimal.digits n ++ rest) = scanFrom (digitsRead n) rest := by
  induction n using Nat.strongRecOn generalizing rest with
  | ind n ih =>
    rw [Decimal.digits]
    split
    case isTrue hsmall => exact scanFrom_inside rest (begin?_digit hsmall)
    case isFalse hlarge =>
      have hlast := step_digit (m := n / 10) (d := n % 10) (by omega) (by omega)
      rw [Nat.div_add_mod] at hlast
      rw [List.append_assoc, ih (n / 10) (by omega)]
      exact scanFrom_inside rest hlast

/-! ## Strings -/

/-- A character that stands for itself in a string. -/
def IsPlain (c : Char) : Prop :=
  c ≠ '"' ∧ c ≠ '\\' ∧ 0x20 ≤ c.toNat

instance (c : Char) : Decidable (IsPlain c) :=
  inferInstanceAs (Decidable (_ ∧ _ ∧ _))

theorem scanFrom_text {letters : List Char} (units : List Nat) (rest : List Char)
    (h : ∀ c ∈ letters, IsPlain c) :
    scanFrom (.text units) (letters ++ '"' :: rest) =
      (scan rest).map (.text (units.reverse ++ letters.map Char.toNat) :: ·) := by
  induction letters generalizing units with
  | nil =>
    have hstep : (ScanState.text units).step '"' = some (.between, [.text units.reverse]) := rfl
    rw [List.nil_append, scanFrom_cons rest hstep]
    simp [scan]
  | cons c letters ih =>
    obtain ⟨hquote, hslash, hvisible⟩ := h c List.mem_cons_self
    have hstep : (ScanState.text units).step c = some (.text (c.toNat :: units), []) := by
      simp [ScanState.step, hquote, hslash, Nat.not_lt.mpr hvisible]
    rw [List.cons_append, scanFrom_inside _ hstep,
      ih _ fun c hc => h c (List.mem_cons_of_mem _ hc)]
    simp

/-! ## Tokens -/

/-- The token is scanned in front of anything, and ends what stands before it. -/
structure Delimits (token : Token) : Prop where
  apart : ∀ rest, StartsApart (token.render ++ rest)
  scan : ∀ rest, Json.scan (token.render ++ rest) = (Json.scan rest).map (token :: ·)

/-- The tokens are scanned in front of anything that starts apart. -/
def Scans (tokens : List Token) : Prop :=
  ∀ rest, StartsApart rest →
    scan (tokens.flatMap Token.render ++ rest) = (scan rest).map (tokens ++ ·)

/-- A token of one character that may stand between values. -/
theorem delimits_of_begin? {token : Token} {c : Char} (hrender : token.render = [c])
    (hc : c ∈ delimiters) (hbegin : begin? c = some (.between, [token])) : Delimits token := by
  refine ⟨fun rest => ?_, fun rest => ?_⟩
  · rw [hrender]
    intro c' hc'
    cases hc'
    exact hc
  · have hstep : ScanState.between.step c = some (.between, [token]) := hbegin
    rw [hrender]
    exact scanFrom_cons rest hstep

/-- The tokens of one character. -/
def punctuation : List Token :=
  [.openObject, .closeObject, .openArray, .closeArray, .colon, .comma]

theorem delimits_punctuation {token : Token} (h : token ∈ punctuation) : Delimits token := by
  simp only [punctuation, List.mem_cons, List.not_mem_nil, or_false] at h
  obtain rfl | rfl | rfl | rfl | rfl | rfl := h <;>
    exact delimits_of_begin? rfl (by decide) rfl

theorem delimits_text {letters : List Char} (h : ∀ c ∈ letters, IsPlain c) :
    Delimits (.text (letters.map Char.toNat)) := by
  have hrender : (Token.text (letters.map Char.toNat)).render = '"' :: letters ++ ['"'] := by
    simp [Token.render, Function.comp_def]
  refine ⟨fun rest => ?_, fun rest => ?_⟩
  · rw [hrender]
    intro c hc
    cases hc
    decide
  · rw [hrender, List.cons_append, List.cons_append, List.append_assoc, List.singleton_append]
    exact (scanFrom_inside _ rfl).trans (scanFrom_text [] rest h)

theorem scans_natural (n : Nat) : Scans [.natural n] := by
  intro rest hrest
  rw [List.flatMap_singleton]
  exact (scan_digits n rest).trans ((completes_digitsRead n).scanFrom hrest)

theorem scans_word {token : Token} {c : Char} {letters : List Char}
    (hrender : token.render = c :: letters) (hbegin : begin? c = some (.word [c], []))
    (hlower : ∀ c ∈ letters, c.isLower) (hword : wordToken? (c :: letters) = some token) :
    Scans [token] := by
  intro rest hrest
  have hdone : Completes (.word (letters.reverse ++ [c])) token :=
    completes_word (by simpa using hword)
  rw [List.flatMap_singleton, hrender]
  calc scan (c :: letters ++ rest)
      = scanFrom (.word [c]) (letters ++ rest) := scanFrom_inside _ hbegin
    _ = scanFrom (.word (letters.reverse ++ [c])) rest := scanFrom_word [c] rest hlower
    _ = (scan rest).map ([token] ++ ·) := hdone.scanFrom hrest

theorem scans_bool (value : Bool) : Scans [.bool value] := by
  cases value <;> exact scans_word rfl rfl (List.all_eq_true.mp (by decide)) rfl

namespace Scans

theorem nil : Scans [] := by
  intro rest _
  simp

theorem cons {token : Token} {tokens : List Token} (htoken : Delimits token)
    (h : Scans tokens) : Scans (token :: tokens) := by
  intro rest hrest
  rw [List.flatMap_cons, List.append_assoc, htoken.scan, h rest hrest]
  simp [Function.comp_def]

/-- What starts with a token that ends itself may follow anything. -/
theorem append_cons {before after : List Token} {token : Token} (hbefore : Scans before)
    (htoken : Delimits token) (hafter : Scans after) : Scans (before ++ token :: after) := by
  intro rest hrest
  have hapart : StartsApart ((token :: after).flatMap Token.render ++ rest) := by
    rw [List.flatMap_cons, List.append_assoc]
    exact htoken.apart _
  rw [List.flatMap_append, List.append_assoc, hbefore _ hapart,
    (cons htoken hafter) rest hrest]
  simp [Function.comp_def]

theorem scan {tokens : List Token} (h : Scans tokens) :
    scan (tokens.flatMap Token.render) = some tokens := by
  have happend := h [] (by intro c hc; cases hc)
  rw [List.append_nil] at happend
  rw [happend]
  simp [Json.scan, scanFrom, ScanState.finish]

end Scans

end Mode2.Json
