/-!
# Texts between quotes

How a text is written between quotes, and what the characters between two quotes stand for. What
is written reads back.
-/

namespace CustodyBridge.Json

def isControl (c : Char) : Bool := c.toNat < 0x20

/-! ## Writing -/

/-- Quotes, backslashes and control characters are escaped. -/
def mustEscape (c : Char) : Bool := c = '"' || c = '\\' || isControl c

/-- A character inside quotes. -/
def escapeChar (c : Char) : List Char :=
  if c = '"' then ['\\', '"']
  else if c = '\\' then ['\\', '\\']
  else if mustEscape c then
    ['\\', 'u', '0', '0', Nat.digitChar (c.toNat / 16), Nat.digitChar (c.toNat % 16)]
  else [c]

/-- The text between quotation marks, with all escapes that it needs. -/
def quote (s : String) : List Char := '"' :: s.toList.flatMap escapeChar ++ ['"']

/-! ## Code units -/

def hexValue? (c : Char) : Option Nat :=
  if '0' ≤ c ∧ c ≤ '9' then some (c.toNat - '0'.toNat)
  else if 'a' ≤ c ∧ c ≤ 'f' then some (c.toNat - 'a'.toNat + 10)
  else if 'A' ≤ c ∧ c ≤ 'F' then some (c.toNat - 'A'.toNat + 10)
  else none

/-- The code unit of 16 bits that four digits denote. -/
def codeUnit? (a b c d : Char) : Option Nat := do
  return 0x1000 * (← hexValue? a) + 0x100 * (← hexValue? b) + 0x10 * (← hexValue? c) +
    (← hexValue? d)

/-- Two code units may denote one character together: the first half, and the second. -/
def isFirstHalf (unit : Nat) : Bool := 0xd800 ≤ unit && unit < 0xdc00

def isSecondHalf (unit : Nat) : Bool := 0xdc00 ≤ unit && unit < 0xe000

/-- The character of a first and a second half. -/
def pairChar (first second : Nat) : Char :=
  Char.ofNat (0x10000 + 0x400 * (first - 0xd800) + (second - 0xdc00))

/-! ## Reading -/

/-- The character that a letter stands for behind a backslash. -/
def escaped? : Char → Option Char
  | '"' => some '"'
  | '\\' => some '\\'
  | '/' => some '/'
  | 'b' => some '\x08'
  | 'f' => some '\x0c'
  | 'n' => some '\n'
  | 'r' => some '\r'
  | 't' => some '\t'
  | _ => none

/-- Reads escapes and plain characters. While a first half waits for its second half there may be
other escapes, but no plain character. Control characters are never plain. -/
def unescape (waiting? : Option Nat) : List Char → Option (List Char)
  | [] => if waiting?.isNone then some [] else none
  | '\\' :: 'u' :: a :: b :: c :: d :: rest => do
    let unit ← codeUnit? a b c d
    if isFirstHalf unit then
      if waiting?.isNone then unescape (some unit) rest else none
    else if isSecondHalf unit then
      return pairChar (← waiting?) unit :: (← unescape none rest)
    else return Char.ofNat unit :: (← unescape waiting? rest)
  | '\\' :: c :: rest => do
    return (← escaped? c) :: (← unescape waiting? rest)
  | c :: rest =>
    if c = '\\' || isControl c || waiting?.isSome then none
    else (unescape none rest).map (c :: ·)

def hasEscape (raw : List Char) : Bool := raw.contains '\\'

/-- What stands between two quotes. Without an escape every character is plain. -/
def unquote (raw : List Char) : Option (List Char) :=
  if hasEscape raw then unescape none raw else some raw

/-! ## What is written reads back -/

theorem codeUnit?_digitChar {n : Nat} (h : n < 0x20) :
    codeUnit? '0' '0' (Nat.digitChar (n / 16)) (Nat.digitChar (n % 16)) = some n :=
  (by decide : ∀ n < 0x20,
    codeUnit? '0' '0' (Nat.digitChar (n / 16)) (Nat.digitChar (n % 16)) = some n) n h

theorem unescape_escapeChar (c : Char) (rest : List Char) :
    unescape none (escapeChar c ++ rest) = (unescape none rest).map (c :: ·) := by
  by_cases hq : c = '"'
  · subst hq
    cases h : unescape none rest <;> simp [escapeChar, unescape, escaped?, h]
  by_cases hb : c = '\\'
  · subst hb
    cases h : unescape none rest <;> simp [escapeChar, unescape, escaped?, h]
  by_cases hc : isControl c = true
  · have hn : c.toNat < 0x20 := by simpa [isControl] using hc
    have h1 : isFirstHalf c.toNat = false := by simp [isFirstHalf]; omega
    have h2 : isSecondHalf c.toNat = false := by simp [isSecondHalf]; omega
    cases h : unescape none rest <;>
      simp [escapeChar, mustEscape, hq, hb, hc, unescape, codeUnit?_digitChar hn, h1, h2, h]
  · simp [escapeChar, mustEscape, hq, hb, hc, unescape]

theorem unescape_flatMap_escapeChar (cs : List Char) :
    unescape none (cs.flatMap escapeChar) = some cs := by
  induction cs with
  | nil => rfl
  | cons c rest ih => simp [unescape_escapeChar, ih]

theorem unquote_flatMap_escapeChar (cs : List Char) :
    unquote (cs.flatMap escapeChar) = some cs := by
  unfold unquote
  split
  · exact unescape_flatMap_escapeChar cs
  · next h =>
    congr 1
    induction cs with
    | nil => rfl
    | cons c rest ih =>
      simp only [hasEscape, List.flatMap_cons, List.contains_eq_mem, List.mem_append,
        decide_eq_true_eq, not_or] at h ih
      have hc : escapeChar c = [c] := by
        by_cases hq : c = '"'
        · subst hq; simp [escapeChar] at h
        by_cases hb : c = '\\'
        · subst hb; simp [escapeChar] at h
        by_cases hm : isControl c = true
        · simp [escapeChar, mustEscape, hq, hb, hm] at h
        · simp [escapeChar, mustEscape, hq, hb, hm]
      simp [hc, ih h.2]

end CustodyBridge.Json
