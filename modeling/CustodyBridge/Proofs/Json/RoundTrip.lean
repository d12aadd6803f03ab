import CustodyBridge.Json.Reader
import Mathlib.Data.List.Basic

/-!
# What is written as JSON reads back

The reader takes the text of a value from any place where a value may start, and puts the value
there. It is the same value again when it has the form that values are written in.
-/

namespace CustodyBridge.Json

/-! ## Values as they are written -/

/-- A word with no mark, quote or blank in it. -/
def PlainWord (w : String) : Prop := w.toList ≠ [] ∧ ∀ c ∈ w.toList, c.isAlphanum = true

mutual

/-- A value in the form that is written, with at most `room` containers inside one another. -/
def Plain : Json → (room : Nat) → Prop
  | word w, _ => PlainWord w
  | text s escaped, _ => escaped = s.toList.any mustEscape
  | array _ _, 0 => False
  | array items slack, room + 1 => slack = false ∧ PlainItems items room
  | object _, 0 => False
  | object fields, room + 1 => PlainFields fields room

def PlainItems : List Json → (room : Nat) → Prop
  | [], _ => True
  | item :: rest, room => item.Plain room ∧ PlainItems rest room

def PlainFields : List (String × Json) → (room : Nat) → Prop
  | [], _ => True
  | (_, value) :: rest, room => value.Plain room ∧ PlainFields rest room

end

/-! ## Characters -/

theorem not_isBlank_of_isAlphanum {c : Char} (h : c.isAlphanum = true) : isBlank c = false := by
  by_contra hb
  simp only [isBlank, Bool.or_eq_true, decide_eq_true_eq, Bool.not_eq_false] at hb
  rcases hb with ((rfl | rfl) | rfl) | rfl <;> revert h <;> decide

theorem not_endsWord_of_isAlphanum {c : Char} (h : c.isAlphanum = true) : endsWord c = false := by
  by_contra hb
  simp only [endsWord, Bool.or_eq_true, decide_eq_true_eq, Bool.not_eq_false] at hb
  rcases hb with (rfl | rfl) | rfl <;> revert h <;> decide

theorem isBlank_eq_false_of_endsWord {c : Char} (h : endsWord c = true) : isBlank c = false := by
  simp only [endsWord, Bool.or_eq_true, decide_eq_true_eq] at h
  rcases h with (rfl | rfl) | rfl <;> decide

structure StartsValue (c : Char) : Prop where
  not_blank : isBlank c = false
  not_mark : endsWord c = false

theorem StartsValue.ne_mark {c : Char} (h : StartsValue c) : c ≠ ',' ∧ c ≠ ']' ∧ c ≠ '\x7d' := by
  refine ⟨?_, ?_, ?_⟩ <;> rintro rfl <;> exact absurd h.not_mark (by decide)

namespace Reader

-- texts are read by simplification, one character after the other
attribute [local simp] run step take

theorem run_append (r : Reader) (xs ys : List Char) :
    r.run (xs ++ ys) = (r.run xs).bind fun next => next.run ys := by
  induction xs generalizing r with
  | nil => rfl
  | cons c xs ih =>
    simp only [List.cons_append, run]
    cases r.step c with
    | none => rfl
    | some next => exact ih next

/-! ## Words -/

theorem start_word (frames : List Frame) {c : Char} (h : c.isAlphanum = true) :
    start frames c = some (.word frames [c]) := by
  have hc : c ≠ '"' ∧ c ≠ '[' ∧ c ≠ '\x7b' := by
    refine ⟨?_, ?_, ?_⟩ <;> rintro rfl <;> revert h <;> decide
  simp [start, hc.1, hc.2.1, hc.2.2, not_endsWord_of_isAlphanum h]

theorem run_word (frames : List Frame) (raw : List Char) {cs : List Char}
    (h : ∀ c ∈ cs, c.isAlphanum = true) :
    (Reader.word frames raw).run cs = some (.word frames (cs.reverse ++ raw)) := by
  induction cs generalizing raw with
  | nil => rfl
  | cons c cs ih =>
    have hc := not_endsWord_of_isAlphanum (h c List.mem_cons_self)
    simp only [run, step, hc, Bool.false_eq_true, ↓reduceIte, Option.bind_some]
    rw [ih (c :: raw) fun d hd => h d (List.mem_cons_of_mem _ hd)]
    simp

theorem putWord_reverse (frames : List Frame) {w : String} (h : PlainWord w) :
    putWord w.toList.reverse frames = put (.word w) frames := by
  unfold putWord
  have hlast : w.toList.reverse.dropWhile isBlank = w.toList.reverse := by
    cases hr : w.toList.reverse with
    | nil => rfl
    | cons c cs =>
      have hc : c ∈ w.toList := by
        rw [← List.mem_reverse, hr]
        exact List.mem_cons_self
      rw [List.dropWhile_cons_of_neg]
      simp [not_isBlank_of_isAlphanum (h.2 c hc)]
  rw [hlast, List.reverse_reverse, String.ofList_toList]

/-! ## Texts -/

theorem run_escapeChar (frames : List Frame) (raw rest : List Char) (c : Char) :
    (Reader.text frames raw false).run (escapeChar c ++ rest) =
      (Reader.text frames ((escapeChar c).reverse ++ raw) false).run rest := by
  unfold escapeChar
  split
  · simp
  · split
    · simp
    · split
      · next hc =>
        have hlow : c.toNat < 0x20 := by simpa [mustEscape, isControl, *] using hc
        have digits : ∀ n < 0x20, (Nat.digitChar (n / 16) ≠ '"' ∧ Nat.digitChar (n / 16) ≠ '\\') ∧
            Nat.digitChar (n % 16) ≠ '"' ∧ Nat.digitChar (n % 16) ≠ '\\' := by decide
        obtain ⟨⟨h1, h2⟩, h3, h4⟩ := digits _ hlow
        simp [h1, h2, h3, h4]
      · simp [*]

theorem run_escaped (frames : List Frame) (raw rest cs : List Char) :
    (Reader.text frames raw false).run (cs.flatMap escapeChar ++ rest) =
      (Reader.text frames ((cs.flatMap escapeChar).reverse ++ raw) false).run rest := by
  induction cs generalizing raw with
  | nil => rfl
  | cons c cs ih =>
    rw [List.flatMap_cons, List.append_assoc, run_escapeChar, ih]
    simp

theorem hasEscape_escaped (cs : List Char) :
    hasEscape (cs.flatMap escapeChar) = cs.any mustEscape := by
  induction cs with
  | nil => rfl
  | cons c cs ih =>
    have hc : (escapeChar c).contains '\\' = mustEscape c := by
      unfold escapeChar
      split
      · next h => simp [h, mustEscape]
      · split
        · next h => simp [h, mustEscape]
        · split
          · next h => simp [h]
          · next h h' hm => simpa [hm] using fun e => h' e.symm
    simp only [hasEscape, List.flatMap_cons, List.contains_eq_mem, List.mem_append,
      List.any_cons] at ih hc ⊢
    rw [← ih, ← hc, Bool.decide_or]

/-- Reads a value whose first character has not been taken yet. -/
def startRun (frames : List Frame) : List Char → Option Reader
  | [] => none
  | c :: cs => (start frames c).bind fun next => next.run cs

theorem startRun_quote (frames : List Frame) (s : String) (rest : List Char) :
    startRun frames (quote s ++ rest) =
      (put (.text s (s.toList.any mustEscape)) frames).bind fun next => next.run rest := by
  have hstart : start frames '"' = some (.text frames [] false) := rfl
  simp only [quote, List.append_assoc, List.cons_append, List.nil_append, startRun, hstart,
    Option.bind_some]
  rw [run_escaped, List.append_nil]
  have hescape : hasEscape (s.toList.flatMap escapeChar).reverse = s.toList.any mustEscape := by
    rw [← hasEscape_escaped]
    simp [hasEscape]
  simp [putText, unquote_flatMap_escapeChar, hescape]

/-! ## Values -/

/-- What the reader is behind a value. A word is put only when the next mark ends it. -/
def behind (j : Json) (frames : List Frame) : Option Reader :=
  match j with
  | .word w => some (.word frames w.toList.reverse)
  | j => put j frames

theorem behind_run_mark {j : Json} {room : Nat} (h : j.Plain room) (frames : List Frame) {c : Char}
    (hc : endsWord c = true) (rest : List Char) :
    ((behind j frames).bind fun next => next.run (c :: rest)) =
      ((put j frames).bind fun next => next.take c).bind fun next => next.run rest := by
  have hblank := isBlank_eq_false_of_endsWord hc
  have hput : ∀ r, put j frames = some r → r.step c = r.take c := by
    intro r hr
    cases frames with
    | nil => cases hr; simp [hblank]
    | cons f frames =>
      cases f with
      | items => cases hr; simp [hblank]
      | name =>
        cases j with
        | text => cases hr; simp [hblank]
        | word | array | object => cases hr
      | field => cases hr; simp [hblank]
  cases j with
  | word w =>
    simp only [behind, Option.bind_some, run, step, hc, ↓reduceIte]
    rw [putWord_reverse frames (by simpa [Plain] using h)]
  | text | array | object =>
    simp only [behind]
    cases hp : put _ frames with
    | none => rfl
    | some r => simp only [Option.bind_some, run, hput r hp]

theorem exists_chars_cons {j : Json} {room : Nat} (h : j.Plain room) :
    ∃ c cs, j.chars = c :: cs ∧ StartsValue c := by
  cases j with
  | word w =>
    simp only [Plain] at h
    obtain ⟨c, cs, hw⟩ := List.exists_cons_of_ne_nil h.1
    have hc := h.2 c (by rw [hw]; exact List.mem_cons_self)
    exact ⟨c, cs, by simpa [chars] using hw, not_isBlank_of_isAlphanum hc,
      not_endsWord_of_isAlphanum hc⟩
  | text s => exact ⟨_, _, by simp only [chars, quote, List.cons_append]; rfl, by decide, by decide⟩
  | array items => exact ⟨_, _, by simp only [chars, List.cons_append]; rfl, by decide, by decide⟩
  | object fields =>
    exact ⟨_, _, by simp only [chars, List.cons_append]; rfl, by decide, by decide⟩

theorem run_value (frames : List Frame) {j : Json} {room : Nat} (h : j.Plain room)
    (rest : List Char) :
    (Reader.value frames).run (j.chars ++ rest) = startRun frames (j.chars ++ rest) := by
  obtain ⟨c, cs, hj, hc⟩ := exists_chars_cons h
  simp [hj, hc.not_blank, startRun]

theorem run_firstItem (frames : List Frame) {j : Json} {room : Nat} (h : j.Plain room)
    (rest : List Char) :
    (Reader.firstItem frames).run (j.chars ++ rest) =
      startRun (.items [] false :: frames) (j.chars ++ rest) := by
  obtain ⟨c, cs, hj, hc⟩ := exists_chars_cons h
  simp [hj, hc.not_blank, startRun, hc.ne_mark.1, hc.ne_mark.2.1]

theorem run_firstName (frames : List Frame) (s : String) (cs : List Char) :
    (Reader.firstName frames).run (quote s ++ cs) =
      startRun (.name [] :: frames) (quote s ++ cs) := by
  simp [quote, isBlank, startRun]

theorem run_name (frames : List Frame) (s : String) (cs : List Char) :
    (Reader.value frames).run (quote s ++ cs) = startRun frames (quote s ++ cs) := by
  simp [quote, isBlank, startRun]

theorem startRun_field (frames : List Frame) (done : List (String × Json)) (name : String)
    {j : Json} {room : Nat} (h : j.Plain room) (rest : List Char) :
    startRun (.name done :: frames) (quote name ++ ':' :: (j.chars ++ rest)) =
      startRun (.field done name :: frames) (j.chars ++ rest) := by
  rw [startRun_quote, ← run_value _ h]
  simp [put, isBlank]

theorem itemChars_cons (item : Json) (items : List Json) :
    ∃ tail, itemChars (item :: items) = item.chars ++ tail := by
  cases items with
  | nil => exact ⟨[], by simp [itemChars]⟩
  | cons next items => exact ⟨_, by simp only [itemChars]; rfl⟩

theorem fieldChars_cons (name : String) (j : Json) (fields : List (String × Json)) :
    ∃ tail, fieldChars ((name, j) :: fields) = quote name ++ tail := by
  cases fields with
  | nil => exact ⟨_, by simp only [fieldChars]; rfl⟩
  | cons next fields => exact ⟨_, by simp only [fieldChars, List.append_assoc]; rfl⟩

/-- The reader takes values of a depth from where they may start, and is behind them. -/
def ReadsBack (room : Nat) : Prop :=
  ∀ (j : Json) (frames : List Frame) (rest : List Char),
    j.Plain room → frames.length + room ≤ maxDepth →
    startRun frames (j.chars ++ rest) = (behind j frames).bind fun next => next.run rest

theorem startRun_items {room : Nat} (ih : ReadsBack room) (item : Json) (items done : List Json)
    (frames : List Frame) (rest : List Char) (h : PlainItems (item :: items) room)
    (hroom : frames.length + 1 + room ≤ maxDepth) :
    startRun (.items done false :: frames) (itemChars (item :: items) ++ ']' :: rest) =
      (put (.array (done.reverse ++ item :: items) false) frames).bind fun next =>
        next.run rest := by
  induction items generalizing item done with
  | nil =>
    simp only [itemChars]
    rw [ih item _ _ h.1 (by simpa using hroom), behind_run_mark h.1 _ (by decide)]
    simp [put]
  | cons next items ihitems =>
    have hrest := ihitems next (item :: done) h.2
    obtain ⟨tail, htail⟩ := itemChars_cons next items
    simp only [itemChars, List.append_assoc, List.cons_append]
    rw [ih item _ _ h.1 (by simpa using hroom), behind_run_mark h.1 _ (by decide)]
    simp only [put, take, Option.bind_some, Char.reduceEq, ↓reduceIte]
    rw [htail, List.append_assoc] at hrest ⊢
    rw [run_value _ h.2.1, hrest, List.reverse_cons, List.append_assoc]
    rfl

theorem startRun_fields {room : Nat} (ih : ReadsBack room) (name : String) (j : Json)
    (fields done : List (String × Json)) (frames : List Frame) (rest : List Char)
    (h : PlainFields ((name, j) :: fields) room) (hroom : frames.length + 1 + room ≤ maxDepth) :
    startRun (.name done :: frames) (fieldChars ((name, j) :: fields) ++ '\x7d' :: rest) =
      (put (.object (done.reverse ++ (name, j) :: fields)) frames).bind fun next =>
        next.run rest := by
  induction fields generalizing name j done with
  | nil =>
    simp only [fieldChars, List.append_assoc, List.cons_append]
    rw [startRun_field _ _ _ h.1, ih j _ _ h.1 (by simpa using hroom),
      behind_run_mark h.1 _ (by decide)]
    simp [put]
  | cons field fields ihfields =>
    obtain ⟨next, k⟩ := field
    have hrest := ihfields next k ((name, j) :: done) h.2
    obtain ⟨tail, htail⟩ := fieldChars_cons next k fields
    simp only [fieldChars, List.append_assoc, List.cons_append]
    rw [startRun_field _ _ _ h.1, ih j _ _ h.1 (by simpa using hroom),
      behind_run_mark h.1 _ (by decide)]
    simp only [put, take, Option.bind_some, Char.reduceEq, ↓reduceIte]
    rw [htail, List.append_assoc] at hrest ⊢
    rw [run_name, hrest, List.reverse_cons, List.append_assoc]
    rfl

theorem startRun_word (frames : List Frame) {w : String} (h : PlainWord w) (rest : List Char) :
    startRun frames (w.toList ++ rest) = (behind (.word w) frames).bind fun next =>
      next.run rest := by
  obtain ⟨c, cs, hw⟩ := List.exists_cons_of_ne_nil h.1
  have hall : ∀ d ∈ c :: cs, d.isAlphanum = true := hw ▸ h.2
  have hc := start_word frames (hall c List.mem_cons_self)
  simp only [behind, hw, List.cons_append, startRun, hc, Option.bind_some]
  rw [run_append, run_word _ _ fun d hd => hall d (List.mem_cons_of_mem _ hd)]
  simp

theorem readsBack : ∀ room, ReadsBack room := by
  intro room
  induction room with
  | zero =>
    intro j frames rest h hroom
    cases j with
    | word w => exact startRun_word frames (by simpa [Plain] using h) rest
    | text s escaped =>
      simp only [Plain] at h
      simpa [chars, behind, h] using startRun_quote frames s rest
    | array | object => simp [Plain] at h
  | succ room ih =>
    intro j frames rest h hroom
    have hdepth : frames.length < maxDepth := by omega
    cases j with
    | word w => exact startRun_word frames (by simpa [Plain] using h) rest
    | text s escaped =>
      simp only [Plain] at h
      simpa [chars, behind, h] using startRun_quote frames s rest
    | array items slack =>
      simp only [Plain] at h
      obtain ⟨rfl, hitems⟩ := h
      have hstart : start frames '[' = some (.firstItem frames) := by simp [start, hdepth]
      simp only [chars, behind, List.cons_append, List.append_assoc, List.nil_append, startRun,
        hstart, Option.bind_some]
      cases items with
      | nil => simp [itemChars, isBlank]
      | cons item items =>
        have hrest := startRun_items ih item items [] frames rest hitems (by omega)
        obtain ⟨tail, htail⟩ := itemChars_cons item items
        rw [htail, List.append_assoc] at hrest ⊢
        rw [run_firstItem _ hitems.1, hrest]
        rfl
    | object fields =>
      simp only [Plain] at h
      have hstart : start frames '\x7b' = some (.firstName frames) := by simp [start, hdepth]
      simp only [chars, behind, List.cons_append, List.append_assoc, List.nil_append, startRun,
        hstart, Option.bind_some]
      cases fields with
      | nil => simp [fieldChars, isBlank]
      | cons field fields =>
        obtain ⟨name, j⟩ := field
        have hrest := startRun_fields ih name j fields [] frames rest h (by omega)
        obtain ⟨tail, htail⟩ := fieldChars_cons name j fields
        rw [htail, List.append_assoc] at hrest ⊢
        rw [run_firstName, hrest]
        rfl

end Reader

/-! ## Whole texts -/

theorem parse_render {j : Json} {room : Nat} (h : j.Plain room) (hroom : room ≤ Reader.maxDepth) :
    parse j.render = some j := by
  obtain ⟨c, cs, hj, hc⟩ := Reader.exists_chars_cons h
  have hrun := Reader.readsBack room j [] [] h (by simpa using hroom)
  rw [← Reader.run_value [] h, List.append_nil] at hrun
  rw [parse, render, String.toList_ofList, hrun]
  cases j with
  | word w =>
    have hput := Reader.putWord_reverse [] (w := w) (by simpa [Plain] using h)
    simp [Reader.behind, Reader.run, Reader.finish, hput, Reader.put]
  | text | array | object => rfl

end CustodyBridge.Json
