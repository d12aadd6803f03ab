import CustodyBridge.Json.Form
import CustodyBridge.Proofs.Json.RoundTrip
import Mathlib.Data.List.TakeWhile
import Mathlib.Tactic.Common

/-!
# Values read back from their JSON forms

Numbers, truth values, addresses and chains, alone, as options and as the fields of an object. A
value whose form is plain reads back from its text as well.
-/

namespace CustodyBridge

open JsonForm

/-- A type whose values read back from their forms. -/
class LawfulForm (α : Type) [JsonForm α] : Prop where
  ofJson?_toJson : ∀ a : α, ofJson? (toJson a) = some a

attribute [simp] LawfulForm.ofJson?_toJson

namespace Json

/-! ## Forms are plain -/

theorem plainItems_iff {items : List Json} {room : Nat} :
    PlainItems items room ↔ ∀ item ∈ items, item.Plain room := by
  induction items with
  | nil => simp [PlainItems]
  | cons item items ih => simp [PlainItems, ih]

@[simp] theorem plain_object {fields : List (String × Json)} {room : Nat} :
    (object fields).Plain (room + 1) ↔ PlainFields fields room := Iff.rfl

@[simp] theorem plainFields_nil (room : Nat) : PlainFields [] room := trivial

@[simp] theorem plainFields_cons {name : String} {j : Json} {fields : List (String × Json)}
    {room : Nat} :
    PlainFields ((name, j) :: fields) room ↔ j.Plain room ∧ PlainFields fields room :=
  Iff.rfl

theorem isAlphanum_of_isDigit {c : Char} (h : c.isDigit = true) : c.isAlphanum = true := by
  simp [Char.isAlphanum, h]

@[simp] theorem plain_ofNat (n room : Nat) : (ofNat n).Plain room := by
  simp only [ofNat, Plain, PlainWord, String.toList_ofList]
  refine ⟨Nat.toDigits_ne_nil, fun c hc => ?_⟩
  exact isAlphanum_of_isDigit (Nat.isDigit_of_mem_toDigits (by decide) (by decide) hc)

@[simp] theorem plain_ofBool (b : Bool) (room : Nat) : (ofBool b).Plain room := by
  simp only [ofBool, Plain, PlainWord]
  cases b <;> exact ⟨by decide, List.all_eq_true.1 (by decide)⟩

theorem not_mustEscape_of_isDigit {c : Char} (h : c.isDigit = true) : mustEscape c = false := by
  have hc : 48 ≤ c.toNat := by
    simp only [Char.isDigit, Bool.and_eq_true, decide_eq_true_eq] at h
    exact h.1
  have hne : c ≠ '"' ∧ c ≠ '\\' := by
    constructor <;> rintro rfl <;> revert h <;> decide
  simp [mustEscape, isControl, hne.1, hne.2]
  omega

@[simp] theorem plain_word128 (n : Word128) (room : Nat) : (Word128.toJson n).Plain room := by
  simp only [Word128.toJson, Plain, String.toList_ofList]
  symm
  rw [List.any_eq_false]
  intro c hc
  rw [not_mustEscape_of_isDigit (Nat.isDigit_of_mem_toDigits (by decide) (by decide) hc)]
  exact Bool.false_ne_true

@[simp] theorem plain_bytes (bytes : List UInt8) (room : Nat) :
    (toJson bytes : Json).Plain (room + 1) := by
  change (ofList (bytes.map toJson)).Plain (room + 1)
  simp only [ofList, Plain, plainItems_iff, true_and, List.mem_map]
  rintro item ⟨b, -, rfl⟩
  exact plain_ofNat b.toNat room

/-! ## Numbers -/

theorem eq_zero_of_head?_toDigits (n : Nat) (h : (Nat.toDigits 10 n).head? = some '0') : n = 0 := by
  induction n using Nat.strong_induction_on with
  | _ n ih =>
    by_cases hn : n < 10
    · rw [Nat.toDigits_of_lt_base hn, List.head?_cons, Option.some.injEq] at h
      have digits : ∀ m < 10, Nat.digitChar m = '0' → m = 0 := by decide
      exact digits n hn h
    · rw [Nat.toDigits_of_base_le (by decide) (by omega),
        List.head?_append_of_ne_nil _ Nat.toDigits_ne_nil] at h
      have := ih (n / 10) (by omega) h
      omega

theorem leadingNatural?_toDigits (n : Nat) :
    leadingNatural? (Nat.toDigits 10 n) = some (n, []) := by
  have hdigit : ∀ c ∈ Nat.toDigits 10 n, c.isDigit = true := fun c hc =>
    Nat.isDigit_of_mem_toDigits (by decide) (by decide) hc
  have hvalue := Nat.ofDigitChars_ten_toDigits (n := n)
  by_cases hz : n = 0
  · subst hz
    rfl
  cases hd : Nat.toDigits 10 n with
  | nil => exact absurd hd Nat.toDigits_ne_nil
  | cons c rest =>
    have hc : c ≠ '0' := by
      rintro rfl
      exact hz (eq_zero_of_head?_toDigits n (by rw [hd]; rfl))
    rw [hd] at hdigit hvalue
    have hrest : ∀ d ∈ rest, d.isDigit = true := fun d h => hdigit d (List.mem_cons_of_mem _ h)
    have htake : rest.takeWhile Char.isDigit = rest := List.takeWhile_eq_self_iff.2 hrest
    have hdrop : rest.dropWhile Char.isDigit = [] := List.dropWhile_eq_nil_iff.2 hrest
    simp [leadingNatural?, hc, hdigit c List.mem_cons_self, htake, hdrop, hvalue]

theorem naturalBelow_ofNat {n bound : Nat} (h : n < bound) :
    (ofNat n).naturalBelow bound = some n := by
  simp [naturalBelow, natural?, ofNat, leadingNatural?_toDigits, h]

theorem naturalPair?_ofNat (n : Nat) : (ofNat n).naturalPair? = none := by
  simp only [naturalPair?, ofNat, String.toList_ofList, leadingNatural?_toDigits]
  rfl

end Json

instance : LawfulForm UInt8 where
  ofJson?_toJson n := by
    change (Json.naturalBelow _ (.ofNat n.toNat)).map UInt8.ofNat = some n
    rw [Json.naturalBelow_ofNat n.toNat_lt]
    simp

instance : LawfulForm UInt32 where
  ofJson?_toJson n := by
    change (Json.naturalBelow _ (.ofNat n.toNat)).map UInt32.ofNat = some n
    rw [Json.naturalBelow_ofNat n.toNat_lt]
    simp

instance : LawfulForm UInt64 where
  ofJson?_toJson n := by
    change (Json.naturalBelow _ (.ofNat n.toNat)).map UInt64.ofNat = some n
    rw [Json.naturalBelow_ofNat n.toNat_lt]
    simp

instance : LawfulForm Bool where
  ofJson?_toJson b := by cases b <;> rfl

/-! ## Words of 128 bits -/

namespace Integer

theorem digitValue?_eq_of_isDigit {c : Char} (h : c.isDigit = true) :
    digitValue? c = some (c.toNat - '0'.toNat) := by
  simp only [Char.isDigit, Bool.and_eq_true, decide_eq_true_eq] at h
  simp only [digitValue?, ite_eq_left_iff, reduceCtorEq, imp_false, not_not]
  exact h

theorem appendDigits_eq {limit n : Nat} {cs : List Char} (hdigit : ∀ c ∈ cs, c.isDigit = true)
    (h : Nat.ofDigitChars 10 cs n ≤ limit) :
    appendDigits limit n cs = .ok (Nat.ofDigitChars 10 cs n) := by
  induction cs generalizing n with
  | nil => rfl
  | cons c cs ih =>
    rw [Nat.ofDigitChars_cons] at h ⊢
    have hgrow : 10 * n + (c.toNat - '0'.toNat) ≤
        Nat.ofDigitChars 10 cs (10 * n + (c.toNat - '0'.toNat)) := by
      rw [Nat.ofDigitChars_eq_ofDigitChars_zero]
      have hpow : 1 ≤ 10 ^ cs.length := Nat.one_le_pow _ _ (by decide)
      exact Nat.le_add_right_of_le (Nat.le_mul_of_pos_left _ hpow)
    rw [appendDigits, digitValue?_eq_of_isDigit (hdigit c List.mem_cons_self)]
    simp only []
    rw [if_neg (by omega), ih (fun d hd => hdigit d (List.mem_cons_of_mem _ hd)) h]

theorem parse_toDigits {limit n : Nat} (h : n ≤ limit) :
    parse limit (Nat.toDigits 10 n) = .ok n := by
  have hdigit : ∀ c ∈ Nat.toDigits 10 n, c.isDigit = true := fun c hc =>
    Nat.isDigit_of_mem_toDigits (by decide) (by decide) hc
  have hvalue : Nat.ofDigitChars 10 (Nat.toDigits 10 n) 0 = n := Nat.ofDigitChars_ten_toDigits
  have happend := appendDigits_eq hdigit (hvalue.le.trans h)
  rw [hvalue] at happend
  unfold parse
  split
  · next hd => exact absurd hd Nat.toDigits_ne_nil
  · next hd => exact absurd (hdigit '+' (by rw [hd]; exact List.mem_cons_self)) (by decide)
  · next digits hd => exact absurd (hdigit '+' (by rw [hd]; exact List.mem_cons_self)) (by decide)
  · exact happend

end Integer

theorem Word128.ofDigits?_toDigits (n : Word128) :
    Word128.ofDigits? (String.ofList (Nat.toDigits 10 n.toNat)) = some n := by
  have hn : n.toNat ≤ Word128.size - 1 := by
    have := n.isLt
    simp only [Word128.size]
    omega
  rw [Word128.ofDigits?, String.toList_ofList, Integer.parse_toDigits hn]
  simp

@[simp] theorem Word128.ofJson?_toJson (n : Word128) :
    Word128.ofJson? (Word128.toJson n) = some n :=
  Word128.ofDigits?_toDigits n

@[simp] theorem Word128.ofCanonicalJson?_toJson (n : Word128) :
    Word128.ofCanonicalJson? (Word128.toJson n) = some n := by
  simp [Word128.toJson, Word128.ofCanonicalJson?, Word128.ofDigits?_toDigits]

/-! ## Bytes and addresses -/

theorem bytesOfItems?_map_toJson (bytes : List UInt8) :
    bytesOfItems? false (bytes.map toJson) = some bytes := by
  induction bytes with
  | nil => rfl
  | cons b bytes ih =>
    have hpair : (toJson b : Json).naturalPair? = none := Json.naturalPair?_ofNat b.toNat
    simp [bytesOfItems?, hpair, ih]

instance : LawfulForm (List UInt8) where
  ofJson?_toJson bytes := bytesOfItems?_map_toJson bytes

instance : LawfulForm Bytes32 where
  ofJson?_toJson a := by
    change (ofJson? (toJson a.bytes : Json)).bind Bytes32.ofBytes? = some a
    simp

/-! ## Options -/

/-- A type whose values are never written as null, which is left to stand for no value. -/
class NeverNull (α : Type) [JsonForm α] : Prop extends LawfulForm α where
  toJson_ne_null : ∀ a : α, toJson a ≠ .null

instance {α : Type} [JsonForm α] [NeverNull α] : LawfulForm (Option α) where
  ofJson?_toJson a? := by
    cases a? with
    | none => rfl
    | some a =>
      have hne := NeverNull.toJson_ne_null a
      unfold instJsonFormOption
      dsimp only
      split
      · rename_i hnull
        exact absurd hnull hne
      · rw [LawfulForm.ofJson?_toJson]
        rfl

theorem Json.ofNat_ne_null (n : Nat) : Json.ofNat n ≠ .null := by
  intro h
  have hchars := congrArg String.toList (Json.word.inj h)
  rw [String.toList_ofList] at hchars
  have hletter : 'n' ∈ Nat.toDigits 10 n := by
    rw [hchars]
    decide
  have hdigit := Nat.isDigit_of_mem_toDigits (by decide) (by decide) hletter
  exact absurd hdigit (by decide)

instance : NeverNull UInt32 where
  toJson_ne_null n := Json.ofNat_ne_null n.toNat

instance : NeverNull UInt64 where
  toJson_ne_null n := Json.ofNat_ne_null n.toNat

instance : NeverNull Bool where
  toJson_ne_null b h := by
    have hword := Json.word.inj h
    cases b <;> exact absurd hword (by decide)

instance : NeverNull Bytes32 where
  toJson_ne_null a h := by cases h

/-! ## Objects -/

theorem Json.fields?_object {names : List String} {fields : Fields}
    (hnames : fields.map (·.1) = names) (hnodup : names.Nodup) :
    Json.fields? names (.object fields) = some fields := by
  subst hnames
  have hall : (fields.all fun f => (fields.map (·.1)).contains f.1) = true := by
    simp only [List.all_eq_true, List.contains_eq_mem, List.mem_map, decide_eq_true_eq]
    exact fun f hf => ⟨f, hf, rfl⟩
  rw [Json.fields?, hall, decide_eq_true hnodup]
  rfl

/-! An object is read from the outside in: its fields are found before what is made of them is
looked at, or the latter would be rewritten once for every field. -/

@[simp ↓] theorem Json.bind_fields?_object {β : Type} {names : List String} {fields : Fields}
    (hnames : fields.map (·.1) = names) (hnodup : names.Nodup) (f : Fields → Option β) :
    (Json.fields? names (.object fields) >>= f) = f fields := by
  rw [Json.fields?_object hnames hnodup]
  rfl

namespace Fields

variable {α β : Type} [JsonForm α] {name other : String} {j : Json} {fields : Fields}

@[simp] theorem lookup_cons_of_ne (h : name ≠ other) :
    List.lookup name ((other, j) :: fields) = List.lookup name fields := by
  rw [List.lookup_cons, beq_eq_false_iff_ne.2 h]

@[simp ↓] theorem bind_required_self [LawfulForm α] (a : α) (f : α → Option β) :
    ((required ((name, toJson a) :: fields) name : Option α) >>= f) = f a := by
  rw [required, List.lookup_cons_self, Option.bind_some, LawfulForm.ofJson?_toJson]
  rfl

@[simp ↓] theorem bind_required_of_ne (h : name ≠ other) (f : α → Option β) :
    ((required ((other, j) :: fields) name : Option α) >>= f) =
      (required fields name >>= f) := by
  rw [required, lookup_cons_of_ne h, required]

@[simp ↓] theorem bind_optional_self [NeverNull α] (a? : Option α) (f : Option α → Option β) :
    ((optional ((name, toJson a?) :: fields) name : Option (Option α)) >>= f) = f a? := by
  have hread : (ofJson? (toJson a?) : Option (Option α)) = some a? :=
    LawfulForm.ofJson?_toJson a?
  rw [optional, List.lookup_cons_self]
  exact congrArg (· >>= f) hread

@[simp ↓] theorem bind_optional_of_ne (h : name ≠ other) (f : Option α → Option β) :
    ((optional ((other, j) :: fields) name : Option (Option α)) >>= f) =
      (optional fields name >>= f) := by
  rw [optional, lookup_cons_of_ne h, optional]

end Fields

instance : LawfulForm Chain where
  ofJson?_toJson c := by
    unfold instJsonFormChain
    dsimp only
    simp

instance : LawfulForm Account where
  ofJson?_toJson a := by
    unfold instJsonFormAccount
    dsimp only
    simp

/-! ## Texts -/

/-- A type whose values read back from their forms, which are plain. -/
class LawfulText (α : Type) [JsonForm α] : Prop extends LawfulForm α where
  plain_toJson : ∀ a : α, (toJson a).Plain 3

@[simp] theorem read?_write {α : Type} [JsonForm α] [LawfulText α] (a : α) :
    (read? (write a) : Option α) = some a := by
  rw [read?, write, Json.parse_render (LawfulText.plain_toJson a) (by decide)]
  exact LawfulForm.ofJson?_toJson a

end CustodyBridge
