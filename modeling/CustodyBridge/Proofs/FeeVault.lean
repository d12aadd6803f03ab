import CustodyBridge.FeeVault
import CustodyBridge.NonceCounter
import CustodyBridge.Proofs.Amount
import CustodyBridge.Proofs.Ledger.Exec

/-!
# Operations of the vault and the counters

What it takes for a credit or a new nonce to succeed, in numbers, and what it leaves. No operation
panics.
-/

namespace CustodyBridge

/-! ## The vault -/

namespace FeeVault

variable {v w : FeeVault} {amount : UInt64}

theorem credit_eq_ok :
    v.credit amount = .ok w ↔ ∃ balance, v.balance.toNat + amount.toNat = balance.toNat ∧
      { v with balance, totalCollected := Amount.addCapped v.totalCollected amount } = w := by
  simp [credit]

@[simp] theorem credit_ne_panic (v : FeeVault) (amount : UInt64) (cause : Panic) :
    v.credit amount ≠ .panic cause := by
  simp [credit]

@[simp] theorem withdraw_ne_panic (v : FeeVault) (amount : UInt64) (cause : Panic) :
    v.withdraw amount ≠ .panic cause := by
  intro h
  simp only [withdraw, Outcome.bind_eq, Outcome.bind_eq_panic, Amount.sub_eq_panic,
    Outcome.ite_error_eq_panic, Outcome.pure_eq, reduceCtorEq, and_false, exists_false,
    or_false] at h
  exact h.1 h.2.1

end FeeVault

/-! ## Counters -/

namespace NonceCounter

theorem advance_eq_ok {c d : NonceCounter} :
    c.advance = .ok d ↔ c.next.toNat + 1 = d.next.toNat ∧ c.chain = d.chain := by
  cases d
  simp [advance]

theorem advance_eq_error {c : NonceCounter} (h : c.next = Amount.max) :
    c.advance = .error .amountOverflow := by
  simp only [advance, h]
  rfl

@[simp] theorem advance_ne_panic (c : NonceCounter) (cause : Panic) :
    c.advance ≠ .panic cause := by
  simp [advance]

end NonceCounter

end CustodyBridge
