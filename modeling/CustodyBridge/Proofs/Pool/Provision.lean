import CustodyBridge.Proofs.Pool.Exits

/-!
# Rewards over a provision

A deposit floors its own debt, and a removal floors both its part of the debt and what the part has
earned, while the reward is floored over the whole position. So a provider's own deposit or removal
can move the reward by one unit: a deposit up, where two fractions of a unit make a whole one; a
removal up or down. Where the ratio is whole, nothing is floored and nothing moves.
-/

namespace CustodyBridge

/-! ## Floors -/

section floors

variable {A n R d scale : Nat} (positive : 0 < scale)

include positive

theorem partDebt_le_earned (hn : n ≤ A) (hd : d ≤ A * R / scale) : d * n / A ≤ n * R / scale := by
  rcases Nat.eq_zero_or_pos A with rfl | hA
  · simp
  rw [Nat.le_div_iff_mul_le positive] at hd ⊢
  refine Nat.le_of_mul_le_mul_left ?_ hA
  calc A * (d * n / A * scale) = A * (d * n / A) * scale := (Nat.mul_assoc ..).symm
    _ ≤ d * n * scale := Nat.mul_le_mul_right _ (Nat.mul_div_le _ _)
    _ = d * scale * n := Nat.mul_right_comm ..
    _ ≤ A * R * n := Nat.mul_le_mul_right _ hd
    _ = A * (n * R) := by rw [Nat.mul_assoc, Nat.mul_comm R n]

theorem earned_le_partDebt (hn : n ≤ A) (hd : A * R / scale < d) : n * R / scale ≤ d * n / A := by
  rcases Nat.eq_zero_or_pos A with rfl | hA
  · obtain rfl : n = 0 := Nat.le_zero.1 hn
    simp
  rw [Nat.div_lt_iff_lt_mul positive] at hd
  rw [Nat.le_div_iff_mul_le hA]
  refine Nat.le_of_mul_le_mul_left ?_ positive
  calc scale * (n * R / scale * A) = scale * (n * R / scale) * A := (Nat.mul_assoc ..).symm
    _ ≤ n * R * A := Nat.mul_le_mul_right _ (Nat.mul_div_le _ _)
    _ = n * (A * R) := by rw [Nat.mul_assoc, Nat.mul_comm R A]
    _ ≤ n * (d * scale) := Nat.mul_le_mul_left _ hd.le
    _ = scale * (d * n) := by rw [← Nat.mul_assoc, Nat.mul_comm n d, Nat.mul_comm]

theorem kept_le_keptDebt (hn : n ≤ A) (hd : A * R / scale < d) :
    (A - n) * R / scale ≤ d - d * n / A := by
  have hkept := earned_le_partDebt positive (Nat.sub_le A n) hd
  have hparts : d * (A - n) / A + d * n / A ≤ d := by
    refine Nat.le_trans Nat.div_add_div_le_add_div ?_
    rw [← Nat.mul_add, Nat.sub_add_cancel hn]
    exact Nat.div_le_of_le_mul (Nat.mul_comm d A).le
  omega

theorem earned_add : (A + n) * R / scale =
    A * R / scale + n * R / scale + if scale ≤ A * R % scale + n * R % scale then 1 else 0 := by
  rw [Nat.add_mul, Nat.add_div positive]

theorem owed_add : (A + n) * R / scale - (d + n * R / scale) = A * R / scale - d +
    if d ≤ A * R / scale ∧ scale ≤ A * R % scale + n * R % scale then 1 else 0 := by
  rw [earned_add positive]
  by_cases whole : scale ≤ A * R % scale + n * R % scale
  · by_cases covered : d ≤ A * R / scale
    · rw [if_pos whole, if_pos ⟨covered, whole⟩]
      omega
    · rw [if_pos whole, if_neg fun h => covered h.1]
      omega
  · rw [if_neg whole, if_neg fun h => whole h.2]
    omega

/-- What a position has earned, less its debt, and what a part and the rest have when they are
floored apart. The rest may be short of its debt, which takes nothing back from the part. -/
theorem owed_split (hn : n ≤ A) :
    let part := n * R / scale - d * n / A
    let rest := (A - n) * R / scale - (d - d * n / A)
    let whole := A * R / scale - d
    let short := d ≤ A * R / scale ∧ A * R / scale < n * R / scale + (d - d * n / A)
    (short → part + rest = whole + 1) ∧ (¬ short → part + rest ≤ whole) ∧
      whole ≤ part + rest + 1 := by
  dsimp only
  have hsum := earned_add (A := A - n) (n := n) (R := R) positive
  rw [Nat.sub_add_cancel hn] at hsum
  have hle := part_earned_le (R := R) (d := d) positive hn
  have hpart : d * n / A ≤ d := part_le_whole hn
  by_cases hd : d ≤ A * R / scale
  · have hearned := partDebt_le_earned positive hn hd
    split at hsum <;> refine ⟨fun h => ?_, fun h => ?_, ?_⟩ <;> omega
  · rw [Nat.not_le] at hd
    have hearned := earned_le_partDebt positive hn hd
    have hkept := kept_le_keptDebt positive hn hd
    refine ⟨fun h => ?_, fun _ => ?_, ?_⟩ <;> omega

/-! ### Whole ratios -/

theorem not_completes_of_dvd (hR : scale ∣ R) : ¬ scale ≤ A * R % scale + n * R % scale := by
  rw [Nat.mod_eq_zero_of_dvd (Nat.dvd_mul_left_of_dvd hR A),
    Nat.mod_eq_zero_of_dvd (Nat.dvd_mul_left_of_dvd hR n)]
  exact Nat.not_le.2 positive

omit positive in
theorem keptDebt_le {k : Nat} (hn : n ≤ A) (hd : d ≤ A * k) : d - d * n / A ≤ (A - n) * k := by
  rcases Nat.eq_zero_or_pos A with rfl | hA
  · simpa using hd
  obtain ⟨m, rfl⟩ := Nat.exists_eq_add_of_le hn
  rw [Nat.add_sub_cancel_left]
  -- Were the rest short, a share with one more unit, which is above the exact one, would still
  -- leave the rest with a debt that the ratio covers.
  by_contra hmore
  have hpart : d * n < (n + m) * (d * n / (n + m) + 1) := Nat.lt_mul_div_succ _ hA
  have hdebt : m * k + (d * n / (n + m) + 1) ≤ d := by omega
  have hkept : (n + m) * (m * k) < d * m := by
    have hscaled := Nat.mul_le_mul_left (n + m) hdebt
    rw [Nat.mul_add, Nat.mul_comm _ d, Nat.mul_add d] at hscaled
    omega
  have hcovered : d * m ≤ (n + m) * (m * k) := by
    calc d * m ≤ (n + m) * k * m := Nat.mul_le_mul_right _ hd
      _ = (n + m) * (m * k) := by rw [Nat.mul_assoc, Nat.mul_comm k]
  omega

theorem owed_split_of_dvd (hR : scale ∣ R) (hn : n ≤ A) :
    n * R / scale - d * n / A + ((A - n) * R / scale - (d - d * n / A)) = A * R / scale - d := by
  obtain ⟨k, rfl⟩ := hR
  have hfloor : ∀ m, m * (scale * k) / scale = m * k := fun m => by
    rw [Nat.mul_left_comm, Nat.mul_div_cancel_left _ positive]
  have hsum : (A - n) * k + n * k = A * k := by rw [← Nat.add_mul, Nat.sub_add_cancel hn]
  have hpart : d * n / A ≤ d := part_le_whole hn
  by_cases hd : d ≤ A * (scale * k) / scale
  · have hearned := partDebt_le_earned positive hn hd
    rw [hfloor] at hd hearned
    have hkept := keptDebt_le hn hd
    simp only [hfloor]
    omega
  · rw [Nat.not_le] at hd
    have hearned := earned_le_partDebt positive hn hd
    have hkept := kept_le_keptDebt positive hn hd
    omega

end floors

/-! ## Positions -/

namespace Position

/-- The reward of a position as a number, also where it is no amount. -/
def owed (ratio : Nat) (x : Position) : Nat :=
  x.amount.toNat * ratio / Pool.scale - x.debt.toNat + x.remaining.toNat

/-- A position earns, and a fraction of a unit that it has makes a whole one with a fraction that
the deposit has. -/
def Completes (ratio : Nat) (x : Position) (n : Nat) : Prop :=
  x.debt.toNat ≤ x.amount.toNat * ratio / Pool.scale ∧
    Pool.scale ≤ x.amount.toNat * ratio % Pool.scale + n * ratio % Pool.scale

instance (ratio : Nat) (x : Position) (n : Nat) : Decidable (x.Completes ratio n) :=
  inferInstanceAs (Decidable (_ ∧ _))

/-- A position earns, and without a part that is settled the rest of it is short of its debt. -/
def FallsShort (ratio : Nat) (x : Position) (n : Nat) : Prop :=
  x.debt.toNat ≤ x.amount.toNat * ratio / Pool.scale ∧
    x.amount.toNat * ratio / Pool.scale <
      n * ratio / Pool.scale + (x.debt.toNat - x.debt.toNat * n / x.amount.toNat)

instance (ratio : Nat) (x : Position) (n : Nat) : Decidable (x.FallsShort ratio n) :=
  inferInstanceAs (Decidable (_ ∧ _))

variable {x y : Position} {p q : Pool} {amount reward : UInt64}

theorem pendingReward?_eq_owed (x : Position) (p : Pool) :
    x.pendingReward? p = if x.amount.toNat * p.ratio.toNat / Pool.scale < UInt64.size
      then Amount.ofNat? (x.owed p.ratio.toNat) else none := by
  apply Option.ext
  intro reward
  rw [pendingReward?_eq_some, Option.ite_none_right_eq_some, Amount.ofNat?_eq_some, owed]
  constructor
  · rintro ⟨accrued, haccrued, hreward⟩
    rw [haccrued]
    exact ⟨accrued.toNat_lt, hreward⟩
  · rintro ⟨fits, hreward⟩
    have haccrued := UInt64.toNat_ofNat_of_lt fits
    exact ⟨_, haccrued.symm, by rw [haccrued, hreward]⟩

theorem owed_of_pendingReward (h : x.pendingReward? p = some reward) :
    x.owed p.ratio.toNat = reward.toNat := by
  obtain ⟨accrued, haccrued, hreward⟩ := pendingReward?_eq_some.1 h
  rw [owed, haccrued, hreward]

theorem owed_opened (ratio : Nat) (mint provider : Address) :
    (opened mint provider).owed ratio = 0 := by
  simp [owed, opened]

theorem not_completes_opened (ratio : Nat) (mint provider : Address) (n : Nat) :
    ¬ (opened mint provider).Completes ratio n := by
  intro h
  have hless := Nat.mod_lt (n * ratio) Pool.scale_pos
  have hwhole := h.2
  simp [opened] at hwhole
  omega

/-! ## One provision -/

theorem owed_of_add (h : p.addLiquidity x amount = .ok (q, y)) :
    y.amount.toNat = x.amount.toNat + amount.toNat ∧
      y.owed p.ratio.toNat =
        x.owed p.ratio.toNat + if x.Completes p.ratio.toNat amount.toNat then 1 else 0 := by
  obtain ⟨held, hheld, accrued, haccrued, debt, hdebt, _, -, _, -, -, rfl⟩ :=
    Pool.addLiquidity_eq_ok.1 h
  have hadd : (x.amount.toNat + amount.toNat) * p.ratio.toNat / Pool.scale -
        (x.debt.toNat + amount.toNat * p.ratio.toNat / Pool.scale) =
      x.amount.toNat * p.ratio.toNat / Pool.scale - x.debt.toNat +
        if x.Completes p.ratio.toNat amount.toNat then 1 else 0 := owed_add Pool.scale_pos
  refine ⟨hheld.symm, ?_⟩
  simp only [owed, ← hheld, ← hdebt, ← haccrued]
  omega

theorem owed_removed (h : p.removeLiquidity x amount = .ok (q, y)) :
    amount.toNat ≤ x.amount.toNat ∧ y.amount.toNat = x.amount.toNat - amount.toNat ∧
      y.owed p.ratio.toNat = amount.toNat * p.ratio.toNat / Pool.scale -
          x.debt.toNat * amount.toNat / x.amount.toNat +
        ((x.amount.toNat - amount.toNat) * p.ratio.toNat / Pool.scale -
          (x.debt.toNat - x.debt.toNat * amount.toNat / x.amount.toNat)) + x.remaining.toNat := by
  obtain ⟨hle, -, earned, hearned, remaining, hremaining, debt, hdebt, held, hheld, _, -, -, rfl⟩ :=
    Pool.removeLiquidity_eq_ok.1 h
  rw [Amount.toNat_subCapped, toNat_partDebt hle, ← hearned] at hremaining
  rw [toNat_partDebt hle] at hdebt
  have hheld' : held.toNat = x.amount.toNat - amount.toNat := by omega
  have hdebt' : debt.toNat =
      x.debt.toNat - x.debt.toNat * amount.toNat / x.amount.toNat := by omega
  refine ⟨UInt64.le_iff_toNat_le.1 hle, hheld', ?_⟩
  simp only [owed, ← hremaining, hheld', hdebt']
  omega

/-- A removal raises the reward exactly where the rest falls short, and lowers it by at most one. -/
theorem owed_of_remove (h : p.removeLiquidity x amount = .ok (q, y)) :
    (x.FallsShort p.ratio.toNat amount.toNat →
        y.owed p.ratio.toNat = x.owed p.ratio.toNat + 1) ∧
      (¬ x.FallsShort p.ratio.toNat amount.toNat →
        y.owed p.ratio.toNat ≤ x.owed p.ratio.toNat) ∧
      x.owed p.ratio.toNat ≤ y.owed p.ratio.toNat + 1 := by
  obtain ⟨hle, -, hafter⟩ := owed_removed h
  obtain ⟨hgain, hkeep, hloss⟩ :=
    owed_split (R := p.ratio.toNat) (d := x.debt.toNat) Pool.scale_pos hle
  rw [hafter, owed]
  refine ⟨fun short => ?_, fun kept => ?_, by omega⟩
  · have := hgain short
    omega
  · have := hkeep kept
    omega

theorem owed_of_remove_all (h : p.removeLiquidity x x.amount = .ok (q, y)) :
    y.owed p.ratio.toNat = x.owed p.ratio.toNat := by
  obtain ⟨-, -, hafter⟩ := owed_removed h
  rw [hafter, owed, Nat.sub_self, Nat.zero_mul, Nat.zero_div, Nat.zero_sub, Nat.add_zero]
  rcases Nat.eq_zero_or_pos x.amount.toNat with hzero | hpos
  · simp [hzero]
  · rw [Nat.mul_div_cancel _ hpos]

/-! ### Whole ratios -/

theorem owed_of_add_whole (h : p.addLiquidity x amount = .ok (q, y))
    (whole : Pool.scale ∣ p.ratio.toNat) : y.owed p.ratio.toNat = x.owed p.ratio.toNat := by
  rw [(owed_of_add h).2,
    if_neg fun completes => not_completes_of_dvd Pool.scale_pos whole completes.2]
  rfl

theorem owed_of_remove_whole (h : p.removeLiquidity x amount = .ok (q, y))
    (whole : Pool.scale ∣ p.ratio.toNat) : y.owed p.ratio.toNat = x.owed p.ratio.toNat := by
  obtain ⟨hle, -, hafter⟩ := owed_removed h
  rw [hafter, owed_split_of_dvd Pool.scale_pos whole hle, owed]

end Position

end CustodyBridge
