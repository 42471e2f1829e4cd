import NcnProgram.Lib.Mut

/-!
# Reserves

A reserve holds coins above a floor. Part of them is in a pool, part has been processed, and what has been processed
is there for the dues of the reserve. Coins that arrive are absorbed into the pool, amounts move on inside the reserve,
and dues are paid. A reserve that is `Funded` can pay what it owes: the dues are covered by what has been processed,
and that, the pool and the floor by the coins.
-/

namespace Lib

/-- The amounts of a reserve. -/
structure Reserve where
  pool : ℕ
  processed : ℕ
  dues : ℕ

namespace Reserve

/-- All that has been absorbed is still there, and the dues stay covered. -/
structure MovesOn (a a' : Reserve) : Prop where
  transit : a'.pool + a'.processed = a.pool + a.processed
  covered : a.dues ≤ a.processed → a'.dues ≤ a'.processed

/-- The coins that the reserve did not know of enter the pool. -/
structure Absorbs (floor coins : ℕ) (a a' : Reserve) : Prop where
  transit : floor + a'.pool + a'.processed = coins
  processed : a'.processed = a.processed
  dues : a'.dues = a.dues

/-- A due is paid. -/
structure Pays (n : ℕ) (a a' : Reserve) : Prop where
  pool : a'.pool = a.pool
  processed : a'.processed + n = a.processed
  dues : a'.dues + n = a.dues

/-- The reserve can pay what it owes. -/
structure Funded (floor coins : ℕ) (a : Reserve) : Prop where
  covered : a.dues ≤ a.processed
  held : floor + a.pool + a.processed ≤ coins

variable {floor coins coins' n : ℕ} {a a' a'' : Reserve}

/-- Nothing happens. -/
lemma MovesOn.refl (a : Reserve) : MovesOn a a := ⟨rfl, id⟩

/-- One move after another. -/
lemma MovesOn.trans (h : MovesOn a a') (h' : MovesOn a' a'') : MovesOn a a'' :=
  ⟨h'.transit.trans h.transit, fun hc => h'.covered (h.covered hc)⟩

/-- An empty reserve. -/
lemma Funded.empty (h : floor ≤ coins) : Funded floor coins ⟨0, 0, 0⟩ := ⟨Nat.le_refl 0, h⟩

/-- Coins that arrive. -/
lemma Funded.deposit (h : Funded floor coins a) (hle : coins ≤ coins') : Funded floor coins' a :=
  ⟨h.covered, Nat.le_trans h.held hle⟩

/-- What moves on within a reserve leaves it funded. -/
lemma Funded.movesOn (h : Funded floor coins a) (hm : MovesOn a a') : Funded floor coins a' := by
  refine ⟨hm.covered h.covered, ?_⟩
  rw [Nat.add_assoc, hm.transit, ← Nat.add_assoc]
  exact h.held

/-- So does taking in what has arrived. -/
lemma Funded.absorbs (h : Funded floor coins a) (ha : Absorbs floor coins a a') : Funded floor coins a' := by
  refine ⟨?_, Nat.le_of_eq ha.transit⟩
  rw [ha.dues, ha.processed]
  exact h.covered

/-- So does paying what is owed. -/
lemma Funded.pays (h : Funded floor coins a) (hp : Pays n a a') : Funded floor (coins - n) a' := by
  have hcovered := h.covered
  have hheld := h.held
  obtain ⟨hpool, hprocessed, hdues⟩ := hp
  constructor <;> omega

/-- What is owed has been processed. -/
lemma Funded.le_processed (h : Funded floor coins a) (hn : n ≤ a.dues) : n ≤ a.processed :=
  Nat.le_trans hn h.covered

/-- And is there. -/
lemma Funded.le_coins (h : Funded floor coins a) (hn : n ≤ a.dues) : n ≤ coins := by
  have hle := h.le_processed hn
  have hheld := h.held
  omega

end Reserve
end Lib
