import NcnProgram.Lib.Run

/-!
# An escrow with a running account of what it holds

An escrow holds coins above a floor. Deposits arrive without notice; at some later time the surplus over what
is already known is absorbed into a pool, the pool is processed into claims, and claims are paid out.
`Escrow.Step` are these four moves on the bare amounts, and `Sound` is what they keep: the coins cover the
floor, the pool and the claims, and nothing that was ever absorbed is lost.
-/

namespace Lib

/-- The amounts of an escrow: the coins it must keep, those it holds, those it has received and paid out in
all, those it has absorbed in all, and those in the pool and in claims. -/
structure Escrow where
  floor : ℕ
  coins : ℕ
  received : ℕ
  paid : ℕ
  absorbed : ℕ
  pool : ℕ
  claims : ℕ

namespace Escrow

/-- The coins that are not accounted for yet. -/
def surplus (a : Escrow) : ℕ := a.coins - (a.pool + a.claims) - a.floor

/-- Coins arrive. -/
def deposit (n : ℕ) (a : Escrow) : Escrow :=
  { a with coins := a.coins + n, received := a.received + n }

/-- The surplus enters the pool. -/
def absorb (a : Escrow) : Escrow :=
  { a with absorbed := a.absorbed + a.surplus, pool := a.pool + a.surplus }

/-- A part of the pool becomes claims. -/
def process (n : ℕ) (a : Escrow) : Escrow :=
  { a with pool := a.pool - n, claims := a.claims + n }

/-- Claims are paid out. -/
def payOut (n : ℕ) (a : Escrow) : Escrow :=
  { a with coins := a.coins - n, paid := a.paid + n, claims := a.claims - n }

/-- One move; `bound` limits what the escrow ever receives. -/
inductive Step (bound : ℕ) : Escrow → Escrow → Prop
  | deposit {n a} : a.received + n < bound → Step bound a (a.deposit n)
  | absorb {a} : Step bound a a.absorb
  | process {n a} : n ≤ a.pool → Step bound a (a.process n)
  | payOut {n a} : n ≤ a.claims → Step bound a (a.payOut n)

/-- The coins cover the floor, the pool and the claims, and every coin is accounted for. -/
structure Sound (bound : ℕ) (a : Escrow) : Prop where
  absorbed : a.absorbed = a.pool + a.claims + a.paid
  coins : a.coins + a.paid = a.received
  solvent : a.floor + a.pool + a.claims ≤ a.coins
  received : a.received < bound

variable {bound : ℕ} {a a' : Escrow}

/-- Every move keeps the escrow sound. -/
lemma Step.sound (h : Step bound a a') (ha : a.Sound bound) : a'.Sound bound := by
  obtain ⟨habs, hcoins, hsolv, hrec⟩ := ha
  cases h with
  | deposit hn => constructor <;> simp only [Escrow.deposit] <;> omega
  | absorb => constructor <;> simp only [Escrow.absorb, surplus] <;> omega
  | process hn => constructor <;> simp only [Escrow.process] <;> omega
  | payOut hn => constructor <;> simp only [Escrow.payOut] <;> omega

end Escrow
end Lib
