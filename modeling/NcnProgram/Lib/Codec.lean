import NcnProgram.Lib.Bytes

/-!
# Formats

A `Codec` is a format of a type of values: how a value is written as bytes, and how one is read off the front of
some bytes. It carries the proof that the two fit: what was written is read back, whatever follows it, and nothing
is read that was not written. Formats are put together out of smaller ones, and the proofs go along. Reading a whole
input (`decode`) then accepts exactly what was written.
-/

namespace Lib
variable {α β : Type}

/-- The number with the little-endian bytes `bytes`. -/
def ofLeBytes : List UInt8 → ℕ
  | [] => 0
  | b :: bytes => b.toNat + 256 * ofLeBytes bytes

lemma ofLeBytes_leBytes {w n : ℕ} (hn : n < 256 ^ w) : ofLeBytes (leBytes w n) = n := by
  induction w generalizing n with
  | zero => exact (Nat.lt_one_iff.1 hn).symm
  | succ w ih =>
    have hrest : ofLeBytes (leBytes w (n / 256)) = n / 256 := by
      rw [Nat.pow_succ] at hn
      exact ih (Nat.div_lt_of_lt_mul (by omega))
    have hlow : (UInt8.ofNat n).toNat = n % 256 := UInt8.toNat_ofNat'
    rw [leBytes, ofLeBytes, hrest, hlow]
    exact Nat.mod_add_div n 256

lemma ofLeBytes_lt (bytes : List UInt8) : ofLeBytes bytes < 256 ^ bytes.length := by
  induction bytes with
  | nil => exact Nat.one_pos
  | cons b bytes ih =>
    have hb : b.toNat < 256 := b.toNat_lt
    rw [ofLeBytes, List.length_cons, Nat.pow_succ]
    omega

lemma leBytes_ofLeBytes (bytes : List UInt8) : leBytes bytes.length (ofLeBytes bytes) = bytes := by
  induction bytes with
  | nil => rfl
  | cons b bytes ih =>
    have hb : b.toNat < 256 := b.toNat_lt
    have hlow : UInt8.ofNat (b.toNat + 256 * ofLeBytes bytes) = b := by
      apply UInt8.toNat.inj
      rw [UInt8.toNat_ofNat']
      omega
    have hhigh : (b.toNat + 256 * ofLeBytes bytes) / 256 = ofLeBytes bytes := by omega
    rw [ofLeBytes, List.length_cons, leBytes, hlow, hhigh, ih]

/-- A format of values. -/
structure Codec (α : Type) where
  write : α → List UInt8
  read : List UInt8 → Option (α × List UInt8)
  read_write : ∀ a rest, read (write a ++ rest) = some (a, rest)
  write_of_read : ∀ {bytes a rest}, read bytes = some (a, rest) → bytes = write a ++ rest

namespace Codec

/-- Reads a whole input. -/
def decode (c : Codec α) (bytes : List UInt8) : Option α :=
  match c.read bytes with
  | some (a, []) => some a
  | _ => none

/-- What is accepted is what was written. -/
lemma decode_eq_some {c : Codec α} {bytes : List UInt8} {a : α} : c.decode bytes = some a ↔ bytes = c.write a := by
  constructor
  · intro h
    unfold decode at h
    split at h
    · rename_i b hread
      cases h
      rw [c.write_of_read hread, List.append_nil]
    · cases h
  · rintro rfl
    have hread := c.read_write a []
    rw [List.append_nil] at hread
    rw [decode, hread]

/-- Values that take a fixed number of bytes. -/
def fixed (n : ℕ) (write : α → List UInt8) (parse : List UInt8 → α) (length_write : ∀ a, (write a).length = n)
    (parse_write : ∀ a, parse (write a) = a)
    (write_parse : ∀ bytes, bytes.length = n → write (parse bytes) = bytes) : Codec α where
  write := write
  read bytes := if n ≤ bytes.length then some (parse (bytes.take n), bytes.drop n) else none
  read_write := by
    intro a rest
    rw [if_pos (by rw [List.length_append, length_write]; exact Nat.le_add_right ..),
      List.take_left' (length_write a), List.drop_left' (length_write a), parse_write]
  write_of_read := by
    intro bytes a rest h
    split at h
    · rename_i hn
      cases h
      rw [write_parse _ (by rw [List.length_take, Nat.min_eq_left hn]), List.take_append_drop]
    · cases h

/-- An unsigned integer of `w` bytes. -/
def uint (w : ℕ) : Codec (BitVec (8 * w)) :=
  fixed w (fun n => leBytes w n.toNat) (fun bytes => BitVec.ofNat _ (ofLeBytes bytes))
    (fun _ => length_leBytes w _)
    (by
      intro n
      have hn : n.toNat < 256 ^ w := by
        have := n.isLt
        rwa [Nat.pow_mul] at this
      rw [ofLeBytes_leBytes hn, BitVec.ofNat_toNat, BitVec.setWidth_eq])
    (by
      rintro bytes rfl
      have hlt : ofLeBytes bytes < 2 ^ (8 * bytes.length) := by
        rw [Nat.pow_mul]
        exact ofLeBytes_lt bytes
      rw [BitVec.toNat_ofNat, Nat.mod_eq_of_lt hlt, leBytes_ofLeBytes])

/-- One byte. -/
def byte : Codec UInt8 where
  write b := [b]
  read
    | [] => none
    | b :: rest => some (b, rest)
  read_write _ _ := rfl
  write_of_read := by
    intro bytes a rest h
    cases bytes with
    | nil => cases h
    | cons b bytes => cases h; rfl

/-- One of `n` cases, by its number. -/
def fin (n : ℕ) (hn : n ≤ 256) : Codec (Fin n) where
  write i := [UInt8.ofNat i]
  read
    | [] => none
    | b :: rest => if h : b.toNat < n then some (⟨b.toNat, h⟩, rest) else none
  read_write := by
    intro i rest
    have hi : (UInt8.ofNat i).toNat = i := UInt8.toNat_ofNat_of_lt' (Nat.lt_of_lt_of_le i.isLt hn)
    simp only [List.singleton_append, hi, i.isLt, dite_true]
  write_of_read := by
    intro bytes i rest h
    cases bytes with
    | nil => cases h
    | cons b bytes =>
      dsimp only at h
      split at h
      · cases h
        exact congrArg (· :: _) UInt8.ofNat_toNat.symm
      · cases h

/-- No bytes at all. -/
def empty : Codec Unit where
  write _ := []
  read bytes := some ((), bytes)
  read_write _ _ := rfl
  write_of_read := by
    intro bytes a rest h
    cases h
    rfl

/-- Two values, one after the other. -/
def pair (c : Codec α) (d : Codec β) : Codec (α × β) where
  write p := c.write p.1 ++ d.write p.2
  read bytes := do
    let (a, bytes) ← c.read bytes
    let (b, bytes) ← d.read bytes
    return ((a, b), bytes)
  read_write := by
    intro p rest
    rw [List.append_assoc, c.read_write]
    show ((d.read (d.write p.2 ++ rest)).bind fun q => some ((p.1, q.1), q.2)) = _
    rw [d.read_write]
    rfl
  write_of_read := by
    intro bytes p rest h
    obtain ⟨⟨a, bytes₁⟩, hc, h⟩ := Option.bind_eq_some_iff.1 h
    obtain ⟨⟨b, bytes₂⟩, hd, h⟩ := Option.bind_eq_some_iff.1 h
    cases h
    rw [c.write_of_read hc, d.write_of_read hd, List.append_assoc]

/-- The same bytes, read as another type. -/
def map (c : Codec α) (f : α → β) (g : β → α) (hfg : ∀ b, f (g b) = b) (hgf : ∀ a, g (f a) = a) : Codec β where
  write b := c.write (g b)
  read bytes := (c.read bytes).map fun p => (f p.1, p.2)
  read_write := by
    intro b rest
    rw [c.read_write, Option.map_some, hfg]
  write_of_read := by
    intro bytes b rest h
    obtain ⟨⟨a, bytes₁⟩, hc, h⟩ := Option.map_eq_some_iff.1 h
    cases h
    rw [hgf]
    exact c.write_of_read hc

/-- A value or none, after a byte that says which. -/
def option (c : Codec α) : Codec (Option α) where
  write
    | none => [0]
    | some a => 1 :: c.write a
  read
    | [] => none
    | b :: bytes =>
      if b = 0 then some (none, bytes)
      else if b = 1 then (c.read bytes).map fun p => (some p.1, p.2)
      else none
  read_write := by
    rintro (_ | a) rest
    · rfl
    · show ((c.read (c.write a ++ rest)).map fun p => (some p.1, p.2)) = _
      rw [c.read_write]
      rfl
  write_of_read := by
    intro bytes o rest h
    cases bytes with
    | nil => cases h
    | cons b bytes =>
      dsimp only at h
      split at h
      · subst b
        cases h
        rfl
      split at h
      · subst b
        obtain ⟨⟨a, bytes₁⟩, hc, h⟩ := Option.map_eq_some_iff.1 h
        cases h
        exact congrArg (1 :: ·) (c.write_of_read hc)
      · cases h

/-- One kind of value of a tagged union: its fields, and the value that they make. -/
@[irreducible] def arm (c : Codec α) (make : α → β) (bytes : List UInt8) : Option (β × List UInt8) :=
  (c.read bytes).map fun p => (make p.1, p.2)

/-- The fields that were written are read back, -/
lemma arm_write (c : Codec α) (make : α → β) (a : α) (rest : List UInt8) :
    c.arm make (c.write a ++ rest) = some (make a, rest) := by
  rw [arm, c.read_write, Option.map_some]

/-- and nothing else is. -/
lemma arm_eq_some {c : Codec α} {make : α → β} {bytes rest : List UInt8} {b : β} :
    c.arm make bytes = some (b, rest) ↔ ∃ a, b = make a ∧ bytes = c.write a ++ rest := by
  constructor
  · intro h
    rw [arm] at h
    obtain ⟨⟨a, bytes₁⟩, hc, h⟩ := Option.map_eq_some_iff.1 h
    cases h
    exact ⟨a, rfl, c.write_of_read hc⟩
  · rintro ⟨a, rfl, rfl⟩
    exact c.arm_write make a rest

end Codec
end Lib
