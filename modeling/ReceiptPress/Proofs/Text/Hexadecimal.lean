import ReceiptPress.Bytes.Basic

namespace ReceiptPress.Text

def lowerHexValue? (c : Char) : Option Nat := if c.isUpper then none else hexValue? c

def upperHexValue? (c : Char) : Option Nat := if c.isLower then none else hexValue? c

theorem lowerHexValue?_hexDigit {n : Nat} (small : n < 16) :
    lowerHexValue? (hexDigit n) = some n := by
  have all : ∀ k < 16, lowerHexValue? (hexDigit k) = some k := by decide
  exact all n small

theorem upperHexValue?_upperHexDigit {n : Nat} (small : n < 16) :
    upperHexValue? (upperHexDigit n) = some n := by
  have all : ∀ k < 16, upperHexValue? (upperHexDigit k) = some k := by decide
  exact all n small

def pairs (digit : Nat → Char) (bytes : Bytes) : Text :=
  join [' '] (bytes.map fun b => [digit (b.toNat / 16), digit (b.toNat % 16)])

def pairByte? (value? : Char → Option Nat) (a b : Char) : Option UInt8 := do
  return UInt8.ofNat ((← value? a) * 16 + (← value? b))

def ofPairs? (value? : Char → Option Nat) : Text → Option Bytes
  | [] => some []
  | [a, b] => do return [← pairByte? value? a b]
  | a :: b :: ' ' :: c :: rest => do
    return (← pairByte? value? a b) :: (← ofPairs? value? (c :: rest))
  | _ => none

section

variable {digit : Nat → Char}

theorem pairs_cons_cons (b next : UInt8) (rest : Bytes) :
    pairs digit (b :: next :: rest) =
      digit (b.toNat / 16) :: digit (b.toNat % 16) :: ' ' :: pairs digit (next :: rest) := by
  rw [pairs, join, List.map_cons, List.map_cons, List.intercalate_cons_cons, List.append_assoc]
  rfl

theorem length_pairs (bytes : Bytes) : (pairs digit bytes).length = 3 * bytes.length - 1 := by
  induction bytes with
  | nil => rfl
  | cons b rest ih =>
    cases rest with
    | nil => rfl
    | cons next rest =>
      simp only [pairs_cons_cons, List.length_cons] at ih ⊢
      omega

theorem head?_pairs (b : UInt8) (rest : Bytes) :
    (pairs digit (b :: rest)).head? = some (digit (b.toNat / 16)) := by
  cases rest with
  | nil => rfl
  | cons next rest =>
    rw [pairs_cons_cons]
    rfl

theorem getLast?_pairs (front : Bytes) (b : UInt8) :
    (pairs digit (front ++ [b])).getLast? = some (digit (b.toNat % 16)) := by
  induction front with
  | nil => rfl
  | cons a front ih =>
    cases split : front ++ [b] with
    | nil => simp at split
    | cons next rest =>
      rw [split] at ih
      rw [List.cons_append, split, pairs_cons_cons, List.getLast?_cons_cons,
        List.getLast?_cons_cons, List.getLast?_cons, ih]
      rfl

theorem mem_pairs {bytes : Bytes} {c : Char} (mem : c ∈ pairs digit bytes) :
    c = ' ' ∨ ∃ k < 16, c = digit k := by
  have pair {b : UInt8} (mem : c = digit (b.toNat / 16) ∨ c = digit (b.toNat % 16)) :
      ∃ k < 16, c = digit k := by
    rcases mem with rfl | rfl
    · exact ⟨_, Nat.div_lt_of_lt_mul b.toNat_lt, rfl⟩
    · exact ⟨_, Nat.mod_lt _ (by decide), rfl⟩
  induction bytes with
  | nil => cases mem
  | cons b rest ih =>
    cases rest with
    | nil => exact .inr (pair (b := b) (by simpa [pairs, join] using mem))
    | cons next rest =>
      rw [pairs_cons_cons, List.mem_cons, List.mem_cons, List.mem_cons] at mem
      rcases mem with high | low | space | behind
      · exact .inr (pair (.inl high))
      · exact .inr (pair (.inr low))
      · exact .inl space
      · exact ih behind

variable {value? : Char → Option Nat} (reads : ∀ {n : Nat}, n < 16 → value? (digit n) = some n)

include reads

theorem pairByte?_digits (b : UInt8) :
    pairByte? value? (digit (b.toNat / 16)) (digit (b.toNat % 16)) = some b := by
  have high : b.toNat / 16 < 16 := Nat.div_lt_of_lt_mul b.toNat_lt
  have low : b.toNat % 16 < 16 := Nat.mod_lt _ (by decide)
  have byte : UInt8.ofNat (b.toNat / 16 * 16 + b.toNat % 16) = b := by
    rw [Nat.div_add_mod', UInt8.ofNat_toNat]
  rw [pairByte?, reads high, reads low]
  exact congrArg some byte

theorem ofPairs?_pairs (bytes : Bytes) : ofPairs? value? (pairs digit bytes) = some bytes := by
  induction bytes with
  | nil => rfl
  | cons b rest ih =>
    cases rest with
    | nil => simp [pairs, join, ofPairs?, pairByte?_digits reads b]
    | cons next rest =>
      obtain ⟨tail, split⟩ := List.head?_eq_some_iff.1 (@head?_pairs digit next rest)
      rw [split] at ih
      rw [pairs_cons_cons, split, ofPairs?, pairByte?_digits reads b, ih]
      rfl

end

def ofHex? (digits : Text) : Option Nat :=
  digits.foldlM (fun n c => do return 16 * n + (← lowerHexValue? c)) 0

theorem ofHex?_zeros (n : Nat) (t : Text) :
    ofHex? (List.replicate n '0' ++ t) = ofHex? t := by
  induction n with
  | zero => rfl
  | succ n ih =>
    rw [← ih]
    rfl

theorem ofHex?_toDigits (n : Nat) : ofHex? (Nat.toDigits 16 n) = some n := by
  induction n using Nat.strongRecOn with
  | ind n ih =>
    rw [Nat.toDigits_eq_if (by decide)]
    split
    · rename_i small
      have value : lowerHexValue? n.digitChar = some n := lowerHexValue?_hexDigit small
      simp [ofHex?, value]
    · have value : lowerHexValue? (n % 16).digitChar = some (n % 16) :=
        lowerHexValue?_hexDigit (Nat.mod_lt n (by decide))
      have front := ih (n / 16) (by omega)
      rw [ofHex?] at front ⊢
      rw [List.foldlM_append, front]
      simp [value, Nat.div_add_mod]

theorem ofHex?_hex (width n : Nat) : ofHex? (hex width n) = some n := by
  rw [hex, List.leftpad, ofHex?_zeros, ofHex?_toDigits]

theorem mem_toDigits {n : Nat} {c : Char} (mem : c ∈ Nat.toDigits 16 n) :
    ∃ k < 16, c = hexDigit k := by
  induction n using Nat.strongRecOn with
  | ind n ih =>
    rw [Nat.toDigits_eq_if (by decide)] at mem
    split at mem
    · rename_i small
      exact ⟨n, small, List.mem_singleton.1 mem⟩
    · rcases List.mem_append.1 mem with front | last
      · exact ih (n / 16) (by omega) front
      · exact ⟨n % 16, Nat.mod_lt n (by decide), List.mem_singleton.1 last⟩

theorem mem_hex {width n : Nat} {c : Char} (mem : c ∈ hex width n) : ∃ k < 16, c = hexDigit k := by
  rw [hex, List.leftpad, List.mem_append] at mem
  rcases mem with zero | digit
  · exact ⟨0, by decide, List.eq_of_mem_replicate zero⟩
  · exact mem_toDigits digit

end ReceiptPress.Text
