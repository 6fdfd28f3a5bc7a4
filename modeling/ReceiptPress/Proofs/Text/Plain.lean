import ReceiptPress.Number.Amount
import ReceiptPress.Proofs.Stream.Framing
import ReceiptPress.Text.Scan

namespace ReceiptPress

namespace Text

def Plain (t : Text) : Prop := ∀ c ∈ t, c ≠ '\x1b' ∧ c ≠ '\x1d'

instance (t : Text) : Decidable t.Plain :=
  List.decidableBAll (fun c => c ≠ '\x1b' ∧ c ≠ '\x1d') t

theorem Plain.of_subset {s t : Text} (plain : t.Plain) (sub : ∀ c ∈ s, c ∈ t) : s.Plain :=
  fun c mem => plain c (sub c mem)

theorem plain_append {s t : Text} : (s ++ t).Plain ↔ s.Plain ∧ t.Plain :=
  List.forall_mem_append

theorem plain_cons {c : Char} {t : Text} :
    Plain (c :: t) ↔ (c ≠ '\x1b' ∧ c ≠ '\x1d') ∧ t.Plain :=
  List.forall_mem_cons

theorem plain_replicate (n : Nat) {c : Char} (h : c ≠ '\x1b' ∧ c ≠ '\x1d') :
    Plain (List.replicate n c) := by
  intro x mem
  rw [List.eq_of_mem_replicate mem]
  exact h

theorem mem_of_mem_lines {t line : Text} (among : line ∈ lines t) {c : Char} (mem : c ∈ line) :
    c ∈ t := by
  induction t generalizing line with
  | nil =>
    rw [lines, List.mem_singleton] at among
    rwa [among] at mem
  | cons first cs ih =>
    rw [lines] at among
    split at among
    · rcases List.mem_cons.1 among with rfl | among
      · cases mem
      · exact List.mem_cons_of_mem _ (ih among mem)
    · split at among
      · rename_i none
        exact absurd none (lines_ne_nil cs)
      · rename_i head rest eq
        rcases List.mem_cons.1 among with rfl | among
        · rcases List.mem_cons.1 mem with rfl | mem
          · exact List.mem_cons_self
          · exact List.mem_cons_of_mem _ (ih (eq ▸ List.mem_cons_self) mem)
        · exact List.mem_cons_of_mem _ (ih (eq ▸ List.mem_cons_of_mem _ among) mem)

theorem Plain.lines {t : Text} (plain : t.Plain) {line : Text} (among : line ∈ Text.lines t) :
    line.Plain :=
  plain.of_subset fun _ => mem_of_mem_lines among

theorem mem_of_char_mem_pieces {recognise : Recogniser} {t : Text} {c : Char}
    (mem : .char c ∈ pieces recognise t) : c ∈ t := by
  have joined := flatMap_text_piecesFrom recognise 0 t
  rw [List.drop_zero] at joined
  rw [← joined, List.mem_flatMap]
  exact ⟨.char c, mem, List.mem_singleton.2 rfl⟩

theorem plain_replace {word value t : Text} (plain : t.Plain) (given : value.Plain) :
    (replace word value t).Plain := by
  intro c mem
  obtain ⟨p, among, here⟩ := List.mem_flatMap.1 mem
  cases p with
  | char x =>
    rw [List.mem_singleton.1 here]
    exact plain x (mem_of_char_mem_pieces among)
  | found w => exact given c here

theorem plain_ofNat (n : Nat) : (ofNat n).Plain := by
  intro c mem
  have digit : c.isDigit = true := Nat.isDigit_of_mem_toDigits (by decide) (by decide) mem
  constructor
  · rintro rfl
    cases digit
  · rintro rfl
    cases digit

theorem asciiByte_ne {c : Char} {b : UInt8} (mark : b ≠ 63) (ne : c ≠ Char.ofNat b.toNat) :
    asciiByte c ≠ b := by
  intro eq
  unfold asciiByte isAscii at eq
  split at eq
  · rename_i ascii
    apply ne
    have small : c.toNat < 2 ^ 8 := Nat.lt_trans (of_decide_eq_true ascii) (by decide)
    rw [← eq, UInt8.toNat_ofNat', Nat.mod_eq_of_lt small, Char.ofNat_toNat]
  · exact mark eq.symm

theorem plain_toAscii {t : Text} (plain : t.Plain) : Bytes.Plain (toAscii t) := by
  intro b mem
  obtain ⟨c, among, rfl⟩ := List.mem_map.1 mem
  exact ⟨asciiByte_ne (by decide) (plain c among).1, asciiByte_ne (by decide) (plain c among).2⟩

end Text

namespace Amount

open Text

theorem plain_hundredthsText (n : Nat) : Plain (hundredthsText n) := by
  rw [hundredthsText, plain_append, plain_cons, List.leftpad, plain_append]
  exact ⟨plain_ofNat _, by decide, plain_replicate _ (by decide), plain_ofNat _⟩

theorem plain_fixedBinary64 (x : Binary64) : Plain (fixedBinary64 x) := by
  cases x with
  | nan => decide
  | infinite negative => cases negative <;> decide
  | finite negative m e =>
    cases negative with
    | false => exact plain_hundredthsText _
    | true => exact plain_cons.2 ⟨by decide, plain_hundredthsText _⟩

theorem plain_fixedText {a : Amount} {t : Text} (written : a.fixedText = .ok t) : t.Plain := by
  unfold fixedText at written
  cases converted : a.toBinary64 with
  | error f =>
    rw [converted] at written
    cases written
  | ok x =>
    rw [converted] at written
    rw [← Except.ok.inj written]
    exact plain_fixedBinary64 x

end Amount

end ReceiptPress
