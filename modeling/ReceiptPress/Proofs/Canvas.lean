import ReceiptPress.Proofs.Faults
import ReceiptPress.Raster

namespace ReceiptPress.Raster

theorem Canvas.length_body (c : Canvas) : c.body.length = c.widthBytes * c.height := by
  simp only [body, List.length_flatMap, List.length_map, List.length_range]
  rw [List.map_const', List.sum_replicate_nat, List.length_range, Nat.mul_comm]

theorem isTooSmall_whole {n : Int} : isTooSmall (.whole n) = true ↔ n ≤ 0 :=
  Int.isLE_compare

theorem compareInt_whole {m n : Int} : Amount.compareInt m (.whole n) = some .gt ↔ m < n := by
  rw [Amount.compareInt, Option.some.injEq, Int.compare_eq_gt]

theorem canvas_ok {p : Profile} {c : Canvas} (made : canvas p = .ok c) :
    ∃ w h : Int, dimension p.dotWidth = .ok (.whole w) ∧ dimension p.logoHeight = .ok (.whole h) ∧
      0 < w ∧ 0 < h ∧ w % 8 = 0 ∧ w ≤ 8 * 65535 ∧ h ≤ 65535 ∧
      c.width = w.toNat ∧ c.height = h.toNat := by
  unfold canvas at made
  obtain ⟨width, width_eq, checked⟩ := bind_eq_ok.1 made
  dsimp only at checked
  split at checked
  · exact absurd checked throw_bind_ne_ok
  rename_i width_pos
  obtain ⟨height, height_eq, checked⟩ := bind_eq_ok.1 checked
  split at checked
  · exact absurd checked throw_bind_ne_ok
  rename_i height_pos
  split at checked
  · exact absurd checked throw_bind_ne_ok
  rename_i aligned
  split at checked
  · exact absurd checked throw_bind_ne_ok
  rename_i fits
  cases width with
  | real x => cases height <;> cases checked
  | whole w =>
    cases height with
    | real x => cases checked
    | whole h =>
      obtain ⟨label, -, finished⟩ := bind_eq_ok.1 checked
      rw [pure_eq_ok] at finished
      subst finished
      rw [isTooSmall_whole] at width_pos height_pos
      simp only [Bool.or_eq_true, decide_eq_true_eq, compareInt_whole, not_or] at fits
      simp only [Amount.isMultipleOf8, Bool.not_eq_true', decide_eq_false_iff_not,
        Decidable.not_not] at aligned
      exact ⟨w, h, width_eq, height_eq, by omega, by omega, aligned, by omega, by omega, rfl, rfl⟩

theorem canvas_lt {p : Profile} {c : Canvas} (made : canvas p = .ok c) :
    c.widthBytes < 65536 ∧ c.height < 65536 := by
  obtain ⟨w, h, -, -, -, -, -, width_le, height_le, width_eq, height_eq⟩ := canvas_ok made
  rw [Canvas.widthBytes]
  omega

end ReceiptPress.Raster
