import ReceiptPress.Proofs.Synthesis.Substitution
import ReceiptPress.Proofs.Synthesis.Width

namespace ReceiptPress

namespace Tag.Dictionary

variable (d : Dictionary)

variable {d}

end Tag.Dictionary

namespace Synthesis

variable {s : Setting} {line u : Text}

def Setting.PutsSafe (s : Setting) (lines : List Text) : Prop :=
  ∀ line ∈ lines, isBlock s.dictionary line = false →
    Synthesis.PutsSafe s.sale (s.dictionary.ofCategories [.data]) line

instance (s : Setting) (lines : List Text) : Decidable (s.PutsSafe lines) :=
  inferInstanceAs (Decidable (∀ line ∈ lines, isBlock s.dictionary line = false →
    Synthesis.PutsSafe s.sale (s.dictionary.ofCategories [.data]) line))

def Notice.isLeak : Notice → Bool
  | leak _ => true
  | _ => false

theorem filter_isLeak_printed (lines : List Text) :
    (printed s lines).notices.filter Notice.isLeak = [] := by
  rw [List.filter_eq_nil_iff]
  intro n mem
  obtain ⟨i, -, line_eq⟩ := line_of_notice_mem_printLines (Expansion.mem_notices.1 mem)
  cases n with
  | leak switch => cases line_eq
  | overflow | noItems => exact Bool.false_ne_true

theorem filter_isLeak_notices {t : CodePoints} (completed : (run s (.str t)).Completed) :
    (run s (.str t)).notices.filter Notice.isLeak =
      ((printed s (Text.lines t.toText)).progress.tracker.leaks s.dictionary).map .leak := by
  have leaks_only : ∀ n ∈ ((printed s (Text.lines t.toText)).progress.tracker.leaks
      s.dictionary).map Notice.leak, n.isLeak = true := by
    intro n mem
    obtain ⟨switch, -, rfl⟩ := List.mem_map.1 mem
    rfl
  rw [notices_of_completed completed, List.filter_append, filter_isLeak_printed,
    List.filter_eq_self.2 leaks_only, List.nil_append]

/-- A line that is printed as the text that it becomes when its data tags are exchanged. -/
structure PrintedAs (s : Setting) (before : List Text) (line u : Text) : Prop where
  substituted : substitute s.sale s.dictionary line = .ok u
  emitted_eq : emitted s (before ++ [line]) =
    emitted s before ++ (s.dictionary.splitLine u ++ [.ofText lineFeed])

section Completed

variable {t : CodePoints} (completed : (run s (.str t)).Completed)
  (safe : s.PutsSafe (Text.lines t.toText)) {before after : List Text}

include completed safe

end Completed

end Synthesis

end ReceiptPress
