import ReceiptPress.Proofs.Synthesis.Formatting
import ReceiptPress.Proofs.Tag.Rendering

namespace ReceiptPress

namespace Synthesis

def Problem.unknownTag? : Problem → Option Text
  | unknownTag tag => some tag
  | _ => none

def unknownTagOpening : Text := "MALFORMED_TAG".toList

def lineLiterals (s : Setting) (line : Text) : List Chunk :=
  if isBlock s.dictionary line then []
  else
    match substitute s.sale s.dictionary line with
    | .ok u => s.dictionary.literalChunks u
    | .error _ => []

variable {s : Setting} {line u : Text}

theorem lineLiterals_of_inline (inline : isBlock s.dictionary line = false)
    (substituted : substitute s.sale s.dictionary line = .ok u) :
    lineLiterals s line = s.dictionary.literalChunks u := by
  rw [lineLiterals, inline, substituted]
  rfl

theorem contains_of_isBlock (block : isBlock s.dictionary line = true) :
    s.dictionary.contains (Text.trim line) = true := by
  obtain ⟨e, among, tag_eq⟩ := List.any_eq_true.1 block
  exact s.dictionary.contains_iff.2
    ⟨e, (List.mem_filter.1 among).1, of_decide_eq_true tag_eq⟩

theorem unlisted_of_isBlock (block : isBlock s.dictionary line = true) :
    s.dictionary.unlisted line = [] := by
  have listed := contains_of_isBlock block
  have alone := Tag.words_of_isTag (s.dictionary.isTag_of_contains listed)
  rw [Tag.Dictionary.unlisted, ← Tag.words_trim, alone]
  simp [listed]

theorem unlisted_substitute (safe : PutsSafe s.sale (s.dictionary.ofCategories [.data]) line)
    (substituted : substitute s.sale s.dictionary line = .ok u) :
    s.dictionary.unlisted u = s.dictionary.unlisted line := by
  rw [Tag.Dictionary.unlisted, Tag.Dictionary.unlisted, words_substitute safe substituted,
    List.filter_filter]
  refine List.filter_congr fun w _ => ?_
  cases listed : s.dictionary.contains w with
  | true => rfl
  | false =>
    have no_data : w ∉ (s.dictionary.ofCategories [.data]).map Tag.Entry.tag := by
      intro mem
      obtain ⟨e, data, rfl⟩ := List.mem_map.1 mem
      rw [s.dictionary.contains_iff.2 ⟨e, (List.mem_filter.1 data).1, rfl⟩] at listed
      cases listed
    simpa using no_data

theorem unlisted_lineLiterals (readable : isBlock s.dictionary line = false →
      PutsSafe s.sale (s.dictionary.ofCategories [.data]) line ∧
        ∃ u, substitute s.sale s.dictionary line = .ok u) :
    (lineLiterals s line).flatMap (fun c => s.dictionary.unlisted c.text) =
      s.dictionary.unlisted line := by
  cases block : isBlock s.dictionary line with
  | true =>
    rw [lineLiterals, if_pos block, unlisted_of_isBlock block]
    rfl
  | false =>
    obtain ⟨safe, u, substituted⟩ := readable block
    rw [lineLiterals_of_inline block substituted, s.dictionary.unlisted_literalChunks,
      unlisted_substitute safe substituted]

theorem unlisted_eq_flatMap_lines (d : Tag.Dictionary) (t : Text) :
    d.unlisted t = (Text.lines t).flatMap d.unlisted := by
  rw [Tag.Dictionary.unlisted, Tag.words,
    Text.words_eq_flatMap_lines Tag.separate Tag.withinLines, List.filter_flatMap]
  rfl

def otherProblems (s : Setting) (t : Text) : List Problem :=
  identityProblems s ++ (printed s (Text.lines t)).problems

theorem unknownTag?_of_mem_otherProblems {t : Text} {p : Problem} (mem : p ∈ otherProblems s t) :
    p.unknownTag? = none ∧ ¬unknownTagOpening <+: p.finding.text.toList := by
  rcases List.mem_append.1 mem with identity | of_line
  · unfold identityProblems at identity
    split at identity
    · cases identity
    · rw [List.mem_singleton.1 identity]
      exact ⟨rfl, by decide +kernel⟩
  · have numbered := isOfLine_of_mem_printed of_line
    obtain ⟨n, line_eq⟩ := Option.isSome_iff_exists.1 numbered
    constructor
    · cases p with
      | unknownTag tag => cases numbered
      | _ => rfl
    · exact Finding.not_opening line_eq rfl (by decide)

variable {t : CodePoints}

theorem problems_eq_unlisted (completed : (run s (.str t)).Completed) :
    (run s (.str t)).problems =
      (s.dictionary.unlisted t.toText).map .unknownTag ++ otherProblems s t.toText := by
  rw [problems_of_completed completed, List.append_assoc]
  rfl

theorem filterMap_unknownTag?_problems (completed : (run s (.str t)).Completed) :
    (run s (.str t)).problems.filterMap Problem.unknownTag? = s.dictionary.unlisted t.toText := by
  have other : (otherProblems s t.toText).filterMap Problem.unknownTag? = [] :=
    List.filterMap_eq_nil_iff.2 fun p mem => (unknownTag?_of_mem_otherProblems mem).1
  rw [problems_eq_unlisted completed, List.filterMap_append, other, List.append_nil,
    List.filterMap_map]
  exact List.filterMap_some

/-- In a complete pass with safe texts in place of data tags, the errors that name an unknown tag
name the tags without an entry that are found in the literal chunks of the lines of text, in the
order in which they are printed and each as often. They come first; no other error begins as they
do. The literal chunks of a line are among the chunks that the line is split into, in the form that
it has when its data tags are exchanged. -/
theorem reported_eq_rendered (safe : s.PutsSafe (Text.lines t.toText))
    (completed : (run s (.str t)).Completed) :
    let rendered := ((Text.lines t.toText).flatMap (lineLiterals s)).flatMap fun c =>
      s.dictionary.unlisted c.text
    (run s (.str t)).problems.filterMap Problem.unknownTag? = rendered ∧
      (∃ others, (run s (.str t)).errors =
          (rendered.map fun tag => "MALFORMED_TAG: \"" ++ String.ofList tag ++
            "\" is not a recognized ESC/POS instruction.") ++ others ∧
          ∀ e ∈ others, ¬unknownTagOpening <+: e.toList) ∧
      ∀ before line after, Text.lines t.toText = before ++ line :: after →
        isBlock s.dictionary line = false →
        ∃ u, PrintedAs s before line u ∧ lineLiterals s line = s.dictionary.literalChunks u ∧
          (lineLiterals s line).Sublist (s.dictionary.splitLine u) := by
  intro rendered
  have rendered_eq : rendered = s.dictionary.unlisted t.toText := by
    have each : ∀ line ∈ Text.lines t.toText,
        ((lineLiterals s line).flatMap fun c => s.dictionary.unlisted c.text) =
          s.dictionary.unlisted line := by
      intro line mem
      apply unlisted_lineLiterals
      intro inline
      obtain ⟨before, after, lines_eq⟩ := List.append_of_mem mem
      obtain ⟨u, -, substituted, -⟩ := inline_of_completed completed lines_eq inline
      exact ⟨safe line mem inline, u, substituted⟩
    rw [unlisted_eq_flatMap_lines, List.flatMap_def, ← List.map_congr_left each, ← List.flatMap_def]
    exact List.flatMap_assoc
  refine ⟨(filterMap_unknownTag?_problems completed).trans rendered_eq.symm, ?_, ?_⟩
  · refine ⟨(otherProblems s t.toText).map fun p => p.finding.text, ?_, ?_⟩
    · rw [Result.errors_eq, problems_eq_unlisted completed, List.map_append, List.map_map,
        rendered_eq]
      rfl
    · intro e mem
      obtain ⟨p, among, rfl⟩ := List.mem_map.1 mem
      exact (unknownTag?_of_mem_otherProblems among).2
  · intro before line after lines_eq inline
    obtain ⟨u, -, substituted, emitted_eq, -⟩ := inline_of_completed completed lines_eq inline
    have literals_eq := lineLiterals_of_inline inline substituted
    refine ⟨u, ⟨substituted, emitted_eq⟩, literals_eq, ?_⟩
    rw [literals_eq]
    exact s.dictionary.literalChunks_sublist u

theorem reported_eq_rendered_stray :
    let s := Setting.small (.ofList [])
    let t := Text.toCodePoints
      "é{{NONE}}{{B_ON}}{{STORE_ID}}\x7b\x7b{{X}}\n {{LOGO}}\t\n{{{{B_OFF}}{{NONE}}}}".toList
    let stray : List Text := ["{{NONE}}".toList, "{{X}}".toList, "{{NONE}}".toList]
    s.PutsSafe (Text.lines t.toText) ∧ (run s (.str t)).Completed ∧
      (run s (.str t)).problems.filterMap Problem.unknownTag? = stray ∧
      ((Text.lines t.toText).flatMap (lineLiterals s)).flatMap (fun c =>
        s.dictionary.unlisted c.text) = stray := by
  intro s t stray
  have safe : s.PutsSafe (Text.lines t.toText) := by decide +kernel
  have completed : (run s (.str t)).Completed := (completed_iff s t).2 (by decide +kernel)
  have reported : (run s (.str t)).problems.filterMap Problem.unknownTag? = stray := by
    decide +kernel
  exact ⟨safe, completed, reported, (reported_eq_rendered safe completed).1.symm.trans reported⟩

end Synthesis

end ReceiptPress
