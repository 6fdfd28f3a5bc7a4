import ReceiptPress.Proofs.Faults
import ReceiptPress.Proofs.Synthesis.Passes
import ReceiptPress.Proofs.Tag.Shape

namespace ReceiptPress.Synthesis

/-! ## One line -/

/-- What is wrong with the expansion of a block tag: the logo cannot be drawn, the next transaction
id makes no barcode, or nothing expands the tag. -/
def expansionProblem? (s : Setting) (used : Nat) (tag : Text) (number : Nat) : Option Problem :=
  if tag = Tag.logo then (cause? (Raster.logo s.profile)).map (.logoFault · number)
  else if tag = Tag.barcode then
    (cause? (s.ids used >>= Barcode.ofValue)).map (.barcodeFault · number)
  else if tag = Tag.items then none
  else some (.noExpansion tag number)

def lineProblem? (s : Setting) (used : Nat) (line : Text) (number : Nat) : Option Problem :=
  if isBlock s.dictionary line then expansionProblem? s used (Text.trim line) number else none

variable {s : Setting} {p : Progress} {number : Nat}

theorem problems_printLine {line : Text} (ok : (printLine s p line number).fault = none) :
    (printLine s p line number).problems = (lineProblem? s p.idsUsed line number).toList := by
  have outcome := printLine_outcome s p line number
  generalize printLine s p line number = e at ok outcome
  have other : Tag.barcode ≠ Tag.logo ∧ Tag.items ≠ Tag.logo ∧ Tag.items ≠ Tag.barcode := by decide
  obtain ⟨barcode_ne_logo, items_ne_logo, items_ne_barcode⟩ := other
  cases outcome with
  | idFault | dataFault | limitFault => cases ok
  | logoFault block tag fault =>
    have rejected : Raster.logo s.profile = .error _ := congrArg (Raster.Canvas.image <$> ·) fault
    rw [lineProblem?, if_pos block, expansionProblem?, if_pos tag, rejected]
    rfl
  | logo block tag drawn =>
    have made : Raster.logo s.profile = .ok _ := congrArg (Raster.Canvas.image <$> ·) drawn
    rw [lineProblem?, if_pos block, expansionProblem?, if_pos tag, made]
    rfl
  | barcodeFault block tag asked fault =>
    rename_i id f
    have rejected : (s.ids p.idsUsed >>= Barcode.ofValue) = .error f := by
      rw [asked]
      exact fault
    rw [lineProblem?, if_pos block, expansionProblem?, tag, if_neg barcode_ne_logo, if_pos rfl,
      rejected]
    rfl
  | barcode block tag asked made =>
    rename_i id bytes
    have accepted : (s.ids p.idsUsed >>= Barcode.ofValue) = .ok bytes := by
      rw [asked]
      exact made
    rw [lineProblem?, if_pos block, expansionProblem?, tag, if_neg barcode_ne_logo, if_pos rfl,
      accepted]
    rfl
  | noItems block tag =>
    rw [lineProblem?, if_pos block, expansionProblem?, tag, if_neg items_ne_logo,
      if_neg items_ne_barcode, if_pos rfl]
    rfl
  | items block tag =>
    have silent : (rows s.profile s.sale.items).1.filterMap Event.problem? = [] :=
      filterMap_rows (fun _ => rfl) s.profile s.sale.items
    rw [lineProblem?, if_pos block, expansionProblem?, tag, if_neg items_ne_logo,
      if_neg items_ne_barcode, if_pos rfl]
    exact silent
  | noExpansion block no_logo no_barcode no_items =>
    rw [lineProblem?, if_pos block, expansionProblem?, if_neg no_logo, if_neg no_barcode,
      if_neg no_items]
    rfl
  | text inline substituted checked =>
    rw [lineProblem?, inline, if_neg Bool.false_ne_true]
    exact filterMap_problem?_text checked _ _

/-! ## All lines -/

section Indexed

variable {α : Type} (d : Tag.Dictionary) (f : (used : Nat) → Text → (number : Nat) → Option α)

/-- What is known of the line at an index from the number of transaction ids used above it, its text
and its number. -/
def atLine? (used : Nat) (lines : List Text) (number i : Nat) : Option α :=
  lines[i]?.bind fun line => f (used + (lines.take i).countP (asksForId d)) line (number + i)

theorem atLine?_zero (used : Nat) (line : Text) (rest : List Text) (number : Nat) :
    atLine? d f used (line :: rest) number 0 = f used line number := rfl

theorem atLine?_succ (used : Nat) (line : Text) (rest : List Text) (number i : Nat) :
    atLine? d f used (line :: rest) number (i + 1) =
      atLine? d f (used + if asksForId d line then 1 else 0) rest (number + 1) i := by
  have above (n : Nat) : used + (n + if asksForId d line then 1 else 0) =
      used + (if asksForId d line then 1 else 0) + n := by omega
  have below : number + (i + 1) = number + 1 + i := by omega
  rw [atLine?, atLine?, List.getElem?_cons_succ, List.take_succ_cons, List.countP_cons, above,
    below]

end Indexed

def problemAt? (s : Setting) : Nat → List Text → Nat → Nat → Option Problem :=
  atLine? s.dictionary (lineProblem? s)

theorem problems_printLines {lines : List Text} (ok : (printLines s p lines number).fault = none) :
    (printLines s p lines number).problems =
      (List.range lines.length).filterMap (problemAt? s p.idsUsed lines number) := by
  induction lines generalizing p number with
  | nil => rfl
  | cons line rest ih =>
    rw [printLines_cons] at ok ⊢
    obtain ⟨here_ok, behind_ok⟩ := Expansion.fault_of_andThen ok
    have here := problems_printLine here_ok
    have behind := ih behind_ok
    rw [idsUsed_printLine] at behind
    have shifted : problemAt? s p.idsUsed (line :: rest) number ∘ Nat.succ =
        problemAt? s (p.idsUsed + if asksForId s.dictionary line then 1 else 0) rest
          (number + 1) :=
      funext (atLine?_succ s.dictionary (lineProblem? s) p.idsUsed line rest number)
    rw [Expansion.problems_andThen here_ok, here, behind, List.length_cons,
      List.range_succ_eq_map, List.filterMap_cons, List.filterMap_map, shifted, problemAt?,
      atLine?_zero]
    cases lineProblem? s p.idsUsed line number <;> rfl

theorem line_of_lineProblem? {used : Nat} {line : Text} {q : Problem}
    (found : lineProblem? s used line number = some q) : q.finding.line = some (number : Int) := by
  unfold lineProblem? at found
  split at found
  · unfold expansionProblem? at found
    split at found
    · obtain ⟨f, -, rfl⟩ := Option.map_eq_some_iff.1 found
      rfl
    split at found
    · obtain ⟨f, -, rfl⟩ := Option.map_eq_some_iff.1 found
      rfl
    split at found
    · cases found
    · cases found
      rfl
  · cases found

/-! ## A pass -/

def strayTags (d : Tag.Dictionary) (t : Text) : List (Nat × Text) :=
  (Text.occurrences Tag.size 0 t).filter fun f => f.2 ∉ d.entries.map Tag.Entry.tag

/-- The numbers of the lines that cannot be expanded, each with what is wrong. -/
def faultyLines (s : Setting) (t : Text) : List (Nat × Problem) :=
  (List.range (Text.lines t).length).filterMap fun i =>
    (problemAt? s 0 (Text.lines t) 1 i).map (i + 1, ·)

theorem unknownTags_eq_map (t : Text) :
    unknownTags s t = (strayTags s.dictionary t).map fun f => .unknownTag f.2 := by
  have missing (tag : Text) :
      (!s.dictionary.contains tag) = decide (tag ∉ s.dictionary.entries.map Tag.Entry.tag) := by
    rw [Bool.eq_iff_iff]
    simp [Tag.Dictionary.contains]
  have words_eq : Tag.words t = (Text.occurrences Tag.size 0 t).map Prod.snd := by
    rw [← Text.finds_eq_occurrences Tag.separate, Text.map_snd_finds]
    rfl
  rw [unknownTags, words_eq, List.filter_map, List.map_map, strayTags]
  exact congrArg _ (List.filter_congr fun f _ => missing f.2)

theorem problems_printed {t : Text} (ok : (printed s (Text.lines t)).fault = none) :
    (printed s (Text.lines t)).problems = (faultyLines s t).map Prod.snd := by
  have same : problemAt? s.ready = problemAt? s := rfl
  rw [printed, problems_printLines ok, same, faultyLines, List.map_filterMap]
  congr 1
  funext i
  rw [Option.map_map]
  exact Option.map_id'.symm

theorem mem_faultyLines {t : Text} {f : Nat × Problem} (mem : f ∈ faultyLines s t) :
    f.2.finding.line = some (f.1 : Int) ∧
      ∃ i line, f.1 = i + 1 ∧ (Text.lines t)[i]? = some line ∧
        isBlock s.dictionary line = true := by
  obtain ⟨i, -, numbered⟩ := List.mem_filterMap.1 mem
  obtain ⟨q, reported, rfl⟩ := Option.map_eq_some_iff.1 numbered
  obtain ⟨line, here, found⟩ := Option.bind_eq_some_iff.1 reported
  have number_eq : 1 + i = i + 1 := Nat.add_comm 1 i
  rw [number_eq] at found
  refine ⟨line_of_lineProblem? found, i, line, rfl, here, ?_⟩
  unfold lineProblem? at found
  split at found
  · assumption
  · cases found

/-- The errors of a complete pass, each with its text: one for every place of the template where a
tag without an entry stands, then that of an empty identifier, then one for every block line that
cannot be expanded. Lines of text add none, and the stream may be used exactly if there is nothing
of the three kinds. -/
theorem errors_of_completed {s : Setting} {t identifier : CodePoints}
    (named : s.sale.identifier = .str identifier) (completed : (run s (.str t)).Completed) :
    (run s (.str t)).errors =
        ((strayTags s.dictionary t.toText).map fun f =>
          "MALFORMED_TAG: \"" ++ String.ofList f.2 ++
            "\" is not a recognized ESC/POS instruction.") ++
        (if identifier = [] then
          ["CRITICAL: identifier is empty. A valid identity is required for every document."]
        else []) ++
        ((faultyLines s t.toText).map fun f =>
          "L" ++ toString f.1 ++ ": " ++ f.2.finding.message) ∧
      ((run s (.str t)).ok = true ↔
        strayTags s.dictionary t.toText = [] ∧ identifier ≠ [] ∧ faultyLines s t.toText = []) ∧
      ∀ i line, (Text.lines t.toText)[i]? = some line → isBlock s.dictionary line = false →
        ∀ q, (i + 1, q) ∉ faultyLines s t.toText := by
  have problems_eq := problems_of_completed completed
  rw [unknownTags_eq_map, problems_printed ((completed_iff s t).1 completed)] at problems_eq
  have identity_eq :
      identityProblems s = if identifier = [] then [.noIdentity] else [] := by
    rw [identityProblems, named]
    cases identifier <;> rfl
  rw [identity_eq] at problems_eq
  refine ⟨?_, ?_, ?_⟩
  · have line_text : ∀ f ∈ faultyLines s t.toText,
        f.2.finding.text = "L" ++ toString f.1 ++ ": " ++ f.2.finding.message := by
      intro f mem
      rw [Finding.text, (mem_faultyLines mem).1]
      rfl
    have errors_eq : (run s (.str t)).errors =
        (run s (.str t)).problems.map fun q => q.finding.text := List.map_map
    rw [errors_eq, problems_eq, List.map_append, List.map_append, List.map_map, List.map_map,
      ← List.map_congr_left line_text]
    congr 2
    split <;> rfl
  · have ok_iff : (run s (.str t)).ok = true ↔ (run s (.str t)).problems = [] := by
      rw [Result.ok, Diagnostics.ok, List.isEmpty_iff]
      exact List.map_eq_nil_iff
    rw [ok_iff, problems_eq, List.append_eq_nil_iff, List.append_eq_nil_iff, List.map_eq_nil_iff,
      List.map_eq_nil_iff, and_assoc]
    cases identifier <;> simp
  · intro i line here inline q mem
    obtain ⟨-, j, other, index_eq, there, block⟩ := mem_faultyLines mem
    obtain rfl : i = j := Nat.succ.inj index_eq
    rw [here] at there
    cases there
    rw [inline] at block
    cases block

theorem errors_of_completed_barcodes :
    let s := Setting.small (.ofList [.ofText [], .ofText "SECOND".toList])
    let t := Text.toCodePoints "Tea {{NONE}}\n {{BARCODE}}\n{{BARCODE}}".toList
    s.sale.identifier = .ofText "Corner Shop".toList ∧ (run s (.str t)).Completed ∧
      strayTags s.dictionary t.toText = [(4, "{{NONE}}".toList)] ∧
      faultyLines s t.toText = [(2, .barcodeFault .barcodeEmpty 2)] ∧
      (run s (.str t)).errors =
        ["MALFORMED_TAG: \"{{NONE}}\" is not a recognized ESC/POS instruction.",
          "L2: Barcode generation fault (Instruction GS k 73): Barcode payload is empty"] := by
  intro s t
  have completed : (run s (.str t)).Completed := (completed_iff s t).2 (by decide +kernel)
  have stray : strayTags s.dictionary t.toText = [(4, "{{NONE}}".toList)] := by decide +kernel
  have faulty : faultyLines s t.toText = [(2, .barcodeFault .barcodeEmpty 2)] := by decide +kernel
  refine ⟨rfl, completed, stray, faulty, (errors_of_completed rfl completed).1.trans ?_⟩
  rw [stray, faulty]
  decide +kernel

end ReceiptPress.Synthesis
