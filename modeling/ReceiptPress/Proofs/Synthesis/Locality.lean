import ReceiptPress.Proofs.Synthesis.Losses

namespace ReceiptPress

def Profile.withLogo (p : Profile) (width height : Value) : Profile :=
  { p with dotWidth := width, logoHeight := height }

namespace Synthesis

variable {number : Nat}

/-! ## Logos -/

def isLogoLine (d : Tag.Dictionary) (line : Text) : Bool :=
  isBlock d line && Text.trim line = Tag.logo

theorem isLogoLine_iff {d : Tag.Dictionary} {line : Text} :
    isLogoLine d line = true ↔ isBlock d line = true ∧ Text.trim line = Tag.logo := by
  rw [isLogoLine, Bool.and_eq_true, decide_eq_true_eq]

theorem printLine_of_isLogoLine {s : Setting} {line : Text}
    (logo : isLogoLine s.dictionary line = true) (q : Progress) (number : Nat) :
    printLine s q line number = logoLine s q number :=
  printLine_of_logo (isLogoLine_iff.1 logo).1 q number (isLogoLine_iff.1 logo).2

def Setting.withLogo (s : Setting) (width height : Value) : Setting :=
  { s with profile := s.profile.withLogo width height }

theorem printLine_withLogo {s : Setting} {line : Text}
    (other : isLogoLine s.dictionary line = false) (width height : Value) (q : Progress)
    (number : Nat) :
    printLine (s.withLogo width height) q line number = printLine s q line number := by
  have row_eq (item : Item) : item.row (s.profile.withLogo width height) = item.row s.profile := rfl
  have items_eq : itemsLine (s.withLogo width height) q number = itemsLine s q number := by
    unfold itemsLine
    rw [Setting.withLogo, rows_congr row_eq]
  have block_eq : isBlock (s.withLogo width height).dictionary line = isBlock s.dictionary line :=
    rfl
  rw [printLine, printLine, block_eq]
  cases block : isBlock s.dictionary line with
  | false => rfl
  | true =>
    have no_logo : Text.trim line ≠ Tag.logo := by simpa [isLogoLine, block] using other
    rw [if_pos rfl, if_pos rfl, blockLine, blockLine, if_neg no_logo, if_neg no_logo, items_eq]
    rfl

def logoLoss (d : Tag.Dictionary) (f : Fault) (_call : Nat) (line : Text) (number : Nat) :
    Option Problem :=
  if isLogoLine d line then some (.logoFault f number) else none

theorem text_logoLoss (d : Tag.Dictionary) (f : Fault) (lines : List Text) (i : Nat) :
    (atLine? d (logoLoss d f) 0 lines 1 i).map (·.finding.text) =
      if lines[i]?.any (isLogoLine d) then
        some ("L" ++ toString (i + 1) ++ ": " ++
          ("Binary rasterization fault for LOGO (" ++ f.message ++ ")."))
      else none := by
  rw [atLine?, Nat.add_comm 1 i]
  cases lines[i]? with
  | none => rfl
  | some line =>
    rw [Option.bind_some, Option.any_some, logoLoss]
    cases isLogoLine d line <;> rfl

theorem weakens_withLogo {s : Setting} {width height : Value} {f : Fault} {c : Raster.Canvas}
    (drawn : Raster.canvas s.profile = .ok c)
    (fault : Raster.canvas (s.profile.withLogo width height) = .error f) :
    Weakens s (s.withLogo width height) (logoLoss s.dictionary f) where
  step q line number := by
    cases logo : isLogoLine s.dictionary line with
    | false =>
      rw [logoLoss, logo]
      exact printLine_withLogo logo width height q number
    | true =>
      have other_fault : Raster.canvas (s.withLogo width height).profile = .error f := fault
      have other_eq : printLine (s.withLogo width height) q line number =
          logoLine (s.withLogo width height) q number :=
        printLine_of_isLogoLine (s := s.withLogo width height) logo q number
      rw [other_eq, printLine_of_isLogoLine logo, logoLine, logoLine, other_fault, drawn, logoLoss,
        logo]
      rfl
  only q line number p lost := by
    cases logo : isLogoLine s.dictionary line with
    | false => simp [logoLoss, logo] at lost
    | true =>
      rw [printLine_of_isLogoLine logo, logoLine, drawn]
      exact ⟨⟨_, rfl⟩, rfl, rfl⟩

theorem isLogoLine_of_image {s : Setting} {line : Text} {c : Chunk}
    (mem : c ∈ (printLine s q line number).chunks) (image : c.type = .image) :
    isLogoLine s.dictionary line = true := by
  have outcome := printLine_outcome s q line number
  generalize printLine s q line number = e at outcome mem
  cases outcome with
  | logo block tag => simp [isLogoLine, block, tag]
  | logoFault | idFault | barcodeFault | noItems | noExpansion | dataFault | limitFault => cases mem
  | barcode =>
    rw [List.mem_singleton.1 mem] at image
    cases image
  | items =>
    obtain ⟨_, -, _, -, eq⟩ := mem_rows (Expansion.mem_chunks.1 mem)
    cases eq
    cases image
  | text inline substituted checked =>
    rw [Expansion.chunks, filterMap_chunk?_text checked, List.mem_append, List.mem_singleton] at mem
    rcases mem with mem | rfl
    · obtain ⟨segment, -, rfl⟩ := List.mem_map.1 mem
      cases image
    · cases image

section Dimensions

variable {s : Setting} {width height : Value} {f : Fault} {canvas : Raster.Canvas}
  (drawn : Raster.canvas s.profile = .ok canvas)
  (fault : Raster.canvas (s.profile.withLogo width height) = .error f)

include drawn fault

theorem chunks_printLine_withLogo (q : Progress) (line : Text) (number : Nat) :
    (printLine (s.withLogo width height) q line number).chunks =
      (printLine s q line number).chunks.filter fun c => c.type ≠ .image := by
  cases logo : isLogoLine s.dictionary line with
  | true =>
    rw [(weakens_withLogo drawn fault).step, logoLoss, logo, printLine_of_isLogoLine logo, logoLine,
      drawn]
    rfl
  | false =>
    rw [printLine_withLogo logo, List.filter_eq_self.2]
    intro c mem
    have other : c.type ≠ .image := fun image => by simp [isLogoLine_of_image mem image] at logo
    simpa using other

theorem chunks_withLogo (t : CodePoints) :
    (run (s.withLogo width height) (.str t)).chunks =
      (run s (.str t)).chunks.filter fun c => c.type ≠ .image := by
  have weakens : Weakens s.ready (s.withLogo width height).ready _ :=
    weakens_withLogo (s := s.ready) drawn fault
  have lines_eq : (printed (s.withLogo width height) (Text.lines t.toText)).chunks =
      (printed s (Text.lines t.toText)).chunks.filter fun c => c.type ≠ .image := by
    refine (weakens.filterMap_events (fun q line number => ?_) (Text.lines t.toText)).trans
      List.filter_filterMap.symm
    exact (chunks_printLine_withLogo (s := s.ready) drawn fault q line number).trans
      List.filter_filterMap
  have fault_eq : (printed (s.withLogo width height) (Text.lines t.toText)).fault =
      (printed s (Text.lines t.toText)).fault := (weakens.printLines_eq (Text.lines t.toText)).2
  rw [chunks_run, chunks_run, emitted, emitted, lines_eq, fault_eq, List.filter_append]
  congr 1
  split <;> rfl

end Dimensions

/-! ## Barcodes -/

def lostBarcode? (d : Tag.Dictionary) (a b : Nat → Value) (call : Nat) (line : Text) :
    Option Fault :=
  if asksForId d line then
    match Barcode.ofValue (a call), Barcode.ofValue (b call) with
    | .ok _, .error f => some f
    | _, _ => none
  else none

theorem lostBarcode?_eq_some_iff {d : Tag.Dictionary} {a b : Nat → Value} {call : Nat}
    {line : Text} {f : Fault} : lostBarcode? d a b call line = some f ↔ asksForId d line = true ∧
      (∃ bytes, Barcode.ofValue (a call) = .ok bytes) ∧ Barcode.ofValue (b call) = .error f := by
  unfold lostBarcode?
  cases asksForId d line <;> cases Barcode.ofValue (a call) <;> cases Barcode.ofValue (b call) <;>
    simp

def Setting.answering (s : Setting) (ids : Nat → Value) : Setting :=
  { s with ids := fun call => .ok (ids call) }

theorem printLine_answering {s : Setting} {line : Text}
    (other : asksForId s.dictionary line = false) (a b : Nat → Value) (q : Progress)
    (number : Nat) :
    printLine (s.answering b) q line number = printLine (s.answering a) q line number := by
  have block_b : isBlock (s.answering b).dictionary line = isBlock s.dictionary line := rfl
  have block_a : isBlock (s.answering a).dictionary line = isBlock s.dictionary line := rfl
  rw [printLine, printLine, block_b, block_a]
  cases block : isBlock s.dictionary line with
  | false => rfl
  | true =>
    have no_barcode : Text.trim line ≠ Tag.barcode := by simpa [asksForId, block] using other
    rw [if_pos rfl, if_pos rfl, blockLine, blockLine, if_neg no_barcode, if_neg no_barcode]
    rfl

def barcodeLoss (d : Tag.Dictionary) (a b : Nat → Value) (call : Nat) (line : Text)
    (number : Nat) : Option Problem :=
  (lostBarcode? d a b call line).map (.barcodeFault · number)

theorem text_barcodeLoss (d : Tag.Dictionary) (a b : Nat → Value) (lines : List Text) (i : Nat) :
    (atLine? d (barcodeLoss d a b) 0 lines 1 i).map (·.finding.text) =
      (lines[i]?.bind (lostBarcode? d a b ((lines.take i).countP (asksForId d)))).map fun f =>
        "L" ++ toString (i + 1) ++ ": " ++
          ("Barcode generation fault (Instruction GS k 73): " ++ f.message) := by
  rw [atLine?, Nat.add_comm 1 i, Nat.zero_add]
  cases lines[i]? with
  | none => rfl
  | some line =>
    rw [Option.bind_some, Option.bind_some, barcodeLoss, Option.map_map]
    cases lostBarcode? d a b ((lines.take i).countP (asksForId d)) line with
    | none => rfl
    | some f => rfl

section Ids

variable {s : Setting} {line : Text} {a b : Nat → Value} {call : Nat}

theorem printLine_answering_of_asksForId (asks : asksForId s.dictionary line = true)
    (ids : Nat → Value) (q : Progress) (number : Nat) :
    printLine (s.answering ids) q line number =
      { events := match Barcode.ofValue (ids q.idsUsed) with
          | .error f => [.problem (.barcodeFault f number)]
          | .ok bytes => [.emit ⟨.barcode, bytes⟩]
        progress := { q with idsUsed := q.idsUsed + 1 } } := by
  have line_eq :
      printLine (s.answering ids) q line number = barcodeLine (s.answering ids) q number :=
    printLine_of_asksForId (s := s.answering ids) asks q number
  have answered : (s.answering ids).ids q.idsUsed = .ok (ids q.idsUsed) := rfl
  rw [line_eq, barcodeLine, answered]
  dsimp only
  cases Barcode.ofValue (ids q.idsUsed) <;> rfl

theorem exists_printLine_of_lostBarcode {f : Fault}
    (lost : lostBarcode? s.dictionary a b call line = some f) :
    ∃ bytes, Barcode.ofValue (a call) = .ok bytes ∧ ∀ q number, q.idsUsed = call →
      printLine (s.answering a) q line number =
        { events := [.emit ⟨.barcode, bytes⟩]
          progress := { q with idsUsed := q.idsUsed + 1 } } := by
  obtain ⟨asks, ⟨bytes, made⟩, -⟩ := lostBarcode?_eq_some_iff.1 lost
  refine ⟨bytes, made, fun q number used => ?_⟩
  rw [printLine_answering_of_asksForId asks, used, made]

theorem weakens_answering
    (exchanged : ∀ call, b call = a call ∨
      (∃ bytes, Barcode.ofValue (a call) = .ok bytes) ∧ ∃ f, Barcode.ofValue (b call) = .error f) :
    Weakens (s.answering a) (s.answering b) (barcodeLoss s.dictionary a b) where
  step q line number := by
    cases asks : asksForId s.dictionary line with
    | false =>
      have kept : lostBarcode? s.dictionary a b q.idsUsed line = none := by
        simp [lostBarcode?, asks]
      rw [barcodeLoss, kept]
      exact printLine_answering asks a b q number
    | true =>
      rw [printLine_answering_of_asksForId asks, printLine_answering_of_asksForId asks, barcodeLoss]
      rcases exchanged q.idsUsed with same | ⟨⟨bytes, made⟩, f, refused⟩
      · have kept : lostBarcode? s.dictionary a b q.idsUsed line = none := by
          rw [lostBarcode?, same]
          cases Barcode.ofValue (a q.idsUsed) <;> simp
        rw [kept, same]
        rfl
      · rw [lostBarcode?_eq_some_iff.2 ⟨asks, ⟨bytes, made⟩, refused⟩, refused]
        rfl
  only q line number p lost := by
    obtain ⟨f, found, rfl⟩ := Option.map_eq_some_iff.1 lost
    obtain ⟨bytes, -, line_eq⟩ := exists_printLine_of_lostBarcode found
    rw [line_eq q number rfl]
    exact ⟨⟨_, rfl⟩, rfl, rfl⟩

theorem chunks_of_lostBarcode {lines : List Text} {i : Nat} {f : Fault} {e : Expansion}
    (lost : lines[i]?.bind
      (lostBarcode? s.dictionary a b ((lines.take i).countP (asksForId s.dictionary))) = some f)
    (found : (expansions (s.answering a) {} lines number)[i]? = some e) :
    ∃ bytes, Barcode.ofValue (a ((lines.take i).countP (asksForId s.dictionary))) = .ok bytes ∧
      e.chunks = [⟨.barcode, bytes⟩] := by
  obtain ⟨line, q, line_eq, used, rfl⟩ := getElem?_expansions found
  rw [line_eq, Option.bind_some] at lost
  obtain ⟨bytes, made, emitted_eq⟩ := exists_printLine_of_lostBarcode lost
  rw [emitted_eq q (number + i) (used.trans (Nat.zero_add _))]
  exact ⟨bytes, made, rfl⟩

end Ids

/-! ## Both faults -/

/-- A logo that cannot be drawn costs every line of a logo its image, and an id that makes no
barcode costs its line the barcode. Such a line has one error instead, and nothing else is
different. -/
theorem encoder_faults_local (s : Setting) (t : CodePoints) :
    let lines := Text.lines t.toText
    (∀ width height image f, Raster.logo s.profile = .ok image →
      Raster.logo (s.profile.withLogo width height) = .error f →
      (LosesAt s (s.withLogo width height) t fun i =>
        if lines[i]?.any (isLogoLine s.dictionary) then
          some ("L" ++ toString (i + 1) ++ ": " ++
            ("Binary rasterization fault for LOGO (" ++ f.message ++ ")."))
        else none) ∧
      (run (s.withLogo width height) (.str t)).chunks =
        (run s (.str t)).chunks.filter fun c => c.type ≠ .image) ∧
    ∀ a b : Nat → Value,
      (∀ call, b call = a call ∨ (∃ bytes, Barcode.ofValue (a call) = .ok bytes) ∧
        ∃ f, Barcode.ofValue (b call) = .error f) →
      let call i := (lines.take i).countP (asksForId s.dictionary)
      let lost i := lines[i]?.bind (lostBarcode? s.dictionary a b (call i))
      (LosesAt (s.answering a) (s.answering b) t fun i =>
        (lost i).map fun f => "L" ++ toString (i + 1) ++ ": " ++
          ("Barcode generation fault (Instruction GS k 73): " ++ f.message)) ∧
      ∀ i < (lineChunks (s.answering a) t).length, (lost i).isSome →
        ∃ bytes, Barcode.ofValue (a (call i)) = .ok bytes ∧
          (lineChunks (s.answering a) t)[i]? = some [⟨.barcode, bytes⟩] := by
  intro lines
  constructor
  · intro width height image f made refused
    obtain ⟨canvas, drawn, -⟩ := map_eq_ok.1 made
    have fault := map_eq_error.1 refused
    refine ⟨?_, chunks_withLogo drawn fault t⟩
    have weakens : Weakens s.ready (s.withLogo width height).ready (logoLoss s.dictionary f) :=
      weakens_withLogo (s := s.ready) drawn fault
    exact funext (text_logoLoss s.dictionary f lines) ▸ weakens.losesAt rfl rfl t
  · intro a b exchanged call lost
    have weakens : Weakens (s.answering a).ready (s.answering b).ready
        (barcodeLoss s.dictionary a b) :=
      weakens_answering (s := s.ready) exchanged
    refine ⟨funext (text_barcodeLoss s.dictionary a b lines) ▸ weakens.losesAt rfl rfl t,
      fun i inside affected => ?_⟩
    obtain ⟨f, lost_eq⟩ := Option.isSome_iff_exists.1 affected
    rw [lineChunks, List.length_map] at inside
    have found := List.getElem?_eq_getElem inside
    obtain ⟨bytes, made, chunks_eq⟩ := chunks_of_lostBarcode (s := s.ready) lost_eq found
    refine ⟨bytes, made, ?_⟩
    rw [lineChunks, List.getElem?_map, found, Option.map_some, chunks_eq]

theorem encoder_faults_local_narrow :
    let s := (Setting.small (.constant "A".toList)).withLogo (.int 8) (.int 2)
    let t := Text.toCodePoints "{{LOGO}}\n{{BARCODE}}\n {{BARCODE}}".toList
    let ids : Nat → Value := fun _ => .ofText "A".toList
    let fewer : Nat → Value := fun call => if call = 0 then .ofText [] else .ofText "A".toList
    let bytes : Bytes := barcodeOpening ++ [code128Symbology, 1, 65]
    (∃ image, Raster.logo s.profile = .ok image) ∧
      Raster.logo (s.profile.withLogo (.int 7) (.int 2)) = .error (.rasterNotAligned "7".toList) ∧
      (run (s.withLogo (.int 7) (.int 2)) (.str t)).errors =
        ["L1: Binary rasterization fault for LOGO (Raster width 7 is not a multiple of 8 dots)."] ∧
      (∀ call, fewer call = ids call ∨ (∃ bytes, Barcode.ofValue (ids call) = .ok bytes) ∧
        ∃ f, Barcode.ofValue (fewer call) = .error f) ∧
      (run (s.answering fewer) (.str t)).errors =
        ["L2: Barcode generation fault (Instruction GS k 73): Barcode payload is empty"] ∧
      (lineChunks (s.answering ids) t)[1]? = some [⟨.barcode, bytes⟩] := by
  intro s t ids fewer bytes
  have made : Barcode.ofValue (ids 0) = .ok bytes := rfl
  have exchanged : ∀ call, fewer call = ids call ∨
      (∃ bytes, Barcode.ofValue (ids call) = .ok bytes) ∧
        ∃ f, Barcode.ofValue (fewer call) = .error f := by
    intro call
    cases call with
    | zero => exact .inr ⟨⟨bytes, made⟩, _, rfl⟩
    | succ call => exact .inl rfl
  have drawn : ∃ image, Raster.logo s.profile = .ok image :=
    cause?_eq_none_iff.1 (by decide +kernel)
  have refused : Raster.logo (s.profile.withLogo (.int 7) (.int 2)) =
      .error (.rasterNotAligned "7".toList) := cause?_eq_some_iff.1 (by decide +kernel)
  obtain ⟨logos, barcodes⟩ := encoder_faults_local s t
  obtain ⟨image, image_eq⟩ := drawn
  have no_logo := (logos _ _ image _ image_eq refused).1
  obtain ⟨no_barcode, lost_chunks⟩ := barcodes ids fewer exchanged
  obtain ⟨found, found_eq, chunk⟩ := lost_chunks 1 (by decide +kernel) (by decide +kernel)
  refine ⟨⟨image, image_eq⟩, refused, no_logo.second_errors.trans (by decide +kernel), exchanged,
    no_barcode.second_errors.trans (by decide +kernel), ?_⟩
  obtain rfl : bytes = found := Except.ok.inj (made.symm.trans found_eq)
  exact chunk

end Synthesis

end ReceiptPress
