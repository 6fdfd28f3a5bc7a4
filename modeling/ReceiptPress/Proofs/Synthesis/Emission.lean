import ReceiptPress.Proofs.Canvas
import ReceiptPress.Proofs.Synthesis.Passes
import ReceiptPress.Proofs.Tag.Agreement
import ReceiptPress.Proofs.Text.Plain

namespace ReceiptPress

theorem Barcode.ofValue_ok {id : Value} {bytes : Bytes} (made : ofValue id = .ok bytes) :
    ∃ body : Bytes, body.length < 256 ∧
      bytes = barcodeOpening ++ code128Symbology :: UInt8.ofNat body.length :: body := by
  cases id with
  | str payload =>
    unfold ofValue ofText at made
    dsimp only at made
    split at made
    · cases made
    split at made
    · cases made
    split at made
    · cases made
    rename_i short
    have length_eq : (Text.toAscii payload.toText).length = payload.length := by simp
    rw [maxPayload, ← length_eq] at short
    rw [← length_eq] at made
    exact ⟨Text.toAscii payload.toText, by omega, (Except.ok.inj made).symm⟩
  | _ => cases made

def Value.Plain (v : Value) : Prop := ∀ s, v.text = .ok s → s.toText.Plain

structure Sale.Plain (s : Sale) : Prop where
  identifier : s.identifier.Plain
  total : s.total.Plain
  names : ∀ i ∈ s.items, i.name.Plain

theorem Value.plain_str {s : CodePoints} : (Value.str s).Plain ↔ s.toText.Plain :=
  ⟨fun plain => plain s rfl, fun plain _ eq => Except.ok.inj eq ▸ plain⟩

theorem Synthesis.Setting.plain_small (ids : IdSource) :
    (Synthesis.Setting.small ids).sale.Plain where
  identifier := Value.plain_str.2 (by decide)
  total := Value.plain_str.2 (by decide)
  names := List.forall_mem_singleton.2 (Value.plain_str.2 (by decide))

namespace Item

theorem plain_nameColumn {width name : Value} {t : Text} (plain : name.Plain)
    (written : nameColumn width name = .ok t) : t.Plain := by
  cases name with
  | str s =>
    obtain ⟨bound, -, written⟩ := bind_eq_ok.1 written
    obtain ⟨size, -, written⟩ := bind_eq_ok.1 written
    rw [pure_eq_ok] at written
    subst written
    rw [List.rightpad, Text.plain_append]
    refine ⟨(plain s rfl).of_subset fun c mem => ?_, Text.plain_replicate _ (by decide)⟩
    unfold Value.cutAt at mem
    split at mem
    · exact mem
    · split at mem <;> exact List.mem_of_mem_take mem
  | list elements =>
    obtain ⟨_, -, written⟩ := bind_eq_ok.1 written
    cases written
  | _ => cases written

theorem plain_priceColumn {width price : Value} {t : Text}
    (written : priceColumn width price = .ok t) : t.Plain := by
  obtain ⟨amount, shown, written⟩ := bind_eq_ok.1 written
  obtain ⟨size, -, written⟩ := bind_eq_ok.1 written
  rw [pure_eq_ok] at written
  subst written
  have plain : amount.Plain := by
    unfold Value.fixedText at shown
    split at shown
    · exact Amount.plain_fixedText shown
    · split at shown <;> cases shown
  rw [List.leftpad, Text.plain_append, Text.plain_cons]
  exact ⟨Text.plain_replicate _ (by decide), by decide, plain⟩

theorem plain_row {p : Profile} {i : Item} {t : Text} (plain : i.name.Plain)
    (written : i.row p = .ok t) : t.Plain := by
  obtain ⟨name, name_eq, written⟩ := bind_eq_ok.1 written
  obtain ⟨price, price_eq, written⟩ := bind_eq_ok.1 written
  rw [pure_eq_ok] at written
  subst written
  rw [Text.plain_append, Text.plain_append]
  exact ⟨⟨plain_nameColumn plain name_eq, plain_priceColumn price_eq⟩, by decide⟩

end Item

namespace Synthesis

theorem plain_dataText {sale : Sale} (plain : sale.Plain) {e : Tag.Entry}
    (standard : e ∈ Tag.Entry.standard) (data : e.category = .data) {t : Text}
    (given : dataText sale e = .ok t) : t.Plain := by
  have shown {v : Value} {fallback : Text} (field : e.field.bind sale.field? = some v)
      (v_plain : v.Plain) (eq : e.fallback = fallback) (fallback_plain : fallback.Plain) :
      t.Plain := by
    rw [dataText, field] at given
    dsimp only at given
    split at given
    · obtain ⟨s, text, rfl⟩ := map_eq_ok.1 given
      exact v_plain s text
    · rw [← Except.ok.inj given, eq]
      exact fallback_plain
  have two : ∀ e ∈ Tag.Entry.standard, e.category = .data →
      e = .data "STORE_ID" "Identifier" "identifier" "UNDEFINED" ∨
        e = .data "TOTAL" "Total" "total" "0.00" := by decide
  rcases two e standard data with rfl | rfl
  · exact shown rfl plain.identifier rfl (by decide)
  · exact shown rfl plain.total rfl (by decide)

theorem plain_substituteAll {sale : Sale} {entries : List Tag.Entry}
    (plain : ∀ e ∈ entries, ∀ t, dataText sale e = .ok t → t.Plain) {line t : Text}
    (line_plain : line.Plain) (substituted : substituteAll sale entries line = .ok t) :
    t.Plain := by
  induction entries generalizing line with
  | nil => exact Except.ok.inj substituted ▸ line_plain
  | cons e rest ih =>
    have others := fun x mem => plain x (List.mem_cons_of_mem e mem)
    rw [substituteAll] at substituted
    split at substituted
    · obtain ⟨value, given, replaced⟩ := bind_eq_ok.1 substituted
      have value_plain := plain e List.mem_cons_self value given
      exact ih others (Text.plain_replace line_plain value_plain) replaced
    · exact ih others line_plain substituted

variable {s : Setting}

theorem plain_substitute (standard : s.dictionary.entries = Tag.Entry.standard)
    (plain : s.sale.Plain) {line t : Text} (line_plain : line.Plain)
    (substituted : substitute s.sale s.dictionary line = .ok t) : t.Plain := by
  apply plain_substituteAll _ line_plain substituted
  intro e mem value given
  obtain ⟨among, data⟩ := List.mem_filter.1 mem
  rw [standard] at among
  exact plain_dataText plain among (by simpa using data) given

theorem framed_barcode {id : Value} {bytes : Bytes} (made : Barcode.ofValue id = .ok bytes) :
    Stream.Framed bytes := by
  obtain ⟨body, length_lt, rfl⟩ := Barcode.ofValue_ok made
  exact .barcode length_lt

theorem framed_image {p : Profile} {c : Raster.Canvas} (drawn : Raster.canvas p = .ok c) :
    Stream.Framed c.image :=
  .image (Raster.canvas_lt drawn).1 (Raster.canvas_lt drawn).2 c.length_body

theorem exists_instruction {d : Tag.Dictionary} (standard : d.entries = Tag.Entry.standard)
    {tag : Text} (emits : d.emits tag = true) :
    ∃ i : Instruction, d.segmentBytes (.tag tag) = i.bytes := by
  obtain ⟨e, among, yes, rfl⟩ := Tag.Dictionary.emits_iff.1 emits
  have found : d.get? e.tag = some e := Tag.Dictionary.get?_eq_some_iff.2 ⟨among, rfl⟩
  have fixed : ∀ e ∈ Tag.Entry.standard, e.emitsBytes = true →
      ∃ i ∈ Instruction.all, e.bytes = i.bytes := by decide
  obtain ⟨i, -, eq⟩ := fixed e (standard ▸ among) yes
  exact ⟨i, by rw [Tag.Dictionary.segmentBytes, found]; exact eq⟩

theorem framed_splitLine {d : Tag.Dictionary} (standard : d.entries = Tag.Entry.standard)
    {t : Text} (plain : t.Plain) {c : Chunk} (mem : c ∈ d.splitLine t) :
    Stream.Framed c.bytes := by
  obtain ⟨segment, among, rfl⟩ := List.mem_map.1 mem
  cases segment with
  | literal l =>
    have sub : ∀ c ∈ l, c ∈ t := fun c here =>
      Text.mem_of_char_mem_pieces (Tag.Segment.mem_of_literal_mem among here)
    exact .plain (Text.plain_toAscii (plain.of_subset sub))
  | tag w =>
    obtain ⟨i, eq⟩ := exists_instruction standard (Tag.Dictionary.emits_of_tag_mem among)
    rw [eq]
    exact .instruction i

theorem framed_of_mem_printLine (standard : s.dictionary.entries = Tag.Entry.standard)
    (sale_plain : s.sale.Plain) {p : Progress} {line : Text} (line_plain : line.Plain)
    {number : Nat} {c : Chunk} (mem : .emit c ∈ (printLine s p line number).events) :
    Stream.Framed c.bytes := by
  have outcome := printLine_outcome s p line number
  generalize printLine s p line number = e at mem outcome
  cases outcome with
  | logoFault | idFault | barcodeFault | noItems | noExpansion | dataFault | limitFault =>
    simp at mem
  | logo block tag drawn =>
    simp only [List.mem_cons, reduceCtorEq, Event.emit.injEq, List.not_mem_nil, or_false,
      false_or] at mem
    rw [mem]
    exact framed_image drawn
  | barcode block tag asked made =>
    simp only [List.mem_singleton, Event.emit.injEq] at mem
    rw [mem]
    exact framed_barcode made
  | items =>
    obtain ⟨item, among, row, written, eq⟩ := mem_rows mem
    cases eq
    exact .plain (Text.plain_toAscii (Item.plain_row (sale_plain.names item among) written))
  | text inline substituted checked =>
    rename_i t notices
    have none : .emit c ∉ notices := by
      rcases lengthNotices_ok checked with ⟨-, rfl⟩ | ⟨shown, -, -, rfl⟩ <;> simp
    simp only [List.mem_append, none, false_or, List.mem_map, Event.emit.injEq, exists_eq_right,
      List.mem_singleton] at mem
    rcases mem with mem | rfl
    · exact framed_splitLine standard (plain_substitute standard sale_plain line_plain substituted)
        mem
    · exact .plain (by decide)

theorem framed_of_mem_emitted (standard : s.dictionary.entries = Tag.Entry.standard)
    (sale_plain : s.sale.Plain) {lines : List Text} (lines_plain : ∀ l ∈ lines, l.Plain)
    {c : Chunk} (mem : c ∈ emitted s lines) : Stream.Framed c.bytes := by
  rcases List.mem_cons.1 mem with rfl | mem
  · exact .instruction .init
  · obtain ⟨line, among, q, k, here⟩ := mem_printLines (Expansion.mem_chunks.1 mem)
    exact framed_of_mem_printLine standard sale_plain (lines_plain line among) here

end Synthesis

end ReceiptPress
