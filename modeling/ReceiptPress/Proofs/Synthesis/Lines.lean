import ReceiptPress.Synthesis.Run

/-!
# Printing lines one after another

`Outcome` lists everything that a line can come to, and `printLine_outcome` says that the list is
complete; what holds of every outcome holds of every line. Lines are printed in sequence, a fault
ending the sequence (`printLines_append`), and every event of several lines is an event of one of
them (`mem_printLines`).
-/

namespace ReceiptPress.Synthesis

inductive Outcome (s : Setting) (p : Progress) (line : Text) (number : Nat) : Expansion → Prop
  | logoFault {f : Fault} (block : isBlock s.dictionary line = true)
      (tag : Text.trim line = Tag.logo) (fault : Raster.canvas s.profile = .error f) :
      Outcome s p line number { events := [.problem (.logoFault f number)], progress := p }
  | logo {c : Raster.Canvas} (block : isBlock s.dictionary line = true)
      (tag : Text.trim line = Tag.logo) (drawn : Raster.canvas s.profile = .ok c) :
      Outcome s p line number
        { events := [.drawn c.label c.body.length, .emit ⟨.image, c.image⟩], progress := p }
  | idFault {f : Fault} (block : isBlock s.dictionary line = true)
      (tag : Text.trim line = Tag.barcode) (fault : s.ids p.idsUsed = .error f) :
      Outcome s p line number
        { events := [], progress := { p with idsUsed := p.idsUsed + 1 }, fault := some f }
  | barcodeFault {id : Value} {f : Fault} (block : isBlock s.dictionary line = true)
      (tag : Text.trim line = Tag.barcode) (asked : s.ids p.idsUsed = .ok id)
      (fault : Barcode.ofValue id = .error f) :
      Outcome s p line number
        { events := [.problem (.barcodeFault f number)],
          progress := { p with idsUsed := p.idsUsed + 1 } }
  | barcode {id : Value} {bytes : Bytes} (block : isBlock s.dictionary line = true)
      (tag : Text.trim line = Tag.barcode) (asked : s.ids p.idsUsed = .ok id)
      (made : Barcode.ofValue id = .ok bytes) :
      Outcome s p line number
        { events := [.emit ⟨.barcode, bytes⟩], progress := { p with idsUsed := p.idsUsed + 1 } }
  | noItems (block : isBlock s.dictionary line = true) (tag : Text.trim line = Tag.items)
      (empty : s.sale.items = []) :
      Outcome s p line number { events := [.notice (.noItems number)], progress := p }
  | items (block : isBlock s.dictionary line = true) (tag : Text.trim line = Tag.items)
      (some : s.sale.items ≠ []) :
      Outcome s p line number
        { events := (rows s.profile s.sale.items).1, progress := p,
          fault := (rows s.profile s.sale.items).2 }
  | noExpansion (block : isBlock s.dictionary line = true)
      (no_logo : Text.trim line ≠ Tag.logo) (no_barcode : Text.trim line ≠ Tag.barcode)
      (no_items : Text.trim line ≠ Tag.items) :
      Outcome s p line number
        { events := [.problem (.noExpansion (Text.trim line) number)], progress := p }
  | dataFault {f : Fault} (inline : isBlock s.dictionary line = false)
      (fault : substitute s.sale s.dictionary line = .error f) :
      Outcome s p line number { events := [], progress := p, fault := some f }
  | limitFault {t : Text} {f : Fault} (inline : isBlock s.dictionary line = false)
      (substituted : substitute s.sale s.dictionary line = .ok t)
      (fault : lengthNotices (Tag.visible t).length
        ((p.tracker.apply s.dictionary (Tag.words t)).limit s.profile) number = .error f) :
      Outcome s p line number
        { events := [],
          progress := { p with tracker := p.tracker.apply s.dictionary (Tag.words t) },
          fault := some f }
  | text {t : Text} {notices : List Event} (inline : isBlock s.dictionary line = false)
      (substituted : substitute s.sale s.dictionary line = .ok t)
      (checked : lengthNotices (Tag.visible t).length
        ((p.tracker.apply s.dictionary (Tag.words t)).limit s.profile) number = .ok notices) :
      Outcome s p line number
        { events :=
            notices ++ (s.dictionary.splitLine t).map .emit ++ [.emit (.ofText lineFeed)],
          progress := { p with tracker := p.tracker.apply s.dictionary (Tag.words t) } }

theorem blockLine_outcome (s : Setting) (p : Progress) {line : Text} (number : Nat)
    (block : isBlock s.dictionary line = true) :
    Outcome s p line number (blockLine s p (Text.trim line) number) := by
  unfold blockLine
  split
  · rename_i tag
    unfold logoLine
    split
    · rename_i fault
      exact .logoFault block tag fault
    · rename_i drawn
      exact .logo block tag drawn
  rename_i no_logo
  split
  · rename_i tag
    unfold barcodeLine
    dsimp only
    split
    · rename_i fault
      exact .idFault block tag fault
    · rename_i asked
      split
      · rename_i fault
        exact .barcodeFault block tag asked fault
      · rename_i made
        exact .barcode block tag asked made
  rename_i no_barcode
  split
  · rename_i tag
    unfold itemsLine
    split
    · rename_i empty
      exact .noItems block tag (List.isEmpty_iff.1 empty)
    · rename_i some
      exact .items block tag (by simpa using some)
  rename_i no_items
  exact .noExpansion block no_logo no_barcode no_items

theorem inlineLine_outcome (s : Setting) (p : Progress) {line : Text} (number : Nat)
    (inline : isBlock s.dictionary line = false) :
    Outcome s p line number (inlineLine s p line number) := by
  unfold inlineLine
  split
  · rename_i fault
    exact .dataFault inline fault
  · rename_i substituted
    unfold inlineText
    dsimp only
    split
    · rename_i fault
      exact .limitFault inline substituted fault
    · rename_i checked
      exact .text inline substituted checked

theorem printLine_outcome (s : Setting) (p : Progress) (line : Text) (number : Nat) :
    Outcome s p line number (printLine s p line number) := by
  unfold printLine
  split
  · rename_i block
    exact blockLine_outcome s p number block
  · rename_i inline
    exact inlineLine_outcome s p number (by simpa using inline)

theorem lengthNotices_ok {count : Nat} {limit : Value} {line : Nat} {notices : List Event}
    (checked : lengthNotices count limit line = .ok notices) :
    (isOver count limit = .ok false ∧ notices = []) ∨
      ∃ shown, isOver count limit = .ok true ∧ limit.text = .ok shown ∧
        notices = [.notice (.overflow count shown.toText line)] := by
  unfold lengthNotices at checked
  cases compared : isOver count limit with
  | error f => rw [compared] at checked; cases checked
  | ok b =>
    cases b with
    | false =>
      rw [compared] at checked
      exact .inl ⟨rfl, (Except.ok.inj checked).symm⟩
    | true =>
      cases text : limit.text with
      | error f => rw [compared, text] at checked; cases checked
      | ok shown =>
        rw [compared, text] at checked
        exact .inr ⟨shown, rfl, rfl, (Except.ok.inj checked).symm⟩

section Text

variable {s : Setting} {p : Progress} {t : Text} {number : Nat}

theorem inlineText_of_ok {notices : List Event}
    (checked : lengthNotices (Tag.visible t).length
      ((p.tracker.apply s.dictionary (Tag.words t)).limit s.profile) number = .ok notices) :
    inlineText s p t number =
      { events := notices ++ (s.dictionary.splitLine t).map .emit ++ [.emit (.ofText lineFeed)]
        progress := { p with tracker := p.tracker.apply s.dictionary (Tag.words t) } } := by
  unfold inlineText
  dsimp only
  rw [checked]

theorem fault_inlineText_of_error {f : Fault}
    (refused : lengthNotices (Tag.visible t).length
      ((p.tracker.apply s.dictionary (Tag.words t)).limit s.profile) number = .error f) :
    (inlineText s p t number).fault = some f := by
  unfold inlineText
  dsimp only
  rw [refused]

end Text

theorem inlineLine_ok {s : Setting} {p : Progress} {line : Text} {number : Nat}
    (ok : (inlineLine s p line number).fault = none) :
    ∃ t notices, substitute s.sale s.dictionary line = .ok t ∧
      lengthNotices (Tag.visible t).length
        ((p.tracker.apply s.dictionary (Tag.words t)).limit s.profile) number = .ok notices ∧
      inlineLine s p line number =
        { events := notices ++ (s.dictionary.splitLine t).map .emit ++ [.emit (.ofText lineFeed)]
          progress := { p with tracker := p.tracker.apply s.dictionary (Tag.words t) } } := by
  unfold inlineLine at ok ⊢
  cases substituted : substitute s.sale s.dictionary line with
  | error f => rw [substituted] at ok; cases ok
  | ok t =>
    rw [substituted] at ok
    dsimp only at ok ⊢
    cases checked : lengthNotices (Tag.visible t).length
      ((p.tracker.apply s.dictionary (Tag.words t)).limit s.profile) number with
    | error f => rw [fault_inlineText_of_error checked] at ok; cases ok
    | ok notices => exact ⟨t, notices, rfl, checked, inlineText_of_ok checked⟩

theorem mem_rows {p : Profile} {items : List Item} {e : Event} (mem : e ∈ (rows p items).1) :
    ∃ item ∈ items, ∃ row, item.row p = .ok row ∧ e = .emit (.ofText (Text.toAscii row)) := by
  induction items with
  | nil => cases mem
  | cons item rest ih =>
    rw [rows] at mem
    split at mem
    · cases mem
    · rename_i row written
      rcases List.mem_cons.1 mem with rfl | mem
      · exact ⟨item, List.mem_cons_self, row, written, rfl⟩
      · obtain ⟨other, among, found⟩ := ih mem
        exact ⟨other, List.mem_cons_of_mem item among, found⟩

theorem filterMap_rows {α : Type} {view : Event → Option α} (blind : ∀ c, view (.emit c) = none)
    (p : Profile) (items : List Item) : (rows p items).1.filterMap view = [] := by
  rw [List.filterMap_eq_nil_iff]
  intro event mem
  obtain ⟨_, -, _, -, rfl⟩ := mem_rows mem
  exact blind _

theorem rows_congr {p p' : Profile} (row_eq : ∀ item : Item, item.row p' = item.row p)
    (items : List Item) : rows p' items = rows p items := by
  induction items with
  | nil => rfl
  | cons item rest ih => rw [rows, rows, row_eq, ih]

section Block

variable {s : Setting} {line : Text} (block : isBlock s.dictionary line = true) (p : Progress)
  (number : Nat)

include block

theorem printLine_of_logo (tag : Text.trim line = Tag.logo) :
    printLine s p line number = logoLine s p number := by
  rw [printLine, if_pos block, blockLine, if_pos tag]

theorem printLine_of_items (tag : Text.trim line = Tag.items) :
    printLine s p line number = itemsLine s p number := by
  have apart : Tag.items ≠ Tag.logo ∧ Tag.items ≠ Tag.barcode := by decide
  rw [printLine, if_pos block, blockLine, tag, if_neg apart.1, if_neg apart.2, if_pos rfl]

end Block

def asksForId (d : Tag.Dictionary) (line : Text) : Bool :=
  isBlock d line && Text.trim line = Tag.barcode

theorem asksForId_iff {d : Tag.Dictionary} {line : Text} :
    asksForId d line = true ↔ isBlock d line = true ∧ Text.trim line = Tag.barcode := by
  rw [asksForId, Bool.and_eq_true, decide_eq_true_eq]

theorem printLine_of_asksForId {s : Setting} {line : Text}
    (asks : asksForId s.dictionary line = true) (p : Progress) (number : Nat) :
    printLine s p line number = barcodeLine s p number := by
  obtain ⟨block, tag⟩ := asksForId_iff.1 asks
  have apart : Tag.barcode ≠ Tag.logo := by decide
  rw [printLine, if_pos block, blockLine, tag, if_neg apart, if_pos rfl]

theorem idsUsed_printLine (s : Setting) (p : Progress) (line : Text) (number : Nat) :
    (printLine s p line number).progress.idsUsed =
      p.idsUsed + if asksForId s.dictionary line then 1 else 0 := by
  have outcome := printLine_outcome s p line number
  generalize printLine s p line number = e at outcome
  have distinct : Tag.logo ≠ Tag.barcode ∧ Tag.items ≠ Tag.barcode := by decide
  cases outcome with
  | logoFault block tag | logo block tag => simp [asksForId, tag, distinct]
  | noItems block tag | items block tag => simp [asksForId, tag, distinct]
  | idFault block tag | barcodeFault block tag | barcode block tag => simp [asksForId, block, tag]
  | noExpansion block no_logo no_barcode no_items => simp [asksForId, no_barcode]
  | dataFault inline | limitFault inline | text inline => simp [asksForId, inline]

def Expansion.andThen (e : Expansion) (next : Progress → Expansion) : Expansion :=
  match e.fault with
  | some _ => e
  | none => { next e.progress with events := e.events ++ (next e.progress).events }

theorem Expansion.andThen_of_ok {e : Expansion} (ok : e.fault = none)
    (next : Progress → Expansion) :
    e.andThen next = { next e.progress with events := e.events ++ (next e.progress).events } := by
  rw [andThen, ok]

theorem Expansion.andThen_of_fault {e : Expansion} {f : Fault} (fault : e.fault = some f)
    (next : Progress → Expansion) : e.andThen next = e := by
  rw [andThen, fault]

theorem Expansion.fault_of_andThen {e : Expansion} {next : Progress → Expansion}
    (ok : (e.andThen next).fault = none) :
    e.fault = none ∧ (next e.progress).fault = none := by
  cases fault : e.fault with
  | some f =>
    rw [andThen_of_fault fault, fault] at ok
    cases ok
  | none =>
    rw [andThen_of_ok fault] at ok
    exact ⟨rfl, ok⟩

theorem Expansion.filterMap_andThen {α : Type} {e : Expansion} (ok : e.fault = none)
    (next : Progress → Expansion) (view : Event → Option α) :
    (e.andThen next).events.filterMap view =
      e.events.filterMap view ++ (next e.progress).events.filterMap view := by
  rw [andThen_of_ok ok]
  exact List.filterMap_append

theorem Expansion.progress_andThen {e : Expansion} (ok : e.fault = none)
    (next : Progress → Expansion) : (e.andThen next).progress = (next e.progress).progress := by
  rw [andThen_of_ok ok]

theorem printLines_cons (s : Setting) (p : Progress) (line : Text) (rest : List Text)
    (number : Nat) :
    printLines s p (line :: rest) number =
      (printLine s p line number).andThen fun q => printLines s q rest (number + 1) := rfl

theorem Expansion.andThen_assoc (e : Expansion) (f g : Progress → Expansion) :
    (e.andThen f).andThen g = e.andThen fun p => (f p).andThen g := by
  unfold andThen
  cases first : e.fault with
  | some => simp only [first]
  | none =>
    cases second : (f e.progress).fault with
    | some => simp only [second]
    | none => simp only [second, List.append_assoc]

theorem printLines_append (s : Setting) (p : Progress) (before after : List Text)
    (number : Nat) :
    printLines s p (before ++ after) number =
      (printLines s p before number).andThen
        fun q => printLines s q after (number + before.length) := by
  induction before generalizing p number with
  | nil => simp [printLines, Expansion.andThen]
  | cons line rest ih =>
    have next : number + 1 + rest.length = number + (line :: rest).length := by
      rw [List.length_cons]
      omega
    simp only [List.cons_append, printLines_cons, Expansion.andThen_assoc, ih, next]

theorem mem_printLines {s : Setting} {p : Progress} {lines : List Text} {number : Nat} {e : Event}
    (mem : e ∈ (printLines s p lines number).events) :
    ∃ line ∈ lines, ∃ q k, e ∈ (printLine s q line k).events := by
  induction lines generalizing p number with
  | nil => cases mem
  | cons line rest ih =>
    have here : e ∈ (printLine s p line number).events →
        ∃ line' ∈ line :: rest, ∃ q k, e ∈ (printLine s q line' k).events :=
      fun mem => ⟨line, List.mem_cons_self, p, number, mem⟩
    rw [printLines_cons, Expansion.andThen] at mem
    split at mem
    · exact here mem
    · rcases List.mem_append.1 mem with mem | mem
      · exact here mem
      · obtain ⟨other, among, found⟩ := ih mem
        exact ⟨other, List.mem_cons_of_mem line among, found⟩

theorem idsUsed_printLines {s : Setting} {p : Progress} {lines : List Text} {number : Nat}
    (ok : (printLines s p lines number).fault = none) :
    (printLines s p lines number).progress.idsUsed =
      p.idsUsed + lines.countP (asksForId s.dictionary) := by
  induction lines generalizing p number with
  | nil => rfl
  | cons line rest ih =>
    rw [printLines_cons] at ok ⊢
    obtain ⟨here, behind⟩ := Expansion.fault_of_andThen ok
    have used := ih behind
    rw [idsUsed_printLine] at used
    rw [Expansion.andThen_of_ok here, List.countP_cons]
    refine used.trans ?_
    omega

end ReceiptPress.Synthesis
