import ReceiptPress.Proofs.Sale.Loaded
import ReceiptPress.Proofs.Synthesis.Aborts

namespace ReceiptPress.Synthesis

theorem fields_standard : ∀ e ∈ Tag.Dictionary.standard.ofCategories [.data],
    e.field = none ∨ e.field = some "identifier".toList ∨ e.field = some "total".toList := by
  decide

theorem wholeLimits_standard : Profile.WholeLimits {} :=
  ⟨⟨42, rfl, by decide +kernel⟩, ⟨21, rfl, by decide +kernel⟩⟩

theorem isBlock_of_items {line : Text} (tag : Text.trim line = Tag.items) :
    isBlock .standard line = true := by
  rw [isBlock, tag]
  decide

def Setting.standard (sale : Sale) (ids : IdSource) : Setting :=
  { sale, profile := {}, dictionary := .standard, ids }

section

variable {sale : Sale} (read : sale.IsLoaded) {ids : IdSource} {before : List Text} {line : Text}

include read

theorem hasTexts_standard : (Setting.standard sale ids).HasTexts :=
  ⟨read.identifier, read.total, fields_standard⟩

theorem of_stops_standard (answers : ∀ call, ∃ id, ids call = .ok id) {done : List Chunk}
    {f : Fault} (stops : Stops (Setting.standard sale ids) before line done f) :
    Text.trim line = Tag.items ∧ f = .tooLargeForBinary64 ∧ ∃ i ∈ sale.items, i.HasHugePrice := by
  cases stops with
  | noId asks fault =>
    obtain ⟨id, answered⟩ := answers (before.countP (asksForId Tag.Dictionary.standard))
    exact absurd (answered.symm.trans fault) (by simp)
  | @noRow written rest item _ _ _ tag items_eq _ fault =>
    have whole : sale.items = written ++ item :: rest := items_eq
    have among : item ∈ sale.items := by simp [whole]
    obtain ⟨cause, huge⟩ := (Item.row_error_iff (read.items item among)).1 fault
    exact ⟨tag, cause, item, among, huge⟩

theorem exists_stops_standard (tag : Text.trim line = Tag.items) {i : Item} (among : i ∈ sale.items)
    (huge : i.HasHugePrice) :
    ∃ done f, Stops (Setting.standard sale ids) before line done f := by
  cases formatted : sale.items.mapM (Item.row {}) with
  | ok texts =>
    obtain ⟨row, written⟩ := (mem_of_mapM_eq_ok formatted).1 i among
    have refused := (Item.row_error_iff (read.items i among)).2 ⟨rfl, huge⟩
    exact absurd (written.symm.trans refused) (by simp)
  | error f =>
    obtain ⟨written, item, rest, texts, items_eq, rows, refused⟩ := mapM_eq_error.1 formatted
    exact ⟨_, f, .noRow (isBlock_of_items tag) tag items_eq rows refused⟩

end

/-- A job that was loaded from what a file may hold, with a source that always has an id, is aborted
exactly if a line of its template lists the items and the price of one of them is a whole number
beyond the range of binary64. It is then aborted in the middle of such a line, because of such a
price. -/
theorem aborted_iff_huge_price {v : Value} (json : v.isJson = true) {identifier : Option Text}
    {job : Job} (loaded : Job.ofValue v identifier = .ok job) {ids : IdSource}
    (answers : ∀ call, ∃ id, ids call = .ok id) :
    let s := Setting.standard job.sale ids
    let lines := Text.lines job.template.toText
    (¬(run s (.str job.template)).Completed ↔
      (∃ line ∈ lines, Text.trim line = Tag.items) ∧ ∃ i ∈ job.sale.items, i.HasHugePrice) ∧
    (¬(run s (.str job.template)).Completed →
      ∃ before line after done, lines = before ++ line :: after ∧ Text.trim line = Tag.items ∧
        AbortedAfter s job.template before done .tooLargeForBinary64) := by
  intro s lines
  have read := Job.isLoaded_ofValue json loaded
  have texts : s.HasTexts := hasTexts_standard read
  have stopped (aborted : ¬(run s (.str job.template)).Completed) :
      ∃ before line after done, lines = before ++ line :: after ∧ Unstopped s before ∧
        Stops s before line done .tooLargeForBinary64 := by
    rw [completed_iff] at aborted
    obtain ⟨before, line, after, done, f, lines_eq, unstopped, stops⟩ :=
      exists_stops_of_fault texts wholeLimits_standard aborted
    obtain ⟨-, rfl, -⟩ := of_stops_standard read answers stops
    exact ⟨before, line, after, done, lines_eq, unstopped, stops⟩
  refine ⟨⟨fun aborted => ?_, ?_⟩, fun aborted => ?_⟩
  · obtain ⟨before, line, after, done, lines_eq, -, stops⟩ := stopped aborted
    obtain ⟨tag, -, huge⟩ := of_stops_standard read answers stops
    exact ⟨⟨line, by simp [lines_eq], tag⟩, huge⟩
  · rintro ⟨⟨line, mem, tag⟩, i, among, huge⟩ completed
    have unstopped := unstopped_of_ok ((completed_iff s job.template).1 completed)
    obtain ⟨before, after, lines_eq⟩ := List.append_of_mem mem
    obtain ⟨done, f, stops⟩ := exists_stops_standard read tag among huge
    exact unstopped before line after lines_eq done f stops
  · obtain ⟨before, line, after, done, lines_eq, unstopped, stops⟩ := stopped aborted
    have ok := (fault_eq_none_iff texts wholeLimits_standard).2 unstopped
    exact ⟨before, line, after, done, lines_eq, (of_stops_standard read answers stops).1,
      abortedAfter_of_stops lines_eq ok stops⟩

def priced (price : Int) : Value :=
  .object [(Text.toCodePoints "price".toList, .int price)]

def cancelling (template : Text) (price : Int) : Value :=
  .object
    [(Text.toCodePoints "template".toList, .ofText template),
      (Text.toCodePoints "items".toList, .list [priced price, priced (-price)])]

def cancelled (template : Text) (price : Int) : Job where
  template := template.toCodePoints
  sale :=
    { identifier := .ofText "Corner Shop".toList
      items := [⟨.str [], .int price⟩, ⟨.str [], .int (-price)⟩]
      total := .ofText "0.00".toList }

theorem ofValue_cancelling (template : Text) (price : Int) :
    Job.ofValue (cancelling template price) (some "Corner Shop".toList) =
      .ok (cancelled template price) := by
  have items_eq : [priced price, priced (-price)].mapM Item.ofValue =
      .ok (cancelled template price).sale.items := rfl
  have sum_eq : Sale.sum ((cancelled template price).sale.items.map Item.price) =
      .ok (.whole 0) := by
    have zero : (0 : Int) + price + -price = 0 := by omega
    exact congrArg (Except.ok ∘ Amount.whole) zero
  have total_eq : Amount.fixedText (.whole 0) = .ok "0.00".toList := by decide +kernel
  have sale_eq : Sale.ofItems (.ofText "Corner Shop".toList)
      (.list [priced price, priced (-price)]) = .ok (cancelled template price).sale := by
    rw [Sale.ofItems_list]
    exact bind_eq_ok.2 ⟨_, items_eq, bind_eq_ok.2 ⟨_, bind_eq_ok.2 ⟨_, sum_eq, total_eq⟩, rfl⟩⟩
  exact bind_eq_ok.2 ⟨_, rfl, bind_eq_ok.2 ⟨_, sale_eq, rfl⟩⟩

theorem aborted_iff_huge_price_total :
    let v := cancelling "{{TOTAL}}".toList Binary64.wholeEnd
    let job := cancelled "{{TOTAL}}".toList Binary64.wholeEnd
    let ids := IdSource.constant "7".toList
    v.isJson = true ∧ Job.ofValue v (some "Corner Shop".toList) = .ok job ∧
      (∀ call, ∃ id, ids call = .ok id) ∧ (∃ i ∈ job.sale.items, i.HasHugePrice) ∧
      (run (Setting.standard job.sale ids) (.str job.template)).Completed := by
  intro v job ids
  have json : v.isJson = true := rfl
  have loaded : Job.ofValue v (some "Corner Shop".toList) = .ok job := ofValue_cancelling _ _
  have answers : ∀ call, ∃ id, ids call = .ok id := fun _ => ⟨_, rfl⟩
  have huge : ∃ i ∈ job.sale.items, i.HasHugePrice :=
    ⟨_, List.mem_cons_self, _, rfl, by decide +kernel⟩
  have no_items : ¬∃ line ∈ Text.lines job.template.toText, Text.trim line = Tag.items := by
    decide +kernel
  refine ⟨json, loaded, answers, huge, Classical.not_not.1 fun aborted => no_items ?_⟩
  exact ((aborted_iff_huge_price json loaded answers).1.1 aborted).1

/-- With its items listed, the same job is loaded and aborted. -/
theorem cancelling_aborted :
    let v := cancelling "{{ITEMS}}".toList Binary64.wholeEnd
    let job := cancelled "{{ITEMS}}".toList Binary64.wholeEnd
    let ids := IdSource.constant "7".toList
    v.isJson = true ∧ Job.ofValue v (some "Corner Shop".toList) = .ok job ∧
      (∀ call, ∃ id, ids call = .ok id) ∧
      (run (Setting.standard job.sale ids) (.str job.template)).errors =
        ["PROTOCOL_ABORT: int too large to convert to float"] := by
  intro v job ids
  exact ⟨rfl, ofValue_cancelling _ _, fun _ => ⟨_, rfl⟩, by decide +kernel⟩

end ReceiptPress.Synthesis
