import ReceiptPress.Proofs.Synthesis.Emission

namespace ReceiptPress.Synthesis

theorem framed_of_mem_run {s : Setting} (standard : s.dictionary.entries = Tag.Entry.standard)
    (sale_plain : s.sale.Plain) {t : CodePoints} (plain : t.toText.Plain) {c : Chunk}
    (mem : c ∈ (run s (.str t)).chunks) : Stream.Framed c.bytes := by
  rw [chunks_run, List.mem_append] at mem
  rcases mem with mem | mem
  · exact framed_of_mem_emitted standard sale_plain (fun _ among => plain.lines among) mem
  · split at mem
    · rw [List.mem_singleton.1 mem]
      exact .instruction .cut
    · cases mem

/-- With the standard tags, the listing of the stream of a plain template for a plain sale is that
of its chunks one after another. So it is token by token, and nothing behind a chunk changes how it
is read, whether or not the pass was aborted and whatever the transaction ids are. -/
theorem listing_run_eq_flatMap {s : Setting} (standard : s.dictionary.entries = Tag.Entry.standard)
    (sale_plain : s.sale.Plain) {t : CodePoints} (plain : t.toText.Plain) :
    Stream.listing (run s (.str t)).payload =
        ((run s (.str t)).chunks.flatMap fun c => Stream.listing c.bytes) ∧
      Stream.tokens (run s (.str t)).payload =
        ((run s (.str t)).chunks.flatMap fun c => Stream.tokens c.bytes) ∧
      ∀ c ∈ (run s (.str t)).chunks, ∀ rest : Bytes,
        Stream.tokens (c.bytes ++ rest) = Stream.tokens c.bytes ++ Stream.tokens rest := by
  have framed : ∀ c ∈ (run s (.str t)).chunks, Stream.Framed c.bytes :=
    fun _ mem => framed_of_mem_run standard sale_plain plain mem
  have read : Stream.tokens (run s (.str t)).payload =
      (run s (.str t)).chunks.flatMap fun c => Stream.tokens c.bytes := by
    have whole := Stream.tokens_payload framed []
    have nothing : Stream.tokens [] = [] := rfl
    rwa [List.append_nil, nothing, List.append_nil] at whole
  refine ⟨?_, read, fun c mem => (framed c mem).tokens_append⟩
  rw [Stream.listing, read, List.flatMap_assoc]
  rfl

theorem listing_run_barcode :
    let s := Setting.small (.constant ['\x1b', '@'])
    let t := Text.toCodePoints "{{B_ON}}{{STORE_ID}}\n{{BARCODE}}".toList
    s.dictionary.entries = Tag.Entry.standard ∧ s.sale.Plain ∧ t.toText.Plain ∧
      Stream.listing (run s (.str t)).payload =
        (run s (.str t)).chunks.flatMap fun c => Stream.listing c.bytes := by
  intro s t
  have plain : t.toText.Plain := by decide
  exact ⟨rfl, Setting.plain_small _, plain,
    (listing_run_eq_flatMap rfl (Setting.plain_small _) plain).1⟩

end ReceiptPress.Synthesis
