import ReceiptPress.Proofs.Stream.Framing

namespace ReceiptPress.Stream

def shown (b : UInt8) : Text :=
  if b = 0x0A ∨ 0x20 ≤ b.toNat ∧ b.toNat ≤ 0x7E then [Char.ofNat b.toNat]
  else "[0x".toList ++ Text.hexPair b ++ [']']

inductive Whole : Bytes → Text → Prop
  | image (mode : UInt8) {wl wh hl hh : UInt8} {widthBytes height : Nat} {body : Bytes}
      (width_eq : wl.toNat + 256 * wh.toNat = widthBytes)
      (height_eq : hl.toNat + 256 * hh.toNat = height)
      (length_eq : body.length = widthBytes * height) :
      Whole (rasterOpening ++ mode :: wl :: wh :: hl :: hh :: body)
        ("[RASTER ".toList ++ Text.ofNat (widthBytes * 8) ++ 'x' :: Text.ofNat height ++ [']'])
  | barcode {size : UInt8} {payload : Bytes} (length_eq : payload.length = size.toNat) :
      Whole (barcodeOpening ++ code128Symbology :: size :: payload)
        ("[BARCODE ".toList ++ payload.map Token.payloadChar ++ [']'])
  | instruction (i : Instruction) : Whole i.bytes ('[' :: i.name.toList ++ [']'])

/-- The parts of a stream in order, each with what it is shown as. A byte stands alone only where no
part of several bytes begins. -/
inductive Divided : Bytes → List (Bytes × Text) → Prop
  | nil : Divided [] []
  | whole {taken rest : Bytes} {text : Text} {parts : List (Bytes × Text)}
      (whole : Whole taken text) (others : Divided rest parts) :
      Divided (taken ++ rest) ((taken, text) :: parts)
  | byte {b : UInt8} {rest : Bytes} {parts : List (Bytes × Text)}
      (alone : ∀ taken text, Whole taken text → ¬ taken <+: b :: rest)
      (others : Divided rest parts) : Divided (b :: rest) (([b], shown b) :: parts)

/-- Streams that open an image or a barcode and do not complete it, or open a barcode of another
symbology. -/
inductive Truncated : Bytes → Prop
  | imageHeader {header : Bytes} (short : header.length < 5) : Truncated (rasterOpening ++ header)
  | imageBody {mode wl wh hl hh : UInt8} {body : Bytes}
      (short : body.length < (wl.toNat + 256 * wh.toNat) * (hl.toNat + 256 * hh.toNat)) :
      Truncated (rasterOpening ++ mode :: wl :: wh :: hl :: hh :: body)
  | barcodeHeader {header : Bytes} (short : header.length < 2) :
      Truncated (barcodeOpening ++ header)
  | barcodeBody {size : UInt8} {payload : Bytes} (short : payload.length < size.toNat) :
      Truncated (barcodeOpening ++ code128Symbology :: size :: payload)
  | otherSymbology {symbology : UInt8} {rest : Bytes} (other : symbology ≠ code128Symbology) :
      Truncated (barcodeOpening ++ symbology :: rest)

variable {b : UInt8} {taken rest bytes : Bytes} {text : Text} {parts : List (Bytes × Text)}

/-! ## Reading one part -/

theorem text_byte_eq (b : UInt8) : (Token.byte b).text = shown b := by
  rw [Token.text_byte, shown]
  by_cases newline : b = 0x0A
  · subst newline
    rfl
  · simp [newline, Bytes.isGraphic]

theorem Whole.next (whole : Whole taken text) (rest : Bytes) :
    ∃ b more token, taken = b :: more ∧
      Token.next b (more ++ rest) = (token, taken.length) ∧ token.text = text := by
  cases whole with
  | image mode width_eq height_eq length_eq =>
    have read := next_image mode width_eq height_eq length_eq rest
    refine ⟨_, _, _, rfl, read.trans (congrArg _ ?_), Token.text_raster _ _⟩
    simp only [rasterOpening, List.length_append, List.length_cons, List.length_nil]
    omega
  | barcode length_eq =>
    have read := next_barcode length_eq rest
    refine ⟨_, _, _, rfl, read.trans (congrArg _ ?_), Token.text_barcode _⟩
    simp only [barcodeOpening, List.length_append, List.length_cons, List.length_nil]
    omega
  | instruction i =>
    cases i with
    | align a =>
      cases a <;> exact ⟨_, _, _, rfl, rfl, Token.text_instruction _⟩
    | _ => exact ⟨_, _, _, rfl, rfl, Token.text_instruction _⟩

theorem exists_whole_of_raster? {read : Token × Nat} (h : Token.raster? bytes = some read) :
    ∃ taken text, Whole taken text ∧ taken <+: bytes := by
  unfold Token.raster? at h
  split at h
  · rename_i mode wl wh hl hh rest
    dsimp only at h
    split at h
    · rename_i complete
      refine ⟨_, _, .image mode rfl rfl (List.length_take_of_le complete), ?_⟩
      simpa [rasterOpening] using List.take_prefix _ rest
    · cases h
  · cases h

theorem exists_whole_of_barcode? {read : Token × Nat} (h : Token.barcode? bytes = some read) :
    ∃ taken text, Whole taken text ∧ taken <+: bytes := by
  unfold Token.barcode? at h
  split at h
  · rename_i symbology size rest
    split at h
    · rename_i complete
      obtain ⟨rfl, complete⟩ := complete
      refine ⟨_, _, .barcode (List.length_take_of_le complete), ?_⟩
      simpa [barcodeOpening] using List.take_prefix _ rest
    · cases h
  · cases h

theorem exists_whole_of_instruction? {read : Token × Nat}
    (h : Token.instruction? bytes = some read) :
    ∃ taken text, Whole taken text ∧ taken <+: bytes := by
  obtain ⟨i, found, -⟩ := Option.map_eq_some_iff.1 h
  have head := List.find?_some found
  exact ⟨i.bytes, _, .instruction i, List.isPrefixOf_iff_prefix.1 head⟩

theorem next_byte (alone : ∀ taken text, Whole taken text → ¬ taken <+: b :: rest) :
    Token.next b rest = (.byte b, 1) := by
  have none_of {reader : Bytes → Option (Token × Nat)}
      (exists_whole : ∀ {read}, reader (b :: rest) = some read →
        ∃ taken text, Whole taken text ∧ taken <+: b :: rest) : reader (b :: rest) = none := by
    cases found : reader (b :: rest) with
    | none => rfl
    | some read =>
      obtain ⟨taken, text, whole, head⟩ := exists_whole found
      exact absurd head (alone taken text whole)
  rw [Token.next, none_of exists_whole_of_raster?, none_of exists_whole_of_barcode?,
    none_of exists_whole_of_instruction?]
  rfl

theorem Whole.eq_of_prefix {other : Bytes} {label : Text} (whole : Whole taken text)
    (others : Whole other label) (head : taken <+: bytes) (other_head : other <+: bytes) :
    taken = other ∧ text = label := by
  -- Both are the token at the head of one stream, so they are as long.
  obtain ⟨rest, rfl⟩ := head
  obtain ⟨behind, same⟩ := other_head
  obtain ⟨b, more, token, rfl, read, rfl⟩ := whole.next rest
  obtain ⟨c, further, token', rfl, other_read, rfl⟩ := others.next behind
  rw [List.cons_append, List.cons_append, List.cons.injEq] at same
  obtain ⟨rfl, same⟩ := same
  rw [same] at other_read
  obtain ⟨rfl, length_eq⟩ := Prod.mk.inj (read.symm.trans other_read)
  have more_eq : further = more := (List.append_inj same (by simpa using length_eq.symm)).1
  exact ⟨by rw [more_eq], rfl⟩

/-! ## Dividing a stream -/

theorem Divided.flatten_eq (divided : Divided bytes parts) :
    (parts.map Prod.fst).flatten = bytes := by
  induction divided with
  | nil => rfl
  | whole _ _ ih => rw [List.map_cons, List.flatten_cons, ih]
  | byte _ _ ih =>
    rw [List.map_cons, List.flatten_cons, ih]
    rfl

theorem Divided.ne_nil (divided : Divided bytes parts) : ∀ part ∈ parts, part.1 ≠ [] := by
  induction divided with
  | nil => exact nofun
  | whole whole _ ih =>
    obtain ⟨b, more, -, rfl, -⟩ := whole.next []
    exact List.forall_mem_cons.2 ⟨List.cons_ne_nil b more, ih⟩
  | byte _ _ ih => exact List.forall_mem_cons.2 ⟨List.cons_ne_nil _ _, ih⟩

theorem Divided.map_text_tokens (divided : Divided bytes parts) :
    (tokens bytes).map Token.text = parts.map Prod.snd := by
  induction divided with
  | nil => rfl
  | @whole taken rest text parts whole _ ih =>
    obtain ⟨b, more, token, rfl, read, rfl⟩ := whole.next rest
    rw [List.cons_append, tokens_of_next more read rfl, List.map_cons, ih]
    rfl
  | @byte b rest parts alone _ ih =>
    have read : tokens (b :: rest) = .byte b :: tokens rest :=
      tokens_of_next [] (next_byte alone) rfl
    rw [read, List.map_cons, ih, text_byte_eq]
    rfl

theorem exists_divided (bytes : Bytes) : ∃ parts, Divided bytes parts := by
  -- Parts are not empty, so what lies behind the first one is shorter.
  induction size : bytes.length using Nat.strongRecOn generalizing bytes with
  | ind n ih =>
    subst size
    by_cases begins : ∃ taken text, Whole taken text ∧ taken <+: bytes
    · obtain ⟨taken, text, whole, rest, rfl⟩ := begins
      obtain ⟨b, more, -, rfl, -⟩ := whole.next rest
      have shorter : rest.length < (b :: more ++ rest).length := by
        simp only [List.length_append, List.length_cons]
        omega
      obtain ⟨parts, others⟩ := ih rest.length shorter rest rfl
      exact ⟨_, .whole whole others⟩
    · cases bytes with
      | nil => exact ⟨[], .nil⟩
      | cons b rest =>
        obtain ⟨parts, others⟩ := ih rest.length (Nat.lt_succ_self _) rest rfl
        exact ⟨_, .byte (fun taken text whole head => begins ⟨taken, text, whole, head⟩) others⟩

theorem Divided.eq_of_divided {parts' : List (Bytes × Text)} (divided : Divided bytes parts)
    (again : Divided bytes parts') : parts' = parts := by
  induction divided generalizing parts' with
  | nil =>
    generalize stream : ([] : Bytes) = bytes at again
    cases again with
    | nil => rfl
    | whole whole _ =>
      obtain ⟨b, more, -, rfl, -⟩ := whole.next []
      cases stream
    | byte => cases stream
  | @whole taken rest text parts whole others ih =>
    obtain ⟨b, more, -, taken_eq, -⟩ := whole.next rest
    generalize stream : taken ++ rest = bytes at again
    cases again with
    | nil => rw [taken_eq] at stream; cases stream
    | whole whole' others' =>
      obtain ⟨rfl, rfl⟩ := whole.eq_of_prefix whole' ⟨rest, stream⟩ (List.prefix_append _ _)
      rw [List.append_cancel_left stream] at ih
      rw [ih others']
    | byte alone _ => exact absurd ⟨rest, stream⟩ (alone taken text whole)
  | @byte b rest parts alone others ih =>
    generalize stream : b :: rest = bytes at again
    cases again with
    | nil => cases stream
    | whole whole' _ => exact absurd (stream ▸ List.prefix_append _ _) (alone _ _ whole')
    | byte _ others' =>
      cases stream
      rw [ih others']

/-! ## Parts that are not complete -/

theorem Whole.image_of_prefix {header : Bytes} (whole : Whole taken text)
    (head : taken <+: rasterOpening ++ header) :
    ∃ mode wl wh hl hh body, header = mode :: wl :: wh :: hl :: hh :: body ∧
      (wl.toNat + 256 * wh.toNat) * (hl.toNat + 256 * hh.toNat) ≤ body.length := by
  obtain ⟨rest, stream⟩ := head
  cases whole with
  | image mode width_eq height_eq length_eq =>
    rw [List.append_assoc] at stream
    refine ⟨_, _, _, _, _, _, (List.append_cancel_left stream).symm, ?_⟩
    rw [width_eq, height_eq, ← length_eq]
    exact List.length_append ▸ Nat.le_add_right _ _
  | barcode => simp [barcodeOpening, rasterOpening] at stream
  | instruction i =>
    cases i with
    | align a => cases a <;> simp [Instruction.bytes, rasterOpening] at stream
    | _ => simp [Instruction.bytes, rasterOpening] at stream

theorem Whole.barcode_of_prefix {header : Bytes} (whole : Whole taken text)
    (head : taken <+: barcodeOpening ++ header) :
    ∃ size payload, header = code128Symbology :: size :: payload ∧ size.toNat ≤ payload.length := by
  obtain ⟨rest, stream⟩ := head
  cases whole with
  | image => simp [barcodeOpening, rasterOpening] at stream
  | barcode length_eq =>
    rw [List.append_assoc] at stream
    refine ⟨_, _, (List.append_cancel_left stream).symm, ?_⟩
    rw [← length_eq]
    exact List.length_append ▸ Nat.le_add_right _ _
  | instruction i =>
    cases i with
    | align a => cases a <;> simp [Instruction.bytes, barcodeOpening] at stream
    | _ => simp [Instruction.bytes, barcodeOpening] at stream

theorem Truncated.alone (truncated : Truncated bytes) :
    ∀ taken text, Whole taken text → ¬ taken <+: bytes := by
  intro taken text whole head
  cases truncated with
  | imageHeader short =>
    obtain ⟨mode, wl, wh, hl, hh, body, rfl, -⟩ := whole.image_of_prefix head
    simp only [List.length_cons] at short
    omega
  | imageBody short =>
    obtain ⟨mode, wl, wh, hl, hh, body, eq, complete⟩ := whole.image_of_prefix head
    cases eq
    omega
  | barcodeHeader short =>
    obtain ⟨size, payload, rfl, -⟩ := whole.barcode_of_prefix head
    simp only [List.length_cons] at short
    omega
  | barcodeBody short =>
    obtain ⟨size, payload, eq, complete⟩ := whole.barcode_of_prefix head
    cases eq
    omega
  | otherSymbology other =>
    obtain ⟨size, payload, eq, -⟩ := whole.barcode_of_prefix head
    exact other (List.cons.inj eq).1

theorem Truncated.opens (truncated : Truncated bytes) : ∃ rest, bytes = 0x1D :: rest := by
  cases truncated <;> exact ⟨_, rfl⟩

theorem Divided.of_truncated {part : Bytes × Text} (divided : Divided bytes (part :: parts))
    (truncated : Truncated bytes) : part = ([0x1D], "[0x1d]".toList) := by
  obtain ⟨rest, rfl⟩ := truncated.opens
  generalize stream : 0x1D :: rest = bytes at divided truncated
  cases divided with
  | whole whole _ => exact absurd (List.prefix_append _ _) (truncated.alone _ _ whole)
  | byte alone _ =>
    cases stream
    rfl

theorem Divided.of_append {before after : List (Bytes × Text)}
    (divided : Divided bytes (before ++ after)) :
    Divided (after.map Prod.fst).flatten after := by
  induction before generalizing bytes with
  | nil => exact divided.flatten_eq ▸ divided
  | cons part before ih =>
    cases divided with
    | whole _ others => exact ih others
    | byte _ others => exact ih others

/-- There is one division of a stream into parts. Its parts make up the stream and are what the
listing shows, one after the other. Where an image or barcode is opened that is not complete, its
first byte is a part. -/
theorem listing_divided (bytes : Bytes) :
    ∃ parts, Divided bytes parts ∧ (∀ parts', Divided bytes parts' → parts' = parts) ∧
      (parts.map Prod.fst).flatten = bytes ∧ (∀ part ∈ parts, part.1 ≠ []) ∧
      (tokens bytes).map Token.text = parts.map Prod.snd ∧
      listing bytes = (parts.map Prod.snd).flatten ∧
      ∀ before part after, parts = before ++ part :: after →
        Truncated ((part :: after).map Prod.fst).flatten →
          part = ([0x1D], "[0x1d]".toList) := by
  obtain ⟨parts, divided⟩ := exists_divided bytes
  refine ⟨parts, divided, fun parts' => divided.eq_of_divided, divided.flatten_eq, divided.ne_nil,
    divided.map_text_tokens, ?_, ?_⟩
  · rw [← divided.map_text_tokens, listing, List.flatMap_def]
  · intro before part after parts_eq truncated
    rw [parts_eq] at divided
    exact divided.of_append.of_truncated truncated

example : listing [0x1D, 0x76, 0x30, 0x00, 0x01, 0x00, 0x03, 0x00, 0x1B, 0x40] =
    "[0x1d]v0[0x00][0x01][0x00][0x03][0x00][INIT]".toList := by decide

end ReceiptPress.Stream
