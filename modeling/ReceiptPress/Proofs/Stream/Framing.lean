import ReceiptPress.Chunk
import ReceiptPress.Raster
import ReceiptPress.Stream.Listing

namespace ReceiptPress

def Bytes.Plain (bytes : Bytes) : Prop := ∀ b ∈ bytes, b ≠ 0x1B ∧ b ≠ 0x1D

instance (bytes : Bytes) : Decidable bytes.Plain :=
  List.decidableBAll (fun b => b ≠ 0x1B ∧ b ≠ 0x1D) bytes

theorem payload_append (before after : List Chunk) :
    payload (before ++ after) = payload before ++ payload after :=
  List.flatMap_append

theorem plain_payload {chunks : List Chunk} (plain : ∀ c ∈ chunks, c.bytes.Plain) :
    Bytes.Plain (payload chunks) := by
  intro b mem
  obtain ⟨c, among, here⟩ := List.mem_flatMap.1 mem
  exact plain c among b here

theorem Bytes.toNat_ofWord {n : Nat} (h : n < 65536) :
    (UInt8.ofNat (n % 256)).toNat + 256 * (UInt8.ofNat (n / 256)).toNat = n := by
  rw [UInt8.toNat_ofNat', UInt8.toNat_ofNat']
  omega

theorem Instruction.opens (i : Instruction) :
    ∃ b rest, i.bytes = b :: rest ∧ (b = 0x1B ∨ b = 0x1D) := by
  cases i with
  | align a => cases a <;> exact ⟨_, _, rfl, .inl rfl⟩
  | init | boldOn | boldOff => exact ⟨_, _, rfl, .inl rfl⟩
  | cut | doubleHeight | doubleWidth | normalSize => exact ⟨_, _, rfl, .inr rfl⟩

namespace Stream

/-- Bytes that a reader takes as a whole. -/
inductive Framed : Bytes → Prop
  | plain {bytes : Bytes} (plain : Bytes.Plain bytes) : Framed bytes
  | instruction (i : Instruction) : Framed i.bytes
  | image {widthBytes height : Nat} {body : Bytes} (width_lt : widthBytes < 65536)
      (height_lt : height < 65536) (length_eq : body.length = widthBytes * height) :
      Framed (Raster.header widthBytes height ++ body)
  | barcode {body : Bytes} (length_lt : body.length < 256) :
      Framed (barcodeOpening ++ code128Symbology :: UInt8.ofNat body.length :: body)

theorem tokensFrom_append {skipped : Bytes} (rest : Bytes) {skip : Nat}
    (h : skip = skipped.length) : tokensFrom skip (skipped ++ rest) = tokens rest := by
  subst h
  induction skipped with
  | nil => rfl
  | cons b skipped ih => exact ih

theorem tokens_of_next {b : UInt8} (taken : Bytes) {rest : Bytes} {token : Token} {size : Nat}
    (next : Token.next b (taken ++ rest) = (token, size)) (h : size = taken.length + 1) :
    tokens (b :: (taken ++ rest)) = token :: tokens rest := by
  have step : tokens (b :: (taken ++ rest)) = token :: tokensFrom (size - 1) (taken ++ rest) := by
    rw [tokens, tokensFrom, next]
  rw [step, tokensFrom_append rest (by omega)]

theorem listing_of_tokens {bytes rest : Bytes} {token : Token}
    (read : tokens bytes = token :: tokens rest) : listing bytes = token.text ++ listing rest := by
  rw [listing, read, List.flatMap_cons, listing]

theorem next_plain {b : UInt8} (h : b ≠ 0x1B ∧ b ≠ 0x1D) (rest : Bytes) :
    Token.next b rest = (.byte b, 1) := by
  have no_raster : Token.raster? (b :: rest) = none := by simp [Token.raster?, h.2]
  have no_barcode : Token.barcode? (b :: rest) = none := by simp [Token.barcode?, h.2]
  have no_instruction : Token.instruction? (b :: rest) = none := by
    rw [Token.instruction?, Option.map_eq_none_iff, List.find?_eq_none]
    intro i _ head
    obtain ⟨opening, others, eq, opens⟩ := i.opens
    rw [eq, List.isPrefixOf_cons_cons, Bool.and_eq_true, beq_iff_eq] at head
    rw [head.1] at opens
    exact opens.elim h.1 h.2
  rw [Token.next, no_raster, no_barcode, no_instruction]
  rfl

theorem tokens_plain {bytes : Bytes} (plain : Bytes.Plain bytes) (rest : Bytes) :
    tokens (bytes ++ rest) = bytes.map .byte ++ tokens rest := by
  induction bytes with
  | nil => rfl
  | cons b bytes ih =>
    have here : tokens (b :: (bytes ++ rest)) = .byte b :: tokens (bytes ++ rest) :=
      tokens_of_next [] (next_plain (plain b List.mem_cons_self) (bytes ++ rest)) rfl
    have others : tokens (bytes ++ rest) = bytes.map .byte ++ tokens rest :=
      ih fun x mem => plain x (List.mem_cons_of_mem b mem)
    rw [List.cons_append, here, others]
    rfl

theorem tokens_instruction (i : Instruction) (rest : Bytes) :
    tokens (i.bytes ++ rest) = .instruction i :: tokens rest := by
  cases i with
  | align a => cases a <;> rfl
  | _ => rfl

theorem next_image (mode : UInt8) {wl wh hl hh : UInt8} {widthBytes height : Nat} {body : Bytes}
    (width_eq : wl.toNat + 256 * wh.toNat = widthBytes)
    (height_eq : hl.toNat + 256 * hh.toNat = height) (length_eq : body.length = widthBytes * height)
    (rest : Bytes) :
    Token.next 0x1D (0x76 :: 0x30 :: mode :: wl :: wh :: hl :: hh :: body ++ rest) =
      (.raster widthBytes height, 8 + body.length) := by
  have complete : widthBytes * height ≤ (body ++ rest).length := by
    rw [List.length_append]
    omega
  have read :
      Token.raster? (0x1D :: (0x76 :: 0x30 :: mode :: wl :: wh :: hl :: hh :: body ++ rest)) =
        some (.raster widthBytes height, 8 + body.length) := by
    simp only [List.cons_append, Token.raster?, width_eq, height_eq, if_pos complete, length_eq]
  rw [Token.next, read]
  rfl

theorem tokens_image {widthBytes height : Nat} {body : Bytes} (width_lt : widthBytes < 65536)
    (height_lt : height < 65536) (length_eq : body.length = widthBytes * height) (rest : Bytes) :
    tokens (Raster.header widthBytes height ++ body ++ rest) =
      .raster widthBytes height :: tokens rest := by
  let taken : Bytes :=
    0x76 :: 0x30 :: 0x00 :: (Bytes.ofWord widthBytes ++ Bytes.ofWord height) ++ body
  have next : Token.next 0x1D (taken ++ rest) = (.raster widthBytes height, 8 + body.length) :=
    next_image rasterNormalMode (Bytes.toNat_ofWord width_lt) (Bytes.toNat_ofWord height_lt)
      length_eq rest
  have length_taken : taken.length = 7 + body.length := by
    simp only [taken, Bytes.ofWord, List.length_append, List.length_cons, List.length_nil]
  exact tokens_of_next taken next (by omega)

theorem next_barcode {size : UInt8} {body : Bytes} (length_eq : body.length = size.toNat)
    (rest : Bytes) :
    Token.next 0x1D (0x6B :: code128Symbology :: size :: body ++ rest) =
      (.barcode body, 4 + body.length) := by
  have complete : body.length ≤ (body ++ rest).length := by
    rw [List.length_append]
    omega
  have no_raster :
      Token.raster? (0x1D :: (0x6B :: code128Symbology :: size :: body ++ rest)) = none := rfl
  have read : Token.barcode? (0x1D :: (0x6B :: code128Symbology :: size :: body ++ rest)) =
      some (.barcode body, 4 + body.length) := by
    simp only [List.cons_append, Token.barcode?, ← length_eq, complete, and_self, if_true,
      List.take_left]
  rw [Token.next, no_raster, read]
  rfl

theorem tokens_barcode {body : Bytes} (length_lt : body.length < 256) (rest : Bytes) :
    tokens (barcodeOpening ++ code128Symbology :: UInt8.ofNat body.length :: body ++ rest) =
      .barcode body :: tokens rest := by
  have size_eq : body.length = (UInt8.ofNat body.length).toNat := by
    rw [UInt8.toNat_ofNat']
    omega
  let taken : Bytes := 0x6B :: code128Symbology :: UInt8.ofNat body.length :: body
  have next : Token.next 0x1D (taken ++ rest) = (.barcode body, 4 + body.length) :=
    next_barcode size_eq rest
  have length_taken : taken.length = 3 + body.length := by
    simp only [taken, List.length_cons]
    omega
  exact tokens_of_next taken next (by omega)

theorem Framed.tokens_append {bytes : Bytes} (framed : Framed bytes) (rest : Bytes) :
    tokens (bytes ++ rest) = tokens bytes ++ tokens rest := by
  -- Each case says what is read for every continuation, so also for the empty one.
  suffices ∃ read, ∀ rest, tokens (bytes ++ rest) = read ++ tokens rest by
    obtain ⟨read, eq⟩ := this
    have alone : tokens bytes = read := by
      have nothing := eq []
      rwa [List.append_nil, show tokens [] = [] from rfl, List.append_nil] at nothing
    rw [eq, alone]
  cases framed with
  | plain plain => exact ⟨_, tokens_plain plain⟩
  | instruction i => exact ⟨[_], tokens_instruction i⟩
  | image width_lt height_lt length_eq => exact ⟨[_], tokens_image width_lt height_lt length_eq⟩
  | barcode length_lt => exact ⟨[_], tokens_barcode length_lt⟩

/-- A stream of framed chunks is read chunk by chunk, whatever follows it. -/
theorem tokens_payload {chunks : List Chunk} (framed : ∀ c ∈ chunks, Framed c.bytes)
    (rest : Bytes) :
    tokens (payload chunks ++ rest) = (chunks.flatMap fun c => tokens c.bytes) ++ tokens rest := by
  induction chunks with
  | nil => rfl
  | cons c chunks ih =>
    have here := (framed c List.mem_cons_self).tokens_append (payload chunks ++ rest)
    have others := ih fun x mem => framed x (List.mem_cons_of_mem c mem)
    rw [payload, List.flatMap_cons, List.append_assoc, List.flatMap_cons, List.append_assoc,
      ← others]
    exact here

end Stream

end ReceiptPress
