import ReceiptPress.Proofs.Tag.History
import ReceiptPress.Proofs.Tag.Rendering
import ReceiptPress.Proofs.Tag.Replacement

/-!
# Lines divided by tags

A line is texts with tags that expand to bytes between them, and there is one way alone to write it
so (`Division.eq_of_of`), since tags do not overlap. A line is split along this division, which does
not mention the order of the entries (`existsUnique_division`).
-/

namespace ReceiptPress.Tag

/-! ## Tags that expand to bytes, in a text -/

namespace Dictionary

variable {d : Dictionary}

theorem isTag_of_emits {w : Text} (emits : d.emits w = true) : isTag w = true :=
  d.isTag_of_contains (d.contains_of_emits emits)

theorem emitterSize_append {w : Text} (emits : d.emits w = true) (t : Text) :
    d.emitterSize (w ++ t) = w.length := by
  rw [d.keeps_emits, size_append_of_isTag (isTag_of_emits emits), List.take_left, if_pos emits]

theorem exists_emits_of_pos {t : Text} (pos : 0 < d.emitterSize t) :
    ∃ w, d.emits w = true ∧ w <+: t ∧ d.emitterSize t = w.length := by
  rw [d.keeps_emits] at pos ⊢
  split at pos
  · rename_i emits
    refine ⟨t.take (Tag.size t), emits, List.take_prefix _ t, ?_⟩
    rw [if_pos emits, List.length_take_of_le (size_le_length t)]
  · omega

theorem emitterSize_eq_zero {t : Text} (none : ∀ w, d.emits w = true → ¬ w <+: t) :
    d.emitterSize t = 0 := by
  apply Nat.eq_zero_of_not_pos
  intro pos
  obtain ⟨w, emits, head, -⟩ := exists_emits_of_pos pos
  exact none w emits head

theorem separate_emitterSize (d : Dictionary) : Text.Separate d.emitterSize :=
  d.keeps_emits.separate separate

theorem settled_emitterSize (d : Dictionary) : Text.Settled d.emitterSize := by
  intro s t fits
  have head_of {w : Text} (emits : d.emits w = true) (head : w <+: s) :
      d.emitterSize (s ++ t) = w.length ∧ d.emitterSize s = w.length := by
    obtain ⟨rest, rfl⟩ := head
    rw [List.append_assoc]
    exact ⟨emitterSize_append emits _, emitterSize_append emits rest⟩
  rcases Nat.eq_zero_or_pos (d.emitterSize s) with none | pos
  · apply Eq.trans _ none.symm
    apply Nat.eq_zero_of_not_pos
    intro pos
    obtain ⟨w, emits, head, size_eq⟩ := exists_emits_of_pos pos
    have inner : w <+: s :=
      List.prefix_of_prefix_length_le head (List.prefix_append s t) (size_eq ▸ fits)
    obtain ⟨long, short⟩ := head_of emits inner
    omega
  · obtain ⟨w, emits, head, -⟩ := exists_emits_of_pos pos
    obtain ⟨long, short⟩ := head_of emits head
    rw [long, short]

end Dictionary

theorem eq_toCodePoints_of_toText {w : Text} (tag : isTag w = true) {s : CodePoints}
    (shown : s.toText = w) : s = w.toCodePoints := by
  have plain : ∀ p ∈ s, CodePoint.char p.toChar = p := by
    intro p mem
    cases p with
    | char c => rfl
    | surrogate place =>
      obtain ⟨name, h, rfl⟩ := isTag_iff.1 tag
      have among : '\uFFFD' ∈ braced name := shown ▸ List.mem_map_of_mem mem
      exact absurd (isTagChar_of_mem_braced h among) (by decide)
  rw [Text.toCodePoints, ← shown, CodePoints.toText, List.map_map]
  exact ((List.map_congr_left plain).trans (List.map_id s)).symm

theorem infix_of_infix_toText {w : Text} (tag : isTag w = true) {s : CodePoints}
    (inside : w <:+: s.toText) : w.toCodePoints <:+: s := by
  obtain ⟨front, back, shape⟩ := inside
  obtain ⟨before, behind, rfl, before_eq, -⟩ := List.map_eq_append_iff.1 shape.symm
  obtain ⟨first, middle, rfl, -, middle_eq⟩ := List.map_eq_append_iff.1 before_eq
  exact ⟨first, behind, by rw [eq_toCodePoints_of_toText tag middle_eq]⟩

/-! ## Divisions -/

/-- A text, and any number of tags that are followed by a text each. -/
structure Division where
  opening : CodePoints
  parts : List (Text × CodePoints)

namespace Division

variable {d : Dictionary} {line : CodePoints} {v : Division}

def tags (v : Division) : List Text := v.parts.map Prod.fst

def texts (v : Division) : List CodePoints := v.opening :: v.parts.map Prod.snd

def whole (v : Division) : CodePoints :=
  v.opening ++ v.parts.flatMap fun p => p.1.toCodePoints ++ p.2

/-- The texts and tags of a line: every tag expands to bytes, and no text has such a tag in it. -/
structure Of (v : Division) (d : Dictionary) (line : CodePoints) : Prop where
  whole_eq : v.whole = line
  emits : ∀ w ∈ v.tags, d.emits w = true
  apart : ∀ s ∈ v.texts, ∀ w, d.emits w = true → ¬ w.toCodePoints <:+: s

def printed (s : CodePoints) : Bytes := Text.toAscii s.toText

def textChunks (s : CodePoints) : List Chunk := if s = [] then [] else [.ofText (printed s)]

def chunks (v : Division) (d : Dictionary) : List Chunk :=
  textChunks v.opening ++
    v.parts.flatMap fun p => .ofText (d.segmentBytes (.tag p.1)) :: textChunks p.2

/-! ## Every line has a division -/

def join (v : Division) (w : Text) (u : Division) : Division :=
  ⟨v.opening, v.parts ++ (w, u.opening) :: u.parts⟩

theorem whole_join (v : Division) (w : Text) (u : Division) :
    (v.join w u).whole = v.whole ++ w.toCodePoints ++ u.whole := by
  simp [join, whole]

theorem Of.join {u : Division} {w : Text} {front back : CodePoints} (v_of : v.Of d front)
    (u_of : u.Of d back) (emits : d.emits w = true) :
    (v.join w u).Of d (front ++ w.toCodePoints ++ back) where
  whole_eq := by rw [whole_join, v_of.whole_eq, u_of.whole_eq]
  emits x mem := by
    simp only [Division.join, tags, List.map_append, List.map_cons, List.mem_append,
      List.mem_cons] at mem
    rcases mem with mem | rfl | mem
    · exact v_of.emits x mem
    · exact emits
    · exact u_of.emits x mem
  apart s mem := by
    have among : s ∈ v.texts ∨ s ∈ u.texts := by
      simpa only [Division.join, texts, List.map_append, List.map_cons, List.mem_append,
        List.mem_cons, or_assoc] using mem
    exact among.elim (v_of.apart s) (u_of.apart s)

theorem length_pos_of_emits {w : Text} (emits : d.emits w = true) : 0 < w.length := by
  obtain ⟨e, mem, -, rfl⟩ := Dictionary.emits_iff.1 emits
  exact List.length_pos_iff.2 (isTag_ne_nil (d.wellFormed e mem).isTag)

theorem exists_of (d : Dictionary) (line : CodePoints) : ∃ v : Division, v.Of d line := by
  -- Any tag in the line will do to cut it in two; which one comes first does not matter here.
  induction size : line.length using Nat.strongRecOn generalizing line with
  | ind n ih =>
    by_cases occurs : ∃ w, d.emits w = true ∧ w.toCodePoints <:+: line
    · obtain ⟨w, emits, front, back, rfl⟩ := occurs
      have pos := length_pos_of_emits emits
      simp only [List.length_append, Text.length_toCodePoints] at size
      obtain ⟨v, v_of⟩ := ih front.length (by omega) front rfl
      obtain ⟨u, u_of⟩ := ih back.length (by omega) back rfl
      exact ⟨v.join w u, v_of.join u_of emits⟩
    · refine ⟨⟨line, []⟩, List.append_nil line, nofun, ?_⟩
      intro s mem w emits inside
      obtain rfl : s = line := List.mem_singleton.1 mem
      exact occurs ⟨w, emits, inside⟩

/-! ## A line has one division -/

theorem Of.rest {opening s : CodePoints} {w : Text} {parts : List (Text × CodePoints)}
    (v_of : Of ⟨opening, (w, s) :: parts⟩ d line) :
    Of ⟨s, parts⟩ d (whole ⟨s, parts⟩) where
  whole_eq := rfl
  emits x mem := v_of.emits x (List.mem_cons_of_mem _ mem)
  apart t mem := v_of.apart t (List.mem_cons_of_mem _ mem)

def pieces (v : Division) : List Text.Piece :=
  v.opening.toText.map .char ++
    v.parts.flatMap fun p => .found p.1 :: p.2.toText.map .char

theorem pieces_cons (opening s : CodePoints) (w : Text) (parts : List (Text × CodePoints)) :
    pieces ⟨opening, (w, s) :: parts⟩ =
      opening.toText.map .char ++ .found w :: pieces ⟨s, parts⟩ := by
  simp [pieces]

theorem whole_cons (opening s : CodePoints) (w : Text) (parts : List (Text × CodePoints)) :
    whole ⟨opening, (w, s) :: parts⟩ = opening ++ (w.toCodePoints ++ whole ⟨s, parts⟩) := by
  simp [whole]

theorem toText_whole_cons (opening s : CodePoints) (w : Text) (parts : List (Text × CodePoints)) :
    (whole ⟨opening, (w, s) :: parts⟩).toText =
      opening.toText ++ (w ++ (whole ⟨s, parts⟩).toText) := by
  rw [whole_cons]
  simp [CodePoints.toText, Text.toCodePoints, Function.comp_def]

theorem Of.not_infix_text (v_of : v.Of d line) {s : CodePoints} (mem : s ∈ v.texts) {w : Text}
    (emits : d.emits w = true) : ¬ w <:+: s.toText := fun inside =>
  v_of.apart s mem w emits (infix_of_infix_toText (Dictionary.isTag_of_emits emits) inside)

theorem Of.pieces_text (v_of : v.Of d line) {s : CodePoints} (mem : s ∈ v.texts) :
    Text.pieces d.emitterSize s.toText = s.toText.map .char := by
  refine Text.pieces_eq_map_char fun k _ => Dictionary.emitterSize_eq_zero fun w emits head => ?_
  exact v_of.not_infix_text mem emits (head.isInfix.trans (List.drop_suffix k _).isInfix)

theorem Of.pieces_eq (v_of : v.Of d line) :
    Text.pieces d.emitterSize line.toText = v.pieces := by
  obtain ⟨opening, parts⟩ := v
  induction parts generalizing opening line with
  | nil =>
    have bare := v_of.pieces_text List.mem_cons_self
    rw [← v_of.whole_eq, whole, pieces, List.flatMap_nil, List.flatMap_nil, List.append_nil,
      List.append_nil, bare]
  | cons p parts ih =>
    obtain ⟨w, s⟩ := p
    have bare := v_of.pieces_text List.mem_cons_self
    have emits := v_of.emits w List.mem_cons_self
    have here := Dictionary.emitterSize_append emits (whole ⟨s, parts⟩).toText
    have some := isTag_ne_nil (Dictionary.isTag_of_emits emits)
    rw [← v_of.whole_eq, toText_whole_cons,
      Text.pieces_append_match d.separate_emitterSize d.settled_emitterSize some _ here, bare,
      ih s v_of.rest, pieces_cons]

theorem takeWhile_pieces (v : Division) :
    v.pieces.takeWhile (·.char?.isSome) = v.opening.toText.map .char := by
  have chars : ∀ p ∈ v.opening.toText.map Text.Piece.char, p.char?.isSome = true := by
    intro p mem
    obtain ⟨c, -, rfl⟩ := List.mem_map.1 mem
    rfl
  rw [pieces, List.takeWhile_append_of_pos chars]
  cases v.parts with
  | nil => exact List.append_nil _
  | cons p parts => exact List.append_nil _

theorem length_opening_eq {u : Division} (pieces_eq : v.pieces = u.pieces) :
    v.opening.length = u.opening.length := by
  have openings : v.opening.toText.map Text.Piece.char = u.opening.toText.map .char := by
    rw [← takeWhile_pieces, pieces_eq, takeWhile_pieces]
  simpa using congrArg List.length openings

theorem eq_of_pieces_eq {u : Division} (pieces_eq : v.pieces = u.pieces)
    (whole_eq : v.whole = u.whole) : v = u := by
  obtain ⟨opening, parts⟩ := v
  obtain ⟨opening', parts'⟩ := u
  induction parts generalizing opening opening' parts' with
  | nil =>
    obtain ⟨rfl, -⟩ := List.append_inj whole_eq (length_opening_eq pieces_eq)
    cases parts' with
    | nil => rfl
    | cons p parts' => cases List.append_cancel_left pieces_eq
  | cons p parts ih =>
    obtain ⟨rfl, -⟩ := List.append_inj whole_eq (length_opening_eq pieces_eq)
    cases parts' with
    | nil => cases List.append_cancel_left pieces_eq
    | cons p' parts' =>
      obtain ⟨w, s⟩ := p
      obtain ⟨w', s'⟩ := p'
      rw [pieces_cons, pieces_cons] at pieces_eq
      obtain ⟨found_eq, behind⟩ := List.cons.inj (List.append_cancel_left pieces_eq)
      cases found_eq
      rw [whole_cons, whole_cons] at whole_eq
      cases ih s s' parts' behind (List.append_cancel_left (List.append_cancel_left whole_eq))
      rfl

theorem eq_of_of {u : Division} (v_of : v.Of d line) (u_of : u.Of d line) : v = u :=
  eq_of_pieces_eq (v_of.pieces_eq.symm.trans u_of.pieces_eq)
    (v_of.whole_eq.trans u_of.whole_eq.symm)

/-! ## Splitting goes along the division -/

theorem map_ofPieces_map_char (d : Dictionary) (s : CodePoints) :
    (Segment.ofPieces (s.toText.map .char)).map (fun x => Chunk.ofText (d.segmentBytes x)) =
      textChunks s := by
  cases s with
  | nil => rfl
  | cons p s =>
    have shape : CodePoints.toText (p :: s) = p.toChar :: CodePoints.toText s := rfl
    rw [shape, Segment.ofPieces_map_char]
    rfl

theorem map_ofPieces_pieces (d : Dictionary) (v : Division) :
    (Segment.ofPieces v.pieces).map (fun x => Chunk.ofText (d.segmentBytes x)) = v.chunks d := by
  obtain ⟨opening, parts⟩ := v
  induction parts generalizing opening with
  | nil =>
    rw [pieces, chunks, List.flatMap_nil, List.flatMap_nil, List.append_nil, List.append_nil,
      map_ofPieces_map_char]
  | cons p parts ih =>
    obtain ⟨w, s⟩ := p
    rw [pieces_cons, Segment.ofPieces_append_found, List.map_append, List.map_cons, ih,
      map_ofPieces_map_char]
    simp [chunks]

theorem Of.splitLine_eq (v_of : v.Of d line) : d.splitLine line.toText = v.chunks d := by
  rw [Dictionary.splitLine, Dictionary.segments, v_of.pieces_eq, map_ofPieces_pieces]

theorem Of.bytes_ne_nil (v_of : v.Of d line) {c : Chunk} (mem : c ∈ v.chunks d) :
    c.bytes ≠ [] := by
  have of_text {s : CodePoints} (mem : c ∈ textChunks s) : c.bytes ≠ [] := by
    unfold textChunks at mem
    split at mem
    · cases mem
    · rename_i some
      cases List.mem_singleton.1 mem
      simpa [Chunk.ofText, printed, Text.toAscii, CodePoints.toText] using some
  rcases List.mem_append.1 mem with mem | mem
  · exact of_text mem
  · obtain ⟨p, among, mem⟩ := List.mem_flatMap.1 mem
    rcases List.mem_cons.1 mem with rfl | mem
    · have emits := v_of.emits p.1 (List.mem_map_of_mem among)
      obtain ⟨e, found, yes⟩ := (Option.any_eq_true _ _).1 emits
      have filled := (d.wellFormed e (Dictionary.get?_eq_some_iff.1 found).1).bytes_ne_nil yes
      simpa [Chunk.ofText, Dictionary.segmentBytes, found] using filled
    · exact of_text mem

theorem Of.filter_words_text (v_of : v.Of d line) {s : CodePoints} (mem : s ∈ v.texts) :
    (words s.toText).filter (!d.emits ·) = words s.toText := by
  refine List.filter_eq_self.2 fun w among => ?_
  have silent : ¬ d.emits w = true := fun emits =>
    v_of.not_infix_text mem emits (Text.infix_of_mem_words among)
  simpa using silent

theorem Of.words_texts (v_of : v.Of d line) :
    v.texts.flatMap (fun s => words s.toText) = (words line.toText).filter (!d.emits ·) := by
  obtain ⟨opening, parts⟩ := v
  induction parts generalizing opening line with
  | nil =>
    rw [← v_of.whole_eq, whole, List.flatMap_nil, List.append_nil,
      v_of.filter_words_text List.mem_cons_self]
    exact List.append_nil _
  | cons p parts ih =>
    obtain ⟨w, s⟩ := p
    have emits := v_of.emits w List.mem_cons_self
    rw [← v_of.whole_eq, toText_whole_cons, words_append_tag (Dictionary.isTag_of_emits emits),
      List.filter_append, v_of.filter_words_text List.mem_cons_self,
      List.filter_cons_of_neg (by simp [emits]), ← ih s v_of.rest]
    rfl

theorem lt_of_mem_printed {s : CodePoints} {b : UInt8} (mem : b ∈ printed s) : b < 0x80 := by
  obtain ⟨c, -, rfl⟩ := List.mem_map.1 mem
  rw [UInt8.lt_iff_toNat_lt, Text.asciiByte]
  split
  · rename_i ascii
    have small : c.toNat < 128 := by simpa [Text.isAscii] using ascii
    rw [UInt8.toNat_ofNat_of_lt' (Nat.lt_trans small (by decide))]
    exact small
  · decide

/-! ## The order of the entries -/

theorem splitLine_of_perm {other : Dictionary} (same : other.entries.Perm d.entries) (line : Text) :
    other.splitLine line = d.splitLine line := by
  have get?_eq (tag : Text) : other.get? tag = d.get? tag := by
    apply Option.ext
    intro e
    rw [Dictionary.get?_eq_some_iff, Dictionary.get?_eq_some_iff, same.mem_iff]
  have emitterSize_eq : other.emitterSize = d.emitterSize := by
    funext t
    rw [other.keeps_emits t, d.keeps_emits t, Dictionary.emits, Dictionary.emits, get?_eq]
  rw [Dictionary.splitLine, Dictionary.splitLine, Dictionary.segments, Dictionary.segments,
    emitterSize_eq]
  refine List.map_congr_left fun segment _ => congrArg Chunk.ofText ?_
  cases segment with
  | literal => rfl
  | tag w => rw [Dictionary.segmentBytes, Dictionary.segmentBytes, get?_eq]

/-- A line has one division alone, and is split along it. No chunk is empty, every code point of the
texts prints as one byte of ASCII, and the tags that expand to no bytes stay in the texts. The order
of the entries makes no difference, and they may be registered in any order. -/
theorem existsUnique_division (d : Dictionary) (line : CodePoints) :
    ∃ v : Division, v.Of d line ∧ (∀ other : Division, other.Of d line → other = v) ∧
      d.splitLine line.toText = v.chunks d ∧
      (∀ c ∈ d.splitLine line.toText, c.bytes ≠ []) ∧
      (∀ s ∈ v.texts, (printed s).length = s.length ∧ ∀ b ∈ printed s, b < 0x80) ∧
      (v.texts.flatMap fun s => words s.toText) = (words line.toText).filter (!d.emits ·) ∧
      (∀ other : Dictionary, other.entries.Perm d.entries →
        other.splitLine line.toText = d.splitLine line.toText) ∧
      ∀ ordered : List Entry, ordered.Perm d.entries →
        ∃ other, Dictionary.empty.registerAll ordered = .ok other ∧ other.entries = ordered := by
  obtain ⟨v, v_of⟩ := exists_of d line
  refine ⟨v, v_of, fun _ other_of => eq_of_of other_of v_of, v_of.splitLine_eq, ?_, ?_,
    v_of.words_texts, fun _ same => splitLine_of_perm same _, ?_⟩
  · intro c mem
    rw [v_of.splitLine_eq] at mem
    exact v_of.bytes_ne_nil mem
  · intro s _
    have length_eq : (printed s).length = s.length := by
      rw [printed, Text.length_toAscii, CodePoints.length_toText]
    exact ⟨length_eq, fun _ => lt_of_mem_printed⟩
  · intro ordered same
    refine Dictionary.registerAll_of_distinct (fun e mem => d.wellFormed e (same.mem_iff.1 mem)) ?_
    exact ((same.map Entry.tag).nodup_iff).2 d.distinct

end Division

end ReceiptPress.Tag
