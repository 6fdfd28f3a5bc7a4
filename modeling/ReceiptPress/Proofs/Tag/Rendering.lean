import Mathlib.Data.List.Basic
import ReceiptPress.Proofs.Tag.Literals
import ReceiptPress.Proofs.Tag.Replacement

namespace ReceiptPress

/-! ## White space -/

namespace Text

theorem exists_trim (t : Text) :
    ∃ before after, t = before ++ (trim t ++ after) ∧ (∀ c ∈ before, isBlank c = true) ∧
      ∀ c ∈ after, isBlank c = true := by
  have front := List.takeWhile_append_dropWhile (p := isBlank) (l := t)
  have back := List.takeWhile_append_dropWhile (p := isBlank) (l := (t.dropWhile isBlank).reverse)
  refine ⟨t.takeWhile isBlank, ((t.dropWhile isBlank).reverse.takeWhile isBlank).reverse, ?_,
    List.all_eq_true.1 List.all_takeWhile, fun c mem => ?_⟩
  · rw [trim, ← List.reverse_append, back, List.reverse_reverse, front]
  · exact List.all_eq_true.1 List.all_takeWhile c (List.mem_reverse.1 mem)

end Text

namespace Tag

def isTagChar (c : Char) : Bool := c = '{' || c = '}' || isNameChar c

theorem isTagChar_of_mem_braced {name : Text} (h : IsName name) {c : Char} (mem : c ∈ braced name) :
    isTagChar c = true := by
  simp only [braced, List.cons_append, List.mem_cons, List.mem_append, List.not_mem_nil,
    or_false] at mem
  rcases mem with rfl | rfl | mem | rfl | rfl
  · rfl
  · rfl
  · rw [isTagChar, h.chars c mem, Bool.or_true]
  · rfl
  · rfl

theorem isTagChar_of_isBlank {c : Char} (blank : Text.isBlank c = true) : isTagChar c = false := by
  simp only [Text.isBlank, Text.blanks, List.any_cons, List.any_nil, Bool.or_false, Bool.or_eq_true,
    Bool.and_eq_true, decide_eq_true_eq] at blank
  have no_mark : c ≠ '{' ∧ c ≠ '}' ∧ c ≠ '_' := by
    refine ⟨?_, ?_, ?_⟩ <;> rintro rfl <;> revert blank <;> decide
  have no_letter : 65 ≤ c.toNat → 90 < c.toNat := by omega
  have no_digit : 48 ≤ c.toNat → 57 < c.toNat := by omega
  simpa [isTagChar, isNameChar, no_mark] using ⟨no_letter, no_digit⟩

theorem safe_of_blank {v : Text} (some : v ≠ []) (blank : ∀ c ∈ v, Text.isBlank c = true) :
    Safe v := by
  have other (c : Char) (mem : c ∈ v) : c ≠ '{' ∧ c ≠ '}' ∧ isNameChar c = false := by
    have no_tag := isTagChar_of_isBlank (blank c mem)
    simpa [isTagChar, and_assoc] using no_tag
  obtain ⟨c, mem⟩ := List.exists_mem_of_ne_nil v some
  exact ⟨fun c mem => ⟨(other c mem).1, (other c mem).2.1⟩, c, mem, (other c mem).2.2⟩

section Blank

variable {v : Text} (blank : ∀ c ∈ v, Text.isBlank c = true) (t : Text)

include blank

theorem words_blank_append : words (v ++ t) = words t := by
  by_cases none : v = []
  · rw [none, List.nil_append]
  · exact (safe_of_blank none blank).divides.words_append size_le_length [] t

theorem words_append_blank : words (t ++ v) = words t := by
  by_cases none : v = []
  · rw [none, List.append_nil]
  · have apart := (safe_of_blank none blank).divides.words_append size_le_length t []
    rw [List.append_nil] at apart
    exact apart.trans (List.append_nil _)

end Blank

theorem words_trim (t : Text) : words (Text.trim t) = words t := by
  obtain ⟨before, after, whole, front, back⟩ := Text.exists_trim t
  calc words (Text.trim t) = words (Text.trim t ++ after) := (words_append_blank back _).symm
    _ = words (before ++ (Text.trim t ++ after)) := (words_blank_append front _).symm
    _ = words t := by rw [← whole]

theorem words_of_isTag {w : Text} (tag : isTag w = true) : words w = [w] := by
  have alone := words_append_tag tag [] []
  rwa [List.nil_append, List.append_nil] at alone

/-! ## Characters that the printer does not have -/

/-- A change of characters that leaves those of tags as they are and makes no others to such. -/
def FixesTags (f : Char → Char) : Prop :=
  ∀ c, isTagChar c = true ∨ isTagChar (f c) = true → f c = c

section FixesTags

variable {f : Char → Char} (fixes : FixesTags f)

include fixes

theorem map_braced {name : Text} (h : IsName name) : (braced name).map f = braced name := by
  have same : ∀ c ∈ braced name, f c = id c := fun c mem =>
    fixes c (.inl (isTagChar_of_mem_braced h mem))
  rw [List.map_congr_left same, List.map_id]

theorem eq_braced_of_map {t name : Text} (h : IsName name) (mapped : t.map f = braced name) :
    t = braced name := by
  have same : ∀ c ∈ t, f c = id c := fun c mem =>
    fixes c (.inr (isTagChar_of_mem_braced h (mapped ▸ List.mem_map_of_mem mem)))
  rwa [List.map_congr_left same, List.map_id] at mapped

theorem size_map (t : Text) : size (t.map f) = size t := by
  cases Nat.eq_zero_or_pos (size (t.map f)) with
  | inr pos =>
    obtain ⟨name, rest, h, found⟩ := eq_braced_of_size_pos pos
    obtain ⟨front, behind, rfl, front_eq, rfl⟩ := List.map_eq_append_iff.1 found
    rw [eq_braced_of_map fixes h front_eq, List.map_append, map_braced fixes h, size_braced h,
      size_braced h]
  | inl none =>
    apply none.trans
    apply Eq.symm
    apply Nat.eq_zero_of_not_pos
    intro pos
    obtain ⟨name, rest, h, rfl⟩ := eq_braced_of_size_pos pos
    rw [List.map_append, map_braced fixes h, size_braced h] at none
    omega

theorem take_size_map (t : Text) : (t.take (size t)).map f = t.take (size t) := by
  cases Nat.eq_zero_or_pos (size t) with
  | inl none => rw [none, List.take_zero, List.map_nil]
  | inr pos =>
    obtain ⟨name, rest, h, rfl⟩ := eq_braced_of_size_pos pos
    rw [take_size_braced h, map_braced fixes h]

theorem occurrences_map (offset : Nat) (t : Text) :
    Text.occurrences size offset (t.map f) = Text.occurrences size offset t := by
  induction t generalizing offset with
  | nil => rfl
  | cons c cs ih =>
    have here := size_map fixes (c :: cs)
    have kept := take_size_map fixes (c :: cs)
    rw [List.map_cons] at here ⊢
    cases found : size (c :: cs) with
    | zero =>
      rw [found] at here
      simp only [Text.occurrences, here, found, ih]
    | succ n =>
      rw [found] at here kept
      rw [List.map_take, List.map_cons] at kept
      simp only [Text.occurrences, here, found, ih, kept]

theorem words_map (t : Text) : words (t.map f) = words t := by
  rw [words, words, ← Text.map_snd_finds, ← Text.map_snd_finds,
    Text.finds_eq_occurrences separate, Text.finds_eq_occurrences separate, occurrences_map fixes]

end FixesTags

end Tag

/-! ## Chunks as text -/

def Chunk.text (c : Chunk) : Text := c.bytes.map fun b => Char.ofNat b.toNat

namespace Text

theorem ofNat_asciiByte (c : Char) :
    Char.ofNat (asciiByte c).toNat = if isAscii c then c else '?' := by
  unfold asciiByte
  split
  · rename_i ascii
    have small : c.toNat < 2 ^ 8 := Nat.lt_trans (of_decide_eq_true ascii) (by decide)
    rw [UInt8.toNat_ofNat', Nat.mod_eq_of_lt small, Char.ofNat_toNat]
  · rfl

theorem text_ofText_toAscii (t : Text) :
    (Chunk.ofText (toAscii t)).text = t.map fun c => if isAscii c then c else '?' := by
  rw [Chunk.text, Chunk.ofText, toAscii, List.map_map]
  exact List.map_congr_left fun c _ => ofNat_asciiByte c

end Text

namespace Tag

theorem isAscii_of_isTagChar {c : Char} (tag : isTagChar c = true) : Text.isAscii c = true := by
  simp only [isTagChar, isNameChar, Bool.or_eq_true, Bool.and_eq_true, decide_eq_true_eq] at tag
  rcases tag with (rfl | rfl) | ((letter | digit) | rfl)
  · rfl
  · rfl
  · exact decide_eq_true (by omega)
  · exact decide_eq_true (by omega)
  · rfl

theorem fixesTags_printed : FixesTags fun c => if Text.isAscii c then c else '?' := by
  rintro c (tag | tag)
  · exact if_pos (isAscii_of_isTagChar tag)
  · by_cases ascii : Text.isAscii c = true
    · exact if_pos ascii
    · simp only [if_neg ascii] at tag
      cases tag

theorem words_text_ofText (t : Text) : words (Chunk.ofText (Text.toAscii t)).text = words t := by
  rw [Text.text_ofText_toAscii, words_map fixesTags_printed]

/-! ## Splitting -/

namespace Segment

theorem ofPieces_append_found (ps : List Text.Piece) (w : Text) (qs : List Text.Piece) :
    ofPieces (ps ++ .found w :: qs) = ofPieces ps ++ tag w :: ofPieces qs := by
  induction ps with
  | nil => rfl
  | cons p ps ih =>
    cases p with
    | found v => exact congrArg (tag v :: ·) ih
    | char c =>
      simp only [List.cons_append, ofPieces, ih]
      cases ofPieces ps with
      | nil => rfl
      | cons segment rest => cases segment <;> rfl

theorem ofPieces_map_char (c : Char) (t : Text) :
    ofPieces ((c :: t).map .char) = [literal (c :: t)] := by
  induction t generalizing c with
  | nil => rfl
  | cons x t ih =>
    rw [List.map_cons, ofPieces, ih]

def words : Segment → List Text
  | literal t => Tag.words t
  | tag w => [w]

theorem flatMap_words_map_char (t : Text) :
    (ofPieces (t.map .char)).flatMap words = Tag.words t := by
  cases t with
  | nil => rfl
  | cons c t => rw [ofPieces_map_char, List.flatMap_singleton, words]

end Segment

theorem words_flatMap_text {ps : List Text.Piece} (tags : ∀ w, .found w ∈ ps → isTag w = true) :
    words (ps.flatMap Text.Piece.text) = (Segment.ofPieces ps).flatMap Segment.words := by
  -- The characters that were met since the last tag are carried along in front.
  suffices ahead : ∀ t : Text, words (t ++ ps.flatMap Text.Piece.text) =
      (Segment.ofPieces (t.map .char ++ ps)).flatMap Segment.words from ahead []
  induction ps with
  | nil =>
    intro t
    rw [List.flatMap_nil, List.append_nil, List.append_nil, Segment.flatMap_words_map_char]
  | cons p ps ih =>
    intro t
    have behind := ih fun w mem => tags w (List.mem_cons_of_mem p mem)
    rw [List.flatMap_cons]
    cases p with
    | char c =>
      have next := behind (t ++ [c])
      rw [List.map_append, List.append_assoc, List.append_assoc] at next
      exact next
    | found w =>
      have rest : words (ps.flatMap Text.Piece.text) =
          (Segment.ofPieces ps).flatMap Segment.words := behind []
      rw [Text.Piece.text, words_append_tag (tags w List.mem_cons_self), rest,
        Segment.ofPieces_append_found, List.flatMap_append, List.flatMap_cons,
        Segment.flatMap_words_map_char]
      rfl

namespace Dictionary

variable (d : Dictionary)

def unlisted (t : Text) : List Text := (words t).filter (!d.contains ·)

theorem contains_iff {w : Text} : d.contains w = true ↔ ∃ e ∈ d.entries, e.tag = w := by
  simp [contains]

theorem contains_of_emits {w : Text} (emits : d.emits w = true) : d.contains w = true := by
  obtain ⟨e, mem, -, tag_eq⟩ := emits_iff.1 emits
  exact d.contains_iff.2 ⟨e, mem, tag_eq⟩

theorem isTag_of_contains {w : Text} (listed : d.contains w = true) : isTag w = true := by
  obtain ⟨e, mem, rfl⟩ := d.contains_iff.1 listed
  exact (d.wellFormed e mem).isTag

theorem words_segments (line : Text) :
    words line = (d.segments line).flatMap Segment.words := by
  have tags : ∀ w, .found w ∈ Text.pieces d.emitterSize line → isTag w = true := by
    intro w mem
    have found : w ∈ Text.words d.emitterSize line := List.mem_filterMap.2 ⟨_, mem, rfl⟩
    rw [words_emitterSize] at found
    exact d.isTag_of_contains (d.contains_of_emits (List.mem_filter.1 found).2)
  have whole := Text.flatMap_text_piecesFrom d.emitterSize 0 line
  rw [List.drop_zero] at whole
  rw [segments, ← words_flatMap_text tags]
  exact congrArg words whole.symm

theorem unlisted_literalChunks (line : Text) :
    (d.literalChunks line).flatMap (fun c => d.unlisted c.text) = d.unlisted line := by
  have kept : ∀ segment ∈ d.segments line, (segment.words.filter (!d.contains ·)) =
      segment.literal?.toList.flatMap d.unlisted := by
    intro segment mem
    cases segment with
    | literal t => exact (List.flatMap_singleton d.unlisted t).symm
    | tag w =>
      have listed := d.contains_of_emits (emits_of_tag_mem mem)
      simp [Segment.words, Segment.literal?, listed]
  calc (d.literalChunks line).flatMap (fun c => d.unlisted c.text)
      = (d.literals line).flatMap d.unlisted := by
        simp only [literalChunks, List.flatMap_map, unlisted, words_text_ofText]
        rfl
    _ = (d.segments line).flatMap fun segment => segment.literal?.toList.flatMap d.unlisted := by
        rw [literals, List.filterMap_eq_flatMap_toList, List.flatMap_assoc]
    _ = (d.segments line).flatMap fun segment => segment.words.filter (!d.contains ·) := by
        rw [List.flatMap_def, List.flatMap_def, List.map_congr_left kept]
    _ = d.unlisted line := by
        rw [unlisted, d.words_segments line, List.filter_flatMap]

end Dictionary

end Tag

end ReceiptPress
