import OpeningHours.Listing
import OpeningHours.Proofs.Lines
import OpeningHours.Proofs.Respelling

/-!
# OpeningHours — searching by a piece

An agency is found by any piece of its name, city or address, cut anywhere and spelled in any case
and with any accents. Two things keep a folded piece from being a piece of the folded text: a sigma
whose form depends on what was cut off, and a mark that moves past another one. Texts without a
capital sigma and without marks other than diacritics have neither, and fold to their letters, one
character after the other. Then a piece of the text has a piece of its letters, and so has what is
left of the query when its blanks are trimmed off.

* `Searchable` — a text that folds character by character.

## Results

* `occursIn_iff`        — a text occurs in another one exactly if it is a piece of it.
* `fold_of_searchable`  — a searchable text folds to its letters.
* `search_finds_piece`  — a search by a piece finds the agency, and keeps the order of the list.
-/

namespace OpeningHours

namespace Text

open Unicode

-- ---------------------------------------------------------------------------
-- Pieces
-- ---------------------------------------------------------------------------

/-- A text occurs in another one exactly if it is a piece of it. -/
theorem occursIn_iff {needle cs : List Char} : occursIn needle cs = true ↔ needle <:+: cs := by
  induction cs with
  | nil => rw [occursIn, List.isEmpty_iff, List.infix_nil]
  | cons c cs ih =>
    rw [occursIn, Bool.or_eq_true, List.isPrefixOf_iff_prefix, ih, List.infix_cons_iff]

theorem trim_piece (cs : List Char) : trim cs <:+: cs := by
  obtain ⟨front, back, -, -, hcs⟩ := exists_blank_edges cs
  exact ⟨front, back, hcs.symm⟩

/-- The letters of a piece are a piece of the letters. -/
theorem flatMap_letters_piece {piece cs : List Char} (h : piece <:+: cs) :
    piece.flatMap letters <:+: cs.flatMap letters := by
  obtain ⟨front, back, rfl⟩ := h
  rw [List.flatMap_append, List.flatMap_append]
  exact List.infix_append ..

-- ---------------------------------------------------------------------------
-- Texts that fold character by character
-- ---------------------------------------------------------------------------

/-- No capital sigma stands in the text, and its decomposition has no marks other than diacritics
that could move past one another. -/
structure Searchable (cs : List Char) : Prop where
  no_sigma : 'Σ' ∉ cs
  marks : ∀ x ∈ decompose cs, combiningClass x ≠ 0 → isDiacritic x = true

instance (cs : List Char) : Decidable (Searchable cs) :=
  decidable_of_iff
    ('Σ' ∉ cs ∧ ((decompose cs).all fun x => combiningClass x = 0 || isDiacritic x) = true)
    ⟨fun h => ⟨h.1, fun x hx hclass => by simpa [hclass] using List.all_eq_true.mp h.2 x hx⟩,
    fun h => ⟨h.no_sigma, List.all_eq_true.mpr fun x hx => by
      simpa [or_iff_not_imp_left] using h.marks x hx⟩⟩

/-- The characters of a decomposed text come from its characters. -/
theorem mem_decompose {x : Char} {cs : List Char} :
    x ∈ decompose cs ↔ ∃ c ∈ cs, x ∈ decomposeChar c := by
  rw [decompose, mem_orderMarks, List.mem_flatMap]

/-- A piece of a searchable text is searchable. -/
theorem Searchable.piece {piece cs : List Char} (h : Searchable cs) (hpiece : piece <:+: cs) :
    Searchable piece := by
  refine ⟨fun hsigma => h.no_sigma (hpiece.mem hsigma), ?_⟩
  intro x hx
  obtain ⟨c, hc, hx⟩ := mem_decompose.mp hx
  exact h.marks x (mem_decompose.mpr ⟨c, hpiece.mem hc, hx⟩)

/-- Without capital sigmas every character is mapped on its own. -/
theorem lowerAfter_of_no_sigma {cs : List Char} (h : 'Σ' ∉ cs) (before : List Char) :
    lowerAfter before cs = cs.flatMap lowerChar := by
  induction cs generalizing before with
  | nil => rfl
  | cons c cs ih =>
    rw [List.mem_cons, not_or] at h
    rw [lowerAfter, if_neg (Ne.symm h.1), ih h.2, List.flatMap_cons]

/-- The marks of the text in lower case are those of the text and the dot of `İ`. -/
theorem Searchable.lower_marks {cs : List Char} (h : Searchable cs) {y : Char}
    (hy : y ∈ (cs.flatMap lowerChar).flatMap decomposeChar) (hclass : combiningClass y ≠ 0) :
    isDiacritic y = true := by
  rw [List.flatMap_assoc] at hy
  obtain ⟨c, hc, hy⟩ := List.mem_flatMap.mp hy
  rw [lowerChar_decomposeChar tablesAgree] at hy
  obtain ⟨x, hx, hy⟩ := List.mem_flatMap.mp hy
  rcases eq_of_mem_lowerChar tablesAgree hy hclass with rfl | rfl
  · exact h.marks y (mem_decompose.mpr ⟨c, hc, hx⟩) hclass
  · decide

/-- A searchable text folds to its letters. -/
theorem fold_of_searchable {cs : List Char} (h : Searchable cs) :
    fold cs = cs.flatMap letters := by
  -- all marks that could change places are filtered out
  have horder : ∀ x ∈ (cs.flatMap lowerChar).flatMap decomposeChar,
      ∀ y ∈ (cs.flatMap lowerChar).flatMap decomposeChar, combiningClass x ≠ 0 →
        combiningClass y ≠ 0 → (!isDiacritic x) = true → (!isDiacritic y) = true → id x = id y := by
    intro x hx y _ hclass _ hkept
    rw [h.lower_marks hx hclass] at hkept
    contradiction
  have hmap := map_filter_orderMarks horder
  rw [List.map_id, List.map_id] at hmap
  rw [fold, lower, lowerAfter_of_no_sigma h.no_sigma, decompose, hmap, List.flatMap_assoc,
    List.filter_flatMap]
  rfl

end Text

namespace Listing

open Text

-- ---------------------------------------------------------------------------
-- Searching
-- ---------------------------------------------------------------------------

/-- A folded query is a piece of the folded text that it is a spelling of a piece of. -/
theorem fold_trim_piece {field query piece : List Char} (hpiece : piece <:+: field)
    (hquery : Relation.EqvGen Respells piece query) (hfield : Searchable field)
    (hplain : Searchable query) : fold (trim query) <:+: fold field := by
  have htrim : Searchable (trim query) := hplain.piece (trim_piece query)
  have hletters : query.flatMap letters <:+: field.flatMap letters := by
    rw [← flatMap_letters_of_eqvGen hquery]
    exact flatMap_letters_piece hpiece
  rw [fold_of_searchable htrim, fold_of_searchable hfield]
  exact (flatMap_letters_piece (trim_piece query)).trans hletters

/-- **An agency is found by any piece of its name, city or address.** The piece may be spelled with
other characters of the same lower-case form, composed or decomposed, and with diacritics put in or
left out, and the views that are found keep their order. -/
theorem search_finds_piece {views : List View} {v : View} (hv : v ∈ views) {field : String}
    (hfield : field ∈ [v.agency.name, v.agency.city, v.agency.address]) {piece : List Char}
    (hpiece : piece <:+: field.toList) {query : String}
    (hquery : Relation.EqvGen Respells piece query.toList) (hplain : Searchable field.toList)
    (hplain' : Searchable query.toList) :
    v ∈ search query views ∧ (search query views).Sublist views := by
  refine ⟨List.mem_filter.mpr ⟨hv, ?_⟩, List.filter_sublist⟩
  have hinfix := fold_trim_piece hpiece hquery hplain hplain'
  rw [hasPiece, Bool.or_eq_true, List.any_eq_true]
  exact .inr ⟨field, hfield, occursIn_iff.mpr hinfix⟩

/-- A piece of a name in capitals, without its accent and with a blank behind it. -/
theorem search_finds_piece_capitals :
    let agency : Feed.Agency :=
      ⟨"Nouméa Centre", "1 rue", "98800", "Nouméa", "", "", -22.25, 166.5, ""⟩
    let v : View := ⟨agency, ⟨.closed, .unavailable .schedule⟩, []⟩
    v ∈ search "EA " [v] := by
  intro agency v
  have hpiece : "éa ".toList <:+: "Nouméa Centre".toList :=
    ⟨"Noum".toList, "Centre".toList, by decide⟩
  have hquery : Relation.EqvGen Respells "éa ".toList "EA ".toList := by
    have haccent : Respells "éa ".toList "e\u0301a ".toList := .decompose 'é' [] "a ".toList
    have hplain : Respells "e\u0301a ".toList "ea ".toList := .unmark ['e'] "a ".toList (by decide)
    have hfirst : Respells "ea ".toList "Ea ".toList := .recase [] "a ".toList (by decide)
    have hsecond : Respells "Ea ".toList "EA ".toList := .recase ['E'] [' '] (by decide)
    exact .trans _ _ _ (.rel _ _ haccent) (.trans _ _ _ (.rel _ _ hplain)
      (.trans _ _ _ (.rel _ _ hfirst) (.rel _ _ hsecond)))
  have hname : Searchable "Nouméa Centre".toList := by decide
  have hplain : Searchable "EA ".toList := by decide
  exact (search_finds_piece (List.mem_singleton_self v) (List.mem_cons_self ..) hpiece hquery
    hname hplain).1

end Listing

end OpeningHours
