import Mathlib.Data.List.DropRight
import TrustPath.Text.Ascii
import TrustPath.Text.Folding

/-!
What folding does to an ASCII text: it writes the words of the text, which white
space separates, in lower case and with one space between them. So two ASCII
texts are equal when folded exactly if they have the same words.
-/

namespace TrustPath.Text

variable {c : Char} {cs word : List Char}

/-- The words of a text: the pieces between white space that are not empty. -/
def words (cs : List Char) : List (List Char) :=
  (cs.splitOnP isBlank).filter (· ≠ [])

/-- Two texts are ASCII and have the same words, letter case aside. -/
structure SameWords (s t : String) : Prop where
  ascii_left : ∀ c ∈ s.toList, c.toNat < 128
  ascii_right : ∀ c ∈ t.toList, c.toNat < 128
  words_eq : words (s.toList.map Char.toLower) =
    words (t.toList.map Char.toLower)

/-! ### Words -/

theorem words_blank (hblank : isBlank c = true) (cs : List Char) :
    words (c :: cs) = words cs := by
  rw [words, List.splitOnP_cons_eq_if_modifyHead, if_pos hblank,
    List.filter_cons_of_neg (by simp), words]

/-- A word ends at the first blank after it. -/
theorem words_append_blank (hword : ∀ d ∈ word, isBlank d = false)
    (hne : word ≠ []) (hblank : isBlank c = true) (cs : List Char) :
    words (word ++ c :: cs) = word :: words cs := by
  rw [words, List.splitOnP_append_cons_of_forall_mem hword c hblank,
    List.filter_cons_of_pos (by simpa using hne), words]

theorem words_of_word (hword : ∀ d ∈ word, isBlank d = false)
    (hne : word ≠ []) : words word = [word] := by
  rw [words, List.splitOnP_eq_singleton hword]
  simp [hne]

theorem words_concat_blank (hblank : isBlank c = true) (cs : List Char) :
    words (cs ++ [c]) = words cs := by
  rw [words, List.splitOnP_append_cons cs [] hblank, List.filter_append, words]
  simp

theorem words_dropWhile (cs : List Char) :
    words (cs.dropWhile isBlank) = words cs := by
  induction cs with
  | nil => rfl
  | cons c rest ih =>
      by_cases hblank : isBlank c = true
      · rw [List.dropWhile_cons_of_pos hblank, ih, words_blank hblank]
      · rw [List.dropWhile_cons_of_neg hblank]

theorem words_rdropWhile (cs : List Char) :
    words (cs.rdropWhile isBlank) = words cs := by
  induction cs using List.reverseRecOn with
  | nil => rw [List.rdropWhile_nil]
  | append_singleton rest c ih =>
      by_cases hblank : isBlank c = true
      · rw [List.rdropWhile_concat_pos _ _ _ hblank, ih,
          words_concat_blank hblank]
      · rw [List.rdropWhile_concat_neg _ _ _ hblank]

theorem trim_eq (cs : List Char) :
    trim cs = (cs.dropWhile isBlank).rdropWhile isBlank :=
  rfl

theorem words_trim (cs : List Char) : words (trim cs) = words cs := by
  rw [trim_eq, words_rdropWhile, words_dropWhile]

/-- A character that is not white space stands in a word. -/
theorem words_ne_nil (hc : c ∈ cs) (hblank : isBlank c = false) :
    words cs ≠ [] := by
  induction cs with
  | nil => cases hc
  | cons d rest ih =>
      by_cases hd : isBlank d = true
      · rw [words_blank hd]
        rcases List.mem_cons.mp hc with rfl | hrest
        · rw [hblank] at hd
          cases hd
        · exact ih hrest
      · -- the first word begins here
        rw [words, List.splitOnP_cons_eq_if_modifyHead, if_neg hd]
        obtain ⟨first, others, hpieces⟩ :=
          List.exists_cons_of_ne_nil (List.splitOnP_ne_nil isBlank rest)
        rw [hpieces, List.modifyHead_cons, List.filter_cons_of_pos (by simp)]
        exact List.cons_ne_nil _ _

/-- A piece between white space has none in it. -/
theorem isBlank_of_mem_splitOnP {piece : List Char}
    (hpiece : piece ∈ cs.splitOnP isBlank) :
    ∀ d ∈ piece, isBlank d = false := by
  induction cs generalizing piece with
  | nil =>
      rw [List.splitOnP_nil, List.mem_singleton] at hpiece
      rw [hpiece]
      exact nofun
  | cons c rest ih =>
      rw [List.splitOnP_cons_eq_if_modifyHead] at hpiece
      by_cases hblank : isBlank c = true
      · rw [if_pos hblank, List.mem_cons] at hpiece
        rcases hpiece with rfl | hpiece
        · exact nofun
        · exact ih hpiece
      · rw [if_neg hblank] at hpiece
        obtain ⟨first, others, hpieces⟩ :=
          List.exists_cons_of_ne_nil (List.splitOnP_ne_nil isBlank rest)
        rw [hpieces] at ih hpiece
        rw [List.modifyHead_cons, List.mem_cons] at hpiece
        rcases hpiece with rfl | hpiece
        · exact List.forall_mem_cons.mpr
            ⟨(Bool.not_eq_true _).mp hblank, ih List.mem_cons_self⟩
        · exact ih (List.mem_cons_of_mem _ hpiece)

/-- Words are read back from what is written with single spaces. -/
theorem words_intercalate {pieces : List (List Char)}
    (hpieces : ∀ piece ∈ pieces, piece ≠ [] ∧ ∀ d ∈ piece, isBlank d = false) :
    words ([' '].intercalate pieces) = pieces := by
  induction pieces with
  | nil => rfl
  | cons piece rest ih =>
      obtain ⟨⟨hne, hpiece⟩, hrest⟩ := List.forall_mem_cons.mp hpieces
      by_cases hlast : rest = []
      · rw [hlast, List.intercalate_singleton, words_of_word hpiece hne]
      · rw [List.intercalate_cons_of_ne_nil hlast, List.append_assoc,
          List.singleton_append, words_append_blank hpiece hne (by decide),
          ih hrest]

theorem intercalate_words_inj {ds : List Char} :
    [' '].intercalate (words cs) = [' '].intercalate (words ds) ↔
      words cs = words ds := by
  have hread : ∀ text, words ([' '].intercalate (words text)) = words text := by
    intro text
    apply words_intercalate
    intro piece hpiece
    obtain ⟨hmem, hne⟩ := List.mem_filter.mp hpiece
    exact ⟨of_decide_eq_true hne, isBlank_of_mem_splitOnP hmem⟩
  constructor
  · intro hwritten
    rw [← hread cs, hwritten, hread]
  · intro hwords
    rw [hwords]

/-! ### Collapsing -/

/-- No white space at the end. -/
def EndsInWord (cs : List Char) : Prop :=
  ∀ hne : cs ≠ [], isBlank (cs.getLast hne) = false

theorem EndsInWord.tail (hends : EndsInWord (c :: cs)) : EndsInWord cs := by
  intro hne
  rw [← List.getLast_cons hne]
  exact hends (List.cons_ne_nil c cs)

theorem EndsInWord.words_ne_nil (hends : EndsInWord cs) (hne : cs ≠ []) :
    words cs ≠ [] :=
  Text.words_ne_nil (List.getLast_mem hne) (hends hne)

/-- In a run of white space the words are written from the next one on, with
single spaces between them; and so they are behind the beginning of a word. -/
theorem collapse_eq_intercalate (hends : EndsInWord cs) :
    collapse true cs = [' '].intercalate (words cs) ∧
      ∀ word, word ≠ [] → (∀ d ∈ word, isBlank d = false) →
        word ++ collapse false cs = [' '].intercalate (words (word ++ cs)) := by
  induction cs with
  | nil =>
      refine ⟨rfl, ?_⟩
      intro word hne hword
      rw [List.append_nil, words_of_word hword hne, List.intercalate_singleton]
      exact List.append_nil word
  | cons c rest ih =>
      obtain ⟨hrun, hbehind⟩ := ih hends.tail
      by_cases hblank : isBlank c = true
      · constructor
        · rw [collapse, if_pos hblank, if_pos rfl, hrun, words_blank hblank]
        · intro word hne hword
          have hrest : rest ≠ [] := by
            rintro rfl
            rw [← List.getLast_singleton (List.cons_ne_nil c []), hends]
              at hblank
            cases hblank
          rw [collapse, if_pos hblank, if_neg Bool.false_ne_true, hrun,
            words_append_blank hword hne hblank,
            List.intercalate_cons_of_ne_nil (hends.tail.words_ne_nil hrest),
            List.append_assoc, List.singleton_append]
      · have hword : ∀ d ∈ [c], isBlank d = false := by
          intro d hd
          rw [List.mem_singleton.mp hd, (Bool.not_eq_true _).mp hblank]
        have hcollapse : ∀ inRun, collapse inRun (c :: rest) = [c] ++
            collapse false rest := by
          intro inRun
          rw [collapse, if_neg hblank, List.singleton_append]
        constructor
        · rw [hcollapse, hbehind [c] (List.cons_ne_nil _ _) hword,
            List.singleton_append]
        · -- the character belongs to the word that has begun
          intro before hne hbefore
          have hlonger := hbehind (before ++ [c])
              (List.append_ne_nil_of_left_ne_nil hne _)
            (List.forall_mem_append.mpr ⟨hbefore, hword⟩)
          rw [List.append_assoc, List.append_assoc] at hlonger
          rw [hcollapse, hlonger, List.singleton_append]

theorem endsInWord_trim (cs : List Char) : EndsInWord (trim cs) := by
  intro hne
  exact (Bool.not_eq_true _).mp (List.rdropWhile_last_not isBlank _ hne)

/-- The text without white space at its ends begins in a word. -/
theorem isBlank_of_trim_eq_cons {rest : List Char}
    (htrim : trim cs = c :: rest) : isBlank c = false := by
  obtain ⟨tail, htail⟩ := List.rdropWhile_prefix isBlank (cs.dropWhile isBlank)
  rw [← trim_eq, htrim, List.cons_append] at htail
  have hhead := List.head_dropWhile_not isBlank (htail ▸ List.cons_ne_nil c _)
  simpa only [← htail, List.head_cons] using hhead

/-- What is trimmed is collapsed to its words. -/
theorem collapse_trim (cs : List Char) :
    collapse false (trim cs) = [' '].intercalate (words cs) := by
  have hbegin : collapse false (trim cs) = collapse true (trim cs) := by
    cases htrim : trim cs with
    | nil => rfl
    | cons c rest =>
        rw [collapse, collapse, isBlank_of_trim_eq_cons htrim]
        rfl
  rw [hbegin, (collapse_eq_intercalate (endsInWord_trim cs)).1, words_trim]

/-! ### ASCII texts -/

theorem isBlank_toLower (c : Char) : isBlank c.toLower = isBlank c := by
  rw [Bool.eq_iff_iff]
  simp only [isBlank, Ascii.toNat_toLower, Bool.or_eq_true, Bool.and_eq_true,
    decide_eq_true_iff]
  split <;> omega

theorem trim_map_toLower (cs : List Char) :
    trim (cs.map Char.toLower) = (trim cs).map Char.toLower := by
  have hblank : isBlank ∘ Char.toLower = isBlank := funext isBlank_toLower
  rw [trim, List.dropWhile_map, hblank, ← List.map_reverse,
    List.dropWhile_map, hblank, ← List.map_reverse, trim]

theorem lowerAfter_of_ascii (before : List Char)
    (hascii : ∀ c ∈ cs, c.toNat < 128) :
    lowerAfter before cs = cs.map Char.toLower := by
  induction cs generalizing before with
  | nil => rfl
  | cons c rest ih =>
      obtain ⟨hc, hrest⟩ := List.forall_mem_cons.mp hascii
      have hsigma : c ≠ 'Σ' := by
        rintro rfl
        exact absurd hc (by decide)
      rw [lowerAfter, if_neg hsigma, lowerChar, if_pos hc,
        ih (c :: before) hrest, List.map_cons, List.singleton_append]

theorem mem_of_mem_trim (hc : c ∈ trim cs) : c ∈ cs := by
  rw [trim_eq] at hc
  exact (List.dropWhile_sublist isBlank).subset
    ((List.rdropWhile_prefix isBlank _).subset hc)

/-- What is left of an ASCII text when it is folded are its words in lower
case. -/
theorem fold_eq_intercalate {text : String}
    (hascii : ∀ c ∈ text.toList, c.toNat < 128) :
    fold text = [' '].intercalate (words (text.toList.map Char.toLower)) := by
  rw [fold, lower, lowerAfter_of_ascii [] fun c hc =>
    hascii c (mem_of_mem_trim hc),
    ← trim_map_toLower, collapse_trim]

theorem SameWords.fold_eq {s t : String} (hsame : SameWords s t) :
    fold s = fold t := by
  rw [fold_eq_intercalate hsame.ascii_left,
    fold_eq_intercalate hsame.ascii_right, hsame.words_eq]

/-- ASCII texts are equal when folded exactly if they have the same words. -/
theorem fold_eq_iff {s t : String} (hs : ∀ c ∈ s.toList, c.toNat < 128)
    (ht : ∀ c ∈ t.toList, c.toNat < 128) : fold s = fold t ↔ SameWords s t := by
  constructor
  · intro hfold
    rw [fold_eq_intercalate hs, fold_eq_intercalate ht, intercalate_words_inj]
      at hfold
    exact ⟨hs, ht, hfold⟩
  · exact SameWords.fold_eq

end TrustPath.Text
