import Mathlib.Data.List.Nodup
import TrustPath.PathSearch

/-!
The pool of a search: of the certificates supplied, the first with each encoding
that is not the leaf's. Nothing is added, and for every certificate left out one
with its encoding is there.
-/

namespace TrustPath.PathSearch

theorem mem_of_mem_fresh {seen : List Bytes} {cs : List EncodedCertificate}
    {c : EncodedCertificate} (hc : c ∈ fresh seen cs) : c ∈ cs := by
  induction cs generalizing seen with
  | nil => simp [fresh] at hc
  | cons head rest ih =>
      rw [fresh] at hc
      split at hc
      · exact List.mem_cons_of_mem head (ih hc)
      · rcases List.mem_cons.mp hc with rfl | hc
        · exact List.mem_cons_self
        · exact List.mem_cons_of_mem head (ih hc)

/-- Every certificate has been seen before, or is stood for by the one kept with
its encoding. -/
theorem fresh_covers (seen : List Bytes) {cs : List EncodedCertificate}
    {c : EncodedCertificate} (hc : c ∈ cs) :
    c.encoding ∈ seen ∨ ∃ kept ∈ fresh seen cs, kept.encoding = c.encoding := by
  induction cs generalizing seen with
  | nil => simp at hc
  | cons head rest ih =>
      rw [fresh]
      split
      next hseen =>
        rcases List.mem_cons.mp hc with rfl | hc
        · exact Or.inl (by simpa using hseen)
        · exact ih seen hc
      next =>
        rcases List.mem_cons.mp hc with rfl | hc
        · exact Or.inr ⟨c, List.mem_cons_self, rfl⟩
        · rcases ih (head.encoding :: seen) hc
              with hold | ⟨kept, hkept, hencoding⟩
          · rcases List.mem_cons.mp hold with hhead | hold
            · exact Or.inr ⟨head, List.mem_cons_self, hhead.symm⟩
            · exact Or.inl hold
          · exact Or.inr ⟨kept, List.mem_cons_of_mem head hkept, hencoding⟩

/-- No certificate kept has been seen before. -/
theorem not_mem_seen_of_mem_fresh {seen : List Bytes}
    {cs : List EncodedCertificate} {c : EncodedCertificate}
    (hc : c ∈ fresh seen cs) : c.encoding ∉ seen := by
  induction cs generalizing seen with
  | nil => simp [fresh] at hc
  | cons head rest ih =>
      rw [fresh] at hc
      split at hc
      next => exact ih hc
      next hnew =>
        rcases List.mem_cons.mp hc with rfl | hc
        · simpa using hnew
        · exact fun hseen => ih hc (List.mem_cons_of_mem head.encoding hseen)

/-- What has been seen and what is kept have all the encodings there are. -/
theorem mem_encodings_fresh_iff (seen : List Bytes)
    (cs : List EncodedCertificate) (encoding : Bytes) :
    encoding ∈ seen ∨ encoding ∈ (fresh seen cs).map (·.encoding) ↔
      encoding ∈ seen ∨ encoding ∈ cs.map (·.encoding) := by
  constructor
  · rintro (hseen | hkept)
    · exact Or.inl hseen
    · obtain ⟨c, hc, rfl⟩ := List.mem_map.mp hkept
      exact Or.inr (List.mem_map_of_mem (mem_of_mem_fresh hc))
  · rintro (hseen | hsupplied)
    · exact Or.inl hseen
    · obtain ⟨c, hc, rfl⟩ := List.mem_map.mp hsupplied
      rcases fresh_covers seen hc with hseen | ⟨kept, hkept, hencoding⟩
      · exact Or.inl hseen
      · exact Or.inr (hencoding ▸ List.mem_map_of_mem hkept)

/-- No two certificates kept have one encoding. -/
theorem nodup_encodings_fresh (seen : List Bytes)
    (cs : List EncodedCertificate) :
    ((fresh seen cs).map (·.encoding)).Nodup := by
  induction cs generalizing seen with
  | nil => exact List.nodup_nil
  | cons head rest ih =>
      rw [fresh]
      split
      next => exact ih seen
      next =>
        rw [List.map_cons, List.nodup_cons]
        refine ⟨fun hmem => ?_, ih (head.encoding :: seen)⟩
        obtain ⟨c, hc, hencoding⟩ := List.mem_map.mp hmem
        exact not_mem_seen_of_mem_fresh hc (hencoding ▸ List.mem_cons_self)

/-- Certificates kept stand in the order of their first occurrences. -/
theorem idxOf_lt_idxOf_of_fresh {seen : List Bytes}
    {cs : List EncodedCertificate} {c d : EncodedCertificate}
    (hc : c ∈ fresh seen cs) (hd : d ∈ fresh seen cs)
    (hearlier : (fresh seen cs).idxOf c < (fresh seen cs).idxOf d) :
    cs.idxOf c < cs.idxOf d := by
  induction cs generalizing seen with
  | nil => simp [fresh] at hc
  | cons head rest ih =>
      rw [fresh] at hc hd hearlier
      split at hc
      next hseen =>
        -- the head is left out, and neither of the two is the head
        rw [if_pos hseen] at hd hearlier
        have hhead {other : EncodedCertificate}
            (hother : other ∈ fresh seen rest) :
            head ≠ other := by
          rintro rfl
          exact not_mem_seen_of_mem_fresh hother (by simpa using hseen)
        rw [List.idxOf_cons_ne rest (hhead hc),
          List.idxOf_cons_ne rest (hhead hd)]
        exact Nat.succ_lt_succ (ih hc hd hearlier)
      next hnew =>
        rw [if_neg hnew] at hd hearlier
        have hlater : head ≠ d := by
          rintro rfl
          simp at hearlier
        by_cases hfirst : head = c
        · rw [hfirst, List.idxOf_cons_self, ← hfirst,
            List.idxOf_cons_ne rest hlater]
          exact Nat.succ_pos _
        · rw [List.idxOf_cons_ne _ hfirst, List.idxOf_cons_ne _ hlater]
            at hearlier
          rw [List.idxOf_cons_ne rest hfirst, List.idxOf_cons_ne rest hlater]
          exact Nat.succ_lt_succ
            (ih ((List.mem_cons.mp hc).resolve_left (Ne.symm hfirst))
            ((List.mem_cons.mp hd).resolve_left hlater.symm)
              (Nat.lt_of_succ_lt_succ hearlier))

/-- Certificates with different encodings that have not been seen are all
kept. -/
theorem fresh_eq_self {seen : List Bytes} {cs : List EncodedCertificate}
    (hnodup : (seen.reverse ++ cs.map (·.encoding)).Nodup) :
    fresh seen cs = cs := by
  induction cs generalizing seen with
  | nil => rfl
  | cons head rest ih =>
      have hnew : seen.contains head.encoding = false := by
        rw [List.nodup_append] at hnodup
        rw [List.contains_eq_mem, decide_eq_false_iff_not]
        intro hseen
        exact hnodup.2.2 head.encoding (List.mem_reverse.mpr hseen)
          head.encoding
          (by simp) rfl
      have hrest : ((head.encoding :: seen).reverse ++
          rest.map (·.encoding)).Nodup := by
        simpa using hnodup
      rw [fresh, hnew, if_neg Bool.false_ne_true, ih hrest]

/-- Which certificates are kept depends only on which of their own encodings
have been seen. -/
theorem fresh_congr {seen others : List Bytes} {cs : List EncodedCertificate}
    (hsame : ∀ c ∈ cs, c.encoding ∈ seen ↔ c.encoding ∈ others) :
    fresh seen cs = fresh others cs := by
  induction cs generalizing seen others with
  | nil => rfl
  | cons head rest ih =>
      have hhead : seen.contains head.encoding =
          others.contains head.encoding := by
        rw [Bool.eq_iff_iff, List.contains_iff_mem, List.contains_iff_mem]
        exact hsame head List.mem_cons_self
      have hrest : ∀ c ∈ rest, c.encoding ∈ seen ↔ c.encoding ∈ others :=
        fun c hc => hsame c (List.mem_cons_of_mem head hc)
      rw [fresh, fresh, hhead, ih hrest]
      refine ite_congr rfl (fun _ => rfl) fun _ =>
        congrArg (head :: ·) (ih fun c hc => ?_)
      rw [List.mem_cons, List.mem_cons, hrest c hc]

/-- A certificate whose encoding comes again is left out wherever it stands. -/
theorem fresh_insert_repeated {seen : List Bytes}
    {before : List EncodedCertificate}
    {c : EncodedCertificate} (after : List EncodedCertificate)
    (hrepeated : c.encoding ∈ seen ∨ c.encoding ∈ before.map (·.encoding)) :
    fresh seen (before ++ c :: after) = fresh seen (before ++ after) := by
  induction before generalizing seen with
  | nil =>
      have hseen : seen.contains c.encoding = true := by simpa using hrepeated
      rw [List.nil_append, List.nil_append, fresh, if_pos hseen]
  | cons head rest ih =>
      rw [List.map_cons, List.mem_cons] at hrepeated
      rw [List.cons_append, List.cons_append, fresh, fresh]
      split
      next hseen =>
        refine ih ?_
        rcases hrepeated with hold | hhead | hrest
        · exact Or.inl hold
        · exact Or.inl (by simpa [hhead] using hseen)
        · exact Or.inr hrest
      next =>
        refine congrArg (head :: ·) (ih ?_)
        rcases hrepeated with hold | hhead | hrest
        · exact Or.inl (List.mem_cons_of_mem _ hold)
        · exact Or.inl (hhead ▸ List.mem_cons_self)
        · exact Or.inr hrest

/-- A certificate whose encoding no other has is kept, and has no effect on
which others are. -/
theorem fresh_insert_new {seen : List Bytes}
    {before after : List EncodedCertificate}
    {c : EncodedCertificate} (hseen : c.encoding ∉ seen)
    (hothers : c.encoding ∉ (before ++ after).map (·.encoding)) :
    ∃ below above, fresh seen (before ++ after) = below ++ above ∧
      fresh seen (before ++ c :: after) = below ++ c :: above := by
  induction before generalizing seen with
  | nil =>
      rw [List.nil_append] at hothers
      refine ⟨[], fresh seen after, rfl, ?_⟩
      rw [List.nil_append, fresh, if_neg (by simpa using hseen)]
      refine congrArg (c :: ·) (fresh_congr fun d hd => ?_)
      have hne : d.encoding ≠ c.encoding := by
        intro hsame
        exact hothers (hsame ▸ List.mem_map_of_mem hd)
      rw [List.mem_cons, or_iff_right hne]
  | cons head rest ih =>
      rw [List.cons_append, List.map_cons, List.mem_cons, not_or] at hothers
      rw [List.cons_append, List.cons_append, fresh, fresh]
      split
      next => exact ih hseen hothers.2
      next =>
        have hunseen : c.encoding ∉ head.encoding :: seen := by
          rw [List.mem_cons, not_or]
          exact ⟨hothers.1, hseen⟩
        obtain ⟨below, above, hold, hnew⟩ := ih hunseen hothers.2
        refine ⟨head :: below, above, ?_, ?_⟩
        · rw [hold, List.cons_append]
        · rw [hnew, List.cons_append]

variable {environment : SignatureEnvironment} {policy : Policy}
  {rules : ExtensionPolicy} {store : TrustStore} {leaf : EncodedCertificate}
  {intermediates : List EncodedCertificate}

/-- The pool holds certificates that were supplied. -/
theorem mem_of_mem_pool {c : EncodedCertificate}
    (hc : c ∈ (ofIntermediates environment policy rules store leaf
      intermediates).pool) :
    c ∈ intermediates :=
  mem_of_mem_fresh hc

/-- The pool keeps the order in which certificates were supplied. -/
theorem idxOf_lt_idxOf_of_pool {c d : EncodedCertificate}
    (hc : c ∈ (ofIntermediates environment policy rules store leaf
      intermediates).pool)
    (hd : d ∈ (ofIntermediates environment policy rules store leaf
      intermediates).pool)
    (hearlier : (ofIntermediates environment policy rules store leaf
      intermediates).pool.idxOf c <
      (ofIntermediates environment policy rules store leaf
        intermediates).pool.idxOf d) :
    intermediates.idxOf c < intermediates.idxOf d :=
  idxOf_lt_idxOf_of_fresh hc hd hearlier

/-- Where an encoding belongs to one certificate only, the pool holds every
certificate supplied that is not the leaf. -/
theorem mem_pool_of_mem
    (hencodings : ∀ a ∈ leaf :: intermediates, ∀ b ∈ leaf :: intermediates,
      a.encoding = b.encoding → a = b)
    {c : EncodedCertificate} (hc : c ∈ intermediates)
    (hleaf : c.encoding ≠ leaf.encoding) :
    c ∈ (ofIntermediates environment policy rules store leaf
      intermediates).pool := by
  rcases fresh_covers [leaf.encoding] hc with hseen | ⟨kept, hkept, hencoding⟩
  · exact absurd (List.mem_singleton.mp hseen) hleaf
  · have hsame : kept = c :=
      hencodings kept (List.mem_cons_of_mem leaf (mem_of_mem_fresh hkept)) c
        (List.mem_cons_of_mem leaf hc) hencoding
    exact hsame ▸ hkept

end TrustPath.PathSearch
