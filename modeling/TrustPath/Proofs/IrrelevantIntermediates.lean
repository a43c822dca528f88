import TrustPath.Proofs.ChainFamily

/-!
Intermediates that cannot matter do not. One whose encoding has occurred before
is never in the pool; one that nobody names as issuer is in the pool, but is no
candidate for any path. So a search with it goes step by step as the search
without it: it counts, checks, records and answers the same.
-/

namespace TrustPath

/-- Steps that do the same with each alternative do the same with all. -/
theorem tryEach_congr {α : Type} {attempt attempt' : α → SearchStep}
    {xs : List α} (hsame : ∀ a ∈ xs, attempt a = attempt' a) :
    tryEach attempt xs = tryEach attempt' xs := by
  induction xs with
  | nil => rfl
  | cons a rest ih =>
      funext p
      rw [tryEach, tryEach, hsame a List.mem_cons_self,
        ih fun b hb => hsame b (List.mem_cons_of_mem a hb)]

namespace PathSearch

variable {search : PathSearch} {path : Path} {depth : Nat}
  {pool : List EncodedCertificate} {c : EncodedCertificate}

def withPool (search : PathSearch) (pool : List EncodedCertificate) :
    PathSearch :=
  { search with pool := pool }

/-- A visit depends on what is done above the issuers that it goes on to, and on
nothing else above. -/
theorem visit_congr {descend descend' : Path → Nat → SearchStep}
    (hsame : ∀ c ∈ search.issuersFor path,
      descend (path.push c) = descend' (path.push c)) :
    search.visit descend path depth = search.visit descend' path depth := by
  have hissuers : tryEach (search.attemptIssuer descend path depth)
      (search.issuersFor path) = tryEach
      (search.attemptIssuer descend' path depth) (search.issuersFor path) := by
    refine tryEach_congr fun c hc => ?_
    funext p
    rw [attemptIssuer, attemptIssuer, hsame c hc]
  funext p
  rw [visit, visit, hissuers]

/-- Over a pool that offers the same issuers, a visit is the same. -/
theorem visit_withPool (descend : Path → Nat → SearchStep)
    (hissuers : (search.withPool pool).issuersFor path =
      search.issuersFor path) :
    (search.withPool pool).visit descend path depth =
      search.visit descend path depth := by
  funext p
  rw [visit, visit, hissuers]
  rfl

/-- A certificate that the top of a path does not name is no candidate for the
path. -/
theorem issuersFor_insert {below above : List EncodedCertificate}
    (hpool : search.pool = below ++ above)
    (hunnamed : c.subject.isMatch path.top.issuer = false) :
    (search.withPool (below ++ c :: above)).issuersFor path =
      search.issuersFor path := by
  rw [issuersFor, issuersFor, hpool, withPool, List.filter_append,
    List.filter_append, List.filter_cons_of_neg (by simp [hunnamed])]

theorem top_mem_certificates (path : Path) : path.top ∈ path.certificates :=
  List.mem_of_getLast? path.getLast?_certificates

/-- From a path of certificates that do not name it, and over a pool of such,
the search does not notice one more certificate, but that there is more room. -/
theorem explore_insert {below above : List EncodedCertificate}
    (hpool : search.pool = below ++ above)
    (hcandidates : ∀ d ∈ search.pool, c.subject.isMatch d.issuer = false)
    {room : Nat} (hpath : ∀ d ∈ path.certificates,
      c.subject.isMatch d.issuer = false)
    (hroom : (search.unused path).length ≤ room) :
    (search.withPool (below ++ c :: above)).explore (room + 1) path depth =
      search.explore room path depth := by
  have hvisit {path : Path} (hpath : ∀ d ∈ path.certificates,
      c.subject.isMatch d.issuer = false)
      (descend : Path → Nat → SearchStep) (depth : Nat) :
      (search.withPool (below ++ c :: above)).visit descend path depth =
        search.visit descend path depth :=
    visit_withPool descend
      (issuersFor_insert hpool (hpath _ (top_mem_certificates path)))
  induction room generalizing path depth with
  | zero =>
      rw [explore, explore, hvisit hpath]
      refine visit_congr fun d hd => ?_
      have hlt := length_unused_push_lt hd
      omega
  | succ room ih =>
      rw [explore, explore, hvisit hpath]
      refine visit_congr fun d hd => ?_
      obtain ⟨hmem, _, _⟩ := (search.mem_issuersFor_iff path d).mp hd
      have hlt := length_unused_push_lt hd
      funext depth
      refine ih ?_ (by omega)
      intro e he
      rw [Path.certificates_push, List.mem_append, List.mem_singleton] at he
      rcases he with he | rfl
      · exact hpath e he
      · exact hcandidates e hmem

/-- A run does not notice a certificate in the pool that neither the leaf nor
the rest of the pool names. -/
theorem run_insert {below above : List EncodedCertificate}
    (hpool : search.pool = below ++ above)
    (hleaf : c.subject.isMatch search.leaf.issuer = false)
    (hcandidates : ∀ d ∈ search.pool, c.subject.isMatch d.issuer = false)
    (leafRules : ExtensionPolicy) :
    (search.withPool (below ++ c :: above)).run leafRules =
      search.run leafRules := by
  have hsize : (below ++ c :: above).length = search.pool.length + 1 := by
    rw [hpool, List.length_append, List.length_append, List.length_cons,
      Nat.add_assoc]
  have hsearch : (search.withPool (below ++ c :: above)).exploreAll =
      search.exploreAll := by
    rw [exploreAll, exploreAll, withPool, hsize]
    refine explore_insert hpool hcandidates ?_ (search.length_unused_le _)
    intro d hd
    rw [List.mem_singleton.mp hd]
    exact hleaf
  rw [run, run, hsearch]
  rfl

end PathSearch

/-- An intermediate that cannot matter where it is supplied, between others: the
leaf or one before it has its encoding already, or no other has its encoding and
none names it as issuer. -/
inductive Irrelevant (leaf : EncodedCertificate)
    (before after : List EncodedCertificate) (c : EncodedCertificate) : Prop
  | repeated (hencoding : c.encoding = leaf.encoding ∨ ∃ d ∈ before,
      c.encoding = d.encoding)
  | unnamed (hleaf : c.encoding ≠ leaf.encoding)
      (hothers : ∀ d ∈ before ++ after, c.encoding ≠ d.encoding)
      (hleafIssuer : c.subject.isMatch leaf.issuer = false)
      (hissuers : ∀ d ∈ before ++ after, c.subject.isMatch d.issuer = false)

/-- A search with an irrelevant intermediate answers the same, and makes the
same progress, as the search without it. -/
theorem PathVerifier.explore_irrelevant (verifier : PathVerifier)
    {leaf : EncodedCertificate} {before after : List EncodedCertificate}
    {c : EncodedCertificate} (hirrelevant : Irrelevant leaf before after c) :
    verifier.explore leaf (before ++ c :: after) = verifier.explore leaf
      (before ++ after) := by
  cases hirrelevant with
  | repeated hencoding =>
      have hpool : PathSearch.fresh [leaf.encoding] (before ++ c :: after) =
          PathSearch.fresh [leaf.encoding] (before ++ after) := by
        apply PathSearch.fresh_insert_repeated
        rw [List.mem_singleton, List.mem_map]
        rcases hencoding with hleaf | ⟨d, hd, hsame⟩
        · exact Or.inl hleaf
        · exact Or.inr ⟨d, hd, hsame.symm⟩
      rw [explore, explore, search, search, PathSearch.ofIntermediates,
        PathSearch.ofIntermediates, hpool]
  | unnamed hleaf hothers hleafIssuer hissuers =>
      have hunseen : c.encoding ∉ [leaf.encoding] := by simpa using hleaf
      have halone : c.encoding ∉ (before ++ after).map (·.encoding) := by
        intro hmem
        obtain ⟨d, hd, hsame⟩ := List.mem_map.mp hmem
        exact hothers d hd hsame.symm
      obtain ⟨below, above, hold, hnew⟩ :=
        PathSearch.fresh_insert_new hunseen halone
      have hpool : verifier.search leaf (before ++ c :: after) =
          (verifier.search leaf (before ++ after)).withPool
          (below ++ c :: above) := by
        rw [search, search, PathSearch.ofIntermediates,
          PathSearch.ofIntermediates, hnew]
        rfl
      rw [explore, explore, hpool]
      refine PathSearch.run_insert hold hleafIssuer (fun d hd => ?_) _
      exact hissuers d (PathSearch.mem_of_mem_pool hd)

/-- Intermediates that cannot matter do not: whatever is verified, and under
whatever limits, the result with one is the result without it. -/
theorem verify_irrelevant (leaf : EncodedCertificate)
    (before after : List EncodedCertificate)
    (c : EncodedCertificate) (hirrelevant : Irrelevant leaf before after c) :
    (∀ verifier : PathVerifier,
      verifier.explore leaf (before ++ c :: after) =
        verifier.explore leaf (before ++ after)) ∧
    (∀ server : ServerVerifier,
      server.verify leaf (before ++ c :: after) =
        server.verify leaf (before ++ after)) ∧
    ∀ client : ClientVerifier,
      client.verify leaf (before ++ c :: after) =
        client.verify leaf (before ++ after) := by
  have hverify (verifier : PathVerifier) :
      verifier.verify leaf (before ++ c :: after) = verifier.verify leaf
      (before ++ after) := by
    rw [PathVerifier.verify, PathVerifier.verify,
      verifier.explore_irrelevant hirrelevant]
  refine ⟨?_, ?_, ?_⟩
  · intro verifier
    exact verifier.explore_irrelevant hirrelevant
  · intro server
    exact hverify server.inner
  · intro client
    rw [ClientVerifier.verify, ClientVerifier.verify, hverify client.inner]

open ChainFamily in
/-- A chain of three certificates: the leaf and an authority supplied again, and
an authority that issues nothing but has been issued by one of the others, leave
the answer and the count of steps as they are. -/
theorem chain_verify_irrelevant :
    (verifier 2 none .clientAuth).explore (leaf 2)
        ([authority 2 0] ++ leaf 2 :: [authority 2 1]) =
      (verifier 2 none .clientAuth).explore (leaf 2) (authorities 2 2) ∧
    (verifier 2 none .clientAuth).explore (leaf 2)
        (authorities 2 2 ++ authority 2 0 :: []) =
      (verifier 2 none .clientAuth).explore (leaf 2) (authorities 2 2) ∧
    (verifier 2 none .clientAuth).explore (leaf 2)
        ([] ++ authorityWith 9 (name 7) (name 0) :: authorities 2 2) =
      (verifier 2 none .clientAuth).explore (leaf 2) (authorities 2 2) := by
  refine ⟨?_, ?_, ?_⟩
  · apply (verify_irrelevant (leaf 2) [authority 2 0] [authority 2 1]
      (leaf 2) ?_).1
    exact .repeated (Or.inl rfl)
  · apply (verify_irrelevant (leaf 2) (authorities 2 2) [] (authority 2 0) ?_).1
    exact .repeated (Or.inr ⟨authority 2 0, by decide +kernel, rfl⟩)
  · apply (verify_irrelevant (leaf 2) [] (authorities 2 2)
      (authorityWith 9 (name 7) (name 0)) ?_).1
    exact .unnamed (by decide +kernel) (by decide +kernel) (by decide +kernel)
      (by decide +kernel)

end TrustPath
