import ShaderLowering.Proofs.Names.Chain
import ShaderLowering.Source.Expr

/-!
# Paths and the chains that they name

A dotted path and a chain of member accesses are two writings of one access.  Cutting a
path at its dots loses nothing, whatever stands between them, so the chain that a path
names has this path and is written as it.  The other way round, a chain is found again
from its path when none of its names has a dot in it: the names are then the segments of
the path, and only the positions are gone.

## Main statements

* `Path.exists_join`, `Path.join_inj` — every text is the path of segments without dots,
  and only of these.
* `Expr.path?_ofPath`, `Expr.path?_eq_some_iff` — the path of the chain that a path names,
  and which expressions have one.
* `Expr.source_of_path?` — an expression with a path is written as it.
* `Expr.ofPath_roundTrip` — when paths and chains determine each other.
-/

namespace ShaderLowering

/-! ## Cutting at the dots -/

namespace Path

/-- Cutting a path takes nothing but its dots away. -/
theorem flatten_segments (cs : List Char) :
    (segments cs).1 ++ (segments cs).2.flatMap (fun x => '.' :: x) = cs := by
  induction cs with
  | nil => rfl
  | cons c cs ih =>
    by_cases dot : c = '.'
    · simp only [segments, dot, if_true, List.nil_append, List.flatMap_cons, List.cons_append, ih]
    · simp only [segments, dot, if_false, List.cons_append, ih]

theorem dot_notMem_segments (cs : List Char) :
    ∀ x ∈ (segments cs).1 :: (segments cs).2, '.' ∉ x := by
  induction cs with
  | nil => simp [segments]
  | cons c cs ih =>
    by_cases dot : c = '.'
    · simpa [segments, dot] using ih
    · simpa [segments, dot, Ne.symm dot] using ih

/-- Every text is the path of some segments without dots. -/
theorem exists_join (path : String) :
    ∃ first others, (∀ x ∈ first :: others, '.' ∉ x.toList) ∧ join first others = path := by
  refine ⟨String.ofList (segments path.toList).1, (segments path.toList).2.map String.ofList,
    ?dotless, ?same⟩
  case dotless =>
    have cut := dot_notMem_segments path.toList
    rw [← List.map_cons, List.forall_mem_map]
    simpa only [String.toList_ofList] using cut
  case same =>
    rw [← String.toList_inj, toList_join, List.flatMap_map]
    simpa only [String.toList_ofList] using flatten_segments path.toList

/-- A path determines the segments that it has been put together from. -/
theorem join_inj {first first' : String} {others others' : List String}
    (h : ∀ x ∈ first :: others, '.' ∉ x.toList) (h' : ∀ x ∈ first' :: others', '.' ∉ x.toList)
    (same : join first others = join first' others') : first = first' ∧ others = others' := by
  rw [List.forall_mem_cons] at h h'
  have cut : (first.toList, others.map String.toList)
      = (first'.toList, others'.map String.toList) := by
    rw [← segments_join h.1 h.2, same, segments_join h'.1 h'.2]
  obtain ⟨firsts, rests⟩ := Prod.mk.inj cut
  exact ⟨String.toList_inj.1 firsts, (List.map_inj_right fun _ _ => String.toList_inj.1).1 rests⟩

end Path

/-! ## Chains and their paths -/

namespace Expr

/-- The chain that a path names has this path. -/
@[simp] theorem path?_ofPath (path : String) : (ofPath path).path? = some path := by
  obtain ⟨first, others, dotless, rfl⟩ := Path.exists_join path
  rw [List.forall_mem_cons] at dotless
  rw [ofPath_join dotless.1 dotless.2, path?_chain]

/-- A chain is written as its path: no link of it is put in parentheses. -/
theorem source_linked (first : String) (links : List (String × Span)) :
    (linked first links).source = Path.join first (links.map Prod.fst) := by
  induction links using List.reverseRecOn with
  | nil => rfl
  | append_singleton links last ih =>
    have bare : (linked first links).needsParens = false := by
      cases links using List.reverseRecOn with
      | nil => rfl
      | append_singleton links last => rw [linked_append]; rfl
    rw [linked_append, source, bare, ih, List.map_append, List.map_singleton, Path.join_append]
    rfl

/-- An expression has a path if it is a chain that ends in an identifier, and only then. -/
theorem path?_eq_some_iff {e : Expr} {path : String} :
    e.path? = some path ↔
      ∃ first links, e = linked first links ∧ Path.join first (links.map Prod.fst) = path := by
  refine ⟨fun h => ?_, ?_⟩
  · induction e using path?.induct generalizing path with
    | case1 name => exact ⟨name, [], rfl, Option.some.inj h⟩
    | case2 target name span ih =>
      obtain ⟨before, ht, rfl⟩ := Option.map_eq_some_iff.1 h
      obtain ⟨first, links, rfl, rfl⟩ := ih ht
      refine ⟨first, links ++ [(name, span)], (linked_append first links (name, span)).symm, ?_⟩
      rw [List.map_append, List.map_singleton, Path.join_append]
    | case3 e notIdent notMember => simp [path?] at h
  · rintro ⟨first, links, rfl, rfl⟩
    exact path?_linked first links

/-- An expression with a path is written as its path. -/
theorem source_of_path? {e : Expr} {path : String} (h : e.path? = some path) :
    e.source = path := by
  obtain ⟨first, links, rfl, rfl⟩ := path?_eq_some_iff.1 h
  exact source_linked first links

/-- Two chains are the same only if their names are. -/
theorem chain_inj {first first' : String} {others others' : List String}
    (h : chain first others = chain first' others') : first = first' ∧ others = others' := by
  induction others using List.reverseRecOn generalizing others' with
  | nil =>
    cases others' using List.reverseRecOn with
    | nil =>
      cases h
      exact ⟨rfl, rfl⟩
    | append_singleton others' last' =>
      rw [chain_append] at h
      cases h
  | append_singleton others last ih =>
    cases others' using List.reverseRecOn with
    | nil =>
      rw [chain_append] at h
      cases h
    | append_singleton others' last' =>
      rw [chain_append, chain_append] at h
      injection h with targets names
      obtain ⟨rfl, rfl⟩ := ih targets
      exact ⟨rfl, by rw [names]⟩

/-- A path names the chain that it has been put together from exactly when no name in the
chain has a dot: the path is cut at every dot, also at those of a name. -/
theorem ofPath_eq_chain_iff {first : String} {others : List String} :
    ofPath (Path.join first others) = chain first others
      ↔ ∀ x ∈ first :: others, '.' ∉ x.toList := by
  refine ⟨fun h => ?_, fun h => ?_⟩
  -- The path is cut into segments without dots, and the chain of these has no other names.
  · obtain ⟨first', others', dotless, same⟩ := Path.exists_join (Path.join first others)
    have cut := List.forall_mem_cons.1 dotless
    rw [← same, ofPath_join cut.1 cut.2] at h
    obtain ⟨rfl, rfl⟩ := chain_inj h
    exact dotless
  · rw [List.forall_mem_cons] at h
    exact ofPath_join h.1 h.2

/-- **A path and the chain that it names are two writings of one access.**  Every text is
the path of the chain that it names, and this chain is written as it.  The expressions
with a path are the chains of member accesses that end in an identifier.  If a chain has a
certain path, the path names this chain without its positions exactly when no name in it
has a dot, and two such chains with one path consist of the same names. -/
theorem ofPath_roundTrip (path : String) :
    (ofPath path).path? = some path ∧ (ofPath path).source = path ∧
      (∀ e : Expr, e.path?.isSome ↔ ∃ first links, e = linked first links) ∧
      ∀ first links, (linked first links).path? = some path →
        (ofPath path = chain first (links.map Prod.fst)
          ↔ ∀ x ∈ first :: links.map Prod.fst, '.' ∉ x.toList) ∧
        ∀ first' links', (linked first' links').path? = some path →
          (∀ x ∈ first :: links.map Prod.fst, '.' ∉ x.toList) →
          (∀ x ∈ first' :: links'.map Prod.fst, '.' ∉ x.toList) →
            first :: links.map Prod.fst = first' :: links'.map Prod.fst := by
  refine ⟨path?_ofPath path, source_of_path? (path?_ofPath path), ?chains, ?names⟩
  case chains =>
    intro e
    rw [Option.isSome_iff_exists]
    constructor
    · rintro ⟨p, h⟩
      obtain ⟨first, links, chained, -⟩ := path?_eq_some_iff.1 h
      exact ⟨first, links, chained⟩
    · rintro ⟨first, links, rfl⟩
      exact ⟨_, path?_linked first links⟩
  case names =>
    intro first links h
    rw [path?_linked, Option.some.injEq] at h
    subst h
    refine ⟨ofPath_eq_chain_iff, ?_⟩
    intro first' links' h' dotless dotless'
    rw [path?_linked, Option.some.injEq] at h'
    obtain ⟨firsts, rests⟩ := Path.join_inj dotless dotless' h'.symm
    rw [firsts, rests]

/-- A path with two dots in a row and one at its end. -/
theorem ofPath_roundTrip_doubled :
    let links : List (String × Span) := [("", ⟨3, 5⟩), ("PI", ⟨3, 6⟩), ("", .unknown)]
    let links' : List (String × Span) := [("", .unknown), ("PI", .unknown), ("", ⟨8, 1⟩)]
    (linked "Math" links).path? = some "Math..PI." ∧
      (linked "Math" links').path? = some "Math..PI." ∧
      (∀ x ∈ "Math" :: links.map Prod.fst, '.' ∉ x.toList) ∧
      (∀ x ∈ "Math" :: links'.map Prod.fst, '.' ∉ x.toList) ∧
      ofPath "Math..PI." = chain "Math" ["", "PI", ""] ∧
      "Math" :: links.map Prod.fst = "Math" :: links'.map Prod.fst := by
  intro links links'
  have path : (linked "Math" links).path? = some "Math..PI." := by decide
  have path' : (linked "Math" links').path? = some "Math..PI." := by decide
  have dotless : ∀ x ∈ "Math" :: links.map Prod.fst, '.' ∉ x.toList := by decide
  have dotless' : ∀ x ∈ "Math" :: links'.map Prod.fst, '.' ∉ x.toList := by decide
  obtain ⟨-, -, -, names⟩ := ofPath_roundTrip "Math..PI."
  obtain ⟨named, unique⟩ := names "Math" links path
  exact ⟨path, path', dotless, dotless', named.2 dotless,
    unique "Math" links' path' dotless dotless'⟩

end Expr

end ShaderLowering
