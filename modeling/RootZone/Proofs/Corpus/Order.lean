import RootZone.Proofs.Corpus.Variants
import RootZone.Proofs.Trie.Order

/-!
# The order of a compiled corpus

The trie of a corpus has as many words as the corpus has entries, so the two events that are reported
while it is compiled give the same number. Where no entry is in encoded form the entries stand in the
order of their labels, and then the trie lists them in this order (`words_trie_of_compile`). In a
corpus with encoded labels these come last, whatever they begin with.
-/

namespace RootZone

namespace Listing

theorem events_normalize {t : Treatment} {lines : List (List Char)} {entries : List Entry}
    (h : (normalize t lines).outcome = .ok entries) :
    ∃ encoded dropped, (normalize t lines).events = [.normalized entries.length encoded dropped] := by
  obtain ⟨fates, hfates, rfl⟩ := exists_fates_of_normalize h
  have hread : (Logged.ofExcept (readLines t 1 lines)).outcome = .ok fates := hfates
  exact ⟨_, _, Logged.events_bind_of_ok hread _⟩

end Listing

namespace Corpus

variable {o : Options} {lines : List (List Char)} {v : Variant} {c : Corpus}

theorem events_compile (h : (compile o lines v).outcome = .ok c) :
    (compile o lines v).events =
      (Listing.normalize v.treatment lines).events ++
        [.compiled v (Trie.ofWords c.strings).size (Text.byteLength c.pattern)] := by
  have hverify (d : Corpus) : (do Logged.ofExcept d.verify; pure d : Logged Corpus).events = [] := by
    cases d.verify <;> rfl
  have hpattern := pattern_of_compile (unverified_of_compile h)
  rw [compile, Logged.events_bind_of_ok (normalize_of_compile h), hpattern]
  congr 1
  cases o.verify with
  | false => rfl
  | true => exact congrArg (List.cons _) (hverify _)

/-- Without encoded labels the order of the entries is that of the labels. -/
theorem pairwise_strings_of_compile (h : (compile o lines v).outcome = .ok c)
    (hkind : ∀ e ∈ c.entries, e.kind = .plain) : c.strings.Pairwise (· < ·) := by
  refine List.pairwise_map.2 ((sorted_of_compile (unverified_of_compile h)).imp_of_mem ?_)
  intro a b ha hb hab
  rw [Entry.key, Entry.key, hkind a ha, hkind b hb, Prod.Lex.toLex_lt_toLex] at hab
  exact (hab.resolve_left (lt_irrefl _)).2

theorem kind_of_compile (h : (compile o lines v).outcome = .ok c) (hv : v ≠ .punycode) :
    ∀ e ∈ c.entries, e.kind = .plain := by
  intro e he
  cases v with
  | full => exact Listing.kind_of_mem_full (normalize_of_compile h) he
  | ascii => exact Listing.kind_of_mem_ascii (normalize_of_compile h) he
  | punycode => exact absurd rfl hv

/-- The pattern of a corpus is that of a trie with as many words as there are entries, and this number
is reported twice. Unless encoded labels are kept the trie lists the labels in the order of the corpus
and its edges increase at every node, as do the first code points of the alternatives at the top and
in every group of the pattern. -/
theorem words_trie_of_compile (h : (compile o lines v).outcome = .ok c) :
    let t := Trie.ofWords c.strings
    c.pattern = (t.pattern o.style).render ∧ t.size = c.entries.length ∧
      (∃ encoded dropped bytes, (compile o lines v).events =
        [.normalized c.entries.length encoded dropped, .compiled v c.entries.length bytes]) ∧
      (v ≠ .punycode →
        t.words = c.strings ∧
        (∀ path node, (path, node) ∈ t.nodes → node.branches.edges.Pairwise (· < ·)) ∧
        ∃ p, Pattern.parse c.pattern = .ok p ∧ ∀ q ∈ p :: p.groups, Pattern.InOrder q.runs) := by
  intro t
  have hplain := unverified_of_compile h
  have hpattern : c.pattern = (t.pattern o.style).render := pattern_of_compile hplain
  have hsize : t.size = c.entries.length := by
    have hnodup : c.strings.Nodup := Listing.nodup_map_value (normalize_of_compile h)
    rw [Trie.size_ofWords, List.dedup_eq_self.2 hnodup, strings, List.length_map]
  refine ⟨hpattern, hsize, ?_, fun hv => ?_⟩
  · obtain ⟨encoded, dropped, hevents⟩ := Listing.events_normalize (normalize_of_compile h)
    rw [events_compile h, hevents, hsize]
    exact ⟨encoded, dropped, _, rfl⟩
  · have hsorted := pairwise_strings_of_compile h (kind_of_compile h hv)
    refine ⟨Trie.words_ofWords_of_pairwise hsorted,
      fun path node => Trie.pairwise_edges_of_mem_nodes hsorted, t.pattern o.style, ?_, ?_⟩
    · rw [hpattern]
      exact Pattern.parse_render (legible_body_of_compile hplain)
    · exact Trie.inOrder_pattern o.style (Trie.ascending_ofWords hsorted)

/-- A decoded label, a label with two extensions and three branches at the top. -/
theorem words_trie_of_compile_decoded :
    let lines := ["net", "xn--p1ai", "# tlds", "COM", "coop", "co", "com"].map String.toList
    let words := ["co", "com", "coop", "net", "рф"].map String.toList
    let c := ofEntries {} .full (words.map .of)
    let t := Trie.ofWords c.strings
    (compile ⟨{}, true⟩ lines .full).outcome = .ok c ∧ Variant.full ≠ .punycode ∧
      c.pattern = "co(?:m|op)?|net|рф".toList ∧ t.words = words ∧ t.size = 5 ∧
      (∃ encoded dropped bytes, (compile ⟨{}, true⟩ lines .full).events =
        [.normalized 5 encoded dropped, .compiled .full 5 bytes]) ∧
      t.branches.edges.Pairwise (· < ·) := by
  intro lines words c t
  have h : (compile ⟨{}, true⟩ lines .full).outcome = .ok c := by decide +kernel
  have hv : Variant.full ≠ .punycode := nofun
  obtain ⟨-, hsize, hevents, horder⟩ := words_trie_of_compile h
  obtain ⟨hwords, hedges, -⟩ := horder hv
  exact ⟨h, hv, by decide +kernel, hwords, hsize, hevents, hedges [] t List.mem_cons_self⟩

end Corpus

end RootZone
