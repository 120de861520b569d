import RootZone.Proofs.Artifact.GoSlices

/-!
# The literals of the Go artifact

Labels and patterns are written between quotes without escapes. That is safe because a label is made
of letters, marks, numbers and hyphens, and a pattern of such code points and the signs of groups,
alternatives and quantifiers: none of them closes a literal, begins an escape or is left out of a
literal. So reading the source gives back the labels and the patterns, code point for code point, and
no other literal but the name of the imported package (`declarations?_render`).
-/

namespace RootZone

namespace Go

def Lexeme.literal? : Lexeme → Option (List Char)
  | string value => some value
  | _ => none

/-- The values of the string literals of a source, in order. -/
def literals? (source : List Char) : Option (List (List Char)) :=
  (lexemes? source).map fun ls => ls.filterMap Lexeme.literal?

def Expression.literals : Expression → List (List Char)
  | string value => [value]
  | slice items => items
  | append _ _ => []

theorem filterMap_literal?_lexemes (d : Declaration) :
    (keyword :: d.lexemes).filterMap Lexeme.literal? = d.2.literals := by
  obtain ⟨name, e⟩ := d
  cases e with
  | string value => rfl
  | append first second => rfl
  | slice items =>
      have hitems : (items.flatMap fun s => [Lexeme.string s, .sign ',']).filterMap
          Lexeme.literal? = items := by
        induction items with
        | nil => rfl
        | cons s items ih => simpa [List.filterMap_cons, Lexeme.literal?] using ih
      simp [keyword, Declaration.lexemes, Expression.lexemes, Expression.literals, hitems,
        List.filterMap_cons, Lexeme.literal?]

theorem literals?_of_spells {source : List Char} {ls : List Lexeme} (h : Spells source ls) :
    literals? source = some (ls.filterMap Lexeme.literal?) := by
  rw [Spells] at h
  rw [literals?, lexemes?, h]
  simp [finish]

end Go

namespace Artifact.GoSource

/-- The labels of the full corpus that begin above ASCII, picked from its words. -/
theorem unicodeLabels_eq_filter (p : Parts) :
    p.unicodeLabels = p.full.strings.filter fun word => word.head?.any (0x80 ≤ ·.toNat) := by
  rw [Corpus.strings, List.filter_map]
  rfl

theorem literals?_text {p : Parts} (hf : p.full.IsQuotable) (ha : p.ascii.IsQuotable)
    (hp : p.punycode.IsQuotable) {package : List Char} (hpkg : Go.IsIdentifier package) :
    Go.literals? (p.text package) =
      some ("slices".toList :: (p.asciiLabels ++ p.punycodeLabels ++ p.unicodeLabels ++
        [p.full.pattern, p.ascii.pattern, p.punycode.pattern])) := by
  have hpre : (preamble package).filterMap Go.Lexeme.literal? = ["slices".toList] := rfl
  have hdecl : (p.declarations.flatMap fun d => Go.keyword :: d.lexemes).filterMap
      Go.Lexeme.literal? = p.declarations.flatMap (·.2.literals) := by
    simp only [List.filterMap_flatMap, Go.filterMap_literal?_lexemes]
  rw [Go.literals?_of_spells (spells_text hf ha hp hpkg), List.filterMap_append, hpre, hdecl]
  simp [Parts.declarations, Go.Expression.literals]

/-- The rendered source reads back as eight declarations: the three slices are the words of the ASCII
corpus, the encoded words of the punycode corpus and the words of the full corpus that begin above
ASCII, and the three strings are the patterns. Its literals are those words and patterns and the name
of the import, and no word or pattern holds a code point with a meaning inside its literal. -/
theorem declarations?_render {o : Corpus.Options} {lines : List (List Char)}
    {corpora : List Corpus} (hc : (Corpus.compileAll o lines).outcome = .ok corpora)
    {package : List Char} (hpkg : Go.IsIdentifier package) :
    ∃ full ascii punycode text, corpora = [full, ascii, punycode] ∧
      (Corpus.compile o lines .full).outcome = .ok full ∧
      (Corpus.compile o lines .ascii).outcome = .ok ascii ∧
      (Corpus.compile o lines .punycode).outcome = .ok punycode ∧
      Artifact.render ⟨.go, package⟩ corpora = .ok text ∧
      (let encoded := Listing.encodedLabels punycode.entries
       let unicode := full.strings.filter fun word => word.head?.any (0x80 ≤ ·.toNat)
       Go.declarations? text = some [
          ("TLDsAscii".toList, .slice ascii.strings),
          ("punycodeTLDs".toList, .slice encoded),
          ("unicodeTLDs".toList, .slice unicode),
          ("TLDs".toList, .append "TLDsAscii".toList "unicodeTLDs".toList),
          ("TLDsPunycode".toList, .append "TLDsAscii".toList "punycodeTLDs".toList),
          ("TLDRegex".toList, .string full.pattern),
          ("TLDAsciiRegex".toList, .string ascii.pattern),
          ("TLDsPunycodeRegex".toList, .string punycode.pattern)] ∧
        Go.literals? text = some ("slices".toList :: (ascii.strings ++ encoded ++ unicode ++
          [full.pattern, ascii.pattern, punycode.pattern]))) ∧
      ∀ c ∈ corpora, (∀ word ∈ c.strings, ∀ d ∈ word, d ≠ '"' ∧ d ≠ '\\' ∧ d ≠ '\n') ∧
        ∀ d ∈ c.pattern, d ≠ '\x60' ∧ d ≠ '\r' := by
  obtain ⟨full, ascii, punycode, rfl, hf, ha, hp⟩ := Corpus.exists_of_compileAll hc
  obtain ⟨p, hparts, hf', ha', hp'⟩ := partsOf_of_compileAll hc
  obtain rfl : p.full = full := Except.ok.inj (hf'.symm.trans hf)
  obtain rfl : p.ascii = ascii := Except.ok.inj (ha'.symm.trans ha)
  obtain rfl : p.punycode = punycode := Except.ok.inj (hp'.symm.trans hp)
  obtain ⟨hrender, hdeclarations⟩ := declarations?_of_compileAll hc hparts hpkg
  have hqf := Corpus.isQuotable_of_compile (Corpus.unverified_of_compile hf)
  have hqa := Corpus.isQuotable_of_compile (Corpus.unverified_of_compile ha)
  have hqp := Corpus.isQuotable_of_compile (Corpus.unverified_of_compile hp)
  refine ⟨p.full, p.ascii, p.punycode, p.text package, rfl, hf, ha, hp, hrender, ⟨?_, ?_⟩, ?_⟩
  · rw [hdeclarations, ← unicodeLabels_eq_filter]
    rfl
  · rw [literals?_text hqf hqa hqp hpkg, unicodeLabels_eq_filter]
    rfl
  · simp only [List.forall_mem_cons]
    exact ⟨⟨hqf.labels, hqf.pattern⟩, ⟨hqa.labels, hqa.pattern⟩, ⟨hqp.labels, hqp.pattern⟩, nofun⟩

/-- Labels of three scripts, one of them with a combining mark, in a reluctant capturing style. -/
theorem declarations?_render_scripts :
    let lines := ["CO", "com", "XN--FIQS8S", "xn--p1ai", "i\u0307n"].map String.toList
    let o : Corpus.Options := { style := { greedy := false, capturing := true }, verify := true }
    let package := "суффиксы".toList
    ∃ corpora text, (Corpus.compileAll o lines).outcome = .ok corpora ∧ Go.IsIdentifier package ∧
      Artifact.render ⟨.go, package⟩ corpora = .ok text ∧
      Go.declarations? text = some [
        ("TLDsAscii".toList, .slice (["co", "com", "i\u0307n"].map String.toList)),
        ("punycodeTLDs".toList, .slice (["xn--fiqs8s", "xn--p1ai"].map String.toList)),
        ("unicodeTLDs".toList, .slice (["рф", "中国"].map String.toList)),
        ("TLDs".toList, .append "TLDsAscii".toList "unicodeTLDs".toList),
        ("TLDsPunycode".toList, .append "TLDsAscii".toList "punycodeTLDs".toList),
        ("TLDRegex".toList, .string "com??|i\u0307n|рф|中国".toList),
        ("TLDAsciiRegex".toList, .string "com??|i\u0307n".toList),
        ("TLDsPunycodeRegex".toList, .string "com??|i\u0307n|xn--(fiqs8s|p1ai)".toList)] := by
  intro lines o package
  let full : Corpus :=
    ⟨.full, ["co", "com", "i\u0307n", "рф", "中国"].map (.of ·.toList),
      "com??|i\u0307n|рф|中国".toList⟩
  let ascii : Corpus :=
    ⟨.ascii, ["co", "com", "i\u0307n"].map (.of ·.toList), "com??|i\u0307n".toList⟩
  let punycode : Corpus :=
    ⟨.punycode, ["co", "com", "i\u0307n", "xn--fiqs8s", "xn--p1ai"].map (.of ·.toList),
      "com??|i\u0307n|xn--(fiqs8s|p1ai)".toList⟩
  have hc : (Corpus.compileAll o lines).outcome = .ok [full, ascii, punycode] := by decide +kernel
  have hpkg : Go.IsIdentifier package := by decide +kernel
  obtain ⟨_, _, _, text, hcorpora, -, -, -, hrender, ⟨hdeclarations, -⟩, -⟩ :=
    declarations?_render hc hpkg
  simp only [List.cons.injEq, and_true] at hcorpora
  obtain ⟨rfl, rfl, rfl⟩ := hcorpora
  refine ⟨_, text, hc, hpkg, hrender, hdeclarations.trans ?_⟩
  decide +kernel

end Artifact.GoSource

end RootZone
