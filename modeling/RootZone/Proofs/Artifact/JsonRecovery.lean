import RootZone.Artifact
import RootZone.Proofs.Artifact.JsonReading
import RootZone.Proofs.Corpus.Exact

/-!
# What the JSON artifact keeps

The text of the artifact is a JSON array with one document for each corpus, whatever the labels and
patterns hold. A document says everything of a corpus but the kinds of its entries, and those follow
from the labels in every corpus that was compiled. So the corpora can be got back from the text, and
different results are written as different texts (`parse?_render`).
-/

namespace RootZone.Artifact.Json

open RootZone.Json (Value Denotes)

def document (c : Corpus) : Value :=
  .object [
    ("variant".toList, .string c.variant.name.toList),
    ("entries".toList, .array (c.strings.map .string)),
    ("pattern".toList, .string c.pattern)]

def text? : Value → Option (List Char)
  | .string text => some text
  | _ => none

/-- The corpus of a document, its entries made from the labels. -/
def corpus? : Value → Option Corpus
  | .object fields =>
      match fields.lookup "variant".toList, fields.lookup "entries".toList,
        fields.lookup "pattern".toList with
      | some (.string name), some (.array labels), some (.string pattern) =>
          match Variant.ofName? (String.ofList name), labels.mapM text? with
          | some v, some words => some ⟨v, words.map Entry.of, pattern⟩
          | _, _ => none
      | _, _, _ => none
  | _ => none

def corpora? : Value → Option (List Corpus)
  | .array documents => documents.mapM corpus?
  | _ => none

theorem denotes_corpus (c : Corpus) : Denotes (corpus c) (document c) := by
  have hlabels : List.Forall₂ Denotes (c.strings.map string) (c.strings.map .string) := by
    rw [List.forall₂_map_left_iff, List.forall₂_map_right_iff, List.forall₂_same]
    exact fun word _ => RootZone.Json.denotes_string word
  refine RootZone.Json.denotes_object 1 (.cons ⟨rfl, ?_⟩ (.cons ⟨rfl, ?_⟩ (.cons ⟨rfl, ?_⟩ .nil)))
  · exact RootZone.Json.denotes_string _
  · exact RootZone.Json.denotes_array 2 hlabels
  · exact RootZone.Json.denotes_string _

theorem parse?_render_eq (corpora : List Corpus) :
    RootZone.Json.parse? (render corpora) = some (.array (corpora.map document)) := by
  have hdocuments : List.Forall₂ Denotes (corpora.map corpus) (corpora.map document) := by
    rw [List.forall₂_map_left_iff, List.forall₂_map_right_iff, List.forall₂_same]
    exact fun c _ => denotes_corpus c
  have hfeed : ∀ c ∈ ['\n'], RootZone.Json.isBlank c = true := List.forall_mem_singleton.2 rfl
  exact RootZone.Json.parse?_of_denotes (RootZone.Json.denotes_array 0 hdocuments) hfeed

/-- The kinds of the entries are those of their labels. -/
def HasKindsOfLabels (c : Corpus) : Prop :=
  ∀ e ∈ c.entries, e.kind = .of e.value

theorem mapM_map_of_inverse {α β : Type} {f : β → Option α} {g : α → β} {l : List α}
    (h : ∀ a ∈ l, f (g a) = some a) : (l.map g).mapM f = some l := by
  induction l with
  | nil => rfl
  | cons a l ih =>
      rw [List.forall_mem_cons] at h
      simp [h.1, ih h.2]

theorem map_of_strings {c : Corpus} (h : HasKindsOfLabels c) : c.strings.map .of = c.entries := by
  calc c.strings.map .of = c.entries.map (Entry.of ∘ Entry.value) := List.map_map
    _ = c.entries.map id := List.map_congr_left fun e he => by
      rw [Function.comp_apply, Entry.of, ← h e he, id]
    _ = c.entries := List.map_id _

theorem corpus?_document {c : Corpus} (h : HasKindsOfLabels c) : corpus? (document c) = some c := by
  have hlabels : (c.strings.map Value.string).mapM text? = some c.strings :=
    mapM_map_of_inverse fun _ _ => rfl
  have hvariant : Variant.ofName? (String.ofList c.variant.name.toList) = some c.variant := by
    rw [String.ofList_toList, Variant.ofName?_name]
  have hcorpus : corpus? (document c) =
      match Variant.ofName? (String.ofList c.variant.name.toList),
        (c.strings.map Value.string).mapM text? with
      | some v, some words => some ⟨v, words.map Entry.of, c.pattern⟩
      | _, _ => none := rfl
  rw [hcorpus, hvariant, hlabels]
  simp only [map_of_strings h]

theorem corpora?_documents {corpora : List Corpus} (h : ∀ c ∈ corpora, HasKindsOfLabels c) :
    corpora? (.array (corpora.map document)) = some corpora :=
  mapM_map_of_inverse fun c hc => corpus?_document (h c hc)

theorem hasKindsOfLabels_of_compile {o : Corpus.Options} {lines : List (List Char)} {v : Variant}
    {c : Corpus} (h : (Corpus.compile o lines v).outcome = .ok c) : HasKindsOfLabels c := by
  intro e he
  obtain ⟨hof, -⟩ := (Corpus.mem_entries_of_compile (Corpus.unverified_of_compile h)).1 he
  exact congrArg Entry.kind hof

theorem hasKindsOfLabels_of_compileAll {o : Corpus.Options} {lines : List (List Char)}
    {corpora : List Corpus} (h : (Corpus.compileAll o lines).outcome = .ok corpora) :
    ∀ c ∈ corpora, HasKindsOfLabels c := by
  obtain ⟨full, ascii, punycode, rfl, hf, ha, hp⟩ := Corpus.exists_of_compileAll h
  simp only [List.forall_mem_cons]
  exact ⟨hasKindsOfLabels_of_compile hf, hasKindsOfLabels_of_compile ha,
    hasKindsOfLabels_of_compile hp, nofun⟩

/-- The artifact of any corpora is read as the array of their documents, and gives the corpora back
if the kinds of their entries are those of the labels. That is so for whatever is compiled, so two
lists whose corpora have the same artifact have the same corpora. -/
theorem parse?_render (package : List Char) (corpora : List Corpus) :
    ∃ text, Artifact.render ⟨.json, package⟩ corpora = .ok text ∧
      RootZone.Json.parse? text = some (.array (corpora.map fun c => .object [
        ("variant".toList, .string c.variant.name.toList),
        ("entries".toList, .array (c.strings.map .string)),
        ("pattern".toList, .string c.pattern)])) ∧
      ((∀ c ∈ corpora, ∀ e ∈ c.entries, e.kind = .of e.value) →
        (RootZone.Json.parse? text).bind corpora? = some corpora) ∧
      (∀ o lines v c, (Corpus.compile o lines v).outcome = .ok c →
        ∀ e ∈ c.entries, e.kind = .of e.value) ∧
      ∀ o lines o' lines' corpora', (Corpus.compileAll o lines).outcome = .ok corpora →
        (Corpus.compileAll o' lines').outcome = .ok corpora' →
        Artifact.render ⟨.json, package⟩ corpora' = .ok text → corpora = corpora' := by
  have hparse := parse?_render_eq corpora
  refine ⟨render corpora, rfl, hparse, ?_, ?_, ?_⟩
  · intro h
    rw [hparse]
    exact corpora?_documents h
  · intro o lines v c hc
    exact hasKindsOfLabels_of_compile hc
  · intro o lines o' lines' corpora' hc hc' hrender
    have htext : render corpora' = render corpora := Except.ok.inj hrender
    have hdocuments := (parse?_render_eq corpora').symm.trans ((congrArg _ htext).trans hparse)
    have hcorpora := congrArg (·.bind corpora?) hdocuments
    simp only [Option.bind_some, corpora?_documents (hasKindsOfLabels_of_compileAll hc),
      corpora?_documents (hasKindsOfLabels_of_compileAll hc')] at hcorpora
    exact (Option.some.inj hcorpora).symm

/-- A corpus with what a text in JSON escapes, one without entries, and the result for a list whose
labels were given in two ways. -/
theorem parse?_render_escapes :
    let strange : Corpus :=
      ⟨.full, [.of "\"\\/\n".toList, .of "\x01\u2028".toList, .of "xn--рф".toList],
        "(😀|\\.)".toList⟩
    let empty : Corpus := ⟨.punycode, [], []⟩
    let compiled := [
      Corpus.ofEntries {} .full (["com", "рф"].map (.of ·.toList)),
      Corpus.ofEntries {} .ascii (["com"].map (.of ·.toList)),
      Corpus.ofEntries {} .punycode (["com", "xn--p1ai"].map (.of ·.toList))]
    let lines := ["com", "xn--p1ai"].map String.toList
    let lines' := ["XN--P1AI", "COM", "# com"].map String.toList
    (∃ text, Artifact.render ⟨.json, []⟩ [strange, empty] = .ok text ∧
      RootZone.Json.parse? text = some (.array [
        .object [
          ("variant".toList, .string "full".toList),
          ("entries".toList, .array [
            .string "\"\\/\n".toList, .string "\x01\u2028".toList, .string "xn--рф".toList]),
          ("pattern".toList, .string "(😀|\\.)".toList)],
        .object [
          ("variant".toList, .string "punycode".toList),
          ("entries".toList, .array []),
          ("pattern".toList, .string [])]]) ∧
      (RootZone.Json.parse? text).bind corpora? = some [strange, empty]) ∧
    (Corpus.compileAll {} lines).outcome = .ok compiled ∧
      ∃ corpora, (Corpus.compileAll {} lines').outcome = .ok corpora ∧
        Artifact.render ⟨.json, []⟩ corpora = Artifact.render ⟨.json, []⟩ compiled ∧
        compiled = corpora := by
  intro strange empty compiled lines lines'
  have hkinds : ∀ c ∈ [strange, empty], ∀ e ∈ c.entries, e.kind = .of e.value := by decide +kernel
  have hc : (Corpus.compileAll {} lines).outcome = .ok compiled := by decide +kernel
  have hc' : (Corpus.compileAll {} lines').outcome = .ok compiled := by decide +kernel
  obtain ⟨text, hrender, hparse, hback, -⟩ := parse?_render [] [strange, empty]
  obtain ⟨text', hrender', -, -, -, hinj⟩ := parse?_render [] compiled
  exact ⟨⟨text, hrender, hparse, hback hkinds⟩, hc, compiled, hc', rfl,
    hinj {} lines {} lines' compiled hc hc' hrender'⟩

end RootZone.Artifact.Json
