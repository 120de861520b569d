import RootZone.Job
import RootZone.Host.Replay
import RootZone.Proofs.Http.Body

/-!
# What a download gives

A response of success gives its whole payload, and the download the lines of the text that this is the
UTF-8 of, or an error if it is not UTF-8. If the connection closes early, the download fails: with an
error of the transport before the end of the head, and behind it with one of the body, provided that
the head announces where the body ends. So `Origin.outcome_of_response` leaves no way to a list that
is shorter than the one that was sent.
-/

namespace RootZone

namespace Http

namespace Response

variable (r : Response) (url : Url)

/-- How the end of the body is found. -/
theorem readResponse_append {bytes more : List UInt8} (h : bytes ++ more = r.carriage.bytes) :
    readResponse url (r.headBytes ++ bytes) =
      ((body (if r.status = 204 then .noBody else r.carriage.announcement.getD .untilClose)
        bytes).mapError .body).map .final := by
  have hstatus : ¬ 400 ≤ r.head.status :=
    Nat.not_le_of_lt (lt_trans r.isSuccess.2 (by decide))
  simp only [readResponse, r.readHead?_append h, framing?_head, isRedirect_head, if_neg hstatus]
  cases body _ bytes <;> rfl

/-- The payload of a whole response is read. -/
theorem readResponse_bytes : readResponse url r.bytes = .ok (.final r.payload) := by
  rw [bytes, r.readResponse_append url (List.append_nil _)]
  split_ifs with hempty
  · rw [payload, r.noContent hempty]
    rfl
  · rw [r.carriage.body_bytes]
    rfl

/-- Before the end of its head a response is not understood. -/
theorem readResponse_take_of_lt {n : ℕ} (h : n < r.headBytes.length) :
    readResponse url (r.bytes.take n) = .error (.transport (.badHead (r.bytes.take n))) := by
  have htake : r.bytes.take n = r.headBytes.take n :=
    List.take_append_of_le_length (Nat.le_of_lt h)
  have hmore : r.headBytes.drop n ≠ [] := by
    rw [ne_eq, List.drop_eq_nil_iff]
    omega
  simp only [readResponse, htake, r.readHead?_of_cut (List.take_append_drop n _) hmore]

/-- Behind its head a response is understood as one that lacks a part of its body. -/
theorem readResponse_take_of_le (hends : r.carriage.announcement ≠ none) {n : ℕ}
    (hle : r.headBytes.length ≤ n) (hlt : n < r.bytes.length) :
    readResponse url (r.bytes.take n) = .error (.body .cutShort) := by
  obtain ⟨framing, hframing⟩ := Option.ne_none_iff_exists'.1 hends
  obtain ⟨k, rfl⟩ := Nat.exists_eq_add_of_le hle
  have htake : r.bytes.take (r.headBytes.length + k) = r.headBytes ++ r.carriage.bytes.take k := by
    rw [bytes, List.take_length_add_append]
  have hmore : r.carriage.bytes.drop k ≠ [] := by
    rw [bytes, List.length_append] at hlt
    rw [ne_eq, List.drop_eq_nil_iff]
    omega
  have hcontent : r.status ≠ 204 := by
    intro hempty
    rw [r.noContent hempty] at hframing
    cases hframing
  rw [htake, r.readResponse_append url (List.take_append_drop k _), if_neg hcontent, hframing,
    Option.getD_some, Carriage.body_of_cut hframing (List.take_append_drop k _) hmore]
  rfl

end Response

/-- A response that sends nowhere else ends the download. -/
theorem fetchWithin_of_readResponse {σ : Type}
    {exchange : Request → StateM σ (Except String (List UInt8))} {url : Url} {s s' : σ}
    {bytes : List UInt8} (hreply : exchange ⟨url⟩ s = (.ok bytes, s'))
    {result : Except Fault (List UInt8)} (hresponse : readResponse url bytes = result.map .final)
    (n : ℕ) : fetchWithin exchange n url s = (result, s') := by
  rw [fetchWithin]
  simp only [bind, StateT.bind, hreply, hresponse]
  cases result <;> rfl

theorem outcome_linesOfDownload_of_text {explain : TransportFault → String} {url text : List Char}
    {bytes : List UInt8} (h : Text.decodeUtf8? bytes = some text) :
    (linesOfDownload explain url (.ok bytes)).outcome = .ok (Text.lines text) := by
  simp only [linesOfDownload, h]
  rfl

theorem outcome_linesOfDownload_of_notText {explain : TransportFault → String} {url : List Char}
    {bytes : List UInt8} (h : Text.decodeUtf8? bytes = none) :
    (linesOfDownload explain url (.ok bytes)).outcome =
      .error (Fault.toError explain url (.body .notUtf8)) := by
  simp only [linesOfDownload, h]
  rfl

end Http

section Download

variable {σ : Type} {host : Host (StateM σ)} {o : Http.Options} {url : Http.Url}

/-- A download from a locator, whenever its request is answered with some bytes before the connection
closes, has an outcome. -/
def Host.Gives (host : Host (StateM σ)) (o : Http.Options) (url : Http.Url) (bytes : List UInt8)
    (outcome : Except Error (List (List Char))) : Prop :=
  ∀ s s', host.exchange o.timeout ⟨url⟩ s = (.ok bytes, s') →
    ∃ events, (Origin.web o).lines host s = (⟨events, outcome⟩, s')

theorem Host.gives_of_readResponse (hurl : Http.Url.parse? o.url = some url) {bytes : List UInt8}
    {result : Except Http.Fault (List UInt8)}
    (hresponse : Http.readResponse url bytes = result.map .final) :
    host.Gives o url bytes (Http.linesOfDownload host.explain o.url result).outcome := by
  intro s s' hreply
  refine ⟨(Http.linesOfDownload host.explain o.url result).events, ?_⟩
  simp only [Origin.lines, Http.lines, Http.fetch, hurl, bind, StateT.bind,
    Http.fetchWithin_of_readResponse hreply hresponse]
  rfl

/-- A response of success gives the lines of the text that it carries, as a file with the same bytes
does, and an error of the body if it carries no text. Cut in its head it gives an error of the
transport. Cut behind its head it gives an error of the body, unless it is to last until the
connection is closed. -/
theorem Origin.outcome_of_response (host : Host (StateM σ))
    (hurl : Http.Url.parse? o.url = some url) (r : Http.Response) :
    let failed (stage : FetchStage) (detail : String) : Except Error (List (List Char)) :=
      .error (.fetch stage detail)
    let shown := String.ofList o.url
    (∀ text, r.payload = Text.encodeUtf8 text →
      host.Gives o url r.bytes (.ok (Text.lines text)) ∧
      ∀ path s s', host.read path s = (.ok (Text.encodeUtf8 text), s') →
        ∃ events, (Origin.file path).lines host s = (⟨events, .ok (Text.lines text)⟩, s')) ∧
    ((∀ text, r.payload ≠ Text.encodeUtf8 text) →
      host.Gives o url r.bytes (failed .body
        s!"Failed to read response from {shown}: {Http.BodyFault.notUtf8.message}")) ∧
    (∀ n < r.headBytes.length,
      host.Gives o url (r.bytes.take n) (failed .transport
        s!"Request to {shown} failed: {host.explain (.badHead (r.bytes.take n))}")) ∧
    (r.carriage.announcement ≠ none →
      ∀ n, r.headBytes.length ≤ n → n < r.bytes.length →
        host.Gives o url (r.bytes.take n) (failed .body
          s!"Failed to read response from {shown}: {Http.BodyFault.cutShort.message}")) := by
  intro failed shown
  have hwhole : host.Gives o url r.bytes
      (Http.linesOfDownload host.explain o.url (.ok r.payload)).outcome :=
    Host.gives_of_readResponse hurl (r.readResponse_bytes url)
  refine ⟨fun text htext => ⟨?_, ?_⟩, fun hnone => ?_, fun n hn => ?_, fun hends n hle hlt => ?_⟩
  · have hread : Text.decodeUtf8? r.payload = some text := by
      rw [htext, Text.decodeUtf8?_encodeUtf8]
    rwa [Http.outcome_linesOfDownload_of_text hread] at hwhole
  · intro path s s' hfile
    simp only [Origin.lines, bind, StateT.bind, hfile, Source.linesOfFile,
      Text.decodeUtf8?_encodeUtf8]
    exact ⟨_, rfl⟩
  · have hread : Text.decodeUtf8? r.payload = none := by
      rw [Option.eq_none_iff_forall_ne_some]
      exact fun text htext => hnone text (Text.encodeUtf8_of_decodeUtf8? htext).symm
    rwa [Http.outcome_linesOfDownload_of_notText hread] at hwhole
  · have hresponse : Http.readResponse url (r.bytes.take n) =
        (Except.error (.transport (.badHead (r.bytes.take n)))).map .final :=
      r.readResponse_take_of_lt url hn
    exact Host.gives_of_readResponse hurl hresponse
  · have hresponse : Http.readResponse url (r.bytes.take n) =
        (Except.error (.body .cutShort)).map .final :=
      r.readResponse_take_of_le url hends hle hlt
    exact Host.gives_of_readResponse hurl hresponse

/-- A list in three chunks, one of which ends within a character and one between the two bytes of a
line end, and the same response without its last two bytes; and a body that ends within a character. -/
theorem Origin.outcome_of_response_chunks :
    let o : Http.Options := { url := "http://example.com/tlds.txt".toList }
    let outcome (bytes : List UInt8) :=
      ((Origin.web o).lines Replay.host { replies := [bytes] }).1.outcome
    let chunked : Http.Response := {
      version := .v11
      status := 200
      reason := some (Http.bytesOf "OK".toList)
      fields := [{
        name := Http.bytesOf "Transfer-Encoding".toList
        value := Http.bytesOf "Chunked".toList }]
      carriage := .chunked
        [{ data := [0xD1], size := { digits := Http.bytesOf "1".toList } },
          { data := [0x80, 0xD1, 0x84, 13], size := { digits := Http.bytesOf "04".toList } },
          { data := 10 :: Http.bytesOf "com".toList, size := { digits := Http.bytesOf "4".toList } }]
        { digits := Http.bytesOf "0".toList } []
      isSuccess := by decide
      isTextByte_reason := by decide
      uncoded := by decide
      announced := ⟨by decide, rfl, "Chunked".toList, by decide, by decide⟩
      noContent := nofun }
    let broken : Http.Response := {
      version := .v10
      status := 203
      reason := none
      fields := [{
        name := Http.bytesOf "content-length".toList
        value := Http.bytesOf "01".toList }]
      carriage := .length [0xD1]
      isSuccess := by decide
      isTextByte_reason := by decide
      uncoded := by decide
      announced := ⟨by decide, by decide, "01".toList, by decide, by decide⟩
      noContent := nofun }
    outcome chunked.bytes = .ok ["рф".toList, "com".toList] ∧
      outcome (chunked.bytes.take 40) =
        .error (.fetch .transport
          "Request to http://example.com/tlds.txt failed: protocol: http parse fail") ∧
      (∃ detail, outcome (chunked.bytes.take (chunked.bytes.length - 2)) =
        .error (.fetch .body detail)) ∧
      ∃ detail, outcome broken.bytes = .error (.fetch .body detail) := by
  intro o outcome chunked broken
  let url : Http.Url := ⟨.plain, "example.com".toList, "/tlds.txt".toList⟩
  have hurl : Http.Url.parse? o.url = some url := by decide +kernel
  have hreply (bytes : List UInt8) :
      Replay.host.exchange o.timeout ⟨url⟩ { replies := [bytes] } =
        (.ok bytes, { replies := [], answered := [⟨url⟩] }) := rfl
  have houtcome {bytes : List UInt8} {result : Except Error (List (List Char))}
      (h : Replay.host.Gives o url bytes result) : outcome bytes = result := by
    obtain ⟨events, hlines⟩ := h _ _ (hreply bytes)
    exact congrArg (·.1.outcome) hlines
  obtain ⟨hwhole, -, hhead, hbody⟩ := Origin.outcome_of_response Replay.host hurl chunked
  obtain ⟨-, hnotText, -, -⟩ := Origin.outcome_of_response Replay.host hurl broken
  refine ⟨?_, ?_, ⟨_, houtcome (hbody nofun _ ?_ ?_)⟩, ⟨_, houtcome (hnotText ?_)⟩⟩
  · exact houtcome (hwhole "рф\r\ncom".toList (by decide +kernel)).1
  · exact houtcome (hhead 40 (by decide +kernel))
  · decide +kernel
  · decide +kernel
  · intro text htext
    have hnone : Text.decodeUtf8? broken.payload = none := by decide +kernel
    rw [htext, Text.decodeUtf8?_encodeUtf8] at hnone
    cases hnone

end Download

end RootZone
