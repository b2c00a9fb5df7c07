import Mathlib.Data.List.Forall2
import Dossier.CommandLine.Run
import Dossier.Proofs.Json.Printer
import Dossier.Proofs.Rpc.Clock
import Dossier.Proofs.Rpc.Message
import Dossier.Proofs.Text.Lines

/-!
# A server answers line by line

What a server answers to a line is a matter of that line and of the moment (`Server.answer`): the
lines before it, and whether the client has said that it is ready, do not count. So inputs that
follow one another are answered one after the other (`serve_append`), up to the first line that is
not UTF-8, and every answer stays on a line of its own (`answersByLine_answer`). Clocks go on from
line to line, and the moment of the `i`-th line is `clock i`.
-/

namespace Dossier.Rpc

/-- Transcripts one after the other. Nothing follows a failure. -/
def Transcript.followedBy (t u : Transcript) : Transcript :=
  match t.failure with
  | none => ⟨t.responses ++ u.responses, u.failure⟩
  | some _ => t

/-- What comes first comes first in what follows. -/
theorem Transcript.append_followedBy (responses : List Response) (t u : Transcript) :
    Transcript.followedBy ⟨responses ++ t.responses, t.failure⟩ u =
      ⟨responses ++ (t.followedBy u).responses, (t.followedBy u).failure⟩ := by
  obtain ⟨_, _ | e⟩ := t
  · exact congrArg (fun responses => (⟨responses, u.failure⟩ : Transcript)) (List.append_assoc ..)
  · rfl

namespace Server

variable {s : Server} {now : Moment} {clock : Nat → Moment} {line : List UInt8}
  {lines : List (List UInt8)} {text : String} {texts : List String} {e : Text.Utf8Error}

/-- What a server answers to a line at a moment. -/
def answer (s : Server) (now : Moment) (line : String) : Option Response :=
  (s.processLine now false line).1

/-- What is answered to lines of which the `i`-th is answered at `clock i`. -/
def responses (answer : Moment → String → Option Response) (clock : Nat → Moment)
    (texts : List String) : List Response :=
  texts.zipIdx.filterMap fun (text, i) => answer (clock i) text

/-- What a server writes. -/
def output (s : Server) (clock : Nat → Moment) (input : List UInt8) : String :=
  (CommandLine.Outcome.ofTranscript s.wording (s.serve clock input)).output

/-! ## One line -/

/-- Whether the client is ready does not count. -/
theorem processLine_fst (s : Server) (now : Moment) (ready : Bool) (line : String) :
    (s.processLine now ready line).1 = s.answer now line := by
  unfold answer processLine
  dsimp only
  split
  · rfl
  · split <;> rfl

/-- A line that is read as a request is not blank. -/
theorem not_isAllBlank_of_read {r : Request} (hr : Request.read (Text.trim text) = .ok r) :
    ¬Text.isAllBlank text = true := by
  intro hblank
  have hnone : (Request.read "").toOption.isNone = true := by decide +kernel
  rw [String.isEmpty_iff.1 ((Text.isEmpty_trim text).trans hblank)] at hr
  rw [hr] at hnone
  cases hnone

/-- It is answered as that request. -/
theorem answer_of_read {r : Request} (hr : Request.read (Text.trim text) = .ok r) (now : Moment) :
    s.answer now text = s.respond now r := by
  unfold answer processLine
  dsimp only
  rw [Text.isEmpty_trim, if_neg (not_isAllBlank_of_read hr), hr]
  rfl

/-- A line that is not read as a request is refused, unless it is blank. -/
theorem answer_of_unread {e : Json.DecodeError} (he : Request.read (Text.trim text) = .error e)
    (now : Moment) : s.answer now text =
    if Text.isAllBlank text then none
    else some ⟨recoverId (Text.trim text), .failure .parseError
      s!"Parse error: {e.message}{s.wording.jsonPlace Request.shape.name (Text.trim text)}"⟩ := by
  unfold answer processLine
  dsimp only
  rw [Text.isEmpty_trim, he]
  split <;> rfl

/-- Blank lines and requests without an id are left without an answer, and no other lines are. -/
theorem answer_eq_none_iff : s.answer now text = none ↔
    Text.isAllBlank text = true ∨ ∃ r, Request.read (Text.trim text) = .ok r ∧ r.id = none := by
  cases hread : Request.read (Text.trim text) with
  | ok r =>
    rw [answer_of_read hread, respond, Option.map_eq_none_iff,
      or_iff_right (not_isAllBlank_of_read hread)]
    constructor
    · exact fun hid => ⟨r, rfl, hid⟩
    · rintro ⟨_, ⟨⟩, hid⟩
      exact hid
  | error e =>
    have hnone : ¬∃ r : Request, Except.error e = .ok r ∧ r.id = none := by
      rintro ⟨_, ⟨⟩, -⟩
    rw [answer_of_unread hread, or_iff_left hnone]
    split
    case isTrue h => exact iff_of_true rfl h
    case isFalse h => exact iff_of_false (Option.some_ne_none _) h

/-- A line that asks for no timed call is answered alike at all moments. -/
theorem answer_eq_of_untimed (h : ∀ r call, Request.read (Text.trim text) = .ok r → r.Asks call →
    ¬call.IsTimed) (now now' : Moment) : s.answer now text = s.answer now' text := by
  cases hread : Request.read (Text.trim text) with
  | ok r =>
    rw [answer_of_read hread, answer_of_read hread]
    exact respond_eq_of_untimed (Request.hasOrdered_of_read hread) (fun call => h r call hread) _ _
  | error e => rw [answer_of_unread hread, answer_of_unread hread]

/-! ## Many lines -/

/-- What is answered to a line comes before what is answered to later ones. -/
theorem exists_serveLines_cons (clock : Nat → Moment) (ready : Bool)
    (h : Text.decodeUtf8 line = .ok text) (lines : List (List UInt8)) :
    ∃ ready', s.serveLines clock ready (line :: lines) =
      ⟨(s.answer (clock 0) text).toList ++
        (s.serveLines (fun i => clock (i + 1)) ready' lines).responses,
      (s.serveLines (fun i => clock (i + 1)) ready' lines).failure⟩ := by
  refine ⟨(s.processLine (clock 0) ready text).2, ?_⟩
  rw [serveLines, processBytes, h, ← processLine_fst s (clock 0) ready]
  rfl

/-- Nothing is answered to a line that is not UTF-8, nor to later ones. -/
theorem serveLines_cons_error (clock : Nat → Moment) (ready : Bool)
    (h : Text.decodeUtf8 line = .error e) (lines : List (List UInt8)) :
    s.serveLines clock ready (line :: lines) = ⟨[], some e⟩ := by
  rw [serveLines, processBytes, h]
  rfl

/-- Whether the client is ready does not count for any number of lines. -/
theorem serveLines_eq (clock : Nat → Moment) (ready : Bool) (lines : List (List UInt8)) :
    s.serveLines clock ready lines = s.serveLines clock false lines := by
  induction lines generalizing clock ready with
  | nil => rfl
  | cons line lines ih =>
    cases h : Text.decodeUtf8 line with
    | error e => rw [serveLines_cons_error _ _ h, serveLines_cons_error _ _ h]
    | ok text =>
      obtain ⟨ready₁, hready⟩ := exists_serveLines_cons (s := s) clock ready h lines
      obtain ⟨ready₂, hfalse⟩ := exists_serveLines_cons (s := s) clock false h lines
      rw [hready, hfalse, ih _ ready₁, ih _ ready₂]

/-- A line is answered, and then the lines after it. -/
theorem serveLines_cons_ok (clock : Nat → Moment) (h : Text.decodeUtf8 line = .ok text)
    (lines : List (List UInt8)) : s.serveLines clock false (line :: lines) =
      ⟨(s.answer (clock 0) text).toList ++
        (s.serveLines (fun i => clock (i + 1)) false lines).responses,
      (s.serveLines (fun i => clock (i + 1)) false lines).failure⟩ := by
  obtain ⟨ready, hlines⟩ := exists_serveLines_cons (s := s) clock false h lines
  rw [hlines, serveLines_eq _ ready]

/-- Lines are answered one after another, while clocks go on. -/
theorem serveLines_append (clock : Nat → Moment) (lines rest : List (List UInt8)) :
    s.serveLines clock false (lines ++ rest) = (s.serveLines clock false lines).followedBy
      (s.serveLines (fun i => clock (i + lines.length)) false rest) := by
  induction lines generalizing clock with
  | nil => rfl
  | cons line lines ih =>
    rw [List.cons_append]
    cases h : Text.decodeUtf8 line with
    | error e =>
      rw [serveLines_cons_error _ _ h, serveLines_cons_error _ _ h]
      rfl
    | ok text =>
      rw [serveLines_cons_ok _ h, serveLines_cons_ok _ h, ih, Transcript.append_followedBy]
      rfl

/-- What is answered to the first line comes first. -/
theorem responses_cons (answer : Moment → String → Option Response) (clock : Nat → Moment)
    (text : String) (texts : List String) : responses answer clock (text :: texts) =
      (answer (clock 0) text).toList ++ responses answer (fun i => clock (i + 1)) texts := by
  simp only [responses, List.zipIdx_cons, List.zipIdx_succ, List.filterMap_cons,
    List.filterMap_map]
  cases answer (clock 0) text <;> rfl

/-- Lines that are UTF-8 are all answered. -/
theorem serveLines_of_texts (clock : Nat → Moment)
    (h : lines.Forall₂ (Text.decodeUtf8 · = .ok ·) texts) :
    s.serveLines clock false lines = ⟨responses s.answer clock texts, none⟩ := by
  induction h generalizing clock with
  | nil => rfl
  | cons hline _ ih => rw [serveLines_cons_ok _ hline, ih, responses_cons]

/-! ## An input -/

/-- What follows a line end is answered after what comes before, while clocks go on. -/
theorem serve_append (s : Server) (clock : Nat → Moment) (a b : List UInt8) :
    s.serve clock (a ++ [10] ++ b) = (s.serve clock (a ++ [10])).followedBy
      (s.serve (fun i => clock (i + (Text.byteLines (a ++ [10])).length)) b) := by
  rw [serve, Text.byteLines_append]
  exact serveLines_append _ _ _

/-- What is written of a transcript are its responses, each on its line. -/
theorem output_eq (s : Server) (clock : Nat → Moment) (input : List UInt8) : s.output clock input =
    .join ((s.serve clock input).responses.map CommandLine.Outcome.responseLine) := by
  unfold output CommandLine.Outcome.ofTranscript
  dsimp only
  split <;> rfl

/-- A server answers an input line by line: the answer to a line is a response or nothing, and it
is a matter of the text of that line and of the moment. -/
structure AnswersByLine (s : Server) (answer : Moment → String → Option Response) : Prop where
  /-- Nothing is answered to a blank line and to a request without an id, and to no other line. -/
  eq_none_iff : ∀ now text, answer now text = none ↔
    Text.isAllBlank text = true ∨ ∃ r, Request.read (Text.trim text) = .ok r ∧ r.id = none
  /-- A request that is given as an object is without an id if that is absent or `null`. -/
  id_eq_none_iff : ∀ {text : String} {r : Request} {members : Json.Members},
    Request.read text = .ok r → Json.Value.read text = .ok (.object members) →
    (r.id = none ↔ members.get? "id" = none ∨ members.get? "id" = some .null)
  /-- What is answered is the same whether or not the client has said that it is ready. -/
  processLine : ∀ now ready text, (s.processLine now ready text).1 = answer now text
  /-- What is answered is the same at all moments, but to a line that asks for a timed call. -/
  untimed : ∀ {text : String},
    (∀ r call, Request.read (Text.trim text) = .ok r → r.Asks call → ¬call.IsTimed) →
    ∀ now now', answer now text = answer now' text
  /-- To a query the same is answered at all moments but for the milliseconds that it took. -/
  query : ∀ {text : String} {r : Request} {id : Id} {options : Query.Options},
    Request.read (Text.trim text) = .ok r → r.id = some id → r.Asks (.query options) →
    ∃ result : Query.Result, ∀ now, answer now text = some ⟨id.toJson, .result
      (Call.Answer.value { result with milliseconds := now.milliseconds }.toJson).toJson⟩
  /-- To a call for statistics the same is answered at all moments but for the ages on the day. -/
  stats : ∀ {text : String} {r : Request} {id : Id},
    Request.read (Text.trim text) = .ok r → r.id = some id → r.Asks .stats →
    ∃ figures : Query.Statistics, ∀ now, answer now text = some ⟨id.toJson, .result
      (Call.Answer.value { figures with
        ages := s.registry.documents.filterMap (Query.age? now.today) }.toJson).toJson⟩
  /-- Every input is made of lines. -/
  exists_lines : ∀ input : List UInt8, ∃ lines, Text.AreLines lines ∧ lines.flatten = input
  /-- Lines of UTF-8 are answered in their order. -/
  serve_texts : ∀ clock {lines : List (List UInt8)} {texts : List String}, Text.AreLines lines →
    lines.Forall₂ (Text.decodeUtf8 · = .ok ·) texts →
    s.serve clock lines.flatten = ⟨responses answer clock texts, none⟩
  /-- A line that is not UTF-8 ends this with a failure, after the answers to the lines before
  it. -/
  serve_broken : ∀ clock {lines rest : List (List UInt8)} {texts : List String}
    {broken : List UInt8} {e : Text.Utf8Error}, Text.AreLines (lines ++ broken :: rest) →
    lines.Forall₂ (Text.decodeUtf8 · = .ok ·) texts → Text.decodeUtf8 broken = .error e →
    s.serve clock (lines ++ broken :: rest).flatten = ⟨responses answer clock texts, some e⟩
  /-- Responses are written one after another. -/
  output_eq : ∀ clock input, s.output clock input =
    .join ((s.serve clock input).responses.map CommandLine.Outcome.responseLine)
  /-- A response is written as JSON, on a line of its own. -/
  responseLine_eq : ∀ r, CommandLine.Outcome.responseLine r = r.toJson.compact ++ "\n" ∧
    '\n' ∉ r.toJson.compact.toList
  /-- What is written to an input that follows another comes after what is written to that one, and
  is what is written to it alone while clocks go on. -/
  output_append : ∀ clock a b, (s.serve clock (a ++ [10])).failure = none →
    s.output clock (a ++ [10] ++ b) = s.output clock (a ++ [10]) ++
      s.output (fun i => clock (i + (Text.byteLines (a ++ [10])).length)) b

/-- **A server answers line by line.** -/
theorem answersByLine_answer (s : Server) : s.AnswersByLine s.answer where
  eq_none_iff _ _ := answer_eq_none_iff
  id_eq_none_iff := Request.id_eq_none_iff
  processLine := processLine_fst s
  untimed := answer_eq_of_untimed
  query hr hid h := by
    obtain ⟨result, hresult⟩ := respond_query (s := s) (Request.hasOrdered_of_read hr) hid h
    exact ⟨result, fun now => (answer_of_read hr now).trans (hresult now)⟩
  stats hr hid h := by
    obtain ⟨figures, hfigures⟩ := respond_stats (s := s) (Request.hasOrdered_of_read hr) hid h
    exact ⟨figures, fun now => (answer_of_read hr now).trans (hfigures now)⟩
  exists_lines input := ⟨_, Text.areLines_byteLines input, Text.flatten_byteLines input⟩
  serve_texts clock _ _ hlines htexts := by
    rw [serve, Text.byteLines_flatten hlines]
    exact serveLines_of_texts clock htexts
  serve_broken clock lines rest texts broken e hlines htexts he := by
    rw [serve, Text.byteLines_flatten hlines, serveLines_append, serveLines_of_texts clock htexts,
      serveLines_cons_error _ _ he]
    exact congrArg (fun responses => (⟨responses, some e⟩ : Transcript)) (List.append_nil _)
  output_eq := output_eq s
  responseLine_eq _ := ⟨rfl, Json.not_mem_compact _⟩
  output_append clock a b h := by
    have hserve := serve_append s clock a b
    rw [Transcript.followedBy, h] at hserve
    rw [output_eq, output_eq, output_eq, hserve, List.map_append, String.join_append]

/-- **What clocks show counts**: of a query that is called twice in a row, and takes a millisecond
longer the second time, what is written is not what is written of it alone, twice over. -/
theorem output_twice_ne :
    let s : Server := ⟨⟨.ofList [], Taxonomy.canonical, 100, 5⟩, ⟨fun _ _ => "", fun _ => ""⟩⟩
    let clock : Nat → Moment := fun i => ⟨⟨2025, 1, 1, by decide, by decide⟩, i⟩
    let line := ("\x7b\"jsonrpc\":\"2.0\",\"id\":1,\"method\":\"tools/call\"," ++
      "\"params\":\x7b\"name\":\"bspec_query\"\x7d\x7d\n").toByteArray.toList
    (s.serve clock line).failure = none ∧
      s.output clock (line ++ line) ≠ s.output clock line ++ s.output clock line := by
  decide +kernel

/-! ## The id of a response -/

open Json (Value)

variable {v id : Value}

/-- An object with an id is answered with that id, be it a request or not. -/
theorem exists_answer (hread : Value.read text = .ok v) (hget : v.get? "id" = some id)
    (hid : IsId id) (now : Moment) : ∃ outcome, s.answer now text = some ⟨id, outcome⟩ := by
  have htrim := Json.read_trim hread
  have hempty : ¬(Text.trim text).isEmpty = true :=
    mt String.isEmpty_iff.1 (Json.ne_empty_of_read htrim)
  unfold answer processLine
  dsimp only
  rw [if_neg hempty]
  split
  case h_1 r hr =>
    obtain ⟨i, hi, rfl⟩ := Request.exists_id_of_read hr htrim hget hid
    show ∃ outcome, s.respond now r = some ⟨i.toJson, outcome⟩
    rw [respond, hi, Option.map_some]
    split
    · exact ⟨_, rfl⟩
    · exact ⟨_, rfl⟩
  case h_2 =>
    rw [recoverId_of_read htrim hget hid]
    exact ⟨_, rfl⟩

/-- **A line that is an object with an id is answered with one response, and that has this id.**
The response comes after those to the lines before it and before those to the lines after it, and
it has the id at whatever moment the line is answered. -/
theorem exists_response (s : Server) (hread : Value.read text = .ok v)
    (hget : v.get? "id" = some id) (hid : IsId id) : ∃ response : Moment → Response,
      (∀ now, (response now).toJson.get? "id" = some id) ∧
      (∀ now ready, (s.processLine now ready text).1 = some (response now)) ∧
      ∀ clock {lines rest : List (List UInt8)} {texts : List String} {line : List UInt8},
        Text.AreLines (lines ++ line :: rest) → lines.Forall₂ (Text.decodeUtf8 · = .ok ·) texts →
        Text.decodeUtf8 line = .ok text →
        let later := s.serve (fun i => clock (i + 1 + lines.length)) rest.flatten
        s.serve clock (lines ++ line :: rest).flatten = ⟨responses s.answer clock texts ++
          response (clock lines.length) :: later.responses, later.failure⟩ := by
  choose outcome hanswer using exists_answer (s := s) hread hget hid
  refine ⟨fun now => ⟨id, outcome now⟩, fun _ => rfl,
    fun now ready => (processLine_fst s now ready text).trans (hanswer now), ?_⟩
  intro clock lines rest texts line hlines htexts hline later
  have hrest : later = s.serveLines (fun i => clock (i + 1 + lines.length)) false rest := by
    dsimp only [later]
    rw [serve, Text.byteLines_flatten hlines.of_append_cons]
  rw [hrest, serve, Text.byteLines_flatten hlines, serveLines_append, serveLines_of_texts _ htexts,
    serveLines_cons_ok _ hline, Nat.zero_add, hanswer]
  rfl

/-- A whole number that is no request's id, since it takes more than 64 bits with sign, is answered
all the same. -/
theorem exists_response_large :
    let s : Server := ⟨⟨.ofList [], Taxonomy.canonical, 100, 5⟩, ⟨fun _ _ => "", fun _ => ""⟩⟩
    let text :=
      "\x7b\"jsonrpc\": \"2.0\", \"id\": 9223372036854775808, \"method\": \"shutdown\"\x7d\n"
    ∃ response : Moment → Response,
      (∀ now, (response now).toJson.get? "id" = some (.int 9223372036854775808)) ∧
      ∀ clock, s.serve clock text.toByteArray.toList = ⟨[response (clock 0)], none⟩ := by
  intro s text
  have hsize : (((Value.read text).toOption.bind (·.get? "id")).bind fun id =>
      (Json.Decoder.size id).toOption) = some 9223372036854775808 := by decide +kernel
  obtain ⟨id, hid, hsize⟩ := Option.bind_eq_some_iff.1 hsize
  obtain ⟨v, hv, hget⟩ := Option.bind_eq_some_iff.1 hid
  obtain ⟨rfl, -⟩ := Json.Decoder.size_eq_ok_iff.1 (Json.eq_ok_of_toOption_eq_some hsize)
  obtain ⟨response, hresponse, -, hserve⟩ :=
    exists_response s (Json.eq_ok_of_toOption_eq_some hv) hget (.int _)
  have hline : Text.IsLine text.toByteArray.toList :=
    ⟨text.toByteArray.toList.dropLast, by decide +kernel, by decide +kernel⟩
  have htext : (Text.decodeUtf8 text.toByteArray.toList).toOption = some text := by decide +kernel
  refine ⟨response, hresponse, fun clock => ?_⟩
  have hsession :=
    hserve clock (.line hline .none) .nil (Json.eq_ok_of_toOption_eq_some htext)
  rw [List.nil_append, List.flatten_singleton] at hsession
  exact hsession

end Server

end Dossier.Rpc
