import Dossier.Proofs.Collection
import Dossier.Proofs.Rpc.Call

/-!
# What a call is answered

A call of a tool is answered in one of three ways. Parameters that describe no call are refused as
invalid. A call for a document that there is not has a result that is marked as an error; the
impact of an id is told all the same. Every other call has a result that is not marked
(`answersCalls`). This is told of parameters whose members are in order, as those of every request
that is read are (`Request.hasOrdered_of_read`).
-/

namespace Dossier.Rpc

open Json

/-- The id that a call must find a document by. -/
def Call.sought? : Call → Option String
  | .get id _ => some id
  | .similar id _ => some id
  | .validate id => id
  | _ => none

/-- A call is for a document that is not there. -/
def Call.Misses (docs : List Document) (call : Call) : Prop :=
  ∃ id, call.sought? = some id ∧ ∀ doc ∈ docs, doc.id ≠ id

namespace Request

variable {r r' : Request} {v : Value} {key : String}

/-- The parameters of a request, if it has any, are in order. -/
def HasOrdered (r : Request) : Prop := ∀ v, r.params = some v → v.IsOrdered

/-- A field that is set to a value in order leaves the parameters so. -/
theorem hasOrdered_of_set (hv : v.IsOrdered) (h : r.set key v = .ok r') (hr : r.HasOrdered) :
    r'.HasOrdered := by
  unfold set at h
  split at h
  case h_4 =>
    obtain ⟨params, hparams, h⟩ := exists_of_bind_eq_ok h
    cases h
    rintro w rfl
    unfold Decoder.option at hparams
    split at hparams <;> cases hparams
    exact hv
  case h_5 => exact Except.ok.inj h ▸ hr
  all_goals
    obtain ⟨_, -, h⟩ := exists_of_bind_eq_ok h
    cases h
    exact hr

/-- So does one that is set to the value of a draft. -/
theorem hasOrdered_of_setInner {d : Draft} (hd : d.IsPlain) (h : shape.setInner r key d = .ok r')
    (hr : r.HasOrdered) : r'.HasOrdered := by
  obtain ⟨v, hv, h⟩ := exists_of_bind_eq_ok h
  exact hasOrdered_of_set (hd.isOrdered (eq_ok_of_mapError_eq_ok hv))
    (show r.set key v = .ok r' from h) hr

theorem setterKeeps_hasOrdered : Shape.SetterKeeps setDraft HasOrdered := by
  intro r r' key d hd h hr
  unfold setDraft at h
  split at h
  case h_1 | h_2 => exact hasOrdered_of_setInner hd h hr
  case h_3 => exact hasOrdered_of_set (.string _) h hr
  case h_4 => cases h

/-- The parameters of a request that is read are in order. -/
theorem hasOrdered_of_read {text : String} (h : read text = .ok r) : r.HasOrdered :=
  Shape.holds_of_read setterKeeps_hasOrdered h nofun

end Request

namespace Response

/-- The number of the failure that a response reports. -/
def code? (r : Response) : Option Value := (r.toJson.get? "error").bind (·.get? "code")

/-- The mark of a result that is an error. -/
def mark? (r : Response) : Option Value := (r.toJson.get? "result").bind (·.get? "isError")

variable {id : Value} {code : Code} {message : String} {v : Value}

theorem code?_failure : code? ⟨id, .failure code message⟩ = some (.int code.number) := rfl

theorem code?_result : code? ⟨id, .result v⟩ = none := rfl

theorem get?_result_failure : (toJson ⟨id, .failure code message⟩).get? "result" = none := rfl

theorem mark?_failure : mark? ⟨id, .failure code message⟩ = none := rfl

theorem mark?_result : mark? ⟨id, .result v⟩ = v.get? "isError" := rfl

end Response

/-- A response is the answer to a call with given parameters. -/
structure AnswersCall (docs : List Document) (params : Option Value) (r : Response) : Prop where
  code_iff : r.code? = some (.int (-32602)) ↔
    params = none ∨ params = some .null ∨ ¬∃ call, Describes params call
  result_iff : (r.toJson.get? "result").isSome = true ↔ ∃ call, Describes params call
  mark_iff : r.mark? = some (.bool true) ↔ ∃ call, Describes params call ∧ call.Misses docs
  impact : ∀ id, Describes params (.impact id) → r.mark? = none
  code_ne : r.code? ≠ some (.int (-32603))

variable {docs : List Document} {r : Registry} {now : Moment} {call : Call} {params : Option Value}

/-- What is made from a document is marked exactly if there is none with the id. -/
theorem mark_onDocument (hdocs : r.collection = .ofList docs) (id : String)
    (answer : Document → Value) :
    (Call.onDocument r id answer).toJson.get? "isError" = some (.bool true) ∧
        (∀ doc ∈ docs, doc.id ≠ id) ∨
      (Call.onDocument r id answer).toJson.get? "isError" = none ∧ ¬∀ doc ∈ docs, doc.id ≠ id := by
  rw [Call.onDocument, hdocs, Collection.get?_ofList]
  cases hfind : Dependency.document? docs id with
  | none =>
    refine .inl ⟨rfl, fun doc hdoc heq => ?_⟩
    exact List.find?_eq_none.1 hfind doc hdoc (beq_iff_eq.2 heq)
  | some doc =>
    have hid := List.find?_some hfind
    exact .inr ⟨rfl, fun hne => hne doc (List.mem_of_find?_eq_some hfind) (eq_of_beq hid)⟩

/-- A call for an id is for a document that is not there if none has the id. -/
theorem Call.misses_iff {id : String} (h : call.sought? = some id) :
    call.Misses docs ↔ ∀ doc ∈ docs, doc.id ≠ id := by
  simp only [Misses, h, Option.some.injEq, exists_eq_left']

/-- A call for no document is not for one that is not there. -/
theorem Call.not_misses (h : call.sought? = none) : ¬call.Misses docs := by
  rintro ⟨id, hid, -⟩
  cases h.symm.trans hid

/-- A result is marked exactly if the call is for a document that is not there. -/
theorem mark_run (hdocs : r.collection = .ofList docs) (now : Moment) (call : Call) :
    (call.run r now).toJson.get? "isError" = some (.bool true) ∧ call.Misses docs ∨
      (call.run r now).toJson.get? "isError" = none ∧ ¬call.Misses docs := by
  cases call with
  | get id _ | similar id _ =>
    rw [Call.misses_iff rfl]
    exact mark_onDocument hdocs id _
  | validate id =>
    cases id with
    | none => exact .inr ⟨rfl, Call.not_misses rfl⟩
    | some id =>
      rw [Call.misses_iff rfl]
      exact mark_onDocument hdocs id _
  | _ => exact .inr ⟨rfl, Call.not_misses rfl⟩

namespace Server

/-- What a server promises of calls, at whatever moment they are answered. -/
structure AnswersCalls (s : Server) (docs : List Document) : Prop where
  /-- Whatever is read has its parameters in order. -/
  ordered : ∀ text r, Request.read text = .ok r → r.HasOrdered
  answered : ∀ now version id params, (∀ v, params = some v → v.IsOrdered) →
    ∃ r, s.respond now ⟨version, some id, "tools/call", params⟩ = some r ∧ r.id = id.toJson ∧
      AnswersCall docs params r
  /-- Arguments that are left out or `null` are empty ones. -/
  emptied : ∀ now version id {members : Members}, members.Ascending →
    members.get? "arguments" = none ∨ members.get? "arguments" = some .null →
    s.respond now ⟨version, some id, "tools/call", some (.object members)⟩ =
      s.respond now
        ⟨version, some id, "tools/call", some (.object (members.put "arguments" (.object [])))⟩
  emptiedItem : ∀ now version id tool rest,
    s.respond now ⟨version, some id, "tools/call", some (.array (tool :: .null :: rest))⟩ =
      s.respond now ⟨version, some id, "tools/call", some (.array (tool :: .object [] :: rest))⟩
  emptiedEnd : ∀ now version id tool,
    s.respond now ⟨version, some id, "tools/call", some (.array [tool])⟩ =
      s.respond now ⟨version, some id, "tools/call", some (.array [tool, .object []])⟩

variable {s : Server} {version : String} {id : Id}

/-- A call is carried out if it is read; what is wrong with its parameters is an error of
protocol. -/
theorem carryOut_call (s : Server) (now : Moment) (version : String) (id : Option Id)
    (params : Option Value) : s.carryOut now ⟨version, id, "tools/call", params⟩ =
      ((readCall params).mapError .protocol).map fun call =>
        .result (call.run s.registry now).toJson := by
  show ((readCall params).mapError RequestError.protocol >>= fun call =>
    pure (Outcome.result (call.run s.registry now).toJson)) = _
  cases readCall params <;> rfl

/-- A request for a tool with parameters that describe no call is refused as invalid. -/
theorem respond_of_readCall_eq_error {e : ProtocolError} (h : readCall params = .error e) :
    s.respond now ⟨version, some id, "tools/call", params⟩ =
      some ⟨id.toJson, .failure .invalidParams e.message⟩ := by
  rw [respond, carryOut_call, h]
  rfl

/-- A request for a tool is answered with the result of the call. -/
theorem respond_of_readCall_eq_ok (h : readCall params = .ok call) :
    s.respond now ⟨version, some id, "tools/call", params⟩ =
      some ⟨id.toJson, .result (call.run s.registry now).toJson⟩ := by
  rw [respond, carryOut_call, h]
  rfl

/-- Parameters that are read alike are answered alike. -/
theorem respond_congr {params' : Option Value} (h : readCall params = readCall params') :
    s.respond now ⟨version, some id, "tools/call", params⟩ =
      s.respond now ⟨version, some id, "tools/call", params'⟩ := by
  cases hread : readCall params with
  | error e => rw [respond_of_readCall_eq_error hread, respond_of_readCall_eq_error (h ▸ hread)]
  | ok call => rw [respond_of_readCall_eq_ok hread, respond_of_readCall_eq_ok (h ▸ hread)]

/-- No parameters describe no call, and neither does `null`. -/
theorem not_describes : ¬Describes none call ∧ ¬Describes (some .null) call := by
  constructor
  · rintro ⟨_, _, _, ⟨⟩, -, -⟩
  · rintro ⟨_, _, _, ⟨⟩, hnames, -⟩
    cases hnames

/-- A call that is read is answered. -/
theorem exists_answersCall (hdocs : s.registry.collection = .ofList docs)
    (hparams : ∀ v, params = some v → v.IsOrdered) (now : Moment) (version : String) (id : Id) :
    ∃ r, s.respond now ⟨version, some id, "tools/call", params⟩ = some r ∧ r.id = id.toJson ∧
      AnswersCall docs params r := by
  cases hread : readCall params with
  | error e =>
    have hnone : ¬∃ call, Describes params call := by
      rintro ⟨call, hcall⟩
      cases hread.symm.trans ((readCall_eq_ok_iff hparams).2 hcall)
    refine ⟨_, respond_of_readCall_eq_error hread, rfl, ?_⟩
    constructor
    case code_iff => exact iff_of_true rfl (.inr (.inr hnone))
    case result_iff =>
      rw [Response.get?_result_failure]
      exact iff_of_false (by decide) hnone
    case mark_iff =>
      rw [Response.mark?_failure]
      exact iff_of_false nofun fun ⟨call, hcall, _⟩ => hnone ⟨call, hcall⟩
    case impact => exact fun _ _ => rfl
    case code_ne =>
      rw [Response.code?_failure]
      exact fun h => absurd (Value.int.inj (Option.some.inj h)) (by decide)
  | ok call =>
    have hcall := (readCall_eq_ok_iff hparams).1 hread
    have honly {call' : Call} (h : Describes params call') : call' = call :=
      Except.ok.inj (((readCall_eq_ok_iff hparams).2 h).symm.trans hread)
    refine ⟨_, respond_of_readCall_eq_ok hread, rfl, ?_⟩
    constructor
    case code_iff =>
      rw [Response.code?_result]
      refine iff_of_false nofun ?_
      rintro (rfl | rfl | hnone)
      · exact not_describes.1 hcall
      · exact not_describes.2 hcall
      · exact hnone ⟨call, hcall⟩
    case result_iff => exact iff_of_true rfl ⟨call, hcall⟩
    case mark_iff =>
      rw [Response.mark?_result]
      rcases mark_run hdocs now call with ⟨hmark, hmisses⟩ | ⟨hmark, hmisses⟩
      · exact iff_of_true hmark ⟨call, hcall, hmisses⟩
      · rw [hmark]
        exact iff_of_false nofun fun ⟨_, h, hmisses'⟩ => hmisses (honly h ▸ hmisses')
    case impact =>
      intro id h
      rw [Response.mark?_result, ← honly h]
      rfl
    case code_ne =>
      rw [Response.code?_result]
      nofun

/-- **Calls are answered.** -/
theorem answersCalls (registry : Registry) (docs : List Document) (wording : Wording) :
    AnswersCalls ⟨{ registry with collection := .ofList docs }, wording⟩ docs where
  ordered _ _ := Request.hasOrdered_of_read
  answered now version id _ hparams := exists_answersCall rfl hparams now version id
  emptied now version id members hmembers hnone := by
    refine respond_congr (readCall_object_congr hmembers hmembers.put ?_ ?_)
    · exact (Members.get?_put_of_ne (by decide)).symm
    · rw [Members.get?_put_self]
      rcases hnone with hnone | hnone <;> rw [hnone] <;> rfl
  emptiedItem now version id tool rest := respond_congr (readCall_array_null tool rest)
  emptiedEnd now version id tool := respond_congr (readCall_singleton tool)

end Server

end Dossier.Rpc
