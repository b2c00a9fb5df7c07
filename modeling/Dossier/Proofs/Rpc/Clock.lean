import Dossier.Proofs.Query.Result
import Dossier.Proofs.Rpc.Answer

/-!
# What clocks are read for

A request is answered at a moment, but few answers tell of it: calls of two tools only do. A query
tells how many milliseconds it took, and statistics tell how old the documents are on the day
(`respond_query`, `respond_stats`). Everything else is answered alike at all moments
(`respond_eq_of_untimed`).
-/

namespace Dossier.Rpc

open Json

/-- A call whose answer tells what clocks show. -/
inductive Call.IsTimed : Call → Prop
  | query (options : Query.Options) : IsTimed (.query options)
  | stats : IsTimed .stats

/-- A request asks for a call. -/
structure Request.Asks (r : Request) (call : Call) : Prop where
  method : r.method = "tools/call"
  params : Describes r.params call

/-- A call that is not timed is answered alike at all moments. -/
theorem Call.run_eq_of_untimed {call : Call} (h : ¬call.IsTimed) (r : Registry)
    (now now' : Moment) : call.run r now = call.run r now' := by
  cases call with
  | query options => exact absurd (.query options) h
  | stats => exact absurd .stats h
  | validate id? => cases id? <;> rfl
  | _ => rfl

/-- Statistics tell of the day how old documents are, and nothing else. -/
theorem statistics_eq (r : Registry) (today day : Date) : Query.statistics r today =
    { Query.statistics r day with ages := r.documents.filterMap (Query.age? today) } := rfl

namespace Server

variable {s : Server} {r : Request} {now now' : Moment} {call : Call} {id : Id}

/-- A request for a call is answered with the result of the call. -/
theorem respond_of_asks (hr : r.HasOrdered) (hid : r.id = some id) (h : r.Asks call)
    (now : Moment) :
    s.respond now r = some ⟨id.toJson, .result (call.run s.registry now).toJson⟩ := by
  obtain ⟨version, _, method, params⟩ := r
  obtain rfl : method = "tools/call" := h.method
  subst hid
  exact respond_of_readCall_eq_ok ((readCall_eq_ok_iff hr).2 h.params)

/-- A request that asks for no timed call is answered alike at all moments. -/
theorem respond_eq_of_untimed (hr : r.HasOrdered) (h : ∀ call, r.Asks call → ¬call.IsTimed)
    (now now' : Moment) : s.respond now r = s.respond now' r := by
  have hcarry : s.carryOut now r = s.carryOut now' r := by
    obtain ⟨version, id, method, params⟩ := r
    by_cases hmethod : method = "tools/call"
    · subst hmethod
      rw [carryOut_call, carryOut_call]
      cases hread : readCall params with
      | error e => rfl
      | ok call =>
        have hasks : Request.Asks ⟨version, id, "tools/call", params⟩ call :=
          ⟨rfl, (readCall_eq_ok_iff hr).1 hread⟩
        show Except.ok (Outcome.result (call.run s.registry now).toJson) = _
        rw [Call.run_eq_of_untimed (h call hasks) s.registry now now']
        rfl
    · unfold carryOut
      dsimp only
      split
      case h_3 => exact absurd rfl hmethod
      all_goals rfl
  rw [respond, respond, hcarry]

/-- Of the moment the result of a query tells the milliseconds, and nothing else. -/
theorem respond_query {options : Query.Options} (hr : r.HasOrdered) (hid : r.id = some id)
    (h : r.Asks (.query options)) :
    ∃ result : Query.Result, ∀ now, s.respond now r = some ⟨id.toJson,
      .result (Call.Answer.value
        { result with milliseconds := now.milliseconds }.toJson).toJson⟩ :=
  ⟨Query.run s.registry options 0, fun now => respond_of_asks hr hid h now⟩

/-- Of the moment statistics tell how old documents are on the day, and nothing else. -/
theorem respond_stats (hr : r.HasOrdered) (hid : r.id = some id) (h : r.Asks .stats) :
    ∃ figures : Query.Statistics, ∀ now, s.respond now r = some ⟨id.toJson,
      .result (Call.Answer.value { figures with
        ages := s.registry.documents.filterMap (Query.age? now.today) }.toJson).toJson⟩ := by
  refine ⟨Query.statistics s.registry ⟨1970, 1, 1, by decide, by decide⟩, fun now => ?_⟩
  rw [← statistics_eq]
  exact respond_of_asks hr hid h now

end Server

end Dossier.Rpc
