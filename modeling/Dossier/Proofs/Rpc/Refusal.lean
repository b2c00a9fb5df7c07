import Mathlib.Algebra.Group.Int.Defs
import Dossier.Proofs.Json.Record
import Dossier.Proofs.Rpc.Server

/-!
# Which lines are refused

A line is decoded as a request while it is read, so there is one refusal for two faults: a line
that is no JSON and a line that is JSON but no request are both answered with a parse error
(`refusesAlike_processLine`). Which of the two it is is told apart here by the grammar of JSON and
the form of requests, neither of which speaks of decoding.
-/

namespace Dossier.Rpc

open Json

variable {v : Value} {key : String} {d : Draft} {r : Request}

/-! ## The form of requests -/

namespace Request

/-- The values that the fields of a request may have: an id is a string or a whole number of 64
bits with sign, or `null`, parameters may be anything, and what is left are strings. -/
def Admits (key : String) (v : Value) : Prop :=
  match key with
  | "id" => v = .null ∨ (∃ s, v = .string s) ∨ ∃ n : Int, v = .int n ∧ -2 ^ 63 ≤ n ∧ n < 2 ^ 63
  | "params" => True
  | _ => ∃ s, v = .string s

/-- What fits a field is a value that it may have. -/
def Fits (key : String) (d : Draft) : Prop :=
  ∃ v, d.toValue (depthLimit - 1) = .ok v ∧ Admits key v

/-- An id is decoded from the values that it may have. -/
theorem exists_id_iff : (∃ id?, Decoder.option Id.ofJson v = .ok id?) ↔ Admits "id" v := by
  cases v with
  | null => exact iff_of_true ⟨none, rfl⟩ (.inl rfl)
  | string s => exact iff_of_true ⟨some (.text s), rfl⟩ (.inr (.inl ⟨s, rfl⟩))
  | int n =>
    have hcount : (Decimal.positiveCount : Int) = 2 ^ 63 := by decide +kernel
    by_cases hn : -2 ^ 63 ≤ n ∧ n < 2 ^ 63
    · refine iff_of_true ⟨some (.number n), ?_⟩ (.inr (.inr ⟨n, rfl, hn⟩))
      change (Id.ofJson (.int n)).map some = _
      rw [Id.ofJson, hcount, if_pos (by simpa using hn)]
      rfl
    · refine iff_of_false ?_ ?_
      · rintro ⟨id?, h⟩
        change (Id.ofJson (.int n)).map some = _ at h
        rw [Id.ofJson, hcount, if_neg (by simpa using hn)] at h
        cases h
      · rintro (h | ⟨s, h⟩ | ⟨n, ⟨⟩, hn'⟩)
        · cases h
        · cases h
        · exact hn hn'
  | _ =>
    refine iff_of_false (fun ⟨_, h⟩ => nomatch h) ?_
    rintro (h | ⟨_, h⟩ | ⟨_, h, -⟩) <;> cases h

/-- So an id is set from them. -/
theorem exists_set_id_iff : (∃ r', r.set "id" v = .ok r') ↔ Admits "id" v := by
  rw [← exists_id_iff]
  constructor
  · rintro ⟨r', h⟩
    obtain ⟨id?, hid, -⟩ := exists_of_bind_eq_ok h
    exact ⟨id?, hid⟩
  · rintro ⟨id?, hid⟩
    refine ⟨{ r with id := id? }, ?_⟩
    change (Decoder.option Id.ofJson v >>= _) = _
    rw [hid]
    rfl

/-- Parameters are set from any value. -/
theorem exists_set_params_iff : (∃ r', r.set "params" v = .ok r') ↔ Admits "params" v := by
  refine iff_of_true ?_ trivial
  cases v <;> exact ⟨_, rfl⟩

/-- A draft whose value is a string is that string. -/
theorem eq_string_of_toValue {room : Nat} {s : String} (hd : d.IsPlain)
    (h : d.toValue room = .ok (.string s)) : d = .string (.ok s) := by
  cases hd with
  | null | bool | unreadable => cases h
  | number hn => cases hn _ h
  | string s' =>
    obtain ⟨s', rfl, ⟨⟩⟩ := exists_of_map_eq_ok h
    rfl
  | array | object =>
    cases room with
    | zero => cases h
    | succ room =>
      obtain ⟨_, -, h⟩ := exists_of_bind_eq_ok h
      obtain ⟨_, -, ⟨⟩⟩ := exists_of_bind_eq_ok h

/-- The version and the method are accepted if they are strings. -/
theorem exists_setDraft_iff (hkey : key = "jsonrpc" ∨ key = "method") (hd : d.IsPlain) :
    (∃ r', setDraft r key d = .ok r') ↔
      ∃ v, d.toValue (depthLimit - 1) = .ok v ∧ ∃ s, v = .string s := by
  constructor
  · rintro ⟨r', h⟩
    unfold setDraft at h
    split at h
    case h_1 | h_2 => rcases hkey with hkey | hkey <;> exact absurd hkey (by decide)
    case h_3 => exact ⟨_, rfl, _, rfl⟩
    case h_4 => cases h
  · rintro ⟨_, hv, s, rfl⟩
    obtain rfl := eq_string_of_toValue hd hv
    rcases hkey with rfl | rfl
    · exact ⟨{ r with version := s }, rfl⟩
    · exact ⟨{ r with method := s }, rfl⟩

/-- What fits a field of a request is accepted there. -/
theorem accepts_setDraft : shape.Accepts setDraft Fits where
  exists_set_iff r {key d} hkey hd := by
    simp only [shape, List.mem_cons, List.not_mem_nil, or_false] at hkey
    rcases hkey with rfl | rfl | rfl | rfl
    · exact exists_setDraft_iff (.inl rfl) hd
    · exact Shape.exists_setInner_iff.trans
        (exists_congr fun v => and_congr_right fun _ => exists_set_id_iff)
    · exact exists_setDraft_iff (.inr rfl) hd
    · exact Shape.exists_setInner_iff.trans
        (exists_congr fun v => and_congr_right fun _ => exists_set_params_iff)
  skip := by
    rintro key d ⟨v, hv, -⟩
    exact Draft.skip_of_toValue hv

/-- A request is JSON text that has the form of one. -/
def IsRequest (text : String) : Prop := IsJson text ∧ shape.IsRecord Fits (Draft.read text).value

/-- Requests are what is read as such. -/
theorem exists_read_iff (text : String) : (∃ r, read text = .ok r) ↔ IsRequest text :=
  Shape.exists_read_iff accepts_setDraft {} text

end Request

namespace Server

variable {s : Server} {now : Moment} {code : Code} {message : String}

/-- A request whose carrying out ends in a failure has a method that is not known. -/
theorem eq_methodNotFound_of_carryOut (h : s.carryOut now r = .ok (.failure code message)) :
    code = .methodNotFound := by
  unfold carryOut at h
  split at h
  case h_1 => obtain ⟨v, -, ⟨⟩⟩ := exists_of_map_eq_ok (eq_ok_of_mapError_eq_ok h)
  case h_2 => cases h
  case h_3 => obtain ⟨call, -, ⟨⟩⟩ := exists_of_bind_eq_ok h
  case h_4 => cases h
  case h_5 =>
    cases h
    rfl

/-- A request that is not carried out has wrong parameters: no error of another kind comes up. -/
theorem exists_protocol_of_carryOut {e : RequestError} (h : s.carryOut now r = .error e) :
    ∃ cause, e = .protocol cause := by
  unfold carryOut at h
  split at h
  case h_1 =>
    cases hgreet : greet r.params <;> rw [hgreet] at h <;> cases h
    exact ⟨_, rfl⟩
  case h_3 =>
    cases hread : readCall r.params <;> rw [hread] at h <;> cases h
    exact ⟨_, rfl⟩
  all_goals cases h

/-- So a request fails in one of two ways. -/
theorem code_of_respond {response : Response} (h : s.respond now r = some response)
    (hfailure : response.outcome = .failure code message) :
    code = .methodNotFound ∨ code = .invalidParams := by
  obtain ⟨id, -, rfl⟩ := Option.map_eq_some_iff.1 h
  split at hfailure
  case h_1 outcome hcarry =>
    change outcome = _ at hfailure
    subst hfailure
    exact .inl (eq_methodNotFound_of_carryOut hcarry)
  case h_2 e hcarry =>
    obtain ⟨cause, rfl⟩ := exists_protocol_of_carryOut hcarry
    cases hfailure
    exact .inr rfl

/-- How lines are refused, at whatever moment. -/
structure RefusesAlike (s : Server) : Prop where
  /-- A line is answered with a parse error if it is not blank, and what trimming leaves of it is
  no request. -/
  parseError_iff : ∀ now ready line,
    (∃ id message, (s.processLine now ready line).1 = some ⟨id, .failure .parseError message⟩) ↔
      Text.isAllBlank line = false ∧ ¬ Request.IsRequest (Text.trim line)
  /-- No line is answered as JSON that is no request. -/
  number_ne : ∀ now ready line id code message,
    (s.processLine now ready line).1 = some ⟨id, .failure code message⟩ → code.number ≠ -32600

/-- **Lines that are no JSON and lines that are no requests are refused alike.** -/
theorem refusesAlike_processLine (s : Server) : s.RefusesAlike where
  parseError_iff now ready line := by
    rw [← Request.exists_read_iff, processLine_fst]
    cases hread : Request.read (Text.trim line) with
    | ok r =>
      rw [answer_of_read hread]
      refine iff_of_false ?_ fun h => h.2 ⟨r, rfl⟩
      rintro ⟨id, message, h⟩
      rcases code_of_respond h rfl with h | h <;> cases h
    | error e =>
      rw [answer_of_unread hread]
      cases Text.isAllBlank line
      · exact iff_of_true ⟨_, _, rfl⟩ ⟨rfl, nofun⟩
      · exact iff_of_false nofun nofun
  number_ne now ready line id code message h := by
    rw [processLine_fst] at h
    cases hread : Request.read (Text.trim line) with
    | ok r =>
      rw [answer_of_read hread] at h
      rcases code_of_respond h rfl with rfl | rfl <;> decide
    | error e =>
      rw [answer_of_unread hread] at h
      split at h
      · cases h
      · cases h
        decide

/-- **A line that is JSON but no request is answered as if it were no JSON.** It lacks the
method. -/
theorem parseError_noMethod :
    let line := "\x7b\"jsonrpc\":\"2.0\",\"id\":7\x7d"
    IsJson line ∧ ∀ (s : Server) (now : Moment),
      ∃ message, s.answer now line = some ⟨.int 7, .failure .parseError message⟩ := by
  intro line
  refine ⟨isJson_iff.2 (by decide +kernel), fun s now => ?_⟩
  have hunread : (Request.read (Text.trim line)).toOption.isNone = true := by decide +kernel
  cases hread : Request.read (Text.trim line) with
  | ok r =>
    rw [hread] at hunread
    cases hunread
  | error e =>
    have hblank : Text.isAllBlank line = false := by decide +kernel
    have hsize : (Decoder.size (recoverId (Text.trim line))).toOption = some 7 := by decide +kernel
    obtain ⟨hid, -⟩ := Decoder.size_eq_ok_iff.1 (eq_ok_of_toOption_eq_some hsize)
    rw [answer_of_unread hread, hblank, hid]
    exact ⟨_, rfl⟩

end Server

end Dossier.Rpc
