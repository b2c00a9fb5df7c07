import Dossier.Proofs.Query.Options
import Dossier.Proofs.Rpc.Arguments

/-!
# What a call says

The parameters of a call are an object with the name of a tool and its arguments, or an array of
the two. Arguments that are left out, or are `null`, are empty ones. `Describes` says so tool by
tool, and a call is read from parameters exactly if they describe it (`readCall_eq_ok_iff`).
-/

namespace Dossier.Rpc

open Json

variable {v arguments : Value} {members : Members} {tool : String} {call : Call}

/-! ## Tools -/

/-- The arguments of a tool say a call of it. -/
inductive Call.IsSaid : String → Value → Call → Prop
  | query {v : Value} {options : Query.Options} (h : Query.Options.AreGivenBy v options) :
    IsSaid "bspec_query" v (.query options)
  | get {members : Members} {id : String} {includeContent : Bool}
    (hid : members.get? "id" = some (.string id))
    (hcontent : IsGiven IsTruth true (members.get? "includeContent") includeContent) :
    IsSaid "bspec_get" (.object members) (.get id includeContent)
  | graph (members : Members) : IsSaid "bspec_graph" (.object members) .graph
  | impact {members : Members} {id : String} (hid : members.get? "id" = some (.string id)) :
    IsSaid "bspec_impact" (.object members) (.impact id)
  | chains (members : Members) : IsSaid "bspec_chains" (.object members) .chains
  | similar {members : Members} {id : String} {limit : Option Nat}
    (hid : members.get? "id" = some (.string id))
    (hlimit : IsGiven (OrNull IsSize) none (members.get? "limit") limit) :
    IsSaid "bspec_similar" (.object members) (.similar id limit)
  | stats (members : Members) : IsSaid "bspec_stats" (.object members) .stats
  | validate {members : Members} {id : Option String}
    (hid : IsGiven (OrNull IsText) none (members.get? "id") id) :
    IsSaid "bspec_validate" (.object members) (.validate id)
  | criticalPath (members : Members) : IsSaid "bspec_critical_path" (.object members) .criticalPath
  | recommendations (members : Members) :
      IsSaid "bspec_recommendations" (.object members) .recommendations

namespace Call

/-- A call that is decoded is what the arguments say. -/
theorem isSaid_of_decode (hv : v.IsOrdered) (h : decode tool v = .ok call) :
    IsSaid tool v call := by
  unfold decode at h
  split at h
  case h_1 =>
    obtain ⟨options, hoptions, rfl⟩ := exists_of_map_eq_ok h
    exact .query ((Query.Options.ofArguments_eq_ok_iff hv).1 hoptions)
  case h_2 =>
    obtain ⟨a, ha, ⟨⟩⟩ := exists_of_bind_eq_ok h
    obtain ⟨members, rfl, hset, hrequired⟩ := decodeArguments_eq_ok_iff.1 ha
    have hid :=
      fills_id ("includeContent", setIncludeContent) keeps_setIncludeContent_id (by decide)
    exact .get (get?_id_of_setArguments hv.ascending hid hset (hrequired _ (.head _)))
      (isGiven_of_setArguments hv.ascending fills_includeContent hset)
  case h_4 =>
    obtain ⟨a, ha, ⟨⟩⟩ := exists_of_bind_eq_ok h
    obtain ⟨members, rfl, hset, hrequired⟩ := decodeArguments_eq_ok_iff.1 ha
    exact .impact (get?_id_of_setArguments hv.ascending (.only isRequired_of_setId) hset
      (hrequired _ (.head _)))
  case h_6 =>
    obtain ⟨a, ha, ⟨⟩⟩ := exists_of_bind_eq_ok h
    obtain ⟨members, rfl, hset, hrequired⟩ := decodeArguments_eq_ok_iff.1 ha
    have hid := fills_id ("limit", setLimit) keeps_setLimit_id (by decide)
    exact .similar (get?_id_of_setArguments hv.ascending hid hset (hrequired _ (.head _)))
      (isGiven_of_setArguments hv.ascending fills_limit hset)
  case h_8 =>
    obtain ⟨a, ha, ⟨⟩⟩ := exists_of_bind_eq_ok h
    obtain ⟨members, rfl, hset, -⟩ := decodeArguments_eq_ok_iff.1 ha
    exact .validate (isGiven_of_setArguments hv.ascending fills_optionalId hset)
  case h_11 => cases h
  all_goals
    obtain ⟨_, hnone, rfl⟩ := exists_of_map_eq_ok h
    obtain ⟨members, rfl⟩ := decodeNone_eq_ok_iff.1 hnone
    constructor

/-- Arguments of a tool are decoded if its setters accept them and what is required is there. -/
theorem exists_decodeArguments (hmembers : members.Ascending) {name : String}
    {required : List String} (haccept : Accepts setters members)
    (hrequired : ∀ key ∈ required, (members.get? key).isSome = true) :
    ∃ a, setArguments setters {} members = .ok a ∧
      decodeArguments name setters required (.object members) = .ok a := by
  obtain ⟨a, ha⟩ := haccept.exists_setArguments hmembers
  exact ⟨a, ha, decodeArguments_eq_ok_iff.2 ⟨members, rfl, ha, hrequired⟩⟩

/-- An id that must be given is there. -/
theorem requires_id {id : String} (hid : members.get? "id" = some (.string id)) :
    ∀ key ∈ ["id"], (members.get? key).isSome = true :=
  List.forall_mem_singleton.2 (by rw [hid]; rfl)

/-- An id that is a text is accepted. -/
theorem accepts_id {id : String} (hid : members.get? "id" = some (.string id)) :
    ∀ v, members.get? "id" = some v → ∀ a, ∃ a', setId a v = .ok a' := by
  intro v hv a
  exact ⟨_, setId_eq_ok_iff.2 ⟨id, Option.some.inj (hv.symm.trans hid), rfl⟩⟩

/-- What is said of a field that may be left out is accepted if its setter accepts what says it. -/
theorem accepts_of_isGiven {α : Type} {Is : Value → α → Prop} {default content : α} {key : String}
    {set : Setter} (hgiven : IsGiven Is default (members.get? key) content)
    (haccept : ∀ a v, Is v content → ∃ a', set a v = .ok a') :
    ∀ v, members.get? key = some v → ∀ a, ∃ a', set a v = .ok a' := by
  intro v hv a
  rw [hv] at hgiven
  cases hgiven with
  | given h => exact haccept a v h

/-- An id and one more field, which may be left out, are decoded to what is said of them. -/
theorem exists_decodeArguments_id (hmembers : members.Ascending) {α : Type}
    {Is : Value → α → Prop} {field : Arguments → α} {content : α} {id key : String}
    (name : String) (set : Setter) (hid : members.get? "id" = some (.string id))
    (hgiven : IsGiven Is (field {}) (members.get? key) content)
    (hfillsId : Fills [("id", setId), (key, set)] "id" (·.id) IsRequired)
    (hfills : Fills [("id", setId), (key, set)] key field Is)
    (haccept : ∀ a v, Is v content → ∃ a', set a v = .ok a')
    (hunique : ∀ {v a a'}, Is v a → Is v a' → a = a') :
    ∃ a, decodeArguments name [("id", setId), (key, set)] ["id"] (.object members) = .ok a ∧
      a.id.getD "" = id ∧ field a = content := by
  have haccepts : Accepts [("id", setId), (key, set)] members :=
    List.forall_mem_cons.2
      ⟨accepts_id hid, List.forall_mem_singleton.2 (accepts_of_isGiven hgiven haccept)⟩
  obtain ⟨a, hset, hdecode⟩ := exists_decodeArguments hmembers haccepts (requires_id hid)
  have hfield := isGiven_of_setArguments hmembers hfills hset
  exact ⟨a, hdecode, id_of_setArguments hmembers hfillsId hset hid,
    hfield.unique hunique hgiven⟩

/-- What arguments say is decoded. -/
theorem decode_of_isSaid (hv : v.IsOrdered) (h : IsSaid tool v call) :
    decode tool v = .ok call := by
  cases h with
  | query hoptions =>
    rw [decode, (Query.Options.ofArguments_eq_ok_iff hv).2 hoptions]
    rfl
  | get hid hcontent =>
    obtain ⟨a, hdecode, rfl, rfl⟩ :=
      exists_decodeArguments_id hv.ascending "Get" setIncludeContent hid hcontent
        (fills_id _ keeps_setIncludeContent_id (by decide)) fills_includeContent
        (fun _ _ h => ⟨_, setIncludeContent_eq_ok_iff.2 ⟨_, h, rfl⟩⟩)
        (Decoder.unique Decoder.boolean_eq_ok_iff)
    rw [decode, hdecode]
    rfl
  | @impact members id hid =>
    have haccept : Accepts [("id", setId)] members := List.forall_mem_singleton.2 (accepts_id hid)
    obtain ⟨a, hset, hdecode⟩ := exists_decodeArguments hv.ascending haccept (requires_id hid)
    obtain rfl := id_of_setArguments hv.ascending (.only isRequired_of_setId) hset hid
    rw [decode, hdecode]
    rfl
  | similar hid hlimit =>
    obtain ⟨a, hdecode, rfl, rfl⟩ :=
      exists_decodeArguments_id hv.ascending "Similar" setLimit hid hlimit
        (fills_id _ keeps_setLimit_id (by decide)) fills_limit
        (fun _ _ h => ⟨_, setLimit_eq_ok_iff.2 ⟨_, h, rfl⟩⟩)
        (Decoder.unique Decoder.option_size_eq_ok_iff)
    rw [decode, hdecode]
    rfl
  | @validate members id hid =>
    have haccept : Accepts [("id", setOptionalId)] members :=
      List.forall_mem_singleton.2 <| accepts_of_isGiven hid fun _ _ h =>
        ⟨_, setOptionalId_eq_ok_iff.2 ⟨id, h, rfl⟩⟩
    obtain ⟨a, hset, hdecode⟩ :=
      exists_decodeArguments hv.ascending haccept (List.forall_mem_nil _)
    have hset' := isGiven_of_setArguments hv.ascending fills_optionalId hset
    obtain rfl := hset'.unique (Decoder.unique Decoder.option_string_eq_ok_iff) hid
    rw [decode, hdecode]
    rfl
  | graph members | chains members | stats members | criticalPath members
  | recommendations members =>
    rw [decode, decodeNone_eq_ok_iff.2 ⟨members, rfl⟩]
    rfl

/-- **A call is decoded exactly if the arguments say it.** -/
theorem decode_eq_ok_iff (hv : v.IsOrdered) : decode tool v = .ok call ↔ IsSaid tool v call :=
  ⟨isSaid_of_decode hv, decode_of_isSaid hv⟩

end Call

/-! ## Parameters -/

/-- Parameters name a tool and give its arguments, or `null` for none. -/
inductive Names : Value → String → Value → Prop
  | object {members : Members} {tool : String}
    (htool : members.get? "name" = some (.string tool)) :
    Names (.object members) tool ((members.get? "arguments").getD .null)
  | tool (tool : String) : Names (.array [.string tool]) tool .null
  | both (tool : String) (arguments : Value) :
      Names (.array [.string tool, arguments]) tool arguments

/-- The arguments that are given, or empty ones in the place of `null`. -/
def orEmpty : Value → Value
  | .null => .object []
  | v => v

/-- Parameters describe a call. -/
def Describes (params : Option Value) (call : Call) : Prop :=
  ∃ v tool arguments, params = some v ∧ Names v tool arguments ∧
  Call.IsSaid tool (orEmpty arguments) call

/-- The name and the arguments are set from the members of these keys. -/
theorem setAll_eq (hmembers : members.Ascending) (p : CallParams) :
    CallParams.shape.setAll p members =
    ((members.get? "name").elim (.ok p.name) Decoder.string).map fun name =>
      ⟨name, (members.get? "arguments").getD p.arguments⟩ := by
  induction members generalizing p with
  | nil => rfl
  | cons first rest ih =>
    obtain ⟨key, v⟩ := first
    have hrest := ih (List.pairwise_cons.1 hmembers).2
    have hlater := hmembers.get?_rest_eq_none
    simp only [Members.get?_cons]
    by_cases hname : key = "name"
    · subst hname
      rw [if_pos rfl, if_neg (by decide)]
      show ((Decoder.string v >>= fun name => pure { p with name }) >>=
        fun p => CallParams.shape.setAll p rest) =
        (Decoder.string v).map _
      cases Decoder.string v with
      | error e => rfl
      | ok name =>
        show CallParams.shape.setAll { p with name } rest = _
        rw [hrest, hlater]
        rfl
    rw [if_neg (Ne.symm hname)]
    by_cases harguments : key = "arguments"
    · subst harguments
      rw [if_pos rfl]
      show CallParams.shape.setAll { p with arguments := v } rest = _
      rw [hrest, hlater]
      rfl
    · rw [if_neg (Ne.symm harguments), ← hrest]
      have hset : CallParams.shape.set p key v = .ok p := by simp only [CallParams.shape]
      show (CallParams.shape.set p key v >>= fun p => CallParams.shape.setAll p rest) = _
      rw [hset]
      rfl

/-- Parameters that are an object are decoded from two of its members. -/
theorem decode_object (hmembers : members.Ascending) :
    CallParams.shape.decode {} (.object members) =
    match members.get? "name" with
    | none => .error (.missingField "name")
    | some v => (Decoder.string v).map fun name =>
      ⟨name, (members.get? "arguments").getD .null⟩ := by
  show (CallParams.shape.setAll {} members >>= fun p => requireFields ["name"] members >>=
    fun _ => pure p) = _
  rw [setAll_eq hmembers]
  cases hname : members.get? "name" with
  | none =>
    have hmissing : requireFields ["name"] members = .error (.missingField "name") := by
      simp [requireFields, hname]
    show (requireFields ["name"] members >>= fun _ => pure _) = _
    rw [hmissing]
    rfl
  | some v =>
    have hthere : requireFields ["name"] members = .ok () :=
      Call.requireFields_eq_ok_iff.2 (List.forall_mem_singleton.2 (by rw [hname]; rfl))
    rw [hthere, Option.elim_some]
    dsimp only
    cases Decoder.string v <;> rfl

/-- Parameters that are an array are decoded from its first two items, and there are no more. -/
theorem decode_array (tool v : Value) (rest : List Value) :
    CallParams.shape.decode {} (.array (tool :: v :: rest)) =
    (Decoder.string tool).bind fun name =>
      if rest = [] then .ok ⟨name, v⟩
      else .error (.invalidLength (rest.length + 2) "fewer elements in array") := by
  cases tool <;> cases rest <;> rfl

/-- An array of the name alone gives no arguments. -/
theorem decode_singleton (tool : Value) : CallParams.shape.decode {} (.array [tool]) =
    (Decoder.string tool).map fun name => ⟨name, .null⟩ := by
  cases tool <;> rfl

/-- Parameters are decoded exactly if they name a tool. -/
theorem decode_eq_ok_iff_names (hv : v.IsOrdered) :
    CallParams.shape.decode {} v = .ok ⟨tool, arguments⟩ ↔ Names v tool arguments := by
  constructor
  · intro h
    cases v with
    | object members =>
      rw [decode_object hv.ascending] at h
      cases hname : Members.get? members "name" with
      | none => simp [hname] at h
      | some w =>
        rw [hname] at h
        obtain ⟨name, htool, ⟨⟩⟩ := exists_of_map_eq_ok h
        exact .object (hname.trans (congrArg some (Decoder.string_eq_ok_iff.1 htool)))
    | array items =>
      match items with
      | [] => cases h
      | [name] =>
        rw [decode_singleton] at h
        obtain ⟨_, htool, ⟨⟩⟩ := exists_of_map_eq_ok h
        obtain rfl := Decoder.string_eq_ok_iff.1 htool
        exact .tool tool
      | name :: w :: rest =>
        rw [decode_array] at h
        obtain ⟨_, htool, h⟩ := exists_of_bind_eq_ok h
        obtain rfl := Decoder.string_eq_ok_iff.1 htool
        split at h
        case isTrue hrest =>
          cases h
          rw [hrest]
          exact .both tool arguments
        case isFalse => cases h
    | _ => cases h
  · intro h
    cases h with
    | object htool =>
      rw [decode_object hv.ascending, htool]
      rfl
    | tool => exact decode_singleton _
    | both => exact decode_array _ _ []

/-- What is given in the place of arguments is in order. -/
theorem isOrdered_orEmpty (hv : v.IsOrdered) : (orEmpty v).IsOrdered := by
  cases hv with
  | null => exact .object .nil (List.forall_mem_nil _)
  | bool | int | float | string => constructor
  | array h => exact .array h
  | object hkeys h => exact .object hkeys h

/-- Arguments are in order if the parameters are. -/
theorem Names.isOrdered (h : Names v tool arguments) (hv : v.IsOrdered) : arguments.IsOrdered := by
  cases h with
  | @object members _ _ =>
    cases hv with
    | object _ hmembers =>
      cases hget : members.get? "arguments" with
      | none => exact .null
      | some v => exact hmembers _ (Members.mem_of_get? hget)
  | tool => exact .null
  | both =>
    cases hv with
    | array hitems => exact hitems _ (.tail _ (.head _))

/-- A call is read from its parameters, and then from its arguments. -/
theorem readCall_some (v : Value) : readCall (some v) =
    ((CallParams.shape.decode {} v).mapError .invalidParams >>= fun p =>
      (Call.decode p.name (orEmpty p.arguments)).mapError (.invalidArguments p.name)) := rfl

/-- Objects that give the same name and the same arguments are read alike. -/
theorem readCall_object_congr {members' : Members} (hmembers : members.Ascending)
    (hmembers' : members'.Ascending) (hname : members.get? "name" = members'.get? "name")
    (harguments : orEmpty ((members.get? "arguments").getD .null) =
      orEmpty ((members'.get? "arguments").getD .null)) :
    readCall (some (.object members)) = readCall (some (.object members')) := by
  rw [readCall_some, readCall_some, decode_object hmembers, decode_object hmembers', hname]
  cases members'.get? "name" with
  | none => rfl
  | some v =>
    dsimp only
    cases Decoder.string v with
    | error e => rfl
    | ok name =>
      show (Call.decode name (orEmpty _)).mapError _ = (Call.decode name (orEmpty _)).mapError _
      rw [harguments]

/-- In the place of arguments `null` is read like an empty object. -/
theorem readCall_array_null (tool : Value) (rest : List Value) :
    readCall (some (.array (tool :: .null :: rest))) =
      readCall (some (.array (tool :: .object [] :: rest))) := by
  cases tool <;> cases rest <;> rfl

/-- A name alone is read like one with an empty object. -/
theorem readCall_singleton (tool : Value) :
    readCall (some (.array [tool])) = readCall (some (.array [tool, .object []])) := by
  cases tool <;> rfl

/-- **A call is read exactly from the parameters that describe it.** -/
theorem readCall_eq_ok_iff {params : Option Value} (hparams : ∀ v, params = some v → v.IsOrdered) :
    readCall params = .ok call ↔ Describes params call := by
  constructor
  · intro h
    cases params with
    | none => cases h
    | some v =>
      have hv := hparams v rfl
      rw [readCall_some] at h
      obtain ⟨⟨tool, arguments⟩, hnames, h⟩ := exists_of_bind_eq_ok h
      have hnames := (decode_eq_ok_iff_names hv).1 (eq_ok_of_mapError_eq_ok hnames)
      have hsaid := (Call.decode_eq_ok_iff (isOrdered_orEmpty (hnames.isOrdered hv))).1
        (eq_ok_of_mapError_eq_ok h)
      exact ⟨v, tool, arguments, rfl, hnames, hsaid⟩
  · rintro ⟨v, tool, arguments, rfl, hnames, hsaid⟩
    have hv := hparams v rfl
    rw [readCall_some, (decode_eq_ok_iff_names hv).2 hnames]
    show (Call.decode tool (orEmpty arguments)).mapError _ = _
    rw [(Call.decode_eq_ok_iff (isOrdered_orEmpty (hnames.isOrdered hv))).2 hsaid]
    rfl

end Dossier.Rpc
