import Dossier.Proofs.Json.Members
import Dossier.Proofs.Document.Field
import Dossier.Yaml.Value

/-!
# The entries of a mapping

The entries of a mapping are read one after another, each key and each value on its own, and no key
is read twice (`exists_areRead_of_isRead`). Among the members of the object that a mapping becomes,
a key that is a string finds the value of its entry, as long as no other key is written by the same
text (`exists_get?_of_entriesToJson`).
-/

namespace Dossier.Yaml.Value

variable {anchored : List (Nat × Node)} {room left left' : Nat} {n : Node} {v : Value}
  {tag : Option String} {entries : List (Node × Node)} {values done : List (Value × Value)}

/-! ## Reading entries -/

/-- A node that names a key: a scalar that stands for it, or an alias of one. -/
def Names (anchored : List (Nat × Node)) (n : Node) (key : String) : Prop :=
  ∃ tag plain text, localTag? tag = none ∧ ofScalarNode tag plain text = some (string key) ∧
    (n = .scalar tag plain text ∨ ∃ number, n = .reference number ∧
      anchored.lookup number = some (.scalar tag plain text))

/-- A node is read as a value where so many collections may lie within one another. -/
def IsRead (anchored : List (Nat × Node)) (room : Nat) (n : Node) (v : Value) : Prop :=
  ∃ left left', (ofNode anchored room n).run left = some (v, left')

/-- An entry is read after others. -/
def readEntry (anchored : List (Nat × Node)) (room : Nat) (done : List (Value × Value))
    (entry : Node × Node) :
    Expansion (List (Value × Value)) := do
  let k ← ofNode anchored room entry.1
  if done.any fun m => same k m.1 then failure
  return done ++ [(k, ← ofNode anchored room entry.2)]

/-- Entries whose keys are not the same. -/
def HaveDistinctKeys (values : List (Value × Value)) : Prop :=
  values.Pairwise fun earlier later => same later.1 earlier.1 = false

/-- A scalar without a local tag is read as what it stands for. -/
theorem run_ofNode_scalar {plain : Bool} {text : String} (htag : localTag? tag = none) :
    (ofNode anchored room (.scalar tag plain text)).run left =
      (ofScalarNode tag plain text).map (·, left) := by
  unfold ofNode
  cases hv : ofScalarNode tag plain text <;> simp [target, withTag, htag, hv]

/-- An alias stands for the node of its number. -/
theorem lookup_of_target {number mid : Nat} {m : Node}
    (h : (target anchored (.reference number)).run left = some (m, mid)) :
    anchored.lookup number = some m := by
  rw [target] at h
  by_cases hleft : left = 0
  · simp [hleft] at h
  · cases hn : anchored.lookup number with
    | none => simp [hn, hleft] at h
    | some n =>
      simp [hn, hleft] at h
      rw [h.1]

/-- A node that names a key is read as that string. -/
theorem eq_of_names {key : String} (h : Names anchored n key)
    (hread : (ofNode anchored room n).run left = some (v, left')) : v = string key := by
  obtain ⟨tag, plain, text, htag, hstands, rfl | ⟨number, rfl, hlookup⟩⟩ := h
  · rw [run_ofNode_scalar htag, hstands] at hread
    cases hread
    rfl
  · unfold ofNode at hread
    rw [StateT.run_bind] at hread
    obtain ⟨⟨m, mid⟩, htarget, hread⟩ := Option.bind_eq_some_iff.1 hread
    cases (lookup_of_target htarget).symm.trans hlookup
    simp [hstands, withTag, htag] at hread
    exact hread.1.symm

/-- An entry is added if its key is none of those before. -/
theorem exists_of_readEntry {entry : Node × Node} {result : List (Value × Value)}
    (h : (readEntry anchored room done entry).run left = some (result, left')) :
    ∃ k v, IsRead anchored room entry.1 k ∧ IsRead anchored room entry.2 v ∧
    result = done ++ [(k, v)] ∧
      ∀ m ∈ done, same k m.1 = false := by
  unfold readEntry at h
  rw [StateT.run_bind] at h
  obtain ⟨⟨k, mid⟩, hk, h⟩ := Option.bind_eq_some_iff.1 h
  cases hsame : done.any fun m => same k m.1 with
  | true => simp [hsame] at h
  | false =>
    simp only [hsame, Bool.false_eq_true, if_false, StateT.run_bind] at h
    obtain ⟨⟨v, last⟩, hv, h⟩ := Option.bind_eq_some_iff.1 h
    cases h
    exact ⟨k, v, ⟨_, _, hk⟩, ⟨_, _, hv⟩, rfl, by simpa using hsame⟩

/-- Entries are read each on its own and one after another, and none has the key of one before. -/
theorem exists_of_foldlM_readEntry {result : List (Value × Value)} (hdone : HaveDistinctKeys done)
    (h : (entries.foldlM (readEntry anchored room) done).run left = some (result, left')) :
    ∃ values, result = done ++ values ∧ HaveDistinctKeys (done ++ values) ∧
      List.Forall₂ (fun entry m => IsRead anchored room entry.1 m.1 ∧
      IsRead anchored room entry.2 m.2)
        entries values := by
  induction entries generalizing done left with
  | nil =>
    cases h
    exact ⟨[], (List.append_nil _).symm, by rwa [List.append_nil], .nil⟩
  | cons entry rest ih =>
    rw [List.foldlM_cons, StateT.run_bind] at h
    obtain ⟨⟨next, mid⟩, hentry, h⟩ := Option.bind_eq_some_iff.1 h
    obtain ⟨k, v, hk, hv, rfl, hnew⟩ := exists_of_readEntry hentry
    have hnext : HaveDistinctKeys (done ++ [(k, v)]) :=
      List.pairwise_append.2 ⟨hdone, List.pairwise_singleton .., fun m hm last hlast => by
        rw [List.mem_singleton.1 hlast]
        exact hnew m hm⟩
    obtain ⟨values, rfl, hdistinct, hvalues⟩ := ih hnext h
    rw [List.append_assoc, List.singleton_append] at hdistinct ⊢
    exact ⟨(k, v) :: values, rfl, hdistinct, .cons ⟨hk, hv⟩ hvalues⟩

/-- A local tag begins with an exclamation mark. -/
theorem toList_of_localTag? {name : List Char} (h : localTag? tag = some name) :
    (tag.getD "").toList = '!' :: name := by
  unfold localTag? at h
  split at h
  case h_1 => cases h
  case h_2 t =>
    split at h
    case h_1 hname =>
      cases h
      exact hname
    case h_2 => cases h

/-- A value is read as it is, or with a local tag around it. -/
theorem eq_of_withTag {w : Value} (h : (withTag tag v).run left = some (w, left')) :
    w = v ∨ ∃ mark name, mark.toList = '!' :: name ∧ w = tagged mark v := by
  unfold withTag at h
  split at h
  case h_1 =>
    cases h
    exact .inl rfl
  case h_2 => cases h
  case h_3 c name htag =>
    cases h
    exact .inr ⟨_, _, toList_of_localTag? htag, rfl⟩

/-- What is read of the entries of a mapping: keys that are not the same, each with its value. -/
structure AreRead (anchored : List (Nat × Node)) (entries : List (Node × Node))
    (values : List (Value × Value)) : Prop where
  distinct : HaveDistinctKeys values
  read : List.Forall₂
    (fun entry m => ∃ room, IsRead anchored room entry.1 m.1 ∧ IsRead anchored room entry.2 m.2)
    entries values

/-- What is read of an entry is among what is read. -/
theorem AreRead.exists_of_mem {k : Node} (h : AreRead anchored entries values)
    (hmem : (k, n) ∈ entries) :
    ∃ room m, m ∈ values ∧ IsRead anchored room k m.1 ∧ IsRead anchored room n m.2 := by
  obtain ⟨-, hread⟩ := h
  induction hread with
  | nil => exact absurd hmem List.not_mem_nil
  | cons hentry _ ih =>
    rcases List.mem_cons.1 hmem with rfl | hmem
    · obtain ⟨room, hkey, hvalue⟩ := hentry
      exact ⟨room, _, .head _, hkey, hvalue⟩
    · obtain ⟨room, m, hm, hkey, hvalue⟩ := ih hmem
      exact ⟨room, m, .tail _ hm, hkey, hvalue⟩

/-- A mapping is read entry by entry. -/
theorem exists_areRead_of_isRead (h : IsRead anchored room (.mapping tag entries) v) :
    ∃ values, AreRead anchored entries values ∧
      (v = mapping values ∨ ∃ mark name, mark.toList = '!' :: name ∧
        v = tagged mark (mapping values)) := by
  obtain ⟨left, left', h⟩ := h
  cases room with
  | zero =>
    rw [ofNode, target, pure_bind] at h
    · cases h
    · exact fun _ h => nomatch h
  | succ room =>
    have hrun : (ofNode anchored (room + 1) (.mapping tag entries)).run left =
        (entries.foldlM (readEntry anchored room) [] >>=
          fun values => withTag tag (mapping values)).run left := by
      rw [ofNode, target, pure_bind]
      · rfl
      · exact fun _ h => nomatch h
    rw [hrun, StateT.run_bind] at h
    obtain ⟨⟨values, mid⟩, hvalues, h⟩ := Option.bind_eq_some_iff.1 h
    obtain ⟨_, rfl, hdistinct, hread⟩ := exists_of_foldlM_readEntry .nil hvalues
    exact ⟨_, ⟨hdistinct, hread.imp fun _ _ hboth => ⟨room, hboth⟩⟩, eq_of_withTag h⟩

/-! ## Entries as members -/

/-- Entries whose keys are not written by a text leave what it finds as it is. -/
theorem get?_of_entriesToJson_of_ne {members before : Json.Members} {key : String}
    (hne : ∀ m ∈ values, keyText m.1 ≠ .ok key) (h : entriesToJson before values = .ok members) :
    members.get? key = before.get? key := by
  induction values generalizing before with
  | nil =>
    rw [entriesToJson] at h
    cases h
    rfl
  | cons m rest ih =>
    obtain ⟨k, v⟩ := m
    rw [entriesToJson] at h
    obtain ⟨text, htext, h⟩ := Json.exists_of_bind_eq_ok h
    obtain ⟨j, -, h⟩ := Json.exists_of_bind_eq_ok h
    have hkey : key ≠ text := by
      rintro rfl
      exact hne _ (.head _) htext
    rw [ih (fun m hm => hne m (.tail _ hm)) h, Json.Members.get?_put_of_ne hkey]

/-- A key that is a string finds the value of its entry, if no other kind of key is written by that
text. -/
theorem exists_get?_of_entriesToJson {members before : Json.Members} {key : String}
    (hdistinct : HaveDistinctKeys values) (honly : ∀ k, keyText k = .ok key → k = string key)
    (hv : (string key, v) ∈ values) (h : entriesToJson before values = .ok members) :
    ∃ j, v.toJson = .ok j ∧ members.get? key = some j := by
  induction values generalizing before with
  | nil => exact absurd hv List.not_mem_nil
  | cons m rest ih =>
    obtain ⟨hlater, hrest⟩ := List.pairwise_cons.1 hdistinct
    obtain ⟨k, w⟩ := m
    rw [entriesToJson] at h
    obtain ⟨text, htext, htail⟩ := Json.exists_of_bind_eq_ok h
    obtain ⟨j, hj, hset⟩ := Json.exists_of_bind_eq_ok htail
    rcases List.mem_cons.1 hv with heq | hv
    · cases heq
      cases htext
      refine ⟨j, hj, ?_⟩
      rw [get?_of_entriesToJson_of_ne ?_ hset, Json.Members.get?_put_self]
      intro later hmem hkey
      have hsame := hlater later hmem
      rw [honly _ hkey] at hsame
      simp [same] at hsame
    · exact ih hrest hv hset

end Dossier.Yaml.Value
