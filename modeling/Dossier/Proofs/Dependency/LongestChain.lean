import Dossier.Dependency.Trace
import Dossier.Proofs.Dependency.Walk

/-!
# Laws of the longest chain

`chainFrom` looks at every path. What it answers is a trail, a walk that meets no id of its way
twice, its last id aside (`isTrail_chainFrom`), and no trail is longer (`length_le_chainFrom`).

Two laws say what the answer does not depend on. A chain that fits into the room was not cut, so it
is the answer in any room it fits into (`chainFrom_eq_of_length_le`). From a grounded id no walk
comes back to the way to it, so the way does not matter (`Grounded.chainFrom_eq`), and where a walk
leads no chain is longer (`Grounded.length_chainFrom_le_of_leadsTo`).
-/

namespace Dossier.Dependency

variable {docs : List Document} {room room' : Nat} {path path' : List String} {id target : String}

/-! ## The longest of several chains -/

/-- The longer of two chains, the first of equally long ones. -/
def longer (best chain : List String) : List String :=
  if chain.length > best.length then chain else best

theorem longest_eq_foldl (chains : List (List String)) :
    longest chains = chains.foldl longer [] := rfl

/-- The longer of two chains has the greater of their lengths. -/
theorem length_longer (best chain : List String) :
    (longer best chain).length = max best.length chain.length := by
  unfold longer
  split <;> omega

/-- The longest of several chains is the one started with, or the first of them that no other is
longer than: those before it and the one started with are shorter. -/
theorem foldl_longer_split (chains : List (List String)) (best : List String) :
    chains.foldl longer best = best ∨
      ∃ before after, chains = before ++ chains.foldl longer best :: after ∧
        ∀ chain ∈ best :: before, chain.length < (chains.foldl longer best).length := by
  induction chains generalizing best with
  | nil => exact .inl rfl
  | cons next rest ih =>
    rw [List.foldl_cons]
    rcases ih (longer best next) with h | ⟨before, after, hrest, hshorter⟩
    · rw [h, longer]
      split
      case isTrue hlt => exact .inr ⟨[], rest, rfl, by simpa using hlt⟩
      case isFalse => exact .inl rfl
    · obtain ⟨hlonger, hbefore⟩ := List.forall_mem_cons.1 hshorter
      rw [length_longer] at hlonger
      refine .inr ⟨next :: before, after, congrArg (next :: ·) hrest, ?_⟩
      rw [List.forall_mem_cons, List.forall_mem_cons]
      exact ⟨by omega, by omega, hbefore⟩

/-- The longest of several chains is as long as each of them and the one started with. -/
theorem length_le_foldl_longer (chains : List (List String)) (best : List String) :
    ∀ chain ∈ best :: chains, chain.length ≤ (chains.foldl longer best).length := by
  induction chains generalizing best with
  | nil => simp
  | cons next rest ih =>
    intro chain hchain
    have hstart := ih (longer best next) (longer best next) (.head _)
    rw [length_longer] at hstart
    rw [List.foldl_cons]
    rcases List.mem_cons.1 hchain with rfl | hchain
    · exact (Nat.le_max_left _ _).trans hstart
    rcases List.mem_cons.1 hchain with rfl | hchain
    · exact (Nat.le_max_right _ _).trans hstart
    · exact ih (longer best next) chain (.tail _ hchain)

/-- The longest of some chains is the first of those that no other is longer than. -/
theorem longest_split {chains : List (List String)} (h : longest chains ≠ []) :
    ∃ before after, chains = before ++ longest chains :: after ∧
      ∀ chain ∈ before, chain.length < (longest chains).length := by
  obtain ⟨before, after, hchains, hshorter⟩ := (foldl_longer_split chains []).resolve_left h
  exact ⟨before, after, hchains, fun chain hchain => hshorter chain (.tail _ hchain)⟩

/-- The longest of some chains is one of them. -/
theorem longest_mem {chains : List (List String)} (h : longest chains ≠ []) :
    longest chains ∈ chains := by
  obtain ⟨before, after, hchains, -⟩ := longest_split h
  have hmem : longest chains ∈ before ++ longest chains :: after := by simp
  rwa [← hchains] at hmem

/-- No chain is longer than the longest. -/
theorem length_le_longest {chains : List (List String)} {chain : List String}
    (h : chain ∈ chains) : chain.length ≤ (longest chains).length :=
  length_le_foldl_longer chains [] chain (.tail _ h)

/-! ## One step of a chain -/

/-- A chain that comes back to its path ends there. -/
theorem chainFrom_of_mem (h : id ∈ path) : chainFrom docs room path id = [id] := by
  cases room with
  | zero => rfl
  | succ room => simp [chainFrom, h]

/-- A chain goes on with the longest chain from a target. -/
theorem chainFrom_succ (h : id ∉ path) :
    chainFrom docs (room + 1) path id =
      id :: longest ((targets docs id).map (chainFrom docs room (id :: path))) := by
  simp [chainFrom, h]

/-- A chain starts with its id. -/
theorem exists_chainFrom_eq_cons (docs : List Document) (room : Nat) (path : List String)
    (id : String) : ∃ rest, chainFrom docs room path id = id :: rest := by
  by_cases h : id ∈ path
  · exact ⟨[], chainFrom_of_mem h⟩
  · cases room with
    | zero => exact ⟨[], rfl⟩
    | succ room => exact ⟨_, chainFrom_succ h⟩

/-- What a chain can be: just its id, which is met again, has no targets or is cut, or its id and
then the chain of a target, which is as long as that of any other. -/
theorem chainFrom_cases (docs : List Document) (room : Nat) (path : List String) (id : String) :
    (chainFrom docs room path id = [id] ∧ (id ∈ path ∨ targets docs id = [] ∨ room = 0)) ∨
    ∃ r target, room = r + 1 ∧ id ∉ path ∧ DependsOn docs id target ∧
      chainFrom docs room path id = id :: chainFrom docs r (id :: path) target ∧
      ∀ other ∈ targets docs id, (chainFrom docs r (id :: path) other).length ≤
        (chainFrom docs r (id :: path) target).length := by
  by_cases hmem : id ∈ path
  · exact .inl ⟨chainFrom_of_mem hmem, .inl hmem⟩
  cases room with
  | zero => exact .inl ⟨rfl, .inr (.inr rfl)⟩
  | succ r =>
    rw [chainFrom_succ hmem]
    cases ht : targets docs id with
    | nil => exact .inl ⟨rfl, .inr (.inl rfl)⟩
    | cons first rest =>
      rw [← ht]
      have hle : ∀ other ∈ targets docs id, (chainFrom docs r (id :: path) other).length ≤
          (longest ((targets docs id).map (chainFrom docs r (id :: path)))).length :=
        fun other ho => length_le_longest (List.mem_map_of_mem ho)
      have hne : longest ((targets docs id).map (chainFrom docs r (id :: path))) ≠ [] := by
        intro hnil
        obtain ⟨tail, htail⟩ := exists_chainFrom_eq_cons docs r (id :: path) first
        have hfirst := hle first (ht ▸ .head _)
        rw [hnil, htail] at hfirst
        simp at hfirst
      obtain ⟨target, htarget, heq⟩ := List.mem_map.1 (longest_mem hne)
      exact .inr ⟨r, target, rfl, hmem, htarget, by rw [heq], by rwa [heq]⟩

/-- What holds of every single id, and of an id before the chain of a target if it holds of that
chain, holds of all chains. -/
theorem chainFrom_induction {P : Nat → List String → String → List String → Prop}
    (hsingle : ∀ room path id, P room path id [id])
    (hstep : ∀ room path id target rest, id ∉ path → DependsOn docs id target →
      P room (id :: path) target (target :: rest) → P (room + 1) path id (id :: target :: rest))
    (room : Nat) (path : List String) (id : String) :
    P room path id (chainFrom docs room path id) := by
  induction room generalizing path id with
  | zero => exact hsingle 0 path id
  | succ room ih =>
    rcases chainFrom_cases docs (room + 1) path id with ⟨h, -⟩ | ⟨r, target, hr, hid, ht, h, -⟩
    · rw [h]
      exact hsingle (room + 1) path id
    · cases hr
      obtain ⟨rest, hrest⟩ := exists_chainFrom_eq_cons docs room (id :: path) target
      rw [h, hrest]
      exact hstep room path id target rest hid ht (hrest ▸ ih (id :: path) target)

/-! ## The form of a chain -/

theorem head?_chainFrom (docs : List Document) (room : Nat) (path : List String) (id : String) :
    (chainFrom docs room path id).head? = some id := by
  obtain ⟨rest, h⟩ := exists_chainFrom_eq_cons docs room path id
  rw [h, List.head?_cons]

/-- A chain has at most one id more than there is room for. -/
theorem length_chainFrom_le (docs : List Document) (room : Nat) (path : List String)
    (id : String) :
    (chainFrom docs room path id).length ≤ room + 1 := by
  refine chainFrom_induction (P := fun room _ _ ids => ids.length ≤ room + 1) ?_ ?_ room path id
  · intro room _ id
    exact Nat.le_add_left 1 room
  · intro room _ id target rest _ _ ih
    exact Nat.succ_le_succ ih

/-- A chain is a walk. -/
theorem isWalk_chainFrom (docs : List Document) (room : Nat) (path : List String) (id : String) :
    IsWalk docs (chainFrom docs room path id) := by
  refine chainFrom_induction (P := fun _ _ _ ids => IsWalk docs ids) ?_ ?_ room path id
  · intro _ _ id
    exact .singleton id
  · intro _ _ id target rest _ ht ih
    exact .cons_cons ht ih

/-- An id leads to all ids of a chain from it. -/
theorem leadsTo_of_mem_chainFrom {met : String} (h : met ∈ chainFrom docs room path id) :
    LeadsTo docs id met := by
  obtain ⟨rest, hrest⟩ := exists_chainFrom_eq_cons docs room path id
  have hwalk := isWalk_chainFrom docs room path id
  rw [hrest] at h hwalk
  exact hwalk.leadsTo h

/-- A chain from a grounded id meets no id twice. -/
theorem Grounded.nodup_chainFrom (hg : Grounded docs id) :
    (chainFrom docs room path id).Nodup := by
  obtain ⟨rest, hrest⟩ := exists_chainFrom_eq_cons docs room path id
  have hwalk := isWalk_chainFrom docs room path id
  rw [hrest] at hwalk ⊢
  exact hg.nodup_of_isWalk hwalk

/-- The ids of a chain, the last one aside, are distinct and not on the path to it. -/
theorem nodup_dropLast_chainFrom (docs : List Document) (room : Nat) (path : List String)
    (id : String) :
    (chainFrom docs room path id).dropLast.Nodup ∧
      ∀ met ∈ (chainFrom docs room path id).dropLast, met ∉ path := by
  refine chainFrom_induction
    (P := fun _ path _ ids => ids.dropLast.Nodup ∧ ∀ met ∈ ids.dropLast, met ∉ path)
    ?_ ?_ room path id
  · intro _ _ id
    simp
  · intro _ path id target rest hid _ ⟨hnd, hpath⟩
    rw [List.dropLast_cons_cons]
    refine ⟨List.nodup_cons.2 ⟨fun hmem => hpath id hmem (.head _), hnd⟩, fun met hmet => ?_⟩
    rcases List.mem_cons.1 hmet with rfl | hmet
    · exact hid
    · exact fun hm => hpath met hmet (.tail _ hm)

/-! ## The longest trail -/

/-- A walk that meets no id of its way twice, its last id aside, and goes through no more ids than
there is room for. -/
structure IsTrail (docs : List Document) (room : Nat) (id : String) (ids : List String) :
    Prop where
  head : ids.head? = some id
  walk : IsWalk docs ids
  nodup : ids.dropLast.Nodup
  length_le : ids.length ≤ room + 1

/-- A chain is a trail. -/
theorem isTrail_chainFrom (docs : List Document) (room : Nat) (path : List String) (id : String) :
    IsTrail docs room id (chainFrom docs room path id) where
  head := head?_chainFrom docs room path id
  walk := isWalk_chainFrom docs room path id
  nodup := (nodup_dropLast_chainFrom docs room path id).1
  length_le := length_chainFrom_le docs room path id

/-- Past its first id a trail that is off a path is a trail from a target of that id, off the path
through it. -/
theorem IsTrail.rest {rest : List String} (h : IsTrail docs (room + 1) id (id :: target :: rest))
    (hoff : ∀ met ∈ (id :: target :: rest).dropLast, met ∉ path) :
    id ∉ path ∧ DependsOn docs id target ∧ IsTrail docs room target (target :: rest) ∧
      ∀ met ∈ (target :: rest).dropLast, met ∉ id :: path := by
  obtain ⟨-, hwalk, hnodup, hlen⟩ := h
  rw [List.dropLast_cons_cons] at hnodup hoff
  obtain ⟨hid, hnodup'⟩ := List.nodup_cons.1 hnodup
  obtain ⟨ht, hwalk'⟩ := List.isChain_cons_cons.1 hwalk
  refine ⟨hoff id (.head _), ht, ⟨rfl, hwalk', hnodup', Nat.le_of_succ_le_succ hlen⟩, ?_⟩
  intro met hmet hmem
  rcases List.mem_cons.1 hmem with rfl | hmem
  · exact hid hmet
  · exact hoff met (.tail _ hmet) hmem

/-- No trail whose ids, the last one aside, are off the path is longer than the chain. -/
theorem length_le_chainFrom {trail : List String} (h : IsTrail docs room id trail)
    (hoff : ∀ met ∈ trail.dropLast, met ∉ path) :
    trail.length ≤ (chainFrom docs room path id).length := by
  induction room generalizing path id trail with
  | zero => exact h.length_le
  | succ room ih =>
    obtain ⟨rest, rfl⟩ := List.head?_eq_some_iff.1 h.head
    cases rest with
    | nil =>
      obtain ⟨more, hmore⟩ := exists_chainFrom_eq_cons docs (room + 1) path id
      simp [hmore]
    | cons target rest =>
      obtain ⟨hid, ht, hrest, hoff'⟩ := h.rest hoff
      rw [chainFrom_succ hid]
      exact Nat.succ_le_succ ((ih hrest hoff').trans (length_le_longest (List.mem_map_of_mem ht)))

/-- What is a trail stays one when dependencies are added. -/
theorem IsTrail.mono {docs' : List Document} {ids : List String}
    (hsub : ∀ a b, DependsOn docs a b → DependsOn docs' a b) (h : IsTrail docs room id ids) :
    IsTrail docs' room id ids where
  head := h.head
  walk := h.walk.imp hsub
  nodup := h.nodup
  length_le := h.length_le

/-- The longest chain gets no shorter when dependencies are added. -/
theorem length_chainFrom_mono {docs' : List Document}
    (hsub : ∀ a b, DependsOn docs a b → DependsOn docs' a b) (room : Nat) (id : String) :
    (chainFrom docs room [] id).length ≤ (chainFrom docs' room [] id).length :=
  length_le_chainFrom ((isTrail_chainFrom docs room [] id).mono hsub) fun _ _ => List.not_mem_nil

/-- An id from which every trail goes through no more ids than the depth limit, so that no search
from it is cut. -/
def Shallow (docs : List Document) (id : String) : Prop :=
  ∀ room ids, IsTrail docs room id ids → ids.length ≤ depthLimit + 1

/-- What is shallow stays so when dependencies are taken away. -/
theorem Shallow.anti {docs' : List Document}
    (hsub : ∀ a b, DependsOn docs' a b → DependsOn docs a b)
    (h : Shallow docs id) : Shallow docs' id :=
  fun room ids htrail => h room ids (htrail.mono hsub)

/-- Among no more documents than the depth limit every id is shallow. -/
theorem shallow_of_length_le (hdocs : docs.length ≤ depthLimit) (id : String) :
    Shallow docs id := by
  intro room ids htrail
  have hle := length_le_of_nodup htrail.nodup htrail.walk.mem_ids_of_mem_dropLast
  rw [List.length_dropLast] at hle
  omega

/-! ## What the longest chain does not depend on -/

/-- A chain that fits into its room is the chain in any other room that it fits into: no branch of
the search was cut, since the chain of a cut branch is longer than the room. -/
theorem chainFrom_eq_of_length_le (h : (chainFrom docs room path id).length ≤ room)
    (h' : (chainFrom docs room path id).length ≤ room') :
    chainFrom docs room' path id = chainFrom docs room path id := by
  induction room generalizing path id room' with
  | zero => simp [chainFrom] at h
  | succ room ih =>
    by_cases hmem : id ∈ path
    · rw [chainFrom_of_mem hmem, chainFrom_of_mem hmem]
    cases room' with
    | zero => simp [chainFrom_succ hmem] at h'
    | succ room' =>
      rw [chainFrom_succ hmem, List.length_cons, Nat.succ_le_succ_iff] at h h'
      rw [chainFrom_succ hmem, chainFrom_succ hmem]
      have hbranch : ∀ target ∈ targets docs id,
          chainFrom docs room' (id :: path) target = chainFrom docs room (id :: path) target := by
        intro target ht
        have hle : (chainFrom docs room (id :: path) target).length ≤
            (longest ((targets docs id).map (chainFrom docs room (id :: path)))).length :=
          length_le_longest (List.mem_map_of_mem ht)
        exact ih (hle.trans h) (hle.trans h')
      rw [List.map_congr_left hbranch]

/-- A path that an id does not lead back to. -/
def Clear (docs : List Document) (path : List String) (id : String) : Prop :=
  ∀ met ∈ path, ¬ LeadsTo docs id met

/-- The empty path is clear for every id. -/
theorem Clear.nil (docs : List Document) (id : String) : Clear docs [] id :=
  fun _ h => by simp at h

/-- The path through a grounded id is clear for its targets. -/
theorem Clear.cons (hg : Grounded docs id) (hc : Clear docs path id)
    (ht : DependsOn docs id target) :
    Clear docs (id :: path) target := by
  intro met hmet hl
  rcases List.mem_cons.1 hmet with rfl | hmet
  · exact hg.not_onCycle (.head' ht hl)
  · exact hc met hmet (.head ht hl)

/-- An id is on no path that is clear for it. -/
theorem Clear.not_mem (hc : Clear docs path id) : id ∉ path := fun h => hc id h .refl

/-- The longest chain from a grounded id is the same on all paths that it does not lead back to. -/
theorem Grounded.chainFrom_eq (hg : Grounded docs id) (hc : Clear docs path id)
    (hc' : Clear docs path' id) : chainFrom docs room path id = chainFrom docs room path' id := by
  induction room generalizing path path' id with
  | zero => rfl
  | succ room ih =>
    rw [chainFrom_succ hc.not_mem, chainFrom_succ hc'.not_mem]
    have hbranch : ∀ target ∈ targets docs id,
        chainFrom docs room (id :: path) target = chainFrom docs room (id :: path') target :=
      fun target ht => ih (hg.of_dependsOn ht) (hc.cons hg ht) (hc'.cons hg ht)
    rw [List.map_congr_left hbranch]

/-! ## Along the dependencies of a grounded id -/

/-- The longest chain from what a grounded id depends on is no longer than that from the id: with
the id before it, and cut where there is no more room, it is a trail from the id. -/
theorem Grounded.length_chainFrom_le_of_dependsOn (hg : Grounded docs id) (room : Nat)
    (ht : DependsOn docs id target) :
    (chainFrom docs room [] target).length ≤ (chainFrom docs room [] id).length := by
  obtain ⟨rest, hrest⟩ := exists_chainFrom_eq_cons docs room [] target
  have hlen := length_chainFrom_le docs room [] target
  have hwalk : IsWalk docs (id :: chainFrom docs room [] target) := by
    have htarget := isWalk_chainFrom docs room [] target
    rw [hrest] at htarget ⊢
    exact .cons_cons ht htarget
  have hprefix : id :: (chainFrom docs room [] target).take room <+: id :: chainFrom docs room
      [] target :=
    List.take_prefix (room + 1) (id :: chainFrom docs room [] target)
  have htrail : IsTrail docs room id (id :: (chainFrom docs room [] target).take room) := {
    head := rfl
    walk := hwalk.prefix hprefix
    nodup := (hg.nodup_of_isWalk hwalk).sublist ((List.dropLast_sublist _).trans hprefix.sublist)
    length_le := Nat.succ_le_succ (List.length_take_le _ _) }
  have hle := length_le_chainFrom htrail fun _ _ => List.not_mem_nil
  rw [List.length_cons, List.length_take] at hle
  omega

/-- The longest chain from what a grounded id leads to is no longer than that from the id. -/
theorem Grounded.length_chainFrom_le_of_leadsTo (hg : Grounded docs id) (room : Nat)
    (hl : LeadsTo docs id target) :
    (chainFrom docs room [] target).length ≤ (chainFrom docs room [] id).length := by
  induction hl with
  | refl => exact Nat.le_refl _
  | tail hl ht ih => exact ((hg.of_leadsTo hl).length_chainFrom_le_of_dependsOn room ht).trans ih

end Dossier.Dependency
