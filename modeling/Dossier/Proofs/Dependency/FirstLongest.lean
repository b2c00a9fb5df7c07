import Dossier.Proofs.Dependency.Tracer

/-!
# The first of the longest trails

A trail is full if it has gone as far as it may: it has come to an id that it has been at, to one
without targets, or to where there is no more room. The longest chain is a full trail
(`isFullTrail_chainFrom`) and no trail is longer. Of several trails of its length it is the first,
in the order in which the documents list what they depend on: where another trail parts from it,
that one turns to a target which is listed later (`eq_or_turnsEarlier_chainFrom`). There is only
one such trail (`IsFirstLongest.unique`), and it is what a tracer answers, whatever it was asked
before (`chains_isFirstLongest`).
-/

namespace Dossier.Dependency

variable {docs : List Document} {room : Nat} {path ids trail trail' : List String} {id : String}

/-! ## Full trails -/

/-- A trail that ends at an id that it has been at, at one that is absent or has no targets, or
where there is no more room. -/
structure IsFullTrail (docs : List Document) (room : Nat) (id : String)
    (trail : List String) : Prop
    extends IsTrail docs room id trail where
  ends : ∃ way last, trail = way ++ [last] ∧
    (last ∈ way ∨ targets docs last = [] ∨ trail.length = room + 1)

/-- A chain ends at an id that it or the path to it has been at, at one without targets, or where
there is no more room. -/
theorem exists_end_chainFrom (docs : List Document) (room : Nat) (path : List String)
    (id : String) :
    ∃ way last, chainFrom docs room path id = way ++ [last] ∧
      (last ∈ path ∨ last ∈ way ∨ targets docs last = [] ∨ way.length = room) := by
  induction room generalizing path id with
  | zero => exact ⟨[], id, rfl, .inr (.inr (.inr rfl))⟩
  | succ room ih =>
    rcases chainFrom_cases docs (room + 1) path id with ⟨h, hend⟩ | ⟨r, target, hr, -, -, h, -⟩
    · refine ⟨[], id, h, ?_⟩
      rcases hend with hmem | hnil | hroom
      · exact .inl hmem
      · exact .inr (.inr (.inl hnil))
      · cases hroom
    · cases hr
      obtain ⟨way, last, hway, hend⟩ := ih (id :: path) target
      refine ⟨id :: way, last, by rw [h, hway]; rfl, ?_⟩
      rcases hend with hmem | hmem | hnil | hlen
      · rcases List.mem_cons.1 hmem with rfl | hmem
        · exact .inr (.inl (.head _))
        · exact .inl hmem
      · exact .inr (.inl (.tail _ hmem))
      · exact .inr (.inr (.inl hnil))
      · exact .inr (.inr (.inr (congrArg Nat.succ hlen)))

/-- A chain is a full trail. -/
theorem isFullTrail_chainFrom (docs : List Document) (room : Nat) (id : String) :
    IsFullTrail docs room id (chainFrom docs room [] id) where
  toIsTrail := isTrail_chainFrom docs room [] id
  ends := by
    obtain ⟨way, last, hway, hend⟩ := exists_end_chainFrom docs room [] id
    refine ⟨way, last, hway, ?_⟩
    rcases hend with hmem | hmem | hnil | hlen
    · exact absurd hmem List.not_mem_nil
    · exact .inl hmem
    · exact .inr (.inl hnil)
    · exact .inr (.inr (by rw [hway, List.length_append, hlen]; rfl))

/-! ## The first of equally long trails -/

/-- Of two trails that part somewhere, the first goes on there to a target that is listed
earlier. -/
inductive TurnsEarlier (docs : List Document) : List String → List String → Prop
  | here {id target target' : String} {rest rest' : List String}
      (h : (targets docs id).idxOf target < (targets docs id).idxOf target') :
      TurnsEarlier docs (id :: target :: rest) (id :: target' :: rest')
  | later {id : String} {rest rest' : List String} (h : TurnsEarlier docs rest rest') :
      TurnsEarlier docs (id :: rest) (id :: rest')

/-- Of two trails only one can turn earlier than the other. -/
theorem TurnsEarlier.asymm (h : TurnsEarlier docs trail trail') :
    ¬ TurnsEarlier docs trail' trail := by
  induction h with
  | here hlt =>
    intro hback
    cases hback with
    | here hgt => exact Nat.lt_asymm hlt hgt
    | later hback =>
      cases hback with
      | here => exact Nat.lt_irrefl _ hlt
      | later => exact Nat.lt_irrefl _ hlt
  | later h ih =>
    intro hback
    cases hback with
    | here hgt =>
      cases h with
      | here => exact Nat.lt_irrefl _ hgt
      | later => exact Nat.lt_irrefl _ hgt
    | later hback => exact ih hback

/-- The longest of the chains from some ids is that of the earliest id whose chain is as long. -/
theorem exists_longest_map_eq {f : String → List String} (h : longest (ids.map f) ≠ []) :
    ∃ first, longest (ids.map f) = f first ∧
      ∀ other ∈ ids, (f other).length = (f first).length →
      other = first ∨ ids.idxOf first < ids.idxOf other := by
  obtain ⟨chains, chains', hsplit, hshorter⟩ := longest_split h
  obtain ⟨before, rest, rfl, hbefore, hrest⟩ := List.map_eq_append_iff.1 hsplit
  obtain ⟨first, after, rfl, hfirst, -⟩ := List.map_eq_cons_iff.1 hrest
  refine ⟨first, hfirst.symm, fun other hother hlen => ?_⟩
  have hnot {x : String} (hx : (f x).length = (f first).length) : x ∉ before := by
    intro hmem
    have hlt := hshorter (f x) (hbefore ▸ List.mem_map_of_mem hmem)
    rw [← hfirst, hx] at hlt
    exact Nat.lt_irrefl _ hlt
  by_cases hne : other = first
  · exact .inl hne
  · refine .inr ?_
    rw [List.idxOf_append_of_notMem (hnot rfl), List.idxOf_append_of_notMem (hnot hlen),
      List.idxOf_cons_self, List.idxOf_cons_ne after (Ne.symm hne)]
    omega

/-- A trail that is off the path and as long as the chain is the chain, or the chain turns
earlier. -/
theorem eq_or_turnsEarlier_chainFrom (h : IsTrail docs room id trail)
    (hoff : ∀ met ∈ trail.dropLast, met ∉ path)
    (hlen : trail.length = (chainFrom docs room path id).length) :
    trail = chainFrom docs room path id ∨
    TurnsEarlier docs (chainFrom docs room path id) trail := by
  induction room generalizing path id trail with
  | zero =>
    obtain ⟨rest, rfl⟩ := List.head?_eq_some_iff.1 h.head
    rw [List.length_eq_zero_iff.1 (Nat.le_zero.1 (Nat.le_of_succ_le_succ h.length_le))]
    exact .inl rfl
  | succ room ih =>
    obtain ⟨rest, rfl⟩ := List.head?_eq_some_iff.1 h.head
    cases rest with
    | nil =>
      obtain ⟨more, hmore⟩ := exists_chainFrom_eq_cons docs (room + 1) path id
      rw [hmore] at hlen ⊢
      rw [List.length_eq_zero_iff.1 (Nat.succ.inj hlen).symm]
      exact .inl rfl
    | cons target rest =>
      obtain ⟨hid, ht, hrest, hoff'⟩ := h.rest hoff
      rw [chainFrom_succ hid] at hlen ⊢
      have hlen' := Nat.succ.inj hlen
      have hne : longest ((targets docs id).map (chainFrom docs room (id :: path))) ≠ [] :=
        List.ne_nil_of_length_eq_add_one hlen'.symm
      obtain ⟨first, hfirst, hearliest⟩ := exists_longest_map_eq hne
      -- the rest of the trail is no longer than the chain of its target, which is no longer than
      -- the longest
      have htarget : (chainFrom docs room (id :: path) target).length =
          (chainFrom docs room (id :: path) first).length := by
        have hchain := length_le_chainFrom hrest hoff'
        have hlongest :=
          length_le_longest (List.mem_map_of_mem (f := chainFrom docs room (id :: path)) ht)
        rw [hfirst] at hlongest hlen'
        omega
      rw [hfirst] at hlen' ⊢
      rcases hearliest target ht htarget with rfl | hlt
      · rcases ih hrest hoff' hlen' with heq | hturn
        · exact .inl (congrArg (id :: ·) heq)
        · exact .inr (.later hturn)
      · obtain ⟨more, hmore⟩ := exists_chainFrom_eq_cons docs room (id :: path) first
        rw [hmore]
        exact .inr (.here hlt)

/-! ## What a tracer answers -/

/-- The longest full trail from an id, and of equally long ones the first. -/
structure IsFirstLongest (docs : List Document) (id : String) (trail : List String) : Prop where
  full : IsFullTrail docs depthLimit id trail
  longest : ∀ other, IsFullTrail docs depthLimit id other → other.length ≤ trail.length
  first : ∀ other, IsFullTrail docs depthLimit id other → other.length = trail.length →
    other = trail ∨ TurnsEarlier docs trail other

/-- The longest chain from an id is the first of the longest full trails. -/
theorem isFirstLongest_longestChain (docs : List Document) (id : String) :
    IsFirstLongest docs id (longestChain docs id) where
  full := isFullTrail_chainFrom docs depthLimit id
  longest _ hother := length_le_chainFrom hother.toIsTrail fun _ _ => List.not_mem_nil
  first _ hother hlen :=
    eq_or_turnsEarlier_chainFrom hother.toIsTrail (fun _ _ => List.not_mem_nil) hlen

/-- There is only one first of the longest full trails. -/
theorem IsFirstLongest.unique (h : IsFirstLongest docs id trail)
    (h' : IsFirstLongest docs id trail') : trail = trail' := by
  have hlen : trail.length = trail'.length :=
    Nat.le_antisymm (h'.longest trail h.full) (h.longest trail' h'.full)
  rcases h.first trail' h'.full hlen.symm with heq | hturn
  · exact heq.symm
  · exact (h'.first trail h.full hlen).resolve_right hturn.asymm

/-- **A tracer answers with the first of the longest trails.** Asked for the chains of any ids one
after another, it answers for each with the one list that starts with the id, goes on from each id
to one that the first document with it depends on, meets no id twice but for its last one, goes
through no more ids than the depth limit and ends only where it must, such that no list of this
kind is longer, and any other that is as long turns to a dependency listed later where it first
differs. -/
theorem chains_isFirstLongest (docs : List Document) (ids : List String) :
    List.Forall₂ (fun id chain => ∀ trail, IsFirstLongest docs id trail ↔ trail = chain) ids
      ((Tracer.ofList docs).chains [] ids) := by
  have hchains : (Tracer.ofList docs).chains [] ids = ids.map (longestChain docs) :=
    Tracer.chains_eq (Tracer.valid_ofList docs) (Tracer.sound_nil docs) ids
  rw [hchains, List.forall₂_map_right_iff, List.forall₂_same]
  intro id _ trail
  have hlongest := isFirstLongest_longestChain docs id
  exact ⟨fun h => h.unique hlongest, fun h => h ▸ hlongest⟩

end Dossier.Dependency
