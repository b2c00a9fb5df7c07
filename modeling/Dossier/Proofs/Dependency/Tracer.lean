import Dossier.Proofs.Dependency.LongestChain
import Dossier.Proofs.Dependency.Peeling

/-!
# The tracer and the longest chain

A tracer answers with the longest chain of every id, whichever chains it found before. It keeps
chains of ids that were peeled off, which are grounded (`mem_acyclicIds_iff`), and only those that
fitted into their room. So a chain that is kept is the longest on every path that leads to its id,
in every room it fits into: this is what `Sound` says of the chains found, and every step of the
tracer preserves it (`Tracer.chainFrom_spec`).
-/

namespace Dossier.Dependency

variable {docs : List Document} {path : List String} {id target : String}

/-! ## The way to an id -/

/-- A path all of whose ids lead to an id. -/
def Leading (docs : List Document) (path : List String) (id : String) : Prop :=
  ∀ met ∈ path, Relation.TransGen (DependsOn docs) met id

/-- The empty path leads to every id. -/
theorem Leading.nil (docs : List Document) (id : String) : Leading docs [] id :=
  fun _ h => by simp at h

/-- A path leads on to the targets of the id it leads to. -/
theorem Leading.cons (hl : Leading docs path id) (ht : DependsOn docs id target) :
    Leading docs (id :: path) target := by
  intro met hmet
  rcases List.mem_cons.1 hmet with rfl | hmet
  · exact .single ht
  · exact (hl met hmet).tail ht

/-- A grounded id does not lead back to a path that leads to it. -/
theorem Leading.clear (hl : Leading docs path id) (hg : Grounded docs id) : Clear docs path id :=
  fun met hmet hback => hg.not_onCycle (.trans_right hback (hl met hmet))

namespace Tracer

variable {t : Tracer} {room : Nat} {found : Found} {chain : List String}

/-! ## The chains that are kept -/

/-- A tracer whose acyclic ids are grounded. -/
def Valid (t : Tracer) : Prop := ∀ id ∈ t.acyclic, Grounded t.documents id

theorem valid_ofList (docs : List Document) : (ofList docs).Valid :=
  fun _ h => (mem_acyclicIds_iff.1 h).2

/-- The longest chain of an id, found in a room that it fits into. -/
def Uncut (docs : List Document) (id : String) (chain : List String) : Prop :=
  ∃ room, chain.length ≤ room ∧ Dependency.chainFrom docs room [] id = chain

/-- All chains found before are uncut. -/
def Sound (docs : List Document) (found : Found) : Prop :=
  ∀ id chain, found.lookup id = some chain → Uncut docs id chain

theorem sound_nil (docs : List Document) : Sound docs [] := fun _ _ h => by simp at h

/-- A chain that is used again is the longest chain of its id, on this path and in this room. -/
theorem eq_of_reuse? (ht : t.Valid) (hl : Leading t.documents path id)
    (hf : Sound t.documents found) (h : t.reuse? found room id = some chain) :
    chain = Dependency.chainFrom t.documents room path id := by
  unfold reuse? at h
  split at h
  case isFalse => cases h
  case isTrue hmem =>
    obtain ⟨hlookup, hfits⟩ := Option.filter_eq_some_iff.1 h
    have hg := ht id (List.contains_iff_mem.1 hmem)
    obtain ⟨room', hle, rfl⟩ := hf id chain hlookup
    have hpath : Dependency.chainFrom t.documents room path id =
        Dependency.chainFrom t.documents room [] id :=
      hg.chainFrom_eq (hl.clear hg) (.nil t.documents id)
    rw [hpath]
    exact (chainFrom_eq_of_length_le hle (by simpa using hfits)).symm

/-- The chains found stay sound when the longest chain of an id is kept. -/
theorem sound_keep (room : Nat) (ht : t.Valid) (hl : Leading t.documents path id)
    (hf : Sound t.documents found) :
    Sound t.documents (t.keep found room id (Dependency.chainFrom t.documents room path id)) := by
  unfold keep
  split
  case isFalse => exact hf
  case isTrue h =>
    rw [Bool.and_eq_true, decide_eq_true_eq, List.contains_iff_mem] at h
    have hg := ht id h.1
    intro other chain hlookup
    rw [List.lookup_cons] at hlookup
    split at hlookup
    · next heq =>
      cases hlookup
      cases beq_iff_eq.1 heq
      exact ⟨room, h.2, hg.chainFrom_eq (.nil t.documents _) (hl.clear hg)⟩
    · exact hf other chain hlookup

/-! ## Tracing -/

/-- One step of the choice among the chains of targets, which are traced one after another. -/
def choose (trace : String → Found → List String × Found) :
    List String × Found → String → List String × Found
  | (best, found), id => (longer best (trace id found).1, (trace id found).2)

/-- If every trace answers with the plain chain of its id and keeps the chains found sound, the
choice among several is the longest of the plain chains, and the chains found are sound after
it. -/
theorem foldl_choose_spec {trace : String → Found → List String × Found}
    {plain : String → List String} {ids : List String}
    (htrace : ∀ id ∈ ids, ∀ found, Sound docs found →
      (trace id found).1 = plain id ∧ Sound docs (trace id found).2)
    (best : List String) (hf : Sound docs found) :
    (ids.foldl (choose trace) (best, found)).1 = (ids.map plain).foldl longer best ∧
      Sound docs (ids.foldl (choose trace) (best, found)).2 := by
  induction ids generalizing best found with
  | nil => exact ⟨rfl, hf⟩
  | cons id rest ih =>
    obtain ⟨hchain, hsound⟩ := htrace id (.head _) found hf
    rw [List.foldl_cons, List.map_cons, List.foldl_cons, choose, hchain]
    exact ih (fun other ho => htrace other (.tail _ ho)) _ hsound

/-- The tracer finds the longest chain on a path that leads to its id, and the chains found stay
sound. -/
theorem chainFrom_spec (ht : t.Valid) (hl : Leading t.documents path id)
    (hf : Sound t.documents found) :
    (t.chainFrom room path id found).1 = Dependency.chainFrom t.documents room path id ∧
      Sound t.documents (t.chainFrom room path id found).2 := by
  induction room generalizing path id found with
  | zero => exact ⟨rfl, hf⟩
  | succ room ih =>
    unfold chainFrom
    split
    case isTrue hmem => exact ⟨(chainFrom_of_mem (List.contains_iff_mem.1 hmem)).symm, hf⟩
    case isFalse hmem =>
    have hplain : Dependency.chainFrom t.documents (room + 1) path id = id :: longest
        ((targets t.documents id).map (Dependency.chainFrom t.documents room (id :: path))) :=
      chainFrom_succ fun h => hmem (List.contains_iff_mem.2 h)
    split
    case h_1 chain hreuse => exact ⟨eq_of_reuse? ht hl hf hreuse, hf⟩
    case h_2 =>
    split
    case h_1 hnil => exact ⟨by rw [hplain, hnil]; rfl, hf⟩
    case h_2 ids hne =>
      have htrace : ∀ target ∈ targets t.documents id, ∀ found, Sound t.documents found →
          (t.chainFrom room (id :: path) target found).1 =
            Dependency.chainFrom t.documents room (id :: path) target ∧
          Sound t.documents (t.chainFrom room (id :: path) target found).2 :=
        fun target htarget found hf => ih (hl.cons htarget) hf
      obtain ⟨hbest, hsound⟩ := foldl_choose_spec htrace [] hf
      rw [← longest_eq_foldl] at hbest
      have heq := hplain.trans (congrArg (id :: ·) hbest.symm)
      have hkeep := sound_keep (room + 1) ht hl hsound
      rw [heq] at hkeep
      exact ⟨heq.symm, hkeep⟩

/-- The tracer finds the longest chain of any id, and the chains found stay sound. -/
theorem chain_spec (ht : t.Valid) (hf : Sound t.documents found) (id : String) :
    (t.chain id found).1 = longestChain t.documents id ∧ Sound t.documents (t.chain id found).2 :=
  chainFrom_spec ht (.nil t.documents id) hf

/-- The tracer finds the longest chains of ids one after another. -/
theorem chains_eq (ht : t.Valid) (hf : Sound t.documents found) (ids : List String) :
    t.chains found ids = ids.map (longestChain t.documents) := by
  induction ids generalizing found with
  | nil => rfl
  | cons id rest ih =>
    obtain ⟨h1, h2⟩ := chain_spec ht hf id
    rw [List.map_cons, ← h1, ← ih h2]
    rfl

/-- **A tracer forgets nothing and confuses nothing.** Asked for the chains of any ids in any
order, it answers each time with the longest chain, as if nothing had been kept. -/
theorem chains_eq_map_longestChain (docs : List Document) (ids : List String) :
    (ofList docs).chains [] ids = ids.map (longestChain docs) :=
  chains_eq (valid_ofList docs) (sound_nil docs) ids

end Tracer

end Dossier.Dependency
