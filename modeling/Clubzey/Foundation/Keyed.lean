import Clubzey.Foundation.Collection

/-! The ids behind the answers of a query: its first answer has the least, and where the
documents carry their ids, every answer can be found again by its own and no two share
one. -/

namespace Clubzey.Foundation.Collection
variable {α : Type u} {name : α → Option String}

private theorem head_filter_least {entries : List (String × α)} {accepts : String × α → Bool} {entry : String × α}
    (ordered : entries.Pairwise fun first second => first.1 < second.1)
    (first : (entries.filter accepts).head? = some entry) :
    ∀ other ∈ entries, accepts other = true → entry.1 ≤ other.1 := by
  have sorted : (entries.filter accepts).Pairwise fun first second => first.1 < second.1 := ordered.filter _
  obtain ⟨rest, split⟩ := List.head?_eq_some_iff.mp first
  intro other member accepted
  have kept : other ∈ entries.filter accepts := List.mem_filter.mpr ⟨member, accepted⟩
  rw [split] at sorted kept
  rcases List.mem_cons.mp kept with rfl | later
  · exact le_rfl
  · exact (List.rel_of_pairwise_cons sorted later).le

/-- The first answer of a query is the match with the least id. -/
theorem head_docsWhere_iff {collection : Collection α} {matching : α → Bool} {document : α} :
    (collection.docsWhere matching).head? = some document ↔
      ∃ id, collection.doc id = some document ∧ matching document = true ∧
        ∀ other found, collection.doc other = some found → matching found = true → id ≤ other := by
  have ordered : collection.toList.Pairwise fun first second => first.1 < second.1 :=
    Std.ExtTreeMap.ordered_keys_toList.imp compare_lt_iff_lt.mp
  have least : ∀ found, (collection.docsWhere matching).head? = some found →
      ∃ id, collection.doc id = some found ∧ matching found = true ∧
        ∀ other another, collection.doc other = some another → matching another = true → id ≤ other := by
    intro found first
    rw [docsWhere, List.head?_map] at first
    obtain ⟨entry, head, rfl⟩ := Option.map_eq_some_iff.mp first
    have member := List.mem_filter.mp (List.mem_of_head? head)
    refine ⟨entry.1, Std.ExtTreeMap.mem_toList_iff_getElem?_eq_some.mp member.1, member.2, ?_⟩
    intro other another stored satisfied
    exact head_filter_least ordered head (other, another)
      (Std.ExtTreeMap.mem_toList_iff_getElem?_eq_some.mpr stored) satisfied
  constructor
  · exact least document
  · intro smallest
    obtain ⟨id, stored, satisfied, below⟩ := smallest
    cases answer : (collection.docsWhere matching).head? with
    | none =>
      have unsatisfied := head_docsWhere_none.mp answer id document stored
      rw [satisfied] at unsatisfied
      cases unsatisfied
    | some found =>
      obtain ⟨other, present, holds, beneath⟩ := least found answer
      have same : id = other := le_antisymm (below other found present holds) (beneath id document stored satisfied)
      rw [same, present] at stored
      exact stored

def Keyed (name : α → Option String) (collection : Collection α) : Prop :=
  ∀ id document, collection.doc id = some document → name document = some id

theorem keyed_empty : Keyed name ∅ := by
  intro id document stored
  rw [doc_empty] at stored
  cases stored

namespace Keyed
variable {collection : Collection α} (keyed : Keyed name collection)
include keyed

theorem set {id : String} {document : α} (named : name document = some id) : Keyed name (collection.set id document) := by
  intro other found stored
  rw [doc_set] at stored
  split at stored
  next same =>
    cases stored
    exact same ▸ named
  next => exact keyed other found stored

theorem delete (id : String) : Keyed name (collection.delete id) := by
  intro other found stored
  rw [doc_delete] at stored
  split at stored
  next => cases stored
  next => exact keyed other found stored

theorem found {matching : α → Bool} {document : α} (member : document ∈ collection.docsWhere matching) :
    ∃ id, name document = some id ∧ collection.doc id = some document := by
  obtain ⟨id, stored, -⟩ := mem_docsWhere.mp member
  exact ⟨id, keyed id document stored, stored⟩

theorem nodup (matching : α → Bool) : ((collection.docsWhere matching).map name).Nodup := by
  have entries : ∀ entry ∈ collection.toList, name entry.2 = some entry.1 := by
    intro entry member
    exact keyed entry.1 entry.2 (Std.ExtTreeMap.mem_toList_iff_getElem?_eq_some.mp member)
  have distinct : (collection.toList.map Prod.fst).Nodup := by
    rw [Std.ExtTreeMap.map_fst_toList_eq_keys]
    exact Std.ExtTreeMap.nodup_keys
  have kept : ((collection.toList.filter fun entry => matching entry.2).map Prod.fst).Nodup :=
    distinct.sublist (List.filter_sublist.map _)
  have same : (collection.docsWhere matching).map name =
      ((collection.toList.filter fun entry => matching entry.2).map Prod.fst).map some := by
    rw [docsWhere, List.map_map, List.map_map]
    apply List.map_congr_left
    intro entry member
    exact entries entry (List.mem_of_mem_filter member)
  rw [same]
  exact kept.map (Option.some_injective _)

end Keyed
end Clubzey.Foundation.Collection
