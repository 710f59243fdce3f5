import Mathlib

/-! Document collections. A collection maps document ids to documents; a query
answers with the matching documents in the order of their ids, which is the
order a document database uses when the query names no other. -/

namespace Clubzey.Foundation

abbrev Collection (α : Type u) := Std.ExtTreeMap String α

namespace Collection

variable {α : Type u}

def doc (collection : Collection α) (id : String) : Option α := collection[id]?

def set (collection : Collection α) (id : String) (document : α) : Collection α :=
  collection.insert id document

def delete (collection : Collection α) (id : String) : Collection α := collection.erase id

def docsWhere (collection : Collection α) (matching : α → Bool) : List α :=
  (collection.toList.filter fun entry => matching entry.2).map Prod.snd

@[simp] theorem doc_empty (id : String) : doc (∅ : Collection α) id = none := by
  simp [doc]

theorem doc_set (collection : Collection α) (id other : String) (document : α) :
    (collection.set id document).doc other = if id = other then some document else collection.doc other := by
  simp [doc, set, Std.ExtTreeMap.getElem?_insert]

@[simp] theorem doc_set_same (collection : Collection α) (id : String) (document : α) :
    (collection.set id document).doc id = some document := by
  simp [doc_set]

theorem doc_delete (collection : Collection α) (id other : String) :
    (collection.delete id).doc other = if id = other then none else collection.doc other := by
  simp [doc, delete, Std.ExtTreeMap.getElem?_erase]

theorem mem_docsWhere {collection : Collection α} {matching : α → Bool} {document : α} :
    document ∈ collection.docsWhere matching ↔
      ∃ id, collection.doc id = some document ∧ matching document = true := by
  simp only [docsWhere, List.mem_map, List.mem_filter, Prod.exists, doc]
  constructor
  · rintro ⟨id, stored, ⟨member, satisfied⟩, rfl⟩
    exact ⟨id, Std.ExtTreeMap.mem_toList_iff_getElem?_eq_some.mp member, satisfied⟩
  · rintro ⟨id, member, satisfied⟩
    exact ⟨id, document, ⟨Std.ExtTreeMap.mem_toList_iff_getElem?_eq_some.mpr member, satisfied⟩, rfl⟩

theorem head_docsWhere {collection : Collection α} {matching : α → Bool} {document : α}
    (first : (collection.docsWhere matching).head? = some document) :
    ∃ id, collection.doc id = some document ∧ matching document = true :=
  mem_docsWhere.mp (List.mem_of_head? first)

theorem head_docsWhere_none {collection : Collection α} {matching : α → Bool} :
    (collection.docsWhere matching).head? = none ↔
      ∀ id document, collection.doc id = some document → matching document = false := by
  rw [List.head?_eq_none_iff, List.eq_nil_iff_forall_not_mem]
  constructor
  · intro empty id document stored
    by_contra satisfied
    exact empty document (mem_docsWhere.mpr ⟨id, stored, by simpa using satisfied⟩)
  · intro unsatisfied document member
    obtain ⟨id, stored, satisfied⟩ := mem_docsWhere.mp member
    simp [unsatisfied id document stored] at satisfied

theorem head_docsWhere_unique {collection : Collection α} {matching : α → Bool} {id : String} {document : α}
    (stored : collection.doc id = some document) (satisfied : matching document = true)
    (unique : ∀ other found, collection.doc other = some found → matching found = true → found = document) :
    (collection.docsWhere matching).head? = some document := by
  cases answer : (collection.docsWhere matching).head? with
  | none =>
    have unsatisfied := head_docsWhere_none.mp answer id document stored
    simp [satisfied] at unsatisfied
  | some found =>
    obtain ⟨other, present, holds⟩ := head_docsWhere answer
    rw [unique other found present holds]

theorem size_set_unused {collection : Collection α} {id : String} (document : α)
    (unused : collection.doc id = none) : (collection.set id document).size = collection.size + 1 := by
  have absent : id ∉ collection := by
    rw [Std.ExtTreeMap.mem_iff_isSome_getElem?]
    simpa [doc] using unused
  simp [set, Std.ExtTreeMap.size_insert, absent]

/-- One `set` after another, each under its own id. -/
def setAll (collection : Collection α) (entries : List (String × α)) : Collection α :=
  entries.foldl (fun collection entry => collection.set entry.1 entry.2) collection

@[simp] theorem setAll_nil (collection : Collection α) : collection.setAll [] = collection := rfl

@[simp] theorem setAll_cons (collection : Collection α) (entry : String × α) (entries : List (String × α)) :
    collection.setAll (entry :: entries) = (collection.set entry.1 entry.2).setAll entries := rfl

theorem doc_setAll_unnamed {collection : Collection α} {entries : List (String × α)} {id : String}
    (unnamed : ∀ entry ∈ entries, entry.1 ≠ id) : (collection.setAll entries).doc id = collection.doc id := by
  induction entries generalizing collection with
  | nil => rfl
  | cons entry entries ih =>
    rw [setAll_cons, ih fun other member => unnamed other (List.mem_cons_of_mem _ member), doc_set,
      if_neg (unnamed entry List.mem_cons_self)]

theorem doc_setAll_used {collection : Collection α} {entries : List (String × α)} {id : String}
    (used : collection.doc id ≠ none) : (collection.setAll entries).doc id ≠ none := by
  induction entries generalizing collection with
  | nil => exact used
  | cons entry entries ih =>
    rw [setAll_cons]
    apply ih
    rw [doc_set]
    split
    · simp
    · exact used

theorem doc_setAll_named {collection : Collection α} {entries : List (String × α)} {entry : String × α}
    (member : entry ∈ entries) : (collection.setAll entries).doc entry.1 ≠ none := by
  induction entries generalizing collection with
  | nil => cases member
  | cons first entries ih =>
    rw [setAll_cons]
    rcases List.mem_cons.mp member with rfl | later
    · apply doc_setAll_used
      simp
    · exact ih later

theorem doc_setAll_member {collection : Collection α} {entries : List (String × α)} {entry : String × α}
    (distinct : entries.Pairwise fun first second => first.1 ≠ second.1) (member : entry ∈ entries) :
    (collection.setAll entries).doc entry.1 = some entry.2 := by
  induction entries generalizing collection with
  | nil => cases member
  | cons first entries ih =>
    obtain ⟨differs, rest⟩ := List.pairwise_cons.mp distinct
    rw [setAll_cons]
    rcases List.mem_cons.mp member with rfl | later
    · rw [doc_setAll_unnamed fun other inside => Ne.symm (differs other inside), doc_set_same]
    · exact ih rest later

theorem size_setAll {collection : Collection α} {entries : List (String × α)}
    (distinct : entries.Pairwise fun first second => first.1 ≠ second.1)
    (unused : ∀ entry ∈ entries, collection.doc entry.1 = none) :
    (collection.setAll entries).size = collection.size + entries.length := by
  induction entries generalizing collection with
  | nil => rfl
  | cons first entries ih =>
    obtain ⟨differs, rest⟩ := List.pairwise_cons.mp distinct
    have stillUnused : ∀ entry ∈ entries, (collection.set first.1 first.2).doc entry.1 = none := by
      intro entry member
      rw [doc_set, if_neg (differs entry member)]
      exact unused entry (List.mem_cons_of_mem _ member)
    rw [setAll_cons, ih rest stillUnused, size_set_unused _ (unused first List.mem_cons_self), List.length_cons]
    omega

end Collection
end Clubzey.Foundation
