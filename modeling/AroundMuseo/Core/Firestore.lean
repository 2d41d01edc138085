import Mathlib.Data.List.AList
import Mathlib.Data.Rat.Defs

/-!
# Document collections

A document is a finite map from field names to values, and a collection a finite
map from document ids to documents. Both are association lists without repeated
keys, so a query can enumerate them. The write operations follow the store's
documentation: `set` replaces a document, `setMerge` overwrites only the named
fields and creates a missing document, and `update` refuses a missing one.
-/

namespace Firestore

/-- A stored value that is not a container. -/
inductive Scalar where
  | null
  | bool (b : Bool)
  | number (q : Rat)
  | string (s : String)
  | timestamp (t : Int)
  | geoPoint (latitude longitude : Rat)
  deriving DecidableEq, Repr

/-- A stored value. -/
inductive Value where
  | scalar (s : Scalar)
  | array (xs : List Scalar)
  | map (fields : List (String × Scalar))
  deriving DecidableEq, Repr

instance : Coe Scalar Value := ⟨.scalar⟩

/-- The segments of a path. A slash at its start or end does not count. -/
def pathSegments (path : String) : List (List Char) :=
  (path.toList.splitOn '/').filter (· ≠ [])

/-- A collection has a document for the path: it does not contain `//`, and its number of
segments is odd. So the empty path has none. -/
def IsDocumentPath (path : String) : Prop :=
  ¬ ['/', '/'] <:+: path.toList ∧ (pathSegments path).length % 2 = 1

instance (path : String) : Decidable (IsDocumentPath path) :=
  inferInstanceAs (Decidable (_ ∧ _))

/-- The id of the document that a path denotes. -/
def documentId (path : String) : String :=
  String.ofList (['/'].intercalate (pathSegments path))

/-- A document path denotes a document with an id. -/
theorem documentId_ne_empty {path : String} (h : IsDocumentPath path) : documentId path ≠ "" := by
  intro hid
  have hchars : ['/'].intercalate (pathSegments path) = [] := String.ofList_injective hid
  rcases hsegments : pathSegments path with - | ⟨first, rest⟩
  · have hodd := h.2
    rw [hsegments] at hodd
    cases hodd
  · have hfirst : first ∈ pathSegments path := hsegments ▸ List.mem_cons_self
    have hne : first ≠ [] := of_decide_eq_true (List.mem_filter.mp hfirst).2
    rw [hsegments] at hchars
    cases rest with
    | nil => exact hne (by simpa [List.intercalate] using hchars)
    | cons second rest => exact hne (by simp [List.intercalate] at hchars)

/-- The fields of a document. -/
abbrev Doc := AList fun _ : String => Value

/-- The documents of a collection, by id. -/
abbrev Collection := AList fun _ : String => Doc

/-- Two documents are compared field by field, by a procedure that evaluates. -/
instance : DecidableEq Doc :=
  fun d d' => decidable_of_iff (d.entries = d'.entries) AList.ext_iff.symm

namespace Doc

/-- The document with the listed fields; the first entry of a name counts. -/
def ofFields : List (String × Value) → Doc
  | [] => ∅
  | (k, v) :: l => (ofFields l).insert k v

/-- Overwrite the fields that `new` names and keep the others. -/
def merge (old new : Doc) : Doc := new ∪ old

@[simp] theorem lookup_ofFields_nil (k : String) : (ofFields []).lookup k = none := rfl

@[simp] theorem lookup_ofFields_cons (k k' : String) (v : Value) (l : List (String × Value)) :
    (ofFields ((k, v) :: l)).lookup k' = if k' = k then some v else (ofFields l).lookup k' := by
  by_cases h : k' = k
  · subst h
    simp [ofFields]
  · rw [ofFields, AList.lookup_insert_ne h, if_neg h]

/-- A merged field has the new value if there is one. -/
@[simp] theorem lookup_merge (old new : Doc) (k : String) :
    (old.merge new).lookup k = (new.lookup k).or (old.lookup k) := by
  by_cases h : k ∈ new
  · obtain ⟨v, hv⟩ := Option.isSome_iff_exists.mp (AList.lookup_isSome.mpr h)
    rw [merge, AList.lookup_union_left h, hv, Option.some_or]
  · rw [merge, AList.lookup_union_right h, AList.lookup_eq_none.mpr h, Option.none_or]

end Doc

namespace Collection

variable {c : Collection} {id id' : String} {d : Doc}

/-- Store `d` as the whole document. -/
def set (id : String) (d : Doc) (c : Collection) : Collection := c.insert id d

/-- Merge `d` into the document, which is created if it is missing. -/
def setMerge (id : String) (d : Doc) (c : Collection) : Collection :=
  c.insert id (((c.lookup id).getD ∅).merge d)

/-- Overwrite fields of an existing document; a missing one is an error. -/
def update (id : String) (d : Doc) (c : Collection) : Option Collection :=
  (c.lookup id).map fun old => c.insert id (old.merge d)

/-- Remove the document, if there is one. -/
def delete (id : String) (c : Collection) : Collection := c.erase id

/-- The documents with their ids. -/
def docs (c : Collection) : List (String × Doc) := c.entries.map fun e => (e.1, e.2)

/-- The documents whose field has the given value. -/
def whereEq (field : String) (v : Value) (c : Collection) : List (String × Doc) :=
  (c.entries.map fun e => (e.1, e.2)).filter fun e => e.2.lookup field = some v

/-- A collection after one document was put in. -/
theorem lookup_insert_eq : AList.lookup id' (c.insert id d) =
    if id' = id then some d else c.lookup id' := by
  by_cases h : id' = id
  · subst h
    simp
  · rw [AList.lookup_insert_ne h, if_neg h]

/-- `set` replaces one document. -/
theorem lookup_set : (c.set id d).lookup id' = if id' = id then some d else c.lookup id' :=
  lookup_insert_eq

/-- `set` with `merge` keeps the other fields. -/
theorem lookup_setMerge : (c.setMerge id d).lookup id' =
    if id' = id then some (((c.lookup id).getD ∅).merge d) else c.lookup id' :=
  lookup_insert_eq

theorem mem_set : id' ∈ c.set id d ↔ id' = id ∨ id' ∈ c := AList.mem_insert c

theorem mem_setMerge : id' ∈ c.setMerge id d ↔ id' = id ∨ id' ∈ c := AList.mem_insert c

theorem mem_delete : id' ∈ c.delete id ↔ id' ≠ id ∧ id' ∈ c := AList.mem_erase

/-- An update succeeds on an existing document only, and adds no document. -/
theorem update_eq_some {c' : Collection} : c.update id d = some c' ↔
    ∃ old, c.lookup id = some old ∧ c' = c.insert id (old.merge d) := by
  rw [update, Option.map_eq_some_iff]
  exact exists_congr fun _ => and_congr_right fun _ => eq_comm

/-- `update` creates no document. -/
theorem mem_update {c' : Collection} (h : c.update id d = some c') : id' ∈ c' ↔ id' ∈ c := by
  obtain ⟨old, hold, rfl⟩ := update_eq_some.mp h
  have hid : id ∈ c := AList.lookup_isSome.mp (by simp [hold])
  rw [AList.mem_insert]
  exact or_iff_right_of_imp fun he => he ▸ hid

/-- A query returns exactly the stored documents with the value. -/
theorem mem_whereEq {field : String} {v : Value} {x : String × Doc} :
    x ∈ c.whereEq field v ↔ c.lookup x.1 = some x.2 ∧ x.2.lookup field = some v := by
  obtain ⟨i, d⟩ := x
  simp only [whereEq, List.mem_filter, List.mem_map, decide_eq_true_eq, Prod.mk.injEq]
  refine and_congr_left fun _ => ⟨?_, fun h => ⟨⟨i, d⟩, AList.mem_lookup_iff.mp h, rfl, rfl⟩⟩
  rintro ⟨⟨j, e⟩, he, rfl, rfl⟩
  exact AList.mem_lookup_iff.mpr he

/-- The one document of a collection. -/
theorem whereEq_set_empty {field : String} {v : Value} (h : d.lookup field = some v) :
    ((∅ : Collection).set id d).whereEq field v = [(id, d)] := by
  have hentries : ((∅ : Collection).set id d).entries = [⟨id, d⟩] := rfl
  rw [whereEq, hentries]
  simp [h]

/-- A query returns no document twice. -/
theorem nodup_whereEq (field : String) (v : Value) (c : Collection) :
    ((c.whereEq field v).map Prod.fst).Nodup := by
  have hkeys : ((c.entries.map fun e => ((e.1, e.2) : String × Doc)).map Prod.fst).Nodup := by
    rw [List.map_map]
    exact c.keys_nodup
  exact hkeys.sublist (List.filter_sublist.map Prod.fst)

end Collection

end Firestore
