/-
Identity/Token/Context.lean

The free-form part of a token: texts under text keys.

The entries are kept in increasing order of their keys, so that two contexts
that answer every key alike are equal and are written alike.  `insert`
replaces what its key had before, and `ofList_entries` says that a context is
rebuilt from its own entries.
-/

namespace Identity.Token

/-- Keys increase along the entries. -/
def Ascending (entries : List (String × String)) : Prop :=
  entries.Pairwise fun a b => a.1 < b.1

/-- Puts an entry in its place, instead of one with the same key. -/
def insertEntry (key value : String) : List (String × String) → List (String × String)
  | [] => [(key, value)]
  | e :: es =>
    if key < e.1 then (key, value) :: e :: es
    else if e.1 < key then e :: insertEntry key value es
    else (key, value) :: es

/-- What an insertion holds is the new entry or was there before. -/
theorem mem_insertEntry {key value : String} {e : String × String} {es : List (String × String)}
    (h : e ∈ insertEntry key value es) : e = (key, value) ∨ e ∈ es := by
  induction es with
  | nil => simpa [insertEntry] using h
  | cons d ds ih =>
    rw [insertEntry] at h
    split at h
    · simpa using h
    · split at h
      · rcases List.mem_cons.mp h with h | h
        · exact .inr (h ▸ List.mem_cons_self)
        · exact (ih h).imp id (List.mem_cons_of_mem d)
      · exact (List.mem_cons.mp h).imp id (List.mem_cons_of_mem d)

/-- An insertion keeps the order. -/
theorem ascending_insertEntry (key value : String) {es : List (String × String)}
    (h : Ascending es) : Ascending (insertEntry key value es) := by
  induction es with
  | nil => exact List.pairwise_singleton _ _
  | cons d ds ih =>
    have tail := (List.pairwise_cons.mp h).2
    have head := (List.pairwise_cons.mp h).1
    rw [insertEntry]
    split
    · next below =>
      refine List.pairwise_cons.mpr ⟨fun e he => ?_, h⟩
      rcases List.mem_cons.mp he with rfl | he
      · exact below
      · exact String.lt_trans below (head e he)
    · split
      · next above =>
        refine List.pairwise_cons.mpr ⟨fun e he => ?_, ih tail⟩
        rcases mem_insertEntry he with rfl | he
        · exact above
        · exact head e he
      · next below above =>
        have same : d.1 = key :=
          String.le_antisymm (String.not_lt.mp below) (String.not_lt.mp above)
        exact List.pairwise_cons.mpr ⟨fun e he => same ▸ head e he, tail⟩

/-- Texts under text keys. -/
structure Context where
  entries : List (String × String)
  ascending : Ascending entries
  deriving DecidableEq

namespace Context

/-- The context without entries. -/
def empty : Context := ⟨[], List.Pairwise.nil⟩

/-- Sets the text under a key. -/
def insert (context : Context) (key value : String) : Context :=
  ⟨insertEntry key value context.entries, ascending_insertEntry key value context.ascending⟩

/-- The context with the given entries; the last one counts when a key is
repeated. -/
def ofList (entries : List (String × String)) : Context :=
  entries.foldl (fun context e => context.insert e.1 e.2) empty

/-- The text under a key. -/
def get? (context : Context) (key : String) : Option String := context.entries.lookup key

/-- Inserting above all keys appends. -/
theorem insertEntry_append (key value : String) (es : List (String × String))
    (h : ∀ e ∈ es, e.1 < key) : insertEntry key value es = es ++ [(key, value)] := by
  induction es with
  | nil => rfl
  | cons d ds ih =>
    have above := h d List.mem_cons_self
    have notBelow : ¬ key < d.1 := fun below =>
      String.lt_irrefl _ (String.lt_trans below above)
    rw [insertEntry, if_neg notBelow, if_pos above,
      ih fun e he => h e (List.mem_cons_of_mem d he), List.cons_append]

/-- Entries in increasing order above those of a context are appended to it. -/
theorem entries_foldl_insert (es : List (String × String)) (context : Context)
    (h : Ascending (context.entries ++ es)) :
    (es.foldl (fun context e => context.insert e.1 e.2) context).entries =
      context.entries ++ es := by
  induction es generalizing context with
  | nil => simp
  | cons d ds ih =>
    have below : ∀ e ∈ context.entries, e.1 < d.1 := fun e he =>
      (List.pairwise_append.mp h).2.2 e he d List.mem_cons_self
    have step : (context.insert d.1 d.2).entries = context.entries ++ [d] :=
      insertEntry_append d.1 d.2 context.entries below
    have split : context.entries ++ d :: ds = context.entries ++ [d] ++ ds := by simp
    rw [List.foldl_cons, ih _ (by rw [step, ← split]; exact h), step, split]

/-- A context is rebuilt from its entries. -/
theorem ofList_entries (context : Context) : ofList context.entries = context := by
  have same : (ofList context.entries).entries = context.entries :=
    entries_foldl_insert context.entries empty context.ascending
  cases h : ofList context.entries
  cases context
  simp_all

end Context

end Identity.Token
