import ImageDiscovery.Proofs.Tag.Merge

/-!
# In place — merging a tag where tables are changed in their places

Labels and tag data may be tables that others hold as well and that are changed in their places.  Merging
copies the labels first and changes nothing but the copy.  So whether it succeeds or fails, each table
that was there is as it was, and what comes out is what merging gives for the entries of the tables.
-/

namespace ImageDiscovery

namespace InPlace

variable {α β : Type}

/-- A table of texts, or of the places of such tables. -/
inductive Table where
  | texts (entries : Mapping Text)
  | places (entries : Mapping Nat)

/-- Tables by their places; a new one takes the next place. -/
abbrev Store := List Table

def Store.textsAt (store : Store) (place : Nat) : Mapping Text :=
  match store[place]? with
  | some (.texts entries) => entries
  | _ => {}

def Store.placesAt (store : Store) (place : Nat) : Mapping Nat :=
  match store[place]? with
  | some (.places entries) => entries
  | _ => {}

/-- Steps that may fail; what was done to the store before that stays done. -/
abbrev Steps (α : Type) := ExceptT TagProblem (StateM Store) α

def Steps.outcome (steps : Steps α) (store : Store) : Except TagProblem α × Store :=
  (ExceptT.run steps).run store

/-- A new table with the entries of another one. -/
def copy (place : Nat) : Steps Nat :=
  modifyGet fun store : Store => (store.length, store ++ [.texts (store.textsAt place)])

/-- Puts other entries in the place of a table. -/
def write (place : Nat) (entries : Mapping Text) : Steps Unit :=
  modify fun store => store.set place (.texts entries)

/-- Adds entries to a table one by one, unless their keys are there. -/
def fill (place : Nat) : List (Text × Text) → Steps Unit
  | [] => return
  | (key, value) :: rest => do
    let store ← get
    write place ((store.textsAt place).insertNew key value)
    fill place rest

/-- The places of the two tables of tag data. -/
structure StoredTags where
  aliases : Nat
  labels : Nat

/-- A copy of the labels where the aliases of a tag end, if there are any. -/
def resolve (data : StoredTags) (tag : Text) : Steps (Option Nat) := do
  let store ← get
  let aliases := store.textsAt data.aliases
  match TagData.follow aliases [tag] tag (aliases.size + 1) with
  | .circles chain => throw (.circular tag chain)
  | .ends last =>
    match (store.placesAt data.labels).get? last with
    | none => return none
    | some found =>
      let found ← copy found
      return some found

/-- Merges a tag into a copy of labels. -/
def mergeTag (labels : Nat) (data : Option StoredTags) (tag : Option Text) : Steps Nat := do
  let merged ← copy labels
  match tag.filter (!·.isEmpty) with
  | none => return merged
  | some tag =>
    match data with
    | none =>
      let store ← get
      match (store.textsAt merged).get? versionLabel with
      | some version => throw (.versionTaken tag version)
      | none =>
        write merged ((store.textsAt merged).insert versionLabel tag)
        return merged
    | some data =>
      match ← resolve data tag with
      | none => return merged
      | some found =>
        let store ← get
        fill merged (store.textsAt found).toList
        return merged

/-! ## Steps -/

theorem outcome_get (store : Store) :
    (get : Steps Store).outcome store = (.ok store, store) := rfl

theorem outcome_copy (place : Nat) (store : Store) :
    (copy place).outcome store =
      (.ok store.length, store ++ [.texts (store.textsAt place)]) := rfl

theorem outcome_write (place : Nat) (entries : Mapping Text) (store : Store) :
    (write place entries).outcome store = (.ok (), store.set place (.texts entries)) := rfl

theorem outcome_bind (steps : Steps α) (next : α → Steps β) (store : Store) :
    (steps >>= next).outcome store =
      match steps.outcome store with
      | (.ok a, after) => (next a).outcome after
      | (.error problem, after) => (.error problem, after) := by
  unfold Steps.outcome ExceptT.run StateT.run
  simp only [bind, ExceptT.bind, ExceptT.mk, StateT.bind, ExceptT.bindCont]
  cases steps store with
  | mk result after => cases result <;> rfl

/-! ## Tables that stay -/

theorem textsAt_append {store : Store} {place : Nat} {entries : Mapping Text}
    (h : store[place]? = some (.texts entries)) (added : Store) :
    (store ++ added).textsAt place = entries := by
  have ⟨hlt, _⟩ := List.getElem?_eq_some_iff.mp h
  rw [Store.textsAt, List.getElem?_append_left hlt, h]

theorem placesAt_append {store : Store} {place : Nat} {entries : Mapping Nat}
    (h : store[place]? = some (.places entries)) (added : Store) :
    (store ++ added).placesAt place = entries := by
  have ⟨hlt, _⟩ := List.getElem?_eq_some_iff.mp h
  rw [Store.placesAt, List.getElem?_append_left hlt, h]

/-- The table behind those that were there. -/
theorem textsAt_length (store : Store) (entries : Mapping Text) (added : Store) :
    Store.textsAt (store ++ .texts entries :: added) store.length = entries := by
  simp [Store.textsAt]

/-- Filling changes one table, by all the entries. -/
theorem outcome_fill (store : Store) (labels : Mapping Text) (added : Store)
    (entries : List (Text × Text)) :
    (fill store.length entries).outcome (store ++ .texts labels :: added) =
      (.ok (), store ++ .texts (labels.addNew entries) :: added) := by
  induction entries generalizing labels with
  | nil => rfl
  | cons entry rest ih =>
    have hset : ∀ next : Mapping Text,
        (store ++ .texts labels :: added).set store.length (.texts next) =
          store ++ .texts next :: added := by simp
    rw [fill, outcome_bind, outcome_get]
    show (write _ _ >>= fun _ => fill _ rest).outcome _ = _
    rw [outcome_bind, outcome_write, textsAt_length, hset]
    exact ih _

/-- Tag data is in the tables of a store. -/
structure Holds (store : Store) (stored : StoredTags) (data : TagData) : Prop where
  aliases : store[stored.aliases]? = some (.texts data.aliases)
  labels : ∃ sets, store[stored.labels]? = some (.places sets) ∧ ∀ tag,
    Option.Rel (fun place labels => store[place]? = some (.texts labels)) (sets.get? tag)
      (data.labels.get? tag)

theorem outcome_resolve {store : Store} {stored : StoredTags} {data : TagData}
    (h : Holds store stored data) (tag : Text) (added : Store) :
    (resolve stored tag).outcome (store ++ added) =
      match data.resolve tag with
      | .error chain => (.error (.circular tag chain), store ++ added)
      | .ok none => (.ok none, store ++ added)
      | .ok (some found) =>
        (.ok (some (store ++ added).length), store ++ added ++ [.texts found]) := by
  have ⟨sets, hsets, hrel⟩ := h.labels
  rw [resolve, outcome_bind, outcome_get]
  show Steps.outcome (match TagData.follow _ _ _ _ with | .circles chain => _ | .ends last => _) _ = _
  rw [textsAt_append h.aliases, placesAt_append hsets, TagData.resolve, TagData.route]
  cases TagData.follow data.aliases [tag] tag (data.aliases.size + 1) with
  | circles chain => rfl
  | ends last =>
    have hlast := hrel last
    dsimp only
    generalize sets.get? last = place, data.labels.get? last = found at hlast
    cases hlast with
    | none => rfl
    | some hplace =>
      dsimp only
      rw [outcome_bind, outcome_copy, textsAt_append hplace]
      rfl

/-- Merging leaves each table that was there as it was.  If it succeeds, the result is a new table with
    the entries that are merged; if it fails, it is for the same reason. -/
theorem outcome_mergeTag {store : Store} {place : Nat} {labels : Mapping Text}
    {stored : Option StoredTags} {data : Option TagData}
    (hlabels : store[place]? = some (.texts labels)) (hdata : Option.Rel (Holds store) stored data)
    (tag : Option Text) :
    ∃ added, (mergeTag place stored tag).outcome store =
      match ImageDiscovery.mergeTag labels data tag with
      | .ok merged => (.ok store.length, store ++ .texts merged :: added)
      | .error problem => (.error problem, store ++ added) := by
  have hcopy : (copy place).outcome store = (.ok store.length, store ++ [.texts labels]) := by
    have hread : store.textsAt place = labels := by rw [Store.textsAt, hlabels]
    rw [outcome_copy, hread]
  have hset : ∀ merged : Mapping Text,
      (store ++ [Table.texts labels]).set store.length (.texts merged) =
        store ++ [Table.texts merged] := by simp
  rw [mergeTag, outcome_bind, hcopy, ImageDiscovery.mergeTag]
  dsimp only
  cases tag.filter (!·.isEmpty) with
  | none => exact ⟨[], rfl⟩
  | some tag =>
    cases hdata with
    | none =>
      dsimp only
      rw [outcome_bind, outcome_get]
      dsimp only
      rw [textsAt_length]
      cases labels.get? versionLabel with
      | some version => exact ⟨[Table.texts labels], rfl⟩
      | none =>
        dsimp only
        rw [outcome_bind, outcome_write, hset]
        exact ⟨[], rfl⟩
    | some hholds =>
      rename_i stored data
      dsimp only
      rw [outcome_bind, outcome_resolve hholds]
      cases data.resolve tag with
      | error chain => exact ⟨[Table.texts labels], rfl⟩
      | ok found =>
        cases found with
        | none => exact ⟨[], rfl⟩
        | some found =>
          dsimp only
          rw [outcome_bind, outcome_get]
          dsimp only
          -- the copy of what was found is behind the copy of the labels, which is filled from it
          have hfound := textsAt_length (store ++ [Table.texts labels]) found []
          rw [hfound, List.append_assoc, List.singleton_append, outcome_bind, outcome_fill]
          exact ⟨[Table.texts found], rfl⟩

end InPlace

end ImageDiscovery
