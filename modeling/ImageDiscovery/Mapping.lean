import ImageDiscovery.Text.Basic

/-!
# Mapping — tables keyed by text, in order of insertion

Labels, alias tables and header tables keep the order in which their keys first came.  A `Mapping`
is that list of entries together with the fact that no key comes twice, so `toList` is its view and
`get?` its meaning: two mappings with the same entries in another order answer alike.
-/

namespace ImageDiscovery

/-- Entries in order of insertion, with distinct keys. -/
structure Mapping (α : Type) where
  toList : List (Text × α)
  distinct : (toList.map Prod.fst).Nodup := by simp
deriving DecidableEq

namespace Mapping

variable {α β : Type}

def empty : Mapping α where
  toList := []

instance : EmptyCollection (Mapping α) := ⟨empty⟩

instance : Inhabited (Mapping α) := ⟨empty⟩

def keys (m : Mapping α) : List Text := m.toList.map Prod.fst

def size (m : Mapping α) : Nat := m.toList.length

def isEmpty (m : Mapping α) : Bool := m.toList.isEmpty

/-- The value of the first entry with a key. -/
def lookup (key : Text) : List (Text × α) → Option α
  | [] => none
  | (k, v) :: rest => if k = key then some v else lookup key rest

def get? (m : Mapping α) (key : Text) : Option α := lookup key m.toList

def contains (m : Mapping α) (key : Text) : Bool := (m.get? key).isSome

/-- Gives the first entry with a key a new value, or adds an entry at the end. -/
def put (key : Text) (value : α) : List (Text × α) → List (Text × α)
  | [] => [(key, value)]
  | (k, v) :: rest => if k = key then (k, value) :: rest else (k, v) :: put key value rest

theorem keys_put (key : Text) (value : α) (entries : List (Text × α)) :
    (put key value entries).map Prod.fst =
      if key ∈ entries.map Prod.fst then entries.map Prod.fst
      else entries.map Prod.fst ++ [key] := by
  induction entries with
  | nil => simp [put]
  | cons e rest ih =>
    obtain ⟨k, v⟩ := e
    by_cases h : k = key
    · simp [put, h]
    · have h' : key ≠ k := fun e => h e.symm
      simp only [put, if_neg h, List.map_cons, ih, List.mem_cons, h', false_or]
      split <;> simp

theorem distinct_put {entries : List (Text × α)} (key : Text) (value : α)
    (h : (entries.map Prod.fst).Nodup) : ((put key value entries).map Prod.fst).Nodup := by
  rw [keys_put]
  split
  · exact h
  · rename_i hk
    refine List.nodup_append.2 ⟨h, by simp, ?_⟩
    rintro a ha b hb rfl
    exact hk (List.mem_singleton.1 hb ▸ ha)

/-- A key takes a value: in place if the key is there, as the last entry if not. -/
def insert (m : Mapping α) (key : Text) (value : α) : Mapping α where
  toList := put key value m.toList
  distinct := distinct_put key value m.distinct

def insertNew (m : Mapping α) (key : Text) (value : α) : Mapping α :=
  if m.contains key then m else m.insert key value

/-- Entries one after another; a key that comes again keeps its place and takes the new value. -/
def ofList (entries : List (Text × α)) : Mapping α :=
  entries.foldl (fun m (key, value) => m.insert key value) empty

def map (f : α → β) (m : Mapping α) : Mapping β where
  toList := m.toList.map fun (key, value) => (key, f value)
  distinct := by simpa [Function.comp_def] using m.distinct

def sorted (m : Mapping α) : List (Text × α) := m.toList.mergeSort fun a b => Text.le a.1 b.1

def same [DecidableEq α] (m n : Mapping α) : Bool :=
  m.size == n.size && m.toList.all fun (key, value) => n.get? key = some value

/-! ## Look-up after insertion -/

theorem lookup_put (key other : Text) (value : α) (entries : List (Text × α)) :
    lookup other (put key value entries) =
      if other = key then some value else lookup other entries := by
  induction entries with
  | nil => grind [put, lookup]
  | cons e rest ih => grind [put, lookup]

@[simp] theorem get?_empty (key : Text) : (empty : Mapping α).get? key = none := rfl

theorem get?_insert (m : Mapping α) (key other : Text) (value : α) :
    (m.insert key value).get? other = if other = key then some value else m.get? other :=
  lookup_put key other value m.toList

theorem get?_insertNew (m : Mapping α) (key other : Text) (value : α) :
    (m.insertNew key value).get? other =
      if other = key then some ((m.get? key).getD value) else m.get? other := by
  unfold insertNew contains
  split <;> rename_i h
  · obtain ⟨v, hv⟩ := Option.isSome_iff_exists.1 h
    split <;> simp_all
  · simp only [get?_insert]
    split <;> simp_all

theorem lookup_eq_none_iff {key : Text} {entries : List (Text × α)} :
    lookup key entries = none ↔ key ∉ entries.map Prod.fst := by
  induction entries with
  | nil => simp [lookup]
  | cons e rest ih => grind [lookup]

theorem contains_iff {m : Mapping α} {key : Text} : m.contains key = true ↔ key ∈ m.keys := by
  have : lookup key m.toList = none ↔ key ∉ m.toList.map Prod.fst := lookup_eq_none_iff
  unfold contains get? keys
  cases h : lookup key m.toList <;> simp_all

end Mapping

end ImageDiscovery
