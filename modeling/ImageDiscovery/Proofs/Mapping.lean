import ImageDiscovery.Mapping
import ImageDiscovery.Proofs.Text.Utf8
import Mathlib.Data.List.Forall2
import Mathlib.Data.List.Induction
import Mathlib.Data.List.Perm.Subperm

/-!
# Mappings — the same entries in another order

Two mappings are the same if they have the same entries, in whatever order.  Sorting by key forgets the
order and nothing else, so mappings are the same exactly when their sorted entries are equal.  Mappings
with the same keys in the same order may also have values that are alike; then they answer alike.
-/

namespace ImageDiscovery

/-! ## The order of texts -/

namespace Text

theorem le_total (s t : Text) : le s t = true ∨ le t s = true := by
  induction s generalizing t with
  | nil => exact .inl rfl
  | cons p s ih =>
    cases t with
    | nil => exact .inr rfl
    | cons q t =>
      by_cases hpq : p = q
      · rw [le, le, if_pos hpq, if_pos hpq.symm]
        exact ih t
      · have hne : p.toNat ≠ q.toNat := fun e => hpq (CodePoint.toNat_inj e)
        rw [le, le, if_neg hpq, if_neg (Ne.symm hpq), decide_eq_true_eq, decide_eq_true_eq]
        omega

theorem le_trans {s t u : Text} (hst : le s t = true) (htu : le t u = true) : le s u = true := by
  induction s generalizing t u with
  | nil => rfl
  | cons p s ih =>
    cases t with
    | nil => exact nomatch hst
    | cons q t =>
      cases u with
      | nil => exact nomatch htu
      | cons r u =>
        rw [le] at hst htu ⊢
        by_cases hpq : p = q
        · by_cases hqr : q = r
          · rw [if_pos hpq] at hst
            rw [if_pos hqr] at htu
            rw [if_pos (hpq.trans hqr)]
            exact ih hst htu
          · rw [hpq, if_neg hqr]
            rw [if_neg hqr] at htu
            exact htu
        · rw [if_neg hpq, decide_eq_true_eq] at hst
          by_cases hqr : q = r
          · rw [← hqr, if_neg hpq, decide_eq_true_eq]
            exact hst
          · rw [if_neg hqr, decide_eq_true_eq] at htu
            have hlt : p.toNat < r.toNat := Nat.lt_trans hst htu
            rw [if_neg fun e => Nat.lt_irrefl _ (e ▸ hlt), decide_eq_true_eq]
            exact hlt

theorem le_antisymm {s t : Text} (hst : le s t = true) (hts : le t s = true) : s = t := by
  induction s generalizing t with
  | nil =>
    cases t with
    | nil => rfl
    | cons q t => exact nomatch hts
  | cons p s ih =>
    cases t with
    | nil => exact nomatch hst
    | cons q t =>
      rw [le] at hst hts
      by_cases hpq : p = q
      · rw [if_pos hpq] at hst
        rw [if_pos hpq.symm] at hts
        rw [hpq, ih hst hts]
      · rw [if_neg hpq, decide_eq_true_eq] at hst
        rw [if_neg (Ne.symm hpq), decide_eq_true_eq] at hts
        omega

end Text

namespace Mapping

variable {α : Type} {m n : Mapping α}

/-! ## Entries and look-up -/

theorem toList_inj (h : m.toList = n.toList) : m = n := by
  cases m
  cases n
  cases h
  rfl

theorem put_of_not_mem {key : Text} (value : α) {entries : List (Text × α)}
    (h : key ∉ entries.map Prod.fst) : put key value entries = entries ++ [(key, value)] := by
  induction entries with
  | nil => rfl
  | cons entry rest ih =>
    rw [List.map_cons, List.mem_cons, not_or] at h
    rw [put, if_neg (Ne.symm h.1), ih h.2, List.cons_append]

theorem lookup_eq_find? (key : Text) (entries : List (Text × α)) :
    lookup key entries = (entries.find? (·.1 = key)).map Prod.snd := by
  induction entries with
  | nil => rfl
  | cons entry rest ih =>
    rw [lookup, List.find?_cons]
    by_cases h : entry.1 = key
    · simp [h]
    · simp [h, ih]

theorem mem_of_get? {key : Text} {value : α} (h : m.get? key = some value) :
    (key, value) ∈ m.toList := by
  have hlookup : ∀ entries : List (Text × α), lookup key entries = some value →
      (key, value) ∈ entries := by
    intro entries
    induction entries with
    | nil => exact nofun
    | cons entry rest ih =>
      intro h
      rw [lookup] at h
      split at h
      · rename_i hkey
        rw [← hkey, ← Option.some.inj h]
        exact List.mem_cons_self
      · exact .tail _ (ih h)
  exact hlookup _ h

theorem get?_of_mem {entry : Text × α} (h : entry ∈ m.toList) :
    m.get? entry.1 = some entry.2 := by
  have hlookup : ∀ entries : List (Text × α), (entries.map Prod.fst).Nodup → entry ∈ entries →
      lookup entry.1 entries = some entry.2 := by
    intro entries
    induction entries with
    | nil => exact fun _ => nofun
    | cons first rest ih =>
      intro hdistinct hmem
      rw [List.map_cons, List.nodup_cons] at hdistinct
      rw [lookup]
      obtain rfl | hrest := List.mem_cons.mp hmem
      · rw [if_pos rfl]
      · have hne : first.1 ≠ entry.1 := fun e => hdistinct.1 (e ▸ List.mem_map_of_mem hrest)
        rw [if_neg hne, ih hdistinct.2 hrest]
  exact hlookup _ m.distinct h

theorem nodup_toList (m : Mapping α) : m.toList.Nodup :=
  List.Pairwise.of_map Prod.fst (fun _ _ hne heq => hne (congrArg Prod.fst heq)) m.distinct

/-! ## Sameness and sorting -/

theorem same_iff_perm [DecidableEq α] : m.same n = true ↔ m.toList.Perm n.toList := by
  rw [same, Bool.and_eq_true, beq_iff_eq, List.all_eq_true]
  constructor
  · intro ⟨hsize, hall⟩
    -- each entry is one of the other mapping, and there are as many of them
    have hsubset : m.toList ⊆ n.toList := fun entry hentry =>
      mem_of_get? (of_decide_eq_true (hall entry hentry))
    exact (List.subperm_of_subset m.nodup_toList hsubset).perm_of_length_le (Nat.le_of_eq hsize.symm)
  · intro hperm
    refine ⟨hperm.length_eq, fun entry hentry => decide_eq_true ?_⟩
    exact get?_of_mem (hperm.mem_iff.mp hentry)

theorem sorted_perm (m : Mapping α) : m.sorted.Perm m.toList := List.mergeSort_perm _ _

theorem pairwise_sorted (m : Mapping α) :
    m.sorted.Pairwise fun a b => Text.le a.1 b.1 = true := by
  have htrans : ∀ a b c : Text × α, Text.le a.1 b.1 = true → Text.le b.1 c.1 = true →
      Text.le a.1 c.1 = true :=
    fun _ _ _ => Text.le_trans
  have htotal : ∀ a b : Text × α, (Text.le a.1 b.1 || Text.le b.1 a.1) = true := by
    intro a b
    rw [Bool.or_eq_true]
    exact Text.le_total a.1 b.1
  exact List.pairwise_mergeSort htrans htotal _

/-- There is one order in which the entries are sorted. -/
theorem sorted_eq {entries : List (Text × α)} (h : m.toList.Perm entries)
    (hsorted : entries.Pairwise fun a b => Text.le a.1 b.1 = true) : m.sorted = entries := by
  have hperm : m.sorted.Perm entries := m.sorted_perm.trans h
  apply hperm.eq_of_pairwise _ m.pairwise_sorted hsorted
  intro a b ha hb hab hba
  -- entries of one mapping with the same key are the same
  have hkey : a.1 = b.1 := Text.le_antisymm hab hba
  have hgeta := get?_of_mem (m.sorted_perm.mem_iff.mp ha)
  have hgetb := get?_of_mem (m.sorted_perm.mem_iff.mp (hperm.mem_iff.mpr hb))
  rw [hkey, hgetb] at hgeta
  exact Prod.ext hkey (Option.some.inj hgeta).symm

theorem sorted_eq_of_perm (h : m.toList.Perm n.toList) : m.sorted = n.sorted :=
  sorted_eq (h.trans n.sorted_perm.symm) n.pairwise_sorted

/-- Sorting forgets the order of the entries and nothing else. -/
theorem same_iff_sorted [DecidableEq α] : m.same n = true ↔ m.sorted = n.sorted := by
  rw [same_iff_perm]
  constructor
  · exact sorted_eq_of_perm
  · intro h
    have hperm : m.sorted.Perm n.toList := h ▸ n.sorted_perm
    exact m.sorted_perm.symm.trans hperm

theorem get?_of_perm (h : m.toList.Perm n.toList) (key : Text) : m.get? key = n.get? key := by
  have hget : ∀ {a b : Mapping α}, a.toList.Perm b.toList → ∀ {value}, a.get? key = some value →
      b.get? key = some value :=
    fun hperm _ hvalue => get?_of_mem (hperm.mem_iff.mp (mem_of_get? hvalue))
  apply Option.ext
  intro value
  exact ⟨hget h, hget h.symm⟩

/-! ## Entries one after another -/

theorem foldl_insert_toList {entries : List (Text × α)} (m : Mapping α)
    (h : (m.keys ++ entries.map Prod.fst).Nodup) :
    (entries.foldl (fun m (key, value) => m.insert key value) m).toList = m.toList ++ entries := by
  induction entries generalizing m with
  | nil => exact (List.append_nil _).symm
  | cons entry entries ih =>
    obtain ⟨key, value⟩ := entry
    have hkey : key ∉ m.toList.map Prod.fst := fun hmem =>
      (List.nodup_append.mp h).2.2 key hmem key List.mem_cons_self rfl
    have hinsert : (m.insert key value).toList = m.toList ++ [(key, value)] :=
      put_of_not_mem value hkey
    have hdistinct : ((m.insert key value).keys ++ entries.map Prod.fst).Nodup := by
      rw [keys, hinsert, List.map_append, List.append_assoc]
      exact h
    rw [List.foldl_cons, ih _ hdistinct, hinsert, List.append_assoc]
    rfl

/-- Entries with keys of their own are a mapping as they are. -/
theorem toList_ofList {entries : List (Text × α)} (h : (entries.map Prod.fst).Nodup) :
    (ofList entries).toList = entries :=
  foldl_insert_toList empty h

theorem ofList_toList (m : Mapping α) : ofList m.toList = m := toList_inj (toList_ofList m.distinct)

theorem ofList_append_singleton (entries : List (Text × α)) (entry : Text × α) :
    ofList (entries ++ [entry]) = (ofList entries).insert entry.1 entry.2 :=
  List.foldl_append

theorem keys_insert (m : Mapping α) (key : Text) (value : α) :
    (m.insert key value).keys = if key ∈ m.keys then m.keys else m.keys ++ [key] :=
  keys_put key value m.toList

/-- Keys that follow one another are kept where they come first. -/
theorem eraseDups_concat (keys : List Text) (key : Text) :
    (keys ++ [key]).eraseDups =
      if key ∈ keys.eraseDups then keys.eraseDups else keys.eraseDups ++ [key] := by
  rw [List.eraseDups_append]
  by_cases h : key ∈ keys
  · simp [h, List.removeAll]
  · simp [h, List.removeAll, List.eraseDups_cons]

/-- Keys stand in the order in which they came first. -/
theorem keys_ofList (entries : List (Text × α)) :
    (ofList entries).keys = (entries.map Prod.fst).eraseDups := by
  induction entries using List.reverseRecOn with
  | nil => rfl
  | append_singleton entries entry ih =>
    rw [ofList_append_singleton, keys_insert, ih, List.map_append]
    exact (eraseDups_concat _ _).symm

/-- A key has the value it came with last. -/
theorem get?_ofList_eq_lookup (entries : List (Text × α)) (key : Text) :
    (ofList entries).get? key = lookup key entries.reverse := by
  induction entries using List.reverseRecOn with
  | nil => rfl
  | append_singleton entries entry ih =>
    rw [ofList_append_singleton, get?_insert, ih, List.reverse_append]
    show _ = if entry.1 = key then some entry.2 else lookup key entries.reverse
    simp only [eq_comm]

/-- Where all entries with a key agree, the key has their value. -/
theorem get?_ofList {entries : List (Text × α)} {key : Text} {value : α}
    (hmem : (key, value) ∈ entries) (hall : ∀ entry ∈ entries, entry.1 = key → entry.2 = value) :
    (ofList entries).get? key = some value := by
  have hlookup : ∀ entries : List (Text × α), (key, value) ∈ entries →
      (∀ entry ∈ entries, entry.1 = key → entry.2 = value) → lookup key entries = some value := by
    intro entries hmem hall
    induction entries with
    | nil => exact nomatch hmem
    | cons entry entries ih =>
      rw [List.forall_mem_cons] at hall
      unfold lookup
      split
      · rename_i hkey
        exact congrArg some (hall.1 hkey)
      · rename_i hkey
        obtain hentry | hmem := List.mem_cons.mp hmem
        · exact absurd (congrArg Prod.fst hentry.symm) hkey
        · exact ih hmem hall.2
  rw [get?_ofList_eq_lookup]
  exact hlookup _ (List.mem_reverse.mpr hmem) fun entry hentry => hall entry (List.mem_reverse.mp hentry)

theorem toList_eq_filterMap (m : Mapping α) :
    m.toList = m.keys.filterMap fun key => (m.get? key).map (key, ·) := by
  have hentries : ∀ entry ∈ m.toList, (m.get? entry.1).map (entry.1, ·) = some entry := by
    intro entry hentry
    rw [get?_of_mem hentry]
    rfl
  rw [keys, List.filterMap_map]
  exact ((List.filterMap_congr hentries).trans List.filterMap_some).symm

/-- Keys in their order and what each of them has are all there is to a mapping. -/
theorem eq_of_keys_eq (hkeys : m.keys = n.keys) (hvalues : ∀ key, m.get? key = n.get? key) :
    m = n := by
  apply toList_inj
  rw [toList_eq_filterMap m, toList_eq_filterMap n, hkeys]
  simp only [hvalues]

/-- What is kept of entries: each key where it came first, with the value it came with last. -/
structure IsKept (entries : List (Text × α)) (m : Mapping α) : Prop where
  keys : m.keys = (entries.map Prod.fst).eraseDups
  values : ∀ key, m.get? key = lookup key entries.reverse

theorem ofList_eq_iff_isKept {entries : List (Text × α)} : ofList entries = m ↔ IsKept entries m := by
  constructor
  · rintro rfl
    exact ⟨keys_ofList entries, get?_ofList_eq_lookup entries⟩
  · intro h
    exact eq_of_keys_eq ((keys_ofList entries).trans h.keys.symm) fun key =>
      (get?_ofList_eq_lookup entries key).trans (h.values key).symm

/-! ## Values that are alike -/

/-- The same keys in the same order, each with values that are alike for it. -/
def Alike (alike : Text → α → α → Prop) (m n : Mapping α) : Prop :=
  List.Forall₂ (fun x y => x.1 = y.1 ∧ alike x.1 x.2 y.2) m.toList n.toList

variable {alike : Text → α → α → Prop}

theorem Alike.get? (h : m.Alike alike n) (key : Text) :
    Option.Rel (alike key) (m.get? key) (n.get? key) := by
  have hlookup : ∀ {xs ys : List (Text × α)},
      List.Forall₂ (fun x y => x.1 = y.1 ∧ alike x.1 x.2 y.2) xs ys →
        Option.Rel (alike key) (lookup key xs) (lookup key ys) := by
    intro xs ys hxs
    induction hxs with
    | nil => exact .none
    | cons hentry hrest ih =>
      rw [lookup, lookup, ← hentry.1]
      split
      · rename_i hkey
        exact .some (hkey ▸ hentry.2)
      · exact ih
  exact hlookup h

theorem Alike.get?_getD (h : m.Alike alike n) (key : Text) {a b : α} (hab : alike key a b) :
    alike key ((m.get? key).getD a) ((n.get? key).getD b) := by
  have hrel := h.get? key
  generalize m.get? key = x, n.get? key = y at hrel
  cases hrel with
  | some hxy => exact hxy
  | none => exact hab

/-- What does not tell alike values apart makes the same of both mappings. -/
theorem Alike.map_eq {β : Type} (h : m.Alike alike n) {f : Text × α → β}
    (hf : ∀ key a b, alike key a b → f (key, a) = f (key, b)) : m.toList.map f = n.toList.map f := by
  rw [← List.forall₂_eq_eq_eq, List.forall₂_map_left_iff, List.forall₂_map_right_iff]
  refine List.Forall₂.imp (fun x y hentry => ?_) h
  obtain ⟨key, a⟩ := x
  obtain ⟨key', b⟩ := y
  obtain ⟨rfl, hvalue⟩ := hentry
  exact hf key a b hvalue

end Mapping

end ImageDiscovery
